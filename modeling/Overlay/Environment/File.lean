/-
# Overlay.Environment.File — files that set variables

A file is a list of statements, one a line: `NAME=text`, with white space allowed
around both and the word `export` before the name.  A name may stand in single
quotation marks.  A text in quotation marks of either kind may go on over several
lines; any other ends before white space that is followed by `#`, or with the line.
After a quoted text and after a bare name only a comment may follow.  Lines that are
blank or a comment say nothing, and of a statement that breaks these rules the rest
of the line is passed over where it does.

Of several statements with one name the first gives the place and the last the text;
a bare name has no text, and takes back what a statement before it set.  A text may
refer to variables that are set, and else to those of statements before it.
-/
import Overlay.Environment
import Overlay.Environment.Quotation
import Overlay.Environment.Reference
import Overlay.Text.Blank

namespace Overlay.Environment.File

set_option autoImplicit false

open Overlay.Text (isBlank trim)

/-- What one statement says of a variable; a bare name has no text. -/
abbrev Binding := String × Option String

/-! ## Lines -/

/-- A text whose lines all end with a line feed alone. -/
def withLineFeeds : List Char → List Char
  | '\r' :: '\n' :: rest => '\n' :: withLineFeeds rest
  | '\r' :: rest => '\n' :: withLineFeeds rest
  | c :: rest => c :: withLineFeeds rest
  | [] => []

/-- A text without the mark that may stand at its front to tell its encoding. -/
def withoutMark : List Char → List Char
  | c :: rest => if c.toNat = 0xFEFF then rest else c :: rest
  | [] => []

/-- White space that does not end a line. -/
def isGap (c : Char) : Bool := isBlank c && c != '\n'

/-- The rest of the line. -/
def line (text : List Char) : List Char := text.takeWhile (· != '\n')

/-- What follows the line. -/
def afterLine (text : List Char) : List Char := (text.dropWhile (· != '\n')).drop 1

/-! ## Statements -/

/-- Reading a part of a statement gives the part and what follows, or the place where the rules are
broken. -/
abbrev Reading (α : Type) := Except (List Char) (α × List Char)

/-- The characters before the first white space that is followed by `#`. -/
def beforeComment : List Char → List Char
  | [] => []
  | c :: rest =>
    if isBlank c && (rest.dropWhile isBlank).head? == some '#' then []
    else c :: beforeComment rest

/-- A name that is written as it is. -/
def isNameChar (c : Char) : Bool := c != '=' && c != '#' && !isBlank c

/-- The name at the front; a comment has none. -/
def readName (text : List Char) : Reading (Option String) :=
  match text with
  | '#' :: _ => .ok (none, text)
  | '\'' :: quoted =>
    let name := quoted.takeWhile (· != '\'')
    match quoted.dropWhile (· != '\'') with
    | _ :: after => if name.isEmpty then .error text else .ok (some (String.ofList name), after)
    | [] => .error text
  | _ =>
    let name := text.takeWhile isNameChar
    if name.isEmpty then .error text
    else .ok (some (String.ofList name), text.dropWhile isNameChar)

/-- The text of a variable, after the equals sign. -/
def readText (text : List Char) : Reading String :=
  let plain : Reading String :=
    .ok (String.ofList (trim isBlank (beforeComment (line text))), text.dropWhile (· != '\n'))
  match text.dropWhile isGap with
  | c :: quoted =>
    match Mark.ofChar? c with
    | some mark =>
      match mark.upTo? quoted with
      | some (content, after) => .ok (String.ofList (mark.unescape content), after)
      | none => .error (c :: quoted)
    | none => plain
  | [] => plain

/-- The end of a line, before which a comment may stand. -/
def readEnd (text : List Char) : Reading Unit :=
  match text.dropWhile isGap with
  | [] => .ok ((), [])
  | '\n' :: rest => .ok ((), rest)
  | '#' :: rest => .ok ((), afterLine rest)
  | _ => .error text

/-- What stands after the word `export` and the white space that follows it, if the word is there. -/
def afterExport (text : List Char) : List Char :=
  match text with
  | 'e' :: 'x' :: 'p' :: 'o' :: 'r' :: 't' :: c :: rest =>
    if isGap c then rest.dropWhile isGap else text
  | _ => text

/-- The statement at the front. -/
def readStatement (text : List Char) : Except (List Char) (Option Binding × List Char) := do
  let (name, rest) ← readName (afterExport text)
  let (content, rest) ← match rest.dropWhile isGap with
    | '=' :: after => (readText after).map fun (content, rest) => (some content, rest)
    | rest => .ok (none, rest)
  let (_, rest) ← readEnd rest
  return (name.map (·, content), rest)

/-- What at most so many statements say.  Each takes a character at least. -/
def bindingsWithin : Nat → List Char → List Binding
  | 0, _ => []
  | count + 1, text =>
    match text.dropWhile isBlank with
    | [] => []
    | text =>
      match readStatement text with
      | .ok (binding, rest) => binding.toList ++ bindingsWithin count rest
      | .error rest => bindingsWithin count (afterLine rest)

/-- What the statements of a file say, in order. -/
def bindings (text : String) : List Binding :=
  let text := withLineFeeds (withoutMark text.toList)
  bindingsWithin text.length text

/-! ## Variables -/

/-- Bindings with one more; where the name is bound already, its place is kept. -/
def bind (known : List Binding) (binding : Binding) : List Binding :=
  if known.any (·.1 == binding.1) then
    known.map fun old => if old.1 == binding.1 then binding else old
  else known ++ [binding]

/-- The text that a reference to a variable finds. -/
def textOf? (environment : Environment) (known : List Binding) (name : String) : Option String :=
  match environment.get? name with
  | some text => some text
  | none => (known.lookup name).map (·.getD "")

/-- Bindings with one more, in whose text references have been replaced. -/
def bindExpanded (environment : Environment) (known : List Binding) (binding : Binding) :
    List Binding :=
  bind known (binding.1, binding.2.map fun text =>
    String.ofList (expand (textOf? environment known) text.toList))

/-- The variables that a file has texts for, given those that are set. -/
def assignments (environment : Environment) (text : String) : List (String × String) :=
  ((bindings text).foldl (bindExpanded environment) []).filterMap fun (name, text) =>
    text.map (name, ·)

end Overlay.Environment.File
