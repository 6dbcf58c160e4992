/-
# Overlay.Environment.Quotation — texts in quotation marks

A text may stand between two marks of one kind.  A backslash takes the character
after it along, so a mark behind it never ends the text, but one behind two
backslashes does.  Inside, a backslash and the character after it may stand for one
other character.  Between single marks that is so for the backslash and the mark
alone, and between double marks for seven controls as well; elsewhere a backslash is
a backslash.
-/

namespace Overlay.Environment

set_option autoImplicit false

/-- The two kinds of quotation mark. -/
inductive Mark where
  | single
  | double
  deriving DecidableEq, Repr

namespace Mark

/-- The mark itself. -/
def char : Mark → Char
  | .single => '\''
  | .double => '"'

/-- The mark that a character is, if it is one. -/
def ofChar? (c : Char) : Option Mark :=
  if c = Mark.single.char then some .single
  else if c = Mark.double.char then some .double
  else none

/-- What a character stands for after a backslash, if for anything else than itself. -/
def escaped? : Mark → Char → Option Char
  | _, '\\' => some '\\'
  | .single, c => if c = '\'' then some c else none
  | .double, '\'' => some '\''
  | .double, '"' => some '"'
  | .double, 'a' => some (Char.ofNat 0x07)
  | .double, 'b' => some (Char.ofNat 0x08)
  | .double, 't' => some '\t'
  | .double, 'n' => some '\n'
  | .double, 'v' => some (Char.ofNat 0x0B)
  | .double, 'f' => some (Char.ofNat 0x0C)
  | .double, 'r' => some '\r'
  | .double, _ => none

/-- The text up to the mark that ends it, and what follows that mark. -/
def upTo? (mark : Mark) : List Char → Option (List Char × List Char)
  | [] => none
  | '\\' :: c :: rest => (upTo? mark rest).map fun (text, after) => ('\\' :: c :: text, after)
  | c :: rest =>
    if c = mark.char then some ([], rest)
    else (upTo? mark rest).map fun (text, after) => (c :: text, after)

/-- A text with every backslash that stands for something replaced by that. -/
def unescape (mark : Mark) : List Char → List Char
  | [] => []
  | '\\' :: c :: rest =>
    match mark.escaped? c with
    | some meant => meant :: unescape mark rest
    | none => '\\' :: unescape mark (c :: rest)
  | c :: rest => c :: unescape mark rest

end Mark

end Overlay.Environment
