/-
# Overlay.Node.Files — text files below the working directory

A file is known by the parts of its path from the working directory.  A path is
followed part by part (`Files.reach`): every part but the last must lead to a
directory, two points lead back, and what lies above the working directory or at the
root of the host leads to no file.  Parts that are empty or a single point do not
count.  The host refuses parts and paths that are too long.
-/
import Overlay.Fault

namespace Overlay

set_option autoImplicit false

/-- A path from the root of the host or from the working directory. -/
structure Path where
  fromRoot : Bool
  parts : List String
  deriving DecidableEq, Repr

namespace Path

/-- The path that a text writes, without the parts that do not count. -/
def ofText (text : String) : Path :=
  ⟨text.startsWith "/", (text.splitOn "/").filter fun part => part ≠ "" && part ≠ "."⟩

/-- A path continued by more parts. -/
def append (path : Path) (parts : List String) : Path := ⟨path.fromRoot, path.parts ++ parts⟩

/-- The octets that a path takes, each part with what separates or ends it. -/
def size (path : Path) : Nat :=
  path.parts.foldl (fun size part => size + part.utf8ByteSize + 1) (if path.fromRoot then 1 else 0)

/-- The greatest length of one part, in octets. -/
def maxPart : Nat := 255

/-- The greatest length of a path, in octets. -/
def maxSize : Nat := 4096

end Path

/-- Text files by their parts, the latest first. -/
structure Files where
  entries : List (List String × String) := []
  deriving Inhabited

namespace Files

/-- Is there a file below these parts? -/
def hasBelow (files : Files) (parts : List String) : Bool :=
  files.entries.any fun entry => parts.isPrefixOf entry.1 && parts.length < entry.1.length

/-- Where further parts lead from a directory, which is given by its parts from the last to the first;
nowhere, if they leave the working directory or a part on the way is no directory. -/
def reach (files : Files) : List String → List String → Except Fault (Option (List String))
  | here, [] => .ok (some here.reverse)
  | here, part :: rest =>
    if Path.maxPart < part.utf8ByteSize then .error .denied
    else if part = ".." then
      match here with
      | [] => .ok none
      | _ :: above => files.reach above rest
    else
      let next := part :: here
      if rest.isEmpty || files.hasBelow next.reverse then files.reach next rest else .ok none

/-- The parts of the file that a path leads to. -/
def locate (files : Files) (path : Path) : Except Fault (Option (List String)) :=
  if path.parts.any fun part => part.contains '\x00' then .ok none
  else if Path.maxSize < path.size then .error .denied
  else if path.fromRoot then
    match path.parts with
    | part :: _ => if Path.maxPart < part.utf8ByteSize then .error .denied else .ok none
    | [] => .ok none
  else files.reach [] path.parts

/-- The text of the file at a path, if there is one. -/
def read? (files : Files) (path : Path) : Except Fault (Option String) := do
  return (← files.locate path).bind (List.lookup · files.entries)

/-- The files with a text written to a path below the working directory. -/
def write (files : Files) (path : Path) (text : String) : Files :=
  if path.fromRoot || path.parts.contains ".." then files
  else ⟨(path.parts, text) :: files.entries.filter (·.1 != path.parts)⟩

end Files

end Overlay
