/-
# Overlay.Text.Utf8 — where octets stop being UTF-8

A character is one to four octets.  The first says how many follow and in which range
each of them lies (`followers?`); most ranges are the same, and the narrower ones keep
out longer forms than needed, surrogates, and what lies beyond the last character.

Octets that are no text have a first place where this breaks (`fault?`): an octet that
starts no character, one outside the range of its place, or the end of the octets
inside a character.  A fault concerns the octets of the character up to that place.
-/
import Overlay.Octets.Hex

namespace Overlay.Text

set_option autoImplicit false

/-- Why octets are no text. -/
inductive Utf8Reason where
  | start
  | continuation
  | ended
  deriving DecidableEq, Repr

/-- The words for a reason. -/
def Utf8Reason.text : Utf8Reason → String
  | .start => "invalid start byte"
  | .continuation => "invalid continuation byte"
  | .ended => "unexpected end of data"

/-- A first place where octets are no text: the octet there, where it stands, and how many octets are
concerned. -/
structure Utf8Fault where
  octet : UInt8
  position : Nat
  size : Nat
  reason : Utf8Reason
  deriving DecidableEq, Repr

namespace Utf8

/-- The range of most octets that follow the first of a character. -/
def following : UInt8 × UInt8 := (0x80, 0xBF)

/-- The ranges of the octets that follow the first of a character. -/
def followers? (first : UInt8) : Option (List (UInt8 × UInt8)) :=
  if first < 0x80 then some []
  else if first < 0xC2 then none
  else if first < 0xE0 then some [following]
  else if first = 0xE0 then some [(0xA0, 0xBF), following]
  else if first = 0xED then some [(0x80, 0x9F), following]
  else if first < 0xF0 then some [following, following]
  else if first = 0xF0 then some [(0x90, 0xBF), following, following]
  else if first < 0xF4 then some [following, following, following]
  else if first = 0xF4 then some [(0x80, 0x8F), following, following]
  else none

/-- Why octets do not lie in the ranges, one each, and how many octets of the character were sound
before that; `sound` of them were so far. -/
def breach? (sound : Nat) : List (UInt8 × UInt8) → Octets → Option (Utf8Reason × Nat)
  | [], _ => none
  | _ :: _, [] => some (.ended, sound)
  | (least, greatest) :: ranges, octet :: rest =>
    if least ≤ octet && octet ≤ greatest then breach? (sound + 1) ranges rest
    else some (.continuation, sound)

/-- The first fault in octets that start at a position, the first `passed` of which belong to a sound
character. -/
def faultFrom? (position passed : Nat) : Octets → Option Utf8Fault
  | [] => none
  | octet :: rest =>
    match passed with
    | passed + 1 => faultFrom? (position + 1) passed rest
    | 0 =>
      match followers? octet with
      | none => some ⟨octet, position, 1, .start⟩
      | some ranges =>
        match breach? 1 ranges rest with
        | some (reason, size) => some ⟨octet, position, size, reason⟩
        | none => faultFrom? (position + 1) ranges.length rest

/-- The first fault in octets. -/
def fault? (octets : Octets) : Option Utf8Fault := faultFrom? 0 0 octets

end Utf8

/-- The text of a fault: a single octet is shown, several by their positions. -/
def Utf8Fault.text (fault : Utf8Fault) : String :=
  let place :=
    if fault.size = 1 then
      "byte 0x" ++ Octets.toHex [fault.octet] ++ " in position " ++ toString fault.position
    else
      "bytes in position " ++ toString fault.position ++ "-" ++
        toString (fault.position + fault.size - 1)
  "'utf-8' codec can't decode " ++ place ++ ": " ++ fault.reason.text

end Overlay.Text
