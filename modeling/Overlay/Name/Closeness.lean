/-
# Overlay.Name.Closeness — how near two names are to a third

The distance of two names is the exclusive or of their octets.  Distances compare
lexicographically, which is their order as big-endian numbers.  `closer` decides
which of two names is nearer to a target without building either distance: it looks
for the first octet at which they differ from the target differently.

`sortByCloseness` puts the nearest first, and `closest` keeps the first few of any
values that have names.  Both sorts are stable, so values of one name keep their
order.
-/
import Overlay.Name

namespace Overlay.Name

set_option autoImplicit false

/-- The distance of two names. -/
def distance (name target : Name) : Octets := Octets.xor name.octets target.octets

@[simp] theorem length_distance (name target : Name) : (distance name target).length = 64 := by
  simp [distance]

/-- Is the first of two strings nearer to the third, octet by octet? -/
def closerOctets : Octets → Octets → Octets → Bool
  | a :: as, b :: bs, t :: ts =>
    if a ^^^ t ≠ b ^^^ t then a ^^^ t < b ^^^ t else closerOctets as bs ts
  | _, _, _ => false

/-- Is the first of two names nearer to the target than the second? -/
def closer (a b target : Name) : Bool := closerOctets a.octets b.octets target.octets

/-- Is the first of two names at least as near to the target as the second? -/
def noFarther (target a b : Name) : Bool := a.distance target ≤ b.distance target

/-- The names, nearest to the target first. -/
def sortByCloseness (names : List Name) (target : Name) : List Name :=
  names.mergeSort (noFarther target)

/-- The `count` values whose names are nearest to the target, nearest first; none for a negative
count. -/
def closest {α : Type} (nameOf : α → Name) (values : List α) (target : Name) (count : Int) :
    List α :=
  (values.mergeSort fun a b => noFarther target (nameOf a) (nameOf b)).take count.toNat

end Overlay.Name
