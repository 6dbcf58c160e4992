/-
# Overlay.Datum.Depth — how deep a value is nested

Showing, comparing and logging a value go down to its innermost item, and are refused
where that is deeper than `maxDepth`.
-/
import Overlay.Datum.Equality
import Overlay.Fault

namespace Overlay.Datum

set_option autoImplicit false

mutual

/-- The number of values, one inside the other, around the innermost. -/
def depth : Datum → Nat
  | .list items | .tuple items => depths items + 1
  | .mapping entries => entryDepths entries + 1
  | .draftTable name owner _ => max name.depth owner.depth + 1
  | .draftCoin name owners previous _ => max name.depth (max (depths owners) (depths previous)) + 1
  | .draftKey tags _ _ => tags.depth + 1
  | .unknown tag => tag.depth + 1
  | _ => 0

/-- The greatest depth in a list. -/
def depths : List Datum → Nat
  | [] => 0
  | datum :: rest => max datum.depth (depths rest)

/-- The greatest depth in the entries of a map. -/
def entryDepths : List (Datum × Datum) → Nat
  | [] => 0
  | (key, value) :: rest => max (max key.depth value.depth) (entryDepths rest)

end

/-- The greatest depth of a value that is followed to its innermost item. -/
def maxDepth : Nat := 985

/-- The value, if it is not nested too deep. -/
def followed (datum : Datum) : Except Fault Datum :=
  if maxDepth < datum.depth then .error .tooDeep else .ok datum

/-- Are two values the same?  How deep one of them is nested does not matter if the other is not nested
too deep. -/
def sameFollowed (a b : Datum) : Except Fault Bool :=
  if maxDepth < min a.depth b.depth then .error .tooDeep else .ok (a.same b)

end Overlay.Datum
