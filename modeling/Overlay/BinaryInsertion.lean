/-
# Overlay.BinaryInsertion — sorting by insertion at a place that halving finds

The run at the front of a list that ascends, or strictly descends and is turned
around, is taken as sorted, and every further item is inserted where halving the
sorted part finds a place for it, behind those that are not above it.  For an order
of all items this is a stable sort like any other.  Where some items cannot be
compared the result depends on the way it is found, and it is this way that decides.
-/

namespace Overlay.BinaryInsertion

set_option autoImplicit false

/-- The place between `low` and `high` where an item goes. -/
def place {α : Type} (below : α → α → Bool) (sorted : List α) (item : α) (low high : Nat) : Nat :=
  if low < high then
    let middle := (low + high) / 2
    if sorted[middle]?.any (below item) then place below sorted item low middle
    else place below sorted item (middle + 1) high
  else low
termination_by high - low

/-- A sorted list with one more item. -/
def insert {α : Type} (below : α → α → Bool) (sorted : List α) (item : α) : List α :=
  sorted.insertIdx (place below sorted item 0 sorted.length) item

/-- The items, after a first one, of which each goes on from the one before, and the others. -/
def run {α : Type} (goesOn : α → α → Bool) : α → List α → List α × List α
  | _, [] => ([], [])
  | last, item :: rest =>
    if goesOn last item then
      let (more, others) := run goesOn item rest
      (item :: more, others)
    else ([], item :: rest)

/-- The items in order. -/
def sort {α : Type} (below : α → α → Bool) : List α → List α
  | [] => []
  | first :: rest =>
    let descends := rest.head?.any (below · first)
    let (more, others) := run (fun last item => below item last == descends) first rest
    let front := if descends then (first :: more).reverse else first :: more
    others.foldl (insert below) front

end Overlay.BinaryInsertion
