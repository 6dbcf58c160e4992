/-
# Overlay.Octets — strings of octets, and how one is cut

Everything that travels, is hashed or is signed is a list of octets.  The one
operation a reader of such a list needs is a cut of known length that fails when
the list is too short: `split?`.  It cuts exactly (`split?_eq_some_iff`) and walks
only the octets it cuts, so a reader pays for what it takes and not for what
follows.
-/

namespace Overlay

set_option autoImplicit false

/-- A string of octets. -/
abbrev Octets := List UInt8

namespace Octets

/-- Cut `n` octets off the front; `none` when there are fewer. -/
def split? (n : Nat) (octets : Octets) : Option (Octets × Octets) :=
  let (front, rest) := octets.splitAt n
  if front.length = n then some (front, rest) else none

theorem split?_eq (n : Nat) (octets : Octets) :
    split? n octets = if n ≤ octets.length then some (octets.take n, octets.drop n) else none := by
  simp only [split?, List.splitAt_eq, List.length_take]
  split <;> split <;> first | rfl | omega

/-- A cut takes exactly the octets asked for and loses none. -/
theorem split?_eq_some_iff {n : Nat} {octets front rest : Octets} :
    split? n octets = some (front, rest) ↔ octets = front ++ rest ∧ front.length = n := by
  rw [split?_eq]
  constructor
  · intro h
    split at h
    · next long =>
      simp only [Option.some.injEq, Prod.mk.injEq] at h
      obtain ⟨rfl, rfl⟩ := h
      exact ⟨(List.take_append_drop n octets).symm, by simp [long]⟩
    · cases h
  · rintro ⟨rfl, rfl⟩
    simp

@[simp] theorem split?_append (front rest : Octets) :
    split? front.length (front ++ rest) = some (front, rest) :=
  split?_eq_some_iff.2 ⟨rfl, rfl⟩

/-- The octets of two strings combined by exclusive or, position by position. -/
def xor (a b : Octets) : Octets := List.zipWith (· ^^^ ·) a b

@[simp] theorem length_xor (a b : Octets) : (xor a b).length = min a.length b.length := by
  simp [xor]

end Octets

end Overlay
