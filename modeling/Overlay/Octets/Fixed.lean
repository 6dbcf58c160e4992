/-
# Overlay.Octets.Fixed — octet strings whose length is part of the type

Identifiers, keys and signatures have one length each.  `Fixed n` is a string of
exactly `n` octets, and `Fixed.of?` is the only way in from a string of unknown
length: it changes nothing and refuses every other length (`of?_eq_some_iff`), so
there is neither padding nor truncation.
-/
import Overlay.Octets

namespace Overlay

set_option autoImplicit false

/-- A string of exactly `size` octets. -/
structure Fixed (size : Nat) where
  /-- The octets themselves. -/
  octets : Octets
  length_eq : octets.length = size
  deriving DecidableEq

namespace Fixed

/-- The string as one of the wanted size, if it has that size. -/
def of? {size : Nat} (octets : Octets) : Option (Fixed size) :=
  if h : octets.length = size then some ⟨octets, h⟩ else none

@[ext] theorem ext {size : Nat} {a b : Fixed size} (h : a.octets = b.octets) : a = b := by
  cases a; cases b; simpa using h

theorem of?_eq_some_iff {size : Nat} {octets : Octets} {f : Fixed size} :
    of? octets = some f ↔ octets = f.octets := by
  constructor
  · intro h
    unfold of? at h
    split at h
    · injection h with h
      rw [← h]
    · cases h
  · rintro rfl
    simp [of?, f.length_eq]

@[simp] theorem of?_octets {size : Nat} (f : Fixed size) : of? f.octets = some f :=
  of?_eq_some_iff.2 rfl

theorem of?_eq_none_iff {size : Nat} {octets : Octets} :
    (of? octets : Option (Fixed size)) = none ↔ octets.length ≠ size := by
  unfold of?
  split <;> simp_all

/-- Where a string of fixed size ends does not depend on what follows it. -/
theorem eq_of_append_eq {size : Nat} {a b : Fixed size} {after rest : Octets}
    (same : a.octets ++ after = b.octets ++ rest) : a = b ∧ after = rest := by
  obtain ⟨front, back⟩ := List.append_inj same (a.length_eq.trans b.length_eq.symm)
  exact ⟨ext front, back⟩

/-- The string of zero octets. -/
def zero (size : Nat) : Fixed size := ⟨List.replicate size 0, by simp⟩

instance {size : Nat} : Inhabited (Fixed size) := ⟨zero size⟩

end Fixed

end Overlay
