/-
# Overlay.Environment — variables by name

An environment holds text under names, at most one under each.  Three operations
change it: `set` and `unset` act on one name and leave every other alone
(`get?_set`, `get?_unset`), and `fill` sets only what is not set yet, so that no
variable that is present changes (`get?_fill_of_some`).
-/

namespace Overlay

set_option autoImplicit false

/-- Variables by name, the latest first. -/
structure Environment where
  entries : List (String × String) := []
  deriving DecidableEq, Repr, Inhabited

namespace Environment

/-- The text of a variable, if it is set. -/
def get? (environment : Environment) (name : String) : Option String :=
  environment.entries.lookup name

/-- The environment without a variable. -/
def unset (environment : Environment) (name : String) : Environment :=
  ⟨environment.entries.filter (·.1 != name)⟩

/-- The environment with a variable set to a text. -/
def set (environment : Environment) (name text : String) : Environment :=
  ⟨(name, text) :: (environment.unset name).entries⟩

/-- The environment with a variable set to a text unless it is set already. -/
def setIfAbsent (environment : Environment) (entry : String × String) : Environment :=
  if (environment.get? entry.1).isSome then environment else environment.set entry.1 entry.2

/-- The environment with every variable set that is given and not set already. -/
def fill (environment : Environment) (entries : List (String × String)) : Environment :=
  entries.foldl setIfAbsent environment

theorem get?_unset (environment : Environment) (name other : String) :
    (environment.unset name).get? other =
      if other = name then none else environment.get? other := by
  obtain ⟨entries⟩ := environment
  simp only [unset, get?]
  induction entries with
  | nil => simp
  | cons entry rest ih =>
    obtain ⟨key, text⟩ := entry
    by_cases dropped : key = name
    · subst dropped
      have head : List.filter (fun e : String × String => e.1 != key) ((key, text) :: rest) =
          List.filter (fun e => e.1 != key) rest := by simp
      rw [head, ih]
      by_cases same : other = key
      · simp [same]
      · simp [same, List.lookup_cons, beq_eq_false_iff_ne.2 same]
    · by_cases same : other = key
      · subst same
        simp [dropped]
      · simp [ih, dropped, List.lookup_cons, beq_eq_false_iff_ne.2 same]

theorem get?_set (environment : Environment) (name text other : String) :
    (environment.set name text).get? other =
      if other = name then some text else environment.get? other := by
  have rest := get?_unset environment name other
  simp only [get?] at rest ⊢
  by_cases same : other = name
  · subst same
    simp [set]
  · simp [set, List.lookup_cons, beq_eq_false_iff_ne.2 same, rest, same]

/-- What is set stays as it is when more is filled in. -/
theorem get?_fill_of_some {environment : Environment} {name text : String}
    (entries : List (String × String)) (h : environment.get? name = some text) :
    (environment.fill entries).get? name = some text := by
  induction entries generalizing environment with
  | nil => exact h
  | cons entry rest ih =>
    have kept : (environment.setIfAbsent entry).get? name = some text := by
      unfold setIfAbsent
      split
      · exact h
      · next absent =>
        rw [get?_set, if_neg]
        · exact h
        · rintro rfl
          simp [h] at absent
    exact ih kept

end Environment

end Overlay
