/-
# Overlay.Proofs.Sequencing -- steps that may fail, one after another

A run of steps succeeds exactly when each of them does (`bind_eq_ok_iff`,
`mapM_eq_ok_iff`), and fails with what the first one to fail gives (`bind_eq_error_iff`,
`mapM_eq_error_iff`).
-/
import Mathlib.Data.List.Forall2

namespace Overlay

set_option autoImplicit false

variable {ε α β : Type}

theorem bind_eq_ok_iff {step : Except ε α} {next : α → Except ε β} {result : β} :
    (step >>= next) = .ok result ↔ ∃ value, step = .ok value ∧ next value = .ok result := by
  cases step with
  | ok value => simp [bind, Except.bind]
  | error e => simp [bind, Except.bind]

theorem bind_eq_error_iff {step : Except ε α} {next : α → Except ε β} {e : ε} :
    (step >>= next) = .error e ↔
      step = .error e ∨ ∃ value, step = .ok value ∧ next value = .error e := by
  cases step with
  | ok value => simp [bind, Except.bind]
  | error e => simp [bind, Except.bind]

theorem mapM_eq_ok_iff {step : α → Except ε β} {things : List α} {results : List β} :
    things.mapM step = .ok results ↔
      List.Forall₂ (fun thing result => step thing = .ok result) things results := by
  induction things generalizing results with
  | nil => cases results <;> simp [pure, Except.pure]
  | cons thing things ih =>
      simp only [List.mapM_cons, bind_eq_ok_iff, ih, List.forall₂_cons_left_iff]
      constructor
      · rintro ⟨first, one, others, rest, ⟨⟩⟩
        exact ⟨first, others, one, rest, rfl⟩
      · rintro ⟨first, others, one, rest, rfl⟩
        exact ⟨first, one, others, rest, rfl⟩

/-- The first thing whose step fails decides. -/
theorem mapM_eq_error_iff {step : α → Except ε β} {things : List α} {e : ε} :
    things.mapM step = .error e ↔
      ∃ before thing after, things = before ++ thing :: after ∧
        (∀ earlier ∈ before, ∃ result, step earlier = .ok result) ∧ step thing = .error e := by
  induction things with
  | nil => simp [pure, Except.pure]
  | cons first things ih =>
      simp only [List.mapM_cons, bind_eq_error_iff, ih]
      constructor
      · rintro (fails | ⟨value, one, ⟨before, thing, after, rfl, passed, fails⟩ | ⟨_, _, ⟨⟩⟩⟩)
        · exact ⟨[], first, things, rfl, by simp, fails⟩
        · exact ⟨first :: before, thing, after, rfl, by simpa using ⟨⟨value, one⟩, passed⟩, fails⟩
      · rintro ⟨before, thing, after, split, passed, fails⟩
        cases before with
        | nil =>
            cases split
            exact .inl fails
        | cons earlier before =>
            cases split
            simp only [List.mem_cons, forall_eq_or_imp] at passed
            obtain ⟨⟨value, one⟩, passed⟩ := passed
            exact .inr ⟨value, one, .inl ⟨before, thing, after, rfl, passed, fails⟩⟩

theorem length_eq_four {things : List α} (four : things.length = 4) :
    ∃ w x y z, things = [w, x, y, z] := by
  match things, four with
  | [w, x, y, z], _ => exact ⟨w, x, y, z, rfl⟩

end Overlay
