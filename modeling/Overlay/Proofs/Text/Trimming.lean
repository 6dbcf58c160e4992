/-
# Overlay.Proofs.Text.Trimming -- a text without white space at its ends

`trim blank` takes from both ends of a text the characters that `blank` holds of, and
nothing else (`exists_trim`).  What is left starts and ends in none of them (`Bare`), and
that settles it: wherever a bare text stands between blanks, trimming gives the bare text
(`trim_between`).  So a bare text is left as it is, and the characters that are not blank
are all still there (`filter_trim`).
-/
import Mathlib.Data.List.DropRight
import Overlay.Text.Blank

namespace Overlay.Text

set_option autoImplicit false

variable {blank other : Char → Bool} {text core before after : List Char}

/-- The text neither starts nor ends in a character that `blank` holds of. -/
structure Bare (blank : Char → Bool) (text : List Char) : Prop where
  head : ∀ c, text.head? = some c → blank c = false
  last : ∀ c, text.getLast? = some c → blank c = false

theorem Bare.of_forall (free : ∀ c ∈ text, blank c = false) : Bare blank text :=
  ⟨fun c starts => free c (List.mem_of_head? starts),
    fun c ends => free c (List.mem_of_getLast? ends)⟩

/-- What has no blank at its ends has none of fewer sorts there. -/
theorem Bare.mono (fewer : ∀ c, other c = true → blank c = true) (bare : Bare blank text) :
    Bare other text := by
  have clear : ∀ c, blank c = false → other c = false := fun c free => by
    by_contra held
    rw [fewer c (by simpa using held)] at free
    cases free
  exact ⟨fun c starts => clear c (bare.head c starts), fun c ends => clear c (bare.last c ends)⟩

theorem Bare.reverse (bare : Bare blank text) : Bare blank text.reverse :=
  ⟨fun c starts => bare.last c (by rwa [List.head?_reverse] at starts),
    fun c ends => bare.head c (by rwa [List.getLast?_reverse] at ends)⟩

/-- Blanks in front of a bare text go, and the rest stays. -/
theorem dropWhile_append_bare (blanks : ∀ c ∈ before, blank c = true) (bare : Bare blank core)
    (some : core ≠ []) : (before ++ core ++ after).dropWhile blank = core ++ after := by
  rw [List.append_assoc, List.dropWhile_append_of_pos blanks]
  cases core with
  | nil => exact absurd rfl some
  | cons c rest =>
      have free : blank c = false := bare.head c rfl
      rw [List.cons_append, List.dropWhile_cons_of_neg (by simp [free])]

theorem trim_between (blanks : ∀ c ∈ before, blank c = true) (blanks' : ∀ c ∈ after, blank c = true)
    (bare : Bare blank core) : trim blank (before ++ core ++ after) = core := by
  unfold trim
  by_cases some : core = []
  · have none : (before ++ core ++ after).dropWhile blank = [] := by
      rw [List.dropWhile_eq_nil_iff]
      intro c member
      rw [some, List.append_nil, List.mem_append] at member
      exact member.elim (blanks c) (blanks' c)
    rw [none, some]
    rfl
  · have turned : (core ++ after).reverse = after.reverse ++ core.reverse ++ [] := by simp
    rw [dropWhile_append_bare blanks bare some, turned,
      dropWhile_append_bare (by simpa using blanks') bare.reverse (by simpa using some)]
    simp

@[simp] theorem trim_of_bare (bare : Bare blank core) : trim blank core = core := by
  have nothing : ∀ c ∈ ([] : List Char), blank c = true := by simp
  simpa using trim_between nothing nothing bare

theorem free_of_head?_dropWhile {c : Char} (starts : (text.dropWhile blank).head? = some c) :
    blank c = false := by
  have free := List.head?_dropWhile_not blank text
  rwa [starts] at free

/-- What is left after blanks were taken from the front is left of it and what was taken from the
end. -/
theorem trim_append_rtakeWhile (blank : Char → Bool) (text : List Char) :
    trim blank text ++ (text.dropWhile blank).rtakeWhile blank = text.dropWhile blank :=
  List.rdropWhile_append_rtakeWhile

/-- A text is what is left of it between what was taken from its ends. -/
theorem exists_trim (blank : Char → Bool) (text : List Char) :
    ∃ before after, text = before ++ trim blank text ++ after ∧
      (∀ c ∈ before, blank c = true) ∧ (∀ c ∈ after, blank c = true) := by
  refine ⟨text.takeWhile blank, (text.dropWhile blank).rtakeWhile blank, ?_,
    fun c => List.mem_takeWhile_imp, fun c => List.mem_rtakeWhile_imp⟩
  rw [List.append_assoc, trim_append_rtakeWhile, List.takeWhile_append_dropWhile]

theorem bare_trim (blank : Char → Bool) (text : List Char) : Bare blank (trim blank text) := by
  constructor
  · intro c starts
    -- taking blanks from the end leaves the first character in its place
    have first : (text.dropWhile blank).head? = some c := by
      rw [← trim_append_rtakeWhile, List.head?_append, starts]
      rfl
    exact free_of_head?_dropWhile first
  · intro c ends
    rw [trim, List.getLast?_reverse] at ends
    exact free_of_head?_dropWhile ends

theorem filter_trim (blank : Char → Bool) (text : List Char) :
    (trim blank text).filter (fun c => !blank c) = text.filter (fun c => !blank c) := by
  obtain ⟨before, after, whole, blanks, blanks'⟩ := exists_trim blank text
  have none : ∀ {taken : List Char}, (∀ c ∈ taken, blank c = true) →
      taken.filter (fun c => !blank c) = [] := fun all => by simpa using all
  conv_rhs => rw [whole]
  rw [List.filter_append, List.filter_append, none blanks, none blanks', List.nil_append,
    List.append_nil]

end Overlay.Text
