/-
# Overlay.Proofs.Name.Closeness -- distance is a metric, and closeness is its order

The distance of two names is a string of 64 octets.  Read as a number it is their `separation`,
which is a metric: it is symmetric, zero only from a name to itself, and obeys the triangle
inequality.  It also leads one way: exclusive or undoes itself, so from a target every distance
leads to exactly one name (`existsUnique_distance`), and a separation from the target settles the
name (`eq_of_separation_eq`).

`closer` walks along three strings and builds no distance.  It stops at the first octet in which
the two distances differ, which is where their lexicographic order is decided
(`closerOctets_iff_lt`), so it compares separations (`closer_eq_decide`).  With that the laws of
closeness are those of the natural numbers, and no two names are equally near.
-/
import Mathlib.Logic.ExistsUnique
import Overlay.Datum.Naming
import Overlay.Proofs.Octets.Distance

namespace Overlay

set_option autoImplicit false

/-! ## Names as values -/

namespace Datum

variable (a b target : Name)

@[simp] theorem distance_ofName :
    (ofName a).distance (ofName target) = .ok (a.distance target) := rfl

@[simp] theorem closer_ofName :
    (ofName a).closer (ofName b) (ofName target) = .ok (a.closer b target) := rfl

@[simp] theorem closerThan_ofName :
    (ofName a).closerThan (ofName b) (ofName target) = .ok (a.closer b target) := rfl

end Datum

namespace Name

variable {a b target : Name}

/-! ## Distance -/

/-- The distance of two names as a number. -/
def separation (a b : Name) : Nat := Octets.ofBigEndian (a.distance b)

theorem distance_comm (a b : Name) : a.distance b = b.distance a :=
  Octets.xor_comm a.octets b.octets

/-- From the target, a distance leads back to the name. -/
theorem xor_distance (name target : Name) :
    Octets.xor (name.distance target) target.octets = name.octets :=
  Octets.xor_xor_cancel_right (by simp)

theorem eq_of_distance_eq (same : a.distance target = b.distance target) : a = b := by
  apply Name.ext
  rw [← xor_distance a target, same, xor_distance]

/-- Names that are equally near to the target are the same name. -/
theorem eq_of_separation_eq (same : a.separation target = b.separation target) : a = b :=
  eq_of_distance_eq (Octets.eq_of_ofBigEndian_eq (by simp) same)

theorem separation_self (a : Name) : a.separation a = 0 := Octets.ofBigEndian_xor_self a.octets

theorem separation_eq_zero_iff : a.separation b = 0 ↔ a = b := by
  constructor
  · intro none
    exact eq_of_separation_eq (none.trans (separation_self b).symm)
  · rintro rfl
    exact separation_self a

theorem separation_triangle (a b c : Name) :
    a.separation c ≤ a.separation b + b.separation c := by
  have through : a.distance c = Octets.xor (a.distance b) (b.distance c) :=
    Octets.xor_eq_xor_xor_xor (by simp) (by simp)
  rw [separation, through]
  exact Octets.ofBigEndian_xor_le (by simp)

/-- From a target every distance leads to exactly one name. -/
theorem existsUnique_distance (target : Name) (distance : Fixed 64) :
    ∃! name : Name, name.distance target = distance.octets := by
  have fits : distance.octets.length ≤ target.octets.length :=
    Nat.le_of_eq (distance.length_eq.trans target.length_octets.symm)
  let name : Name := ⟨⟨Octets.xor distance.octets target.octets, by simp [distance.length_eq]⟩⟩
  have reaches : name.distance target = distance.octets := Octets.xor_xor_cancel_right fits
  refine ⟨name, reaches, ?_⟩
  intro other there
  exact eq_of_distance_eq (there.trans reaches.symm)

/-- Distance is a metric under which every distance from a target leads to one name. -/
theorem distance_is_unidirectional_metric :
    (∀ a b : Name, (Datum.ofName a).distance (Datum.ofName b) = .ok (a.distance b)) ∧
    (∀ a b : Name, a.distance b = b.distance a) ∧
    (∀ a b : Name, Octets.ofBigEndian (a.distance b) = 0 ↔ a = b) ∧
    (∀ a b c : Name, Octets.ofBigEndian (a.distance c) ≤
      Octets.ofBigEndian (a.distance b) + Octets.ofBigEndian (b.distance c)) ∧
    ∀ (target : Name) (distance : Fixed 64),
      ∃! name : Name, name.distance target = distance.octets :=
  ⟨Datum.distance_ofName, distance_comm, fun _ _ => separation_eq_zero_iff, separation_triangle,
    existsUnique_distance⟩

/-! ## Closeness -/

/-- The first octet that tells two distances apart decides, and none is read after it. -/
theorem closerOctets_iff_lt {as bs ts : Octets} (ab : as.length = bs.length)
    (bt : bs.length = ts.length) :
    closerOctets as bs ts = true ↔ Octets.xor as ts < Octets.xor bs ts := by
  induction as generalizing bs ts with
  | nil =>
      obtain rfl := List.eq_nil_of_length_eq_zero ab.symm
      simp [closerOctets, Octets.xor]
  | cons a as ih =>
      cases bs with
      | nil => simp at ab
      | cons b bs =>
          cases ts with
          | nil => simp at bt
          | cons t ts =>
              have rest := ih (Nat.succ.inj ab) (Nat.succ.inj bt)
              have split : Octets.xor (a :: as) (t :: ts) < Octets.xor (b :: bs) (t :: ts) ↔
                  a ^^^ t < b ^^^ t ∨ a ^^^ t = b ^^^ t ∧ Octets.xor as ts < Octets.xor bs ts :=
                List.cons_lt_cons_iff
              rw [split, ← rest, closerOctets]
              by_cases same : a ^^^ t = b ^^^ t
              · simp [same]
              · simp [same]

theorem closer_iff_distance_lt :
    a.closer b target = true ↔ a.distance target < b.distance target :=
  closerOctets_iff_lt (by simp) (by simp)

theorem closer_eq_decide (a b target : Name) :
    a.closer b target = decide (a.separation target < b.separation target) := by
  have numbers : a.separation target < b.separation target ↔
      a.distance target < b.distance target := Octets.ofBigEndian_lt_iff (by simp)
  rw [Bool.eq_iff_iff, decide_eq_true_iff, numbers, closer_iff_distance_lt]

theorem closer_eq_false_iff :
    a.closer b target = false ↔ b.separation target ≤ a.separation target := by
  rw [closer_eq_decide, decide_eq_false_iff_not, Nat.not_lt]

/-- The sorts compare separations as well. -/
theorem noFarther_eq_decide (a b target : Name) :
    noFarther target a b = decide (a.separation target ≤ b.separation target) := by
  have numbers : a.separation target ≤ b.separation target ↔
      a.distance target ≤ b.distance target := Octets.ofBigEndian_le_iff (by simp)
  rw [noFarther, decide_eq_decide, numbers]

theorem closer_self (a target : Name) : a.closer a target = false :=
  closer_eq_false_iff.2 (Nat.le_refl (a.separation target))

/-- Of two names one is closer, as they are not equally near. -/
theorem closer_eq_not_closer (different : a ≠ b) (target : Name) :
    a.closer b target = !b.closer a target := by
  have apart : a.separation target ≠ b.separation target := by
    intro same
    exact different (eq_of_separation_eq same)
  rw [closer_eq_decide, closer_eq_decide, ← decide_not, decide_eq_decide]
  omega

theorem closer_trans {c : Name} (near : a.closer b target = true)
    (far : b.closer c target = true) : a.closer c target = true := by
  rw [closer_eq_decide, decide_eq_true_iff] at near far ⊢
  exact Nat.lt_trans near far

/-- Closeness to a target is a strict total order of all names, and it is the order of their
distances, as strings and as numbers. -/
theorem closer_is_strict_total_order (target : Name) :
    (∀ a : Name, a.closer a target = false) ∧
    (∀ a b : Name, a ≠ b → a.closer b target = !b.closer a target) ∧
    (∀ a b c : Name, a.closer b target = true → b.closer c target = true →
      a.closer c target = true) ∧
    ∀ a b : Name,
      (Datum.ofName a).closer (Datum.ofName b) (Datum.ofName target) = .ok (a.closer b target) ∧
      (Datum.ofName a).closerThan (Datum.ofName b) (Datum.ofName target) =
        .ok (a.closer b target) ∧
      (a.closer b target = true ↔ a.distance target < b.distance target) ∧
      (a.closer b target = true ↔
        Octets.ofBigEndian (a.distance target) < Octets.ofBigEndian (b.distance target)) := by
  refine ⟨?_, ?_, ?_, ?_⟩
  · intro a
    exact closer_self a target
  · intro a b different
    exact closer_eq_not_closer different target
  · intro a b c near far
    exact closer_trans near far
  · intro a b
    refine ⟨Datum.closer_ofName a b target, Datum.closerThan_ofName a b target,
      closer_iff_distance_lt, ?_⟩
    rw [closer_eq_decide, decide_eq_true_iff, separation, separation]

/-- The name of zeros but for its last octet. -/
def ofLast (octet : UInt8) : Name := ⟨⟨List.replicate 63 0 ++ [octet], by simp⟩⟩

/-- Seen from seven, four is closer than two and two closer than one. -/
theorem closer_is_strict_total_order_ofLast :
    ofLast 2 ≠ ofLast 1 ∧
      (ofLast 2).closer (ofLast 1) (ofLast 7) = (!(ofLast 1).closer (ofLast 2) (ofLast 7)) ∧
      (ofLast 4).closer (ofLast 2) (ofLast 7) = true ∧
      (ofLast 2).closer (ofLast 1) (ofLast 7) = true ∧
      (ofLast 4).closer (ofLast 1) (ofLast 7) = true := by
  obtain ⟨-, total, trans, -⟩ := closer_is_strict_total_order (ofLast 7)
  have different : ofLast 2 ≠ ofLast 1 := by decide
  have first : (ofLast 4).closer (ofLast 2) (ofLast 7) = true := by decide
  have second : (ofLast 2).closer (ofLast 1) (ofLast 7) = true := by decide
  exact ⟨different, total _ _ different, first, second, trans _ _ _ first second⟩

end Name

end Overlay
