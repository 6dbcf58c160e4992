/-
# Overlay.Proofs.Name.Nearest -- the nearest first, and the nearest of several lists

Names, and values that have names, are sorted by their separation from a target, so both sorts are
arrangements by rank (`sortByCloseness_eq_arrange`, `closest_eq_take_arrange`).

Two names of one separation are the same name, so the order in which names are given does not show
in the result (`sortByCloseness_is_canonical`).  Values may well share a name.  Among these the
given order is kept, and that is why the nearest of a list can be found piece by piece: from the
nearest of two parts, in the order of the parts, come the nearest of both together
(`closest_of_parts`).  `Nearest` describes what `closest` returns without mention of a sort, and
leaves no choice (`Nearest.eq_closest`).
-/
import Overlay.Proofs.Name.Closeness
import Overlay.Proofs.Ranking
import Overlay.Proofs.Sequencing

namespace Overlay

set_option autoImplicit false

open Ranking

/-! ## Values with names -/

/-- Only the names of things are looked at. -/
theorem Name.closest_map {α β : Type} (nameOf : β → Name) (valueOf : α → β) (things : List α)
    (target : Name) (count : Int) :
    closest nameOf (things.map valueOf) target count =
      (closest (fun thing => nameOf (valueOf thing)) things target count).map valueOf := by
  rw [closest, closest, List.map_take]
  refine congrArg (List.take count.toNat) (List.map_mergeSort ?_).symm
  exact fun _ _ _ _ => rfl

namespace Datum

variable {β : Type} {find : Datum → Except Fault Name} {nameOf : β → Name} {valueOf : β → Datum}
  {things : List β}

/-- Values that all have names are found with them; the target is not looked at without values. -/
theorem exists_named_eq_ok
    (found : ∀ thing ∈ things, find (valueOf thing) = .ok (nameOf thing)) (target : Name) :
    ∃ seen, named find (things.map valueOf) (ofName target) =
        .ok (things.map fun thing => (nameOf thing, valueOf thing), seen) ∧
      (things = [] ∨ seen = target) := by
  have all : (things.map valueOf).mapM (fun value => do return (← find value, value)) =
      .ok (things.map fun thing => (nameOf thing, valueOf thing)) := by
    rw [mapM_eq_ok_iff, List.forall₂_map_left_iff, List.forall₂_map_right_iff, List.forall₂_same]
    intro thing member
    rw [found thing member]
    rfl
  cases things with
  | nil => exact ⟨default, rfl, .inl rfl⟩
  | cons first rest =>
      refine ⟨target, ?_, .inr rfl⟩
      rw [List.map_cons] at all ⊢
      rw [named, found first List.mem_cons_self, all]
      rfl

/-- Values that are names are sorted as the names. -/
theorem sortByCloseness_map_ofName (names : List Name) (target : Name) :
    (Datum.list (names.map ofName)).sortByCloseness (ofName target) =
      .ok ((Name.sortByCloseness names target).map ofName) := by
  have found (name : Name) (_ : name ∈ names) : toName (ofName name) = .ok name := rfl
  obtain ⟨seen, taken, here⟩ := exists_named_eq_ok found target
  refine bind_eq_ok_iff.2 ⟨names.map ofName, rfl, bind_eq_ok_iff.2 ⟨_, taken, ?_⟩⟩
  have again : (names.map fun name => (name, ofName name)).map Prod.fst = names := by
    rw [List.map_map]
    exact List.map_id names
  simp only [again]
  rcases here with rfl | rfl
  · simp [Name.sortByCloseness, pure, Except.pure]
  · rfl

/-- The nearest values are found by their addresses. -/
theorem closest_eq_ok {nameOf : Datum → Name} {values : List Datum}
    (addressed : ∀ value ∈ values, value.address = .ok (ofName (nameOf value))) (target : Name)
    (count : Int) :
    (Datum.list values).closest (ofName target) (.int count) =
      .ok (Name.closest nameOf values target count) := by
  let addressOf (value : Datum) : Except Fault Name := do (← value.address).toName
  have found (value : Datum) (member : value ∈ values) :
      addressOf (id value) = .ok (nameOf value) :=
    bind_eq_ok_iff.2 ⟨_, addressed value member, rfl⟩
  obtain ⟨seen, taken, here⟩ := exists_named_eq_ok found target
  rw [List.map_id] at taken
  refine bind_eq_ok_iff.2 ⟨values, rfl, bind_eq_ok_iff.2 ⟨_, taken, ?_⟩⟩
  have paired : (Name.closest Prod.fst (values.map fun value => (nameOf value, id value)) seen
      count).map Prod.snd = Name.closest nameOf values seen count := by
    rw [Name.closest_map, List.map_map]
    exact List.map_id _
  refine bind_eq_ok_iff.2 ⟨count, rfl, ?_⟩
  simp only [paired]
  rcases here with rfl | rfl
  · simp [Name.closest, pure, Except.pure]
  · rfl

end Datum

namespace Name

variable {α : Type}

/-! ## Sorting names -/

theorem sortByCloseness_eq_arrange (names : List Name) (target : Name) :
    sortByCloseness names target = arrange (separation · target) names := by
  have order : noFarther target = noHigher (separation · target) := by
    funext a b
    exact noFarther_eq_decide a b target
  rw [sortByCloseness, order, arrange]

/-- Sorted by closeness, names are in the one order in which no later name is closer, whatever the
order in which they were given. -/
theorem sortByCloseness_is_canonical (target : Name) :
    (∀ names : List Name,
      (Datum.list (names.map Datum.ofName)).sortByCloseness (Datum.ofName target) =
        .ok ((sortByCloseness names target).map Datum.ofName) ∧
      (sortByCloseness names target).Perm names ∧
      (sortByCloseness names target).Pairwise (fun a b =>
        b.closer a target = false ∧ (a ≠ b → a.closer b target = true)) ∧
      sortByCloseness (sortByCloseness names target) target = sortByCloseness names target) ∧
    ∀ names names' : List Name, names.Perm names' →
      sortByCloseness names target = sortByCloseness names' target := by
  refine ⟨?_, ?_⟩
  · intro names
    refine ⟨Datum.sortByCloseness_map_ofName names target, ?_⟩
    simp only [sortByCloseness_eq_arrange]
    refine ⟨arrange_perm names, ?_, arrange_of_ascends (ascends_arrange names)⟩
    apply (ascends_arrange names).imp
    intro a b low
    have later : b.closer a target = false := closer_eq_false_iff.2 (noHigher_iff.1 low)
    refine ⟨later, ?_⟩
    intro different
    rw [closer_eq_not_closer different, later]
    rfl
  · intro names names' perm
    rw [sortByCloseness_eq_arrange, sortByCloseness_eq_arrange]
    exact arrange_eq_of_perm (fun a b same => eq_of_separation_eq same) perm

/-- Seen from seven, the names of one, two and four are in the order of four, two and one. -/
theorem sortByCloseness_is_canonical_ofLast :
    [ofLast 1, ofLast 4, ofLast 2].Perm [ofLast 4, ofLast 2, ofLast 1] ∧
      sortByCloseness [ofLast 1, ofLast 4, ofLast 2] (ofLast 7) =
        [ofLast 4, ofLast 2, ofLast 1] := by
  have perm : [ofLast 1, ofLast 4, ofLast 2].Perm [ofLast 4, ofLast 2, ofLast 1] := by decide
  have same := (sortByCloseness_is_canonical (ofLast 7)).2 _ _ perm
  exact ⟨perm, same.trans (List.mergeSort_of_pairwise (by decide))⟩

/-! ## The nearest of several values -/

/-- The rank of a value, seen from the target, is the separation of its name. -/
def rankFrom (nameOf : α → Name) (target : Name) (value : α) : Nat :=
  (nameOf value).separation target

/-- What it is to be the `count` nearest of some values, nearest first.  The values are these and
the others, as often as they were given, and where a name has to be divided between the two, the
first of its values are the nearest ones. -/
structure Nearest (nameOf : α → Name) (values : List α) (target : Name) (count : Int)
    (near : List α) : Prop where
  length : (near.length : Int) = min (max count 0) values.length
  others : ∃ others, (near ++ others).Perm values ∧
    ∀ value ∈ near, ∀ other ∈ others, (nameOf other).closer (nameOf value) target = false
  ordered : near.Pairwise fun a b => (nameOf b).closer (nameOf a) target = false
  stable : ∀ name, near.filter (nameOf · = name) <+: values.filter (nameOf · = name)

variable (nameOf : α → Name)

theorem closest_eq_take_arrange (values : List α) (target : Name) (count : Int) :
    closest nameOf values target count =
      (arrange (rankFrom nameOf target) values).take count.toNat := by
  have order : (fun a b => noFarther target (nameOf a) (nameOf b)) =
      noHigher (rankFrom nameOf target) := by
    funext a b
    exact noFarther_eq_decide (nameOf a) (nameOf b) target
  rw [closest, order, arrange]

/-- The values of one name are those of its rank. -/
theorem filter_eq_level (name target : Name) (values : List α) :
    values.filter (nameOf · = name) =
      level (rankFrom nameOf target) (name.separation target) values := by
  refine List.filter_congr fun value _ => ?_
  rw [decide_eq_decide]
  exact ⟨fun same => by rw [rankFrom, same], eq_of_separation_eq⟩

/-- To be the nearest values is to be a front of them, in the order of their ranks, of that
length. -/
theorem nearest_iff_front {values near : List α} {target : Name} {count : Int} :
    Nearest nameOf values target count near ↔
      Front (rankFrom nameOf target) values near ∧
        (near.length : Int) = min (max count 0) values.length := by
  have order (a b : α) : (nameOf b).closer (nameOf a) target = false ↔
      rankFrom nameOf target a ≤ rankFrom nameOf target b := closer_eq_false_iff
  constructor
  · rintro ⟨length, ⟨others, perm, apart⟩, ordered, stable⟩
    refine ⟨⟨?_, ⟨others, perm, ?_⟩, ?_⟩, length⟩
    · apply ordered.imp
      intro a b later
      exact noHigher_iff.2 ((order a b).1 later)
    · intro value inNear other inOthers
      exact (order value other).1 (apart value inNear other inOthers)
    · intro n
      -- a rank is that of a name as soon as one of the nearest values has it
      rcases eq_or_ne (level (rankFrom nameOf target) n near) [] with none | some
      · rw [none]
        exact List.nil_prefix
      · obtain ⟨value, member⟩ := List.exists_mem_of_ne_nil _ some
        obtain ⟨-, rfl⟩ := mem_level.1 member
        have first := stable (nameOf value)
        rwa [filter_eq_level nameOf _ target, filter_eq_level nameOf _ target] at first
  · rintro ⟨⟨ascends, ⟨others, perm, above⟩, first⟩, length⟩
    refine ⟨length, ⟨others, perm, ?_⟩, ?_, ?_⟩
    · intro value inNear other inOthers
      exact (order value other).2 (above value inNear other inOthers)
    · apply ascends.imp
      intro a b low
      exact (order a b).2 (noHigher_iff.1 low)
    · intro name
      rw [filter_eq_level nameOf name target, filter_eq_level nameOf name target]
      exact first (name.separation target)

theorem nearest_closest (values : List α) (target : Name) (count : Int) :
    Nearest nameOf values target count (closest nameOf values target count) := by
  rw [nearest_iff_front, closest_eq_take_arrange]
  refine ⟨front_take_arrange count.toNat values, ?_⟩
  rw [List.length_take, (arrange_perm values).length_eq]
  omega

/-- The description of the nearest values settles them, and their order. -/
theorem Nearest.eq_closest {values near : List α} {target : Name} {count : Int}
    (nearest : Nearest nameOf values target count near) :
    near = closest nameOf values target count := by
  obtain ⟨front, length⟩ := (nearest_iff_front nameOf).1 nearest
  obtain ⟨front', length'⟩ :=
    (nearest_iff_front nameOf).1 (nearest_closest nameOf values target count)
  apply front.unique front'
  rw [← length'] at length
  exact Int.ofNat.inj length

theorem closest_append (xs ys : List α) (target : Name) (count : Int) :
    closest nameOf (xs ++ ys) target count =
      closest nameOf (closest nameOf xs target count ++ closest nameOf ys target count) target
        count := by
  simp only [closest_eq_take_arrange]
  exact take_arrange_append count.toNat xs ys

/-- To look for one more value adds it behind the others. -/
theorem closest_prefix_succ (values : List α) (target : Name) (count : Int) :
    closest nameOf values target count <+: closest nameOf values target (count + 1) := by
  have fewer : count.toNat ≤ (count + 1).toNat := by omega
  rw [closest_eq_take_arrange, closest_eq_take_arrange]
  exact List.take_prefix_take_left fewer

theorem mem_of_mem_closest {values : List α} {target : Name} {count : Int} {value : α}
    (near : value ∈ closest nameOf values target count) : value ∈ values := by
  obtain ⟨others, perm, -⟩ := (nearest_closest nameOf values target count).others
  exact perm.mem_iff.1 (List.mem_append_left others near)

/-- The nearest of two lists are the nearest of what is nearest in each.  What is nearest is said by
`Nearest`, and more are the same and others behind them.  So it is for values of any sort that have
names, and for those that `Datum.closest` is given, which have addresses. -/
theorem closest_of_parts :
    (∀ {α : Type} (nameOf : α → Name) (xs ys : List α) (target : Name) (count : Int),
      closest nameOf (xs ++ ys) target count =
          closest nameOf (closest nameOf xs target count ++ closest nameOf ys target count)
            target count ∧
        (∀ near, Nearest nameOf xs target count near ↔ near = closest nameOf xs target count) ∧
        closest nameOf xs target count <+: closest nameOf xs target (count + 1)) ∧
    ∀ (nameOf : Datum → Name) (xs ys : List Datum) (target : Name) (count : Int),
      (∀ value ∈ xs ++ ys, value.address = .ok (Datum.ofName (nameOf value))) →
        (Datum.list xs).closest (Datum.ofName target) (.int count) =
            .ok (closest nameOf xs target count) ∧
          (Datum.list ys).closest (Datum.ofName target) (.int count) =
            .ok (closest nameOf ys target count) ∧
          (Datum.list (xs ++ ys)).closest (Datum.ofName target) (.int count) =
            (Datum.list (closest nameOf xs target count ++ closest nameOf ys target count)).closest
              (Datum.ofName target) (.int count) := by
  refine ⟨?_, ?_⟩
  · intro α nameOf xs ys target count
    refine ⟨closest_append nameOf xs ys target count, ?_,
      closest_prefix_succ nameOf xs target count⟩
    intro near
    constructor
    · exact Nearest.eq_closest nameOf
    · rintro rfl
      exact nearest_closest nameOf xs target count
  · intro nameOf xs ys target count addressed
    obtain ⟨addressedLeft, addressedRight⟩ := List.forall_mem_append.1 addressed
    have left := Datum.closest_eq_ok addressedLeft target count
    have right := Datum.closest_eq_ok addressedRight target count
    refine ⟨left, right, ?_⟩
    have addressedNear :
        ∀ value ∈ closest nameOf xs target count ++ closest nameOf ys target count,
          value.address = .ok (Datum.ofName (nameOf value)) := by
      intro value near
      rcases List.mem_append.1 near with near | near
      · exact addressedLeft value (mem_of_mem_closest nameOf near)
      · exact addressedRight value (mem_of_mem_closest nameOf near)
    rw [Datum.closest_eq_ok addressed, Datum.closest_eq_ok addressedNear, closest_append]

/-- The name under which the record of a value is stored. -/
def ofRecord (value : Datum) : Name := (value.record?.bind Record.address?).getD default

/-- Two tables that share a name, and another. -/
def exampleTables : List Datum × List Datum :=
  ([.record (.table ⟨ofLast 2, ofLast 8, []⟩), .record (.table ⟨ofLast 2, ofLast 9, []⟩)],
    [.record (.table ⟨ofLast 1, ofLast 8, []⟩)])

/-- Of the two tables with one name the first is kept when the nearest is looked for. -/
theorem closest_of_parts_exampleTables :
    (∀ value ∈ exampleTables.1 ++ exampleTables.2,
      value.address = .ok (Datum.ofName (ofRecord value))) ∧
      (Datum.list (exampleTables.1 ++ exampleTables.2)).closest (Datum.ofName (ofLast 0)) (.int 1) =
        (Datum.list (exampleTables.1.take 1 ++ exampleTables.2)).closest (Datum.ofName (ofLast 0))
          (.int 1) := by
  have addressed : ∀ value ∈ exampleTables.1 ++ exampleTables.2,
      value.address = .ok (Datum.ofName (ofRecord value)) := by
    simp [exampleTables, Datum.address, Datum.orFault, ofRecord, Datum.record?, Record.address?]
  obtain ⟨-, -, together⟩ := closest_of_parts.2 ofRecord _ _ (ofLast 0) 1 addressed
  have left : closest ofRecord exampleTables.1 (ofLast 0) 1 = exampleTables.1.take 1 :=
    congrArg (List.take 1) (List.mergeSort_of_pairwise (by decide))
  have right : closest ofRecord exampleTables.2 (ofLast 0) 1 = exampleTables.2 :=
    congrArg (List.take 1) (List.mergeSort_of_pairwise (by decide))
  rw [left, right] at together
  exact ⟨addressed, together⟩

end Name

end Overlay
