/-
# Overlay.Proofs.Ranking -- things in the order of their ranks

`arrange` puts things of lower rank first and leaves things of one rank in the order in which they
were given.  No other list does both: an ascending list is settled by what it holds at each rank,
in order (`eq_of_level_eq`).  The laws of `arrange` follow from that.

* `arrange_eq_of_perm`: where no two things share a rank, the given order does not matter.
* `arrange_append`: two lists are arranged by merging the arrangements of both.
* `take_arrange_append`: the first few of two lists are the first few of the first few of each,
  because the front of a merge is made from the fronts of what is merged (`take_merge_take`).

What the first few are can be said without arranging: they ascend, nothing else ranks lower, and of
each rank they have the first (`Front`).  That settles them up to how many they are
(`Front.unique`).
-/

namespace Overlay.Ranking

set_option autoImplicit false

variable {α : Type} (rank : α → Nat)

/-- Does a thing rank as low as another? -/
def noHigher (a b : α) : Bool := rank a ≤ rank b

/-- The things, lowest rank first. -/
def arrange (things : List α) : List α := things.mergeSort (noHigher rank)

/-- No thing is followed by one of lower rank. -/
def Ascends (things : List α) : Prop := things.Pairwise fun a b => noHigher rank a b = true

/-- The things of one rank. -/
def level (n : Nat) (things : List α) : List α := things.filter (rank · = n)

variable {rank}

@[simp] theorem noHigher_iff {a b : α} : noHigher rank a b = true ↔ rank a ≤ rank b :=
  decide_eq_true_iff

theorem noHigher_trans (a b c : α) (low : noHigher rank a b = true)
    (high : noHigher rank b c = true) : noHigher rank a c = true :=
  noHigher_iff.2 (Nat.le_trans (noHigher_iff.1 low) (noHigher_iff.1 high))

theorem noHigher_total (a b : α) : (noHigher rank a b || noHigher rank b a) = true := by
  simpa using Nat.le_total (rank a) (rank b)

@[simp] theorem mem_level {n : Nat} {thing : α} {things : List α} :
    thing ∈ level rank n things ↔ thing ∈ things ∧ rank thing = n := by
  simp [level]

@[simp] theorem level_append (n : Nat) (xs ys : List α) :
    level rank n (xs ++ ys) = level rank n xs ++ level rank n ys :=
  List.filter_append xs ys

theorem level_cons (n : Nat) (thing : α) (things : List α) :
    level rank n (thing :: things) = level rank n [thing] ++ level rank n things :=
  level_append n [thing] things

theorem level_cons_self (thing : α) (things : List α) :
    level rank (rank thing) (thing :: things) = thing :: level rank (rank thing) things :=
  List.filter_cons_of_pos (decide_eq_true rfl)

theorem level_cons_of_ne {n : Nat} {thing : α} (other : rank thing ≠ n) (things : List α) :
    level rank n (thing :: things) = level rank n things :=
  List.filter_cons_of_neg (by simpa using other)

/-- An ascending list starts at the lowest rank it has. -/
theorem Ascends.le_of_mem {first thing : α} {rest : List α} (ascends : Ascends rank (first :: rest))
    (member : thing ∈ first :: rest) : rank first ≤ rank thing := by
  obtain ⟨lowest, -⟩ := List.pairwise_cons.1 ascends
  rcases List.mem_cons.1 member with rfl | later
  · exact Nat.le_refl (rank thing)
  · exact noHigher_iff.1 (lowest thing later)

/-! ## There is one arrangement -/

theorem mem_iff_of_level_eq {l m : List α} (same : ∀ n, level rank n l = level rank n m)
    (thing : α) : thing ∈ l ↔ thing ∈ m := by
  have here : thing ∈ level rank (rank thing) l ↔ thing ∈ level rank (rank thing) m := by
    rw [same]
  simpa using here

/-- What it holds at each rank settles an ascending list. -/
theorem eq_of_level_eq {l m : List α} (ascends : Ascends rank l) (ascends' : Ascends rank m)
    (same : ∀ n, level rank n l = level rank n m) : l = m := by
  induction l generalizing m with
  | nil =>
      symm
      rw [List.eq_nil_iff_forall_not_mem]
      intro thing member
      exact List.not_mem_nil ((mem_iff_of_level_eq same thing).2 member)
  | cons a l ih =>
      have members := mem_iff_of_level_eq same
      cases m with
      | nil => exact absurd ((members a).1 List.mem_cons_self) List.not_mem_nil
      | cons b m =>
          -- each list starts at the lowest rank that either has
          have low : rank a ≤ rank b := ascends.le_of_mem ((members b).2 List.mem_cons_self)
          have low' : rank b ≤ rank a := ascends'.le_of_mem ((members a).1 List.mem_cons_self)
          have ranks : rank b = rank a := Nat.le_antisymm low' low
          have first := same (rank a)
          rw [level_cons_self, ← ranks, level_cons_self, ranks] at first
          obtain ⟨rfl, rest⟩ := List.cons_eq_cons.1 first
          have same' : ∀ n, level rank n l = level rank n m := by
            intro n
            by_cases here : rank a = n
            · exact here ▸ rest
            · simpa only [level_cons_of_ne here] using same n
          rw [ih ascends.of_cons ascends'.of_cons same']

/-! ## Arranging -/

theorem arrange_perm (things : List α) : (arrange rank things).Perm things :=
  List.mergeSort_perm things _

theorem ascends_arrange (things : List α) : Ascends rank (arrange rank things) :=
  List.pairwise_mergeSort noHigher_trans noHigher_total things

theorem arrange_of_ascends {things : List α} (ascends : Ascends rank things) :
    arrange rank things = things :=
  List.mergeSort_of_pairwise ascends

theorem ascends_level (n : Nat) (things : List α) : Ascends rank (level rank n things) := by
  rw [Ascends, level, List.pairwise_filter]
  apply List.pairwise_of_forall
  intro a b here here'
  rw [decide_eq_true_iff] at here here'
  exact noHigher_iff.2 (Nat.le_of_eq (here.trans here'.symm))

/-- Things of one rank stay as they were given. -/
theorem level_arrange (n : Nat) (things : List α) :
    level rank n (arrange rank things) = level rank n things := by
  have kept : (level rank n things).Sublist (arrange rank things) :=
    List.sublist_mergeSort noHigher_trans noHigher_total (ascends_level n things)
      List.filter_sublist
  have within : (level rank n things).Sublist (level rank n (arrange rank things)) := by
    have here := kept.filter (rank · = n)
    simpa only [level, List.filter_filter, Bool.and_self] using here
  have long : (level rank n (arrange rank things)).length = (level rank n things).length :=
    ((arrange_perm things).filter _).length_eq
  exact (within.eq_of_length long.symm).symm

/-- Where no two things share a rank, the given order does not show. -/
theorem arrange_eq_of_perm (distinct : ∀ a b, rank a = rank b → a = b) {xs ys : List α}
    (perm : xs.Perm ys) : arrange rank xs = arrange rank ys := by
  have perm' : (arrange rank xs).Perm (arrange rank ys) :=
    (arrange_perm xs).trans (perm.trans (arrange_perm ys).symm)
  refine List.Perm.eq_of_pairwise ?_ (ascends_arrange xs) (ascends_arrange ys) perm'
  intro a b _ _ low high
  exact distinct a b (Nat.le_antisymm (noHigher_iff.1 low) (noHigher_iff.1 high))

/-! ## Merging -/

/-- Ascending lists are merged to one that has at each rank what the first has there, and then what
the second has. -/
theorem level_merge (n : Nat) {xs : List α} (ascends : Ascends rank xs) (ys : List α) :
    level rank n (xs.merge ys (noHigher rank)) = level rank n xs ++ level rank n ys := by
  induction xs generalizing ys with
  | nil => simp [level]
  | cons x xs ih =>
      induction ys with
      | nil => simp [level]
      | cons y ys ihy =>
          rw [List.cons_merge_cons]
          split
          · rw [level_cons, ih ascends.of_cons, level_cons n x xs, List.append_assoc]
          · rename_i high
            rw [level_cons, ihy, level_cons n y ys]
            by_cases here : rank y = n
            · -- what is left of the first list ranks higher than what goes ahead of it
              have none : level rank n (x :: xs) = [] := by
                rw [List.eq_nil_iff_forall_not_mem]
                intro thing member
                obtain ⟨member, there⟩ := mem_level.1 member
                have low := ascends.le_of_mem member
                rw [noHigher_iff] at high
                omega
              rw [none, List.nil_append, List.nil_append]
            · have none : level rank n [y] = [] := level_cons_of_ne here []
              rw [none, List.nil_append, List.nil_append]

theorem arrange_append (xs ys : List α) :
    arrange rank (xs ++ ys) = (arrange rank xs).merge (arrange rank ys) (noHigher rank) := by
  have ascends : Ascends rank ((arrange rank xs).merge (arrange rank ys) (noHigher rank)) :=
    List.pairwise_merge noHigher_trans noHigher_total _ _ (ascends_arrange xs) (ascends_arrange ys)
  apply eq_of_level_eq (ascends_arrange (xs ++ ys)) ascends
  intro n
  rw [level_arrange, level_append, level_merge n (ascends_arrange xs), level_arrange,
    level_arrange]

/-- The front of a merge is made from fronts that are at least as long. -/
theorem take_merge_take (le : α → α → Bool) {count i j : Nat} (left : count ≤ i)
    (right : count ≤ j) (xs ys : List α) :
    ((xs.take i).merge (ys.take j) le).take count = (xs.merge ys le).take count := by
  induction count generalizing i j xs ys with
  | zero => rfl
  | succ count ih =>
      obtain ⟨i, rfl⟩ := Nat.exists_eq_add_one_of_ne_zero (Nat.ne_zero_of_lt left)
      obtain ⟨j, rfl⟩ := Nat.exists_eq_add_one_of_ne_zero (Nat.ne_zero_of_lt right)
      cases xs with
      | nil =>
          rw [List.take_nil, List.nil_merge, List.nil_merge, List.take_take,
            Nat.min_eq_left right]
      | cons x xs =>
          cases ys with
          | nil =>
              rw [List.take_nil, List.merge_right, List.merge_right, List.take_take,
                Nat.min_eq_left left]
          | cons y ys =>
              -- one list loses its first, the other is cut where it was
              have first := ih (Nat.le_of_succ_le_succ left) (Nat.le_of_succ_le right) xs (y :: ys)
              have second := ih (Nat.le_of_succ_le left) (Nat.le_of_succ_le_succ right) (x :: xs) ys
              simp only [List.take_succ_cons, List.cons_merge_cons] at first second ⊢
              split
              · simp only [List.take_succ_cons, first]
              · simp only [List.take_succ_cons, second]

/-- The first few of two lists are the first few of the first few of each. -/
theorem take_arrange_append (count : Nat) (xs ys : List α) :
    (arrange rank (xs ++ ys)).take count =
      (arrange rank ((arrange rank xs).take count ++ (arrange rank ys).take count)).take count := by
  have front (zs : List α) :
      arrange rank ((arrange rank zs).take count) = (arrange rank zs).take count :=
    arrange_of_ascends (ascends_arrange zs).take
  rw [arrange_append, arrange_append, front, front,
    take_merge_take _ (Nat.le_refl count) (Nat.le_refl count)]

/-! ## Fronts -/

/-- A front of some things: these are the front and others, none of which ranks lower, and at each
rank it has the first of the things. -/
structure Front (rank : α → Nat) (things front : List α) : Prop where
  ascends : Ascends rank front
  others : ∃ others, (front ++ others).Perm things ∧
    ∀ thing ∈ front, ∀ other ∈ others, rank thing ≤ rank other
  first : ∀ n, level rank n front <+: level rank n things

theorem front_take_arrange (count : Nat) (things : List α) :
    Front rank things ((arrange rank things).take count) := by
  have ascends : Ascends rank (arrange rank things) := ascends_arrange things
  refine ⟨ascends.take, ⟨(arrange rank things).drop count, ?_, ?_⟩, ?_⟩
  · rw [List.take_append_drop]
    exact arrange_perm things
  · intro thing front other later
    rw [Ascends, ← List.take_append_drop count (arrange rank things), List.pairwise_append]
      at ascends
    exact noHigher_iff.1 (ascends.2.2 thing front other later)
  · intro n
    rw [← level_arrange n things]
    exact (List.take_prefix count (arrange rank things)).filter _

theorem countP_lt_succ (n : Nat) (things : List α) :
    things.countP (rank · < n + 1) =
      things.countP (rank · < n) + (level rank n things).length := by
  rw [level, ← List.countP_eq_length_filter]
  induction things with
  | nil => rfl
  | cons thing things ih =>
      simp only [List.countP_cons, decide_eq_true_iff, ih]
      rcases Nat.lt_trichotomy (rank thing) n with lower | here | higher
      · rw [if_pos (by omega), if_pos lower, if_neg (by omega)]
        omega
      · rw [if_pos (by omega), if_neg (by omega), if_pos here]
        omega
      · rw [if_neg (by omega), if_neg (by omega), if_neg (by omega)]
        omega

/-- Things below a rank are in the front until it is full. -/
theorem Front.countP_eq {things front : List α} (isFront : Front rank things front) (n : Nat) :
    front.countP (rank · < n) = min front.length (things.countP (rank · < n)) := by
  obtain ⟨others, perm, above⟩ := isFront.others
  have total : things.countP (rank · < n) =
      front.countP (rank · < n) + others.countP (rank · < n) := by
    rw [← perm.countP_eq, List.countP_append]
  have short : front.countP (rank · < n) ≤ front.length := List.countP_le_length
  by_cases all : ∀ thing ∈ front, rank thing < n
  · have full : front.countP (rank · < n) = front.length :=
      List.countP_eq_length.2 fun thing member => decide_eq_true (all thing member)
    omega
  · have none : others.countP (rank · < n) = 0 := by
      rw [List.countP_eq_zero]
      intro other later low
      apply all
      intro thing member
      exact Nat.lt_of_le_of_lt (above thing member other later) (of_decide_eq_true low)
    omega

/-- Fronts of one length are the same. -/
theorem Front.unique {things front front' : List α} (isFront : Front rank things front)
    (isFront' : Front rank things front') (same : front.length = front'.length) :
    front = front' := by
  apply eq_of_level_eq isFront.ascends isFront'.ascends
  intro n
  have lengths : (level rank n front).length = (level rank n front').length := by
    have below := isFront.countP_eq n
    have below' := isFront'.countP_eq n
    have upTo := isFront.countP_eq (n + 1)
    have upTo' := isFront'.countP_eq (n + 1)
    rw [countP_lt_succ] at upTo upTo'
    omega
  have within : level rank n front <+: level rank n front' :=
    List.prefix_of_prefix_length_le (isFront.first n) (isFront'.first n) (Nat.le_of_eq lengths)
  exact within.eq_of_length lengths

end Overlay.Ranking
