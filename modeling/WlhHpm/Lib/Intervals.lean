import Mathlib.Data.List.Chain
import Mathlib.Data.List.Nodup
import Mathlib.Order.Interval.Set.Basic

/-!
# Intervals that must not overlap

Items with a key, each of which takes a half-open interval `[lo, hi)` of the line that belongs to its
key. Two questions about them are answered here in general.

* `groupBy` is what a program does that collects the items of each key in a dictionary, in the order
  in which the keys are first seen. `pairwise_groupBy`: a relation holds between any two items of a
  group, for all groups, exactly when it holds between any two items with the same key.
* Whether any two intervals of a list overlap is decided on the list sorted by `lo` by a look at its
  neighbours only (`isChain_before_iff`). The intervals must not be empty: an empty interval inside
  another one hides from its left neighbour what comes after it.
-/

namespace WlhHpm.Intervals

/-! ## Groups -/

section Groups
variable {α κ : Type*} [DecidableEq κ] (key : α → κ)

/-- Append an item to the list of its key; a new key comes last. -/
def insert (x : α) : List (κ × List α) → List (κ × List α)
  | [] => [(key x, [x])]
  | (k, xs) :: groups => if k = key x then (k, xs ++ [x]) :: groups else (k, xs) :: insert x groups

/-- The items of each key, in the order of the list. -/
def groupBy (xs : List α) : List (κ × List α) := xs.foldl (fun groups x => insert key x groups) []

/-- A key that is there already. -/
lemma insert_of_mem {x : α} {ks : List κ} (f : κ → List α) (nodup : ks.Nodup) (mem : key x ∈ ks) :
    insert key x (ks.map fun k => (k, f k)) =
      ks.map fun k => (k, if k = key x then f k ++ [x] else f k) := by
  induction ks with
  | nil => cases mem
  | cons k ks ih =>
    obtain ⟨fresh, nodup⟩ := List.nodup_cons.mp nodup
    rw [List.map_cons, List.map_cons, insert]
    by_cases here : k = key x
    · rw [if_pos here, if_pos here]
      congr 1
      apply List.map_congr_left
      intro k' mem'
      rw [if_neg]
      rintro rfl
      exact fresh (here ▸ mem')
    · rw [if_neg here, if_neg here]
      rcases List.mem_cons.mp mem with eq | later
      · exact absurd eq.symm here
      · rw [ih nodup later]

/-- A key that is new. -/
lemma insert_of_notMem {x : α} {ks : List κ} (f : κ → List α) (new : key x ∉ ks) :
    insert key x (ks.map fun k => (k, f k)) = (ks.map fun k => (k, f k)) ++ [(key x, [x])] := by
  induction ks with
  | nil => rfl
  | cons k ks ih =>
    rw [List.mem_cons, not_or] at new
    obtain ⟨ne, later⟩ := new
    rw [List.map_cons, insert, if_neg (Ne.symm ne), ih later, List.cons_append]

/-- The dictionary has every key once, with the items of that key in the order of the list. -/
lemma groupBy_eq (xs : List α) :
    ∃ ks : List κ, ks.Nodup ∧ (∀ k, k ∈ ks ↔ ∃ x ∈ xs, key x = k) ∧
      groupBy key xs = ks.map fun k => (k, xs.filter fun x => key x = k) := by
  induction xs using List.reverseRecOn with
  | nil => exact ⟨[], List.nodup_nil, by simp, rfl⟩
  | append_singleton xs x ih =>
    obtain ⟨ks, nodup, keys, eq⟩ := ih
    have last : groupBy key (xs ++ [x]) = insert key x (groupBy key xs) := by
      rw [groupBy, List.foldl_append]
      rfl
    have filter (k : κ) : (xs ++ [x]).filter (fun x => key x = k) =
        if k = key x then xs.filter (fun x => key x = k) ++ [x] else xs.filter fun x => key x = k := by
      rw [List.filter_append]
      split
      · rename_i here
        rw [List.filter_cons_of_pos (by simpa using here.symm), List.filter_nil]
      · rename_i other
        rw [List.filter_cons_of_neg (by simpa using Ne.symm other), List.filter_nil, List.append_nil]
    by_cases mem : key x ∈ ks
    · refine ⟨ks, nodup, fun k => ?_, ?_⟩
      · rw [keys k]
        constructor
        · rintro ⟨y, my, rfl⟩
          exact ⟨y, List.mem_append_left _ my, rfl⟩
        · rintro ⟨y, my, rfl⟩
          rcases List.mem_append.mp my with old | new
          · exact ⟨y, old, rfl⟩
          · rw [List.mem_singleton.mp new]
            exact (keys _).mp mem
      · rw [last, eq, insert_of_mem key _ nodup mem]
        apply List.map_congr_left
        intro k _
        rw [filter k]
    · refine ⟨ks ++ [key x], ?_, fun k => ?_, ?_⟩
      · rw [← List.concat_eq_append]
        exact nodup.concat mem
      · rw [List.mem_append, List.mem_singleton, keys k]
        simp only [List.mem_append, List.mem_singleton, or_and_right, exists_or, exists_eq_left]
        exact or_congr_right eq_comm
      · have none : xs.filter (fun y => key y = key x) = [] := by
          rw [List.filter_eq_nil_iff]
          intro y my same
          exact mem ((keys _).mpr ⟨y, my, of_decide_eq_true same⟩)
        rw [last, eq, insert_of_notMem key _ mem, List.map_append]
        congr 1
        · apply List.map_congr_left
          intro k mk
          rw [filter k, if_neg]
          rintro rfl
          exact mem mk
        · rw [List.map_singleton, filter, if_pos rfl, none, List.nil_append]

/-- A relation between the items of each key. -/
lemma pairwise_filter_key {R : α → α → Prop} {xs : List α} :
    (∀ k, (xs.filter fun x => key x = k).Pairwise R) ↔
      xs.Pairwise fun a b => key a = key b → R a b := by
  simp only [List.pairwise_filter, decide_eq_true_eq]
  constructor
  · intro keys
    rw [List.pairwise_iff_getElem]
    intro i j lti ltj lt same
    exact List.pairwise_iff_getElem.mp (keys (key xs[i])) i j lti ltj lt rfl same.symm
  · intro all k
    refine all.imp ?_
    rintro a b rel rfl same
    exact rel same.symm

/-- A relation between the items of every group. -/
theorem pairwise_groupBy (R : α → α → Prop) (xs : List α) :
    (∀ group ∈ groupBy key xs, group.2.Pairwise R) ↔
      xs.Pairwise fun a b => key a = key b → R a b := by
  obtain ⟨ks, -, keys, eq⟩ := groupBy_eq key xs
  rw [eq, List.forall_mem_map, ← pairwise_filter_key]
  constructor
  · intro groups k
    by_cases mem : k ∈ ks
    · exact groups k mem
    · -- a key that no item has
      rw [List.filter_eq_nil_iff.mpr]
      · exact .nil
      · intro x mx same
        exact mem ((keys k).mpr ⟨x, mx, of_decide_eq_true same⟩)
  · intro all k _
    exact all k

end Groups

/-! ## Neighbours -/

section Neighbours
variable {α β : Type*} [LinearOrder β] (lo hi : α → β)

/-- The interval of `a` ends before the one of `b` begins. -/
def Before (a b : α) : Prop := hi a ≤ lo b

/-- The two intervals have no point in common. -/
def Apart (a b : α) : Prop := Set.Ico (lo a) (hi a) ∩ Set.Ico (lo b) (hi b) = ∅

variable {lo hi}

/-- It does not matter which comes first. -/
lemma Apart.symm {a b : α} (apart : Apart lo hi a b) : Apart lo hi b a := by
  rwa [Apart, Set.inter_comm]

/-- An interval that ends before another begins. -/
lemma Before.apart {a b : α} (before : Before lo hi a b) : Apart lo hi a b := by
  rw [Apart, Set.eq_empty_iff_forall_notMem]
  rintro x ⟨inA, inB⟩
  exact absurd (inA.2.trans_le before) (not_lt.mpr inB.1)

variable (nonempty : ∀ a, lo a < hi a)
include nonempty

/-- Of two intervals that are apart, the one that begins first ends first. -/
lemma Apart.before {a b : α} (apart : Apart lo hi a b) (le : lo a ≤ lo b) : Before lo hi a b := by
  by_contra after
  -- otherwise the first point of `b` is a point of `a` too
  exact Set.eq_empty_iff_forall_notMem.mp apart (lo b)
    ⟨⟨le, not_le.mp after⟩, ⟨le_rfl, nonempty b⟩⟩

/-- Three intervals, one after the other. -/
lemma Before.trans {a b c : α} (ab : Before lo hi a b) (bc : Before lo hi b c) : Before lo hi a c :=
  le_trans (le_trans ab (nonempty b).le) bc

/-- In a sorted list it is enough to look at neighbours. -/
theorem isChain_before_iff {l : List α} (sorted : l.Pairwise fun a b => lo a ≤ lo b) :
    l.IsChain (Before lo hi) ↔ l.Pairwise (Apart lo hi) := by
  have : Trans (Before lo hi) (Before lo hi) (Before lo hi) := ⟨Before.trans nonempty⟩
  rw [List.isChain_iff_pairwise]
  constructor
  · intro before
    exact before.imp Before.apart
  · intro apart
    exact (apart.and sorted).imp fun h => h.1.before nonempty h.2

end Neighbours

end WlhHpm.Intervals
