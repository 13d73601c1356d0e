import Mathlib.Data.List.Nodup
import Mathlib.Order.Lattice

/-!
# Lists in the order of priorities

Elements of any type `ι` with priorities `prio` in a linear order; less is more urgent. `insertPrio` puts an
element behind those that are as urgent, in front of the first that is less urgent. `frontPrio` is the
priority of the first element, or a default if there is none.

In a list in order the first element is a most urgent one, and inserting keeps the order. An element
whose priority has changed is taken out and inserted again.
-/

namespace WlhHpm.PrioList
variable {ι α : Type*}

/-- The priority of the first element. -/
def frontPrio (prio : ι → α) (none : α) : List ι → α
  | [] => none
  | x :: _ => prio x

variable [LinearOrder α]

/-- An element is inserted behind those that are as urgent. -/
def insertPrio (prio : ι → α) (t : ι) : List ι → List ι
  | [] => [t]
  | x :: l => if prio t < prio x then t :: x :: l else x :: insertPrio prio t l

/-- The list is in order. -/
def InOrder (prio : ι → α) (l : List ι) : Prop := l.Pairwise (prio · ≤ prio ·)

variable {prio prio' : ι → α} {none : α} {t x : ι} {l : List ι}

/-- One more element. -/
lemma insertPrio_perm (prio : ι → α) (t : ι) (l : List ι) : (insertPrio prio t l).Perm (t :: l) := by
  induction l with
  | nil => exact List.Perm.refl _
  | cons x l ih =>
    rw [insertPrio]
    split_ifs
    · exact List.Perm.refl _
    · exact (ih.cons x).trans (List.Perm.swap t x l)

/-- The new element and the old ones. -/
lemma mem_insertPrio : x ∈ insertPrio prio t l ↔ x = t ∨ x ∈ l :=
  (insertPrio_perm prio t l).mem_iff.trans List.mem_cons

/-- An insertion keeps the order. -/
lemma InOrder.insertPrio (order : InOrder prio l) (t : ι) : InOrder prio (insertPrio prio t l) := by
  induction l with
  | nil => exact List.pairwise_singleton _ t
  | cons x l ih =>
    obtain ⟨first, rest⟩ := List.pairwise_cons.mp order
    rw [PrioList.insertPrio]
    split_ifs with urgent
    · refine List.pairwise_cons.mpr ⟨fun y mem => ?_, order⟩
      rcases List.mem_cons.mp mem with rfl | mem
      · exact urgent.le
      · exact urgent.le.trans (first y mem)
    · refine List.pairwise_cons.mpr ⟨fun y mem => ?_, ih rest⟩
      rcases mem_insertPrio.mp mem with rfl | mem
      · exact not_lt.mp urgent
      · exact first y mem

/-- Only the priorities in the list matter. -/
lemma InOrder.congr (order : InOrder prio l) (same : ∀ x ∈ l, prio' x = prio x) : InOrder prio' l := by
  refine List.Pairwise.imp_of_mem (fun {a b} mem mem' le => ?_) order
  rw [same a mem, same b mem']
  exact le

omit [LinearOrder α] in
/-- Only the priorities in the list count. -/
lemma frontPrio_congr (same : ∀ x ∈ l, prio' x = prio x) :
    frontPrio prio' none l = frontPrio prio none l := by
  cases l with
  | nil => rfl
  | cons x l => exact same x List.mem_cons_self

/-- The first element is a most urgent one. -/
lemma InOrder.front_le (order : InOrder prio l) (mem : x ∈ l) : frontPrio prio none l ≤ prio x := by
  cases l with
  | nil => cases mem
  | cons y l =>
    rcases List.mem_cons.mp mem with rfl | mem
    · exact le_rfl
    · exact (List.pairwise_cons.mp order).1 x mem

omit [LinearOrder α] in
/-- The front is the priority of an element, if there is one. -/
lemma frontPrio_mem (prio : ι → α) (none : α) (some : l ≠ []) :
    ∃ x ∈ l, frontPrio prio none l = prio x := by
  cases l with
  | nil => exact absurd rfl some
  | cons x l => exact ⟨x, List.mem_cons_self, rfl⟩

/-- What lies behind the first element is no more urgent. -/
lemma InOrder.front_rest (order : InOrder prio (x :: l)) (top : prio x ≤ none) :
    prio x ≤ frontPrio prio none l := by
  cases l with
  | nil => exact top
  | cons y l => exact (List.pairwise_cons.mp order).1 y List.mem_cons_self

/-- The front of a list after an element has been inserted. -/
lemma frontPrio_insertPrio (top : prio t ≤ none) :
    frontPrio prio none (insertPrio prio t l) =
      if prio t < frontPrio prio none l then prio t else frontPrio prio none l := by
  cases l with
  | nil =>
    by_cases lt : prio t < none
    · exact (if_pos lt).symm
    · exact (le_antisymm top (not_lt.mp lt)).trans (if_neg lt).symm
  | cons x l =>
    by_cases lt : prio t < prio x
    · simp [insertPrio, frontPrio, lt]
    · simp [insertPrio, frontPrio, lt]

section Again
variable [DecidableEq ι]

/-- An element whose priority has changed is inserted again. -/
lemma InOrder.again (order : InOrder prio l) (nodup : l.Nodup)
    (same : ∀ x, x ≠ t → prio' x = prio x) :
    InOrder prio' (PrioList.insertPrio prio' t (l.erase t)) := by
  refine InOrder.insertPrio (InOrder.congr (order.sublist List.erase_sublist) fun x mem => ?_) t
  exact same x (nodup.mem_erase_iff.mp mem).1

/-- An element that is taken out and inserted again. -/
lemma again_perm (prio : ι → α) (mem : t ∈ l) : (insertPrio prio t (l.erase t)).Perm l :=
  (insertPrio_perm prio t _).trans (List.perm_cons_erase mem).symm

/-- If it has become more urgent, so has the front. -/
lemma InOrder.front_again (order : InOrder prio l) (nodup : l.Nodup) (mem : t ∈ l)
    (same : ∀ x, x ≠ t → prio' x = prio x) (le : prio' t ≤ prio t) :
    frontPrio prio' none (PrioList.insertPrio prio' t (l.erase t)) ≤ frontPrio prio none l := by
  obtain ⟨x, mem', eq⟩ := frontPrio_mem prio none (List.ne_nil_of_mem mem)
  have inside := (again_perm prio' mem).mem_iff.mpr mem'
  refine (InOrder.front_le (order.again nodup same) inside).trans ?_
  rw [eq]
  by_cases is : x = t
  · rw [is]
    exact le
  · exact (same x is).le

end Again

end WlhHpm.PrioList
