import Mathlib.Data.List.Nodup
import Mathlib.Logic.Function.Basic

/-!
# Linked lists in memory

Nodes of any type `α`, and a function `next` that says where each of them points. `Links next p l`: the
list that starts at the pointer `p` runs through the nodes `l`. The lemmas say what the
operations on such a list do: to put a node in front, to take the first one, to hang a node behind
the last one; and that a change outside the list does not matter.
-/

namespace WlhHpm.LinkedList
variable {α : Type*}

/-- The nodes `l`, in order, from the pointer `p` on. -/
def Links (next : α → Option α) : Option α → List α → Prop
  | p, [] => p = none
  | p, a :: l => p = some a ∧ Links next (next a) l

variable {next next' : α → Option α} {p : Option α} {a : α} {l : List α}

/-- Pointers outside the list do not matter. -/
lemma Links.congr (same : ∀ a ∈ l, next' a = next a) (links : Links next p l) : Links next' p l := by
  induction l generalizing p with
  | nil => exact links
  | cons b l ih =>
    obtain ⟨start, rest⟩ := links
    rw [← same b List.mem_cons_self] at rest
    exact ⟨start, ih (fun a mem => same a (List.mem_cons_of_mem _ mem)) rest⟩

/-- The list behind a pointer that points to nothing. -/
lemma Links.of_none (links : Links next none l) : l = [] := by
  cases l with
  | nil => rfl
  | cons b l => cases links.1

/-- The list behind a pointer to a node. -/
lemma Links.of_some (links : Links next (some a) l) :
    ∃ rest, l = a :: rest ∧ Links next (next a) rest := by
  cases l with
  | nil => cases links
  | cons b l =>
    obtain ⟨start, rest⟩ := links
    cases start
    exact ⟨l, rfl, rest⟩

/-- A pointer points to nothing if its list is empty. -/
lemma Links.eq_none_iff (links : Links next p l) : p = none ↔ l = [] := by
  cases p with
  | none => exact iff_of_true rfl links.of_none
  | some a =>
    obtain ⟨rest, rfl, -⟩ := links.of_some
    exact iff_of_false nofun nofun

section Update
variable [DecidableEq α]

/-- A node that is not in the list may be changed. -/
lemma Links.update (links : Links next p l) (out : a ∉ l) (q : Option α) :
    Links (Function.update next a q) p l :=
  links.congr fun _ mem => Function.update_of_ne (ne_of_mem_of_not_mem mem out) ..

/-- A node is put in front. -/
lemma Links.front (links : Links next p l) (out : a ∉ l) :
    Links (Function.update next a p) (some a) (a :: l) := by
  refine ⟨rfl, ?_⟩
  rw [Function.update_self]
  exact links.update out p

/-- A node that points to nothing is hung behind the last one. -/
lemma Links.snoc {t : α} (links : Links next p (l ++ [t])) (nodup : (l ++ [t]).Nodup)
    (out : a ∉ l ++ [t]) (last : next a = none) :
    Links (Function.update next t (some a)) p (l ++ [t] ++ [a]) := by
  induction l generalizing p with
  | nil =>
    obtain ⟨start, -⟩ := links
    have ne : a ≠ t := fun eq => out (eq ▸ List.mem_cons_self)
    refine ⟨start, ?_, ?_⟩
    · rw [Function.update_self]
    · rw [Function.update_of_ne ne, last]
      rfl
  | cons b l ih =>
    obtain ⟨start, rest⟩ := links
    obtain ⟨outside, nodup'⟩ := List.nodup_cons.mp nodup
    have ne : b ≠ t := fun eq => outside (eq ▸ List.mem_append_right l List.mem_cons_self)
    refine ⟨start, ?_⟩
    rw [Function.update_of_ne ne]
    exact ih rest nodup' fun mem => out (List.mem_cons_of_mem _ mem)

end Update

end WlhHpm.LinkedList
