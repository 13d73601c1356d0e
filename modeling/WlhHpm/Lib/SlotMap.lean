import Mathlib.Data.Finmap
import Mathlib.Tactic

/-!
# Finite maps in a table of slots

A table of slots, each free or taken by a key and a value, is one way to store a finite map. `Represents`
relates the two: no key takes two slots, and the map has the entries that are in the table. A free
slot may be taken for a new key, and a taken one may be given a new value or be freed.
-/

namespace WlhHpm

/-- A table of slots, each free or taken by a key and its value. -/
abbrev Slots (κ ν : Type*) := List (Option (κ × ν))

section Slots
variable {κ ν : Type*} [DecidableEq κ]

/-- The table stores the finite map. -/
structure Represents (l : Slots κ ν) (m : Finmap fun _ : κ => ν) : Prop where
  /-- No key takes two slots. -/
  distinct : ∀ (i j : Nat) (k : κ) (v w : ν),
    l[i]? = some (some (k, v)) → l[j]? = some (some (k, w)) → i = j
  lookup : ∀ (k : κ) (v : ν), m.lookup k = some v ↔ ∃ i : Nat, l[i]? = some (some (k, v))
  card : m.keys.card = l.countP Option.isSome

namespace Represents
variable {l : Slots κ ν} {m : Finmap fun _ : κ => ν}

/-- A table of free slots stores the empty map. -/
lemma empty (n : Nat) : Represents (List.replicate n (none : Option (κ × ν))) ∅ where
  distinct := by
    intro i j k v w at_i
    cases (List.mem_replicate.mp (List.mem_of_getElem? at_i)).2
  lookup := by
    intro k v
    refine iff_of_false (by simp) ?_
    rintro ⟨i, at_i⟩
    cases (List.mem_replicate.mp (List.mem_of_getElem? at_i)).2
  card := by simp [List.countP_replicate]

/-- A key of the map has a slot. -/
lemma mem_iff (rep : Represents l m) (k : κ) : k ∈ m ↔ ∃ (i : Nat) (v : ν), l[i]? = some (some (k, v)) := by
  rw [Finmap.mem_iff]
  simp only [rep.lookup]
  exact exists_comm

/-- A slot is free exactly if the map has fewer entries than there are slots. -/
lemma free_iff (rep : Represents l m) : none ∈ l ↔ m.keys.card < l.length := by
  rw [rep.card]
  have le : l.countP Option.isSome ≤ l.length := List.countP_le_length
  constructor
  · intro free
    refine lt_of_le_of_ne le fun all => ?_
    cases List.countP_eq_length.mp all none free
  · intro lt
    by_contra full
    refine lt.ne (List.countP_eq_length.mpr fun slot mem => ?_)
    cases slot with
    | none => exact absurd mem full
    | some entry => rfl

/-- Writing a slot that is free or already holds the key puts the entry into the map. -/
lemma set_some (rep : Represents l m) {i : Nat} {k : κ} {slot : Option (κ × ν)}
    (at_i : l[i]? = some slot) (fits : ∀ (j : Nat) (w : ν), l[j]? = some (some (k, w)) → j = i)
    (own : ∀ entry ∈ slot, entry.1 = k) (v : ν) :
    Represents (l.set i (some (k, v))) (m.insert k v) := by
  obtain ⟨lt, eq⟩ := List.getElem?_eq_some_iff.mp at_i
  have get (j : Nat) : (l.set i (some (k, v)))[j]? = if i = j then some (some (k, v)) else l[j]? := by
    rw [List.getElem?_set]
    split <;> rfl
  refine ⟨fun j j' k' w w' at_j at_j' => ?_, fun k' w => ?_, ?_⟩
  · -- another slot that holds `k` would have been slot `i`
    rw [get] at at_j at_j'
    split at at_j <;> split at at_j'
    · omega
    · cases at_j
      have := fits _ _ at_j'
      omega
    · cases at_j'
      have := fits _ _ at_j
      omega
    · exact rep.distinct _ _ _ _ _ at_j at_j'
  · by_cases key : k' = k
    · subst key
      rw [Finmap.lookup_insert, Option.some_inj]
      constructor
      · rintro rfl
        exact ⟨i, by rw [get, if_pos rfl]⟩
      · rintro ⟨j, at_j⟩
        rw [get] at at_j
        split at at_j
        · cases at_j
          rfl
        · rename_i ne
          exact absurd (fits _ _ at_j).symm ne
    · rw [Finmap.lookup_insert_of_ne _ key, rep.lookup]
      constructor
      · rintro ⟨j, at_j⟩
        refine ⟨j, ?_⟩
        rw [get, if_neg]
        · exact at_j
        · rintro rfl
          rw [at_i, Option.some_inj] at at_j
          exact key (own _ at_j)
      · rintro ⟨j, at_j⟩
        rw [get] at at_j
        split at at_j
        · cases at_j
          exact absurd rfl key
        · exact ⟨j, at_j⟩
  · have keys : (m.insert k v).keys = insert k m.keys := by
      ext k'
      simp only [Finmap.mem_keys, Finmap.mem_insert, Finset.mem_insert]
    rw [keys, List.countP_set lt, eq, ← rep.card]
    cases slot with
    | none =>
      have new : k ∉ m.keys := by
        rw [Finmap.mem_keys, rep.mem_iff]
        rintro ⟨j, w, at_j⟩
        obtain rfl := fits j w at_j
        rw [at_i] at at_j
        cases at_j
      rw [Finset.card_insert_of_notMem new]
      rfl
    | some entry =>
      have old : k ∈ m.keys := by
        rw [Finmap.mem_keys, rep.mem_iff]
        refine ⟨i, entry.2, ?_⟩
        rw [at_i, ← own entry rfl]
      rw [Finset.insert_eq_of_mem old]
      have pos := Finset.card_pos.mpr ⟨k, old⟩
      simp only [Option.isSome_some, if_true]
      omega

/-- Freeing the slot of a key takes the key out of the map. -/
lemma set_none (rep : Represents l m) {i : Nat} {k : κ} {w : ν} (at_i : l[i]? = some (some (k, w))) :
    Represents (l.set i none) (m.erase k) := by
  obtain ⟨lt, eq⟩ := List.getElem?_eq_some_iff.mp at_i
  have get (j : Nat) (entry : κ × ν) :
      (l.set i none)[j]? = some (some entry) ↔ i ≠ j ∧ l[j]? = some (some entry) := by
    rw [List.getElem?_set]
    split
    · rename_i same
      simp [same]
    · rename_i ne
      simp [ne]
  refine ⟨fun j j' k' v v' at_j at_j' => ?_, fun k' v => ?_, ?_⟩
  · exact rep.distinct _ _ _ _ _ ((get _ _).mp at_j).2 ((get _ _).mp at_j').2
  · simp only [get]
    by_cases key : k' = k
    · subst key
      rw [Finmap.lookup_erase]
      refine iff_of_false (by simp) ?_
      rintro ⟨j, ne, at_j⟩
      exact ne (rep.distinct _ _ _ _ _ at_i at_j)
    · rw [Finmap.lookup_erase_ne key, rep.lookup]
      refine exists_congr fun j => ⟨fun at_j => ⟨?_, at_j⟩, And.right⟩
      rintro rfl
      rw [at_i] at at_j
      cases at_j
      exact key rfl
  · have old : k ∈ m.keys := by
      rw [Finmap.mem_keys, rep.mem_iff]
      exact ⟨i, w, at_i⟩
    rw [Finmap.keys_erase, Finset.card_erase_of_mem old, List.countP_set lt, eq, ← rep.card]
    rfl

end Represents

end Slots

end WlhHpm
