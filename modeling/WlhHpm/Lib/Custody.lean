import Mathlib.Data.Multiset.Count
import Mathlib.Logic.Function.Basic
import WlhHpm.Lib.Run

/-!
# Custody of items

A component accepts items, each with an index of its own and a payload, keeps them for a while and
hands each of them back once. `Custody` is the state of its books: which items it has accepted,
which it still keeps, and which it has handed back. A step (`Custody.Step`) accepts an item, hands
one back, or changes nothing; a loss (`Custody.Lost`) drops one.

`Sound` books name only accepted items, with their own payload, and each at most once; they stay
sound under steps and losses alike. Books are `Whole` if every accepted item is kept or handed back
exactly once. Steps keep that and losses destroy it for good, so the books are whole after a run
exactly if nothing was lost along it (`Custody.whole_iff_along`).
-/

namespace WlhHpm

/-- The books of a component that accepts items and hands them back. -/
structure Custody (ι α : Type*) where
  accepted : ι → Option α
  kept : Multiset (ι × α)
  returned : Multiset (ι × α)

namespace Custody
variable {ι α : Type*} [DecidableEq ι] {c c' : Custody ι α}

/-- The number of times an item is kept or has been handed back. -/
def total (c : Custody ι α) (i : ι) : Nat :=
  c.kept.countP (fun x => x.1 = i) + c.returned.countP (fun x => x.1 = i)

/-- Only accepted items are on the books, with their payload, and at most once. -/
structure Sound (c : Custody ι α) : Prop where
  kept : ∀ x ∈ c.kept, c.accepted x.1 = some x.2
  returned : ∀ x ∈ c.returned, c.accepted x.1 = some x.2
  once : ∀ i, c.total i ≤ 1

/-- Every accepted item is on the books exactly once. -/
def Whole (c : Custody ι α) : Prop := ∀ i, c.accepted i ≠ none → c.total i = 1

/-- What a careful component does. -/
inductive Step (c : Custody ι α) : Custody ι α → Prop where
  | keep : Step c c
  | accept {i a} : c.accepted i = none →
    Step c ⟨Function.update c.accepted i (some a), (i, a) ::ₘ c.kept, c.returned⟩
  | giveBack {x kept} : c.kept = x ::ₘ kept → Step c ⟨c.accepted, kept, x ::ₘ c.returned⟩

/-- An item is dropped. -/
inductive Lost (c : Custody ι α) : Custody ι α → Prop where
  | lose {x kept} : c.kept = x ::ₘ kept → Lost c ⟨c.accepted, kept, c.returned⟩

/-- An item that was not accepted is not on the books. -/
lemma Sound.total_eq_zero (sound : c.Sound) {i : ι} (new : c.accepted i = none) : c.total i = 0 := by
  have kept : c.kept.countP (fun x => x.1 = i) = 0 := by
    rw [Multiset.countP_eq_zero]
    rintro x mem rfl
    rw [sound.kept x mem] at new
    cases new
  have returned : c.returned.countP (fun x => x.1 = i) = 0 := by
    rw [Multiset.countP_eq_zero]
    rintro x mem rfl
    rw [sound.returned x mem] at new
    cases new
  rw [total, kept, returned]

/-- A new item counts once. -/
lemma total_accept (c : Custody ι α) (i j : ι) (a : α) :
    total ⟨Function.update c.accepted i (some a), (i, a) ::ₘ c.kept, c.returned⟩ j =
      c.total j + if i = j then 1 else 0 := by
  simp only [total, Multiset.countP_cons]
  exact Nat.add_right_comm ..

/-- An item that is given back counts as before. -/
lemma total_giveBack {x : ι × α} {kept : Multiset (ι × α)} (is : c.kept = x ::ₘ kept) (j : ι) :
    total ⟨c.accepted, kept, x ::ₘ c.returned⟩ j = c.total j := by
  simp only [total, is, Multiset.countP_cons]
  rw [Nat.add_right_comm, Nat.add_assoc]

/-- An item that is lost does not count any more. -/
lemma total_lose {x : ι × α} {kept : Multiset (ι × α)} (is : c.kept = x ::ₘ kept) (j : ι) :
    total ⟨c.accepted, kept, c.returned⟩ j + (if x.1 = j then 1 else 0) = c.total j := by
  simp only [total, is, Multiset.countP_cons]
  exact Nat.add_right_comm ..

/-- Steps keep the books sound. -/
lemma Sound.step (sound : c.Sound) (step : Step c c') : c'.Sound := by
  cases step with
  | keep => exact sound
  | @accept i a new =>
    have old : ∀ x : ι × α, c.accepted x.1 = some x.2 →
        Function.update c.accepted i (some a) x.1 = some x.2 := by
      intro x is
      rw [Function.update_of_ne, is]
      rintro rfl
      rw [new] at is
      cases is
    constructor
    case kept =>
      intro x mem
      rcases Multiset.mem_cons.mp mem with rfl | mem
      · exact Function.update_self ..
      · exact old x (sound.kept x mem)
    case returned =>
      intro x mem
      exact old x (sound.returned x mem)
    case once =>
      intro j
      rw [total_accept]
      split
      · rename_i e
        rw [← e, sound.total_eq_zero new]
      · exact sound.once j
  | @giveBack x kept is =>
    constructor
    case kept =>
      intro y mem
      exact sound.kept y (by rw [is]; exact Multiset.mem_cons_of_mem mem)
    case returned =>
      intro y mem
      rcases Multiset.mem_cons.mp mem with rfl | mem
      · exact sound.kept y (by rw [is]; exact Multiset.mem_cons_self ..)
      · exact sound.returned y mem
    case once =>
      intro j
      rw [total_giveBack is]
      exact sound.once j

/-- Losses keep the books sound. -/
lemma Sound.lost (sound : c.Sound) (lost : Lost c c') : c'.Sound := by
  cases lost with
  | @lose x kept is =>
    constructor
    case kept =>
      intro y mem
      exact sound.kept y (by rw [is]; exact Multiset.mem_cons_of_mem mem)
    case returned => exact sound.returned
    case once =>
      intro j
      have fewer := total_lose is j
      exact (Nat.le_add_right ..).trans (fewer.le.trans (sound.once j))

/-- A step neither makes books whole nor breaks them. -/
lemma Sound.whole_step (sound : c.Sound) (step : Step c c') : c'.Whole ↔ c.Whole := by
  cases step with
  | keep => rfl
  | @accept i a new =>
    constructor
    · intro whole j acc
      have ne : i ≠ j := by
        rintro rfl
        exact acc new
      have one := whole j (by simpa only [Function.update_of_ne ne.symm] using acc)
      rw [total_accept, if_neg ne] at one
      exact one
    · intro whole j acc
      rw [total_accept]
      split
      · rename_i e
        rw [← e, sound.total_eq_zero new]
      · rename_i ne
        simp only [Function.update_of_ne (Ne.symm ne)] at acc
        exact whole j acc
  | @giveBack x kept is =>
    refine forall_congr' fun j => ?_
    rw [total_giveBack is]

/-- After a loss the books are not whole. -/
lemma Sound.not_whole_lost (sound : c.Sound) (lost : Lost c c') : ¬ c'.Whole := by
  cases lost with
  | @lose x kept is =>
    intro whole
    have acc := sound.kept x (by rw [is]; exact Multiset.mem_cons_self ..)
    -- the item would still be there once, and once more before the loss
    have one := whole x.1 (by rw [acc]; exact Option.some_ne_none _)
    have fewer := total_lose is x.1
    have once := sound.once x.1
    rw [if_pos rfl, one] at fewer
    omega

section Machine
variable {σ β : Type*} {step : σ → β → σ} {books : σ → Custody ι α} {ok : σ → β → Prop}

/-- The books of a machine stay sound. -/
lemma sound_foldl (moves : ∀ s b, ok s b → Step (books s) (books (step s b)))
    (loses : ∀ s b, ¬ ok s b → Lost (books s) (books (step s b))) {s : σ} (l : List β)
    (sound : (books s).Sound) : (books (l.foldl step s)).Sound := by
  refine foldl_invariant (I := fun s => (books s).Sound) (fun s b sound => ?_) l sound
  by_cases adm : ok s b
  · exact sound.step (moves s b adm)
  · exact sound.lost (loses s b adm)

/-- The books of a machine are whole exactly if it has lost nothing. -/
lemma whole_iff_along (moves : ∀ s b, ok s b → Step (books s) (books (step s b)))
    (loses : ∀ s b, ¬ ok s b → Lost (books s) (books (step s b))) {s : σ} (l : List β)
    (sound : (books s).Sound) (whole : (books s).Whole) :
    (books (l.foldl step s)).Whole ↔ Along step ok s l := by
  have iff : (books (l.foldl step s)).Whole ↔ (books s).Whole ∧ Along step ok s l := by
    refine foldl_iff_along (I := fun s => (books s).Sound) (G := fun s => (books s).Whole) ?_ ?_
      sound fun _ _ => True.intro
    · intro s b sound _
      exact sound_foldl moves loses [b] sound
    · intro s b sound _
      by_cases adm : ok s b
      · rw [sound.whole_step (moves s b adm), and_iff_left adm]
      · exact iff_of_false (sound.not_whole_lost (loses s b adm)) fun h => adm h.2
  rw [iff, and_iff_right whole]

end Machine

end Custody

end WlhHpm
