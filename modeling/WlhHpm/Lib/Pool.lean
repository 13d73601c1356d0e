import Mathlib.Data.Multiset.Count
import Mathlib.Data.Finset.Card
import Mathlib.Data.List.Perm.Basic
import Mathlib.Logic.Function.Basic
import WlhHpm.Lib.Run

/-!
# Pools of blocks

A pool owns a set `own` of blocks. `Pool` is the state of its books: which blocks are free, and which
are held by someone (once for every holder). A step (`Pool.Step`) takes a free block, gives a held
one back, or only passes blocks from holder to holder; a leak (`Pool.Leak`) drops a held block without
giving it back.

A block is at most in one place in books that are `Exclusive`, which steps and leaks keep alike. A
pool is `Whole` if every block it owns is in exactly one place. Steps keep that and leaks destroy it
for good, so a pool is whole after a run exactly if nothing leaked along it (`Pool.whole_iff_along`).

`holdings` collects what the threads of a list hold; one of them that takes a step changes its own
part of it (`holdings_get`, `holdings_set`).
-/

namespace WlhHpm

/-- The books of a pool. -/
structure Pool (β : Type*) where
  free : β → Bool
  held : Multiset β

namespace Pool
variable {β : Type*} [DecidableEq β] {p p' : Pool β} {own : Finset β}

/-- The number of places where a block is. -/
def places (p : Pool β) (b : β) : Nat := (p.free b).toNat + p.held.count b

/-- No block is in two places, and foreign blocks are nowhere. -/
structure Exclusive (own : Finset β) (p : Pool β) : Prop where
  once : ∀ b, p.places b ≤ 1
  within : ∀ b, b ∉ own → p.places b = 0

/-- Every block is in one place. -/
def Whole (own : Finset β) (p : Pool β) : Prop := ∀ b ∈ own, p.places b = 1

/-- What a careful user does. -/
inductive Step (p p' : Pool β) : Prop where
  | pass : p'.free = p.free → p'.held = p.held → Step p p'
  | take {b} :
    p.free b = true →
    p'.free = Function.update p.free b false →
    p'.held = b ::ₘ p.held →
    Step p p'
  | give {b} : p'.free = Function.update p.free b true → p.held = b ::ₘ p'.held → Step p p'

/-- A block is dropped. -/
inductive Leak (p p' : Pool β) : Prop where
  | drop {b} : p'.free = p.free → p.held = b ::ₘ p'.held → Leak p p'

/-- A held block is not free. -/
lemma Exclusive.not_free (excl : Exclusive own p) {b} (mem : b ∈ p.held) : p.free b = false := by
  have once := excl.once b
  have pos := Multiset.count_pos.mpr mem
  rw [places] at once
  cases free : p.free b with
  | false => rfl
  | true =>
    rw [free, Bool.toNat_true] at once
    omega

/-- A held block is owned by the pool. -/
lemma Exclusive.mem_own (excl : Exclusive own p) {b} (mem : b ∈ p.held) : b ∈ own := by
  by_contra foreign
  have none := excl.within b foreign
  have pos := Multiset.count_pos.mpr mem
  rw [places] at none
  omega

/-- No block is held twice. -/
lemma Exclusive.nodup (excl : Exclusive own p) : p.held.Nodup := by
  rw [Multiset.nodup_iff_count_le_one]
  intro b
  exact (Nat.le_add_left ..).trans (excl.once b)

/-- No more blocks are held than the pool owns. -/
lemma Exclusive.card_le (excl : Exclusive own p) : p.held.card ≤ own.card := by
  have sub : (⟨p.held, excl.nodup⟩ : Finset β) ⊆ own := fun b mem => excl.mem_own mem
  exact Finset.card_le_card sub

/-- Steps leave every block in as many places as before. -/
lemma Exclusive.places_step (excl : Exclusive own p) (step : Step p p') (b : β) :
    p'.places b = p.places b := by
  cases step with
  | pass free held => rw [places, places, free, held]
  | @take c was free held =>
    by_cases e : b = c
    · subst e
      simp only [places, free, held, Function.update_self, was, Multiset.count_cons_self,
        Bool.toNat_false, Bool.toNat_true]
      omega
    · simp only [places, free, held, Function.update_of_ne e, Multiset.count_cons_of_ne e]
  | @give c free held =>
    by_cases e : b = c
    · subst e
      have used := excl.not_free (b := b) (by rw [held]; exact Multiset.mem_cons_self ..)
      simp only [places, free, held, Function.update_self, used, Multiset.count_cons_self,
        Bool.toNat_false, Bool.toNat_true]
      omega
    · simp only [places, free, held, Function.update_of_ne e, Multiset.count_cons_of_ne e]

/-- A leak takes one block out of its place. -/
lemma places_leak {b : β} (free : p'.free = p.free) (held : p.held = b ::ₘ p'.held) (c : β) :
    p'.places c + (if c = b then 1 else 0) = p.places c := by
  simp only [places, free, held, Multiset.count_cons]
  exact Nat.add_assoc ..

/-- A careful user keeps the blocks apart. -/
lemma Exclusive.step (excl : Exclusive own p) (step : Step p p') : Exclusive own p' where
  once b := (excl.places_step step b).trans_le (excl.once b)
  within b foreign := (excl.places_step step b).trans (excl.within b foreign)

/-- A block that is dropped is in no other place. -/
lemma Exclusive.leak (excl : Exclusive own p) (leak : Leak p p') : Exclusive own p' := by
  cases leak with
  | drop free held =>
    constructor
    case once =>
      intro c
      have fewer := places_leak free held c
      exact (Nat.le_add_right ..).trans (fewer.le.trans (excl.once c))
    case within =>
      intro c foreign
      have fewer := places_leak free held c
      have none := excl.within c foreign
      omega

/-- A step neither makes a pool whole nor breaks it. -/
lemma Exclusive.whole_step (excl : Exclusive own p) (step : Step p p') :
    Whole own p' ↔ Whole own p := by
  refine forall₂_congr fun b _ => ?_
  rw [excl.places_step step]

/-- After a leak the pool is not whole. -/
lemma Exclusive.not_whole_leak (excl : Exclusive own p) (leak : Leak p p') : ¬ Whole own p' := by
  cases leak with
  | @drop b free held =>
    intro whole
    have mem : b ∈ p.held := by
      rw [held]
      exact Multiset.mem_cons_self ..
    have one := whole b (excl.mem_own mem)
    have fewer := places_leak free held b
    have once := excl.once b
    rw [if_pos rfl, one] at fewer
    omega

section Machine
variable {σ α : Type*} {step : σ → α → σ} {pool : σ → Pool β} {I : σ → Prop} {ok : σ → α → Prop}

/-- The pool of a machine is whole exactly if nothing has leaked. -/
lemma whole_iff_along (keep : ∀ s a, I s → I (step s a)) (excl : ∀ s, I s → Exclusive own (pool s))
    (moves : ∀ s a, I s → ok s a → Step (pool s) (pool (step s a)))
    (leaks : ∀ s a, I s → ¬ ok s a → Leak (pool s) (pool (step s a))) {s : σ} (l : List α)
    (inv : I s) (whole : Whole own (pool s)) :
    Whole own (pool (l.foldl step s)) ↔ Along step ok s l := by
  have iff : Whole own (pool (l.foldl step s)) ↔ Whole own (pool s) ∧ Along step ok s l := by
    refine foldl_iff_along (G := fun s => Whole own (pool s)) (fun s a inv _ => keep s a inv) ?_ inv
      fun _ _ => True.intro
    intro s a inv _
    by_cases adm : ok s a
    · rw [(excl s inv).whole_step (moves s a inv adm), and_iff_left adm]
    · exact iff_of_false ((excl s inv).not_whole_leak (leaks s a inv adm)) fun h => adm h.2
  rw [iff, and_iff_right whole]

end Machine

end Pool

/-! ## What many threads hold -/

section Holdings
variable {α β : Type*} (f : α → Option β)

/-- What the members of a list hold, each of them one thing or nothing. -/
def holdings (l : List α) : Multiset β := ↑(l.filterMap f)

/-- Two lists. -/
lemma holdings_append (l₁ l₂ : List α) :
    holdings f (l₁ ++ l₂) = holdings f l₁ + holdings f l₂ := by
  rw [holdings, List.filterMap_append, ← Multiset.coe_add]
  rfl

/-- The first member and the others. -/
lemma holdings_cons (a : α) (l : List α) : holdings f (a :: l) = holdings f [a] + holdings f l :=
  holdings_append f [a] l

/-- The order does not matter. -/
lemma holdings_perm {l₁ l₂ : List α} (perm : l₁.Perm l₂) : holdings f l₁ = holdings f l₂ :=
  Multiset.coe_eq_coe.mpr (perm.filterMap f)

variable {f}

/-- A member that holds nothing. -/
lemma holdings_none {a : α} (is : f a = none) : holdings f [a] = 0 := by
  rw [holdings, List.filterMap_cons_none is]
  rfl

/-- A member that holds something. -/
lemma holdings_some {a : α} {b : β} (is : f a = some b) : holdings f [a] = {b} := by
  rw [holdings, List.filterMap_cons_some is]
  rfl

/-- What is held is held by a member. -/
lemma mem_holdings {l : List α} {b : β} : b ∈ holdings f l ↔ ∃ a ∈ l, f a = some b := by
  rw [holdings, Multiset.mem_coe, List.mem_filterMap]

/-- How often something is held. -/
lemma count_holdings [DecidableEq β] (l : List α) (b : β) :
    (holdings f l).count b = l.countP fun a => f a = some b := by
  rw [holdings, Multiset.coe_count, List.count, List.countP_filterMap]
  congr 1
  funext a
  cases f a with
  | none => simp
  | some c => simp [beq_eq_decide]

/-- As many things as members, if each of them holds one. -/
lemma card_holdings {l : List α} (all : ∀ a ∈ l, ∃ b, f a = some b) :
    (holdings f l).card = l.length := by
  rw [holdings, Multiset.coe_card]
  induction l with
  | nil => rfl
  | cons a l ih =>
    obtain ⟨b, is⟩ := all a List.mem_cons_self
    rw [List.filterMap_cons_some is, List.length_cons, List.length_cons,
      ih fun a mem => all a (List.mem_cons_of_mem _ mem)]

variable (f)

/-- One member and the others. -/
lemma holdings_get {l : List α} {k : Nat} {a : α} (is : l[k]? = some a) :
    holdings f l = holdings f [a] + holdings f (l.eraseIdx k) := by
  obtain ⟨lt, e⟩ := List.getElem?_eq_some_iff.mp is
  rw [← holdings_cons, ← e]
  exact holdings_perm f (List.getElem_cons_eraseIdx_perm lt).symm

/-- One member changed, and the others as they were. -/
lemma holdings_set {l : List α} {k : Nat} {a : α} (is : l[k]? = some a) (a' : α) :
    holdings f (l.set k a') = holdings f [a'] + holdings f (l.eraseIdx k) := by
  obtain ⟨lt, -⟩ := List.getElem?_eq_some_iff.mp is
  rw [← holdings_cons]
  exact holdings_perm f (List.set_perm_cons_eraseIdx lt a')

end Holdings

end WlhHpm
