import Mathlib.Data.Set.Insert
import Mathlib.Tactic

/-!
# Resources that are acquired and given back

A `Lease` is the handle that a program holds on a resource, with the number of times that the resource
has been acquired and given back. A handle is null or not; to acquire a resource may fail, which leaves
its handle null, and a null handle is not given back. A lease is `Settled` if its resource has been
given back as often as it was acquired, and that at most once.

`Within S l` is the invariant of a program that only acquires, each resource of `S` at most once; the
rules are `Within.acquire`, `Within.acquireUntil` and `Within.acquireEach`. After such a program
`settled_releaseAll` says what giving back settles.
-/

namespace WlhHpm

/-- A handle, and the number of times that its resource has been acquired and given back. -/
structure Lease where
  handle : Bool
  acquired : Nat
  released : Nat
  deriving DecidableEq, Repr

namespace Lease

/-- A null handle on a resource that was never acquired. -/
def unused : Lease := ⟨false, 0, 0⟩

/-- A resource that was acquired once and not given back. -/
def held : Lease := ⟨true, 1, 0⟩

/-- Given back as often as acquired, and that at most once. -/
def Settled (e : Lease) : Prop := e.handle = false ∧ e.released = e.acquired ∧ e.acquired ≤ 1

instance (e : Lease) : Decidable e.Settled := inferInstanceAs (Decidable (_ ∧ _ ∧ _))

end Lease

/-- The leases of a program on its resources. -/
abbrev Leases (ρ : Type*) := ρ → Lease

namespace Leases
variable {ρ : Type*}

/-- Each resource of `S` has been acquired at most once, no other, and nothing has been given back. -/
structure Within (S : Set ρ) (l : Leases ρ) : Prop where
  each : ∀ r, l r = .unused ∨ l r = .held
  only : ∀ r ∉ S, l r = .unused

/-- More resources may have been acquired. -/
lemma Within.mono {S T : Set ρ} {l : Leases ρ} (within : Within S l) (sub : S ⊆ T) : Within T l :=
  ⟨within.each, fun r out => within.only r fun mem => out (sub mem)⟩

/-- Nothing has been acquired. -/
lemma within_unused : Within ∅ (fun _ : ρ => Lease.unused) := ⟨fun _ => .inl rfl, fun _ _ => rfl⟩

/-- A resource is held or settled. -/
lemma Within.settled_or_held {S : Set ρ} {l : Leases ρ} (within : Within S l) (r : ρ) :
    (l r).Settled ∨ l r = .held := by
  refine (within.each r).imp_left fun unused => ?_
  rw [unused]
  decide

/-- After the first of several new and distinct resources, the others are new still. -/
lemma new_tail {S : Set ρ} {r : ρ} {rs : List ρ} (notMem : r ∉ rs) (new : ∀ r' ∈ r :: rs, r' ∉ S) :
    ∀ r' ∈ rs, r' ∉ insert r S := by
  intro r' mem
  rw [Set.mem_insert_iff, not_or]
  exact ⟨fun same => notMem (same ▸ mem), new r' (List.mem_cons_of_mem _ mem)⟩

/-- The first of some resources has been acquired. -/
lemma Within.after_first {S : Set ρ} {l : Leases ρ} {r : ρ} {rs : List ρ}
    (within : Within (insert r S ∪ {r' | r' ∈ rs}) l) : Within (S ∪ {r' | r' ∈ r :: rs}) l := by
  refine within.mono fun r' mem => ?_
  rcases mem with (rfl | mem) | mem
  · exact .inr List.mem_cons_self
  · exact .inl mem
  · exact .inr (List.mem_cons_of_mem _ mem)

variable [DecidableEq ρ]

/-- Acquire a resource, which succeeds if `ok`. -/
def acquire (l : Leases ρ) (ok : Bool) (r : ρ) : Leases ρ :=
  Function.update l r { l r with handle := ok, acquired := (l r).acquired + if ok then 1 else 0 }

/-- Give a resource back if its handle is not null, and set the handle to null. -/
def release (l : Leases ρ) (r : ρ) : Leases ρ :=
  Function.update l r
    { l r with handle := false, released := (l r).released + if (l r).handle then 1 else 0 }

/-- Acquire resources in order, up to the first that fails; `true` if none does. -/
def acquireUntil (ok : ρ → Bool) : List ρ → Leases ρ → Leases ρ × Bool
  | [], l => (l, true)
  | r :: rs, l =>
    if ok r then acquireUntil ok rs (acquire l true r) else (acquire l false r, false)

/-- Acquire all of the resources, whichever fail. -/
def acquireEach (ok : ρ → Bool) (rs : List ρ) (l : Leases ρ) : Leases ρ :=
  rs.foldl (fun l r => acquire l (ok r) r) l

/-- Give resources back in order. -/
def releaseAll (rs : List ρ) (l : Leases ρ) : Leases ρ := rs.foldl release l

variable {l : Leases ρ} {S : Set ρ} {r r' : ρ} {ok : ρ → Bool} {rs : List ρ}

/-! ## Acquiring -/

/-- What a first attempt to acquire a resource leaves. -/
lemma acquire_self (new : l r = .unused) (ok : Bool) :
    acquire l ok r r = if ok then .held else .unused := by
  rw [acquire, Function.update_self, new]
  cases ok <;> rfl

/-- Nothing changes for a resource that cannot be acquired. -/
lemma acquire_failed (new : l r = .unused) : acquire l false r = l := by
  rw [acquire, new]
  exact Function.update_eq_self_iff.mpr new.symm

/-- Another resource is left alone. -/
lemma acquire_of_ne (ne : r' ≠ r) (ok : Bool) : acquire l ok r r' = l r' := Function.update_of_ne ne ..

/-- One more resource has been acquired. -/
lemma Within.acquire (within : Within S l) (new : r ∉ S) (ok : Bool) :
    Within (insert r S) (Leases.acquire l ok r) := by
  refine ⟨fun r' => ?_, fun r' out => ?_⟩
  · by_cases same : r' = r
    · rw [same, acquire_self (within.only r new)]
      cases ok with
      | true => exact .inr rfl
      | false => exact .inl rfl
    · rw [acquire_of_ne same]
      exact within.each r'
  · rw [Set.mem_insert_iff, not_or] at out
    rw [acquire_of_ne out.1]
    exact within.only r' out.2

/-- The resources that are acquired in order are acquired at most once, if they are new and distinct. -/
lemma Within.acquireUntil (within : Within S l) (ok : ρ → Bool) (rs : List ρ) (new : ∀ r ∈ rs, r ∉ S)
    (nodup : rs.Nodup) :
    Within (S ∪ {r | r ∈ rs}) (Leases.acquireUntil ok rs l).1 := by
  induction rs generalizing l S with
  | nil => exact within.mono fun r mem => .inl mem
  | cons r rs ih =>
    obtain ⟨notMem, nodup⟩ := List.nodup_cons.mp nodup
    have first (b : Bool) := within.acquire (new r List.mem_cons_self) b
    rw [Leases.acquireUntil]
    split
    · exact (ih (first true) (new_tail notMem new) nodup).after_first
    · exact ((first false).mono Set.subset_union_left).after_first

/-- Some more resources have been acquired. -/
lemma Within.acquireEach (within : Within S l) (ok : ρ → Bool) (rs : List ρ) (new : ∀ r ∈ rs, r ∉ S)
    (nodup : rs.Nodup) :
    Within (S ∪ {r | r ∈ rs}) (Leases.acquireEach ok rs l) := by
  induction rs generalizing l S with
  | nil => exact within.mono fun r mem => .inl mem
  | cons r rs ih =>
    obtain ⟨notMem, nodup⟩ := List.nodup_cons.mp nodup
    have first := within.acquire (new r List.mem_cons_self) (ok r)
    exact (ih first (new_tail notMem new) nodup).after_first

/-- Other resources are left alone. -/
lemma acquireUntil_of_notMem (out : r ∉ rs) : (acquireUntil ok rs l).1 r = l r := by
  induction rs generalizing l with
  | nil => rfl
  | cons r' rs ih =>
    rw [List.mem_cons, not_or] at out
    rw [acquireUntil]
    split
    · rw [ih out.2, acquire_of_ne out.1]
    · exact acquire_of_ne out.1 _

/-- Other resources are left alone. -/
lemma acquireEach_of_notMem (out : r ∉ rs) : acquireEach ok rs l r = l r := by
  induction rs generalizing l with
  | nil => rfl
  | cons r' rs ih =>
    rw [List.mem_cons, not_or] at out
    exact (ih out.2).trans (acquire_of_ne out.1 _)

/-- The first resource can be acquired. -/
lemma acquireUntil_held (can : ok r = true) (new : l r = .unused) (out : r ∉ rs) :
    (acquireUntil ok (r :: rs) l).1 r = .held := by
  rw [acquireUntil, if_pos can, acquireUntil_of_notMem out, acquire_self new]
  rfl

/-- The first resource cannot be acquired. -/
lemma acquireUntil_failed (cannot : ok r = false) (new : l r = .unused) :
    (acquireUntil ok (r :: rs) l).1 = l := by
  have never : ¬ ok r = true := by
    rw [cannot]
    decide
  rw [acquireUntil, if_neg never, acquire_failed new]

/-- A resource has a handle if it could be acquired. -/
lemma handle_acquireEach (mem : r ∈ rs) : (acquireEach ok rs l r).handle = ok r := by
  induction rs generalizing l with
  | nil => cases mem
  | cons r' rs ih =>
    by_cases later : r ∈ rs
    · exact ih later
    · obtain rfl := (List.mem_cons.mp mem).resolve_right later
      show (acquireEach ok rs (acquire l (ok r) r) r).handle = ok r
      rw [acquireEach_of_notMem later, acquire, Function.update_self]

/-- All are acquired if none fails. -/
lemma acquireUntil_ok : (acquireUntil ok rs l).2 = rs.all ok := by
  induction rs generalizing l with
  | nil => rfl
  | cons r rs ih =>
    rw [acquireUntil, List.all_cons]
    split
    · rename_i some
      rw [ih, some, Bool.true_and]
    · rename_i none
      simp [none]

/-! ## Giving back -/

/-- Another resource is left alone. -/
lemma release_of_ne (ne : r' ≠ r) : release l r r' = l r' := Function.update_of_ne ne ..

/-- Giving back settles what was held, and leaves alone what is settled. -/
lemma settled_release (each : (l r).Settled ∨ l r = .held) : (release l r r).Settled := by
  rw [release, Function.update_self]
  rcases each with ⟨null, even, once⟩ | held
  · rw [null]
    exact ⟨rfl, even, once⟩
  · rw [held]
    decide

/-- What is settled after a number of resources have been given back: these, and what was so before. -/
lemma settled_releaseAll (each : ∀ r, (l r).Settled ∨ l r = .held) :
    (releaseAll rs l r).Settled ↔ r ∈ rs ∨ (l r).Settled := by
  induction rs generalizing l with
  | nil => simp [releaseAll]
  | cons r' rs ih =>
    have one (r : ρ) : (release l r' r).Settled ↔ r = r' ∨ (l r).Settled := by
      by_cases same : r = r'
      · rw [same]
        exact iff_of_true (settled_release (each r')) (.inl rfl)
      · rw [release_of_ne same, or_iff_right same]
    have each' (r : ρ) : (release l r' r).Settled ∨ release l r' r = .held := by
      by_cases same : r = r'
      · exact .inl ((one r).mpr (.inl same))
      · rw [release_of_ne same]
        exact each r
    rw [releaseAll, List.foldl_cons, ← releaseAll, ih each', one, List.mem_cons, ← or_assoc,
      or_comm (a := r ∈ rs)]

end Leases

end WlhHpm
