import Mathlib.Tactic

/-!
# Runs of a machine

A machine is a function `step : σ → α → σ` from states and inputs to states; its run over a list of
inputs is the left fold of `step`. `Along ok s l` says that every step of the run of `l` from `s` is
taken under the condition `ok` on the input and the state before the step.

Three induction rules cover the uses of runs in this development:
* `Along.invariant`: an invariant that every admissible step keeps holds at the end of every run
  whose steps are admissible;
* `Along.carry`: with such an invariant, what it says about each admissible step holds along the
  whole run;
* `foldl_iff_along`: a property that a step keeps exactly when the step is admissible holds at the
  end of a run exactly when all its steps were admissible.
-/

namespace WlhHpm

section Run
variable {σ α : Type*} (step : σ → α → σ)

/-- Every step of the run of `l` from `s` meets the condition `ok`. -/
def Along (ok : σ → α → Prop) : σ → List α → Prop
  | _, [] => True
  | s, a :: l => ok s a ∧ Along ok (step s a) l

variable {step}

instance Along.decidable {ok : σ → α → Prop} [∀ s a, Decidable (ok s a)] :
    ∀ s l, Decidable (Along step ok s l)
  | _, [] => isTrue trivial
  | s, a :: l =>
    have : Decidable (Along step ok (step s a) l) := Along.decidable (step s a) l
    inferInstanceAs (Decidable (ok s a ∧ Along step ok (step s a) l))

/-- A condition on inputs alone holds along every run of such inputs. -/
lemma Along.of_forall {ok : σ → α → Prop} {s l} (h : ∀ a ∈ l, ∀ s, ok s a) : Along step ok s l := by
  induction l generalizing s with
  | nil => trivial
  | cons a l ih => exact ⟨h a (by simp) s, ih fun b hb => h b (by simp [hb])⟩

/-- An invariant kept by every admissible step holds after every admissible run. -/
lemma Along.invariant {ok : σ → α → Prop} {I : σ → Prop}
    (keep : ∀ s a, I s → ok s a → I (step s a)) {s l}
    (al : Along step ok s l) (hs : I s) : I (l.foldl step s) := by
  induction l generalizing s with
  | nil => exact hs
  | cons a l ih => exact ih al.2 (keep s a hs al.1)

/-- Two machines that move together step by step do so along whole runs. -/
lemma Along.simulate {τ : Type*} {step' : τ → α → τ} {ok : σ → α → Prop} {R : σ → τ → Prop}
    (sim : ∀ s t a, R s t → ok s a → R (step s a) (step' t a)) {s t l}
    (al : Along step ok s l) (hs : R s t) : R (l.foldl step s) (l.foldl step' t) := by
  induction l generalizing s t with
  | nil => exact hs
  | cons a l ih => exact ih al.2 (sim s t a hs al.1)

/-- A condition on the inputs of a run may be added to the condition on its steps. -/
lemma Along.and_mem {ok : σ → α → Prop} {adm : α → Prop} {s l} (al : Along step ok s l)
    (hl : ∀ a ∈ l, adm a) : Along step (fun s a => ok s a ∧ adm a) s l := by
  induction l generalizing s with
  | nil => trivial
  | cons a l ih => exact ⟨⟨al.1, hl a (by simp)⟩, ih al.2 fun b hb => hl b (by simp [hb])⟩

/-- Two conditions that hold along a run hold together. -/
lemma Along.and {ok ok' : σ → α → Prop} {s l} (al : Along step ok s l) (al' : Along step ok' s l) :
    Along step (fun s a => ok s a ∧ ok' s a) s l := by
  induction l generalizing s with
  | nil => trivial
  | cons a l ih => exact ⟨⟨al.1, al'.1⟩, ih al.2 al'.2⟩

/-- An invariant kept by every step holds after every run. -/
lemma foldl_invariant {I : σ → Prop} (keep : ∀ s a, I s → I (step s a)) {s} (l : List α)
    (hs : I s) : I (l.foldl step s) := by
  induction l generalizing s with
  | nil => exact hs
  | cons a l ih => exact ih (keep s a hs)

/-- A property kept exactly by the admissible steps holds after exactly the admissible runs. -/
lemma foldl_iff_along {ok : σ → α → Prop} {I G : σ → Prop} {adm : α → Prop}
    (keep : ∀ s a, I s → adm a → I (step s a))
    (exact_step : ∀ s a, I s → adm a → (G (step s a) ↔ G s ∧ ok s a)) {s l}
    (hs : I s) (hl : ∀ a ∈ l, adm a) :
    G (l.foldl step s) ↔ G s ∧ Along step ok s l := by
  induction l generalizing s with
  | nil => simp [Along]
  | cons a l ih =>
    have ha := hl a (by simp)
    rw [List.foldl_cons, ih (keep s a hs ha) (fun b hb => hl b (by simp [hb])),
      exact_step s a hs ha, and_assoc]
    rfl

/-- What follows from an invariant and a condition holds along every run that meets the condition,
    if steps that meet it keep the invariant. -/
lemma Along.carry {ok good : σ → α → Prop} {I : σ → Prop}
    (keep : ∀ s a, I s → ok s a → I (step s a)) (use : ∀ s a, I s → ok s a → good s a) {s l}
    (al : Along step ok s l) (hs : I s) : Along step good s l := by
  induction l generalizing s with
  | nil => trivial
  | cons a l ih => exact ⟨use s a hs al.1, ih al.2 (keep s a hs al.1)⟩

/-- Two conditions that agree on the steps from good states hold along the same runs, if the steps
    that meet one of them lead to good states again. -/
lemma along_congr {good ok : σ → α → Prop} {I : σ → Prop}
    (keep : ∀ s a, I s → ok s a → I (step s a)) (agree : ∀ s a, I s → (good s a ↔ ok s a)) {s l}
    (hs : I s) : Along step good s l ↔ Along step ok s l := by
  constructor
  · intro al
    refine al.carry (I := I) (fun s a hs now => ?_) (fun s a hs => (agree s a hs).mp) hs
    exact keep s a hs ((agree s a hs).mp now)
  · intro al
    exact al.carry keep (fun s a hs => (agree s a hs).mpr) hs

/-- Conditions along a run are conditions along its two parts. -/
lemma along_append {ok : σ → α → Prop} {s l₁ l₂} :
    Along step ok s (l₁ ++ l₂) ↔ Along step ok s l₁ ∧ Along step ok (l₁.foldl step s) l₂ := by
  induction l₁ generalizing s with
  | nil => simp [Along]
  | cons a l ih => simp only [List.cons_append, Along, ih, List.foldl_cons, and_assoc]

end Run

end WlhHpm
