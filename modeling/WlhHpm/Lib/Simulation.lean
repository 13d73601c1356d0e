import Mathlib.Logic.Basic

/-!
# Simulation of machines with outputs

A machine answers each input and moves on (`step : σ → α → β × σ`). What it is for is a relation
`spec t a b t'`: in state `t` the input `a` may be answered with `b`, and the state is `t'` after it.
`Trace` is a run of the relation, with its answers. `simulation`: if the answer to every
input is one that the relation allows in a related state, then the answers of every run of
the machine are those of a run of the relation.
-/

namespace WlhHpm

section Simulation
variable {σ τ α β : Type*}

/-- The answers of a machine to a list of inputs. -/
def answers (step : σ → α → β × σ) : σ → List α → List β
  | _, [] => []
  | s, a :: l => (step s a).1 :: answers step (step s a).2 l

/-- The state of a machine after a list of inputs. -/
def after (step : σ → α → β × σ) (s : σ) (l : List α) : σ := l.foldl (fun s a => (step s a).2) s

/-- A run of a relation with its answers. -/
inductive Trace (spec : τ → α → β → τ → Prop) : τ → List α → List β → τ → Prop where
  | nil {t} : Trace spec t [] [] t
  | cons {t t' u a b as bs} (one : spec t a b t') (rest : Trace spec t' as bs u) :
    Trace spec t (a :: as) (b :: bs) u

variable {step : σ → α → β × σ} {spec : τ → α → β → τ → Prop}

/-- A machine whose every answer is allowed in a related state, along a whole run. -/
lemma simulation {R : σ → τ → Prop}
    (each : ∀ s t a, R s t → ∃ t', spec t a (step s a).1 t' ∧ R (step s a).2 t') {s t}
    (start : R s t) (l : List α) :
    ∃ u, Trace spec t l (answers step s l) u ∧ R (after step s l) u := by
  induction l generalizing s t with
  | nil => exact ⟨t, .nil, start⟩
  | cons a l ih =>
    obtain ⟨t', one, related⟩ := each s t a start
    obtain ⟨u, rest, last⟩ := ih related
    exact ⟨u, .cons one rest, last⟩

end Simulation

end WlhHpm
