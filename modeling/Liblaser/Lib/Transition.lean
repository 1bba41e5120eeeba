/-!
# `Lib.Transition` — runs of a labelled transition system

A step relation says which state a label can lead to. `Run step s labels t` is a run from `s` to `t`; its
labels are kept newest first, so that what happened last is at the head.

**`Run.invariant`** is the one induction: what holds at the start and is kept by every step holds at the
end of every run, and may speak of the labels so far. `Run.split` cuts a run where its labels are cut.

Nothing here knows what the system is.
-/

namespace Transition

variable {σ α : Type} {step : σ → α → σ → Prop} {s t u : σ} {labels newer older : List α} {a : α}

/-- A run, with its labels newest first. -/
inductive Run (step : σ → α → σ → Prop) (s : σ) : List α → σ → Prop where
  | refl : Run step s [] s
  | step {labels : List α} {t u : σ} {a : α} (hrun : Run step s labels t) (hstep : step t a u) :
      Run step s (a :: labels) u

/-- **The run rule.** What holds at the start and is kept by every step that can be reached holds at the
    end of every run. -/
theorem Run.invariant {I : List α → σ → Prop}
    (hkeep : ∀ labels t a u, Run step s labels t → I labels t → step t a u → I (a :: labels) u)
    (hrun : Run step s labels t) (hs : I [] s) : I labels t := by
  induction hrun with
  | refl => exact hs
  | step hrun hstep ih => exact hkeep _ _ _ _ hrun ih hstep

/-- A run whose labels are cut in two passes through a state at the cut. -/
theorem Run.split (hrun : Run step s (newer ++ older) u) :
    ∃ t, Run step s older t ∧ Run step t newer u := by
  -- by the labels after the cut, from the end of the run backwards
  induction newer generalizing u with
  | nil => exact ⟨u, hrun, .refl⟩
  | cons a newer ih =>
      cases hrun with
      | step hrun hstep =>
          obtain ⟨t, hst, htu⟩ := ih hrun
          exact ⟨t, hst, .step htu hstep⟩

/-- The step relation with the state it is taken from in its label. -/
def Traced (step : σ → α → σ → Prop) (s : σ) (a : σ × α) (t : σ) : Prop := a.1 = s ∧ step s a.2 t

/-- In a traced run a label is a step from the state it carries, reached by the labels before it. -/
theorem Run.traced {hist newer older : List (σ × α)} {p : σ × α} (hrun : Run (Traced step) s hist t)
    (hhist : hist = newer ++ p :: older) : Run (Traced step) s older p.1 ∧ ∃ u, step p.1 p.2 u := by
  subst hhist
  obtain ⟨u, hrun, -⟩ := hrun.split
  cases hrun with
  | step hrun hstep =>
      obtain ⟨heq, hstep⟩ := hstep
      subst heq
      exact ⟨hrun, _, hstep⟩

end Transition
