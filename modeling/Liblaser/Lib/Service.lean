import Liblaser.Lib.Transition

/-!
# `Lib.Service` — a service behind a channel that loses calls

A service is a labelled transition system whose labels are a request and its answer. A caller on the far
side of a channel does not see those labels: of each call it hears the answer, or that the request was
not carried out, or nothing that tells. `Call step` is the transition system of what is heard.

What the service did in a run of calls is the run with some calls left out (`Thins`): every answered one
is in it, no lost one is, and each of the others is in it or not. **`run_call_iff`** is that this is all
there is to say, in both directions; the counts a caller can rely on are lemmas about `Thins`.

Nothing here knows what the requests are.
-/

namespace Service

open Transition

variable {σ Q A : Type}

/-- What a caller hears of a call. -/
inductive Heard (A : Type) where
  /-- It was carried out, and this is the answer. -/
  | answer (a : A)
  /-- It was not carried out. -/
  | lost
  /-- It may have been carried out, and no answer came back. -/
  | unknown
deriving DecidableEq, Repr

/-- Is it known not to have been carried out? -/
def Heard.isLost : Heard A → Bool
  | .lost => true
  | _ => false

/-- One call through the channel. -/
inductive Call (step : σ → Q × A → σ → Prop) : σ → Q × Heard A → σ → Prop where
  | answered {s t : σ} {q : Q} {a : A} (hstep : step s (q, a) t) : Call step s (q, .answer a) t
  | lost {s : σ} {q : Q} : Call step s (q, .lost) s
  /-- Carried out, and the answer lost. -/
  | unseen {s t : σ} {q : Q} {a : A} (hstep : step s (q, a) t) : Call step s (q, .unknown) t
  /-- Not carried out, and the caller does not know. -/
  | undone {s : σ} {q : Q} : Call step s (q, .unknown) s

/-- `done` is what the service did of the calls in `log`, both newest first. -/
inductive Thins : List (Q × Heard A) → List (Q × A) → Prop where
  | nil : Thins [] []
  | answered {log : List (Q × Heard A)} {done : List (Q × A)} {q : Q} {a : A} (h : Thins log done) :
      Thins ((q, .answer a) :: log) ((q, a) :: done)
  | lost {log : List (Q × Heard A)} {done : List (Q × A)} {q : Q} (h : Thins log done) :
      Thins ((q, .lost) :: log) done
  | unseen {log : List (Q × Heard A)} {done : List (Q × A)} {q : Q} {a : A} (h : Thins log done) :
      Thins ((q, .unknown) :: log) ((q, a) :: done)
  | undone {log : List (Q × Heard A)} {done : List (Q × A)} {q : Q} (h : Thins log done) :
      Thins ((q, .unknown) :: log) done

variable {step : σ → Q × A → σ → Prop} {s t : σ} {log : List (Q × Heard A)} {done : List (Q × A)}

/-! ## Runs -/

/-- **What a run of calls did to the service**: it ran, on a thinning of the calls. -/
theorem run_call_iff : Run (Call step) s log t ↔ ∃ done, Thins log done ∧ Run step s done t := by
  constructor
  · intro hrun
    induction hrun with
    | refl => exact ⟨[], .nil, .refl⟩
    | step _ hcall ih =>
        obtain ⟨done, hthins, hdone⟩ := ih
        cases hcall with
        | answered hstep => exact ⟨_, .answered hthins, .step hdone hstep⟩
        | lost => exact ⟨_, .lost hthins, hdone⟩
        | unseen hstep => exact ⟨_, .unseen hthins, .step hdone hstep⟩
        | undone => exact ⟨_, .undone hthins, hdone⟩
  · rintro ⟨done, hthins, hdone⟩
    induction hthins generalizing t with
    | nil =>
        cases hdone
        exact .refl
    | answered _ ih =>
        cases hdone with
        | step hdone hstep => exact .step (ih hdone) (.answered hstep)
    | lost _ ih => exact .step (ih hdone) .lost
    | unseen _ ih =>
        cases hdone with
        | step hdone hstep => exact .step (ih hdone) (.unseen hstep)
    | undone _ ih => exact .step (ih hdone) .undone

/-! ## What is carried out -/

/-- What was done was asked for: in order, and each call at most once. -/
theorem Thins.sublist (hthins : Thins log done) : (done.map Prod.fst).Sublist (log.map Prod.fst) := by
  induction hthins with
  | nil => exact .slnil
  | answered _ ih | unseen _ ih => exact ih.cons_cons _
  | lost _ ih | undone _ ih => exact ih.cons _

/-- The calls of one kind thin to what was done of that kind. -/
theorem Thins.filter (p : Q → Bool) (hthins : Thins log done) :
    Thins (log.filter fun c => p c.1) (done.filter fun c => p c.1) := by
  induction hthins with
  | nil => exact .nil
  | @answered _ _ q _ _ ih =>
      cases hq : p q with
      | true => simpa [hq] using ih.answered
      | false => simpa [hq] using ih
  | @lost _ _ q _ ih =>
      cases hq : p q with
      | true => simpa [hq] using ih.lost
      | false => simpa [hq] using ih
  | @unseen _ _ q _ _ ih =>
      cases hq : p q with
      | true => simpa [hq] using ih.unseen
      | false => simpa [hq] using ih
  | @undone _ _ q _ ih =>
      cases hq : p q with
      | true => simpa [hq] using ih.undone
      | false => simpa [hq] using ih

/-- No more is done than was not lost. -/
theorem Thins.length_le (hthins : Thins log done) :
    done.length ≤ log.countP fun c => !c.2.isLost := by
  induction hthins with
  | nil => exact Nat.le_refl _
  | answered _ ih | unseen _ ih => simpa [List.countP_cons, Heard.isLost] using ih
  | lost _ ih => simpa [List.countP_cons, Heard.isLost] using ih
  | undone _ ih =>
      rw [List.countP_cons]
      exact Nat.le_add_right_of_le ih

end Service
