import Liblaser.Css.Exclusion

/-!
# `Css.Timeout` — when a `LASER_ERR_IO` is true

`laser_css_session_begin()` returns `LASER_ERR_IO` on `ETIMEDOUT` without another look at `css_open`, and a
wait that is over returns only once its thread has `css_mtx`. What happened in between is not seen: the
session it waited for may have been closed, or it may be its own cookie's by now.

**`timeouts_honest_iff`**: the timeouts of a run are all honest if and only if each waiter was
`Undisturbed` until it returned. `WaitInvariant` is what carries it: whoever waits went to wait when the
drive was another's.
-/

namespace Liblaser

open Transition

variable {τ : Type} [DecidableEq τ] {s s' : Sessions τ} {e : SessionEvent τ}
  {hist : List (SessionEvent τ)} {entry : LaserEntry} {t : τ} {owner : Nat}

/-! ## Waiting -/

/-- Is it this thread going to wait? -/
def SessionEvent.waitsOf (t : τ) : SessionEvent τ → Bool
  | .waits t' _ => t' == t
  | _ => false

/-- The events since `t` last went to wait. -/
def sinceWait (t : τ) (hist : List (SessionEvent τ)) : List (SessionEvent τ) :=
  hist.takeWhile fun e => !e.waitsOf t

/-- Since `t` last went to wait no session was opened or closed; or the last of those was another
    cookie's `begin()`. -/
def Undisturbed (t : τ) (owner : Nat) (hist : List (SessionEvent τ)) : Prop :=
  ∀ after, Lease.change ((sinceWait t hist).map SessionEvent.lease) = some after →
    ∃ other, after = some other ∧ other ≠ owner

theorem waitsOf_ofBegin_ne {t' : τ} {r : Option LaserStatus} (h : t' ≠ t) :
    (SessionEvent.ofBegin t' owner r).waitsOf t = false := by
  cases r <;> simp [SessionEvent.ofBegin, SessionEvent.waitsOf, h]

/-- A `begin()` from the top of its loop: the thread that waits after it went to wait in it, as the drive
    was another's, or is not its own. -/
theorem beginLoop_waiting {t' : τ} {owner' : Nat}
    (hwaiting : ((s.leave t' owner' (beginLoop owner' s.entry)).threads t).waiting = some owner) :
    (SessionEvent.ofBegin t' owner' (beginLoop owner' s.entry).1 = .waits t owner
        ∧ s.entry.cssOpen = true ∧ s.entry.cssOwner ≠ some owner)
      ∨ ((SessionEvent.ofBegin t' owner' (beginLoop owner' s.entry).1).waitsOf t = false
        ∧ (s.threads t).waiting = some owner) := by
  by_cases ht : t = t'
  · subst ht
    left
    simp only [Sessions.leave, Function.update_self] at hwaiting
    unfold beginLoop at hwaiting ⊢
    by_cases hopen : s.entry.cssOpen = true
    · rw [if_pos hopen] at hwaiting ⊢
      by_cases hown : s.entry.cssOwner = some owner'
      · rw [if_pos hown] at hwaiting
        cases hwaiting
      · rw [if_neg hown] at hwaiting ⊢
        injection hwaiting with hwaiting
        subst hwaiting
        exact ⟨rfl, hopen, hown⟩
    · rw [if_neg hopen] at hwaiting
      cases hwaiting
  · right
    simp only [Sessions.leave, Function.update_of_ne ht] at hwaiting
    exact ⟨waitsOf_ofBegin_ne (Ne.symm ht), hwaiting⟩

/-- A thread that waits after a step went to wait in it, or waited already. -/
theorem SessionStep.waiting (hstep : SessionStep s e s')
    (hwaiting : (s'.threads t).waiting = some owner) :
    (e = .waits t owner ∧ s.entry.cssOpen = true ∧ s.entry.cssOwner ≠ some owner)
      ∨ (e.waitsOf t = false ∧ (s.threads t).waiting = some owner) := by
  cases hstep with
  | beginNull t' hidle => exact .inr ⟨rfl, hwaiting⟩
  | begin t' owner' hidle => exact beginLoop_waiting hwaiting
  | wake t' owner' timedOut hblocked =>
      refine .inr ⟨rfl, ?_⟩
      by_cases ht : t = t'
      · subst ht
        simp only [Function.update_self] at hwaiting
        rw [hblocked]
        exact hwaiting
      · simpa only [Function.update_of_ne ht] using hwaiting
  | resume t' owner' timedOut hwoken =>
      cases timedOut
      · exact beginLoop_waiting hwaiting
      · by_cases ht : t = t'
        · subst ht
          simp only [Sessions.leave, Function.update_self] at hwaiting
          cases hwaiting
        · simp only [Sessions.leave, Function.update_of_ne ht] at hwaiting
          exact .inr ⟨waitsOf_ofBegin_ne (Ne.symm ht), hwaiting⟩
  | finish t' owner' hidle => exact .inr ⟨rfl, hwaiting⟩

/-- Whoever waits went to wait when the drive was another's. -/
def WaitInvariant (hist : List (SessionEvent τ)) (s : Sessions τ) : Prop :=
  ∀ t owner, (s.threads t).waiting = some owner →
    ∃ older other, hist = sinceWait t hist ++ .waits t owner :: older
      ∧ Lease.holder (older.map SessionEvent.lease) = some other ∧ other ≠ owner

theorem WaitInvariant.step (hinv : SessionInvariant hist s.entry) (h : WaitInvariant hist s)
    (hstep : SessionStep s e s') : WaitInvariant (e :: hist) s' := by
  intro t owner hwaiting
  obtain ⟨he, hopen, hother⟩ | ⟨he, hbefore⟩ := hstep.waiting hwaiting
  · -- it finds a session open, and the session is not its own
    subst he
    have hflag := hinv.flag
    rw [hopen] at hflag
    obtain ⟨other, hother'⟩ := Option.isSome_iff_exists.mp hflag.symm
    refine ⟨hist, other, ?_, ?_, ?_⟩
    · simp [sinceWait, SessionEvent.waitsOf]
    · rw [← hinv.owner, hother']
    · intro heq
      rw [hother', heq] at hother
      exact hother rfl
  · obtain ⟨older, other, hhist, hholder, hne⟩ := h t owner hbefore
    have hmore : sinceWait t (e :: hist) = e :: sinceWait t hist := by
      simp [sinceWait, he]
    refine ⟨older, other, ?_, hholder, hne⟩
    rw [hmore, List.cons_append, ← hhist]

theorem WaitInvariant.run (hrun : Run SessionStep (Sessions.start entry) hist s) :
    WaitInvariant hist s := by
  apply hrun.invariant (I := WaitInvariant)
  · intro hist s e s' hrun h hstep
    exact h.step (.run hrun) hstep
  · intro t owner hwaiting
    cases hwaiting

/-! ## Timing out -/

/-- `LASER_ERR_IO` comes from a wait that was over, and from nowhere else. -/
theorem SessionStep.timedOut {cookie : Option Nat}
    (hstep : SessionStep s (.returned t cookie .errIo) s') :
    ∃ owner, cookie = some owner ∧ (s.threads t).waiting = some owner := by
  generalize he : SessionEvent.returned t cookie .errIo = e at hstep
  cases hstep with
  | beginNull t' hidle => cases he
  | begin t' owner hidle =>
      unfold beginLoop at he
      split at he
      · split at he <;> cases he
      · cases he
  | wake t' owner timedOut hblocked => cases he
  | resume t' owner timedOut hwoken =>
      cases timedOut
      · simp only [beginWoken, Bool.false_eq_true, if_false] at he
        unfold beginLoop at he
        split at he
        · split at he <;> cases he
        · cases he
      · cases he
        exact ⟨owner, rfl, by rw [hwoken]; rfl⟩
  | finish t' owner hidle => cases he

/-- One timeout: the session open as it is decided is another's exactly if the waiter was undisturbed. -/
theorem undisturbed_iff (hrun : Run SessionStep (Sessions.start entry) hist s)
    (hwaiting : (s.threads t).waiting = some owner) :
    (s.entry.cssOpen = true ∧ s.entry.cssOwner ≠ some owner) ↔ Undisturbed t owner hist := by
  have hinv := SessionInvariant.run hrun
  obtain ⟨older, other, hhist, hholder, hne⟩ := WaitInvariant.run hrun t owner hwaiting
  -- the owner now is the last change since the wait, or else the one of then
  have howner : s.entry.cssOwner
      = (Lease.change ((sinceWait t hist).map SessionEvent.lease)).getD (some other) := by
    have hlog := congrArg (List.map SessionEvent.lease) hhist
    rw [List.map_append, List.map_cons] at hlog
    rw [hinv.owner, hlog, Lease.holder_append]
    show (Lease.change _).getD (Lease.holder (.other :: _)) = _
    rw [Lease.holder_other, hholder]
  rw [hinv.flag]
  unfold Undisturbed
  rw [howner]
  cases Lease.change ((sinceWait t hist).map SessionEvent.lease) with
  | none => simpa using hne
  | some after => cases after <;> simp

/-- Every `LASER_ERR_IO` of the run was decided with a session of another cookie open. -/
def TimeoutsHonest (entry : LaserEntry) (hist : List (SessionEvent τ)) (s : Sessions τ) : Prop :=
  ∀ newer older t cookie u u', hist = newer ++ .returned t cookie .errIo :: older →
    Run SessionStep (Sessions.start entry) older u → SessionStep u (.returned t cookie .errIo) u' →
    Run SessionStep u' newer s → u.entry.cssOpen = true ∧ u.entry.cssOwner ≠ cookie

/-- **Honest timeouts.** The timeouts of a run are all honest if and only if every waiter that timed out
    was undisturbed, from when it last went to wait until it returned. -/
theorem timeouts_honest_iff (hrun : Run SessionStep (Sessions.start entry) hist s) :
    TimeoutsHonest entry hist s
      ↔ ∀ newer older t owner, hist = newer ++ .returned t (some owner) .errIo :: older →
        Undisturbed t owner older := by
  constructor
  · intro hhonest newer older t owner hhist
    rw [hhist] at hrun
    obtain ⟨u', hbefore, hafter⟩ := hrun.split
    -- the run up to the return ends in the step that decided it
    cases hbefore with
    | @step _ u _ _ hbefore hstep =>
        obtain ⟨owner', hcookie, hwaiting⟩ := hstep.timedOut
        injection hcookie with hcookie
        subst hcookie
        exact (undisturbed_iff hbefore hwaiting).mp
          (hhonest newer older t _ u u' hhist hbefore hstep hafter)
  · intro hundisturbed newer older t cookie u u' hhist hbefore hstep _
    obtain ⟨owner, hcookie, hwaiting⟩ := hstep.timedOut
    subst hcookie
    exact (undisturbed_iff hbefore hwaiting).mpr (hundisturbed newer older t owner hhist)

/-- The first consumer never ends its session, and the second's timeout says so. -/
theorem timeouts_honest_leaked : ∃ s : Sessions Bool,
    TimeoutsHonest {} [.returned true (some 2) .errIo, .woke true true, .waits true 2,
      .returned false (some 1) .ok] s := by
  have hrun : Run SessionStep (Sessions.start {} : Sessions Bool)
      [.returned true (some 2) .errIo, .woke true true, .waits true 2, .returned false (some 1) .ok] _ :=
    (((Run.refl.step (.begin false 1 rfl)).step (.begin true 2 rfl)).step
      (.wake true 2 true rfl)).step (.resume true 2 true rfl)
  refine ⟨_, (timeouts_honest_iff hrun).mpr ?_⟩
  intro newer older t owner hhist
  cases newer with
  | nil =>
      cases hhist
      intro after hafter
      cases hafter
  | cons e newer =>
      rw [List.cons_append] at hhist
      injection hhist with _ htail
      have hmem := List.mem_append_right newer
        (List.mem_cons_self (a := SessionEvent.returned t (some owner) .errIo) (l := older))
      rw [← htail] at hmem
      simp at hmem

/-- The second consumer's deadline passes, the first ends its session, and only then does the second get
    `css_mtx`: it returns `LASER_ERR_IO` with the drive free. -/
theorem timeout_of_free_drive : ¬ ∀ (entry : LaserEntry) (hist : List (SessionEvent Bool))
    (s s' : Sessions Bool) (t : Bool) (cookie : Option Nat),
    Run SessionStep (Sessions.start entry) hist s → SessionStep s (.returned t cookie .errIo) s' →
    s.entry.cssOpen = true ∧ s.entry.cssOwner ≠ cookie := by
  intro h
  have hrun : Run SessionStep (Sessions.start {} : Sessions Bool) _ _ :=
    (((Run.refl.step (.begin false 1 rfl)).step (.begin true 2 rfl)).step
      (.wake true 2 true rfl)).step (.finish false (some 1) rfl)
  have hopen := (h {} _ _ _ true (some 2) hrun (.resume true 2 true rfl)).1
  cases hopen

end Liblaser
