import Liblaser.Threads.Lock

/-!
# `Threads.Gone` — after `device_gone` is latched

`device_gone` is looked at before `io_lock` and not after it. So a call that comes after the latch is
refused, at once and without waiting (`Refusing`); but a thread that was past its look when the flag went
up, queued on `io_lock` say, gets the lock and goes out to the device as if nothing had happened, unless it
is a `laser_scsi_cdb()` and the token has been cancelled.

**`device_gone_terminal_iff`** is both: what comes after is refused on every run, and nothing goes out
exactly when nobody that was past its look runs. `device_gone_queued` is a run in which somebody does.
-/

namespace Liblaser

open Loop Transition

variable {τ : Type} {i : τ} {sh sh' : Shared τ} {pc pc' : Thread} {did : Did} {entry : LaserEntry}

/-- `device_gone` is raised by a `laser_scsi_cdb()` that returns, which releases `io_lock`. -/
theorem latch_gone : Latch fun sh : Shared τ => sh.entry.deviceGone = true :=
  fun hact hgone => hact.deviceGone hgone

/-- The status a `laser_scsi_cdb()` returned with, if this is its return. -/
def Did.returned : Did → Option LaserStatus
  | .refused _ why => some why.status
  | .round _ _ (some r) => some r.status
  | _ => none

variable [DecidableEq τ] {s t : Machine τ} {hist mid : History τ} {call : CheckedCall}

/-- How many acts of the thread there are. -/
def acts (i : τ) (hist : History τ) : Nat := hist.countP fun p => p.2.1 == i

/-- A `laser_scsi_cdb()` of thread `i` was entered at `p`, the latch raised already, and is still in the
    library after `mid`; the slot has not been released. -/
structure Pending (i : τ) (call : CheckedCall) (mid : History τ) (p : Machine τ × τ × Did) : Prop where
  entered : p.2 = (i, .entered call)
  gone : p.1.shared.entry.deviceGone = true
  stays : ∀ q ∈ mid, q.2.2 ≠ .freed ∧ (q.2.1 = i → q.2.2.returned = none)

/-- **The invariant of a call that comes after the latch**: it is at one of its checks, so many acts after it
    has entered. -/
structure Refusing (i : τ) (call : CheckedCall) (mid : History τ) (t : Machine τ) : Prop where
  gone : t.shared.entry.deviceGone = true
  waits : (t.threads i = .atGate call ∧ acts i mid = 0) ∨ (t.threads i = .atPoll call ∧ acts i mid = 1)
    ∨ (t.threads i = .atLatch call ∧ acts i mid = 2)

/-- Is it at one of them? -/
def Thread.checks (pc : Thread) (call : CheckedCall) : Prop :=
  pc = .atGate call ∨ pc = .atPoll call ∨ pc = .atLatch call

/-- What such a call can do: pass a check that is not the last, or be refused. -/
inductive RefusingAct (sh : Shared τ) (call : CheckedCall) : Thread → Did → Thread → Prop where
  | gate : RefusingAct sh call (.atGate call) (.gated call) (.atPoll call)
  | poll : RefusingAct sh call (.atPoll call) .looked (.atLatch call)
  | session (hgated : call.gated = true) (hshut : sh.entry.cssOpen = false) :
      RefusingAct sh call (.atGate call) (.refused call.1 .session) .idle
  | cancelled : RefusingAct sh call (.atPoll call) (.refused call.1 .cancelled) .idle
  | gone : RefusingAct sh call (.atLatch call) (.refused call.1 .gone) .idle

omit [DecidableEq τ] in
theorem Act.refusing (hact : Act i sh pc did sh' pc') (hgone : sh.entry.deviceGone = true)
    (hchecks : pc.checks call) : RefusingAct sh call pc did pc' := by
  rcases hchecks with rfl | rfl | rfl
  · cases hact with
    | gateShut hgated hshut => exact .session hgated hshut
    | gate _ => exact .gate
  · cases hact with
    | pollCancelled _ => exact .cancelled
    | poll _ => exact .poll
  · cases hact with
    | latchGone _ => exact .gone
    | latch hthere =>
        rw [hgone] at hthere
        cases hthere

omit [DecidableEq τ] in
/-- And it can always do something: it waits for no lock. -/
theorem Act.of_checks (sh : Shared τ) (hgone : sh.entry.deviceGone = true) (hchecks : pc.checks call) :
    ∃ did sh' pc', Act i sh pc did sh' pc' := by
  rcases hchecks with rfl | rfl | rfl
  · by_cases hopen : call.gated = true → sh.entry.cssOpen = true
    · exact ⟨_, _, _, .gate hopen⟩
    · obtain ⟨hgated, hshut⟩ := Classical.not_imp.mp hopen
      exact ⟨_, _, _, .gateShut hgated (eq_false_of_ne_true hshut)⟩
  · cases hcancel : sh.entry.cancelled with
    | false => exact ⟨_, _, _, .poll hcancel⟩
    | true => exact ⟨_, _, _, .pollCancelled hcancel⟩
  · exact ⟨_, _, _, .latchGone hgone⟩

theorem Refusing.checks (hrefusing : Refusing i call mid t) : (t.threads i).checks call :=
  hrefusing.waits.imp And.left (Or.imp And.left And.left)

theorem Refusing.step {a : τ × Did} (hrefusing : Refusing i call mid t) (hlive : a.2 ≠ .freed)
    (hin : a.1 = i → a.2.returned = none) (hstep : Step t a s) : Refusing i call ((t, a) :: mid) s := by
  cases hstep with
  | @of sh' pc' hact =>
      refine ⟨hact.entryAct.stays_gone hlive hrefusing.gone, ?_⟩
      show (Function.update t.threads a.1 pc' i = _ ∧ _) ∨ (Function.update t.threads a.1 pc' i = _ ∧ _)
        ∨ (Function.update t.threads a.1 pc' i = _ ∧ _)
      by_cases hi : a.1 = i
      · -- its own act: one check further
        have hcount : acts i ((t, a) :: mid) = acts i mid + 1 := by simp [acts, hi]
        subst hi
        replace hin := hin rfl
        have hwaits := hrefusing.waits
        have hnext := hact.refusing hrefusing.gone hrefusing.checks
        rw [hcount, Function.update_self]
        generalize t.threads a.1 = pc at hwaits hnext
        generalize a.2 = did at hin hnext
        cases hnext with
        | gate => simpa using hwaits
        | poll => simpa using hwaits
        | session _ _ => cases hin
        | cancelled => cases hin
        | gone => cases hin
      · have hcount : acts i ((t, a) :: mid) = acts i mid := by simp [acts, hi]
        rw [hcount, Function.update_of_ne (Ne.symm hi)]
        exact hrefusing.waits

theorem Pending.refusing {older : History τ} {p : Machine τ × τ × Did}
    (hpending : Pending i call mid p) (hrun : MachineRun entry (mid ++ p :: older) s) :
    Refusing i call mid s := by
  obtain ⟨t, hbefore, hrun⟩ := hrun.split
  have henter : Refusing i call [] t := by
    cases hbefore with
    | @step _ u _ _ _ hstep =>
        obtain ⟨heq, hstep⟩ := hstep
        subst heq
        rw [hpending.entered] at hstep
        cases hstep with
        | of hact =>
            generalize p.1.threads i = pc at hact
            cases hact with
            | enter _ _ => exact ⟨hpending.gone, .inl ⟨Function.update_self .., rfl⟩⟩
  -- by the run since then
  have hkept : (∀ q ∈ mid, q.2.2 ≠ .freed ∧ (q.2.1 = i → q.2.2.returned = none)) →
      Refusing i call mid s := by
    apply hrun.invariant
      (I := fun mid s => (∀ q ∈ mid, q.2.2 ≠ .freed ∧ (q.2.1 = i → q.2.2.returned = none)) →
        Refusing i call mid s)
    · rintro labels u ⟨u', a⟩ w _ ih ⟨heq, hstep⟩ hstays
      have heq : u' = u := heq
      subst heq
      obtain ⟨hlive, hin⟩ := hstays _ List.mem_cons_self
      exact (ih fun q hq => hstays q (List.mem_cons_of_mem _ hq)).step hlive hin hstep
    · exact fun _ => henter
  exact hkept hpending.stays

/-- What becomes of the calls that come after the latch. -/
structure RefusedAfter (hist : History τ) (s : Machine τ) : Prop where
  /-- One that returns has a status that says so, if it did not lack the session it needs. -/
  refused : ∀ newer q mid p older i call st, hist = newer ++ q :: (mid ++ p :: older) →
    Pending i call mid p → q.2.1 = i → q.2.2.returned = some st →
    st = .errNoDevice ∨ st = .errCancelled
      ∨ (q.2.2 = .refused call.1 .session ∧ call.gated = true ∧ q.1.shared.entry.cssOpen = false)
  /-- One that has not returned has at most one act before it, and does not wait to make it. -/
  prompt : ∀ mid p older i call, hist = mid ++ p :: older → Pending i call mid p →
    acts i mid ≤ 2 ∧ ∃ did sh' pc', Act i s.shared (s.threads i) did sh' pc'

theorem RefusedAfter.run (hrun : MachineRun entry hist s) : RefusedAfter hist s where
  refused newer q mid p older i call st hhist hpending hq hreturned := by
    obtain ⟨hbefore, u, hstep⟩ := hrun.traced hhist
    have hrefusing := hpending.refusing hbefore
    cases hstep with
    | of hact =>
        have hchecks := hrefusing.checks
        rw [hq] at hact
        have hnext := hact.refusing hrefusing.gone hchecks
        generalize q.1.threads i = pc at hnext
        generalize q.2.2 = did at hreturned hnext
        cases hnext with
        | gate => cases hreturned
        | poll => cases hreturned
        | session hgated hshut => exact .inr (.inr ⟨rfl, hgated, hshut⟩)
        | cancelled =>
            injection hreturned with hst
            exact .inr (.inl hst.symm)
        | gone =>
            injection hreturned with hst
            exact .inl hst.symm
  prompt mid p older i call hhist hpending := by
    subst hhist
    have hrefusing := hpending.refusing hrun
    refine ⟨?_, Act.of_checks s.shared hrefusing.gone hrefusing.checks⟩
    have hwaits := hrefusing.waits
    omega

/-- **When `device_gone` is terminal.** Of any run: once it is latched no thread makes a transfer, and every
    `laser_scsi_cdb()` entered from then on is refused, exactly when nobody who was past the look at it
    comes to run: no settle's or wait's critical section begins, and no round of a retry loop with the
    token not cancelled. -/
theorem device_gone_terminal_iff (hrun : MachineRun entry hist s) :
    ((∀ p ∈ hist, p.1.shared.entry.deviceGone = true → ¬ Transfers p.2.2.log) ∧ RefusedAfter hist s)
      ↔ ∀ p ∈ hist, p.1.shared.entry.deviceGone = true → ¬ Unchecked p.1.shared p.2.2 := by
  have hclose : ∀ sh : Shared τ, sh.entry.deviceGone = true →
      ¬ (sh.handle = .dropping ∧ sh.entry.deviceGone = false) := by
    rintro sh hgone ⟨-, hthere⟩
    rw [hgone] at hthere
    cases hthere
  rw [← silent_iff latch_gone hclose hrun]
  exact and_iff_left (RefusedAfter.run hrun)

/-- A READ finds the device gone; another, entered after it, is refused. -/
theorem device_gone_terminal_read : ∃ (hist : History Bool) (s : Machine Bool), MachineRun {} hist s
    ∧ (∃ p ∈ hist, p.1.shared.entry.deviceGone = true ∧ p.2.2 = .refused readBlock16 .gone)
    ∧ (∀ p ∈ hist, p.1.shared.entry.deviceGone = true → ¬ Transfers p.2.2.log)
    ∧ RefusedAfter hist s := by
  let call : CheckedCall := ⟨readBlock16, rfl⟩
  have hrun : MachineRun {} [] (Machine.start {} : Machine Bool) := .refl
  have hrun := hrun.act (i := true) rfl (.enter call rfl)
  have hrun := hrun.act (i := true) rfl (.gate (by decide))
  have hrun := hrun.act (i := true) rfl (.poll rfl)
  have hrun := hrun.act (i := true) rfl (.latch rfl)
  have hrun := hrun.act (i := true) rfl (.lock rfl)
  have hrun := hrun.act (i := true) rfl (.done .scripted (fun u => (⟨0, 0⟩, u)) [.gone] rfl)
  have hrun := hrun.act (i := false) rfl (.enter call rfl)
  have hrun := hrun.act (i := false) rfl (.gate (by decide))
  have hrun := hrun.act (i := false) rfl (.poll rfl)
  have hrun := hrun.act (i := false) rfl (.latchGone rfl)
  refine ⟨_, _, hrun, ⟨_, List.mem_cons_self, rfl, rfl⟩, (device_gone_terminal_iff hrun).mpr ?_⟩
  intro p hp hgone hun
  simp only [List.mem_cons, List.not_mem_nil, or_false] at hp
  rcases hp with rfl | rfl | rfl | rfl | rfl | rfl | rfl | rfl | rfl | rfl <;> first | exact False.elim hun | cases hgone

/-- **A READ after the latch.** Two are queued on `io_lock`; the first finds the device gone, and the second
    has been past its look at the flag. -/
theorem device_gone_queued : ∃ (hist : History Bool) (s : Machine Bool), MachineRun {} hist s
    ∧ ∃ p ∈ hist, p.1.shared.entry.deviceGone = true ∧ Transfers p.2.2.log := by
  let call : CheckedCall := ⟨readBlock16, rfl⟩
  have hrun : MachineRun {} [] (Machine.start {} : Machine Bool) := .refl
  have hrun := hrun.act (i := true) rfl (.enter call rfl)
  have hrun := hrun.act (i := true) rfl (.gate (by decide))
  have hrun := hrun.act (i := true) rfl (.poll rfl)
  have hrun := hrun.act (i := true) rfl (.latch rfl)
  have hrun := hrun.act (i := false) rfl (.enter call rfl)
  have hrun := hrun.act (i := false) rfl (.gate (by decide))
  have hrun := hrun.act (i := false) rfl (.poll rfl)
  have hrun := hrun.act (i := false) rfl (.latch rfl)
  have hrun := hrun.act (i := true) rfl (.lock rfl)
  have hrun := hrun.act (i := true) rfl (.done .scripted (fun u => (⟨0, 0⟩, u)) [.gone] rfl)
  have hrun := hrun.act (i := false) rfl (.lock rfl)
  have hrun := hrun.act (i := false) rfl (.done .scripted (fun u => (⟨0, 0⟩, u)) [.gone] rfl)
  exact ⟨_, _, hrun, _, List.mem_cons_self, rfl, by decide⟩

end Liblaser
