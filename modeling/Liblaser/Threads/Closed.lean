import Liblaser.Threads.Lock

/-!
# `Threads.Closed` — no transfer on a closed handle

Between its `libusb_close()` and its `release_slot()` the teardown leaves `io_lock` free, and whoever was
queued on it gets it. A `laser_scsi_cdb()` looks at the cancelled flag again and gives up; the settle and
the readiness wait do not look, and go on.

**`closed_handle_silent_iff`**: these two are all that can go wrong. `closed_handle_tested` is one of them
going wrong.
-/

namespace Liblaser

open Loop Transition

variable {τ : Type} {entry : LaserEntry}

/-- The handle is closed by the teardown, which holds `io_lock` for it. -/
theorem latch_closed : Latch fun sh : Shared τ => sh.handle = .closed := by
  intro i sh pc did sh' pc' hact hclosed
  cases hact with
  | close _ _ _ hfree _ => exact .inr hfree
  | free _ => cases hclosed
  | cancel _ => cases hclosed
  | _ => exact .inl hclosed

variable [DecidableEq τ] {s : Machine τ} {hist : History τ}

/-- **When nothing goes out on the closed handle.** Of any run: between `libusb_close()` and
    `release_slot()` no thread makes a bulk or control transfer, exactly when neither a
    `laser_token_settle()` nor a `laser_wait_until_ready()` obtains `io_lock` there. -/
theorem closed_handle_silent_iff (hrun : MachineRun entry hist s) :
    (∀ p ∈ hist, p.1.shared.handle = .closed → ¬ Transfers p.2.2.log)
      ↔ ∀ p ∈ hist, p.1.shared.handle = .closed →
          ∀ log, p.2.2 ≠ .tested log ∧ p.2.2 ≠ .spunUp log := by
  have hclose : ∀ sh : Shared τ, sh.handle = .closed →
      ¬ (sh.handle = .dropping ∧ sh.entry.deviceGone = false) := by
    rintro sh hclosed ⟨hdown, -⟩
    rw [hclosed] at hdown
    cases hdown
  rw [silent_iff latch_closed hclose hrun]
  constructor
  · intro hchecked p hp hclosed log
    refine ⟨fun hdid => hchecked p hp hclosed ?_, fun hdid => hchecked p hp hclosed ?_⟩
    · rw [hdid]
      trivial
    · rw [hdid]
      trivial
  · intro hnone p hp hclosed hun
    obtain ⟨newer, older, hhist⟩ := List.append_of_mem hp
    obtain ⟨hbefore, -⟩ := hrun.traced hhist
    have hcancel := (MachineRun.invariants hbefore).2 (.inr hclosed)
    generalize hdid : p.2.2 = did at hun
    cases did with
    | tested log => exact (hnone p hp hclosed log).1 hdid
    | spunUp log => exact (hnone p hp hclosed log).2 hdid
    | round _ _ _ =>
        -- a round looks again, and the token is cancelled
        have hon : p.1.shared.entry.cancelled = false := hun
        rw [hcancel] at hon
        cases hon
    | _ => cases hun

/-- A READ that was queued on `io_lock` when the last claim was dropped, and gets it after the close. -/
theorem closed_handle_silent_read : ∃ (hist : History Bool) (s : Machine Bool),
    MachineRun {} hist s
      ∧ (∃ p ∈ hist, p.1.shared.handle = .closed ∧ p.2.1 = false)
      ∧ ∀ p ∈ hist, p.1.shared.handle = .closed → ¬ Transfers p.2.2.log := by
  let call : CheckedCall := ⟨readBlock16, rfl⟩
  have hrun : MachineRun {} [] (Machine.start {} : Machine Bool) := .refl
  have hrun := hrun.act (i := false) rfl (.enter call rfl)
  have hrun := hrun.act (i := false) rfl (.gate (by decide))
  have hrun := hrun.act (i := false) rfl (.poll rfl)
  have hrun := hrun.act (i := false) rfl (.latch rfl)
  have hrun := hrun.act (i := true) rfl (.cancel rfl)
  have hrun := hrun.act (i := true) rfl (.close .scripted [] rfl rfl rfl)
  have hrun := hrun.act (i := false) rfl (.lock rfl)
  have hrun := hrun.act (i := false) rfl (.done .scripted (fun u => (⟨0, 0⟩, u)) [] rfl)
  refine ⟨_, _, hrun, ⟨_, List.mem_cons_self, rfl, rfl⟩, ?_⟩
  rw [closed_handle_silent_iff hrun]
  intro p hp _ log
  simp only [List.mem_cons, List.not_mem_nil, or_false] at hp
  rcases hp with rfl | rfl | rfl | rfl | rfl | rfl | rfl | rfl <;> exact ⟨nofun, nofun⟩

/-- **A TEST UNIT READY on a closed handle.** A settle has passed its checks when the last claim is dropped;
    it gets `io_lock` after the close. -/
theorem closed_handle_tested : ∃ (hist : History Bool) (s : Machine Bool), MachineRun {} hist s
    ∧ ∃ p ∈ hist, p.1.shared.handle = .closed ∧ Transfers p.2.2.log := by
  have hrun : MachineRun {} [] (Machine.start {} : Machine Bool) := .refl
  have hrun := hrun.act (i := false) rfl (.settle rfl)
  have hrun := hrun.act (i := false) rfl .settleLatch
  have hrun := hrun.act (i := false) rfl .settlePoll
  have hrun := hrun.act (i := true) rfl (.cancel rfl)
  have hrun := hrun.act (i := true) rfl (.close .scripted [] rfl rfl rfl)
  have hrun := hrun.act (i := false) rfl (.test .scripted (fun u => (⟨0, 0⟩, u)) [] rfl rfl)
  exact ⟨_, _, hrun, _, List.mem_cons_self, rfl, by decide⟩

end Liblaser
