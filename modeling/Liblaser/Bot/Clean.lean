import Liblaser.Bot.Spec

/-!
# `Bot.Clean` — no stale status is left behind

A Bulk-Only pipe that is one CSW behind stays one CSW behind: every later command then reads its
predecessor's status. So a call that comes back with the device still there must leave the pipes in
one of three states, read off its log: nothing of the CBW went out; the CSW of this very command was
consumed; or a Mass Storage Reset was the last thing done. **`bot_leaves_no_stale_status`** is that
exactly one of them holds, whatever libusb returned and counted.
-/

namespace Liblaser

variable {U : Type} {h : UsbHost U} {entry : LaserEntry} {req : BotRequest} {cbw : Cbw}
  {tag : UInt32} {log log' older : List UsbEvent}

/-! ## The three clean states -/

/-- Zero CBW bytes went out, and no stall was reported. -/
def CbwUntouched (entry : LaserEntry) (cbw : Cbw) (log : List UsbEvent) : Prop :=
  ∃ pre r, log = pre ++ [.bulk (cbwTransfer entry cbw) r] ∧ r.transferred.getD 0 = 0
    ∧ r.ret ≠ .errorPipe

/-- The last bulk transfer read 13 bytes of CSW with the right signature and this tag, whose status
    is not Phase Error. -/
def CswConsumed (entry : LaserEntry) (tag : UInt32) (log : List UsbEvent) : Prop :=
  ∃ r, log.find? UsbEvent.isBulk = some (.bulk (cswTransfer entry) r) ∧ ReadWhole r
    ∧ ValidCsw tag (Csw.ofBytes r.bytes)

/-- Nothing in the log is the class request of a Mass Storage Reset. -/
def NoReset (log : List UsbEvent) : Prop := ∀ e ∈ log, e.isReset = false

/-- There was exactly one Mass Storage Reset, and no bulk transfer after it. -/
def ResetLast (log : List UsbEvent) : Prop :=
  ∃ newer e older, log = newer ++ e :: older ∧ e.isReset = true
    ∧ (∀ x ∈ newer, x.isBulk = false) ∧ NoReset newer ∧ NoReset older

/-- Exactly one of three. -/
def ExactlyOne (a b c : Prop) : Prop := (a ∧ ¬ b ∧ ¬ c) ∨ (¬ a ∧ b ∧ ¬ c) ∨ (¬ a ∧ ¬ b ∧ c)

/-! ## Logs of a call whose CBW went out -/

/-- The whole CBW went out first, and nothing was reset since. -/
structure AfterCbw (entry : LaserEntry) (cbw : Cbw) (log : List UsbEvent) : Prop where
  sent : ∃ pre r, log = pre ++ [.bulk (cbwTransfer entry cbw) r]
    ∧ r.transferred = some usbBotCbwSize
  noReset : NoReset log

theorem NoReset.cons {e : UsbEvent} (he : e.isReset = false) (hlog : NoReset log) :
    NoReset (e :: log) := by
  intro x hx
  rcases List.mem_cons.mp hx with rfl | hx
  · exact he
  · exact hlog x hx

/-- A transfer or a `clear_halt` leaves the log of such a call. -/
theorem AfterCbw.cons {e : UsbEvent} (he : e.isReset = false) (hlog : AfterCbw entry cbw log) :
    AfterCbw entry cbw (e :: log) := by
  obtain ⟨⟨pre, r, rfl, hn⟩, hno⟩ := hlog
  exact ⟨⟨e :: pre, r, rfl, hn⟩, hno.cons he⟩

theorem AfterCbw.not_untouched (hlog : ∃ pre r, log = pre ++ [.bulk (cbwTransfer entry cbw) r]
    ∧ r.transferred = some usbBotCbwSize) : ¬ CbwUntouched entry cbw log := by
  rintro ⟨pre', r', heq, hzero, -⟩
  obtain ⟨pre, r, rfl, hn⟩ := hlog
  have hlast := (List.append_inj' heq rfl).2
  simp only [List.cons.injEq, UsbEvent.bulk.injEq, and_true, true_and] at hlast
  subst hlast
  rw [hn] at hzero
  simp [usbBotCbwSize] at hzero

/-- The CBW phase, when it goes on. -/
theorem CbwPhaseSpec.afterCbw {t : Nat} (hspec : CbwPhaseSpec entry cbw [] (.ok t) log) :
    AfterCbw entry cbw log := by
  cases hspec with
  | sent hret hn => exact ⟨⟨[], _, rfl, hn⟩, NoReset.cons rfl (by simp [NoReset])⟩

/-- The data phase, when it goes on. -/
theorem DataPhaseSpec.afterCbw {t : Nat} {moved : DataMoved} (hlog : AfterCbw entry cbw log)
    (hspec : DataPhaseSpec h entry req t log none moved log') : AfterCbw entry cbw log' := by
  cases hspec with
  | skipped _ => exact hlog
  | moved _ _ _ _ => exact hlog.cons rfl
  | stalled _ _ _ _ => exact (hlog.cons rfl).cons rfl

/-- The CSW reads before the last one. -/
theorem CswReads.afterCbw (hlog : AfterCbw entry cbw log) (hreads : CswReads entry log log') :
    AfterCbw entry cbw log' := by
  cases hreads with
  | first => exact hlog
  | again _ => exact (hlog.cons rfl).cons rfl

/-! ## Logs that end in a reset -/

theorem ResetAfter.find? (hreset : ResetAfter entry older log) :
    log.find? UsbEvent.isBulk = older.find? UsbEvent.isBulk := by
  obtain ⟨r, r₁, r₂, rfl⟩ := hreset
  rfl

theorem ResetAfter.resetLast (hno : NoReset older) (hreset : ResetAfter entry older log) :
    ResetLast log := by
  obtain ⟨r, r₁, r₂, rfl⟩ := hreset
  refine ⟨[.clearHalt entry.epOut r₂, .clearHalt entry.epIn r₁], .control (resetRequest entry) r,
    older, rfl, rfl, ?_, ?_, hno⟩
  · simp [UsbEvent.isBulk]
  · simp [NoReset, UsbEvent.isReset]

theorem NoReset.not_resetLast (hno : NoReset log) : ¬ ResetLast log := by
  rintro ⟨newer, e, older, rfl, he, -⟩
  rw [hno e (by simp)] at he
  exact absurd he (by simp)

/-- A call that ends in a reset after a bulk transfer which was no valid CSW read. -/
theorem exactlyOne_of_reset {t : BulkRequest} {r : BulkReply} (hlog : AfterCbw entry cbw older)
    (hbad : t = cswTransfer entry → ¬ (ReadWhole r ∧ ValidCsw tag (Csw.ofBytes r.bytes)))
    (hreset : ResetAfter entry (.bulk t r :: older) log) :
    ExactlyOne (CbwUntouched entry cbw log) (CswConsumed entry tag log) (ResetLast log) := by
  have hlog' : AfterCbw entry cbw (.bulk t r :: older) := hlog.cons rfl
  refine .inr (.inr ⟨?_, ?_, hreset.resetLast hlog'.noReset⟩)
  · apply AfterCbw.not_untouched
    obtain ⟨r₀, r₁, r₂, rfl⟩ := hreset
    obtain ⟨pre, rc, hpre, hn⟩ := hlog'.sent
    exact ⟨.clearHalt entry.epOut r₂ :: .clearHalt entry.epIn r₁ :: .control (resetRequest entry) r₀
      :: pre, rc, by rw [hpre]; rfl, hn⟩
  · rintro ⟨r', hfind, hread, hvalid⟩
    rw [hreset.find?] at hfind
    simp only [List.find?_cons, UsbEvent.isBulk, Option.some.injEq, UsbEvent.bulk.injEq] at hfind
    obtain ⟨ht, rfl⟩ := hfind
    exact hbad ht ⟨hread, hvalid⟩

/-! ## The call -/

/-- A CBW phase with which the call ends, the device still there. -/
theorem CbwPhaseSpec.exactlyOne {o : BotOutcome} (hspec : CbwPhaseSpec entry cbw [] (.error o) log)
    (hhere : o ≠ .noDevice) :
    ExactlyOne (CbwUntouched entry cbw log) (CswConsumed entry tag log) (ResetLast log) := by
  have hcbw : ∀ r : BulkReply, NoReset [.bulk (cbwTransfer entry cbw) r] := fun r =>
    NoReset.cons rfl (by simp [NoReset])
  have hreq : cbwTransfer entry cbw ≠ cswTransfer entry := by
    simp [cbwTransfer, cswTransfer, usbBotCbwSize, usbBotCswSize]
  cases hspec with
  | noDevice _ => exact absurd rfl hhere
  | @untouched r hn hret =>
      refine .inl ⟨⟨[], r, rfl, hn, hret⟩, ?_, (hcbw r).not_resetLast⟩
      rintro ⟨r', hfind, -⟩
      simp only [List.find?_cons, UsbEvent.isBulk, Option.some.injEq, UsbEvent.bulk.injEq] at hfind
      exact hreq hfind.1
  | @refused r log hn hreset =>
      refine .inr (.inr ⟨?_, ?_, hreset.resetLast (hcbw r)⟩)
      · obtain ⟨r₀, r₁, r₂, rfl⟩ := hreset
        rintro ⟨pre, r', heq, hzero, hret⟩
        have hlast : [UsbEvent.clearHalt entry.epOut r₂, .clearHalt entry.epIn r₁,
            .control (resetRequest entry) r₀] ++ [.bulk (cbwTransfer entry cbw) r]
            = pre ++ [.bulk (cbwTransfer entry cbw) r'] := heq
        have hlast := (List.append_inj' hlast rfl).2
        simp only [List.cons.injEq, UsbEvent.bulk.injEq, and_true, true_and] at hlast
        subst hlast
        exact hn ⟨hzero, hret⟩
      · rintro ⟨r', hfind, -⟩
        rw [hreset.find?] at hfind
        simp only [List.find?_cons, UsbEvent.isBulk, Option.some.injEq, UsbEvent.bulk.injEq] at hfind
        exact hreq hfind.1

/-- A data phase with which the call ends, the device still there. -/
theorem DataPhaseSpec.exactlyOne {t : Nat} {o : BotOutcome} {moved : DataMoved}
    (hlog : AfterCbw entry cbw log)
    (hspec : DataPhaseSpec h entry req t log (some o) moved log') (hhere : o ≠ .noDevice) :
    ExactlyOne (CbwUntouched entry cbw log') (CswConsumed entry tag log') (ResetLast log') := by
  cases hspec with
  | noDevice _ _ => exact absurd rfl hhere
  | reset _ hret hreset =>
      refine exactlyOne_of_reset hlog ?_ hreset
      -- a transfer that looks like the CSW read did not read a whole CSW either
      rintro hreq ⟨⟨hok, hn⟩, -⟩
      have hlen : req.dataLen = usbBotCswSize := congrArg BulkRequest.length hreq
      rcases hok with hok | hok
      · exact hret.1 hok
      · exact hret.2 hok (by rw [hn, hlen])

/-- A CSW phase, the device still there. -/
theorem CswPhaseSpec.exactlyOne {res : Except BotOutcome Csw} (hlog : AfterCbw entry cbw log)
    (hspec : CswPhaseSpec entry tag log res log') (hhere : res ≠ .error .noDevice) :
    ExactlyOne (CbwUntouched entry cbw log') (CswConsumed entry tag log') (ResetLast log') := by
  cases hspec with
  | noDevice _ _ => exact absurd rfl hhere
  | @accepted r log₁ hreads hread hvalid =>
      have hlog' : AfterCbw entry cbw (.bulk (cswTransfer entry) r :: log₁) :=
        (hreads.afterCbw hlog).cons rfl
      exact .inr (.inl ⟨AfterCbw.not_untouched hlog'.sent, ⟨r, rfl, hread, hvalid⟩,
        hlog'.noReset.not_resetLast⟩)
  | reset hreads hbad hreset =>
      exact exactlyOne_of_reset (hreads.afterCbw hlog) (fun _ => hbad) hreset

/-- **No stale status is left behind.** A transaction that comes back with the device still there
    either sent no byte of its CBW and met no stall, or consumed the valid CSW of its own tag, or
    performed one Mass Storage Reset after its last bulk transfer: exactly one of the three. -/
theorem bot_leaves_no_stale_status (h : UsbHost U) (entry : LaserEntry) (req : BotRequest) (u : U)
    (hcdb : req.cdb.length ≤ 16) (hhere : (laserBotSendLocked h entry req u).1.outcome ≠ .noDevice) :
    let log := (laserBotSendLocked h entry req u).2.log
    let tag := entry.bot.tag + 1
    ExactlyOne (CbwUntouched entry (mkCbw entry req tag) log) (CswConsumed entry tag log)
      (ResetLast log) := by
  -- the transfers are those of the entry with its tag advanced
  show ExactlyOne
    (CbwUntouched entry.nextTag (mkCbw entry req entry.nextTag.bot.tag) _)
    (CswConsumed entry.nextTag entry.nextTag.bot.tag _) (ResetLast _)
  have hspec := laserBotSendLocked_spec h entry req u
  generalize laserBotSendLocked h entry req u = res at hspec hhere ⊢
  obtain ⟨reply, u', log⟩ := res
  dsimp only at hspec hhere ⊢
  cases hspec with
  | refused hlong => exact absurd hcdb (Nat.not_le_of_lt hlong)
  | cbwEnds _ hcbw => exact hcbw.exactlyOne hhere
  | dataEnds _ hcbw hdata => exact hdata.exactlyOne hcbw.afterCbw hhere
  | cswEnds _ hcbw hdata hcsw _ =>
      exact hcsw.exactlyOne (hdata.afterCbw hcbw.afterCbw) (fun he => hhere (by injection he))
  | concludes _ hcbw hdata hcsw _ =>
      exact hcsw.exactlyOne (hdata.afterCbw hcbw.afterCbw) (fun he => by injection he)

/-- A READ(10) of one block whose data phase times out after 512 of 2048 bytes. -/
theorem bot_leaves_no_stale_status_timeout :
    let entry : LaserEntry := { epIn := 0x81, epOut := 0x02 }
    let req : BotRequest := {
      cdb := [0x28, 0, 0, 0, 0, 16, 0, 0, 1, 0], data := some [], dataLen := 2048, dataIn := true
      wantActualLen := true, dataLen_lt := by decide }
    let log := (laserBotSendLocked .scripted entry req
      [.moved .success 31 [], .moved .errorTimeout 512 []]).2.log
    ExactlyOne (CbwUntouched entry (mkCbw entry req 1) log) (CswConsumed entry 1 log)
      (ResetLast log) :=
  bot_leaves_no_stale_status _ _ _ _ (by decide) (by decide)

end Liblaser
