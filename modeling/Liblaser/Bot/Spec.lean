import Liblaser.Bot.Transaction

/-!
# `Bot.Spec` — what one transaction can do

One inversion lemma for each phase of `laser_bot_send_locked()`, and one for the call: every way the
code can go, with the return codes and counts it went there on and the bus log it left. The properties
of the transport are case analyses of **`laserBotSendLocked_spec`**; none unfolds the code again.

A reply in a log comes with the world it was given in (`FromHost`), so that what is assumed of libusb
can be used of it.
-/

namespace Liblaser

variable {U : Type} {h : UsbHost U} {entry : LaserEntry} {req : BotRequest}

/-- A reply that ended in success, timeout or stall reports some count. -/
theorem BulkReply.exists_transferred {r : BulkReply} (hret : r.ret.Counted) :
    ∃ n, r.transferred = some n :=
  Option.isSome_iff_exists.mp (r.reported hret)

/-! ## The CBW phase -/

/-- How the CBW phase ends, and the log it leaves. -/
inductive CbwPhaseSpec (entry : LaserEntry) (cbw : Cbw) (log : List UsbEvent) :
    Except BotOutcome Nat → List UsbEvent → Prop where
  /-- The device is gone. -/
  | noDevice {r : BulkReply} (hret : r.ret = .errorNoDevice) :
      CbwPhaseSpec entry cbw log (.error .noDevice) (.bulk (cbwTransfer entry cbw) r :: log)
  /-- The whole CBW went out, in time or not. -/
  | sent {r : BulkReply} (hret : r.ret = .success ∨ r.ret = .errorTimeout)
      (hn : r.transferred = some usbBotCbwSize) :
      CbwPhaseSpec entry cbw log (.ok usbBotCbwSize) (.bulk (cbwTransfer entry cbw) r :: log)
  /-- Nothing went out and nothing stalled. -/
  | untouched {r : BulkReply} (hn : r.transferred.getD 0 = 0) (hret : r.ret ≠ .errorPipe) :
      CbwPhaseSpec entry cbw log (.error .notSent) (.bulk (cbwTransfer entry cbw) r :: log)
  /-- Part of a CBW went out, or Bulk-Out stalled: Reset Recovery. -/
  | refused {r : BulkReply} {log' : List UsbEvent}
      (hn : ¬ (r.transferred.getD 0 = 0 ∧ r.ret ≠ .errorPipe))
      (hreset : ResetAfter entry (.bulk (cbwTransfer entry cbw) r :: log) log') :
      CbwPhaseSpec entry cbw log (.error .notSent) log'

theorem cbwPhase_spec (h : UsbHost U) (entry : LaserEntry) (cbw : Cbw) (b : Bus U) :
    CbwPhaseSpec entry cbw b.log (cbwPhase h entry cbw b).1 (cbwPhase h entry cbw b).2.log := by
  obtain ⟨r, u, hbt, -⟩ := b.bulkTransfer_eq h (cbwTransfer entry cbw)
  unfold cbwPhase
  rw [hbt]
  dsimp only
  split
  · next hret => exact .noDevice hret
  · split
    · next hsent =>
        have hn : r.transferred = some usbBotCbwSize := by
          obtain ⟨n, hn⟩ := r.exists_transferred (hsent.2.imp id .inl)
          have := hsent.1
          rw [hn] at this ⊢
          simpa using this
        rw [hsent.1]
        exact .sent hsent.2 hn
    · split
      · next hnone => exact .untouched hnone.1 hnone.2
      · next hpart => exact .refused hpart (laserMassStorageReset_log ..)

/-! ## The data phase -/

/-- How the data phase ends, and the log it leaves. `t` is the variable `transferred` before it. -/
inductive DataPhaseSpec (h : UsbHost U) (entry : LaserEntry) (req : BotRequest) (t : Nat)
    (log : List UsbEvent) : Option BotOutcome → DataMoved → List UsbEvent → Prop where
  /-- The command has no data phase. -/
  | skipped (hno : req.hasData = false) :
      DataPhaseSpec h entry req t log none
        ⟨t, 0, if req.wantActualLen then some 0 else none, []⟩ log
  /-- `n` bytes moved, and the CSW is next: the transfer succeeded, or was complete when the clock ran
      out. -/
  | moved {r : BulkReply} {n : Nat} (hhost : FromHost h (dataTransfer entry req) r)
      (hdata : req.hasData = true) (hn : r.transferred = some n)
      (hret : r.ret = .success ∨ (r.ret = .errorTimeout ∧ n = req.dataLen)) :
      DataPhaseSpec h entry req t log none
        ⟨n, n, if req.wantActualLen then some n else none,
          if req.dataIn then r.bytes.take req.dataLen else []⟩
        (.bulk (dataTransfer entry req) r :: log)
  /-- `n` bytes moved before a stall, which was cleared. -/
  | stalled {r : BulkReply} {n : Nat} {ret : LibusbError}
      (hhost : FromHost h (dataTransfer entry req) r)
      (hdata : req.hasData = true) (hn : r.transferred = some n) (hret : r.ret = .errorPipe) :
      DataPhaseSpec h entry req t log none
        ⟨n, n, if req.wantActualLen then some n else none,
          if req.dataIn then r.bytes.take req.dataLen else []⟩
        (.clearHalt (dataTransfer entry req).endpoint ret
          :: .bulk (dataTransfer entry req) r :: log)
  /-- The device is gone. -/
  | noDevice {r : BulkReply} {m : DataMoved} (hret : r.ret = .errorNoDevice)
      (hm : m.actualLen = none) :
      DataPhaseSpec h entry req t log (some .noDevice) m (.bulk (dataTransfer entry req) r :: log)
  /-- The device is still mid-transfer, or the pipes are in an unknown state: Reset Recovery. -/
  | reset {r : BulkReply} {m : DataMoved} {log' : List UsbEvent} (hm : m.actualLen = none)
      (hret : r.ret ≠ .success ∧ (r.ret = .errorTimeout → r.transferred ≠ some req.dataLen))
      (hreset : ResetAfter entry (.bulk (dataTransfer entry req) r :: log) log') :
      DataPhaseSpec h entry req t log (some (.phaseError false)) m log'

theorem dataPhase_spec (h : UsbHost U) (entry : LaserEntry) (req : BotRequest) (t : Nat) (b : Bus U) :
    DataPhaseSpec h entry req t b.log (dataPhase h entry req t b).1 (dataPhase h entry req t b).2.1
      (dataPhase h entry req t b).2.2.log := by
  unfold dataPhase
  split
  case isFalse hno => exact .skipped (by simpa using hno)
  case isTrue hdata =>
    obtain ⟨r, u, hbt, hhost⟩ := b.bulkTransfer_eq h (dataTransfer entry req)
    rw [hbt]
    dsimp only
    split
    · next hpipe =>
        obtain ⟨n, hn⟩ := r.exists_transferred (.inr (.inr hpipe))
        simp only [hn, Option.getD_some]
        exact .stalled hhost hdata hn hpipe
    · split
      · next htime =>
          obtain ⟨n, hn⟩ := r.exists_transferred (.inr (.inl htime))
          simp only [hn, Option.getD_some]
          split
          · next hall => exact .moved hhost hdata hn (.inr ⟨htime, hall⟩)
          · next hpart =>
              refine .reset rfl ⟨by simp [htime], fun _ => ?_⟩ (laserMassStorageReset_log ..)
              rw [hn]
              simpa using hpart
      · split
        · next hgone => exact .noDevice hgone rfl
        · split
          · next htime _ hbad =>
              exact .reset rfl ⟨hbad, fun ht => absurd ht htime⟩ (laserMassStorageReset_log ..)
          · next hok =>
              have hok : r.ret = .success := by simpa using hok
              obtain ⟨n, hn⟩ := r.exists_transferred (.inl hok)
              simp only [hn, Option.getD_some]
              exact .moved hhost hdata hn (.inl hok)

/-! ## The CSW phase -/

/-- A CSW that the code accepts under this tag. -/
structure ValidCsw (tag : UInt32) (csw : Csw) : Prop where
  signature : csw.dCSWSignature = usbBotCswSignature
  tag_eq : csw.dCSWTag = tag
  status : csw.bCSWStatus ≠ usbBotStatusPhaseError

/-- A read that delivered a whole CSW, in time or not. -/
def ReadWhole (r : BulkReply) : Prop :=
  (r.ret = .success ∨ r.ret = .errorTimeout) ∧ r.transferred = some usbBotCswSize

/-- The CSW reads before the last one: none, or one that stalled and was cleared. -/
inductive CswReads (entry : LaserEntry) (log : List UsbEvent) : List UsbEvent → Prop where
  | first : CswReads entry log log
  | again {r : BulkReply} {ret : LibusbError} (hret : r.ret = .errorPipe) :
      CswReads entry log (.clearHalt entry.epIn ret :: .bulk (cswTransfer entry) r :: log)

/-- How the CSW phase ends, and the log it leaves. -/
inductive CswPhaseSpec (entry : LaserEntry) (tag : UInt32) (log : List UsbEvent) :
    Except BotOutcome Csw → List UsbEvent → Prop where
  /-- The device is gone. -/
  | noDevice {r : BulkReply} {log₁ : List UsbEvent} (hreads : CswReads entry log log₁)
      (hret : r.ret = .errorNoDevice) :
      CswPhaseSpec entry tag log (.error .noDevice) (.bulk (cswTransfer entry) r :: log₁)
  /-- A valid CSW was read. -/
  | accepted {r : BulkReply} {log₁ : List UsbEvent} (hreads : CswReads entry log log₁)
      (hread : ReadWhole r) (hvalid : ValidCsw tag (Csw.ofBytes r.bytes)) :
      CswPhaseSpec entry tag log (.ok (Csw.ofBytes r.bytes))
        (.bulk (cswTransfer entry) r :: log₁)
  /-- No CSW, or not one of this call's, or a Phase Error: Reset Recovery. -/
  | reset {r : BulkReply} {log₁ log' : List UsbEvent} {reported : Bool}
      (hreads : CswReads entry log log₁)
      (hbad : ¬ (ReadWhole r ∧ ValidCsw tag (Csw.ofBytes r.bytes)))
      (hreset : ResetAfter entry (.bulk (cswTransfer entry) r :: log₁) log') :
      CswPhaseSpec entry tag log (.error (.phaseError reported)) log'

/-- The last CSW read, after the reads before it. A count is known to the code only from a read that
    reports it, or left over from before. -/
theorem readCsw_spec (h : UsbHost U) (entry : LaserEntry) (t : Nat) (b : Bus U) :
    ∃ log₁, CswReads entry b.log log₁ ∧
      (readCsw h entry t b).2.2.2.log = .bulk (cswTransfer entry) (readCsw h entry t b).1 :: log₁ ∧
      ∀ n, (readCsw h entry t b).1.transferred = some n → (readCsw h entry t b).2.1 = n := by
  obtain ⟨r, u, hbt, -⟩ := b.bulkTransfer_eq h (cswTransfer entry)
  unfold readCsw
  rw [hbt]
  dsimp only
  split
  · next hpipe =>
      obtain ⟨r', u', hbt', -⟩ :=
        (Bus.clearHalt h entry.epIn ⟨u, .bulk (cswTransfer entry) r :: b.log⟩).bulkTransfer_eq h
          (cswTransfer entry)
      rw [hbt']
      exact ⟨_, .again hpipe, rfl, fun n hn => by rw [hn, Option.getD_some]⟩
  · exact ⟨_, .first, rfl, fun n hn => by rw [hn, Option.getD_some]⟩

theorem cswPhase_spec (h : UsbHost U) (entry : LaserEntry) (tag : UInt32) (t : Nat) (b : Bus U) :
    CswPhaseSpec entry tag b.log (cswPhase h entry tag t b).1 (cswPhase h entry tag t b).2.2.log := by
  obtain ⟨log₁, hreads, hlog, hcount⟩ := readCsw_spec h entry t b
  unfold cswPhase
  generalize readCsw h entry t b = rr at hlog hcount ⊢
  obtain ⟨r, n, bot, b'⟩ := rr
  dsimp only at hlog hcount ⊢
  split
  · next hgone =>
      dsimp only
      rw [hlog]
      exact .noDevice hreads hgone
  · split
    · next hshort =>
        refine .reset hreads ?_ (hlog ▸ laserMassStorageReset_log h entry b')
        rintro ⟨⟨hret, hn⟩, -⟩
        rcases hshort with hne | ⟨hne₁, hne₂⟩
        · exact hne (hcount _ hn)
        · exact hret.elim hne₁ hne₂
    -- the read delivered a count, and the count is that of a CSW
    · next hwhole =>
        have hret : r.ret = .success ∨ r.ret = .errorTimeout := by
          by_cases hs : r.ret = .success
          · exact .inl hs
          · exact .inr (by simpa [hs] using fun hc => hwhole (.inr ⟨hs, hc⟩))
        obtain ⟨m, hm⟩ := r.exists_transferred (hret.imp id .inl)
        have hread : ReadWhole r := by
          refine ⟨hret, ?_⟩
          have hn : n = usbBotCswSize := by simpa using fun hc => hwhole (.inl hc)
          rw [hm, ← hcount m hm, hn]
        split
        · next hmis =>
            refine .reset hreads ?_ (hlog ▸ laserMassStorageReset_log h entry b')
            rintro ⟨-, hv⟩
            exact hmis.elim (fun hc => hc hv.signature) (fun hc => hc hv.tag_eq)
        · next hmatch =>
            split
            · next hphase =>
                refine .reset hreads ?_ (hlog ▸ laserMassStorageReset_log h entry b')
                rintro ⟨-, hv⟩
                exact hv.status hphase
            · next hstatus =>
                dsimp only
                rw [hlog]
                refine .accepted hreads hread ⟨?_, ?_, hstatus⟩
                · simpa using fun hc => hmatch (.inl hc)
                · simpa using fun hc => hmatch (.inr hc)

/-! ## The log only grows -/

theorem ResetAfter.suffix {log log' : List UsbEvent} (hreset : ResetAfter entry log log') :
    log <:+ log' := by
  obtain ⟨r, r₁, r₂, rfl⟩ := hreset
  exact ⟨[_, _, _], rfl⟩

theorem DataPhaseSpec.suffix {t : Nat} {res : Option BotOutcome} {moved : DataMoved}
    {log log' : List UsbEvent} (hspec : DataPhaseSpec h entry req t log res moved log') :
    log <:+ log' := by
  cases hspec with
  | skipped _ => exact List.suffix_refl log
  | moved _ _ _ _ => exact ⟨[_], rfl⟩
  | stalled _ _ _ _ => exact ⟨[_, _], rfl⟩
  | noDevice _ _ => exact ⟨[_], rfl⟩
  | reset _ _ hreset => exact (List.suffix_cons _ _).trans hreset.suffix

theorem CswReads.suffix {log log' : List UsbEvent} (hreads : CswReads entry log log') :
    log <:+ log' := by
  cases hreads with
  | first => exact List.suffix_refl log
  | again _ => exact ⟨[_, _], rfl⟩

theorem CswPhaseSpec.suffix {tag : UInt32} {res : Except BotOutcome Csw}
    {log log' : List UsbEvent} (hspec : CswPhaseSpec entry tag log res log') : log <:+ log' := by
  cases hspec with
  | noDevice hreads _ => exact hreads.suffix.trans (List.suffix_cons _ _)
  | accepted hreads _ _ => exact hreads.suffix.trans (List.suffix_cons _ _)
  | reset hreads _ hreset =>
      exact hreads.suffix.trans ((List.suffix_cons _ _).trans hreset.suffix)

/-- The CBW phase starts the log with the CBW. -/
theorem CbwPhaseSpec.cbw_suffix {cbw : Cbw} {res : Except BotOutcome Nat} {log : List UsbEvent}
    (hspec : CbwPhaseSpec entry cbw [] res log) :
    ∃ r, [.bulk (cbwTransfer entry cbw) r] <:+ log := by
  cases hspec with
  | noDevice _ => exact ⟨_, List.suffix_refl _⟩
  | sent _ _ => exact ⟨_, List.suffix_refl _⟩
  | untouched _ _ => exact ⟨_, List.suffix_refl _⟩
  | refused _ hreset => exact ⟨_, hreset.suffix⟩

/-! ## The call -/

/-- How a call ends, phase by phase. -/
inductive BotSpec (h : UsbHost U) (entry : LaserEntry) (req : BotRequest) :
    BotReply → List UsbEvent → Prop where
  /-- An oversized CDB never reaches the wire. -/
  | refused (hlong : cbwcbSize < req.cdb.length) :
      BotSpec h entry req ⟨.notSent, none, [], entry.bot⟩ []
  /-- The call ends in the CBW phase. -/
  | cbwEnds {o : BotOutcome} {log : List UsbEvent} (hfit : req.cdb.length ≤ cbwcbSize)
      (hcbw : CbwPhaseSpec entry.nextTag (mkCbw entry req entry.nextTag.bot.tag) []
        (.error o) log) :
      BotSpec h entry req ⟨o, none, [], entry.nextTag.bot⟩ log
  /-- The call ends in the data phase. -/
  | dataEnds {t : Nat} {o : BotOutcome} {moved : DataMoved} {log₁ log : List UsbEvent}
      (hfit : req.cdb.length ≤ cbwcbSize)
      (hcbw : CbwPhaseSpec entry.nextTag (mkCbw entry req entry.nextTag.bot.tag) [] (.ok t) log₁)
      (hdata : DataPhaseSpec h entry.nextTag req t log₁ (some o) moved log) :
      BotSpec h entry req ⟨o, moved.actualLen, moved.bytes, entry.nextTag.bot⟩ log
  /-- The call ends in the CSW phase, without a CSW to conclude from. -/
  | cswEnds {t : Nat} {o : BotOutcome} {moved : DataMoved} {bot : BotState}
      {log₁ log₂ log : List UsbEvent} (hfit : req.cdb.length ≤ cbwcbSize)
      (hcbw : CbwPhaseSpec entry.nextTag (mkCbw entry req entry.nextTag.bot.tag) [] (.ok t) log₁)
      (hdata : DataPhaseSpec h entry.nextTag req t log₁ none moved log₂)
      (hcsw : CswPhaseSpec entry.nextTag entry.nextTag.bot.tag log₂ (.error o) log)
      (hbot : bot.tag = entry.nextTag.bot.tag) :
      BotSpec h entry req ⟨o, moved.actualLen, moved.bytes, bot⟩ log
  /-- The call concludes from a valid CSW. -/
  | concludes {t : Nat} {csw : Csw} {moved : DataMoved} {bot : BotState}
      {log₁ log₂ log : List UsbEvent} (hfit : req.cdb.length ≤ cbwcbSize)
      (hcbw : CbwPhaseSpec entry.nextTag (mkCbw entry req entry.nextTag.bot.tag) [] (.ok t) log₁)
      (hdata : DataPhaseSpec h entry.nextTag req t log₁ none moved log₂)
      (hcsw : CswPhaseSpec entry.nextTag entry.nextTag.bot.tag log₂ (.ok csw) log)
      (hbot : bot.tag = entry.nextTag.bot.tag) :
      BotSpec h entry req (concludeCsw req moved bot csw) log

theorem readCsw_tag (h : UsbHost U) (entry : LaserEntry) (t : Nat) (b : Bus U) :
    (readCsw h entry t b).2.2.1.tag = entry.bot.tag := by
  unfold readCsw
  dsimp only
  split <;> rfl

/-- The CSW phase leaves the tag alone. -/
theorem cswPhase_tag (h : UsbHost U) (entry : LaserEntry) (tag : UInt32) (t : Nat) (b : Bus U) :
    (cswPhase h entry tag t b).2.1.tag = entry.bot.tag := by
  rw [← readCsw_tag h entry t b]
  unfold cswPhase
  dsimp only
  split
  · rfl
  · split
    · rfl
    · split
      · rfl
      · split <;> rfl

/-- **Every way one transaction can go.** -/
theorem laserBotSendLocked_spec (h : UsbHost U) (entry : LaserEntry) (req : BotRequest) (u : U) :
    BotSpec h entry req (laserBotSendLocked h entry req u).1
      (laserBotSendLocked h entry req u).2.log := by
  unfold laserBotSendLocked
  split
  · next hlong => exact .refused hlong
  · next hlong =>
      have hfit : req.cdb.length ≤ cbwcbSize := Nat.le_of_not_lt hlong
      have hcbw := cbwPhase_spec h entry.nextTag (mkCbw entry req entry.nextTag.bot.tag) ⟨u, []⟩
      dsimp only
      rw [show mkCbw entry.nextTag req entry.nextTag.bot.tag
        = mkCbw entry req entry.nextTag.bot.tag from rfl]
      generalize cbwPhase h entry.nextTag (mkCbw entry req entry.nextTag.bot.tag) ⟨u, []⟩ = c at hcbw
      obtain ⟨res, b₁⟩ := c
      cases res with
      | error o => exact .cbwEnds hfit hcbw
      | ok t =>
          have hdata := dataPhase_spec h entry.nextTag req t b₁
          dsimp only at hdata ⊢
          generalize dataPhase h entry.nextTag req t b₁ = d at hdata
          obtain ⟨res, moved, b₂⟩ := d
          cases res with
          | some o => exact .dataEnds hfit hcbw hdata
          | none =>
              have hcsw := cswPhase_spec h entry.nextTag entry.nextTag.bot.tag moved.transferred b₂
              have htag := cswPhase_tag h entry.nextTag entry.nextTag.bot.tag moved.transferred b₂
              dsimp only at hcsw htag ⊢
              generalize cswPhase h entry.nextTag entry.nextTag.bot.tag moved.transferred b₂ = s
                at hcsw htag
              obtain ⟨res, bot, b₃⟩ := s
              cases res with
              | error o => exact .cswEnds hfit hcbw hdata hcsw htag
              | ok csw => exact .concludes hfit hcbw hdata hcsw htag

/-- A CDB that fits a CBW goes on the wire, with at least that CBW. -/
theorem BotSpec.transfers {reply : BotReply} {log : List UsbEvent}
    (hspec : BotSpec h entry req reply log) (hfit : req.cdb.length ≤ cbwcbSize) : Transfers log := by
  have hcbw : ∀ {res : Except BotOutcome Nat} {log : List UsbEvent},
      CbwPhaseSpec entry.nextTag (mkCbw entry req entry.nextTag.bot.tag) [] res log →
      Transfers log := by
    intro res log hcbw
    obtain ⟨r, hsent⟩ := hcbw.cbw_suffix
    exact Transfers.suffix ⟨_, List.mem_cons_self, rfl⟩ hsent
  cases hspec with
  | refused hlong => exact absurd hfit (Nat.not_le_of_lt hlong)
  | cbwEnds _ hphase => exact hcbw hphase
  | dataEnds _ hphase hdata => exact (hcbw hphase).suffix hdata.suffix
  | cswEnds _ hphase hdata hcsw _ => exact (hcbw hphase).suffix (hdata.suffix.trans hcsw.suffix)
  | concludes _ hphase hdata hcsw _ => exact (hcbw hphase).suffix (hdata.suffix.trans hcsw.suffix)

end Liblaser
