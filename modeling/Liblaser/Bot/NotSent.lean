import Liblaser.Bot.Spec

/-!
# `Bot.NotSent` — what `BOT_FAIL_NOT_SENT` promises

The code promises that the command was never executed: no CBW left the host, or what left of it was not
a whole one, or the endpoint stalled, and then a Reset Recovery was made. `Untaken` is that promise on
the log of the call.

The CBW phase decides on a pair, the return code and the count. **`notSent_untaken_iff`** is that one
class of pairs breaks the promise, and always does: `Disputed`, the whole CBW reported as gone out
together with an error the code has no branch for. It falls into the branch for a part of a CBW.
-/

namespace Liblaser

variable {U : Type} {h : UsbHost U} {entry : LaserEntry} {req : BotRequest}

/-- The request that carries the CBW of a transaction. -/
def cbwRequest (entry : LaserEntry) (req : BotRequest) : BulkRequest :=
  cbwTransfer entry.nextTag (mkCbw entry req entry.nextTag.bot.tag)

/-- libusb's reply to it. -/
def cbwReply (h : UsbHost U) (entry : LaserEntry) (req : BotRequest) (u : U) : BulkReply :=
  (h.bulkTransfer (cbwRequest entry req) u).1

/-! ## The pairs -/

/-- The bytes reported: none when the count was left alone. -/
def BulkReply.count (r : BulkReply) : Nat := r.transferred.getD 0

/-- A whole CBW went out, and the endpoint did not stall. -/
def BulkReply.Whole (r : BulkReply) : Prop := usbBotCbwSize ≤ r.count ∧ r.ret ≠ .errorPipe

/-- Some of a CBW went out, or the endpoint stalled. -/
def BulkReply.Touched (r : BulkReply) : Prop := 0 < r.count ∨ r.ret = .errorPipe

/-- A CBW the code takes as sent: all of it, in time or not. -/
def BulkReply.Taken (r : BulkReply) : Prop :=
  r.count = usbBotCbwSize ∧ (r.ret = .success ∨ r.ret = .errorTimeout)

/-- A whole CBW went out without a stall, and the code neither takes it as sent nor finds the device
    gone. -/
def BulkReply.Disputed (r : BulkReply) : Prop := r.Whole ∧ r.ret ≠ .errorNoDevice ∧ ¬ r.Taken

instance (r : BulkReply) : Decidable r.Whole :=
  inferInstanceAs (Decidable (_ ∧ _))

instance (r : BulkReply) : Decidable r.Taken :=
  inferInstanceAs (Decidable (_ ∧ _))

instance (r : BulkReply) : Decidable r.Disputed :=
  inferInstanceAs (Decidable (_ ∧ _ ∧ _))

/-! ## The promise -/

/-- The log of a call whose command the device cannot have executed: at most the CBW was transferred,
    and not all of it, or it stalled; a Reset Recovery followed exactly when the device was touched. -/
inductive Untaken (entry : LaserEntry) (req : BotRequest) : List UsbEvent → Prop where
  /-- A CDB that fits no CBW. -/
  | refused : Untaken entry req []
  | untouched {r : BulkReply} (hnone : ¬ r.Touched) :
      Untaken entry req [.bulk (cbwRequest entry req) r]
  | recovered {r : BulkReply} {log : List UsbEvent} (htouched : r.Touched) (hpart : ¬ r.Whole)
      (hreset : ResetAfter entry.nextTag [.bulk (cbwRequest entry req) r] log) :
      Untaken entry req log

/-- `BOT_FAIL_NOT_SENT` is honest on this call. -/
def NotSentHonest (h : UsbHost U) (entry : LaserEntry) (req : BotRequest) (u : U) : Prop :=
  (laserBotSendLocked h entry req u).1.outcome = .notSent →
    Untaken entry req (laserBotSendLocked h entry req u).2.log

/-! ## The CBW phase on its pair -/

/-- Where the CBW phase goes, on the reply it gets. -/
inductive CbwCase (entry : LaserEntry) (cbw : Cbw) (r : BulkReply) :
    Except BotOutcome Nat → List UsbEvent → Prop where
  | gone (hgone : r.ret = .errorNoDevice) :
      CbwCase entry cbw r (.error .noDevice) [.bulk (cbwTransfer entry cbw) r]
  | taken (htaken : r.Taken) :
      CbwCase entry cbw r (.ok r.count) [.bulk (cbwTransfer entry cbw) r]
  | untouched (hgone : r.ret ≠ .errorNoDevice) (hnone : ¬ r.Touched) :
      CbwCase entry cbw r (.error .notSent) [.bulk (cbwTransfer entry cbw) r]
  | recovered {log : List UsbEvent} (hgone : r.ret ≠ .errorNoDevice) (htaken : ¬ r.Taken)
      (htouched : r.Touched) (hreset : ResetAfter entry [.bulk (cbwTransfer entry cbw) r] log) :
      CbwCase entry cbw r (.error .notSent) log

theorem cbwPhase_case (h : UsbHost U) (entry : LaserEntry) (req : BotRequest) (u : U) :
    CbwCase entry.nextTag (mkCbw entry req entry.nextTag.bot.tag) (cbwReply h entry req u)
      (cbwPhase h entry.nextTag (mkCbw entry req entry.nextTag.bot.tag) ⟨u, []⟩).1
      (cbwPhase h entry.nextTag (mkCbw entry req entry.nextTag.bot.tag) ⟨u, []⟩).2.log := by
  have hreply : Bus.bulkTransfer h (cbwRequest entry req) ⟨u, []⟩
      = (cbwReply h entry req u, ⟨(h.bulkTransfer (cbwRequest entry req) u).2,
        [.bulk (cbwRequest entry req) (cbwReply h entry req u)]⟩) := rfl
  unfold cbwPhase
  rw [show cbwTransfer entry.nextTag _ = cbwRequest entry req from rfl, hreply]
  generalize cbwReply h entry req u = r
  dsimp only
  split
  · next hgone => exact .gone hgone
  · next hgone =>
      split
      · next htaken => exact .taken htaken
      · next htaken =>
          split
          · next hnone =>
              refine .untouched hgone ?_
              rintro (hpos | hpipe)
              · exact absurd hnone.1 (Nat.ne_of_gt hpos)
              · exact hnone.2 hpipe
          · next hpart =>
              refine .recovered hgone htaken ?_ (laserMassStorageReset_log ..)
              by_cases hpipe : r.ret = .errorPipe
              · exact .inr hpipe
              · exact .inl (Nat.pos_of_ne_zero fun hzero => hpart ⟨hzero, hpipe⟩)

/-- Past the CBW phase a call has other things to report. -/
theorem DataPhaseSpec.sent {t : Nat} {o : BotOutcome} {moved : DataMoved} {log log' : List UsbEvent}
    (hspec : DataPhaseSpec h entry req t log (some o) moved log') : o ≠ .notSent := by
  cases hspec <;> simp

theorem CswPhaseSpec.sent {tag : UInt32} {o : BotOutcome} {log log' : List UsbEvent}
    (hspec : CswPhaseSpec entry tag log (.error o) log') : o ≠ .notSent := by
  cases hspec <;> simp

theorem concludeCsw_sent (req : BotRequest) (moved : DataMoved) (bot : BotState) (csw : Csw) :
    (concludeCsw req moved bot csw).outcome ≠ .notSent := by
  unfold concludeCsw
  dsimp only
  split
  · simp
  · split <;> simp

/-- Of a CDB that fits, the call says what its CBW phase says, if that is the end of it. -/
theorem laserBotSendLocked_cbw (hfit : req.cdb.length ≤ cbwcbSize) (u : U) :
    (∃ t, (cbwPhase h entry.nextTag (mkCbw entry req entry.nextTag.bot.tag) ⟨u, []⟩).1 = .ok t
        ∧ (laserBotSendLocked h entry req u).1.outcome ≠ .notSent)
    ∨ ∃ o, (cbwPhase h entry.nextTag (mkCbw entry req entry.nextTag.bot.tag) ⟨u, []⟩).1 = .error o
        ∧ (laserBotSendLocked h entry req u).1.outcome = o
        ∧ (laserBotSendLocked h entry req u).2.log
          = (cbwPhase h entry.nextTag (mkCbw entry req entry.nextTag.bot.tag) ⟨u, []⟩).2.log := by
  unfold laserBotSendLocked
  rw [if_neg (Nat.not_lt_of_le hfit)]
  dsimp only
  rw [show mkCbw entry.nextTag req entry.nextTag.bot.tag
    = mkCbw entry req entry.nextTag.bot.tag from rfl]
  generalize cbwPhase h entry.nextTag (mkCbw entry req entry.nextTag.bot.tag) ⟨u, []⟩ = c
  obtain ⟨res, b₁⟩ := c
  cases res with
  | error o => exact .inr ⟨o, rfl, rfl, rfl⟩
  | ok t =>
      refine .inl ⟨t, rfl, ?_⟩
      have hdata := dataPhase_spec h entry.nextTag req t b₁
      dsimp only at hdata ⊢
      generalize dataPhase h entry.nextTag req t b₁ = d at hdata
      obtain ⟨res, moved, b₂⟩ := d
      cases res with
      | some o => exact DataPhaseSpec.sent hdata
      | none =>
          have hcsw := cswPhase_spec h entry.nextTag entry.nextTag.bot.tag moved.transferred b₂
          dsimp only at hcsw ⊢
          generalize cswPhase h entry.nextTag entry.nextTag.bot.tag moved.transferred b₂ = r at hcsw
          obtain ⟨res, bot, b₃⟩ := r
          cases res with
          | error o => exact CswPhaseSpec.sent hcsw
          | ok csw => exact concludeCsw_sent req moved bot csw

/-- When a call says that its command was not sent. -/
theorem outcome_notSent_iff (hfit : req.cdb.length ≤ cbwcbSize) (u : U) :
    (laserBotSendLocked h entry req u).1.outcome = .notSent
      ↔ (cbwReply h entry req u).ret ≠ .errorNoDevice ∧ ¬ (cbwReply h entry req u).Taken := by
  have hcase := cbwPhase_case h entry req u
  generalize (cbwPhase h entry.nextTag (mkCbw entry req entry.nextTag.bot.tag) ⟨u, []⟩).2.log = log
    at hcase
  rcases @laserBotSendLocked_cbw U h entry req hfit u with ⟨t, hok, ho⟩ | ⟨o, herr, ho, -⟩
  · rw [hok] at hcase
    refine ⟨fun hsent => absurd hsent ho, ?_⟩
    rintro ⟨-, hnot⟩
    cases hcase with
    | taken htaken => exact absurd htaken hnot
  · rw [herr] at hcase
    rw [ho]
    cases hcase with
    | gone hgone => simp [hgone]
    | untouched hgone hnone =>
        refine ⟨fun _ => ⟨hgone, ?_⟩, fun _ => rfl⟩
        rintro ⟨hcount, -⟩
        exact hnone (.inl (hcount ▸ by decide))
    | recovered hgone htaken _ _ => exact ⟨fun _ => ⟨hgone, htaken⟩, fun _ => rfl⟩

/-- The log of such a call: the CBW, and a Reset Recovery exactly when the device was touched. -/
theorem log_of_notSent (hfit : req.cdb.length ≤ cbwcbSize) {u : U}
    (ho : (laserBotSendLocked h entry req u).1.outcome = .notSent) :
    ((laserBotSendLocked h entry req u).2.log
        = [.bulk (cbwRequest entry req) (cbwReply h entry req u)]
      ∧ ¬ (cbwReply h entry req u).Touched)
    ∨ (ResetAfter entry.nextTag [.bulk (cbwRequest entry req) (cbwReply h entry req u)]
        (laserBotSendLocked h entry req u).2.log
      ∧ (cbwReply h entry req u).Touched) := by
  have hcase := cbwPhase_case h entry req u
  rcases @laserBotSendLocked_cbw U h entry req hfit u with
    ⟨t, -, hsent⟩ | ⟨o, herr, ho', hlog⟩
  · exact absurd ho hsent
  · rw [ho] at ho'
    subst ho'
    rw [hlog]
    rw [herr] at hcase
    generalize (cbwPhase h entry.nextTag (mkCbw entry req entry.nextTag.bot.tag) ⟨u, []⟩).2.log = log
      at hcase
    cases hcase with
    | untouched _ hnone => exact .inl ⟨rfl, hnone⟩
    | recovered _ _ htouched hreset => exact .inr ⟨hreset, htouched⟩

/-! ## When the promise is kept -/

/-- A log with the CBW in it is one of a promise kept only if not all of the CBW went out. -/
theorem Untaken.not_whole {log : List UsbEvent} (huntaken : Untaken entry req log) {r : BulkReply}
    (hmem : .bulk (cbwRequest entry req) r ∈ log) : ¬ r.Whole := by
  cases huntaken with
  | refused => cases hmem
  | @untouched r' hnone =>
      have heq : r = r' := by simpa using hmem
      subst heq
      rintro ⟨hcount, -⟩
      exact hnone (.inl (Nat.lt_of_lt_of_le (by decide) hcount))
  | @recovered r' _ _ hpart hreset =>
      obtain ⟨r₀, r₁, r₂, rfl⟩ := hreset
      have heq : r = r' := by simpa using hmem
      rwa [heq]

/-- **When `BOT_FAIL_NOT_SENT` is honest**: except for a CDB that fits and whose CBW is reported as
    gone out whole together with an error that the code does not expect then. -/
theorem notSent_untaken_iff (h : UsbHost U) (entry : LaserEntry) (req : BotRequest) (u : U) :
    NotSentHonest h entry req u
      ↔ ¬ (req.cdb.length ≤ cbwcbSize ∧ (cbwReply h entry req u).Disputed) := by
  constructor
  · rintro hhonest ⟨hfit, hwhole, hgone, hnot⟩
    have ho := (@outcome_notSent_iff U h entry req hfit u).mpr ⟨hgone, hnot⟩
    refine (hhonest ho).not_whole ?_ hwhole
    rcases log_of_notSent hfit ho with ⟨hlog, -⟩ | ⟨⟨r₀, r₁, r₂, hlog⟩, -⟩
    · rw [hlog]
      exact List.mem_cons_self
    · rw [hlog]
      simp
  · intro hnot ho
    by_cases hfit : req.cdb.length ≤ cbwcbSize
    · obtain ⟨hgone, htaken⟩ := (outcome_notSent_iff hfit u).mp ho
      rcases log_of_notSent hfit ho with ⟨hlog, hnone⟩ | ⟨hreset, htouched⟩
      · rw [hlog]
        exact .untouched hnone
      · exact .recovered htouched (fun hwhole => hnot ⟨hfit, hwhole, hgone, htaken⟩) hreset
    · rw [laserBotSendLocked, if_pos (Nat.lt_of_not_le hfit)]
      exact .refused

end Liblaser
