import Liblaser.Bot.NotSent
import Liblaser.Scsi.Cancelled

/-!
# `Scsi.Resent` — a key command sent again because it was not sent

The only failure after which the retry loop repeats a command that changes CSS state is
`BOT_FAIL_NOT_SENT`, so what the loop does is as good as that code. On the host the library runs on,
`ResentWhole` is a CDB sent again for that reason after libusb had reported its CBW gone out whole.

**`notSent_honest_iff`** puts the two together: the code is honest except on a `Disputed` reply, and the
loop sends a whole CBW's CDB again exactly when such a reply comes before the last attempt and the token
is not cancelled in the delay. `sendKey_resent` is a SEND KEY sent so.
-/

namespace Liblaser

open Loop

variable {W : Type} {h : Host W} {call : CdbCall} {v : CdbVars} {s t : Sys W} {n : Nat}

/-- The state in which turn `n + 1` begins when the CDB of turn `n`, begun in `t`, was not sent. -/
def afterDelay (h : Host W) (call : CdbCall) (t : Sys W) : Sys W :=
  ((attemptOf h call t).2.record (.retried .counted)).usleep h (laserRetryDelayMs * 1000)

/-- **A CDB that was not sent is sent again** while attempts are left. -/
theorem cdbTurn_of_notSent (hlt : v.attempt < laserMaxRetries) (hpoll : (t.isCancelled h).1 = false)
    (ho : outcomeAt h call t = .notSent) :
    ∃ v', v'.attempt = v.attempt + 1
      ∧ cdbTurn h call (v, t) = .again (v', afterDelay h call t) := by
  have hlost : Lost h call t := by
    rw [Lost, ho]
    exact ⟨by decide, by decide⟩
  have hsense : (senseAt h call t).2 = (attemptOf h call t).2 := by
    rw [senseAt, ho]
    rfl
  have hattempt : (notedAt h call v t).attempt = v.attempt := notedAt_attempt
  refine ⟨(notedAt h call v t).spend, congrArg (· + 1) hattempt, ?_⟩
  rw [cdbTurn_eq_followVerdict (Nat.le_of_lt hlt) hpoll hlost, verdictAt_of_notSent ho, hsense]
  unfold followVerdict delayedRetry
  dsimp only
  rw [if_pos (by rw [hattempt]; exact hlt)]
  rfl

/-- The attempt after one that was not sent is made in the state after the delay. -/
theorem AttemptAt.next_of_notSent {v' : CdbVars} {t' : Sys W} {o : BotOutcome} {sense sense' : Sense}
    (hat : AttemptAt h call s n v t .notSent sense)
    (hnext : AttemptAt h call s (n + 1) v' t' o sense') :
    v.attempt < laserMaxRetries ∧ t' = afterDelay h call t := by
  have hle := hat.attempt_le
  rcases Nat.lt_or_eq_of_le hle with hlt | heq
  · obtain ⟨v₁, -, hb⟩ := cdbTurn_of_notSent hlt hat.uncancelled hat.outcome
    have hsame := (hat.inLoop.next hb).2.unique hnext.inLoop.2
    simp only [Prod.mk.injEq] at hsame
    exact ⟨hlt, hsame.2.symm⟩
  · -- the sixth attempt is the last
    have hlost : Lost h call t := by
      rw [Lost, outcomeAt, hat.outcome]
      exact ⟨by decide, by decide⟩
    have hb := cdbTurn_eq_followVerdict hle hat.uncancelled hlost
    rw [verdictAt_of_notSent hat.outcome] at hb
    have hsame := (hat.inLoop.next hb).2.unique hnext.inLoop.2
    simp only [Prod.mk.injEq] at hsame
    have hspent : v'.attempt = v.attempt + 1 := by
      rw [← hsame.1]
      exact congrArg (· + 1) notedAt_attempt
    have hle' := hnext.attempt_le
    omega

/-! ## On the host the library runs on -/

section OfUsb

variable {U : Type} (usb : UsbHost U) (clockGettime : U → Timespec × U) (isCancelled : U → Bool × U)

/-- libusb's reply to the CBW of the attempt of a turn begun in `t`. -/
def cbwReplyAt (call : CdbCall) (t : Sys U) : BulkReply :=
  let h := Host.ofUsb usb clockGettime isCancelled
  let t := ((t.isCancelled h).2.clockGettime h).2
  cbwReply usb t.entry call.request t.world

/-- An attempt of the call ends in `BOT_FAIL_NOT_SENT` although its CBW was reported to have gone out
    whole, without a stall, and the CDB is sent again. -/
def ResentWhole (call : CdbCall) (s : Sys U) : Prop :=
  ∃ n v t sense,
    AttemptAt (.ofUsb usb clockGettime isCancelled) call s n v t .notSent sense
    ∧ (cbwReplyAt usb clockGettime isCancelled call t).Whole
    ∧ ∃ v' t' o sense', AttemptAt (.ofUsb usb clockGettime isCancelled) call s (n + 1) v' t' o sense'

/-- An attempt before the last gets a disputed reply, and the token is not cancelled in the delay that
    follows. -/
def DisputedEarly (call : CdbCall) (s : Sys U) : Prop :=
  ∃ n v t,
    InLoop (.ofUsb usb clockGettime isCancelled) call s n v t ∧ v.attempt < laserMaxRetries
    ∧ (t.isCancelled (.ofUsb usb clockGettime isCancelled)).1 = false
    ∧ (cbwReplyAt usb clockGettime isCancelled call t).Disputed
    ∧ ((afterDelay (.ofUsb usb clockGettime isCancelled) call t).isCancelled
        (.ofUsb usb clockGettime isCancelled)).1 = false

variable {usb clockGettime isCancelled}

/-- A call in its loop has passed the checks, so its CDB fits a CBW. -/
theorem InLoop.cdb_fits (hin : InLoop h call s n v t) : call.request.cdb.length ≤ cbwcbSize := by
  apply CdbCall.fits_of_valid
  have hcheck := hin.1
  unfold precheck at hcheck
  split at hcheck
  · cases hcheck
  · next hvalid => simpa using hvalid

/-- An attempt was not sent exactly when its reply is one the code makes that of. -/
theorem outcomeAt_notSent_iff {s t : Sys U}
    (hin : InLoop (.ofUsb usb clockGettime isCancelled) call s n v t) :
    outcomeAt (.ofUsb usb clockGettime isCancelled) call t = .notSent
      ↔ (cbwReplyAt usb clockGettime isCancelled call t).ret ≠ .errorNoDevice
        ∧ ¬ (cbwReplyAt usb clockGettime isCancelled call t).Taken :=
  outcome_notSent_iff hin.cdb_fits _

theorem resentWhole_iff (call : CdbCall) (s : Sys U) :
    ResentWhole usb clockGettime isCancelled call s
      ↔ DisputedEarly usb clockGettime isCancelled call s := by
  constructor
  · rintro ⟨n, v, t, sense, hat, hwhole, v', t', o, sense', hnext⟩
    obtain ⟨hlt, rfl⟩ := hat.next_of_notSent hnext
    have hnot := (outcomeAt_notSent_iff hat.inLoop).mp hat.outcome
    exact ⟨n, v, t, hat.inLoop, hlt, hat.uncancelled, ⟨hwhole, hnot⟩, hnext.uncancelled⟩
  · rintro ⟨n, v, t, hin, hlt, hpoll, ⟨hwhole, hnot⟩, hpoll'⟩
    have ho := (outcomeAt_notSent_iff hin).mpr hnot
    obtain ⟨v', hattempt, hb⟩ := cdbTurn_of_notSent hlt hpoll ho
    exact ⟨n, v, t, _, ⟨hin, Nat.le_of_lt hlt, hpoll, ho, rfl⟩, hwhole, v', _, _, _, hin.next hb,
      by omega, hpoll', rfl, rfl⟩

end OfUsb

/-- **When `BOT_FAIL_NOT_SENT` is honest, and what the retry loop makes of it.** The first half is about
    every single transaction, the second about every command, those that change CSS state among them. -/
theorem notSent_honest_iff {U : Type} (usb : UsbHost U) (clockGettime : U → Timespec × U)
    (isCancelled : U → Bool × U) :
    (∀ (entry : LaserEntry) (req : BotRequest) (u : U),
      NotSentHonest usb entry req u
        ↔ ¬ (req.cdb.length ≤ cbwcbSize ∧ (cbwReply usb entry req u).Disputed))
    ∧ ∀ (call : CdbCall) (s : Sys U),
      ¬ ResentWhole usb clockGettime isCancelled call s
        ↔ ¬ DisputedEarly usb clockGettime isCancelled call s :=
  ⟨fun entry req u => notSent_untaken_iff usb entry req u,
    fun call s => not_congr (resentWhole_iff call s)⟩

/-- libusb's reply to a CBW that went out whole and ended in an I/O error. -/
def cbwWholeButIo : BulkReply := .moved .errorIo usbBotCbwSize []

/-- **A SEND KEY sent twice.** Its CBW is reported gone out whole, with `LIBUSB_ERROR_IO`: the code
    answers `BOT_FAIL_NOT_SENT` and the loop sends the CDB again. -/
theorem sendKey_resent :
    let entry : LaserEntry := { inUse := true, cssOpen := true }
    let clock : List BulkReply → Timespec × List BulkReply := fun u => (⟨0, 0⟩, u)
    let never : List BulkReply → Bool × List BulkReply := fun u => (false, u)
    laserCdbChangesCssState sendKey2.cdb = true
      ∧ ¬ NotSentHonest .scripted entry sendKey2.request [cbwWholeButIo]
      ∧ ResentWhole .scripted clock never sendKey2 ⟨entry, [cbwWholeButIo], []⟩ := by
  intro entry clock never
  refine ⟨by decide, ?_, ?_⟩
  · rw [notSent_untaken_iff]
    exact not_not_intro ⟨by decide, by decide⟩
  · rw [resentWhole_iff]
    exact ⟨0, {}, _, ⟨by decide, .start⟩, by decide, by decide, by decide, by decide⟩

end Liblaser
