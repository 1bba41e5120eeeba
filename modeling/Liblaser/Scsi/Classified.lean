import Liblaser.Bot.Spec
import Liblaser.Scsi.CdbSpec

/-!
# `Scsi.Classified` — which status a command returns

`laser_scsi_cdb()` may send its CDB many times; the status it returns is to be the meaning of the last
time. `AttemptAt` is one transaction of the CDB in the call, with the sense read after it,
`Sense.means` the class of each status, and **`scsiCdb_classified`** that the returned status is the class
of the last transaction, for every status that has one, and that no transaction before it was in any.

The one answer that is in a class and does not end the call is a 28h/00h taken as the end of a spin-up,
which is why `Sense.means` is told of the flags.
-/

namespace Liblaser

open Loop

variable {W : Type} {h : Host W} {call : CdbCall} {v v' v₁ : CdbVars} {s s' t t₁ u : Sys W}
  {o : BotOutcome} {sense : Sense} {st : LaserStatus} {n m : Nat}

/-! ## The transactions of a call -/

/-- The flags that make 28h/00h the end of a spin-up: `becoming_ready || entry->not_ready`. -/
def spinningUp (v : CdbVars) (t : Sys W) : Bool := v.becomingReady.isSome || t.entry.notReady

/-- Turn `n` of the call sends the CDB: it begins with these locals in this state, the transaction ends
    in `o`, and `sense` is what REQUEST SENSE gave after it. -/
structure AttemptAt (h : Host W) (call : CdbCall) (s : Sys W) (n : Nat) (v : CdbVars) (t : Sys W)
    (o : BotOutcome) (sense : Sense) : Prop where
  inLoop : InLoop h call s n v t
  attempt_le : v.attempt ≤ laserMaxRetries
  uncancelled : (t.isCancelled h).1 = false
  outcome : (attemptOf h call t).1.outcome = o
  sense : (senseOf h o (attemptOf h call t).2).1 = sense

/-- The transaction of turn `n` is the last of the CDB in the call. -/
structure LastAttempt (h : Host W) (call : CdbCall) (s : Sys W) (n : Nat) (v : CdbVars) (t : Sys W)
    (o : BotOutcome) (sense : Sense) : Prop where
  attempt : AttemptAt h call s n v t o sense
  last : ∀ m v t o sense, AttemptAt h call s m v t o sense → m ≤ n

/-! ## The classes of sense data -/

/-- 05h/6Fh, COPY PROTECTION. -/
def Sense.isCopyProtection (sense : Sense) : Prop := sense.key = 0x05 ∧ sense.asc = 0x6f

/-- The sense data each status stands for; none for the other statuses. -/
def Sense.means (spinningUp : Bool) (sense : Sense) : LaserStatus → Prop
  | .errMediaGone => sense.isMediumNotPresent = true
      ∨ (sense.isMediumMayHaveChanged = true ∧ spinningUp = false)
  | .errScrambled => sense.isCopyProtection ∧ sense.ascq = 0x03
  | .errNoKey => sense.isCopyProtection
      ∧ (sense.ascq = 0x00 ∨ sense.ascq = 0x01 ∨ sense.ascq = 0x02)
  | .errRegion => sense.isCopyProtection ∧ (sense.ascq = 0x04 ∨ sense.ascq = 0x05)
  | .errRefused => (sense.key = 0x05 ∨ sense.key = 0x07) ∧ sense.isMediumMayHaveChanged = false
      ∧ ¬ (sense.isCopyProtection ∧ sense.ascq ≤ 0x05)
  | _ => False

/-- The statuses that are the meaning of a sense. -/
def LaserStatus.ofSense (st : LaserStatus) : Prop :=
  st = .errMediaGone ∨ st = .errRefused ∨ st = .errScrambled ∨ st = .errNoKey ∨ st = .errRegion

theorem LaserStatus.ofSense_ne (hst : st.ofSense) :
    st ≠ .ok ∧ st ≠ .errNoDevice ∧ st ≠ .errIo ∧ st ≠ .errCancelled := by
  rcases hst with rfl | rfl | rfl | rfl | rfl <;> decide

theorem LaserStatus.normalise_ofSense (hst : st.ofSense) : normalise st = st := by
  rcases hst with rfl | rfl | rfl | rfl | rfl <;> decide

/-- Any other status is kept or made an I/O error. -/
theorem normalise_ne_noDevice (st : LaserStatus) (hst : st ≠ .errNoDevice) :
    normalise st ≠ .errNoDevice := by
  cases st <;> first | exact absurd rfl hst | decide

/-- A copy-protection refusal is in no class tested before it. -/
theorem Sense.isCopyProtection.not_medium (hcopy : sense.isCopyProtection) :
    sense.isMediumNotPresent = false ∧ sense.isMediumMayHaveChanged = false := by
  obtain ⟨hkey, hasc⟩ := hcopy
  simp [isMediumNotPresent, isMediumMayHaveChanged, hkey, hasc]

theorem Sense.means.ofSense {up : Bool} (hmeans : sense.means up st) : st.ofSense := by
  cases st <;> first | exact hmeans.elim | simp [LaserStatus.ofSense]

/-- Data that says something was read. -/
theorem Sense.means.read {up : Bool} (hmeans : sense.means up st) : sense ≠ .unread := by
  rintro rfl
  cases st <;> simp [means, unread, isMediumNotPresent, isMediumMayHaveChanged, isCopyProtection] at hmeans

/-- The qualifiers of 05h/6Fh that have a status of their own. -/
theorem copyProtectionStatus_eq_refused (ascq : UInt8) :
    copyProtectionStatus ascq = .errRefused ↔ ¬ ascq ≤ 0x05 := by
  have hsix : ascq ≤ 0x05 ↔ ascq = 0x03 ∨ (ascq = 0x00 ∨ ascq = 0x01 ∨ ascq = 0x02)
      ∨ (ascq = 0x04 ∨ ascq = 0x05) := by
    simp only [UInt8.le_iff_toNat_le, ← UInt8.toNat_inj, UInt8.reduceToNat]
    omega
  rw [hsix]
  unfold copyProtectionStatus
  split
  · next heq => simp [heq]
  split
  · next heq => simp [heq]
  split
  · next heq => simp [heq]
  · next hscrambled hnokey hregion => simp [hscrambled, hnokey, hregion]

/-- **A class decides the verdict**, whatever the command and the transaction. -/
theorem classify_of_means {idempotent up : Bool} (hmeans : sense.means up st) :
    classify idempotent up o sense = .final st := by
  have hcopied : sense.isCopyProtection → copyProtectionStatus sense.ascq = st →
      classify idempotent up o sense = .final st := by
    intro hcopy hst
    obtain ⟨hpresent, hsame⟩ := hcopy.not_medium
    unfold classify
    rw [hpresent, hsame, if_neg Bool.false_ne_true, if_neg Bool.false_ne_true,
      if_pos (show sense.key = 0x05 ∧ sense.asc = 0x6f from hcopy), hst]
  cases st with
  | errMediaGone =>
      unfold classify
      rcases hmeans with habsent | ⟨hchanged, hdown⟩
      · rw [if_pos habsent]
      · rw [Sense.not_absent_of_changed hchanged, if_neg Bool.false_ne_true, if_pos hchanged, hdown,
          if_neg Bool.false_ne_true]
  | errScrambled =>
      apply hcopied hmeans.1
      rw [hmeans.2]
      rfl
  | errNoKey =>
      apply hcopied hmeans.1
      rcases hmeans.2 with heq | heq | heq <;> rw [heq] <;> rfl
  | errRegion =>
      apply hcopied hmeans.1
      rcases hmeans.2 with heq | heq <;> rw [heq] <;> rfl
  | errRefused =>
      obtain ⟨hkey, hsame, hother⟩ := hmeans
      by_cases hcopy : sense.isCopyProtection
      · apply hcopied hcopy
        exact (copyProtectionStatus_eq_refused _).mpr fun hascq => hother ⟨hcopy, hascq⟩
      · have hpresent : sense.isMediumNotPresent = false := by
          rcases hkey with heq | heq <;> simp [Sense.isMediumNotPresent, heq]
        unfold classify
        rw [hpresent, hsame, if_neg Bool.false_ne_true, if_neg Bool.false_ne_true,
          if_neg (show ¬ (sense.key = 0x05 ∧ sense.asc = 0x6f) from hcopy), if_pos hkey]
  | ok | errNoSuchToken | errIo | errInvalid | errCancelled | errNoDevice => exact hmeans.elim

/-- And a verdict that ends the call is a class, but for the command that must not be sent twice. -/
theorem ClassifySpec.means {idempotent up : Bool}
    (hspec : ClassifySpec idempotent up o sense (.final st)) :
    sense.means up st ∨ (st = .errIo ∧ idempotent = false ∧ o ≠ .notSent) := by
  generalize hst : Verdict.final st = verdict at hspec
  cases hspec with
  | mediumAbsent habsent =>
      injection hst with hst
      exact .inl (hst ▸ .inl habsent)
  | mediumChanged hchanged hdown =>
      injection hst with hst
      exact .inl (hst ▸ .inr ⟨hchanged, hdown⟩)
  | copyProtection hsame hkey hasc =>
      injection hst with hst
      subst hst
      left
      have hcopy : sense.isCopyProtection := ⟨hkey, hasc⟩
      generalize hst : copyProtectionStatus sense.ascq = st
      have hrefused := copyProtectionStatus_eq_refused sense.ascq
      unfold copyProtectionStatus at hst hrefused
      split at hst
      · next heq => exact hst ▸ ⟨hcopy, heq⟩
      split at hst
      · next heq => exact hst ▸ ⟨hcopy, heq⟩
      split at hst
      · next heq => exact hst ▸ ⟨hcopy, heq⟩
      · next hscrambled hnokey hregion =>
          rw [if_neg hscrambled, if_neg hnokey, if_neg hregion] at hrefused
          exact hst ▸ ⟨.inl hkey, hsame, fun hboth => hrefused.mp rfl hboth.2⟩
  | refused hsame hkey hcopy =>
      injection hst with hst
      subst hst
      exact .inl ⟨hkey, hsame, fun hboth => hcopy hboth.1⟩
  | unsafeToRetry _ hidem hsent =>
      injection hst with hst
      exact .inr ⟨hst, hidem, hsent⟩
  | mediumReady _ _ | becomingReady _ _ | unitAttention _ _ _ _ | delayed _ _ _ => cases hst

theorem ClassifySpec.ne_noDevice {idempotent up : Bool}
    (hspec : ClassifySpec idempotent up o sense (.final st)) : st ≠ .errNoDevice := by
  rcases hspec.means with hmeans | ⟨rfl, -⟩
  · exact (LaserStatus.ofSense_ne hmeans.ofSense).2.1
  · decide

/-- The loop ends with `LASER_OK` on a transaction that passed, and on nothing else. -/
theorem DoneSpec.asked_of_ok (hspec : DoneSpec h call v s v' u) (hv : v.result = .errIo)
    (hok : v'.result = .ok) : ∃ v₁ t started, Asked h call v s .pass v₁ t
      ∧ v' = { v₁ with result := .ok }
      ∧ u = sampleThroughputLocked h call.request.dataLen started t := by
  cases hspec with
  | exhausted _ =>
      rw [hv] at hok
      cases hok
  | cancelled _ _ | gone _ => cases hok
  | passed hasked => exact ⟨_, _, _, hasked, rfl, rfl⟩
  | final _ hclass =>
      obtain rfl : _ = LaserStatus.ok := hok
      rcases hclass.means with hmeans | ⟨hio, -⟩
      · exact absurd rfl (LaserStatus.ofSense_ne hmeans.ofSense).1
      · cases hio

/-- It ends with a status of sense data on a transaction that failed with such data. -/
theorem DoneSpec.failed_of_sense (hspec : DoneSpec h call v s v' u) (hv : v.result = .errIo)
    (hst : v'.result.ofSense) : ∃ sense v₁, Failed h call v s (.failed usbBotStatusFail) sense v₁ u
      ∧ sense.means (v.becomingReady.isSome || s.entry.notReady) v'.result := by
  cases hspec with
  | exhausted _ =>
      rw [hv] at hst
      exact absurd rfl (LaserStatus.ofSense_ne hst).2.2.1
  | cancelled _ _ => exact absurd rfl (LaserStatus.ofSense_ne hst).2.2.2
  | passed _ => exact absurd rfl (LaserStatus.ofSense_ne hst).1
  | gone _ => exact absurd rfl (LaserStatus.ofSense_ne hst).2.1
  | final hfailed hclass =>
      rcases hclass.means with hmeans | ⟨hio, -⟩
      · obtain rfl := hfailed.outcome_of_read hmeans.read
        exact ⟨_, _, hfailed, hmeans⟩
      · exact absurd hio (LaserStatus.ofSense_ne hst).2.2.1

/-- A CBW that was not taken is tried again. -/
theorem Failed.sent_of_final {idempotent up : Bool} {t₂ : Sys W} (hfailed : Failed h call v t o sense v' t₂)
    (hspec : ClassifySpec idempotent up o sense (.final st)) : o ≠ .notSent := by
  rintro rfl
  rcases hspec.means with hmeans | ⟨-, -, hsent⟩
  · exact hmeans.read hfailed.sense_of_notSent
  · exact hsent rfl

/-! ## The turn of a transaction -/

theorem AttemptAt.of_failed {t₂ : Sys W} (hin : InLoop h call s n v t)
    (hfailed : Failed h call v t o sense v' t₂) : AttemptAt h call s n v t o sense := by
  obtain ⟨-, -, -, hle, hpoll⟩ := hfailed.vars
  obtain ⟨houtcome, hsense⟩ := hfailed.answer
  exact ⟨hin, hle, hpoll, houtcome, by rw [hsense]⟩

theorem AttemptAt.of_asked {t₂ : Sys W} (hin : InLoop h call s n v t)
    (hasked : Asked h call v t o v' t₂) (ho : o = .pass ∨ o = .noDevice) :
    AttemptAt h call s n v t o .unread := by
  refine ⟨hin, hasked.attempt_le, hasked.uncancelled, hasked.outcome, ?_⟩
  rcases ho with rfl | rfl <;> rfl

/-- Only a CSW FAIL is asked about. -/
theorem AttemptAt.outcome_of_read (hat : AttemptAt h call s n v t o sense) (hread : sense ≠ .unread) :
    o = .failed usbBotStatusFail := by
  have hspec := senseOf_spec h o (attemptOf h call t).2
  rw [hat.sense] at hspec
  generalize (senseOf h o (attemptOf h call t).2).2 = t' at hspec
  cases hspec with
  | notAsked _ => exact absurd rfl hread
  | unanswered ho | answered ho _ => exact ho

/-- A transaction that passes ends the call. -/
theorem AttemptAt.done_of_pass (hat : AttemptAt h call s n v t .pass sense) :
    ∃ v' u, cdbTurn h call (v, t) = .done (v', u) ∧ v'.result = .ok
      ∧ v'.actualLen = (attemptOf h call t).1.actualLen.or v.actualLen := by
  have hspec := cdbTurn_spec h call v t
  generalize cdbTurn h call (v, t) = turn at hspec ⊢
  rcases turn with ⟨v', u⟩ | ⟨v', u⟩
  · cases (show AgainSpec h call v t v' u from hspec) with
    | mediumReady hfailed _ _ | free hfailed _ _ _ _ _ | late hfailed _ _ _ _ _ _
    | retried hfailed _ _ _ _ =>
        exact absurd (hfailed.answer.1.symm.trans hat.outcome) hfailed.not_pass
  · cases (show DoneSpec h call v t v' u from hspec) with
    | exhausted hmax => exact absurd hat.attempt_le (Nat.not_le_of_lt hmax)
    | cancelled _ hcancel =>
        have hpoll : (h.isCancelled t.world).1 = false := hat.uncancelled
        rw [hcancel] at hpoll
        cases hpoll
    | passed hasked => exact ⟨_, _, rfl, rfl, congrArg CdbVars.actualLen hasked.stored⟩
    | gone hasked => cases hasked.outcome.symm.trans hat.outcome
    | final hfailed _ => exact absurd (hfailed.answer.1.symm.trans hat.outcome) hfailed.not_pass

/-- So does one whose sense is in a class, with the status of the class. -/
theorem AttemptAt.done_of_means (hat : AttemptAt h call s n v t o sense)
    (hmeans : sense.means (spinningUp v t) st) :
    ∃ v' u, cdbTurn h call (v, t) = .done (v', u) ∧ v'.result = st
      ∧ v'.cbwNeverSent < v'.attemptsMade := by
  obtain rfl := hat.outcome_of_read hmeans.read
  have hturn := cdbTurn_of_failed hat.attempt_le hat.uncancelled hat.outcome
  unfold failedTurn at hturn
  dsimp only at hturn
  rw [hat.sense] at hturn
  have hnote : (CdbVars.store { v with attemptsMade := v.attempt } (attemptOf h call t).1).note
      (.failed usbBotStatusFail)
      = CdbVars.store { v with attemptsMade := v.attempt } (attemptOf h call t).1 := rfl
  have hsense := senseOf_spec h (.failed usbBotStatusFail) (attemptOf h call t).2
  have hup : ((CdbVars.store { v with attemptsMade := v.attempt }
        (attemptOf h call t).1).becomingReady.isSome
      || (senseOf h (.failed usbBotStatusFail) (attemptOf h call t).2).2.entry.notReady)
      = spinningUp v t := by
    rw [hsense.notReady]
    rfl
  rw [hnote, hup, classify_of_means hmeans] at hturn
  refine ⟨_, _, hturn, rfl, ?_⟩
  show v.cbwNeverSent < v.attempt
  exact hat.inLoop.neverSent_lt

/-- The verdict, when the two counters are equal. -/
theorem conclude_of_silent (hok : v.result ≠ .ok) (hcancel : v.result ≠ .errCancelled)
    (hmade : 0 < v.attemptsMade) (hsent : v.cbwNeverSent = v.attemptsMade) :
    conclude v s = (⟨.errNoDevice, v.actualLen, v.data⟩, s.markGone) := by
  unfold conclude neverSentVerdict
  rw [if_pos ⟨hok, hcancel, hmade, hsent⟩]
  rfl

/-- No verdict, when they are not or the call has another result. -/
theorem conclude_of_heard
    (hheard : v.result = .ok ∨ v.result = .errCancelled ∨ v.cbwNeverSent ≠ v.attemptsMade) :
    conclude v s = (⟨normalise v.result, v.actualLen, v.data⟩, s) := by
  unfold conclude neverSentVerdict
  rw [if_neg]
  rintro ⟨hok, hcancel, -, hsent⟩
  rcases hheard with heq | heq | hne
  · exact hok heq
  · exact hcancel heq
  · exact hne hsent

/-- What the loop is left with when its last transaction explains it. -/
theorem conclude_status (hkept : v.cbwNeverSent < v.attemptsMade ∨ v.result = .ok)
    (hst : v.result = .ok ∨ v.result.ofSense) : (conclude v t).1.status = v.result := by
  have hheard : v.result = .ok ∨ v.result = .errCancelled ∨ v.cbwNeverSent ≠ v.attemptsMade := by
    rcases hkept with hlt | hok
    · exact .inr (.inr (Nat.ne_of_lt hlt))
    · exact .inl hok
  rw [conclude_of_heard hheard]
  rcases hst with hok | hsense
  · rw [hok]
    rfl
  · exact LaserStatus.normalise_ofSense hsense

/-- The transaction whose turn leaves the loop is the last. -/
theorem AttemptAt.isLast (hat : AttemptAt h call s n v t o sense)
    (hdone : cdbTurn h call (v, t) = .done (v', u)) : LastAttempt h call s n v t o sense :=
  ⟨hat, fun _ _ _ _ _ hat' => hat.inLoop.2.le_of_done hdone hat'.inLoop.2⟩

/-- How a call ends whose status is `LASER_OK` or the class of a sense: in the turn of its last
    transaction. -/
theorem Returns.last {r : CdbResult} (hret : Returns h call s r s')
    (hst : r.status = .ok ∨ r.status.ofSense) :
    ∃ n v t o sense, LastAttempt h call s n v t o sense
      ∧ ((r.status = .ok ∧ o = .pass)
        ∨ (o = .failed usbBotStatusFail ∧ sense.means (spinningUp v t) r.status)) := by
  have hne : r.status ≠ .errNoDevice ∧ r.status ≠ .errIo ∧ r.status ≠ .errCancelled
      ∧ r.status ≠ .errInvalid ∧ r.status ≠ .errNoSuchToken := by
    rcases hst with heq | heq | heq | heq | heq | heq <;> rw [heq] <;> decide
  obtain ⟨hdevice, hio, hcancel, hinvalid, htoken⟩ := hne
  rcases hret.cases with ⟨st, hcheck, rfl, -⟩ | ⟨n, v, t, v', u, hin, hdone, rfl, -⟩
  · rcases precheck_status hcheck with heq | heq | heq | heq
    · exact absurd heq hinvalid
    · exact absurd heq htoken
    · exact absurd heq hcancel
    · exact absurd heq hdevice
  · have hresult := result_of_conclude hdevice hio (rfl : (conclude v' u).1.status = _)
    rw [← hresult] at hdevice hio hcancel ⊢
    cases cdbTurn_done hdone with
    | exhausted _ => exact absurd hin.result hio
    | cancelled _ _ => exact absurd rfl hcancel
    | passed hasked =>
        exact ⟨n, v, t, _, _, (AttemptAt.of_asked hin hasked (.inl rfl)).isLast hdone,
          .inl ⟨rfl, rfl⟩⟩
    | gone _ => exact absurd rfl hdevice
    | final hfailed hclass =>
        rcases hclass.means with hmeans | ⟨heq, -⟩
        · have hat := AttemptAt.of_failed hin hfailed
          exact ⟨n, v, t, _, _, hat.isLast hdone, .inr ⟨hat.outcome_of_read hmeans.read, hmeans⟩⟩
        · exact absurd heq hio

/-! ## The law -/

/-- The host stores a count for every transaction that passes and is asked for one. -/
def Host.Counts (h : Host W) : Prop :=
  ∀ entry req w, (h.send entry req w).1.outcome = .pass → req.wantActualLen = true →
    ∃ k, (h.send entry req w).1.actualLen = some k

/-- A data phase that does not end the call leaves a count when one is asked for. -/
theorem DataPhaseSpec.counts {U : Type} {usb : UsbHost U} {entry : LaserEntry} {req : BotRequest}
    {k : Nat} {moved : DataMoved} {log log' : List UsbEvent}
    (hspec : DataPhaseSpec usb entry req k log none moved log') (hwant : req.wantActualLen = true) :
    ∃ a, moved.actualLen = some a := by
  cases hspec with
  | skipped _ => exact ⟨0, if_pos hwant⟩
  | moved _ _ _ _ => exact ⟨_, if_pos hwant⟩
  | stalled _ _ _ _ => exact ⟨_, if_pos hwant⟩

/-- A CSW is concluded from with a count, then. -/
theorem concludeCsw_counts {req : BotRequest} {moved : DataMoved} (bot : BotState) (csw : Csw)
    (hmoved : ∃ a, moved.actualLen = some a) :
    ∃ a, (concludeCsw req moved bot csw).actualLen = some a := by
  obtain ⟨a, ha⟩ := hmoved
  have hcount : ∀ counted : Bool, ∃ a', (if counted then
      some (reconcile req.dataLen moved.dataTransferred csw.dCSWDataResidue.toNat)
      else moved.actualLen) = some a' := by
    intro counted
    cases counted with
    | true => exact ⟨_, rfl⟩
    | false => exact ⟨a, ha⟩
  unfold concludeCsw
  dsimp only
  split
  · exact ⟨a, ha⟩
  · split <;> exact hcount _

/-- The library's own transport does. -/
theorem Host.ofUsb_counts {U : Type} (usb : UsbHost U) (clockGettime : U → Timespec × U)
    (isCancelled : U → Bool × U) : (Host.ofUsb usb clockGettime isCancelled).Counts := by
  intro entry req u hpass hwant
  have hspec := laserBotSendLocked_spec usb entry req u
  change (laserBotSendLocked usb entry req u).1.outcome = .pass at hpass
  show ∃ k, (laserBotSendLocked usb entry req u).1.actualLen = some k
  generalize (laserBotSendLocked usb entry req u).2.log = log at hspec
  generalize (laserBotSendLocked usb entry req u).1 = reply at hspec hpass
  -- only a call that concludes from a CSW can pass
  cases hspec with
  | refused _ => cases hpass
  | cbwEnds _ hcbw =>
      dsimp only at hpass
      subst hpass
      cases hcbw
  | dataEnds _ _ hdata =>
      dsimp only at hpass
      subst hpass
      cases hdata
  | cswEnds _ _ _ hcsw _ =>
      dsimp only at hpass
      subst hpass
      cases hcsw
  | concludes _ _ hdata _ _ => exact concludeCsw_counts _ _ (hdata.counts hwant)

/-- The attempt that explains the failure had its CBW sent, so not every one was lost. -/
theorem InLoop.counted (hin : InLoop h call s n v t)
    (hdone : cdbTurn h call (v, t) = .done (v', u)) (hst : v'.result.ofSense) :
    v'.cbwNeverSent < v'.attemptsMade := by
  obtain ⟨hok, hdevice, hio, hcancel⟩ := LaserStatus.ofSense_ne hst
  cases cdbTurn_done hdone with
  | exhausted _ => exact absurd hin.result hio
  | cancelled _ _ => exact absurd rfl hcancel
  | passed _ => exact absurd rfl hok
  | gone _ => exact absurd rfl hdevice
  | final hfailed hclass =>
      rcases hclass.means with hmeans | ⟨heq, -⟩
      · have hat := AttemptAt.of_failed hin hfailed
        obtain ⟨v₁, u₁, hdone₁, -, hlt⟩ := hat.done_of_means hmeans
        rw [hdone] at hdone₁
        injection hdone₁ with heq
        injection heq with hv _
        exact hv ▸ hlt
      · exact absurd heq hio

/-- What the status of a call says of its transactions. -/
structure Classified (h : Host W) (call : CdbCall) (s : Sys W) (r : CdbResult) : Prop where
  /-- `LASER_OK` is that the last transaction passed, -/
  ok : r.status = .ok ↔ ∃ n v t sense, LastAttempt h call s n v t .pass sense
  /-- with its own count. -/
  count : ∀ n v t sense k, LastAttempt h call s n v t .pass sense →
    (attemptOf h call t).1.actualLen = some k → r.actualLen = some k
  /-- A status of a sense is that the last transaction ended in CSW FAIL with that sense. -/
  ofSense : ∀ st, LaserStatus.ofSense st → (r.status = st ↔
    ∃ n v t sense, LastAttempt h call s n v t (.failed usbBotStatusFail) sense
      ∧ sense.means (spinningUp v t) st)
  /-- No transaction before another had such a sense, but a 28h/00h taken as the end of a spin-up. -/
  earlier : ∀ n v t o sense m v₁ t₁ o₁ sense₁, AttemptAt h call s n v t o sense →
    AttemptAt h call s m v₁ t₁ o₁ sense₁ → m < n → ∀ st, sense₁.means false st →
    sense₁.isMediumMayHaveChanged = true ∧ spinningUp v₁ t₁ = true
  /-- Nothing after the loop turns such a status into another. -/
  kept : ∀ n v t v' u, InLoop h call s n v t → cdbTurn h call (v, t) = .done (v', u) →
    v'.result = .ok ∨ v'.result.ofSense → r.status = v'.result

/-- A class that is not one under the flags of its turn is a 28h/00h at the end of a spin-up. -/
theorem Sense.means.absorbed {up : Bool} (hmeans : sense.means false st) (hnot : ¬ sense.means up st) :
    sense.isMediumMayHaveChanged = true ∧ up = true := by
  cases st with
  | errMediaGone =>
      rcases hmeans with habsent | ⟨hchanged, -⟩
      · exact absurd (.inl habsent) hnot
      · refine ⟨hchanged, ?_⟩
        cases up with
        | true => rfl
        | false => exact absurd (.inr ⟨hchanged, rfl⟩) hnot
  | errScrambled | errNoKey | errRegion | errRefused => exact absurd hmeans hnot
  | ok | errNoSuchToken | errIo | errInvalid | errCancelled | errNoDevice => exact hmeans.elim

/-- **The final status is classified.** -/
theorem scsiCdb_classified (h : Host W) (call : CdbCall) (s s' : Sys W) (r : CdbResult)
    (hret : Returns h call s r s') :
    Classified h call s r
      ∧ ∀ (U : Type) (usb : UsbHost U) (clockGettime : U → Timespec × U)
          (isCancelled : U → Bool × U), (Host.ofUsb usb clockGettime isCancelled).Counts := by
  have hkept : ∀ n v t v' u, InLoop h call s n v t → cdbTurn h call (v, t) = .done (v', u) →
      r = (conclude v' u).1 := fun n v t v' u hin hdone => (hret.unique (hin.returns hdone)).1
  refine ⟨⟨?_, ?_, ?_, ?_, ?_⟩, fun U usb clock cancel => Host.ofUsb_counts usb clock cancel⟩
  · constructor
    · intro hok
      obtain ⟨n, v, t, o, sense, hlast, ⟨-, rfl⟩ | ⟨-, hmeans⟩⟩ := hret.last (.inl hok)
      · exact ⟨n, v, t, sense, hlast⟩
      · rw [hok] at hmeans
        exact hmeans.elim
    · rintro ⟨n, v, t, sense, hlast⟩
      obtain ⟨v', u, hdone, hok, -⟩ := hlast.attempt.done_of_pass
      rw [hkept n v t v' u hlast.attempt.inLoop hdone, conclude_status (.inr hok) (.inl hok), hok]
  · intro n v t sense k hlast hk
    obtain ⟨v', u, hdone, -, hactual⟩ := hlast.attempt.done_of_pass
    rw [hkept n v t v' u hlast.attempt.inLoop hdone]
    show v'.actualLen = some k
    rw [hactual, hk]
    rfl
  · intro st hst
    constructor
    · rintro rfl
      obtain ⟨n, v, t, o, sense, hlast, ⟨hok, -⟩ | ⟨rfl, hmeans⟩⟩ := hret.last (.inr hst)
      · exact absurd hok (LaserStatus.ofSense_ne hst).1
      · exact ⟨n, v, t, sense, hlast, hmeans⟩
    · rintro ⟨n, v, t, sense, hlast, hmeans⟩
      obtain ⟨v', u, hdone, rfl, hlt⟩ := hlast.attempt.done_of_means hmeans
      rw [hkept n v t v' u hlast.attempt.inLoop hdone, conclude_status (.inl hlt) (.inr hst)]
  · intro n v t o sense m v₁ t₁ o₁ sense₁ hlater hat hlt st hmeans
    refine hmeans.absorbed fun hfinal => ?_
    -- an answer in a class would have been the last
    obtain ⟨v', u, hdone, -, -⟩ := hat.done_of_means hfinal
    have hle := (hat.isLast hdone).last n v t o sense hlater
    exact absurd hlt (Nat.not_lt_of_le hle)
  · intro n v t v' u hin hdone hst
    rw [hkept n v t v' u hin hdone]
    rcases hst with hok | hsense
    · exact conclude_status (.inr hok) (.inl hok)
    · refine conclude_status (.inl ?_) (.inr hsense)
      exact hin.counted hdone hsense

/-- A read that meets a spin-up and then a scrambled sector: 02h/04h, 28h/00h, 05h/6Fh/03h. -/
theorem scsiCdb_classified_scrambled :
    let script := Script.ofList
      [{ outcome := .failed 0x01 }, .sense 0x02 0x04 0x01, { outcome := .failed 0x01 },
        .sense 0x06 0x28 0x00, { outcome := .failed 0x01 }, .sense 0x05 0x6f 0x03]
    let s : Sys Script := ⟨{ inUse := true }, script, []⟩
    Classified .scripted readBlock16 s ⟨.errScrambled, none, []⟩ :=
  (scsiCdb_classified .scripted readBlock16 _ _ _ ⟨3, rfl⟩).1

end Liblaser
