import Liblaser.Scsi.Cdb
import Liblaser.Scsi.Flags

/-!
# `Scsi.CdbSpec` — what one turn of the retry loop can do

The inversion lemmas the properties of `laser_scsi_cdb()` are proved from: **`classify_spec`** is each
verdict with the sense class it stands for, `senseOf_spec` the sense read after a failure, and
**`cdbTurn_spec`** everything a turn can do, as `AgainSpec` when it goes round again and `DoneSpec` when
it leaves. No later proof unfolds the loop.
-/

namespace Liblaser

open Loop

variable {W : Type} {h : Host W} {call : CdbCall} {v v' : CdbVars} {s s' t u : Sys W}
  {o : BotOutcome} {sense : Sense}

/-- A CDB that passes the checks fits a CBW. -/
theorem CdbCall.fits_of_valid (hvalid : call.valid = true) :
    call.request.cdb.length ≤ cbwcbSize := by
  unfold valid at hvalid
  simp only [Bool.and_eq_true, Bool.not_eq_true', Bool.or_eq_false_iff, decide_eq_false_iff_not,
    Nat.not_lt] at hvalid
  exact hvalid.1.2

/-! ## The verdicts -/

/-- Each verdict, with what the chain of tests has established when it is given. -/
inductive ClassifySpec (idempotent spinningUp : Bool) (o : BotOutcome) (sense : Sense) :
    Verdict → Prop where
  | mediumAbsent (habsent : sense.isMediumNotPresent = true) :
      ClassifySpec idempotent spinningUp o sense (.final .errMediaGone)
  | mediumChanged (hchanged : sense.isMediumMayHaveChanged = true) (hup : spinningUp = false) :
      ClassifySpec idempotent spinningUp o sense (.final .errMediaGone)
  | mediumReady (hchanged : sense.isMediumMayHaveChanged = true) (hup : spinningUp = true) :
      ClassifySpec idempotent spinningUp o sense .mediumReady
  | copyProtection (hchanged : sense.isMediumMayHaveChanged = false) (hkey : sense.key = 0x05)
      (hasc : sense.asc = 0x6f) :
      ClassifySpec idempotent spinningUp o sense (.final (copyProtectionStatus sense.ascq))
  | refused (hchanged : sense.isMediumMayHaveChanged = false)
      (hkey : sense.key = 0x05 ∨ sense.key = 0x07)
      (hasc : ¬ (sense.key = 0x05 ∧ sense.asc = 0x6f)) :
      ClassifySpec idempotent spinningUp o sense (.final .errRefused)
  | unsafeToRetry (hchanged : sense.isMediumMayHaveChanged = false) (hidem : idempotent = false)
      (hsent : o ≠ .notSent) :
      ClassifySpec idempotent spinningUp o sense (.final .errIo)
  | becomingReady (hready : sense.isBecomingReady = true)
      (hsafe : idempotent = true ∨ o = .notSent) :
      ClassifySpec idempotent spinningUp o sense .becomingReady
  | unitAttention (hkey : sense.isUnitAttention = true)
      (hchanged : sense.isMediumMayHaveChanged = false) (hready : sense.isBecomingReady = false)
      (hsafe : idempotent = true ∨ o = .notSent) :
      ClassifySpec idempotent spinningUp o sense .unitAttention
  | delayed (hchanged : sense.isMediumMayHaveChanged = false)
      (hready : sense.isBecomingReady = false) (hsafe : idempotent = true ∨ o = .notSent) :
      ClassifySpec idempotent spinningUp o sense .delayed

theorem classify_spec (idempotent spinningUp : Bool) (o : BotOutcome) (sense : Sense) :
    ClassifySpec idempotent spinningUp o sense (classify idempotent spinningUp o sense) := by
  unfold classify
  split
  case isTrue habsent => exact .mediumAbsent habsent
  split
  case isTrue hchanged =>
    split
    · next hup => exact .mediumReady hchanged hup
    · next hup => exact .mediumChanged hchanged (eq_false_of_ne_true hup)
  rename_i hchanged
  have hchanged := eq_false_of_ne_true hchanged
  split
  case isTrue hcopy => exact .copyProtection hchanged hcopy.1 hcopy.2
  rename_i hcopy
  split
  case isTrue hkey => exact .refused hchanged hkey hcopy
  split
  case isTrue hrisky => exact .unsafeToRetry hchanged (by simpa using hrisky.1) hrisky.2
  rename_i hrisky
  have hsafe : idempotent = true ∨ o = .notSent := by
    cases idempotent
    · exact .inr (Decidable.byContradiction fun hsent => hrisky ⟨rfl, hsent⟩)
    · exact .inl rfl
  split
  case isTrue hready => exact .becomingReady hready hsafe
  rename_i hready
  have hready := eq_false_of_ne_true hready
  split
  case isTrue hkey => exact .unitAttention hkey hchanged hready hsafe
  exact .delayed hchanged hready hsafe

/-- A sense that says the medium may have changed is in none of the other classes. -/
theorem Sense.not_becomingReady_of_changed (hchanged : sense.isMediumMayHaveChanged = true) :
    sense.isBecomingReady = false := by
  simp only [isMediumMayHaveChanged, Bool.and_eq_true, beq_iff_eq] at hchanged
  simp [isBecomingReady, hchanged.1]

theorem Sense.not_absent_of_changed (hchanged : sense.isMediumMayHaveChanged = true) :
    sense.isMediumNotPresent = false := by
  simp only [isMediumMayHaveChanged, Bool.and_eq_true, beq_iff_eq] at hchanged
  simp [isMediumNotPresent, hchanged.1]

theorem Sense.not_changed_of_becomingReady (hready : sense.isBecomingReady = true) :
    sense.isMediumMayHaveChanged = false := by
  refine eq_false_of_ne_true fun hchanged => ?_
  rw [not_becomingReady_of_changed hchanged] at hready
  cases hready

/-! ## The sense of a failed attempt -/

/-- What `senseOf` can do: nothing, or one REQUEST SENSE after a CSW FAIL. -/
inductive SenseSpec (o : BotOutcome) (s : Sys W) : Sense → Sys W → Prop where
  | notAsked (ho : o ≠ .failed usbBotStatusFail) : SenseSpec o s .unread s
  | unanswered {w : W} {bot : BotState} {o' : BotOutcome} (ho : o = .failed usbBotStatusFail) :
      SenseSpec o s .unread ⟨{ s.entry with bot := bot }, w,
        .sent .requestSense requestSenseRequest o' :: s.trace⟩
  | answered {w : W} {bot : BotState} {o' : BotOutcome} {sense : Sense}
      (ho : o = .failed usbBotStatusFail) (hkey : sense.key ≤ 0x0f) :
      SenseSpec o s sense ⟨{ s.entry with bot := bot }, w,
        .sense sense :: .sent .requestSense requestSenseRequest o' :: s.trace⟩

theorem senseOf_spec (h : Host W) (o : BotOutcome) (s : Sys W) :
    SenseSpec o s (senseOf h o s).1 (senseOf h o s).2 := by
  unfold senseOf
  split
  · next status =>
      split
      · next hfail =>
          subst hfail
          have hspec := requestSenseLocked_spec h s
          generalize requestSenseLocked h s = res at hspec
          obtain ⟨sense, s'⟩ := res
          cases hspec with
          | unanswered => exact .unanswered rfl
          | answered hkey => exact .answered rfl hkey
      · next hfail => exact .notAsked fun heq => hfail (by injection heq)
  · next hne => exact .notAsked (hne _)

theorem senseOf_now {now : W → Int} (hclock : h.Clock now) (o : BotOutcome) (s : Sys W) :
    now s.world ≤ now (senseOf h o s).2.world := by
  unfold senseOf
  split
  · split
    · exact requestSenseLocked_now hclock s
    · exact Int.le_refl _
  · exact Int.le_refl _

/-! ## One turn -/

/-- What the drive answers to the attempt of a turn begun in `s`, when the token is not cancelled. -/
def attemptOf (h : Host W) (call : CdbCall) (s : Sys W) : BotReply × Sys W :=
  ((s.isCancelled h).2.clockGettime h).2.send h .scsiCdb call.request

/-- The first half of a turn: the token is not cancelled, and the transaction has ended in `o`. -/
structure Asked (h : Host W) (call : CdbCall) (v : CdbVars) (s : Sys W) (o : BotOutcome)
    (v' : CdbVars) (t : Sys W) : Prop where
  attempt_le : v.attempt ≤ laserMaxRetries
  uncancelled : (s.isCancelled h).1 = false
  outcome : (attemptOf h call s).1.outcome = o
  state : (attemptOf h call s).2 = t
  attempt : v'.attempt = v.attempt
  made : v'.attemptsMade = v.attempt
  neverSent : v'.cbwNeverSent = v.cbwNeverSent
  becomingReady : v'.becomingReady = v.becomingReady
  notReady : t.entry.notReady = s.entry.notReady
  trace : t.trace = .sent .scsiCdb call.request o :: .polled false :: s.trace
  now : ∀ now : W → Int, h.Clock now → now s.world ≤ now t.world
  stored : v' = CdbVars.store { v with attemptsMade := v.attempt } (attemptOf h call s).1

/-- A turn up to the verdict: the transaction failed in `o`, and `sense` is what is known of why. -/
structure Failed (h : Host W) (call : CdbCall) (v : CdbVars) (s : Sys W) (o : BotOutcome)
    (sense : Sense) (v' : CdbVars) (t : Sys W) : Prop where
  asked : ∃ v₁ s₁, Asked h call v s o v₁ s₁ ∧ v' = v₁.note o ∧ SenseSpec o s₁ sense t
    ∧ senseOf h o s₁ = (sense, t)
  not_pass : o ≠ .pass
  not_gone : o ≠ .noDevice
  now : ∀ now : W → Int, h.Clock now → now s.world ≤ now t.world

/-- The becoming-ready wait is running since `since`: started here, or before. -/
inductive WaitSpec (h : Host W) (v : CdbVars) (s : Sys W) : Timespec → Sys W → Prop where
  | started {since : Timespec} {w : W} (hnone : v.becomingReady = none)
      (hread : h.clockGettime s.world = (since, w)) :
      WaitSpec h v s since ⟨s.entry, w, .retried .waitStarted :: s.trace⟩
  | running {since : Timespec} (hsome : v.becomingReady = some since) : WaitSpec h v s since s

/-- An attempt is spent on a retry, at once or after the delay. -/
def Spent (h : Host W) (t u : Sys W) : Prop :=
  u = t.record (.retried .counted)
    ∨ u = (t.record (.retried .counted)).usleep h (laserRetryDelayMs * 1000)

/-- How a turn goes round again. -/
inductive AgainSpec (h : Host W) (call : CdbCall) (v : CdbVars) (s : Sys W) :
    CdbVars → Sys W → Prop where
  /-- 28h/00h at the end of a spin-up. -/
  | mediumReady {o : BotOutcome} {sense : Sense} {v' : CdbVars} {t : Sys W}
      (hfailed : Failed h call v s o sense v' t) (hchanged : sense.isMediumMayHaveChanged = true)
      (hup : v.becomingReady.isSome = true ∨ s.entry.notReady = true) :
      AgainSpec h call v s { v' with becomingReady := none }
        ((t.setNotReady false).record (.retried .mediumReady))
  /-- A free round of the becoming-ready wait. -/
  | free {o : BotOutcome} {sense : Sense} {v' : CdbVars} {t t₁ : Sys W} {since now : Timespec} {w : W}
      (hfailed : Failed h call v s o sense v' t) (hready : sense.isBecomingReady = true)
      (hsafe : call.idempotent = true ∨ o = .notSent)
      (hwait : WaitSpec h v' t since t₁) (hread : h.clockGettime t₁.world = (now, w))
      (hin : now.msSince since < laserBecomingReadyMaxWallMs) :
      AgainSpec h call v s { v' with becomingReady := some since }
        (({ t₁ with world := w }.record (.retried (.becomingReady (now.msSince since)))).usleep h
          (laserRetryDelayMs * 1000))
  /-- A round past the end of the becoming-ready wait. -/
  | late {o : BotOutcome} {sense : Sense} {v' : CdbVars} {t t₁ u : Sys W} {since now : Timespec} {w : W}
      (hfailed : Failed h call v s o sense v' t) (hready : sense.isBecomingReady = true)
      (hsafe : call.idempotent = true ∨ o = .notSent)
      (hwait : WaitSpec h v' t since t₁) (hread : h.clockGettime t₁.world = (now, w))
      (hout : laserBecomingReadyMaxWallMs ≤ now.msSince since)
      (hspent : Spent h { t₁ with world := w } u) :
      AgainSpec h call v s ({ v' with becomingReady := some since } : CdbVars).spend u
  /-- Any other answer that is worth a retry. -/
  | retried {o : BotOutcome} {sense : Sense} {v' : CdbVars} {t u : Sys W}
      (hfailed : Failed h call v s o sense v' t) (hchanged : sense.isMediumMayHaveChanged = false)
      (hready : sense.isBecomingReady = false) (hsafe : call.idempotent = true ∨ o = .notSent)
      (hspent : Spent h t u) : AgainSpec h call v s v'.spend u

/-- How a turn leaves the loop. -/
inductive DoneSpec (h : Host W) (call : CdbCall) (v : CdbVars) (s : Sys W) :
    CdbVars → Sys W → Prop where
  | exhausted (hmax : laserMaxRetries < v.attempt) : DoneSpec h call v s v s
  | cancelled {w : W} (hle : v.attempt ≤ laserMaxRetries)
      (hcancel : h.isCancelled s.world = (true, w)) :
      DoneSpec h call v s { v with attemptsMade := v.attempt, result := .errCancelled }
        ⟨s.entry, w, .polled true :: s.trace⟩
  | passed {v' : CdbVars} {t : Sys W} {started : Timespec} (hasked : Asked h call v s .pass v' t) :
      DoneSpec h call v s { v' with result := .ok }
        (sampleThroughputLocked h call.request.dataLen started t)
  | gone {v' : CdbVars} {t : Sys W} (hasked : Asked h call v s .noDevice v' t) :
      DoneSpec h call v s { v' with result := .errNoDevice } t.markGone
  | final {o : BotOutcome} {sense : Sense} {v' : CdbVars} {t : Sys W} {st : LaserStatus}
      (hfailed : Failed h call v s o sense v' t)
      (hclass : ClassifySpec call.idempotent (v.becomingReady.isSome || s.entry.notReady) o sense
        (.final st)) :
      DoneSpec h call v s { v' with result := st } t

/-- Everything a turn can do. -/
def TurnSpec (h : Host W) (call : CdbCall) (v : CdbVars) (s : Sys W) :
    Turn (CdbVars × Sys W) (CdbVars × Sys W) → Prop
  | .again (v', u) => AgainSpec h call v s v' u
  | .done (v', u) => DoneSpec h call v s v' u

theorem delayedRetry_spec (h : Host W) (v : CdbVars) (t : Sys W) :
    ∃ u, delayedRetry h v t = .again (v.spend, u) ∧ Spent h t u := by
  unfold delayedRetry
  dsimp only
  split
  · exact ⟨_, rfl, .inr rfl⟩
  · exact ⟨_, rfl, .inl rfl⟩

theorem waitSince_spec (h : Host W) (v : CdbVars) (t : Sys W) :
    WaitSpec h v t (waitSince h v t).1 (waitSince h v t).2 := by
  unfold waitSince
  split
  · next hsome => exact .running hsome
  · next hnone => exact .started hnone rfl

theorem becomingReadyRound_spec (hfailed : Failed h call v s o sense v' t)
    (hready : sense.isBecomingReady = true) (hsafe : call.idempotent = true ∨ o = .notSent) :
    TurnSpec h call v s (becomingReadyRound h v' t) := by
  have hwait := waitSince_spec h v' t
  unfold becomingReadyRound
  generalize waitSince h v' t = res at hwait
  obtain ⟨since, t₁⟩ := res
  obtain ⟨now, w, hread, hclock⟩ := t₁.clockGettime_eq h
  dsimp only at hwait ⊢
  rw [hclock]
  dsimp only
  split
  · next hin => exact .free hfailed hready hsafe hwait hread hin
  · next hout =>
      obtain ⟨u, hu, hspent⟩ := delayedRetry_spec h { v' with becomingReady := some since }
        { t₁ with world := w }
      rw [hu]
      exact .late hfailed hready hsafe hwait hread (Int.not_lt.mp hout) hspent

theorem CdbVars.note_becomingReady (v : CdbVars) (o : BotOutcome) :
    (v.note o).becomingReady = v.becomingReady := by
  unfold note
  split <;> rfl

theorem CdbVars.note_attempt (v : CdbVars) (o : BotOutcome) : (v.note o).attempt = v.attempt := by
  unfold note
  split <;> rfl

theorem SenseSpec.notReady (hspec : SenseSpec o s sense t) :
    t.entry.notReady = s.entry.notReady := by
  cases hspec <;> rfl

theorem failedTurn_spec {v₁ : CdbVars} {s₁ : Sys W} (hasked : Asked h call v s o v₁ s₁)
    (hpass : o ≠ .pass) (hgone : o ≠ .noDevice) :
    TurnSpec h call v s (failedTurn h call v₁ o s₁) := by
  have hsense := senseOf_spec h o s₁
  have hnow : ∀ now : W → Int, h.Clock now → now s₁.world ≤ now (senseOf h o s₁).2.world :=
    fun now hclock => senseOf_now hclock o s₁
  unfold failedTurn
  generalize heq : senseOf h o s₁ = res at hsense hnow
  obtain ⟨sense, t⟩ := res
  dsimp only at hsense hnow ⊢
  have hfailed : Failed h call v s o sense (v₁.note o) t :=
    ⟨⟨v₁, s₁, hasked, rfl, hsense, heq⟩, hpass, hgone,
      fun now hclock => Int.le_trans (hasked.now now hclock) (hnow now hclock)⟩
  have hup : ((v₁.note o).becomingReady.isSome || t.entry.notReady)
      = (v.becomingReady.isSome || s.entry.notReady) := by
    rw [CdbVars.note_becomingReady, hasked.becomingReady, hsense.notReady, hasked.notReady]
  rw [hup]
  have hclass := classify_spec call.idempotent (v.becomingReady.isSome || s.entry.notReady) o sense
  generalize classify _ _ _ _ = verdict at hclass ⊢
  cases verdict with
  | final st => exact .final hfailed hclass
  | mediumReady =>
      cases hclass with
      | mediumReady hchanged hup => exact .mediumReady hfailed hchanged (by simpa using hup)
  | becomingReady =>
      cases hclass with
      | becomingReady hready hsafe => exact becomingReadyRound_spec hfailed hready hsafe
  | unitAttention =>
      cases hclass with
      | unitAttention _ hchanged hready hsafe =>
          exact .retried hfailed hchanged hready hsafe (.inl rfl)
  | delayed =>
      cases hclass with
      | delayed hchanged hready hsafe =>
          obtain ⟨u, hu, hspent⟩ := delayedRetry_spec h (v₁.note o) t
          rw [followVerdict, hu]
          exact .retried hfailed hchanged hready hsafe hspent

/-- **One turn of the retry loop.** -/
theorem cdbTurn_spec (h : Host W) (call : CdbCall) (v : CdbVars) (s : Sys W) :
    TurnSpec h call v s (cdbTurn h call (v, s)) := by
  unfold cdbTurn
  dsimp only
  split
  case isTrue hmax => exact .exhausted hmax
  case isFalse hle =>
    have hle := Nat.le_of_not_lt hle
    obtain ⟨cancelled, w, hpoll, hcancel⟩ := s.isCancelled_eq h
    rw [hcancel]
    dsimp only
    split
    case isTrue hc => 
      subst hc
      exact .cancelled hle hpoll
    case isFalse hc =>
      have hc : cancelled = false := eq_false_of_ne_true hc
      subst hc
      obtain ⟨started, w₁, hread, hclock⟩ :=
        Sys.clockGettime_eq h { s with world := w, trace := .polled false :: s.trace }
      rw [hclock]
      dsimp only
      obtain ⟨reply, w₂, hreply, hsend⟩ :=
        Sys.send_eq h .scsiCdb call.request ⟨s.entry, w₁, .polled false :: s.trace⟩
      rw [hsend]
      -- the poll, the clock reading and the transaction take their time in turn
      have hnow : ∀ now : W → Int, h.Clock now → now s.world ≤ now w₂ := by
        intro now hlaw
        have h₀ := hlaw.isCancelled s.world
        have h₁ := hlaw.read_ge w
        have h₂ := hlaw.read_le w
        have h₃ := hlaw.send s.entry call.request w₁
        rw [show h.isCancelled s.world = _ from hpoll] at h₀
        rw [show h.clockGettime w = _ from hread] at h₁ h₂
        rw [show h.send s.entry call.request w₁ = _ from hreply] at h₃
        dsimp only at h₀ h₁ h₂ h₃
        omega
      have hattempt : attemptOf h call s = (reply, ⟨{ s.entry with bot := reply.bot }, w₂,
          .sent .scsiCdb call.request reply.outcome :: .polled false :: s.trace⟩) := by
        rw [attemptOf, hcancel]
        dsimp only
        rw [hclock, hsend]
      have hasked : Asked h call v s reply.outcome
          (CdbVars.store { v with attemptsMade := v.attempt } reply)
          ⟨{ s.entry with bot := reply.bot }, w₂,
            .sent .scsiCdb call.request reply.outcome :: .polled false :: s.trace⟩ :=
        ⟨hle, by rw [hcancel], by rw [hattempt], by rw [hattempt], rfl, rfl, rfl, rfl, rfl, rfl, hnow,
          by rw [hattempt]⟩
      dsimp only
      split
      · next ho =>
          rw [ho] at hasked ⊢
          exact .passed hasked
      · next ho =>
          rw [ho] at hasked ⊢
          exact .gone hasked
      · next hpass hgone => exact failedTurn_spec hasked hpass hgone

/-- A turn whose transaction neither passes nor finds the device gone. -/
theorem cdbTurn_of_lost (hle : v.attempt ≤ laserMaxRetries) (hpoll : (s.isCancelled h).1 = false)
    (ho : (attemptOf h call s).1.outcome = o) (hpass : o ≠ .pass) (hgone : o ≠ .noDevice) :
    cdbTurn h call (v, s) = failedTurn h call
      (CdbVars.store { v with attemptsMade := v.attempt } (attemptOf h call s).1) o
      (attemptOf h call s).2 := by
  unfold cdbTurn
  unfold attemptOf at ho ⊢
  dsimp only
  rw [if_neg (Nat.not_lt_of_le hle)]
  generalize s.isCancelled h = p at hpoll ho
  obtain ⟨c, s₁⟩ := p
  dsimp only at hpoll ho ⊢
  subst hpoll
  generalize s₁.clockGettime h = p at ho
  obtain ⟨_, s₂⟩ := p
  dsimp only at ho ⊢
  generalize s₂.send h .scsiCdb call.request = p at ho
  obtain ⟨reply, s₃⟩ := p
  dsimp only at ho ⊢
  rw [ho]
  cases o with
  | pass => exact absurd rfl hpass
  | noDevice => exact absurd rfl hgone
  | notSent | phaseError _ | failed _ => rfl

/-- A turn whose transaction ends in a CSW that is not PASS. -/
theorem cdbTurn_of_failed {status : UInt8} (hle : v.attempt ≤ laserMaxRetries)
    (hpoll : (s.isCancelled h).1 = false)
    (ho : (attemptOf h call s).1.outcome = .failed status) :
    cdbTurn h call (v, s) = failedTurn h call
      (CdbVars.store { v with attemptsMade := v.attempt } (attemptOf h call s).1) (.failed status)
      (attemptOf h call s).2 :=
  cdbTurn_of_lost hle hpoll ho (by simp) (by simp)

/-- A turn on a token that is not cancelled is its transaction and what follows from the outcome. -/
theorem cdbTurn_of_asked (call : CdbCall) (hle : v.attempt ≤ laserMaxRetries)
    (hpoll : (s.isCancelled h).1 = false) :
    ∃ started, cdbTurn h call (v, s) =
      match (attemptOf h call s).1.outcome with
      | .pass => .done ({ CdbVars.store { v with attemptsMade := v.attempt } (attemptOf h call s).1 with
            result := .ok }, sampleThroughputLocked h call.request.dataLen started (attemptOf h call s).2)
      | .noDevice => .done ({ CdbVars.store { v with attemptsMade := v.attempt }
            (attemptOf h call s).1 with result := .errNoDevice }, (attemptOf h call s).2.markGone)
      | outcome => failedTurn h call
          (CdbVars.store { v with attemptsMade := v.attempt } (attemptOf h call s).1) outcome
          (attemptOf h call s).2 := by
  unfold cdbTurn attemptOf
  dsimp only
  rw [if_neg (Nat.not_lt_of_le hle)]
  generalize s.isCancelled h = p at hpoll
  obtain ⟨c, s₁⟩ := p
  dsimp only at hpoll ⊢
  subst hpoll
  exact ⟨_, rfl⟩

/-- A turn whose transaction passes leaves the loop with `LASER_OK`. -/
theorem cdbTurn_of_passed (hle : v.attempt ≤ laserMaxRetries) (hpoll : (s.isCancelled h).1 = false)
    (hpass : (attemptOf h call s).1.outcome = .pass) :
    ∃ started, cdbTurn h call (v, s) = .done
      ({ CdbVars.store { v with attemptsMade := v.attempt } (attemptOf h call s).1 with result := .ok },
        sampleThroughputLocked h call.request.dataLen started (attemptOf h call s).2) := by
  obtain ⟨started, hturn⟩ := cdbTurn_of_asked call hle hpoll
  rw [hpass] at hturn
  exact ⟨started, hturn⟩

theorem cdbTurn_again {u : Sys W} (hb : cdbTurn h call (v, s) = .again (v', u)) :
    AgainSpec h call v s v' u := by
  have hspec := cdbTurn_spec h call v s
  rwa [hb] at hspec

theorem cdbTurn_done {u : Sys W} (hb : cdbTurn h call (v, s) = .done (v', u)) :
    DoneSpec h call v s v' u := by
  have hspec := cdbTurn_spec h call v s
  rwa [hb] at hspec

/-- What a failed transaction leaves as it was. -/
theorem Failed.vars (hfailed : Failed h call v s o sense v' t) :
    v'.attempt = v.attempt ∧ v'.becomingReady = v.becomingReady
      ∧ t.entry.notReady = s.entry.notReady ∧ v.attempt ≤ laserMaxRetries
      ∧ (s.isCancelled h).1 = false := by
  obtain ⟨v₁, s₁, hasked, rfl, hsense, -⟩ := hfailed.asked
  exact ⟨(CdbVars.note_attempt ..).trans hasked.attempt,
    (CdbVars.note_becomingReady ..).trans hasked.becomingReady,
    hsense.notReady.trans hasked.notReady, hasked.attempt_le, hasked.uncancelled⟩

/-- The answers a failed transaction ended on are those of the attempt made in that state. -/
theorem Failed.answer (hfailed : Failed h call v s o sense v' t) :
    (attemptOf h call s).1.outcome = o ∧ senseOf h o (attemptOf h call s).2 = (sense, t) := by
  obtain ⟨v₁, s₁, hasked, -, -, heq⟩ := hfailed.asked
  exact ⟨hasked.outcome, hasked.state ▸ heq⟩

/-- Which attempts it has counted. -/
theorem Failed.counts (hfailed : Failed h call v s o sense v' t) :
    v'.attemptsMade = v.attempt
      ∧ v'.cbwNeverSent = v.cbwNeverSent + (if o = .notSent then 1 else 0) := by
  obtain ⟨v₁, s₁, hasked, rfl, -, -⟩ := hfailed.asked
  unfold CdbVars.note
  split
  · exact ⟨hasked.made, congrArg (· + 1) hasked.neverSent⟩
  · exact ⟨hasked.made, hasked.neverSent⟩

/-- The result is set where the loop is left, and only there. -/
theorem Failed.result (hfailed : Failed h call v s o sense v' t) : v'.result = v.result := by
  obtain ⟨v₁, s₁, hasked, rfl, -, -⟩ := hfailed.asked
  have hresult : v₁.result = v.result := by
    rw [hasked.stored]
    rfl
  unfold CdbVars.note
  split <;> exact hresult

/-- Only a CSW FAIL is asked about, so a sense that says something comes of one. -/
theorem Failed.outcome_of_read (hfailed : Failed h call v s o sense v' t) (hread : sense ≠ .unread) :
    o = .failed usbBotStatusFail := by
  obtain ⟨_, _, -, -, hsense, -⟩ := hfailed.asked
  cases hsense with
  | notAsked _ => exact absurd rfl hread
  | unanswered ho | answered ho _ => exact ho

/-- Nothing is known of why a CBW did not leave. -/
theorem Failed.sense_of_notSent (hfailed : Failed h call v s .notSent sense v' t) :
    sense = .unread := by
  obtain ⟨_, _, -, -, hsense, -⟩ := hfailed.asked
  cases hsense with
  | notAsked _ => rfl
  | unanswered ho => cases ho
  | answered ho _ => cases ho

theorem Sense.read_of_changed (hchanged : sense.isMediumMayHaveChanged = true) :
    sense ≠ .unread := by
  rintro rfl
  cases hchanged

theorem Sense.read_of_becomingReady (hready : sense.isBecomingReady = true) : sense ≠ .unread := by
  rintro rfl
  cases hready

theorem WaitSpec.notReady {since : Timespec} (hspec : WaitSpec h v s since t) :
    t.entry.notReady = s.entry.notReady := by
  cases hspec <;> rfl

theorem Spent.notReady (hspent : Spent h t u) : u.entry.notReady = t.entry.notReady := by
  rcases hspent with rfl | rfl <;> rfl

/-! ## The spin-up answers of a trace -/

/-- Which of the two answers the loop gives attempts back for this sense is, if any. -/
def Sense.spinUp (sense : Sense) : Option SpinUpAnswer :=
  if sense.isMediumMayHaveChanged then some .changed
  else if sense.isBecomingReady then some .becomingReady
  else none

def ScsiEvent.spinUp : ScsiEvent → Option SpinUpAnswer
  | .sense sense => sense.spinUp
  | _ => none

/-- Those answers in a trace, newest first. -/
def spinUpAnswers (trace : List ScsiEvent) : List SpinUpAnswer := trace.filterMap ScsiEvent.spinUp

theorem spinUp_of_changed (hchanged : sense.isMediumMayHaveChanged = true) :
    sense.spinUp = some .changed := if_pos hchanged

theorem spinUp_of_becomingReady (hready : sense.isBecomingReady = true) :
    sense.spinUp = some .becomingReady := by
  rw [Sense.spinUp, Sense.not_changed_of_becomingReady hready, hready]
  rfl

theorem spinUp_of_neither (hchanged : sense.isMediumMayHaveChanged = false)
    (hready : sense.isBecomingReady = false) : sense.spinUp = none := by
  rw [Sense.spinUp, hchanged, hready]
  rfl

theorem filterMap_cons_eq {α β : Type} (f : α → Option β) (a : α) (l : List α) :
    (a :: l).filterMap f = (f a).toList ++ l.filterMap f := by
  rw [List.filterMap_cons]
  cases f a <;> rfl

theorem Failed.spinUpAnswers (hfailed : Failed h call v s o sense v' t) :
    spinUpAnswers t.trace = sense.spinUp.toList ++ spinUpAnswers s.trace := by
  obtain ⟨_, _, hasked, -, hsense, -⟩ := hfailed.asked
  have hfirst := congrArg Liblaser.spinUpAnswers hasked.trace
  cases hsense with
  | notAsked _ => exact hfirst
  | unanswered _ => exact hfirst
  | answered _ _ =>
      rw [Liblaser.spinUpAnswers, filterMap_cons_eq]
      exact congrArg (sense.spinUp.toList ++ ·) hfirst

theorem WaitSpec.answers {since : Timespec} (hspec : WaitSpec h v s since t) :
    spinUpAnswers t.trace = spinUpAnswers s.trace := by
  cases hspec <;> rfl

theorem Spent.answers (hspent : Spent h t u) :
    spinUpAnswers u.trace = spinUpAnswers t.trace := by
  rcases hspent with rfl | rfl <;> rfl

/-! ## The transactions of a trace -/

/-- The outcome of a transaction of the caller's CDB. -/
def ScsiEvent.cdbOutcome : ScsiEvent → Option BotOutcome
  | .sent .scsiCdb _ o => some o
  | _ => none

/-- The outcomes of the transactions of the caller's CDB, newest first. -/
def cdbOutcomes (trace : List ScsiEvent) : List BotOutcome := trace.filterMap ScsiEvent.cdbOutcome

theorem SenseSpec.cdbOutcomes (hspec : SenseSpec o s sense t) :
    cdbOutcomes t.trace = cdbOutcomes s.trace := by
  cases hspec <;> rfl

theorem Asked.cdbOutcomes (hasked : Asked h call v s o v' t) :
    cdbOutcomes t.trace = o :: cdbOutcomes s.trace := by
  rw [hasked.trace]
  rfl

theorem Failed.cdbOutcomes (hfailed : Failed h call v s o sense v' t) :
    cdbOutcomes t.trace = o :: cdbOutcomes s.trace := by
  obtain ⟨v₁, s₁, hasked, -, hsense, -⟩ := hfailed.asked
  rw [hsense.cdbOutcomes, hasked.cdbOutcomes]

theorem WaitSpec.cdbOutcomes {since : Timespec} (hspec : WaitSpec h v s since t) :
    cdbOutcomes t.trace = cdbOutcomes s.trace := by
  cases hspec <;> rfl

theorem Spent.cdbOutcomes (hspent : Spent h t u) : cdbOutcomes u.trace = cdbOutcomes t.trace := by
  rcases hspent with rfl | rfl <;> rfl

/-- A turn that goes round again has sent the CDB once, and this is how it ended. -/
theorem AgainSpec.sends (hspec : AgainSpec h call v s v' u) :
    Liblaser.cdbOutcomes u.trace
      = (attemptOf h call s).1.outcome :: Liblaser.cdbOutcomes s.trace := by
  cases hspec with
  | mediumReady hfailed _ _ =>
      rw [hfailed.answer.1]
      exact hfailed.cdbOutcomes
  | free hfailed _ _ hwait _ _ =>
      rw [hfailed.answer.1]
      exact hwait.cdbOutcomes.trans hfailed.cdbOutcomes
  | late hfailed _ _ hwait _ _ hspent =>
      rw [hfailed.answer.1]
      exact hspent.cdbOutcomes.trans (hwait.cdbOutcomes.trans hfailed.cdbOutcomes)
  | retried hfailed _ _ _ hspent =>
      rw [hfailed.answer.1]
      exact hspent.cdbOutcomes.trans hfailed.cdbOutcomes

theorem AgainSpec.cdbOutcomes (hspec : AgainSpec h call v s v' u) :
    ∃ o, cdbOutcomes u.trace = o :: cdbOutcomes s.trace := ⟨_, hspec.sends⟩

/-- It had an attempt to make. -/
theorem AgainSpec.attempt_le (hspec : AgainSpec h call v s v' u) : v.attempt ≤ laserMaxRetries := by
  cases hspec with
  | mediumReady hfailed _ _ | free hfailed _ _ _ _ _ | late hfailed _ _ _ _ _ _
  | retried hfailed _ _ _ _ => exact hfailed.vars.2.2.2.1

/-! ## A turn answered 28h/00h -/

/-- A turn begun in `s` sends the CDB and is answered 28h/00h by a CSW FAIL. -/
structure SwapAt (h : Host W) (call : CdbCall) (s : Sys W) : Prop where
  uncancelled : (s.isCancelled h).1 = false
  failed : (attemptOf h call s).1.outcome = .failed usbBotStatusFail
  changed : (senseOf h (.failed usbBotStatusFail) (attemptOf h call s).2).1.isMediumMayHaveChanged
    = true

/-- What such a turn does: the answer is the end of a spin-up, or it ends the call. -/
inductive SwapTurn (h : Host W) (call : CdbCall) (v : CdbVars) (s : Sys W) :
    Turn (CdbVars × Sys W) (CdbVars × Sys W) → Prop where
  | absorbed {sense : Sense} {v' : CdbVars} {t : Sys W}
      (hfailed : Failed h call v s (.failed usbBotStatusFail) sense v' t)
      (hup : v.becomingReady.isSome = true ∨ s.entry.notReady = true) :
      SwapTurn h call v s (.again ({ v' with becomingReady := none },
        (t.setNotReady false).record (.retried .mediumReady)))
  | reported {sense : Sense} {v' : CdbVars} {t : Sys W}
      (hfailed : Failed h call v s (.failed usbBotStatusFail) sense v' t)
      (hwait : v.becomingReady = none) (hready : s.entry.notReady = false) :
      SwapTurn h call v s (.done ({ v' with result := .errMediaGone }, t))

/-- The answers `SwapAt` speaks of are those the turn gets. -/
theorem SwapAt.of_failed (hswap : SwapAt h call s) (hfailed : Failed h call v s o sense v' t) :
    o = .failed usbBotStatusFail ∧ sense.isMediumMayHaveChanged = true := by
  obtain ⟨ho, hsense⟩ := hfailed.answer
  have hfail := hswap.failed.symm.trans ho
  have hchanged := hswap.changed
  rw [hfail, hsense] at hchanged
  exact ⟨hfail.symm, hchanged⟩

theorem SwapAt.turn (hswap : SwapAt h call s) (hle : v.attempt ≤ laserMaxRetries) :
    SwapTurn h call v s (cdbTurn h call (v, s)) := by
  have hspec := cdbTurn_spec h call v s
  have hasked : ∀ {o : BotOutcome} {v' : CdbVars} {t : Sys W}, Asked h call v s o v' t →
      o = .failed usbBotStatusFail := fun ha => ha.outcome.symm.trans hswap.failed
  generalize cdbTurn h call (v, s) = turn at hspec
  rcases turn with ⟨v', u⟩ | ⟨v', u⟩
  -- the sense is 28h/00h, so of the rounds only the absorbing one is possible
  · cases (show AgainSpec h call v s v' u from hspec) with
    | mediumReady hfailed _ hup =>
        obtain ⟨rfl, -⟩ := hswap.of_failed hfailed
        exact .absorbed hfailed hup
    | free hfailed hready _ _ _ _ | late hfailed hready _ _ _ _ _ =>
        rw [Sense.not_becomingReady_of_changed (hswap.of_failed hfailed).2] at hready
        cases hready
    | retried hfailed hchanged _ _ _ =>
        rw [(hswap.of_failed hfailed).2] at hchanged
        cases hchanged
  · cases (show DoneSpec h call v s v' u from hspec) with
    | exhausted hmax => exact absurd hle (Nat.not_le_of_lt hmax)
    | cancelled _ hcancel =>
        have hpoll : (h.isCancelled s.world).1 = false := hswap.uncancelled
        rw [hcancel] at hpoll
        cases hpoll
    | passed ha => cases hasked ha
    | gone ha => cases hasked ha
    | final hfailed hclass =>
        obtain ⟨rfl, hchanged⟩ := hswap.of_failed hfailed
        generalize hst : Verdict.final _ = verdict at hclass
        cases hclass with
        | mediumAbsent habsent =>
            rw [Sense.not_absent_of_changed hchanged] at habsent
            cases habsent
        | mediumChanged _ hdown =>
            injection hst with hst
            subst hst
            have hboth : v.becomingReady = none ∧ s.entry.notReady = false := by simpa using hdown
            exact .reported hfailed hboth.1 hboth.2
        | copyProtection hnot _ _ | refused hnot _ _ | unsafeToRetry hnot _ _ =>
            rw [hchanged] at hnot
            cases hnot
        | mediumReady _ _ | becomingReady _ _ | unitAttention _ _ _ _ | delayed _ _ _ => cases hst

/-- A turn that finds the token cancelled leaves at once. -/
theorem cdbTurn_of_cancelled (hle : v.attempt ≤ laserMaxRetries)
    (hcancel : (s.isCancelled h).1 = true) :
    cdbTurn h call (v, s) = .done ({ v with attemptsMade := v.attempt, result := .errCancelled },
      (s.isCancelled h).2) := by
  unfold cdbTurn
  dsimp only
  rw [if_neg (Nat.not_lt_of_le hle), if_pos hcancel]

/-! ## The trace only grows -/

theorem SenseSpec.suffix (hspec : SenseSpec o s sense t) : s.trace <:+ t.trace := by
  cases hspec with
  | notAsked _ => exact List.suffix_refl _
  | unanswered _ => exact List.suffix_cons _ _
  | answered _ _ => exact (List.suffix_cons _ _).trans (List.suffix_cons _ _)

theorem Asked.suffix (hasked : Asked h call v s o v' t) : s.trace <:+ t.trace := by
  rw [hasked.trace]
  exact (List.suffix_cons _ _).trans (List.suffix_cons _ _)

theorem Failed.suffix (hfailed : Failed h call v s o sense v' t) : s.trace <:+ t.trace := by
  obtain ⟨v₁, s₁, hasked, -, hsense, -⟩ := hfailed.asked
  exact hasked.suffix.trans hsense.suffix

theorem WaitSpec.suffix {since : Timespec} (hspec : WaitSpec h v s since t) :
    s.trace <:+ t.trace := by
  cases hspec with
  | started _ _ => exact List.suffix_cons _ _
  | running _ => exact List.suffix_refl _

theorem Spent.suffix (hspent : Spent h t u) : t.trace <:+ u.trace := by
  rcases hspent with rfl | rfl
  · exact List.suffix_cons _ _
  · exact (List.suffix_cons _ _).trans (List.suffix_cons _ _)

theorem AgainSpec.suffix (hspec : AgainSpec h call v s v' u) : s.trace <:+ u.trace := by
  cases hspec with
  | mediumReady hfailed _ _ => exact hfailed.suffix.trans (List.suffix_cons _ _)
  | free hfailed _ _ hwait _ _ =>
      exact hfailed.suffix.trans (hwait.suffix.trans
        ((List.suffix_cons _ _).trans (List.suffix_cons _ _)))
  | late hfailed _ _ hwait _ _ hspent =>
      exact hfailed.suffix.trans (hwait.suffix.trans hspent.suffix)
  | retried hfailed _ _ _ hspent => exact hfailed.suffix.trans hspent.suffix

/-- A sample is of the counters and the clock. -/
theorem sampleThroughputLocked_eq (h : Host W) (n : Nat) (started : Timespec) (s : Sys W) :
    ∃ xfer w, sampleThroughputLocked h n started s
        = { s with entry := { s.entry with xfer := xfer }, world := w }
      ∧ (w = s.world ∨ w = (h.clockGettime s.world).2) := by
  unfold sampleThroughputLocked
  split
  · exact ⟨s.entry.xfer, s.world, rfl, .inl rfl⟩
  · exact ⟨_, _, rfl, .inr rfl⟩

theorem sampleThroughputLocked_trace (h : Host W) (n : Nat) (started : Timespec) (s : Sys W) :
    (sampleThroughputLocked h n started s).trace = s.trace := by
  unfold sampleThroughputLocked
  split <;> rfl

theorem DoneSpec.suffix (hspec : DoneSpec h call v s v' u) : s.trace <:+ u.trace := by
  cases hspec with
  | exhausted _ => exact List.suffix_refl _
  | cancelled _ _ => exact List.suffix_cons _ _
  | passed hasked =>
      rw [sampleThroughputLocked_trace]
      exact hasked.suffix
  | gone hasked => exact hasked.suffix
  | final hfailed _ => exact hfailed.suffix

/-- A turn that leaves the loop sends the CDB when attempts are left and the token is not cancelled,
    and otherwise does not. -/
theorem DoneSpec.sends (hspec : DoneSpec h call v s v' u) :
    (Liblaser.cdbOutcomes u.trace = Liblaser.cdbOutcomes s.trace
      ∧ (laserMaxRetries < v.attempt ∨ (s.isCancelled h).1 = true))
    ∨ (Liblaser.cdbOutcomes u.trace
        = (attemptOf h call s).1.outcome :: Liblaser.cdbOutcomes s.trace
      ∧ v.attempt ≤ laserMaxRetries ∧ (s.isCancelled h).1 = false) := by
  cases hspec with
  | exhausted hmax => exact .inl ⟨rfl, .inl hmax⟩
  | cancelled _ hcancel => exact .inl ⟨rfl, .inr (congrArg Prod.fst hcancel)⟩
  | passed hasked =>
      rw [sampleThroughputLocked_trace, hasked.outcome]
      exact .inr ⟨hasked.cdbOutcomes, hasked.attempt_le, hasked.uncancelled⟩
  | gone hasked =>
      rw [hasked.outcome]
      exact .inr ⟨hasked.cdbOutcomes, hasked.attempt_le, hasked.uncancelled⟩
  | final hfailed _ =>
      rw [hfailed.answer.1]
      obtain ⟨-, -, -, hle, hpoll⟩ := hfailed.vars
      exact .inr ⟨hfailed.cdbOutcomes, hle, hpoll⟩

theorem DoneSpec.cdbOutcomes (hspec : DoneSpec h call v s v' u) :
    (cdbOutcomes u.trace = cdbOutcomes s.trace
      ∧ (laserMaxRetries < v.attempt ∨ (s.isCancelled h).1 = true))
    ∨ ((∃ o, cdbOutcomes u.trace = o :: cdbOutcomes s.trace)
      ∧ v.attempt ≤ laserMaxRetries ∧ (s.isCancelled h).1 = false) :=
  hspec.sends.imp id fun ⟨hsent, hle, hpoll⟩ => ⟨⟨_, hsent⟩, hle, hpoll⟩

/-! ## The frame -/

/-- The entry without the fields a command works on: those of `bot.c`, the readiness flag and the
    throughput sample. -/
def LaserEntry.frame (entry : LaserEntry) : LaserEntry :=
  { entry with bot := {}, notReady := false, xfer := {} }

theorem SenseSpec.frame (hspec : SenseSpec o s sense t) : t.entry.frame = s.entry.frame := by
  cases hspec <;> rfl

theorem Asked.frame (hasked : Asked h call v s o v' t) : t.entry.frame = s.entry.frame := by
  rw [← hasked.state]
  rfl

theorem Failed.frame (hfailed : Failed h call v s o sense v' t) : t.entry.frame = s.entry.frame := by
  obtain ⟨_, _, hasked, -, hsense, -⟩ := hfailed.asked
  exact hsense.frame.trans hasked.frame

theorem WaitSpec.frame {since : Timespec} (hspec : WaitSpec h v s since t) :
    t.entry.frame = s.entry.frame := by
  cases hspec <;> rfl

theorem Spent.frame (hspent : Spent h t u) : u.entry.frame = t.entry.frame := by
  rcases hspent with rfl | rfl <;> rfl

/-- A turn that goes round again leaves everything else in the entry as it was. -/
theorem AgainSpec.frame (hspec : AgainSpec h call v s v' u) : u.entry.frame = s.entry.frame := by
  cases hspec with
  | mediumReady hfailed _ _ => exact hfailed.frame
  | free hfailed _ _ hwait _ _ => exact hwait.frame.trans hfailed.frame
  | late hfailed _ _ hwait _ _ hspent =>
      exact hspent.frame.trans (hwait.frame.trans hfailed.frame)
  | retried hfailed _ _ _ hspent => exact hspent.frame.trans hfailed.frame

theorem sampleThroughputLocked_frame (h : Host W) (n : Nat) (started : Timespec) (s : Sys W) :
    (sampleThroughputLocked h n started s).entry.frame = s.entry.frame := by
  unfold sampleThroughputLocked
  split <;> rfl

/-- A turn that leaves may latch `device_gone`. -/
theorem DoneSpec.frame (hspec : DoneSpec h call v s v' u) :
    ∃ gone, u.entry.frame = { s.entry.frame with deviceGone := gone } := by
  cases hspec with
  | exhausted _ => exact ⟨_, rfl⟩
  | cancelled _ _ => exact ⟨_, rfl⟩
  | passed hasked => exact ⟨_, (sampleThroughputLocked_frame ..).trans hasked.frame⟩
  | @gone v₁ t₁ hasked =>
      refine ⟨true, ?_⟩
      show { t₁.entry.frame with deviceGone := true } = _
      rw [hasked.frame]
  | final hfailed _ => exact ⟨_, hfailed.frame⟩

/-! ## The whole call -/

theorem conclude_trace (v : CdbVars) (s : Sys W) : (conclude v s).2.trace = s.trace := by
  unfold conclude neverSentVerdict
  dsimp only
  split <;> rfl

theorem conclude_world (v : CdbVars) (s : Sys W) : (conclude v s).2.world = s.world := by
  unfold conclude neverSentVerdict
  dsimp only
  split <;> rfl

/-- The verdict may latch `device_gone`, and changes nothing else. -/
theorem conclude_frame (v : CdbVars) (s : Sys W) :
    ∃ gone, (conclude v s).2.entry.frame = { s.entry.frame with deviceGone := gone } := by
  unfold conclude neverSentVerdict
  dsimp only
  split
  · exact ⟨true, rfl⟩
  · exact ⟨s.entry.deviceGone, rfl⟩

/-- After the loop a status is only ever turned into `LASER_ERR_NO_DEVICE` or `LASER_ERR_IO`. -/
theorem result_of_conclude {st : LaserStatus} (hdevice : st ≠ .errNoDevice) (hio : st ≠ .errIo)
    (hst : (conclude v s).1.status = st) : v.result = st := by
  simp only [conclude, neverSentVerdict] at hst
  split at hst
  · exact absurd hst.symm hdevice
  · simp only [normalise] at hst
    split at hst
    · exact absurd hst.symm hio
    · exact hst

/-- The checks before the loop only refuse. -/
theorem precheck_status {st : LaserStatus} (hcheck : (precheck h call s).1 = some st) :
    st = .errInvalid ∨ st = .errNoSuchToken ∨ st = .errCancelled ∨ st = .errNoDevice := by
  unfold precheck at hcheck
  split at hcheck
  · exact .inl (Option.some.inj hcheck).symm
  split at hcheck
  · exact .inr (.inl (Option.some.inj hcheck).symm)
  split at hcheck
  · exact .inl (Option.some.inj hcheck).symm
  dsimp only at hcheck
  split at hcheck
  · exact .inr (.inr (.inl (Option.some.inj hcheck).symm))
  split at hcheck
  · exact .inr (.inr (.inr (Option.some.inj hcheck).symm))
  · cases hcheck

/-- Nothing stops a call that is well-formed, of a registered entry, on a device that is there. -/
theorem precheck_of_ready (hvalid : call.valid = true) (hregistered : s.entry.inUse = true)
    (hplain : laserCdbChangesCssState call.cdb = false) (hpoll : (s.isCancelled h).1 = false)
    (hpresent : s.entry.deviceGone = false) : precheck h call s = (none, (s.isCancelled h).2) := by
  have hsame : (s.isCancelled h).2.entry = s.entry := rfl
  unfold precheck
  simp [hvalid, hregistered, hplain, hpoll, hsame, hpresent]

/-- `LASER_OK` is handed on. -/
theorem conclude_of_ok (hok : v.result = .ok) :
    conclude v s = (⟨.ok, v.actualLen, v.data⟩, s) := by
  unfold conclude neverSentVerdict
  simp [hok, normalise]

/-- A turn that leaves the loop ends the call. -/
theorem InLoop.returns {n : Nat} (hin : InLoop h call s n v t)
    (hdone : cdbTurn h call (v, t) = .done (v', u)) :
    Returns h call s (conclude v' u).1 (conclude v' u).2 := by
  obtain ⟨hcheck, hr⟩ := hin
  refine ⟨n + 1, ?_⟩
  unfold laserScsiCdb
  generalize precheck h call s = res at hcheck hr
  obtain ⟨st, s₀⟩ := res
  dsimp only at hcheck hr
  subst hcheck
  dsimp only
  rw [iterate_eq_some_iff.mpr ⟨n, (v, t), Nat.lt_succ_self n, hr, hdone⟩]
  rfl

/-- A run on a concrete input, evaluated. -/
theorem Returns.of_run (fuel : Nat) {p : CdbResult → Sys W → Prop} [∀ r s', Decidable (p r s')]
    (hrun : (laserScsiCdb h fuel call s).any (fun res => decide (p res.1 res.2)) = true) :
    ∃ r s', Returns h call s r s' ∧ p r s' := by
  obtain ⟨⟨r, s'⟩, hres, hp⟩ := (Option.any_eq_true _ _).mp hrun
  exact ⟨r, s', ⟨fuel, hres⟩, of_decide_eq_true hp⟩

/-- A turn of a run on a concrete input, evaluated. -/
theorem InLoop.of_run (n : Nat) {p : CdbVars → Sys W → Prop} [∀ v t, Decidable (p v t)]
    (hcheck : (precheck h call s).1 = none)
    (hrun : (nthTurn (cdbTurn h call) n ({}, (precheck h call s).2)).any
      (fun q => decide (p q.1 q.2)) = true) : ∃ v t, InLoop h call s n v t ∧ p v t := by
  obtain ⟨⟨v, t⟩, hturn, hp⟩ := (Option.any_eq_true _ _).mp hrun
  exact ⟨v, t, ⟨hcheck, .of_nthTurn hturn⟩, of_decide_eq_true hp⟩

/-- A call ends before its loop, or on a turn that leaves it. -/
theorem Returns.cases {r : CdbResult} (hret : Returns h call s r s') :
    (∃ st, (precheck h call s).1 = some st ∧ r = ⟨st, none, []⟩ ∧ s' = (precheck h call s).2)
    ∨ ∃ n v t v' u, InLoop h call s n v t ∧ cdbTurn h call (v, t) = .done (v', u)
      ∧ r = (conclude v' u).1 ∧ s' = (conclude v' u).2 := by
  obtain ⟨fuel, hret⟩ := hret
  unfold laserScsiCdb at hret
  unfold InLoop
  generalize precheck h call s = res at hret
  obtain ⟨_ | st, s₀⟩ := res
  · right
    dsimp only at hret
    obtain ⟨⟨v', u⟩, hloop, hres⟩ := Option.map_eq_some_iff.mp hret
    obtain ⟨n, ⟨v, t⟩, -, hr, hdone⟩ := iterate_eq_some_iff.mp hloop
    exact ⟨n, v, t, v', u, ⟨rfl, hr⟩, hdone, by rw [hres], by rw [hres]⟩
  · left
    simp only [Option.some.injEq, Prod.mk.injEq] at hret
    exact ⟨st, rfl, hret.1.symm, hret.2.symm⟩

/-- A call returns one thing. -/
theorem Returns.unique {r r' : CdbResult} {s'' : Sys W} (hret : Returns h call s r s')
    (hret' : Returns h call s r' s'') : r = r' ∧ s' = s'' := by
  obtain ⟨fuel, hret⟩ := hret
  obtain ⟨fuel', hret'⟩ := hret'
  unfold laserScsiCdb at hret hret'
  generalize precheck h call s = res at hret hret'
  obtain ⟨_ | st, s₀⟩ := res
  · obtain ⟨p, hloop, hp⟩ := Option.map_eq_some_iff.mp hret
    obtain ⟨q, hloop', hq⟩ := Option.map_eq_some_iff.mp hret'
    have hmono := iterate_mono hloop (Nat.le_max_left fuel fuel')
    rw [iterate_mono hloop' (Nat.le_max_right fuel fuel'), Option.some.injEq] at hmono
    subst hmono
    rw [hp, Prod.mk.injEq] at hq
    exact hq
  · rw [hret, Option.some.injEq, Prod.mk.injEq] at hret'
    exact hret'

/-- A call that is still looping has begun any number of turns. -/
theorem returns_or_inLoop (h : Host W) (call : CdbCall) (s : Sys W) (n : Nat) :
    (∃ r s', Returns h call s r s') ∨ ∃ v t, InLoop h call s n v t := by
  unfold Returns laserScsiCdb InLoop
  generalize precheck h call s = res
  obtain ⟨_ | st, s₀⟩ := res
  · rcases iterate_or_reaches (cdbTurn h call) n ({}, s₀) with ⟨⟨v', u⟩, hloop⟩ | ⟨⟨v, t⟩, hr⟩
    · exact .inl ⟨_, _, n, by dsimp only; rw [hloop]; rfl⟩
    · exact .inr ⟨v, t, rfl, hr⟩
  · exact .inl ⟨_, _, 0, rfl⟩

/-- What the checks before the loop leave on the trace, and in the entry. -/
theorem precheck_spec (h : Host W) (call : CdbCall) (s : Sys W) :
    (precheck h call s).2 = s ∨ (precheck h call s).2 = (s.isCancelled h).2 := by
  unfold precheck
  split
  · exact .inl rfl
  · split
    · exact .inl rfl
    · split
      · exact .inl rfl
      · right
        dsimp only
        split
        · rfl
        · split <;> rfl

theorem precheck_entry (h : Host W) (call : CdbCall) (s : Sys W) :
    (precheck h call s).2.entry = s.entry := by
  rcases precheck_spec h call s with heq | heq <;> rw [heq]
  rfl

theorem precheck_trace (h : Host W) (call : CdbCall) (s : Sys W) :
    (precheck h call s).2.trace = s.trace ∨ ∃ c, (precheck h call s).2.trace = .polled c :: s.trace := by
  rcases precheck_spec h call s with heq | heq
  · exact .inl (by rw [heq])
  · exact .inr ⟨(s.isCancelled h).1, by rw [heq]; rfl⟩

theorem precheck_cdbOutcomes (h : Host W) (call : CdbCall) (s : Sys W) :
    cdbOutcomes (precheck h call s).2.trace = cdbOutcomes s.trace := by
  rcases precheck_spec h call s with heq | heq <;> rw [heq]
  rfl

/-- The next turn of the loop. -/
theorem InLoop.next {n : Nat} (hin : InLoop h call s n v t)
    (hb : cdbTurn h call (v, t) = .again (v', u)) : InLoop h call s (n + 1) v' u :=
  ⟨hin.1, hin.2.turn hb⟩

/-- **The loop rule of the command.** What holds when the loop is entered and is kept by every way a
    turn of it goes round again holds at the start of every turn; the invariant may speak of the
    number of turns made. -/
theorem InLoop.invariant {I : Nat → CdbVars → Sys W → Prop} {n : Nat}
    (hkeep : ∀ k v t v' u, InLoop h call s k v t → I k v t → AgainSpec h call v t v' u →
      I (k + 1) v' u)
    (hin : InLoop h call s n v t) (hs : I 0 {} (precheck h call s).2) : I n v t := by
  have hstep : ∀ (k : Nat) (p q : CdbVars × Sys W),
      Reaches (cdbTurn h call) ({}, (precheck h call s).2) k p → I k p.1 p.2 →
      cdbTurn h call p = .again q → I (k + 1) q.1 q.2 :=
    fun k p q hr hp hb => hkeep k _ _ _ _ ⟨hin.1, hr⟩ hp (cdbTurn_again hb)
  have hrun := hin.2.invariant_count hstep
  exact hrun hs

/-- Fewer CBWs than attempts have failed to leave, at the start of a turn. -/
theorem InLoop.neverSent_lt {n : Nat} (hin : InLoop h call s n v t) : v.cbwNeverSent < v.attempt := by
  refine hin.invariant (I := fun _ v _ => v.cbwNeverSent < v.attempt) ?_ (by decide)
  intro k v t v' u _ hlt hspec
  cases hspec with
  | mediumReady hfailed hchanged _ =>
      have ho := hfailed.outcome_of_read (Sense.read_of_changed hchanged)
      have hsent := hfailed.counts.2
      have hattempt := hfailed.vars.1
      subst ho
      simp only [reduceCtorEq, if_false] at hsent
      show _ < _
      simp only
      omega
  | free hfailed hready _ _ _ _ | late hfailed hready _ _ _ _ _ =>
      have ho := hfailed.outcome_of_read (Sense.read_of_becomingReady hready)
      have hsent := hfailed.counts.2
      have hattempt := hfailed.vars.1
      subst ho
      simp only [reduceCtorEq, if_false] at hsent
      simp only [CdbVars.spend]
      omega
  | retried hfailed _ _ _ _ =>
      have hsent := hfailed.counts.2
      have hattempt := hfailed.vars.1
      simp only [CdbVars.spend]
      split at hsent <;> omega

/-- Until the loop is left its result is the one it began with. -/
theorem InLoop.result {n : Nat} (hin : InLoop h call s n v t) : v.result = .errIo := by
  refine hin.invariant (I := fun _ v _ => v.result = .errIo) ?_ rfl
  intro k v t v' u _ hresult hspec
  cases hspec with
  | mediumReady hfailed _ _ | free hfailed _ _ _ _ _ | late hfailed _ _ _ _ _ _
  | retried hfailed _ _ _ _ => exact hfailed.result.trans hresult

/-- In the loop the rest of the entry is as the call found it. -/
theorem InLoop.frame {n : Nat} (hin : InLoop h call s n v t) : t.entry.frame = s.entry.frame := by
  apply hin.invariant (I := fun _ _ t => t.entry.frame = s.entry.frame)
  · intro k v t v' u _ hframe hspec
    exact hspec.frame.trans hframe
  · rw [precheck_entry]

/-- **The frame of a command**: of the rest of the entry, only `device_gone` may change. -/
theorem Returns.frame {r : CdbResult} (hret : Returns h call s r s') :
    ∃ gone, s'.entry.frame = { s.entry.frame with deviceGone := gone } := by
  rcases hret.cases with ⟨st, -, -, rfl⟩ | ⟨n, v, t, v', u, hin, hdone, -, rfl⟩
  · refine ⟨s.entry.deviceGone, ?_⟩
    rw [precheck_entry]
    rfl
  · obtain ⟨_, hframe⟩ := (cdbTurn_done hdone).frame
    obtain ⟨gone, hverdict⟩ := conclude_frame v' u
    refine ⟨gone, ?_⟩
    rw [hverdict, hframe, hin.frame]

/-- What has happened by the start of a turn is part of the trace the call returns with. -/
theorem InLoop.suffix_returns {r : CdbResult} {n : Nat} (hin : InLoop h call s n v t)
    (hret : Returns h call s r s') : t.trace <:+ s'.trace := by
  rcases hret.cases with ⟨st, hcheck, -, -⟩ | ⟨m, v₂, t₂, v', u, hin₂, hdone, -, rfl⟩
  · rw [hin.1] at hcheck
    cases hcheck
  · obtain ⟨k, hk⟩ := hin.2.to_done hin₂.2 hdone
    have hgrow : ∀ p q : CdbVars × Sys W, t.trace <:+ p.2.trace →
        cdbTurn h call p = .again q → t.trace <:+ q.2.trace :=
      fun p q hp hb => hp.trans (cdbTurn_again hb).suffix
    rw [conclude_trace]
    exact (hk.invariant hgrow (List.suffix_refl _)).trans (cdbTurn_done hdone).suffix

/-- A turn that finds the token not cancelled, with attempts left, sends the CDB. -/
theorem InLoop.sends_more {n : Nat} {r : CdbResult} (hin : InLoop h call s n v t)
    (hle : v.attempt ≤ laserMaxRetries) (hpoll : (t.isCancelled h).1 = false)
    (hret : Returns h call s r s') :
    ∃ pre o, cdbOutcomes s'.trace = pre ++ o :: cdbOutcomes t.trace := by
  have hmore : ∀ {o : BotOutcome} {trace : List ScsiEvent},
      cdbOutcomes trace = o :: cdbOutcomes t.trace → trace <:+ s'.trace →
      ∃ pre o, cdbOutcomes s'.trace = pre ++ o :: cdbOutcomes t.trace := by
    rintro o trace heq ⟨pre, hpre⟩
    refine ⟨cdbOutcomes pre, o, ?_⟩
    rw [← hpre, ← heq]
    exact List.filterMap_append
  have hspec := cdbTurn_spec h call v t
  generalize hb : cdbTurn h call (v, t) = turn at hspec
  rcases turn with ⟨v', u⟩ | ⟨v', u⟩
  · obtain ⟨o', heq⟩ := AgainSpec.cdbOutcomes hspec
    exact hmore heq ((hin.next hb).suffix_returns hret)
  -- a turn that ends the call without sending was out of attempts, or cancelled
  · rcases DoneSpec.cdbOutcomes hspec with ⟨-, hmax | hcancel⟩ | ⟨⟨o', heq⟩, -, -⟩
    · exact absurd hle (Nat.not_le_of_lt hmax)
    · rw [hpoll] at hcancel
      cases hcancel
    · have hend : s'.trace = u.trace := by
        rw [(hret.unique (hin.returns hb)).2, conclude_trace]
      exact hmore heq (hend ▸ List.suffix_refl _)

end Liblaser
