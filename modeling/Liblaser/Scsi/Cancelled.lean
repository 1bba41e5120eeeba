import Liblaser.Scsi.Classified

/-!
# `Scsi.Cancelled` — a command whose token is cancelled

`laser_set_cancelled()` raises a flag that `laser_scsi_cdb()` looks at before each attempt. A command in
its loop when the flag goes up is to finish the transaction in progress, send its CDB no more, and say
either what that transaction said or that it was cancelled.

It sends no more (`RaisedIn.stops`). What it says is another matter: the flag is looked at before an
attempt, so not after the last one. `RaisedIn.ends` is how such a call ends, and **`RaisedIn.reported_iff`**
exactly when the answer is right.
-/

namespace Liblaser

open Loop

variable {W : Type} {h : Host W} {raised : W → Prop} {call : CdbCall} {v v' : CdbVars}
  {s s' t u : Sys W} {st : LaserStatus} {n : Nat}

/-! ## The flag -/

/-- The law of a flag that is only ever raised; `raised` holds of a world in which it is up. -/
structure Host.Flag (h : Host W) (raised : W → Prop) : Prop where
  read : ∀ w, raised w → (h.isCancelled w).1 = true
  seen : ∀ w, (h.isCancelled w).1 = true → raised (h.isCancelled w).2
  isCancelled : ∀ w, raised w → raised (h.isCancelled w).2
  send : ∀ entry req w, raised w → raised (h.send entry req w).2
  clockGettime : ∀ w, raised w → raised (h.clockGettime w).2
  usleep : ∀ us w, raised w → raised (h.usleep us w)

/-- Where a turn ends. -/
def turnEnd : Turn (CdbVars × Sys W) (CdbVars × Sys W) → Sys W
  | .again p => p.2
  | .done p => p.2

/-- The flag goes up in turn `n` of the loop, after the look at it: during the transaction of the turn or
    in what follows it. -/
structure RaisedIn (h : Host W) (raised : W → Prop) (call : CdbCall) (s : Sys W) (n : Nat)
    (v : CdbVars) (t : Sys W) : Prop where
  inLoop : InLoop h call s n v t
  attempt_le : v.attempt ≤ laserMaxRetries
  before : (t.isCancelled h).1 = false
  after : raised (turnEnd (cdbTurn h call (v, t))).world

/-- The look of turn `n` finds the flag up. -/
structure FoundUp (h : Host W) (call : CdbCall) (s : Sys W) (n : Nat) (v : CdbVars) (t : Sys W) :
    Prop where
  inLoop : InLoop h call s n v t
  attempt_le : v.attempt ≤ laserMaxRetries
  up : (t.isCancelled h).1 = true

/-! ## The transaction in progress -/

/-- How the transaction of a turn ends. -/
def outcomeAt (h : Host W) (call : CdbCall) (t : Sys W) : BotOutcome := (attemptOf h call t).1.outcome

/-- The sense of it, and the state it is read in. -/
def senseAt (h : Host W) (call : CdbCall) (t : Sys W) : Sense × Sys W :=
  senseOf h (outcomeAt h call t) (attemptOf h call t).2

/-- What the chain of tests makes of it, when it fails. -/
def verdictAt (h : Host W) (call : CdbCall) (v : CdbVars) (t : Sys W) : Verdict :=
  classify call.idempotent (spinningUp v t) (outcomeAt h call t) (senseAt h call t).1

/-- The clock of the becoming-ready wait has run out. -/
def WaitOver (h : Host W) (v : CdbVars) (t : Sys W) : Prop :=
  let (since, t) := waitSince h v t
  let (now, _) := t.clockGettime h
  laserBecomingReadyMaxWallMs ≤ now.msSince since

/-- The answer is one a retry is made for at the cost of an attempt. -/
def Spends (h : Host W) (call : CdbCall) (v : CdbVars) (t : Sys W) : Prop :=
  match verdictAt h call v t with
  | .unitAttention | .delayed => True
  | .becomingReady => WaitOver h v (senseAt h call t).2
  | .final _ | .mediumReady => False

/-- The transaction neither passed nor found the device gone. -/
def Lost (h : Host W) (call : CdbCall) (t : Sys W) : Prop :=
  outcomeAt h call t ≠ .pass ∧ outcomeAt h call t ≠ .noDevice

/-- The locals at the verdict. -/
def notedAt (h : Host W) (call : CdbCall) (v : CdbVars) (t : Sys W) : CdbVars :=
  (CdbVars.store { v with attemptsMade := v.attempt } (attemptOf h call t).1).note (outcomeAt h call t)

/-- The length of a call that passes with this transaction. -/
def passedLen (h : Host W) (call : CdbCall) (v : CdbVars) (t : Sys W) : Option Nat :=
  (attemptOf h call t).1.actualLen.or v.actualLen

/-- How the turn of a transaction ends. -/
inductive TransactionTurn (h : Host W) (call : CdbCall) (v : CdbVars) (t : Sys W) :
    Turn (CdbVars × Sys W) (CdbVars × Sys W) → Prop where
  | passed {v' : CdbVars} {u : Sys W} (ho : outcomeAt h call t = .pass) (hok : v'.result = .ok)
      (hlen : v'.actualLen = passedLen h call v t) : TransactionTurn h call v t (.done (v', u))
  | gone {v' : CdbVars} {u : Sys W} (ho : outcomeAt h call t = .noDevice)
      (hgone : v'.result = .errNoDevice) : TransactionTurn h call v t (.done (v', u))
  | final {v' : CdbVars} {u : Sys W} (hlost : Lost h call t) {st : LaserStatus}
      (hverdict : verdictAt h call v t = .final st) (hresult : v'.result = st)
      (hmade : v'.attemptsMade = v.attempt) (hcount : v'.cbwNeverSent = v.cbwNeverSent) :
      TransactionTurn h call v t (.done (v', u))
  | back {v' : CdbVars} {u : Sys W} (hlost : Lost h call t)
      (hverdict : ∀ st, verdictAt h call v t ≠ .final st) (hfree : ¬ Spends h call v t)
      (hattempt : v'.attempt = v.attempt) : TransactionTurn h call v t (.again (v', u))
  | spent {v' : CdbVars} {u : Sys W} (hlost : Lost h call t) (hspends : Spends h call v t)
      (hattempt : v'.attempt = v.attempt + 1) (hmade : v'.attemptsMade = v.attempt)
      (hcount : v'.cbwNeverSent = (notedAt h call v t).cbwNeverSent) :
      TransactionTurn h call v t (.again (v', u))

/-- A transaction that was not sent explains nothing, and is tried again. -/
theorem classify_notSent (idempotent up : Bool) :
    classify idempotent up .notSent .unread = .delayed := by
  cases idempotent <;> cases up <;> decide

theorem verdictAt_of_notSent (ho : outcomeAt h call t = .notSent) : verdictAt h call v t = .delayed := by
  have hsense : (senseAt h call t).1 = .unread := by
    rw [senseAt, ho]
    rfl
  rw [verdictAt, ho, hsense]
  exact classify_notSent _ _

/-- When a wait that runs began does not depend on the other locals. -/
theorem waitSince_congr (heq : v'.becomingReady = v.becomingReady) :
    waitSince h v' t = waitSince h v t := by
  unfold waitSince
  rw [heq]

theorem notedAt_attempt : (notedAt h call v t).attempt = v.attempt := by
  unfold notedAt
  rw [CdbVars.note_attempt]
  rfl

theorem notedAt_attemptsMade : (notedAt h call v t).attemptsMade = v.attempt := by
  unfold notedAt CdbVars.note
  split <;> rfl

/-- An attempt whose CBW did not leave is counted. -/
theorem notedAt_cbwNeverSent : (notedAt h call v t).cbwNeverSent
    = if outcomeAt h call t = .notSent then v.cbwNeverSent + 1 else v.cbwNeverSent := by
  unfold notedAt CdbVars.note
  split <;> rfl

theorem notedAt_becomingReady : (notedAt h call v t).becomingReady = v.becomingReady := by
  unfold notedAt
  rw [CdbVars.note_becomingReady]
  rfl

/-- The turn of a transaction that failed follows its verdict. -/
theorem cdbTurn_eq_followVerdict (hle : v.attempt ≤ laserMaxRetries)
    (hpoll : (t.isCancelled h).1 = false) (hlost : Lost h call t) :
    cdbTurn h call (v, t)
      = followVerdict h (notedAt h call v t) (senseAt h call t).2 (verdictAt h call v t) := by
  have hsense := senseOf_spec h (outcomeAt h call t) (attemptOf h call t).2
  have hup : ((notedAt h call v t).becomingReady.isSome || (senseAt h call t).2.entry.notReady)
      = spinningUp v t := by
    rw [notedAt_becomingReady, senseAt, hsense.notReady]
    rfl
  rw [cdbTurn_of_lost hle hpoll rfl hlost.1 hlost.2]
  unfold failedTurn verdictAt
  rw [← hup]
  rfl

/-- The turn of a transaction whose verdict ends the call. -/
theorem followVerdict_final {st : LaserStatus} (hlost : Lost h call t)
    (hverdict : verdictAt h call v t = .final st) :
    TransactionTurn h call v t (followVerdict h (notedAt h call v t) (senseAt h call t).2 (.final st)) := by
  have hsent : outcomeAt h call t ≠ .notSent := by
    intro ho
    rw [verdictAt_of_notSent ho] at hverdict
    cases hverdict
  have hnote : notedAt h call v t = CdbVars.store { v with attemptsMade := v.attempt }
      (attemptOf h call t).1 := if_neg hsent
  refine .final hlost hverdict rfl ?_ ?_
  · rw [hnote]
    rfl
  · rw [hnote]
    rfl

/-- The turn of a transaction whose verdict is to wait: the attempt comes back until the wait is over. -/
theorem becomingReadyRound_turn (hlost : Lost h call t)
    (hverdict : verdictAt h call v t = .becomingReady) :
    TransactionTurn h call v t (becomingReadyRound h (notedAt h call v t) (senseAt h call t).2) := by
  have hspends : Spends h call v t ↔ WaitOver h v (senseAt h call t).2 := by
    simp [Spends, hverdict]
  unfold becomingReadyRound
  rw [waitSince_congr notedAt_becomingReady]
  dsimp only
  split
  · next hin =>
      refine .back hlost (by simp [hverdict]) ?_ notedAt_attempt
      rw [hspends]
      exact Int.not_le.mpr hin
  · next hout =>
      refine .spent hlost ?_ (congrArg (· + 1) notedAt_attempt) notedAt_attemptsMade rfl
      rw [hspends]
      exact Int.not_lt.mp hout

/-- The turn of a transaction that passes or finds the device gone: the call leaves the loop. -/
theorem cdbTurn_of_not_lost (hle : v.attempt ≤ laserMaxRetries) (hpoll : (t.isCancelled h).1 = false)
    (hlost : ¬ Lost h call t) : TransactionTurn h call v t (cdbTurn h call (v, t)) := by
  have hspec := cdbTurn_spec h call v t
  have hnot : ∀ {o sense v' t'}, ¬ Failed h call v t o sense v' t' := by
    intro o sense v' t' hfailed
    apply hlost
    rw [Lost, outcomeAt, hfailed.answer.1]
    exact ⟨hfailed.not_pass, hfailed.not_gone⟩
  generalize cdbTurn h call (v, t) = turn at hspec ⊢
  rcases turn with ⟨v', u⟩ | ⟨v', u⟩
  · cases (show AgainSpec h call v t v' u from hspec) with
    | mediumReady hfailed _ _ | free hfailed _ _ _ _ _ | late hfailed _ _ _ _ _ _
    | retried hfailed _ _ _ _ => exact absurd hfailed hnot
  · cases (show DoneSpec h call v t v' u from hspec) with
    | exhausted hmax => exact absurd hle (Nat.not_le_of_lt hmax)
    | cancelled _ hcancel =>
        have hpoll' : (h.isCancelled t.world).1 = false := hpoll
        rw [hcancel] at hpoll'
        cases hpoll'
    | passed hasked => exact .passed hasked.outcome rfl (congrArg CdbVars.actualLen hasked.stored)
    | gone hasked => exact .gone hasked.outcome rfl
    | final hfailed _ => exact absurd hfailed hnot

/-- **The turn of a transaction**, on its answer. -/
theorem transactionTurn (hle : v.attempt ≤ laserMaxRetries) (hpoll : (t.isCancelled h).1 = false) :
    TransactionTurn h call v t (cdbTurn h call (v, t)) := by
  by_cases hlost : Lost h call t
  · rw [cdbTurn_eq_followVerdict hle hpoll hlost]
    cases hverdict : verdictAt h call v t with
    | final st => exact followVerdict_final hlost hverdict
    | mediumReady =>
        refine .back hlost (by simp [hverdict]) ?_ notedAt_attempt
        simp [Spends, hverdict]
    | unitAttention =>
        refine .spent hlost ?_ (congrArg (· + 1) notedAt_attempt) notedAt_attemptsMade rfl
        simp [Spends, hverdict]
    | delayed =>
        refine .spent hlost ?_ (congrArg (· + 1) notedAt_attempt) notedAt_attemptsMade rfl
        simp [Spends, hverdict]
    | becomingReady => exact becomingReadyRound_turn hlost hverdict
  · exact cdbTurn_of_not_lost hle hpoll hlost

/-! ## How the call ends -/

/-- The CDB is not sent after the transaction in progress. -/
def Stops (h : Host W) (call : CdbCall) (t s' : Sys W) : Prop :=
  cdbOutcomes s'.trace = outcomeAt h call t :: cdbOutcomes t.trace

/-- What the transaction of a turn says that does not pass: the class of its sense, or that the device is
    gone. -/
def Said (h : Host W) (call : CdbCall) (v : CdbVars) (t : Sys W) (st : LaserStatus) : Prop :=
  (outcomeAt h call t = .failed usbBotStatusFail ∧ (senseAt h call t).1.means (spinningUp v t) st)
    ∨ (outcomeAt h call t = .noDevice ∧ st = .errNoDevice)

/-- A plain I/O error is said by no transaction, -/
theorem Said.ne_errIo (hsaid : Said h call v t st) : st ≠ .errIo := by
  rintro rfl
  rcases hsaid with ⟨-, hmeans⟩ | ⟨-, hgone⟩
  · exact hmeans
  · cases hgone

/-- nor that all is well, nor that the call was cancelled, -/
theorem Said.ne (hsaid : Said h call v t st) : st ≠ .ok ∧ st ≠ .errCancelled := by
  constructor
  all_goals
    rintro rfl
    rcases hsaid with ⟨-, hmeans⟩ | ⟨-, hgone⟩
    · exact hmeans
    · cases hgone

/-- and that the device is gone only by one that found it gone. -/
theorem Said.noDevice (hsaid : Said h call v t .errNoDevice) : outcomeAt h call t = .noDevice := by
  rcases hsaid with ⟨-, hmeans⟩ | ⟨hgone, -⟩
  · exact hmeans.elim
  · exact hgone

/-- Every attempt counted came to `BOT_FAIL_NOT_SENT`, that of the turn included. -/
def NeverLeft (h : Host W) (call : CdbCall) (v : CdbVars) (t : Sys W) : Prop :=
  outcomeAt h call t = .notSent ∧ v.cbwNeverSent + 1 = v.attempt

/-- How a call ends that is cancelled in this turn, by what came of the turn's transaction. -/
inductive CancelledEnd (h : Host W) (call : CdbCall) (v : CdbVars) (t : Sys W) (r : CdbResult) : Prop where
  | passed (ho : outcomeAt h call t = .pass) (hst : r.status = .ok)
      (hlen : r.actualLen = passedLen h call v t) : CancelledEnd h call v t r
  | gone (ho : outcomeAt h call t = .noDevice) (hst : r.status = .errNoDevice) : CancelledEnd h call v t r
  | said (hlost : Lost h call t) (hverdict : verdictAt h call v t = .final r.status)
      (hsaid : Said h call v t r.status) : CancelledEnd h call v t r
  /-- The command may not be sent twice, and its sense is in no class. -/
  | unexplained (hlost : Lost h call t) (hverdict : verdictAt h call v t = .final .errIo)
      (hrisky : call.idempotent = false) (hst : r.status = .errIo) : CancelledEnd h call v t r
  /-- The next attempt finds the flag up. -/
  | cancelled (hlost : Lost h call t) (hverdict : ∀ st, verdictAt h call v t ≠ .final st)
      (hmore : v.attempt < laserMaxRetries ∨ ¬ Spends h call v t) (hst : r.status = .errCancelled) :
      CancelledEnd h call v t r
  /-- There is no next attempt. -/
  | exhausted (hlost : Lost h call t) (hspends : Spends h call v t) (hlast : v.attempt = laserMaxRetries)
      (hheard : ¬ NeverLeft h call v t) (hst : r.status = .errIo) : CancelledEnd h call v t r
  | neverLeft (hlost : Lost h call t) (hspends : Spends h call v t) (hlast : v.attempt = laserMaxRetries)
      (hsilent : NeverLeft h call v t) (hst : r.status = .errNoDevice) : CancelledEnd h call v t r

/-- A turn that finds the flag up ends the call. -/
theorem FoundUp.returns (hfound : FoundUp h call s n v t) :
    Returns h call s ⟨.errCancelled, v.actualLen, v.data⟩ (t.isCancelled h).2 := by
  have hret := hfound.inLoop.returns (@cdbTurn_of_cancelled _ h call v t hfound.attempt_le hfound.up)
  rw [conclude_of_heard (.inr (.inl rfl))] at hret
  exact hret

/-- The turn of the transaction in progress sends the CDB once. -/
theorem RaisedIn.sent (hraised : RaisedIn h raised call s n v t) :
    cdbOutcomes (turnEnd (cdbTurn h call (v, t))).trace = outcomeAt h call t :: cdbOutcomes t.trace := by
  have hspec := cdbTurn_spec h call v t
  generalize cdbTurn h call (v, t) = turn at hspec ⊢
  rcases turn with ⟨v', u⟩ | ⟨v', u⟩
  · exact AgainSpec.sends hspec
  · rcases DoneSpec.sends hspec with ⟨-, hmax | hcancel⟩ | ⟨hsent, -, -⟩
    · exact absurd hraised.attempt_le (Nat.not_le_of_lt hmax)
    · rw [hraised.before] at hcancel
      cases hcancel
    · exact hsent

/-- **The CDB is sent no further time**, and the call returns, with the flag up: in the turn of the
    transaction in progress, or in the next, cancelled or for want of attempts. -/
theorem RaisedIn.stops (hflag : h.Flag raised) (hraised : RaisedIn h raised call s n v t) :
    ∃ r s', Returns h call s r s' ∧ Stops h call t s' ∧ raised s'.world := by
  have hsent := hraised.sent
  have hafter := hraised.after
  have hconcluded : ∀ v' u, cdbOutcomes u.trace = outcomeAt h call t :: cdbOutcomes t.trace →
      raised u.world → Stops h call t (conclude v' u).2 ∧ raised (conclude v' u).2.world := by
    intro v' u hsent hafter
    rw [Stops, conclude_trace, conclude_world]
    exact ⟨hsent, hafter⟩
  generalize hb : cdbTurn h call (v, t) = turn at hsent hafter
  rcases turn with ⟨v', u⟩ | ⟨v', u⟩
  · have hnext := hraised.inLoop.next hb
    by_cases hle : v'.attempt ≤ laserMaxRetries
    · have hup := hflag.read _ hafter
      exact ⟨_, _, FoundUp.returns ⟨hnext, hle, hup⟩, hsent, hflag.seen _ hup⟩
    · have hdone : cdbTurn h call (v', u) = .done (v', u) := if_pos (Nat.lt_of_not_le hle)
      exact ⟨_, _, hnext.returns hdone, hconcluded v' u hsent hafter⟩
  · exact ⟨_, _, hraised.inLoop.returns hb, hconcluded v' u hsent hafter⟩

/-- A call that ends on the sense of its transaction says what the sense means, but for the command that
    may not be sent twice and whose sense is in no class. -/
theorem RaisedIn.ends_of_final (hraised : RaisedIn h raised call s n v t) (hlost : Lost h call t)
    (hverdict : verdictAt h call v t = .final st) (hresult : v'.result = st)
    (hmade : v'.attemptsMade = v.attempt) (hcount : v'.cbwNeverSent = v.cbwNeverSent) :
    CancelledEnd h call v t (conclude v' u).1 := by
  have hlt := hraised.inLoop.neverSent_lt
  have hclass := classify_spec call.idempotent (spinningUp v t) (outcomeAt h call t)
    (senseAt h call t).1
  rw [show classify _ _ _ _ = _ from hverdict] at hclass
  have hat : AttemptAt h call s n v t (outcomeAt h call t) (senseAt h call t).1 :=
    ⟨hraised.inLoop, hraised.attempt_le, hraised.before, rfl, rfl⟩
  rcases hclass.means with hmeans | ⟨rfl, hrisky, -⟩
  · have hst : (conclude v' u).1.status = st := by
      rw [conclude_status (.inl (by omega)) (.inr (hresult ▸ hmeans.ofSense)), hresult]
    exact .said hlost (hst ▸ hverdict) (.inl ⟨hat.outcome_of_read hmeans.read, hst ▸ hmeans⟩)
  · have hst : (conclude v' u).1.status = .errIo := by
      rw [conclude_of_heard (.inr (.inr (by omega))), hresult]
      rfl
    exact .unexplained hlost hverdict hrisky hst

/-- A call whose transaction spent an attempt is cancelled in the next turn, if there is one. -/
theorem RaisedIn.ends_of_spent (hflag : h.Flag raised) (hraised : RaisedIn h raised call s n v t)
    (hin : InLoop h call s (n + 1) v' u) (hafter : raised u.world) (hlost : Lost h call t)
    (hspends : Spends h call v t) (hattempt : v'.attempt = v.attempt + 1)
    (hmade : v'.attemptsMade = v.attempt)
    (hcount : v'.cbwNeverSent = (notedAt h call v t).cbwNeverSent) {r : CdbResult}
    (hret : Returns h call s r s') : CancelledEnd h call v t r := by
  have hle := hraised.attempt_le
  by_cases hmax : laserMaxRetries < v'.attempt
  · -- the last attempt: the flag is not looked at again
    have hlast : v.attempt = laserMaxRetries := by omega
    have hlt := hraised.inLoop.neverSent_lt
    have hresult := hin.result
    obtain ⟨rfl, -⟩ := hret.unique (hin.returns (if_pos hmax))
    rw [notedAt_cbwNeverSent] at hcount
    by_cases hsilent : NeverLeft h call v t
    · have hequal : v'.cbwNeverSent = v'.attemptsMade := by
        rw [hcount, if_pos hsilent.1, hsilent.2, hmade]
      refine .neverLeft hlost hspends hlast hsilent ?_
      rw [conclude_of_silent (by rw [hresult]; decide) (by rw [hresult]; decide) (by omega) hequal]
    · refine .exhausted hlost hspends hlast hsilent ?_
      have hdiffer : v'.cbwNeverSent ≠ v'.attemptsMade := by
        intro hequal
        rw [hcount, hmade] at hequal
        split at hequal
        · next ho => exact hsilent ⟨ho, hequal⟩
        · omega
      rw [conclude_of_heard (.inr (.inr hdiffer)), hresult]
      rfl
  · obtain ⟨rfl, -⟩ :=
      hret.unique (FoundUp.returns ⟨hin, Nat.le_of_not_lt hmax, hflag.read _ hafter⟩)
    refine .cancelled hlost ?_ (.inl (by omega)) rfl
    intro st heq
    simp [Spends, heq] at hspends

/-- **How a cancelled call ends.** -/
theorem RaisedIn.ends (hflag : h.Flag raised) (hraised : RaisedIn h raised call s n v t)
    {r : CdbResult} (hret : Returns h call s r s') : CancelledEnd h call v t r := by
  have hin := hraised.inLoop
  have hafter := hraised.after
  have hturn := @transactionTurn _ h call v t hraised.attempt_le hraised.before
  generalize hb : cdbTurn h call (v, t) = turn at hturn hafter
  cases hturn with
  | @passed v' u ho hok hlen =>
      obtain ⟨rfl, -⟩ := hret.unique (hin.returns hb)
      have hstatus : (conclude v' u).1.status = .ok := by
        rw [conclude_status (.inr hok) (.inl hok), hok]
      refine .passed ho hstatus ?_
      rw [conclude_of_ok hok]
      exact hlen
  | @gone v' u ho hgone =>
      obtain ⟨rfl, -⟩ := hret.unique (hin.returns hb)
      refine .gone ho ?_
      unfold conclude neverSentVerdict
      rw [hgone]
      dsimp only
      split <;> rfl
  | @final v' u hlost st hverdict hresult hmade hcount =>
      obtain ⟨rfl, -⟩ := hret.unique (hin.returns hb)
      exact hraised.ends_of_final hlost hverdict hresult hmade hcount
  | @back v' u hlost hverdict hfree hattempt =>
      have hle : v'.attempt ≤ laserMaxRetries := hattempt ▸ hraised.attempt_le
      obtain ⟨rfl, -⟩ := hret.unique (FoundUp.returns ⟨hin.next hb, hle, hflag.read _ hafter⟩)
      exact .cancelled hlost hverdict (.inr hfree) rfl
  | @spent v' u hlost hspends hattempt hmade hcount =>
      exact hraised.ends_of_spent hflag (hin.next hb) hafter hlost hspends hattempt hmade hcount hret

/-! ## What the call says -/

/-- The status of the call is one that a cancelled call may have: `LASER_OK`, what the transaction in
    progress said, or `LASER_ERR_CANCELLED`. -/
def Reported (h : Host W) (call : CdbCall) (v : CdbVars) (t : Sys W) (st : LaserStatus) : Prop :=
  st = .ok ∨ st = .errCancelled ∨ Said h call v t st

/-- **The condition.** The transaction in progress passed or found the device gone; or it failed, but not
    as one that may not be sent twice and whose sense is in no class, and without spending the last of the
    attempts. -/
def Reportable (h : Host W) (call : CdbCall) (v : CdbVars) (t : Sys W) : Prop :=
  outcomeAt h call t = .pass ∨ outcomeAt h call t = .noDevice
    ∨ (verdictAt h call v t ≠ .final .errIo ∧ (v.attempt < laserMaxRetries ∨ ¬ Spends h call v t))

/-- The last attempt spent is not reportable. -/
theorem not_reportable_of_spent (hlost : Lost h call t) (hspends : Spends h call v t)
    (hlast : v.attempt = laserMaxRetries) : ¬ Reportable h call v t := by
  rintro (hpass | hgone | ⟨-, hmore | hfree⟩)
  · exact hlost.1 hpass
  · exact hlost.2 hgone
  · omega
  · exact hfree hspends

/-- What the call says is right, exactly under the condition. -/
theorem RaisedIn.reported_iff (hflag : h.Flag raised) (hraised : RaisedIn h raised call s n v t)
    {r : CdbResult} (hret : Returns h call s r s') :
    Reported h call v t r.status ↔ Reportable h call v t := by
  cases hraised.ends hflag hret with
  | passed ho hst hlen => exact ⟨fun _ => .inl ho, fun _ => .inl hst⟩
  | gone ho hst => exact ⟨fun _ => .inr (.inl ho), fun _ => .inr (.inr (.inr ⟨ho, hst⟩))⟩
  | said hlost hverdict hsaid =>
      refine ⟨fun _ => .inr (.inr ⟨?_, .inr ?_⟩), fun _ => .inr (.inr hsaid)⟩
      · rw [hverdict]
        rintro heq
        injection heq with heq
        exact hsaid.ne_errIo heq
      · simp [Spends, hverdict]
  | unexplained hlost hverdict hrisky hst =>
      rw [hst]
      constructor
      · rintro (hok | hcancel | hsaid)
        · cases hok
        · cases hcancel
        · exact absurd rfl hsaid.ne_errIo
      · rintro (hpass | hgone | ⟨hverdict', -⟩)
        · exact absurd hpass hlost.1
        · exact absurd hgone hlost.2
        · exact absurd hverdict hverdict'
  | cancelled hlost hverdict hmore hst =>
      exact ⟨fun _ => .inr (.inr ⟨hverdict _, hmore⟩), fun _ => .inr (.inl hst)⟩
  | exhausted hlost hspends hlast hheard hst =>
      refine iff_of_false ?_ (not_reportable_of_spent hlost hspends hlast)
      rw [hst]
      rintro (hok | hcancel | hsaid)
      · cases hok
      · cases hcancel
      · exact hsaid.ne_errIo rfl
  | neverLeft hlost hspends hlast hsilent hst =>
      refine iff_of_false ?_ (not_reportable_of_spent hlost hspends hlast)
      rw [hst]
      rintro (hok | hcancel | hsaid)
      · cases hok
      · cases hcancel
      · exact hlost.2 hsaid.noDevice

end Liblaser
