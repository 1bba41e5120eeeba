import Liblaser.Scsi.CdbSpec

/-!
# `Scsi.Replay` — when a command that must not be sent twice is sent twice

A command that changes CSS state, or that carries data out, may have advanced the drive once its CBW
went out; a second copy is then a different request. The loop stops such a command after any failure
but `BOT_FAIL_NOT_SENT`, with one exception in front of that test: sense 28h/00h on an entry whose
readiness wait gave up is taken as the end of a spin-up and the command goes out again.

**`scsiCdb_no_replay_iff`** is that this is the only exception, and always one:
`scsiCdb_replays_after_swap` is a SEND KEY sent twice.
-/

namespace Liblaser

open Loop

variable {W : Type} {h : Host W} {call : CdbCall} {v v' : CdbVars} {s s' t u : Sys W}
  {o : BotOutcome} {sense : Sense}

/-- Every transaction of the CDB but the last ended in `BOT_FAIL_NOT_SENT`. -/
def NoReplay (trace : List ScsiEvent) : Prop := ∀ o ∈ (cdbOutcomes trace).tail, o = .notSent

instance (trace : List ScsiEvent) : Decidable (NoReplay trace) := by
  unfold NoReplay
  infer_instance

/-- A turn begun in `s` is answered 28h/00h by a CSW FAIL, and neither the look at the cancelled flag
    before the attempt nor the one after it finds the flag up. -/
def SwapAnswered (h : Host W) (call : CdbCall) (s : Sys W) : Prop :=
  let (reply, t) := attemptOf h call s
  let (sense, u) := senseOf h reply.outcome t
  (s.isCancelled h).1 = false ∧ reply.outcome = .failed usbBotStatusFail
    ∧ sense.isMediumMayHaveChanged = true ∧ (u.isCancelled h).1 = false

/-! ## One turn of a command that is not idempotent -/

/-- A command that is not idempotent goes round again in two ways: its CBW did not leave, or 28h/00h
    was taken as the end of a spin-up. -/
inductive UnsafeAgain (h : Host W) (call : CdbCall) (v : CdbVars) (s : Sys W) (v' : CdbVars)
    (u : Sys W) : Prop where
  | notSent (hsent : cdbOutcomes u.trace = .notSent :: cdbOutcomes s.trace)
      (hattempt : v'.attempt = v.attempt + 1) (hwait : v'.becomingReady = v.becomingReady)
      (hready : u.entry.notReady = s.entry.notReady)
  | swap (hsent : cdbOutcomes u.trace = .failed usbBotStatusFail :: cdbOutcomes s.trace)
      (hattempt : v'.attempt = v.attempt) (hwait : v'.becomingReady = none)
      (hup : v.becomingReady.isSome = true ∨ s.entry.notReady = true)
      (hready : u.entry.notReady = false)
      (hswap : (u.isCancelled h).1 = false → SwapAnswered h call s)

theorem AgainSpec.unsafeAgain (hspec : AgainSpec h call v s v' u) (hidem : call.idempotent = false) :
    UnsafeAgain h call v s v' u ∧ v.attempt ≤ laserMaxRetries ∧ (s.isCancelled h).1 = false := by
  cases hspec with
  | @mediumReady o sense v₁ t hfailed hchanged hup =>
      obtain ⟨hattempt, -, -, hle, hpoll⟩ := hfailed.vars
      have ho := hfailed.outcome_of_read (Sense.read_of_changed hchanged)
      refine ⟨.swap (ho ▸ hfailed.cdbOutcomes) hattempt rfl hup rfl fun hnext => ?_, hle, hpoll⟩
      obtain ⟨hanswer, hsense⟩ := hfailed.answer
      unfold SwapAnswered
      dsimp only
      rw [hanswer, hsense]
      exact ⟨hpoll, ho, hchanged, hnext⟩
  | free hfailed hready hsafe _ _ _ | late hfailed hready hsafe _ _ _ _ =>
      -- an idempotent command, or an answer without sense
      rcases hsafe with hsafe | rfl
      · rw [hidem] at hsafe
        cases hsafe
      · rw [hfailed.sense_of_notSent] at hready
        cases hready
  | retried hfailed _ _ hsafe hspent =>
      rcases hsafe with hsafe | rfl
      · rw [hidem] at hsafe
        cases hsafe
      · obtain ⟨hattempt, hwait, hready, hle, hpoll⟩ := hfailed.vars
        exact ⟨.notSent (hspent.cdbOutcomes.trans hfailed.cdbOutcomes)
          (congrArg (· + 1) hattempt) hwait (hspent.notReady.trans hready), hle, hpoll⟩

/-! ## The loop of such a command -/

/-- At the start of a turn: no becoming-ready wait, at most the seven values of `attempt`, one turn more
    than attempts if 28h/00h was absorbed, and an absorbed one is in the trace. -/
structure UnsafeLoop (entry : LaserEntry) (n : Nat) (v : CdbVars) (t : Sys W) : Prop where
  noWait : v.becomingReady = none
  attempt_pos : 1 ≤ v.attempt
  attempt_le : v.attempt ≤ laserMaxRetries + 1
  notReady : t.entry.notReady = true → entry.notReady = true
  turns : n + (if t.entry.notReady then 1 else 0) ≤ v.attempt
  absorbed : entry.notReady = true → t.entry.notReady = false →
    ∃ o ∈ cdbOutcomes t.trace, o ≠ .notSent

theorem InLoop.unsafeLoop {n : Nat} (hidem : call.idempotent = false)
    (hin : InLoop h call s n v t) : UnsafeLoop s.entry n v t := by
  refine hin.invariant (I := fun n v t => UnsafeLoop s.entry n v t) ?_ ?_
  · intro k v t v' u _ hI hspec
    obtain ⟨hagain, hle, -⟩ := hspec.unsafeAgain hidem
    have hturns := hI.turns
    cases hagain with
    | notSent hsent hattempt hwait hready =>
        refine ⟨hwait.trans hI.noWait, by omega, by omega, hready ▸ hI.notReady, ?_, ?_⟩
        · rw [hready]
          omega
        · rw [hready, hsent]
          intro hset hclear
          obtain ⟨o, ho, hne⟩ := hI.absorbed hset hclear
          exact ⟨o, List.mem_cons_of_mem _ ho, hne⟩
    | swap hsent hattempt hwait hup hready _ =>
        -- no wait is ever started for such a command, so it was `not_ready` that was up
        have hnotReady : t.entry.notReady = true := by
          rw [hI.noWait] at hup
          simpa using hup
        have hpos := hI.attempt_pos
        rw [if_pos hnotReady] at hturns
        refine ⟨hwait, by omega, by omega, fun hset => ?_, ?_, ?_⟩
        · rw [hready] at hset
          cases hset
        · rw [hready]
          simp only [Bool.false_eq_true, if_false]
          omega
        · intro _ _
          rw [hsent]
          exact ⟨_, List.mem_cons_self, by simp⟩
  · have hentry := precheck_entry h call s
    refine ⟨rfl, Nat.le_refl 1, by decide, fun hset => by rwa [hentry] at hset, ?_, ?_⟩
    · show 0 + _ ≤ 1
      split <;> omega
    · rw [hentry]
      intro hset hclear
      rw [hset] at hclear
      cases hclear

/-- The call returns: it cannot begin a ninth turn. -/
theorem returns_of_unsafe_call (hidem : call.idempotent = false) : ∃ r s', Returns h call s r s' := by
  rcases returns_or_inLoop h call s 8 with hret | ⟨v, t, hin⟩
  · exact hret
  · have hI := hin.unsafeLoop hidem
    have hturns := hI.turns
    have hle := hI.attempt_le
    simp only [laserMaxRetries] at hle
    omega

/-- What was sent before a turn that sends again is not the last thing sent. -/
theorem InLoop.sent_before {n : Nat} {r : CdbResult} (hin : InLoop h call s n v t)
    (hle : v.attempt ≤ laserMaxRetries) (hpoll : (t.isCancelled h).1 = false)
    (hret : Returns h call s r s') : ∀ o ∈ cdbOutcomes t.trace, o ∈ (cdbOutcomes s'.trace).tail := by
  intro o ho
  obtain ⟨pre, o', hall⟩ := hin.sends_more hle hpoll hret
  rw [hall]
  cases pre with
  | nil => exact ho
  | cons _ rest => exact List.mem_append_right rest (List.mem_cons_of_mem _ ho)

/-! ## The turn that goes wrong -/

/-- Its first half, and what follows the answer. -/
theorem SwapAnswered.swapAt (hswap : SwapAnswered h call s) : SwapAt h call s
    ∧ (((senseOf h (.failed usbBotStatusFail) (attemptOf h call s).2).2).isCancelled h).1 = false := by
  have hfail : (attemptOf h call s).1.outcome = .failed usbBotStatusFail := hswap.2.1
  unfold SwapAnswered at hswap
  simp only [hfail] at hswap
  obtain ⟨hpoll, -, hchanged, hnext⟩ := hswap
  exact ⟨⟨hpoll, hfail, hchanged⟩, hnext⟩

/-- With the readiness wait given up, that answer sends the CDB again. -/
theorem SwapAnswered.again (hswap : SwapAnswered h call s) (hle : v.attempt ≤ laserMaxRetries)
    (hup : s.entry.notReady = true) :
    ∃ v' u, cdbTurn h call (v, s) = .again (v', u) ∧ v'.attempt = v.attempt
      ∧ .failed usbBotStatusFail ∈ cdbOutcomes u.trace ∧ (u.isCancelled h).1 = false := by
  obtain ⟨hat, hnext⟩ := hswap.swapAt
  have hturn := hat.turn hle
  generalize cdbTurn h call (v, s) = turn at hturn
  cases hturn with
  | absorbed hfailed _ =>
      refine ⟨_, _, rfl, hfailed.vars.1, ?_, ?_⟩
      · show _ ∈ cdbOutcomes _
        exact hfailed.cdbOutcomes ▸ List.mem_cons_self
      · rw [hfailed.answer.2] at hnext
        exact hnext
  | reported _ _ hready =>
      rw [hup] at hready
      cases hready

/-! ## The exact condition -/

/-- Nothing but CBWs that did not leave, until 28h/00h is absorbed and the call then cancelled. -/
def CleanSoFar (h : Host W) (t : Sys W) : Prop :=
  (∀ o ∈ cdbOutcomes t.trace, o = .notSent)
    ∨ (NoReplay t.trace ∧ (t.isCancelled h).1 = true)

/-- The 28h/00h that is taken as the end of a spin-up, on an entry whose readiness wait gave up, with
    the token not cancelled on either side of it. -/
def SwapReplayed (h : Host W) (call : CdbCall) (s : Sys W) : Prop :=
  s.entry.notReady = true ∧ ∃ n v t, InLoop h call s n v t ∧ v.attempt ≤ laserMaxRetries
    ∧ SwapAnswered h call t

theorem InLoop.cleanSoFar {n : Nat} (hidem : call.idempotent = false) (hs : s.trace = [])
    (hno : ¬ SwapReplayed h call s) (hin : InLoop h call s n v t) : CleanSoFar h t := by
  refine hin.invariant (I := fun _ _ t => CleanSoFar h t) ?_ ?_
  · intro k v t v' u hin hI hspec
    obtain ⟨hagain, hle, hpoll⟩ := hspec.unsafeAgain hidem
    have hall : ∀ o ∈ cdbOutcomes t.trace, o = .notSent := by
      rcases hI with hall | ⟨-, hcancel⟩
      · exact hall
      · rw [hpoll] at hcancel
        cases hcancel
    cases hagain with
    | notSent hsent _ _ _ =>
        left
        rw [hsent]
        exact List.forall_mem_cons.mpr ⟨rfl, hall⟩
    | swap hsent _ _ hup _ hswap =>
        right
        refine ⟨by rw [NoReplay, hsent]; exact hall, ?_⟩
        refine Bool.of_not_eq_false fun hnext => hno ?_
        have hloop := hin.unsafeLoop hidem
        rw [hloop.noWait] at hup
        exact ⟨hloop.notReady (by simpa using hup), k, v, t, hin, hle, hswap hnext⟩
  · left
    rw [precheck_cdbOutcomes, hs]
    intro o ho
    cases ho

/-- **When a command that is not idempotent is not replayed.** It returns with the CDB sent again only
    after `BOT_FAIL_NOT_SENT`, unless the entry's readiness wait had given up, a transaction of the CDB
    was answered 28h/00h, and the call was not cancelled right after. -/
theorem scsiCdb_no_replay_iff (h : Host W) (call : CdbCall) (entry : LaserEntry) (w : W)
    (hrisky : laserCdbChangesCssState call.cdb = true ∨ (call.dataIn = false ∧ call.dataLen ≠ 0)) :
    (∃ r s', Returns h call ⟨entry, w, []⟩ r s' ∧ NoReplay s'.trace)
      ↔ ¬ SwapReplayed h call ⟨entry, w, []⟩ := by
  have hidem : call.idempotent = false := by
    rcases hrisky with hcss | ⟨hout, hlen⟩
    · simp [CdbCall.idempotent, hcss]
    · simp [CdbCall.idempotent, hout, hlen]
  constructor
  · rintro ⟨r, s', hret, hclean⟩ ⟨hset, n, v, t, hin, hle, hswap⟩
    by_cases hready : t.entry.notReady = true
    · obtain ⟨v', u, hb, hattempt, hsent, hnext⟩ := hswap.again hle hready
      have hcopy := (hin.next hb).sent_before (by omega) hnext hret _ hsent
      cases hclean _ hcopy
    · obtain ⟨o, ho, hne⟩ := (hin.unsafeLoop hidem).absorbed hset (eq_false_of_ne_true hready)
      exact hne (hclean o (hin.sent_before hle hswap.1 hret o ho))
  · intro hno
    obtain ⟨r, s', hret⟩ := returns_of_unsafe_call (h := h) (s := ⟨entry, w, []⟩) hidem
    refine ⟨r, s', hret, ?_⟩
    rcases hret.cases with ⟨st, -, -, rfl⟩ | ⟨n, v, t, v', u, hin, hdone, -, rfl⟩
    · rw [NoReplay, precheck_cdbOutcomes]
      intro o ho
      cases ho
    · rw [conclude_trace]
      rcases (cdbTurn_done hdone).cdbOutcomes with ⟨heq, -⟩ | ⟨⟨o, heq⟩, -, hpoll⟩
      · rw [NoReplay, heq]
        rcases hin.cleanSoFar hidem rfl hno with hall | ⟨hclean, -⟩
        · exact fun o ho => hall o (List.mem_of_mem_tail ho)
        · exact hclean
      · rw [NoReplay, heq]
        rcases hin.cleanSoFar hidem rfl hno with hall | ⟨-, hcancel⟩
        · exact hall
        · rw [hpoll] at hcancel
          cases hcancel

/-- Key 2 of the handshake, on a drive whose readiness wait succeeded: the disc swap ends
    it. -/
theorem scsiCdb_no_replay_ready :
    let entry : LaserEntry := { inUse := true, cssOpen := true }
    let script := Script.ofList [{ outcome := .failed 0x01 }, .sense 0x06 0x28 0x00]
    ∃ r s', Returns .scripted sendKey2 ⟨entry, script, []⟩ r s' ∧ NoReplay s'.trace :=
  (scsiCdb_no_replay_iff .scripted sendKey2 _ _ (.inl (by decide))).mpr fun hswap =>
    absurd hswap.1 (by decide)

/-- **A SEND KEY sent twice.** After a readiness wait that gave up, key 2 of the handshake ends in CSW
    FAIL with 06h/28h/00h, and goes out again. -/
theorem scsiCdb_replays_after_swap :
    let entry : LaserEntry := { inUse := true, cssOpen := true, notReady := true }
    let script := Script.ofList
      [{ outcome := .failed 0x01 }, .sense 0x06 0x28 0x00, { outcome := .pass }]
    ∃ r s', Returns .scripted sendKey2 ⟨entry, script, []⟩ r s'
      ∧ cdbOutcomes s'.trace = [.pass, .failed 0x01] ∧ ¬ NoReplay s'.trace :=
  ⟨_, _, ⟨2, rfl⟩, by decide, by decide⟩

end Liblaser
