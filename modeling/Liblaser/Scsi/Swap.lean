import Liblaser.Scsi.Ending
import Liblaser.Scsi.Tray

/-!
# `Scsi.Swap` — whether a disc swap reaches the caller

28h/00h means two things: the end of a spin-up, and a disc swapped. `laser_scsi_cdb()` tells them apart
by `becoming_ready` and the entry's `not_ready`. The second is raised by a readiness wait, and stays up
when the wait gives up; nothing but another wait, or a 28h/00h, lowers it again. In particular a READ
that returns `LASER_OK` does not.

`TokenRun` is a run of the operations on one registered token. `Follows` is what such a run does to
`not_ready`, and the invariant everything here rests on: **`TokenRun.follows`**.

**`swap_reported_iff`**: after a successful READ, with no readiness wait and no 02h/04h since, 28h/00h
ends the command with `LASER_ERR_MEDIA_GONE` exactly when `not_ready` was down when the READ returned,
or another 28h/00h has lowered it since.
-/

namespace Liblaser

open Loop

variable {W : Type} {h : Host W} {call : CdbCall} {v v' : CdbVars} {s s' t u : Sys W}

/-! ## Runs of operations on a token -/

/-- One operation on the token. `laser_token_settle()` is its poll and, when the poll fails, a wait;
    `elsewhere` is what other threads do to the entry without the drive: sessions, claims,
    cancellations. Only a wait and a command write `not_ready`. -/
inductive TokenStep (h : Host W) (s : Sys W) : Sys W → Prop where
  | scsiCdb {call : CdbCall} {r : CdbResult} {s' : Sys W} (hret : Returns h call s r s') :
      TokenStep h s s'
  | poll : TokenStep h s (s.isCancelled h).2
  | testUnitReady : TokenStep h s (testUnitReadyLocked h s).2
  | wait {fuel : Nat} {s' : Sys W} (hret : laserWaitUntilReady h fuel s = some s') : TokenStep h s s'
  | elsewhere {entry : LaserEntry} {w : W} (hkept : entry.notReady = s.entry.notReady) :
      TokenStep h s ⟨entry, w, s.trace⟩

/-- Any number of them, one after the other: each holds `io_lock`. -/
inductive TokenRun (h : Host W) (s : Sys W) : Sys W → Prop where
  | refl : TokenRun h s s
  | step {t u : Sys W} (hrun : TokenRun h s t) (hstep : TokenStep h t u) : TokenRun h s u

/-- `laser_token_settle()` is such a run. -/
theorem laserTokenSettle_run {fuel : Nat} (hret : laserTokenSettle h fuel s = some s') :
    TokenRun h s s' := by
  unfold laserTokenSettle at hret
  split at hret
  · cases hret
    exact .refl
  · have hpolled : TokenRun h s (s.isCancelled h).2 := .step .refl .poll
    dsimp only at hret
    split at hret
    · cases hret
      exact hpolled
    · have htested := hpolled.step .testUnitReady
      split at hret
      · cases hret
        exact htested
      · exact htested.step (.wait hret)

/-! ## What a run does to `not_ready` -/

/-- `t` is `s` and later, and unless a readiness wait has run, `not_ready` is what it was, or has been
    lowered by a 28h/00h. -/
def Follows (s t : Sys W) : Prop :=
  ∃ newer, t.trace = newer ++ s.trace ∧ (.waitBegun ∉ newer →
    (t.entry.notReady = true ↔ s.entry.notReady = true ∧ .changed ∉ spinUpAnswers newer))

theorem spinUpAnswers_append (newer older : List ScsiEvent) :
    spinUpAnswers (newer ++ older) = spinUpAnswers newer ++ spinUpAnswers older :=
  List.filterMap_append

theorem Follows.refl (s : Sys W) : Follows s s :=
  ⟨[], rfl, fun _ => by simp [spinUpAnswers]⟩

theorem Follows.trans (hst : Follows s t) (htu : Follows t u) : Follows s u := by
  obtain ⟨newer, heq, hready⟩ := hst
  obtain ⟨newer', heq', hready'⟩ := htu
  refine ⟨newer' ++ newer, by rw [heq', heq, List.append_assoc], ?_⟩
  intro hnowait
  simp only [List.mem_append, not_or] at hnowait
  rw [hready' hnowait.1, hready hnowait.2, spinUpAnswers_append, List.mem_append, not_or]
  grind

/-- What is later on the answers is later. -/
theorem Follows.of_answers {answers : List SpinUpAnswer} (hlater : s.trace <:+ t.trace)
    (hanswers : spinUpAnswers t.trace = answers ++ spinUpAnswers s.trace)
    (hready : t.entry.notReady = true ↔ s.entry.notReady = true ∧ .changed ∉ answers) :
    Follows s t := by
  obtain ⟨newer, heq⟩ := hlater
  refine ⟨newer, heq.symm, ?_⟩
  intro _
  rw [← heq, spinUpAnswers_append] at hanswers
  rw [List.append_cancel_right hanswers, hready]

/-- One quiet event, and `not_ready` as it was. -/
theorem Follows.quiet {e : ScsiEvent} (htrace : t.trace = e :: s.trace) (he : e.spinUp = none)
    (hready : t.entry.notReady = s.entry.notReady) : Follows s t := by
  refine @of_answers _ s t [] ⟨[e], htrace.symm⟩ ?_ (by simp [hready])
  rw [htrace, spinUpAnswers, List.filterMap_cons, he]
  rfl

/-! ## The steps of the loop -/

/-- The spin-up answer a turn gets, if any, and what it does to the two flags. -/
structure TurnAnswer (v : CdbVars) (s : Sys W) (v' : CdbVars) (u : Sys W)
    (answer : Option SpinUpAnswer) : Prop where
  answers : spinUpAnswers u.trace = answer.toList ++ spinUpAnswers s.trace
  notReady : u.entry.notReady = true ↔ s.entry.notReady = true ∧ answer ≠ some .changed
  wait : v'.becomingReady.isSome = true →
    v.becomingReady.isSome = true ∨ answer = some .becomingReady

theorem Option.not_mem_toList {answer : Option SpinUpAnswer} {a : SpinUpAnswer} :
    a ∉ answer.toList ↔ answer ≠ some a := by
  cases answer <;> simp [eq_comm]

theorem TurnAnswer.follows {answer : Option SpinUpAnswer} (hanswer : TurnAnswer v s v' u answer)
    (hlater : s.trace <:+ u.trace) : Follows s u := by
  apply Follows.of_answers hlater hanswer.answers
  rw [Option.not_mem_toList]
  exact hanswer.notReady

theorem AgainSpec.answer (hspec : AgainSpec h call v s v' u) :
    ∃ answer, TurnAnswer v s v' u answer := by
  cases hspec with
  | mediumReady hfailed hchanged _ =>
      have hanswers := hfailed.spinUpAnswers
      rw [spinUp_of_changed hchanged] at hanswers
      refine ⟨some .changed, hanswers, ?_, ?_⟩
      · simp [Sys.record, Sys.setNotReady]
      · intro hwait
        cases hwait
  | free hfailed hready _ hwait _ _ =>
      have hanswers := hwait.answers.trans hfailed.spinUpAnswers
      rw [spinUp_of_becomingReady hready] at hanswers
      refine ⟨some .becomingReady, hanswers, ?_, fun _ => .inr rfl⟩
      have hkept := hwait.notReady.trans hfailed.vars.2.2.1
      simp [Sys.record, Sys.usleep, hkept]
  | late hfailed hready _ hwait _ _ hspent =>
      have hanswers := hspent.answers.trans (hwait.answers.trans hfailed.spinUpAnswers)
      rw [spinUp_of_becomingReady hready] at hanswers
      refine ⟨some .becomingReady, hanswers, ?_, fun _ => .inr rfl⟩
      have hkept := hspent.notReady.trans (hwait.notReady.trans hfailed.vars.2.2.1)
      simp [hkept]
  | retried hfailed hchanged hready _ hspent =>
      have hanswers := hspent.answers.trans hfailed.spinUpAnswers
      rw [spinUp_of_neither hchanged hready] at hanswers
      obtain ⟨-, hwait, hkept, -, -⟩ := hfailed.vars
      refine ⟨none, hanswers, ?_, ?_⟩
      · simp [hspent.notReady.trans hkept]
      · intro hsome
        exact .inl (hwait ▸ hsome)

/-- A 28h/00h that ends the call found `not_ready` down. -/
theorem ClassifySpec.final_of_changed {idempotent spinningUp : Bool} {o : BotOutcome} {sense : Sense}
    {st : LaserStatus} (hclass : ClassifySpec idempotent spinningUp o sense (.final st))
    (hchanged : sense.isMediumMayHaveChanged = true) : spinningUp = false := by
  cases hclass with
  | mediumAbsent habsent =>
      rw [Sense.not_absent_of_changed hchanged] at habsent
      cases habsent
  | mediumChanged _ hup => exact hup
  | copyProtection hnot _ _ | refused hnot _ _ | unsafeToRetry hnot _ _ =>
      rw [hchanged] at hnot
      cases hnot

theorem Asked.follows {o : BotOutcome} (hasked : Asked h call v s o v' t) : Follows s t := by
  refine @Follows.of_answers _ s t [] hasked.suffix ?_ ?_
  · rw [hasked.trace]
    rfl
  · simp [hasked.notReady]

/-- The same, seen in another state with the same trace and `not_ready`. -/
theorem Follows.congr (hst : Follows s t) (htrace : u.trace = t.trace)
    (hready : u.entry.notReady = t.entry.notReady) : Follows s u := by
  unfold Follows
  rw [htrace, hready]
  exact hst

theorem sampleThroughputLocked_notReady (h : Host W) (n : Nat) (started : Timespec) (s : Sys W) :
    (sampleThroughputLocked h n started s).entry.notReady = s.entry.notReady := by
  unfold sampleThroughputLocked
  split <;> rfl

theorem conclude_notReady (v : CdbVars) (s : Sys W) :
    (conclude v s).2.entry.notReady = s.entry.notReady := by
  unfold conclude neverSentVerdict
  dsimp only
  split <;> rfl

theorem DoneSpec.follows (hspec : DoneSpec h call v s v' u) : Follows s u := by
  cases hspec with
  | exhausted _ => exact .refl s
  | cancelled _ _ => exact .quiet rfl rfl rfl
  | passed hasked =>
      exact hasked.follows.congr (sampleThroughputLocked_trace ..) (sampleThroughputLocked_notReady ..)
  | gone hasked => exact hasked.follows.congr rfl rfl
  | @final o sense _ _ _ hfailed hclass =>
      apply Follows.of_answers hfailed.suffix hfailed.spinUpAnswers
      rw [Option.not_mem_toList, hfailed.vars.2.2.1]
      by_cases hchanged : sense.isMediumMayHaveChanged = true
      · have hdown := hclass.final_of_changed hchanged
        simp only [Bool.or_eq_false_iff] at hdown
        simp [hdown.2]
      · have hnot : sense.spinUp ≠ some .changed := by
          simp only [Sense.spinUp, if_neg hchanged]
          split <;> simp
        simp [hnot]

/-! ## The operations -/

theorem precheck_follows (h : Host W) (call : CdbCall) (s : Sys W) :
    Follows s (precheck h call s).2 := by
  rcases precheck_spec h call s with heq | heq <;> rw [heq]
  · exact .refl s
  · exact .quiet rfl rfl rfl

/-- At the start of every turn of a command: what it did to `not_ready`, and that a becoming-ready wait
    is running only if the command was answered 02h/04h. -/
theorem InLoop.follows {n : Nat} (hin : InLoop h call s n v t) :
    Follows s t ∧ (v.becomingReady.isSome = true →
      ∃ newer, t.trace = newer ++ s.trace ∧ .becomingReady ∈ spinUpAnswers newer) := by
  refine hin.invariant (I := fun _ v t => Follows s t ∧ (v.becomingReady.isSome = true →
    ∃ newer, t.trace = newer ++ s.trace ∧ .becomingReady ∈ spinUpAnswers newer)) ?_ ?_
  · rintro k v t v' u - ⟨hst, hwait⟩ hspec
    obtain ⟨answer, hanswer⟩ := hspec.answer
    refine ⟨hst.trans (hanswer.follows hspec.suffix), ?_⟩
    intro hsome
    obtain ⟨step, hstep⟩ := hspec.suffix
    rcases hanswer.wait hsome with hbefore | rfl
    · -- the wait was running: its answer is older than this turn
      obtain ⟨newer, heq, hmem⟩ := hwait hbefore
      refine ⟨step ++ newer, by rw [← hstep, heq, List.append_assoc], ?_⟩
      rw [spinUpAnswers_append]
      exact List.mem_append_right _ hmem
    · obtain ⟨newer, heq, -⟩ := hst
      refine ⟨step ++ newer, by rw [← hstep, heq, List.append_assoc], ?_⟩
      have hanswers := hanswer.answers
      rw [← hstep, spinUpAnswers_append] at hanswers
      rw [spinUpAnswers_append, List.append_cancel_right hanswers]
      simp
  · refine ⟨precheck_follows h call s, ?_⟩
    intro hsome
    cases hsome

theorem Returns.follows {r : CdbResult} (hret : Returns h call s r s') : Follows s s' := by
  rcases hret.cases with ⟨st, -, -, rfl⟩ | ⟨n, v, t, v', u, hin, hdone, -, rfl⟩
  · exact precheck_follows h call s
  · have hrun := hin.follows.1.trans (cdbTurn_done hdone).follows
    exact hrun.congr (conclude_trace v' u) (conclude_notReady v' u)

/-- The ladder of START STOP UNIT comes after what was there. -/
theorem spinUpLocked_suffix (h : Host W) (s : Sys W) : s.trace <:+ (spinUpLocked h s).trace := by
  have hone : ∀ immed byte4 (s : Sys W), s.trace <:+ (startStopUnitLocked h immed byte4 s).2.trace := by
    intro immed byte4 s
    obtain ⟨o, s₁, htrace, -, hsense⟩ := startStopUnitLocked_spec h immed byte4 s
    have hfirst : s.trace <:+ s₁.trace := htrace ▸ List.suffix_cons _ _
    exact hfirst.trans hsense.suffix
  obtain ⟨newer, heq, -⟩ := (startRungs_spec h s).1
  have hrungs : s.trace <:+ (startRungs h s).2.trace := ⟨newer, heq.symm⟩
  unfold spinUpLocked
  dsimp only
  split
  · exact hrungs
  split
  · exact hrungs
  split
  · exact hrungs
  split
  · exact hrungs.trans (hone ..)
  · exact hrungs.trans (hone ..)

/-- A readiness wait says that it began. -/
theorem wait_follows {fuel : Nat} (hret : laserWaitUntilReady h fuel s = some s') : Follows s s' := by
  obtain ⟨newer, heq, -⟩ := DuringWait.quiet (.inr ⟨fuel, hret⟩)
  obtain ⟨ladder, hladder⟩ := spinUpLocked_suffix h ((s.record .waitBegun).clockGettime h).2
  have hbegin : (waitBegin h s).2.2.trace = ladder ++ .waitBegun :: s.trace := hladder.symm
  refine ⟨newer ++ ladder ++ [.waitBegun], by simp [heq, hbegin], ?_⟩
  intro hnowait
  exact absurd (by simp) hnowait

theorem TokenStep.follows (hstep : TokenStep h s t) : Follows s t := by
  cases hstep with
  | scsiCdb hret => exact hret.follows
  | poll => exact .quiet rfl rfl rfl
  | testUnitReady =>
      obtain ⟨o, bot, w, heq⟩ := testUnitReadyLocked_eq h s
      rw [heq]
      exact .quiet rfl rfl rfl
  | wait hret => exact wait_follows hret
  | elsewhere hkept => exact (Follows.refl s).congr rfl hkept

/-- **The invariant of a run.** Without a readiness wait, `not_ready` is up after a run when it was up
    before it and no 28h/00h came. -/
theorem TokenRun.follows (hrun : TokenRun h s t) : Follows s t := by
  induction hrun with
  | refl => exact .refl s
  | step _ hstep ih => exact ih.trans hstep.follows

/-! ## The exact condition -/

/-- READ(10) or READ CD. -/
def CdbCall.isRead (call : CdbCall) : Bool := call.cdb.getD 0 0 == 0x28 || call.cdb.getD 0 0 == 0xBE

/-- A successful READ, a run of operations, and a command one of whose transactions is answered 28h/00h;
    `since` is what was said from the return of the READ to that transaction, no readiness wait and no
    02h/04h in it. -/
structure SwapSinceRead (h : Host W) (read call : CdbCall) (s₁ s₂ s₃ : Sys W) (n : Nat) (v : CdbVars)
    (t : Sys W) (since : List ScsiEvent) : Prop where
  isRead : read.isRead = true
  readOk : ∃ r, Returns h read s₁ r s₂ ∧ r.status = .ok
  run : TokenRun h s₂ s₃
  turn : InLoop h call s₃ n v t
  attempt_le : v.attempt ≤ laserMaxRetries
  swap : SwapAt h call t
  since_eq : t.trace = since ++ s₂.trace
  noWait : .waitBegun ∉ since
  noBecomingReady : .becomingReady ∉ spinUpAnswers since

/-- The call begun in `s` ends with `LASER_ERR_MEDIA_GONE` on the transaction of the turn that begins in
    `t`: its CDB is not sent again. -/
def EndsMediaGone (h : Host W) (call : CdbCall) (s t : Sys W) : Prop :=
  ∃ r s', Returns h call s r s' ∧ r.status = .errMediaGone
    ∧ cdbOutcomes s'.trace = .failed usbBotStatusFail :: cdbOutcomes t.trace

/-- With both flags down, 28h/00h ends the call. -/
theorem SwapAt.endsMediaGone {n : Nat} (hswap : SwapAt h call t) (hin : InLoop h call s n v t)
    (hle : v.attempt ≤ laserMaxRetries) (hwait : v.becomingReady = none)
    (hready : t.entry.notReady = false) : EndsMediaGone h call s t := by
  have hturn := @SwapAt.turn _ _ _ v _ hswap hle
  generalize hb : cdbTurn h call (v, t) = turn at hturn
  cases hturn with
  | absorbed _ hup => simp [hwait, hready] at hup
  | @reported sense v' u hfailed _ _ =>
      refine ⟨_, _, hin.returns hb, ?_, ?_⟩
      · -- an attempt whose CBW left is not overruled by the verdict on those that did not
        obtain ⟨hmade, hsent⟩ := hfailed.counts
        have hlt := hin.neverSent_lt
        simp only [reduceCtorEq, if_false] at hsent
        simp only [conclude, neverSentVerdict]
        rw [if_neg (by omega)]
        rfl
      · rw [conclude_trace]
        exact hfailed.cdbOutcomes

/-- With one of them up it does not: the CDB is sent again, or the call is cancelled. -/
theorem SwapAt.not_endsMediaGone {n : Nat} (hswap : SwapAt h call t) (hin : InLoop h call s n v t)
    (hle : v.attempt ≤ laserMaxRetries) (hready : t.entry.notReady = true) :
    ¬ EndsMediaGone h call s t := by
  rintro ⟨r, s', hret, hgone, hlast⟩
  have hturn := @SwapAt.turn _ _ _ v _ hswap hle
  generalize hb : cdbTurn h call (v, t) = turn at hturn
  cases hturn with
  | reported _ _ hdown =>
      rw [hready] at hdown
      cases hdown
  | @absorbed sense v' u hfailed _ =>
      have hnext := hin.next hb
      have hle' : ({ v' with becomingReady := none } : CdbVars).attempt ≤ laserMaxRetries := by
        simpa [hfailed.vars.1] using hle
      generalize hu : (u.setNotReady false).record (.retried .mediumReady) = u' at hnext
      have hsent : cdbOutcomes u'.trace = .failed usbBotStatusFail :: cdbOutcomes t.trace := by
        rw [← hu, ← hfailed.cdbOutcomes]
        rfl
      -- the next turn is cancelled, or it sends the CDB a second time
      by_cases hpoll : (u'.isCancelled h).1 = true
      · have hdone := @cdbTurn_of_cancelled _ h call _ u' hle' hpoll
        obtain ⟨rfl, -⟩ := hret.unique (hnext.returns hdone)
        simp only [conclude, neverSentVerdict, ne_eq, not_true_eq_false, false_and, and_false,
          if_false] at hgone
        cases hgone
      · obtain ⟨pre, o, hmore⟩ := hnext.sends_more hle' (eq_false_of_ne_true hpoll) hret
        have hlength := congrArg List.length hlast
        rw [hmore, hsent] at hlength
        simp at hlength
        omega

/-- **When a disc swap is reported.** After a READ that returned `LASER_OK`, with no readiness wait and
    no 02h/04h since, a transaction answered 28h/00h ends its call with `LASER_ERR_MEDIA_GONE`, the CDB
    not sent again, exactly when `not_ready` was down when the READ returned, or another 28h/00h has
    come since. -/
theorem swap_reported_iff {read : CdbCall} {s₁ s₂ s₃ : Sys W} {n : Nat} {since : List ScsiEvent}
    (hswap : SwapSinceRead h read call s₁ s₂ s₃ n v t since) :
    EndsMediaGone h call s₃ t
      ↔ s₂.entry.notReady = false ∨ .changed ∈ spinUpAnswers since := by
  obtain ⟨-, -, hrun, hin, hle, hat, hsince, hnowait, hnobusy⟩ := hswap
  obtain ⟨⟨newer, heq, hready⟩, hbusy⟩ := hin.follows
  -- the call is part of the run, and so of what was said since the READ
  obtain ⟨all, hall, hflag⟩ := hrun.follows.trans hin.follows.1
  have hsame : all = since := List.append_cancel_right (hall.symm.trans hsince)
  subst hsame
  have hflag := hflag hnowait
  -- a wait of this call would have been started by a 02h/04h since the READ
  have hwait : v.becomingReady = none := by
    apply Option.not_isSome_iff_eq_none.mp
    intro hsome
    obtain ⟨answers, hanswers, hmem⟩ := hbusy hsome
    obtain ⟨before, hbefore, -⟩ := hrun.follows
    have hparts : (answers ++ before) ++ s₂.trace = all ++ s₂.trace := by
      rw [List.append_assoc, ← hbefore, ← hanswers, hall]
    apply hnobusy
    rw [← List.append_cancel_right hparts, spinUpAnswers_append]
    exact List.mem_append_left _ hmem
  by_cases hup : t.entry.notReady = true
  · have hgone := hat.not_endsMediaGone hin hle hup
    simp [hgone, (hflag.mp hup).1, (hflag.mp hup).2]
  · have hgone := hat.endsMediaGone hin hle hwait (eq_false_of_ne_true hup)
    simp only [hgone, true_iff]
    rw [hflag] at hup
    by_cases hset : s₂.entry.notReady = true
    · right
      simpa [hset] using hup
    · left
      exact eq_false_of_ne_true hset

/-- A ready drive: the READ after the swap is refused at once. -/
theorem swap_reported_ready :
    let s₁ : Sys Script := ⟨{ inUse := true }, Script.ofList
      [{ outcome := .pass }, { outcome := .failed 0x01 }, .sense 0x06 0x28 0x00], []⟩
    ∃ s₂ t, EndsMediaGone .scripted readBlock16 s₂ t
      ∧ Returns .scripted readBlock16 s₁ ⟨.ok, none, []⟩ s₂ := by
  intro s₁
  have hswap : SwapSinceRead .scripted readBlock16 readBlock16 s₁ _ _ 0 _ _ [.polled false] :=
    ⟨by decide, ⟨⟨.ok, none, []⟩, ⟨1, rfl⟩, rfl⟩, .refl, ⟨rfl, .start⟩, by decide,
      ⟨rfl, rfl, rfl⟩, rfl, by decide, by decide⟩
  exact ⟨_, _, (swap_reported_iff hswap).mpr (.inl rfl), ⟨1, rfl⟩⟩

/-- **A disc swap nobody hears of.** The readiness wait gave up on an open tray; a READ passes, and the
    next one is answered 06h/28h/00h: it is sent again, and returns `LASER_OK`. -/
theorem swap_absorbed_after_read :
    let s₀ : Sys Script := ⟨{ inUse := true }, Script.ofList
      [{ outcome := .pass }, { outcome := .failed 0x01 }, .sense 0x02 0x3a 0x02, { outcome := .pass },
        { outcome := .pass },
        { outcome := .failed 0x01 }, .sense 0x06 0x28 0x00, { outcome := .pass }], []⟩
    ∃ s₁ s₂ s₄ v t since, laserWaitUntilReady .scripted 1 s₀ = some s₁
      ∧ SwapSinceRead .scripted readBlock16 readBlock16 s₁ s₂ s₂ 0 v t since
      ∧ Returns .scripted readBlock16 s₂ ⟨.ok, none, []⟩ s₄
      ∧ cdbOutcomes s₄.trace = .pass :: .failed 0x01 :: cdbOutcomes t.trace
      ∧ ¬ EndsMediaGone .scripted readBlock16 s₂ t := by
  refine ⟨_, _, _, _, _, [.polled false], rfl, ⟨?_, ⟨⟨.ok, none, []⟩, ⟨1, rfl⟩, rfl⟩, .refl,
    ⟨rfl, .start⟩, ?_, ⟨rfl, rfl, rfl⟩, rfl, ?_, ?_⟩, ⟨2, rfl⟩, rfl, ?_⟩
  case refine_5 =>
    rintro ⟨r, s', hret, hgone, -⟩
    obtain ⟨rfl, -⟩ := hret.unique ⟨2, rfl⟩
    cases hgone
  all_goals decide

end Liblaser
