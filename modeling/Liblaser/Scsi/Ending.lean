import Liblaser.Scsi.CdbSpec

/-!
# `Scsi.Ending` — when the retry loop ends

Two branches of the loop give their attempt back: the free rounds of a becoming-ready wait, which a
clock bounds, and the free retry after 28h/00h, which clears the flags that allow it. Each is bounded
alone. Together they are not: 28h/00h clears the flag whose rise starts the wait's clock, and the next
02h/04h raises it again. A drive that alternates the two keeps the loop turning for ever
(`scsiCdb_never_returns`).

**`scsiCdb_bounded_iff`** is that nothing else does: a call keeps to its budget exactly when its answers
hold no such back and forth.
-/

namespace Liblaser

open Loop

variable {W : Type} {h : Host W} {call : CdbCall} {v v' : CdbVars} {s s' t u : Sys W}
  {o : BotOutcome} {sense : Sense} {now : W → Int}

/-! ## What a trace says of the retries -/

def ScsiEvent.retry : ScsiEvent → Option Retry
  | .retried why => some why
  | _ => none

/-- The retries, newest first. -/
def retries (trace : List ScsiEvent) : List Retry := trace.filterMap ScsiEvent.retry

/-- The attempts spent, the 28h/00h absorbed, the becoming-ready waits started and their free
    rounds. -/
structure Tally where
  counted : Nat
  swaps : Nat
  starts : Nat
  rounds : Nat
deriving DecidableEq, Repr

def tally : List Retry → Tally
  | [] => ⟨0, 0, 0, 0⟩
  | .counted :: rs => { tally rs with counted := (tally rs).counted + 1 }
  | .mediumReady :: rs => { tally rs with swaps := (tally rs).swaps + 1 }
  | .waitStarted :: rs => { tally rs with starts := (tally rs).starts + 1 }
  | .becomingReady _ :: rs => { tally rs with rounds := (tally rs).rounds + 1 }

theorem Failed.retries (hfailed : Failed h call v s o sense v' t) :
    retries t.trace = retries s.trace := by
  obtain ⟨_, _, hasked, -, hsense, -⟩ := hfailed.asked
  have hfirst := congrArg Liblaser.retries hasked.trace
  cases hsense <;> exact hfirst

/-! ## One round, on what the trace says -/

/-- The wait's clock starts now, if it was not running. -/
def startOf (v : CdbVars) : List Retry := if v.becomingReady.isSome then [] else [.waitStarted]

/-- How a turn goes round again, on the answers and the retries: after 28h/00h, after 02h/04h (free
    until the wait's clock runs out), or after anything else. -/
inductive RoundSpec (now : W → Int) (v : CdbVars) (s : Sys W) (v' : CdbVars) (u : Sys W) : Prop where
  | swap (hanswers : spinUpAnswers u.trace = .changed :: spinUpAnswers s.trace)
      (hretries : retries u.trace = .mediumReady :: retries s.trace)
      (hattempt : v'.attempt = v.attempt) (hwait : v'.becomingReady = none)
      (hup : v.becomingReady.isSome = true ∨ s.entry.notReady = true)
      (hready : u.entry.notReady = false)
  | free {since read : Timespec}
      (hanswers : spinUpAnswers u.trace = .becomingReady :: spinUpAnswers s.trace)
      (hretries : retries u.trace
        = .becomingReady (read.msSince since) :: (startOf v ++ retries s.trace))
      (hattempt : v'.attempt = v.attempt) (hwait : v'.becomingReady = some since)
      (hready : u.entry.notReady = s.entry.notReady)
      (hsince : v.becomingReady = some since ∨ (v.becomingReady = none ∧ since.ns ≤ read.ns))
      (hread : now s.world ≤ read.ns) (hin : read.msSince since < laserBecomingReadyMaxWallMs)
      (hnow : read.ns + laserRetryDelayMs * 1000000 ≤ now u.world)
  | late {since : Timespec}
      (hanswers : spinUpAnswers u.trace = .becomingReady :: spinUpAnswers s.trace)
      (hretries : retries u.trace = .counted :: (startOf v ++ retries s.trace))
      (hattempt : v'.attempt = v.attempt + 1) (hwait : v'.becomingReady = some since)
      (hready : u.entry.notReady = s.entry.notReady)
      (hsince : v.becomingReady = some since ∨ (v.becomingReady = none ∧ since.ns ≤ now u.world))
      (hnow : now s.world ≤ now u.world)
  | other (hanswers : spinUpAnswers u.trace = spinUpAnswers s.trace)
      (hretries : retries u.trace = .counted :: retries s.trace)
      (hattempt : v'.attempt = v.attempt + 1) (hwait : v'.becomingReady = v.becomingReady)
      (hready : u.entry.notReady = s.entry.notReady) (hnow : now s.world ≤ now u.world)

theorem Spent.facts (hclock : h.Clock now) (hspent : Spent h t u) :
    spinUpAnswers u.trace = spinUpAnswers t.trace ∧ retries u.trace = .counted :: retries t.trace
      ∧ u.entry.notReady = t.entry.notReady ∧ now t.world ≤ now u.world := by
  refine ⟨hspent.answers, ?_, hspent.notReady, ?_⟩
  · rcases hspent with rfl | rfl <;> rfl
  rcases hspent with rfl | rfl
  · exact Int.le_refl _
  · have hsleep := hclock.usleep (laserRetryDelayMs * 1000) t.world
    exact Int.le_trans (by omega) hsleep

theorem WaitSpec.facts {since : Timespec} (hclock : h.Clock now) (hspec : WaitSpec h v s since t) :
    spinUpAnswers t.trace = spinUpAnswers s.trace ∧ retries t.trace = startOf v ++ retries s.trace
      ∧ t.entry.notReady = s.entry.notReady ∧ now s.world ≤ now t.world
      ∧ (v.becomingReady = some since ∨ (v.becomingReady = none ∧ since.ns ≤ now t.world)) := by
  cases hspec with
  | started hnone hread =>
      have hge := hclock.read_ge s.world
      have hle := hclock.read_le s.world
      rw [hread] at hge hle
      have hstart : startOf v = [.waitStarted] := by rw [startOf, hnone]; rfl
      exact ⟨rfl, by rw [hstart]; rfl, rfl, Int.le_trans hge hle, .inr ⟨hnone, hle⟩⟩
  | running hsome =>
      have hstart : startOf v = [] := by rw [startOf, hsome]; rfl
      exact ⟨rfl, by rw [hstart]; rfl, rfl, Int.le_refl _, .inl hsome⟩

theorem AgainSpec.round (hclock : h.Clock now) (hspec : AgainSpec h call v s v' u) :
    RoundSpec now v s v' u := by
  cases hspec with
  | mediumReady hfailed hchanged hup =>
      have hanswers := hfailed.spinUpAnswers
      rw [spinUp_of_changed hchanged] at hanswers
      exact .swap hanswers (congrArg (_ :: ·) hfailed.retries) hfailed.vars.1 rfl hup rfl
  | @free o sense v₁ t t₁ since read w hfailed hready _ hwait hread hin =>
      obtain ⟨hattempt, hkept, hnotReady, -, -⟩ := hfailed.vars
      obtain ⟨hwanswers, hwretries, hwready, hwnow, hsince⟩ := hwait.facts hclock
      have hanswers := hwanswers.trans hfailed.spinUpAnswers
      rw [spinUp_of_becomingReady hready] at hanswers
      -- the clock of the wait is read after the answer and before the delay
      have hge := hclock.read_ge t₁.world
      have hle := hclock.read_le t₁.world
      have hsleep := hclock.usleep (laserRetryDelayMs * 1000) w
      rw [hread] at hge hle
      dsimp only at hge hle
      have hfirst := hfailed.now now hclock
      rw [startOf, hkept, ← startOf, hfailed.retries] at hwretries
      rw [hkept] at hsince
      refine .free hanswers (congrArg (_ :: ·) hwretries) hattempt rfl (hwready.trans hnotReady)
        (hsince.imp id fun hs => ⟨hs.1, by omega⟩) (by omega) hin ?_
      show _ ≤ now (h.usleep _ w)
      omega
  | @late o sense v₁ t t₁ u since read w hfailed hready _ hwait hread _ hspent =>
      obtain ⟨hattempt, hkept, hnotReady, -, -⟩ := hfailed.vars
      obtain ⟨hwanswers, hwretries, hwready, hwnow, hsince⟩ := hwait.facts hclock
      obtain ⟨hsanswers, hsretries, hsready, hsnow⟩ := hspent.facts hclock
      have hanswers := hsanswers.trans (hwanswers.trans hfailed.spinUpAnswers)
      rw [spinUp_of_becomingReady hready] at hanswers
      have hge := hclock.read_ge t₁.world
      have hle := hclock.read_le t₁.world
      rw [hread] at hge hle
      dsimp only at hge hle hsnow
      have hfirst := hfailed.now now hclock
      rw [startOf, hkept, ← startOf, hfailed.retries] at hwretries
      rw [hkept] at hsince
      refine .late hanswers (hsretries.trans (congrArg (_ :: ·) hwretries))
        (congrArg (· + 1) hattempt) rfl (hsready.trans (hwready.trans hnotReady))
        (hsince.imp id fun hs => ⟨hs.1, by omega⟩) (by omega)
  | retried hfailed hchanged hready _ hspent =>
      obtain ⟨hattempt, hkept, hnotReady, -, -⟩ := hfailed.vars
      obtain ⟨hsanswers, hsretries, hsready, hsnow⟩ := hspent.facts hclock
      have hanswers := hsanswers.trans hfailed.spinUpAnswers
      rw [spinUp_of_neither hchanged hready] at hanswers
      refine .other hanswers (hsretries.trans (congrArg (_ :: ·) hfailed.retries))
        (congrArg (· + 1) hattempt) hkept (hsready.trans hnotReady) ?_
      exact Int.le_trans (hfailed.now now hclock) hsnow

/-! ## The invariants of the loop -/

theorem startOf_some {since : Timespec} (hsome : v.becomingReady = some since) : startOf v = [] := by
  rw [startOf, hsome]
  rfl

theorem startOf_none (hnone : v.becomingReady = none) : startOf v = [.waitStarted] := by
  rw [startOf, hnone]
  rfl

/-- The loop's flags are the machine's, and so are the numbers of starts and swaps. -/
structure LoopFlags (given : Bool) (v : CdbVars) (t : Sys W) : Prop where
  becomingReady :
    (flagsAfter given (spinUpAnswers t.trace)).becomingReady = v.becomingReady.isSome
  notReady : (flagsAfter given (spinUpAnswers t.trace)).notReady = t.entry.notReady
  starts : (tally (retries t.trace)).starts = (flagsAfter given (spinUpAnswers t.trace)).starts
  swaps : (tally (retries t.trace)).swaps = (flagsAfter given (spinUpAnswers t.trace)).swaps
  absorbed : Absorbed given (spinUpAnswers t.trace)

/-- Every turn made has sent the CDB once, and is an attempt spent or one given back. -/
structure LoopTally (n : Nat) (v : CdbVars) (t : Sys W) : Prop where
  attempt : v.attempt = (tally (retries t.trace)).counted + 1
  turns : n = (tally (retries t.trace)).counted + (tally (retries t.trace)).swaps
    + (tally (retries t.trace)).rounds
  sends : (cdbOutcomes t.trace).length = n

/-- While there has been one wait at most, its clock bounds its free rounds. -/
structure LoopClock (now : W → Int) (v : CdbVars) (t : Sys W) : Prop where
  wall : ∀ ms, .becomingReady ms ∈ retries t.trace → ms < laserBecomingReadyMaxWallMs
  unstarted : (tally (retries t.trace)).starts = 0 →
    v.becomingReady = none ∧ (tally (retries t.trace)).rounds = 0
  rounds : (tally (retries t.trace)).starts ≤ 1 → (tally (retries t.trace)).rounds ≤ 60
  elapsed : (tally (retries t.trace)).starts ≤ 1 → ∀ since, v.becomingReady = some since →
    since.ns + (tally (retries t.trace)).rounds * 500000000 ≤ now t.world

theorem RoundSpec.loopFlags {given : Bool} (hspec : RoundSpec now v s v' u)
    (hI : LoopFlags given v s) : LoopFlags given v' u := by
  obtain ⟨hready, hnotReady, hstarts, hswaps, habsorbed⟩ := hI
  cases hspec with
  | swap hanswers hretries _ hwait hup hlowered =>
      constructor
      case absorbed =>
        rw [hanswers]
        exact ⟨by rwa [hready, hnotReady], habsorbed⟩
      all_goals
        simp only [hanswers, hretries, flagsAfter, SpinUpFlags.step, tally, hwait, hlowered,
          hstarts, hswaps, Option.isSome_none]
  | free hanswers hretries _ hwait hkept hsince _ _ _ | late hanswers hretries _ hwait hkept hsince _ =>
      constructor
      case absorbed =>
        rw [hanswers]
        exact habsorbed
      case starts =>
        simp only [hanswers, hretries, flagsAfter, SpinUpFlags.step, tally, hready]
        rcases hsince with hsome | ⟨hnone, -⟩
        · simp [startOf_some hsome, hsome, hstarts]
        · simp [startOf_none hnone, hnone, tally, hstarts]
      case swaps =>
        simp only [hanswers, hretries, flagsAfter, SpinUpFlags.step, tally]
        rcases hsince with hsome | ⟨hnone, -⟩
        · simp [startOf_some hsome, hswaps]
        · simp [startOf_none hnone, tally, hswaps]
      all_goals
        simp only [hanswers, flagsAfter, SpinUpFlags.step, hwait, hkept, hnotReady,
          Option.isSome_some]
  | other hanswers hretries _ hwait hkept _ =>
      constructor <;> simp only [hanswers, hretries, tally, hwait, hkept] <;> assumption

theorem RoundSpec.loopTally {n : Nat} (hspec : RoundSpec now v s v' u)
    (hsent : ∃ o, cdbOutcomes u.trace = o :: cdbOutcomes s.trace) (hI : LoopTally n v s) :
    LoopTally (n + 1) v' u := by
  obtain ⟨hattempt, hturns, hsends⟩ := hI
  obtain ⟨o, hsent⟩ := hsent
  have hsends' : (cdbOutcomes u.trace).length = n + 1 := by rw [hsent, List.length_cons, hsends]
  -- starting the wait's clock changes none of the three counts
  have hstart : ∀ {rs : List Retry}, (tally (startOf v ++ rs)).counted = (tally rs).counted
      ∧ (tally (startOf v ++ rs)).swaps = (tally rs).swaps
      ∧ (tally (startOf v ++ rs)).rounds = (tally rs).rounds := by
    intro rs
    unfold startOf
    split <;> exact ⟨rfl, rfl, rfl⟩
  obtain ⟨hcounted, hswaps, hrounds⟩ := @hstart (retries s.trace)
  cases hspec with
  | swap _ hretries hkept _ _ _ =>
      refine ⟨?_, ?_, hsends'⟩ <;> simp only [hretries, tally] <;> omega
  | free _ hretries hkept _ _ _ _ _ _ =>
      refine ⟨?_, ?_, hsends'⟩ <;> simp only [hretries, tally] <;> omega
  | late _ hretries hspent _ _ _ _ =>
      refine ⟨?_, ?_, hsends'⟩ <;> simp only [hretries, tally] <;> omega
  | other _ hretries hspent _ _ _ =>
      refine ⟨?_, ?_, hsends'⟩ <;> simp only [hretries, tally] <;> omega

theorem mem_retries_of_startOf {ms : Int} {rs : List Retry}
    (hms : .becomingReady ms ∈ startOf v ++ rs) : .becomingReady ms ∈ rs := by
  unfold startOf at hms
  split at hms <;> simpa using hms

/-- Every free round was made within the clock of its wait. -/
theorem RoundSpec.wall (hspec : RoundSpec now v s v' u)
    (hwall : ∀ ms, .becomingReady ms ∈ retries s.trace → ms < laserBecomingReadyMaxWallMs) :
    ∀ ms, .becomingReady ms ∈ retries u.trace → ms < laserBecomingReadyMaxWallMs := by
  intro ms hms
  cases hspec with
  | swap _ hretries _ _ _ _ =>
      rw [hretries] at hms
      exact hwall ms (by simpa using hms)
  | free _ hretries _ _ _ _ _ hin _ =>
      rw [hretries] at hms
      rcases List.mem_cons.mp hms with heq | hms
      · injection heq with heq
        exact heq ▸ hin
      · exact hwall ms (mem_retries_of_startOf hms)
  | late _ hretries _ _ _ _ _ =>
      rw [hretries] at hms
      exact hwall ms (mem_retries_of_startOf (by simpa using hms))
  | other _ hretries _ _ _ _ =>
      rw [hretries] at hms
      exact hwall ms (by simpa using hms)

/-- A wait that runs has been started. -/
theorem LoopClock.started {since : Timespec} (hI : LoopClock now v s)
    (hsome : v.becomingReady = some since) : (tally (retries s.trace)).starts ≠ 0 := by
  intro hzero
  have hstopped := (hI.unstarted hzero).1
  rw [hsome] at hstopped
  cases hstopped

/-- While the clock of the only wait has not run out, its rounds, of half a second each, are fewer than
    sixty. -/
theorem LoopClock.rounds_lt {since read : Timespec} (hI : LoopClock now v s)
    (hsome : v.becomingReady = some since) (hone : (tally (retries s.trace)).starts ≤ 1)
    (hread : now s.world ≤ read.ns) (hin : read.msSince since < laserBecomingReadyMaxWallMs) :
    (tally (retries s.trace)).rounds < 60 := by
  have hspan := hI.elapsed hone since hsome
  have hms : ((tally (retries s.trace)).rounds * 500 : Int) ≤ read.msSince since :=
    Timespec.le_msSince (by omega)
  simp only [laserBecomingReadyMaxWallMs] at hin
  omega

theorem RoundSpec.loopClock (hspec : RoundSpec now v s v' u) (hI : LoopClock now v s) :
    LoopClock now v' u := by
  have hwall := hspec.wall hI.wall
  have helapsed := hI.elapsed
  cases hspec with
  | swap _ hretries _ hwait _ _ =>
      refine ⟨hwall, ?_, ?_, ?_⟩ <;> simp only [hretries, tally, hwait]
      · exact fun hzero => ⟨trivial, (hI.unstarted hzero).2⟩
      · exact hI.rounds
      · intro _ since hsome
        cases hsome
  | @free since read _ hretries _ hwait _ hsince hread hin hnow =>
      simp only [laserRetryDelayMs] at hnow
      rcases hsince with hsome | ⟨hnone, hsince⟩
      · -- the wait runs on
        refine ⟨hwall, ?_, ?_, ?_⟩ <;>
          simp only [hretries, tally, startOf_some hsome, List.nil_append, hwait, Option.some.injEq]
        · intro hzero
          exact absurd hzero (hI.started hsome)
        · exact fun hone => hI.rounds_lt hsome hone hread hin
        · rintro hone _ rfl
          have hspan := helapsed hone since hsome
          omega
      · -- the wait starts: with no wait before it, no round was made
        refine ⟨hwall, ?_, ?_, ?_⟩ <;>
          simp only [hretries, tally, startOf_none hnone, List.singleton_append, hwait,
            Option.some.injEq]
        · intro hzero
          cases hzero
        · intro hone
          have hnew := (hI.unstarted (by omega)).2
          omega
        · rintro hone _ rfl
          have hnew := (hI.unstarted (by omega)).2
          omega
  | @late since _ hretries _ hwait _ hsince hnow =>
      rcases hsince with hsome | ⟨hnone, hsince⟩
      · refine ⟨hwall, ?_, ?_, ?_⟩ <;>
          simp only [hretries, tally, startOf_some hsome, List.nil_append, hwait, Option.some.injEq]
        · intro hzero
          exact absurd hzero (hI.started hsome)
        · exact hI.rounds
        · rintro hone _ rfl
          have hspan := helapsed hone since hsome
          omega
      · refine ⟨hwall, ?_, ?_, ?_⟩ <;>
          simp only [hretries, tally, startOf_none hnone, List.singleton_append, hwait,
            Option.some.injEq]
        · intro hzero
          cases hzero
        · exact fun hone => hI.rounds (by omega)
        · rintro hone _ rfl
          have hnew := (hI.unstarted (by omega)).2
          omega
  | other _ hretries _ hwait _ hnow =>
      refine ⟨hwall, ?_, ?_, ?_⟩ <;> simp only [hretries, tally, hwait]
      · exact hI.unstarted
      · exact hI.rounds
      · intro hone since hsome
        have hspan := helapsed hone since hsome
        omega

/-- Nothing is sent before the loop. -/
theorem precheck_silent (hs : s.trace = []) : spinUpAnswers (precheck h call s).2.trace = []
    ∧ retries (precheck h call s).2.trace = [] ∧ cdbOutcomes (precheck h call s).2.trace = [] := by
  rcases precheck_trace h call s with heq | ⟨c, heq⟩ <;> rw [heq, hs] <;> exact ⟨rfl, rfl, rfl⟩

/-- All of it holds at the start of every turn. -/
theorem InLoop.budget {n : Nat} (hclock : h.Clock now) (hs : s.trace = [])
    (hin : InLoop h call s n v t) :
    LoopFlags s.entry.notReady v t ∧ LoopTally n v t ∧ LoopClock now v t
      ∧ v.attempt ≤ laserMaxRetries + 1 := by
  refine hin.invariant (I := fun n v t => LoopFlags s.entry.notReady v t ∧ LoopTally n v t
    ∧ LoopClock now v t ∧ v.attempt ≤ laserMaxRetries + 1) ?_ ?_
  · rintro k v t v' u - ⟨hflags, htally, hwait, -⟩ hspec
    have hround := hspec.round hclock
    refine ⟨hround.loopFlags hflags, hround.loopTally hspec.cdbOutcomes htally,
      hround.loopClock hwait, ?_⟩
    have hle := hspec.attempt_le
    cases hround <;> omega
  · have hentry := congrArg LaserEntry.notReady (precheck_entry h call s)
    have hsilent := @precheck_silent _ h call s hs
    obtain ⟨hanswers, hretries, hsent⟩ := hsilent
    refine ⟨?_, ?_, ?_, by decide⟩
    · constructor <;> simp only [hanswers, hretries, hentry] <;> first | rfl | trivial
    · constructor <;> simp only [hretries, hsent] <;> rfl
    · constructor <;> simp [hretries, tally]

/-! ## The exact condition -/

/-- What the retries of a call are meant to keep to. -/
structure Bounded (trace : List ScsiEvent) : Prop where
  /-- Six attempts beside the free retries. -/
  attempts : (cdbOutcomes trace).length
    ≤ laserMaxRetries + (tally (retries trace)).rounds + (tally (retries trace)).swaps
  /-- One becoming-ready wait, whose free rounds begin within its ceiling. -/
  oneWait : (tally (retries trace)).starts ≤ 1
  wall : ∀ ms, .becomingReady ms ∈ retries trace → ms < laserBecomingReadyMaxWallMs
  rounds : (tally (retries trace)).rounds ≤ 60
  /-- One free retry for 28h/00h. -/
  oneSwap : (tally (retries trace)).swaps ≤ 1

/-- A turn that leaves makes no retry. -/
theorem DoneSpec.retries (hspec : DoneSpec h call v s v' u) : retries u.trace = retries s.trace := by
  cases hspec with
  | exhausted _ => rfl
  | cancelled _ _ => rfl
  | passed hasked =>
      rw [sampleThroughputLocked_trace]
      exact (congrArg Liblaser.retries hasked.trace).trans rfl
  | gone hasked => exact (congrArg Liblaser.retries hasked.trace).trans rfl
  | final hfailed _ => exact hfailed.retries

/-- Counts only grow with the trace. -/
theorem tally_mono {old trace : List ScsiEvent} (hold : old <:+ trace) :
    (tally (retries old)).starts ≤ (tally (retries trace)).starts
      ∧ (tally (retries old)).swaps ≤ (tally (retries trace)).swaps := by
  obtain ⟨pre, rfl⟩ := hold
  rw [show retries (pre ++ old) = retries pre ++ retries old from List.filterMap_append]
  induction retries pre with
  | nil => exact ⟨Nat.le_refl _, Nat.le_refl _⟩
  | cons r rs ih =>
      obtain ⟨hstarts, hswaps⟩ := ih
      cases r <;> constructor <;> simp only [List.cons_append, tally] <;> omega

/-- Without back and forth, the start of every turn is within the budget. -/
theorem InLoop.within {n : Nat} (hclock : h.Clock now) (hs : s.trace = [])
    (hin : InLoop h call s n v t)
    (hno : ¬ Flapping s.entry.notReady (spinUpAnswers t.trace)) :
    LoopTally n v t ∧ LoopClock now v t ∧ v.attempt ≤ laserMaxRetries + 1
      ∧ (tally (retries t.trace)).starts ≤ 1 ∧ (tally (retries t.trace)).swaps ≤ 1 := by
  obtain ⟨hflags, htally, hwait, hle⟩ := hin.budget hclock hs
  obtain ⟨hstarts, hswaps⟩ := (flags_once_iff hflags.absorbed).mpr hno
  exact ⟨htally, hwait, hle, hflags.starts ▸ hstarts, hflags.swaps ▸ hswaps⟩

/-- **When a command keeps to its budget.** On a monotonic clock, a call returns, having kept to the
    budget and sent its CDB at most 67 times, exactly when the answers it got by the start of each turn
    do not go back and forth between 02h/04h and 28h/00h. -/
theorem scsiCdb_bounded_iff (h : Host W) (now : W → Int) (hclock : h.Clock now) (call : CdbCall)
    (entry : LaserEntry) (w : W) :
    (∃ r s', Returns h call ⟨entry, w, []⟩ r s' ∧ Bounded s'.trace
        ∧ (cdbOutcomes s'.trace).length ≤ 67)
      ↔ ∀ n v t, InLoop h call ⟨entry, w, []⟩ n v t →
          ¬ Flapping entry.notReady (spinUpAnswers t.trace) := by
  constructor
  -- within the budget there was one wait and one swap at most, at the end and so at every turn
  · rintro ⟨r, s', hret, hbound, -⟩ n v t hin
    obtain ⟨hflags, -, -, -⟩ := hin.budget hclock rfl
    obtain ⟨hstarts, hswaps⟩ := tally_mono (hin.suffix_returns hret)
    refine (flags_once_iff hflags.absorbed).mp ⟨?_, ?_⟩
    · have hone := hbound.oneWait
      have heq := hflags.starts
      omega
    · have hone := hbound.oneSwap
      have heq := hflags.swaps
      omega
  · intro hno
    -- every turn spends an attempt or a free round, and there are eight and sixty and one of them
    have hret : ∃ r s', Returns h call ⟨entry, w, []⟩ r s' := by
      rcases returns_or_inLoop h call ⟨entry, w, []⟩ 68 with hret | ⟨v, t, hin⟩
      · exact hret
      · obtain ⟨htally, hwait, hle, hstarts, hswaps⟩ := hin.within hclock rfl (hno _ _ _ hin)
        have hrounds := hwait.rounds hstarts
        have hattempt := htally.attempt
        have hturns := htally.turns
        simp only [laserMaxRetries] at hle
        omega
    obtain ⟨r, s', hret⟩ := hret
    refine ⟨r, s', hret, ?_⟩
    rcases hret.cases with ⟨st, -, -, rfl⟩ | ⟨n, v, t, v', u, hin, hdone, -, rfl⟩
    · obtain ⟨-, hretries, hsent⟩ := @precheck_silent _ h call ⟨entry, w, []⟩ rfl
      rw [hsent]
      refine ⟨?_, by decide⟩
      constructor <;> simp [hretries, hsent, tally]
    · obtain ⟨htally, hwait, hle, hstarts, hswaps⟩ := hin.within hclock rfl (hno _ _ _ hin)
      have hspec := cdbTurn_done hdone
      have hrounds := hwait.rounds hstarts
      have hattempt := htally.attempt
      have hturns := htally.turns
      have hsends := htally.sends
      -- the last turn sends once more at most, and only with attempts left
      have hlast : (cdbOutcomes u.trace).length ≤ laserMaxRetries
          + (tally (retries t.trace)).rounds + (tally (retries t.trace)).swaps := by
        rcases hspec.cdbOutcomes with ⟨heq, -⟩ | ⟨⟨o, heq⟩, hmax, -⟩
        · rw [heq]
          omega
        · rw [heq, List.length_cons]
          omega
      rw [conclude_trace]
      refine ⟨?_, by simp only [laserMaxRetries] at hlast; omega⟩
      rw [← hspec.retries] at hlast hstarts hrounds hswaps
      exact ⟨hlast, hstarts, hspec.retries ▸ hwait.wall, hrounds, hswaps⟩

/-! ## A drive that goes back and forth -/

/-- A read that waits for a drive becoming ready, spends an attempt on a medium error, absorbs one 28h/00h
    and passes. -/
theorem scsiCdb_bounded_pass :
    let busy : List Scripted := [{ outcome := .failed 0x01 }, .sense 0x02 0x04 0x01]
    let s : Sys Script := ⟨{ inUse := true }, Script.ofList (busy ++ busy ++ busy
      ++ [{ outcome := .failed 0x01 }, .sense 0x03 0x11 0x00, { outcome := .failed 0x01 },
        .sense 0x06 0x28 0x00, { outcome := .pass }]), []⟩
    ∃ r s', Returns .scripted readBlock16 s r s' ∧ Bounded s'.trace
      ∧ (cdbOutcomes s'.trace).length ≤ 67 := by
  intro busy s
  refine (scsiCdb_bounded_iff .scripted Script.ns Host.scripted_clock readBlock16 _ _).mpr ?_
  intro n v t hin
  exact Reaches.all_of_nthTurn (P := fun p => ¬ Flapping s.entry.notReady (spinUpAnswers p.2.trace)) 6
    (by decide +kernel) (by decide +kernel) hin.2

/-- A drive that fails every command, with 02h/04h/01h and 06h/28h/00h by turns. -/
def seesaw (n : Nat) : Scripted :=
  if n % 4 = 1 then .sense 0x02 0x04 0x01
  else if n % 4 = 3 then .sense 0x06 0x28 0x00
  else { outcome := .failed 0x01 }

/-- The loop between two turns: the next answer is 02h/04h with no wait running, or 28h/00h with one. -/
def OnSeesaw (p : CdbVars × Sys Script) : Prop :=
  p.1.attempt = 1
    ∧ ((p.1.becomingReady = none ∧ p.2.world.replies = seesaw)
      ∨ (p.1.becomingReady.isSome = true ∧ p.2.world.replies = fun n => seesaw (n + 2)))

/-- A scripted REQUEST SENSE. -/
theorem scripted_sense {s : Sys Script} {key asc ascq : UInt8}
    (h₀ : s.world.replies 0 = .sense key asc ascq) :
    ∃ t, senseOf .scripted (.failed 0x01) s = (⟨key &&& 0x0f, asc, ascq⟩, t)
      ∧ t.world.replies = fun n => s.world.replies (n + 1) := by
  simp only [senseOf, requestSenseLocked, Sys.send, Host.scripted, h₀]
  exact ⟨_, rfl, rfl⟩

/-- A scripted failure, up to the verdict on its sense. -/
theorem scripted_failed {v : CdbVars} {s : Sys Script} {key asc ascq : UInt8}
    (hle : v.attempt ≤ laserMaxRetries) (h₀ : s.world.replies 0 = { outcome := .failed 0x01 })
    (h₁ : s.world.replies 1 = .sense key asc ascq) :
    ∃ v₁ t, v₁.attempt = v.attempt ∧ v₁.becomingReady = v.becomingReady
      ∧ (t.world.replies = fun n => s.world.replies (n + 2))
      ∧ cdbTurn .scripted call (v, s) = followVerdict .scripted v₁ t
          (classify call.idempotent (v₁.becomingReady.isSome || t.entry.notReady) (.failed 0x01)
            ⟨key &&& 0x0f, asc, ascq⟩) := by
  have ho : (attemptOf .scripted call s).1.outcome = .failed 0x01 :=
    congrArg Scripted.outcome h₀
  have hreply : (attemptOf .scripted call s).2.world.replies 0 = .sense key asc ascq := h₁
  obtain ⟨t, hsense, hreplies⟩ := scripted_sense hreply
  rw [cdbTurn_of_failed hle rfl ho]
  refine ⟨(CdbVars.store { v with attemptsMade := v.attempt } (attemptOf .scripted call s).1).note
    (.failed 0x01), t, CdbVars.note_attempt .., CdbVars.note_becomingReady .., hreplies, ?_⟩
  unfold failedTurn
  rw [hsense]

/-- The wait starts, with no time passed. -/
theorem scripted_waitStarts {v : CdbVars} {s : Sys Script} (hnone : v.becomingReady = none) :
    ∃ v' u, becomingReadyRound .scripted v s = .again (v', u) ∧ v'.attempt = v.attempt
      ∧ v'.becomingReady.isSome = true ∧ u.world.replies = s.world.replies := by
  have hwait : waitSince .scripted v s
      = (s.record (.retried .waitStarted)).clockGettime .scripted := by
    rw [waitSince, hnone]
  unfold becomingReadyRound
  rw [hwait]
  dsimp only [Sys.clockGettime, Host.scripted, Sys.record]
  rw [Timespec.msSince_self, if_pos (by decide)]
  exact ⟨_, _, rfl, rfl, rfl, rfl⟩

/-- No turn on the seesaw leaves it. -/
theorem OnSeesaw.again {p : CdbVars × Sys Script} (hp : OnSeesaw p) :
    ∃ q, cdbTurn .scripted readBlock16 p = .again q ∧ OnSeesaw q := by
  obtain ⟨v, s⟩ := p
  obtain ⟨hattempt, ⟨hnone, hreplies⟩ | ⟨hsome, hreplies⟩⟩ := hp <;> dsimp only at hattempt hreplies
  · obtain ⟨v₁, t, ha, hb, hnext, hturn⟩ := @scripted_failed readBlock16 v s 0x02 0x04 0x01
      (by rw [hattempt]; decide) (by rw [hreplies]; rfl) (by rw [hreplies]; rfl)
    have hverdict : ∀ up, classify readBlock16.idempotent up (.failed 0x01)
        ⟨0x02 &&& 0x0f, 0x04, 0x01⟩ = .becomingReady := by decide
    obtain ⟨v', u, hround, ha', hsome, hkept⟩ := @scripted_waitStarts v₁ t (hb.trans hnone)
    rw [hturn, hverdict, followVerdict, hround]
    exact ⟨_, rfl, ha'.trans (ha.trans hattempt), .inr ⟨hsome, by rw [hkept, hnext, hreplies]⟩⟩
  · obtain ⟨v₁, t, ha, hb, hnext, hturn⟩ := @scripted_failed readBlock16 v s 0x06 0x28 0x00
      (by rw [hattempt]; decide) (by rw [hreplies]; rfl) (by rw [hreplies]; rfl)
    have hverdict : classify readBlock16.idempotent true (.failed 0x01)
        ⟨0x06 &&& 0x0f, 0x28, 0x00⟩ = .mediumReady := by decide
    rw [hturn, hb, hsome, Bool.true_or, hverdict, followVerdict]
    refine ⟨_, rfl, ha.trans hattempt, .inl ⟨rfl, ?_⟩⟩
    show t.world.replies = seesaw
    rw [hnext, hreplies]
    funext n
    simp only [seesaw, show (n + 2 + 2) % 4 = n % 4 by omega]

/-- **A command that never returns.** A READ(10) of a drive on the seesaw goes round for ever, on a
    clock that keeps the law, and its CDB is sent once in every turn. -/
theorem scsiCdb_never_returns :
    let s : Sys Script := ⟨{ inUse := true }, ⟨seesaw, 0⟩, []⟩
    Host.scripted.Clock Script.ns ∧ (∀ r s', ¬ Returns .scripted readBlock16 s r s')
      ∧ ∀ n, ∃ v t, InLoop .scripted readBlock16 s n v t ∧ (cdbOutcomes t.trace).length = n := by
  intro s
  have hstart : OnSeesaw (({}, (precheck .scripted readBlock16 s).2) : CdbVars × Sys Script) :=
    ⟨rfl, .inl ⟨rfl, rfl⟩⟩
  have hloops : ∀ r s', ¬ Returns .scripted readBlock16 s r s' := by
    rintro r s' ⟨fuel, hret⟩
    have hnone : iterate (cdbTurn .scripted readBlock16) fuel
        ({}, (precheck .scripted readBlock16 s).2) = none :=
      iterate_none_of_again (I := OnSeesaw) (fun _ => OnSeesaw.again) hstart
    have hcheck : precheck .scripted readBlock16 s = (none, (precheck .scripted readBlock16 s).2) := rfl
    rw [laserScsiCdb, hcheck] at hret
    dsimp only at hret
    rw [hnone] at hret
    cases hret
  refine ⟨Host.scripted_clock, hloops, fun n => ?_⟩
  rcases returns_or_inLoop .scripted readBlock16 s n with ⟨r, s', hret⟩ | ⟨v, t, hin⟩
  · exact absurd hret (hloops r s')
  · obtain ⟨-, htally, -, -⟩ := hin.budget Host.scripted_clock rfl
    exact ⟨v, t, hin, htally.sends⟩

end Liblaser
