import Liblaser.Locking.Discipline
import Liblaser.Scsi.Preserved
import Liblaser.Scsi.WaitSpec

/-!
# `Scsi.Readiness` — the readiness wait ends

The loop of `laser_wait_until_ready()` has no counter in its header. Each of its turns that goes round
again has slept towards one of two ceilings, counted from two different clock readings, or is one of a few
UNIT ATTENTIONs polled again at once. `WaitBudget` counts the three kinds apart: none of the counts
depends on the order in which the device mixes its answers.

**`wait_ends`**: the wait returns within a constant number of polls, and says that the drive is ready
exactly when the last of them passed.
-/

namespace Liblaser

open Loop

variable {W : Type} {h : Host W} {v v' : WaitVars} {s t u : Sys W} {now : W → Int} {n : Nat}

/-- The most polls a wait makes: the sleeps that fit both ceilings, the UNIT ATTENTIONs, and the poll
    that ends it. -/
def waitMaxPolls : Nat :=
  (laserBecomingReadyMaxWallMs + laserNoMediumMaxWallMs).toNat / laserSpinupDelayMs
    + laserSpinupMaxUnitAttentions + 1

/-! ## The polls of a trace -/

def ScsiEvent.poll : ScsiEvent → Option BotOutcome
  | .sent .testUnitReady _ o => some o
  | _ => none

/-- The outcomes of the TEST UNIT READYs, newest first. -/
def polls (trace : List ScsiEvent) : List BotOutcome := trace.filterMap ScsiEvent.poll

/-- Whatever is sent otherwise leaves them as they are. -/
theorem polls_preserved (h : Host W) (outcomes : List BotOutcome) :
    Preserved h (· ≠ .testUnitReady) fun s => polls s.trace = outcomes where
  send {s} sender req hsender hs := by
    have hpoll : ∀ o, (ScsiEvent.sent sender req o).poll = none := by
      cases sender with
      | testUnitReady => exact absurd rfl hsender
      | scsiCdb | requestSense | startStopUnit | mediaStatus | mediumRemoval | inquiry =>
          exact fun _ => rfl
    show (_ :: s.trace).filterMap ScsiEvent.poll = _
    rw [List.filterMap_cons_none (hpoll _)]
    exact hs
  clockGettime hs := hs
  usleep _ hs := hs
  isCancelled hs := hs
  record {s e} he hs := by
    have hpoll : e.poll = none := by
      cases e with
      | sent _ _ _ => cases he
      | sense _ | polled _ | slept _ | retried _ | waitBegun => rfl
    show (e :: s.trace).filterMap ScsiEvent.poll = _
    rw [List.filterMap_cons_none hpoll]
    exact hs
  entry _ _ hs := hs

theorem waitBegin_polls (h : Host W) (s : Sys W) : polls (waitBegin h s).2.2.trace = polls s.trace :=
  (polls_preserved h _).waitBegin (by decide) (by decide) rfl

theorem answerAt_polls (h : Host W) (t : Sys W) :
    polls (answerAt h t).2.trace = (pollAt h t).1 :: polls t.trace :=
  (polls_preserved h _).requestSenseLocked (by decide) rfl

/-- Every turn is one poll more. -/
theorem WaitTurnSpec.polls {started since : Timespec} {turn : Turn (WaitVars × Sys W) (Sys W)}
    (hspec : WaitTurnSpec h started since v t turn) :
    turn.All (fun p => Liblaser.polls p.2.trace = (pollAt h t).1 :: Liblaser.polls t.trace)
      (fun u => Liblaser.polls u.trace = (pollAt h t).1 :: Liblaser.polls t.trace) := by
  cases hspec with
  | ready _ | gone _ => rfl
  | trayOpen _ _ _ | noMedium _ _ _ _ | loading _ _ _ _ | atOnce _ _ _ | exhausted _ _ _ _
  | busy _ _ _ _ => exact answerAt_polls h t

/-! ## The flag -/

/-- The flag comes down on the poll that passes, and on no other. -/
theorem WaitTurnSpec.notReady {started since : Timespec} {turn : Turn (WaitVars × Sys W) (Sys W)}
    (hspec : WaitTurnSpec h started since v t turn) (hup : t.entry.notReady = true) :
    turn.All (fun p => p.2.entry.notReady = true)
      (fun u => u.entry.notReady = false ↔ (pollAt h t).1 = .pass) := by
  have hkept : (answerAt h t).2.entry.notReady = true := by
    have hsense := requestSenseLocked_spec h (pollAt h t).2
    have hpoll : (pollAt h t).2.entry.notReady = true := hup
    show (requestSenseLocked h (pollAt h t).2).2.entry.notReady = true
    generalize requestSenseLocked h (pollAt h t).2 = res at hsense
    obtain ⟨sense, t'⟩ := res
    cases hsense <;> exact hpoll
  cases hspec with
  | ready ho => exact ⟨fun _ => ho, fun _ => rfl⟩
  | gone ho =>
      have hup : (pollAt h t).2.entry.notReady = true := hup
      simp [Turn.All, hup, ho]
  | trayOpen hunready _ _ =>
      have hup : (logMediaStatusLocked h (answerAt h t).2).entry.notReady = true := hkept
      simp [Turn.All, hup, hunready.1]
  | noMedium hunready _ _ _ =>
      have hup : (logMediaStatusLocked h ((answerAt h t).2.clockGettime h).2).entry.notReady = true :=
        hkept
      simp [Turn.All, hup, hunready.1]
  | exhausted hunready _ _ _ =>
      have hup : ((answerAt h t).2.clockGettime h).2.entry.notReady = true := hkept
      simp [Turn.All, hup, hunready.1]
  | loading _ _ _ _ | atOnce _ _ _ | busy _ _ _ _ => exact hkept

theorem InWait.notReady (hin : InWait h s n v t) : t.entry.notReady = true := by
  apply hin.invariant (I := fun _ _ t => t.entry.notReady = true)
  · intro k v t v' u _ hup hspec
    exact hspec.notReady hup
  · rfl

/-! ## The budget -/

/-- Time does not go back in anything `scsi.c` does. -/
theorem now_preserved (hclock : h.Clock now) (S : Sender → Prop) (T : Int) :
    Preserved h S fun s => T ≤ now s.world where
  send {s} sender req _ hs := Int.le_trans hs (hclock.send s.entry req s.world)
  clockGettime {s} hs :=
    Int.le_trans hs (Int.le_trans (hclock.read_ge s.world) (hclock.read_le s.world))
  usleep {s} us hs := by
    have hsleep := hclock.usleep us s.world
    show T ≤ now (h.usleep us s.world)
    omega
  isCancelled {s} hs := Int.le_trans hs (hclock.isCancelled s.world)
  record _ hs := hs
  entry _ _ hs := hs

/-- The turns made so far, by what they slept for: `loading` a medium, the drive being `busy`, or not at
    all. Each kind has its own bound. -/
structure WaitBudget (now : W → Int) (started since : Timespec) (n : Nat) (v : WaitVars) (t : Sys W)
    (loading busy atOnce : Nat) : Prop where
  turns : n = loading + busy + atOnce
  loading_le : loading ≤ 8
  busy_le : busy ≤ 60
  atOnce_le : atOnce ≤ laserSpinupMaxUnitAttentions
  attentions : atOnce ≤ v.unitAttentions
  loaded : since.ns + loading * 500000000 ≤ now t.world
  waited : started.ns + busy * 500000000 ≤ now t.world

theorem WaitVars.unitAttentions_le (v : WaitVars) (sense : Sense) :
    v.unitAttentions ≤ (v.note sense).unitAttentions := by
  unfold note
  dsimp only
  split
  · exact Nat.le_succ _
  · exact Nat.le_refl _

/-- One turn spends one unit of one of the three. -/
theorem WaitTurnSpec.budget {started since : Timespec} {loading busy atOnce : Nat}
    (hclock : h.Clock now) (hspec : WaitTurnSpec h started since v t (.again (v', u)))
    (hI : WaitBudget now started since n v t loading busy atOnce) :
    ∃ loading busy atOnce, WaitBudget now started since (n + 1) v' u loading busy atOnce := by
  obtain ⟨hturns, hloading, hbusy, hatOnce, hattentions, hloaded, hwaited⟩ := hI
  have hanswer := answeredAt_ge hclock t
  have hread := readingAt_ge hclock t
  have hslept := sleptAfter_ge hclock t
  have hcount : v.unitAttentions ≤ (notedBy h v t).unitAttentions := v.unitAttentions_le _
  simp only [laserSpinupDelayMs] at hslept
  cases hspec with
  | loading _ _ _ hin =>
      -- the ceiling that lets it sleep has room for eight
      have hms : (loading * 500 : Int) ≤ (readingAt h t).msSince since :=
        Timespec.le_msSince (by omega)
      simp only [laserNoMediumMaxWallMs] at hin
      exact ⟨loading + 1, busy, atOnce, by omega, by omega, hbusy, hatOnce, by omega, by omega,
        by omega⟩
  | busy _ _ _ hin =>
      have hms : (busy * 500 : Int) ≤ (readingAt h t).msSince started :=
        Timespec.le_msSince (by omega)
      have hceiling : (notedBy h v t).ceiling ≤ 30000 := by
        unfold WaitVars.ceiling
        split <;> decide
      exact ⟨loading, busy + 1, atOnce, by omega, hloading, by omega, hatOnce, by omega, by omega,
        by omega⟩
  | atOnce _ _ honce =>
      obtain ⟨hattention, hle⟩ := honce
      have hcounted : (notedBy h v t).unitAttentions = v.unitAttentions + 1 := if_pos hattention
      refine ⟨loading, busy, atOnce + 1, by omega, hloading, hbusy, by omega, by omega, ?_, ?_⟩
      · exact Int.le_trans hloaded hanswer
      · exact Int.le_trans hwaited hanswer

theorem InWait.budget (hclock : h.Clock now) (hin : InWait h s n v t) :
    ∃ loading busy atOnce, WaitBudget now (waitBegin h s).1 (waitBegin h s).2.1 n v t loading busy
      atOnce := by
  apply hin.invariant (I := fun n v t => ∃ loading busy atOnce,
    WaitBudget now (waitBegin h s).1 (waitBegin h s).2.1 n v t loading busy atOnce)
  · rintro k v t v' u - ⟨loading, busy, atOnce, hI⟩ hspec
    exact hspec.budget hclock hI
  · have hstarted : (waitBegin h s).1.ns
        ≤ now ((s.record .waitBegun).clockGettime h).2.world := hclock.read_le _
    have hspun := (now_preserved hclock (fun _ => True) _).spinUpLocked trivial trivial hstarted
    have hsince := hclock.read_le (spinUpLocked h ((s.record .waitBegun).clockGettime h).2).world
    have hlater := (now_preserved hclock (fun _ => True) _).clockGettime hspun
    refine ⟨0, 0, 0, rfl, by decide, by decide, by decide, Nat.le_refl _, ?_, ?_⟩
    · rw [Int.natCast_zero, Int.zero_mul, Int.add_zero]
      exact hsince
    · rw [Int.natCast_zero, Int.zero_mul, Int.add_zero]
      exact hlater

/-- No more turns than the three bounds together. -/
theorem InWait.turn_lt (hclock : h.Clock now) (hin : InWait h s n v t) : n < waitMaxPolls := by
  obtain ⟨loading, busy, atOnce, hI⟩ := hin.budget hclock
  have hsum := hI.turns
  have hloading := hI.loading_le
  have hbusy := hI.busy_le
  have hatOnce := hI.atOnce_le
  have hmax : waitMaxPolls = 8 + 60 + laserSpinupMaxUnitAttentions + 1 := rfl
  omega

/-- One poll for each turn begun. -/
theorem InWait.polls (hin : InWait h s n v t) :
    ∃ made, Liblaser.polls t.trace = made ++ Liblaser.polls s.trace ∧ made.length = n := by
  apply hin.invariant (I := fun n _ t =>
    ∃ made, Liblaser.polls t.trace = made ++ Liblaser.polls s.trace ∧ made.length = n)
  · rintro k v t v' u - ⟨made, heq, hlength⟩ hspec
    refine ⟨(pollAt h t).1 :: made, ?_, congrArg (· + 1) hlength⟩
    have hpolled : Liblaser.polls u.trace = (pollAt h t).1 :: Liblaser.polls t.trace := hspec.polls
    rw [hpolled, heq, List.cons_append]
  · exact ⟨[], waitBegin_polls h s, rfl⟩

/-! ## The wait ends -/

/-- **The readiness wait ends, and its verdict is exact.** On every monotonic clock it returns, within
    `waitMaxPolls` polls, with `not_ready` lowered exactly when the last of them passed; and on every path
    through it `io_lock` is released. -/
theorem wait_ends (h : Host W) (now : W → Int) (hclock : h.Clock now) (s : Sys W) :
    (∃ s' o older, laserWaitUntilReady h waitMaxPolls s = some s'
      ∧ polls s'.trace = o :: older ++ polls s.trace
      ∧ (o :: older).length ≤ waitMaxPolls
      ∧ (s'.entry.notReady = false ↔ o = .pass))
    ∧ ∀ held, Locking.Outermost held → ∀ entry path,
        (Locks.Code.call (Locking.laserWaitUntilReady entry)).Runs path .next →
        Locks.walk Locking.Mutex.rank held path = some held := by
  constructor
  · have hreturns : ∃ s', laserWaitUntilReady h waitMaxPolls s = some s' := by
      rw [laserWaitUntilReady_eq]
      rcases iterate_or_reaches (waitTurn h (waitBegin h s).1 (waitBegin h s).2.1) waitMaxPolls
        ({}, (waitBegin h s).2.2) with hret | ⟨⟨v, t⟩, hin⟩
      · exact hret
      · exact absurd (InWait.turn_lt hclock hin) (Nat.lt_irrefl _)
    obtain ⟨s', hret⟩ := hreturns
    obtain ⟨n, v, t, hn, hin, hdone⟩ := laserWaitUntilReady_eq_some_iff.mp hret
    have hspec := waitTurn_done hdone
    obtain ⟨made, heq, hlength⟩ := hin.polls
    have hpolls : polls s'.trace = (pollAt h t).1 :: polls t.trace := hspec.polls
    refine ⟨s', (pollAt h t).1, made, hret, by rw [hpolls, heq, List.cons_append], ?_,
      hspec.notReady hin.notReady⟩
    rw [List.length_cons, hlength]
    exact hn
  · intro held hout entry path hruns
    obtain ⟨held', hwalk, hmem⟩ := Locks.Code.outcomes_sound hruns
      (Locking.laserWaitUntilReady_keeps hout entry)
    have hsame : held' = held := by simpa using hmem
    rw [hwalk, hsame]

/-- A drive that has no medium yet, is becoming ready, and is ready. -/
theorem wait_ends_loading :
    let script := Script.ofList [{ outcome := .pass }, { outcome := .failed 0x01 },
      .sense 0x02 0x3a 0x01, { outcome := .failed 0x01 }, .sense 0x02 0x04 0x01, { outcome := .pass }]
    let s : Sys Script := ⟨{}, script, []⟩
    ∃ s' o older, laserWaitUntilReady .scripted waitMaxPolls s = some s'
      ∧ polls s'.trace = o :: older ++ polls s.trace ∧ (o :: older).length ≤ waitMaxPolls
      ∧ (s'.entry.notReady = false ↔ o = .pass) := by
  intro script s
  exact (wait_ends .scripted Script.ns Host.scripted_clock s).1

end Liblaser
