import Liblaser.Scsi.WaitSpec

/-!
# `Scsi.Ceilings` — which ceiling ends the readiness wait

The wait has two ceilings: one on the time since its start, 15 s or 30 s, and 4 s since START STOP UNIT
for a drive that reports no medium. The comment over the second says that whichever comes first ends the
wait. Each branch of the loop tests one of them.

The branch for 02h/3Ah does not test the first, which starts before the ladder of START STOP UNITs.
**`wait_ceilings_iff`**: what a slow ladder leaves of the 4 s is slept out past the first ceiling, and
nothing else is.
-/

namespace Liblaser

open Loop

variable {W : Type} {h : Host W} {started since : Timespec} {v : WaitVars} {t : Sys W} {now : W → Int}

/-! ## The ceilings -/

/-- The last reading of the clock is before the ceiling in force, which counts from the start of the
    wait. -/
def UnderWall (h : Host W) (started : Timespec) (v : WaitVars) (t : Sys W) : Prop :=
  (readingAt h t).ns < started.ns + (notedBy h v t).ceiling * 1000000

instance : Decidable (UnderWall h started v t) := inferInstanceAs (Decidable (_ < _))

/-- The answer came in before the shorter ceiling, which counts from START STOP UNIT. -/
def UnderNoMedium (h : Host W) (now : W → Int) (since : Timespec) (t : Sys W) : Prop :=
  answeredAt h now t < since.ns + laserNoMediumMaxWallMs * 1000000

/-- **Whichever ceiling comes first**: the wait sleeps under the ceiling in force only, and after no
    medium under the shorter one too. -/
def KeepsCeilings (h : Host W) (now : W → Int) (s : Sys W) : Prop :=
  ∀ n v t, InWait h s n v t → Sleeps (waitTurn h (waitBegin h s).1 (waitBegin h s).2.1 (v, t)) →
    UnderWall h (waitBegin h s).1 v t
      ∧ ((answerAt h t).1.isMediumNotPresent = true → UnderNoMedium h now (waitBegin h s).2.1 t)

/-- The answer is no medium, with the tray not reported open, in time for the shorter ceiling and past
    the one in force. -/
structure LoadingLate (h : Host W) (started since : Timespec) (v : WaitVars) (t : Sys W) : Prop where
  unready : Unready h t
  absent : (answerAt h t).1.isMediumNotPresent = true
  closed : (answerAt h t).1.ascq ≠ 0x02
  loading : (readingAt h t).msSince since < laserNoMediumMaxWallMs
  late : ¬ UnderWall h started v t

instance : Decidable (LoadingLate h started since v t) :=
  decidable_of_iff (Unready h t ∧ (answerAt h t).1.isMediumNotPresent = true
      ∧ (answerAt h t).1.ascq ≠ 0x02 ∧ (readingAt h t).msSince since < laserNoMediumMaxWallMs
      ∧ ¬ UnderWall h started v t)
    ⟨fun ⟨hunready, habsent, hclosed, hloading, hlate⟩ =>
      ⟨hunready, habsent, hclosed, hloading, hlate⟩,
      fun hlate => ⟨hlate.unready, hlate.absent, hlate.closed, hlate.loading, hlate.late⟩⟩

theorem LoadingLate.sleeps (hlate : LoadingLate h started since v t) :
    Sleeps (waitTurn h started since (v, t)) :=
  sleeps_iff.mpr ⟨hlate.unready, .inl ⟨hlate.absent, hlate.closed, hlate.loading⟩⟩

/-- Milliseconds below a ceiling are nanoseconds below it. -/
theorem Timespec.lt_of_msSince_lt {read start : Timespec} {ms : Int}
    (hlt : read.msSince start < ms) : read.ns < start.ns + ms * 1000000 := by
  apply Int.not_le.mp
  intro hle
  exact Int.not_le.mpr hlt (le_msSince hle)

/-- A turn that sleeps is under its ceilings, but for one that loads late. -/
theorem ceilings_of_sleeps (hclock : h.Clock now) (hsleeps : Sleeps (waitTurn h started since (v, t)))
    (hnot : ¬ LoadingLate h started since v t) :
    UnderWall h started v t
      ∧ ((answerAt h t).1.isMediumNotPresent = true → UnderNoMedium h now since t) := by
  obtain ⟨hunready, ⟨habsent, hclosed, hin⟩ | ⟨hpresent, -, hin⟩⟩ := sleeps_iff.mp hsleeps
  · refine ⟨?_, fun _ => ?_⟩
    · exact Decidable.byContradiction fun hlate => hnot ⟨hunready, habsent, hclosed, hin, hlate⟩
    · exact Int.lt_of_le_of_lt (readingAt_ge hclock t) (Timespec.lt_of_msSince_lt hin)
  · refine ⟨Timespec.lt_of_msSince_lt hin, fun habsent => ?_⟩
    rw [hpresent] at habsent
    cases habsent

/-- **When whichever ceiling comes first ends the wait**: unless a poll is answered 02h/3Ah, tray not
    open, within 4 s of START STOP UNIT but past the ceiling in force. -/
theorem wait_ceilings_iff (h : Host W) (now : W → Int) (hclock : h.Clock now) (s : Sys W) :
    KeepsCeilings h now s ↔ ∀ n v t, InWait h s n v t →
      ¬ LoadingLate h (waitBegin h s).1 (waitBegin h s).2.1 v t := by
  constructor
  · intro hkeeps n v t hin hlate
    exact hlate.late (hkeeps n v t hin hlate.sleeps).1
  · intro hnever n v t hin hsleeps
    exact ceilings_of_sleeps hclock hsleeps (hnever n v t hin)

/-! ## A host whose transactions take time -/

/-- The transactions to come, each with the milliseconds it takes, and the time in nanoseconds. -/
structure TimedScript where
  replies : List (Scripted × Nat)
  ns : Int

/-- A host that answers from such a script, the device leaving the bus at its end. -/
def Host.timed : Host TimedScript where
  send entry _ script :=
    let (r, ms) := script.replies.headD ({ outcome := .noDevice }, 0)
    (⟨r.outcome, r.actualLen, r.data, { entry.bot with tag := entry.bot.tag + 1 }⟩,
      ⟨script.replies.tail, script.ns + ms * 1000000⟩)
  clockGettime script := (⟨script.ns / 1000000000, script.ns % 1000000000⟩, script)
  usleep us script := { script with ns := script.ns + us * 1000 }
  isCancelled script := (false, script)

theorem Host.timed_clock : Host.timed.Clock TimedScript.ns where
  send _ _ script := by
    show script.ns ≤ script.ns + _ * 1000000
    omega
  isCancelled _ := Int.le_refl _
  usleep _ _ := Int.le_refl _
  read_ge w := by simp only [timed, Timespec.ns]; omega
  read_le w := by simp only [timed, Timespec.ns]; omega

/-- Two START STOP UNITs, of seven seconds and of one; the drive has no medium at first, and is becoming
    ready past the fifteen seconds. -/
theorem wait_ceilings_ready :
    let s : Sys TimedScript := ⟨{}, ⟨[({ outcome := .phaseError false }, 7000), ({ outcome := .pass }, 1000),
      ({ outcome := .failed 0x01 }, 500), (.sense 0x02 0x3a 0x01, 0),
      ({ outcome := .failed 0x01 }, 2000), (.sense 0x02 0x04 0x01, 2000),
      ({ outcome := .failed 0x01 }, 6000), (.sense 0x02 0x04 0x01, 0), ({ outcome := .pass }, 0)], 0⟩, []⟩
    KeepsCeilings .timed TimedScript.ns s := by
  intro s
  refine (wait_ceilings_iff .timed TimedScript.ns Host.timed_clock _).mpr ?_
  intro n v t hin
  exact Reaches.all_of_nthTurn
    (P := fun p => ¬ LoadingLate .timed (waitBegin .timed s).1 (waitBegin .timed s).2.1 p.1 p.2) 4
    (by decide +kernel) (by decide +kernel) hin

/-- **Asleep past the ceiling.** Two START STOP UNITs of seven seconds each end in a phase error, and the
    drive has no medium yet: the third poll is answered fifteen seconds into the wait. -/
theorem wait_sleeps_past_ceiling :
    let noMedium := [({ outcome := .failed 0x01 }, 0), (.sense 0x02 0x3a 0x01, 0)]
    let s : Sys TimedScript := ⟨{}, ⟨[({ outcome := .phaseError false }, 7000),
      ({ outcome := .phaseError false }, 7000)] ++ noMedium ++ noMedium ++ noMedium, 0⟩, []⟩
    ¬ KeepsCeilings .timed TimedScript.ns s := by
  intro noMedium s hkeeps
  have hturn : ∃ v t, InWait .timed s 2 v t
      ∧ LoadingLate .timed (waitBegin .timed s).1 (waitBegin .timed s).2.1 v t :=
    InWait.of_run 2 (by decide +kernel)
  obtain ⟨v, t, hin, hlate⟩ := hturn
  exact hlate.late (hkeeps 2 v t hin hlate.sleeps).1

end Liblaser
