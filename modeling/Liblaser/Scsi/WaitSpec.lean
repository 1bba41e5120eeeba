import Liblaser.Scsi.SpinUp

/-!
# `Scsi.WaitSpec` — what one turn of the readiness wait can do

The inversion lemma for the loop of `laser_wait_until_ready()`: **`waitTurn_spec`** is every way a turn can
go, with the answer and the clock reading it went there on. The properties of the wait (that it ends,
which ceiling ends it, for whom the long one is) are case analyses of it.
-/

namespace Liblaser

open Loop

variable {W : Type} {h : Host W} {started since : Timespec} {v v' : WaitVars} {s t u : Sys W}
  {now : W → Int} {n : Nat}

/-! ## The answer to a poll -/

/-- How the TEST UNIT READY of a turn begun in `t` ends. -/
def pollAt (h : Host W) (t : Sys W) : BotOutcome × Sys W := testUnitReadyLocked h t

/-- The sense of one that failed, and the state it is read in. -/
def answerAt (h : Host W) (t : Sys W) : Sense × Sys W :=
  let (sense, s) := requestSenseLocked h (pollAt h t).2
  (sense.getD .unread, s)

/-- When the answer is in. -/
def answeredAt (h : Host W) (now : W → Int) (t : Sys W) : Int := now (answerAt h t).2.world

/-- The poll failed on a device that is there. -/
def Unready (h : Host W) (t : Sys W) : Prop :=
  (pollAt h t).1 ≠ .pass ∧ (pollAt h t).1 ≠ .noDevice

instance (h : Host W) (t : Sys W) : Decidable (Unready h t) :=
  inferInstanceAs (Decidable (_ ∧ _))

/-- The clock as read after the answer. -/
def readingAt (h : Host W) (t : Sys W) : Timespec := (h.clockGettime (answerAt h t).2.world).1

/-- The ceiling in force. -/
def WaitVars.ceiling (v : WaitVars) : Int :=
  if v.becomingReady then laserBecomingReadyMaxWallMs else laserSpinupMaxWallMs

/-- The locals after the answer. -/
def notedBy (h : Host W) (v : WaitVars) (t : Sys W) : WaitVars := v.note (answerAt h t).1

/-- The answer is a UNIT ATTENTION that is polled again at once. -/
def AtOnce (h : Host W) (v : WaitVars) (t : Sys W) : Prop :=
  (answerAt h t).1.isUnitAttention = true
    ∧ (notedBy h v t).unitAttentions ≤ laserSpinupMaxUnitAttentions

instance (h : Host W) (v : WaitVars) (t : Sys W) : Decidable (AtOnce h v t) :=
  inferInstanceAs (Decidable (_ ∧ _))

/-- Asleep before the next poll. -/
def sleptAfter (h : Host W) (t : Sys W) : Sys W :=
  ((answerAt h t).2.clockGettime h).2.usleep h (laserSpinupDelayMs * 1000)

/-- How a turn of the wait goes. -/
inductive WaitTurnSpec (h : Host W) (started since : Timespec) (v : WaitVars) (t : Sys W) :
    Turn (WaitVars × Sys W) (Sys W) → Prop where
  | ready (ho : (pollAt h t).1 = .pass) :
      WaitTurnSpec h started since v t (.done ((pollAt h t).2.setNotReady false))
  | gone (ho : (pollAt h t).1 = .noDevice) : WaitTurnSpec h started since v t (.done (pollAt h t).2)
  | trayOpen (hunready : Unready h t) (habsent : (answerAt h t).1.isMediumNotPresent = true)
      (hopen : (answerAt h t).1.ascq = 0x02) :
      WaitTurnSpec h started since v t (.done (logMediaStatusLocked h (answerAt h t).2))
  /-- No medium, and the shorter ceiling has passed. -/
  | noMedium (hunready : Unready h t) (habsent : (answerAt h t).1.isMediumNotPresent = true)
      (hclosed : (answerAt h t).1.ascq ≠ 0x02)
      (hover : laserNoMediumMaxWallMs ≤ (readingAt h t).msSince since) :
      WaitTurnSpec h started since v t
        (.done (logMediaStatusLocked h ((answerAt h t).2.clockGettime h).2))
  /-- No medium yet. -/
  | loading (hunready : Unready h t) (habsent : (answerAt h t).1.isMediumNotPresent = true)
      (hclosed : (answerAt h t).1.ascq ≠ 0x02)
      (hin : (readingAt h t).msSince since < laserNoMediumMaxWallMs) :
      WaitTurnSpec h started since v t (.again (notedBy h v t, sleptAfter h t))
  | atOnce (hunready : Unready h t) (hpresent : (answerAt h t).1.isMediumNotPresent = false)
      (honce : AtOnce h v t) :
      WaitTurnSpec h started since v t (.again (notedBy h v t, (answerAt h t).2))
  /-- The ceiling in force has passed. -/
  | exhausted (hunready : Unready h t) (hpresent : (answerAt h t).1.isMediumNotPresent = false)
      (hdelayed : ¬ AtOnce h v t)
      (hover : (notedBy h v t).ceiling ≤ (readingAt h t).msSince started) :
      WaitTurnSpec h started since v t (.done ((answerAt h t).2.clockGettime h).2)
  | busy (hunready : Unready h t) (hpresent : (answerAt h t).1.isMediumNotPresent = false)
      (hdelayed : ¬ AtOnce h v t)
      (hin : (readingAt h t).msSince started < (notedBy h v t).ceiling) :
      WaitTurnSpec h started since v t (.again (notedBy h v t, sleptAfter h t))

/-- The turn of a poll that failed, on its answer. -/
theorem waitTurn_of_unready (hunready : Unready h t) :
    waitTurn h started since (v, t)
      = if (answerAt h t).1.isMediumNotPresent then
          noMediumRound h since (notedBy h v t) (answerAt h t).1 (answerAt h t).2
        else busyRound h started (notedBy h v t) (answerAt h t).1 (answerAt h t).2 := by
  obtain ⟨hpass, hgone⟩ := hunready
  unfold waitTurn notedBy answerAt
  unfold pollAt at hpass hgone ⊢
  dsimp only
  generalize testUnitReadyLocked h t = poll at hpass hgone ⊢
  obtain ⟨o, s⟩ := poll
  dsimp only at hpass hgone ⊢
  cases o with
  | pass => exact absurd rfl hpass
  | noDevice => exact absurd rfl hgone
  | notSent | phaseError _ | failed _ => rfl

/-- **One turn of the readiness wait.** -/
theorem waitTurn_spec (h : Host W) (started since : Timespec) (v : WaitVars) (t : Sys W) :
    WaitTurnSpec h started since v t (waitTurn h started since (v, t)) := by
  by_cases hpass : (pollAt h t).1 = .pass
  · have heq : waitTurn h started since (v, t) = .done ((pollAt h t).2.setNotReady false) := by
      unfold pollAt at hpass
      unfold waitTurn pollAt
      dsimp only
      rw [hpass]
    rw [heq]
    exact .ready hpass
  by_cases hgone : (pollAt h t).1 = .noDevice
  · have heq : waitTurn h started since (v, t) = .done (pollAt h t).2 := by
      unfold pollAt at hgone
      unfold waitTurn pollAt
      dsimp only
      rw [hgone]
    rw [heq]
    exact .gone hgone
  have hunready : Unready h t := ⟨hpass, hgone⟩
  rw [waitTurn_of_unready hunready]
  split
  · next habsent =>
      unfold noMediumRound
      split
      · next hopen => exact .trayOpen hunready habsent hopen
      · next hclosed =>
          unfold Sys.monotonicMsSince
          dsimp only
          split
          · next hover => exact .noMedium hunready habsent hclosed hover
          · next hin => exact .loading hunready habsent hclosed (Int.not_le.mp hin)
  · next hpresent =>
      have hpresent := eq_false_of_ne_true hpresent
      unfold busyRound
      split
      · next honce => exact .atOnce hunready hpresent honce
      · next hdelayed =>
          show WaitTurnSpec h started since v t
            (if (notedBy h v t).ceiling ≤ (readingAt h t).msSince started then _ else _)
          split
          · next hover => exact .exhausted hunready hpresent hdelayed hover
          · next hin => exact .busy hunready hpresent hdelayed (Int.not_le.mp hin)

theorem waitTurn_again (hb : waitTurn h started since (v, t) = .again (v', u)) :
    WaitTurnSpec h started since v t (.again (v', u)) := hb ▸ waitTurn_spec h started since v t

theorem waitTurn_done (hb : waitTurn h started since (v, t) = .done u) :
    WaitTurnSpec h started since v t (.done u) := hb ▸ waitTurn_spec h started since v t

/-- The turn sleeps before another poll. -/
def Sleeps (turn : Turn (WaitVars × Sys W) (Sys W)) : Prop :=
  ∃ v u older, turn = .again (v, u) ∧ u.trace = .slept (laserSpinupDelayMs * 1000) :: older

/-- **When a turn sleeps**: on no medium under its own ceiling, and on any other answer, but for a UNIT
    ATTENTION that is polled again at once, under the ceiling in force. -/
theorem sleeps_iff : Sleeps (waitTurn h started since (v, t)) ↔ Unready h t
    ∧ (((answerAt h t).1.isMediumNotPresent = true ∧ (answerAt h t).1.ascq ≠ 0x02
        ∧ (readingAt h t).msSince since < laserNoMediumMaxWallMs)
      ∨ ((answerAt h t).1.isMediumNotPresent = false ∧ ¬ AtOnce h v t
        ∧ (readingAt h t).msSince started < (notedBy h v t).ceiling)) := by
  have hspec := waitTurn_spec h started since v t
  have hslept : ∀ v', Sleeps (.again (v', sleptAfter h t)) := fun v' => ⟨v', _, _, rfl, rfl⟩
  have hdone : ∀ u : Sys W, ¬ Sleeps (.done u) := by
    rintro u ⟨_, _, _, heq, -⟩
    cases heq
  generalize waitTurn h started since (v, t) = turn at hspec
  cases hspec with
  | ready ho => exact ⟨fun hsleeps => absurd hsleeps (hdone _), fun hcond => absurd ho hcond.1.1⟩
  | gone ho => exact ⟨fun hsleeps => absurd hsleeps (hdone _), fun hcond => absurd ho hcond.1.2⟩
  | trayOpen hunready habsent hopen => simp [hdone, habsent, hopen]
  | noMedium hunready habsent hclosed hover => simp [hdone, habsent, hover]
  | loading hunready habsent hclosed hin => simp [hslept, hunready, habsent, hclosed, hin]
  | exhausted hunready hpresent hdelayed hover => simp [hdone, hpresent, hover]
  | busy hunready hpresent hdelayed hin => simp [hslept, hunready, hpresent, hdelayed, hin]
  | atOnce hunready hpresent honce =>
      refine ⟨?_, fun hcond => ?_⟩
      · rintro ⟨_, u, older, heq, htrace⟩
        injection heq with heq
        injection heq with _ heq
        have hsense := requestSenseLocked_spec h (pollAt h t).2
        rw [← heq] at htrace
        unfold answerAt at htrace
        generalize requestSenseLocked h (pollAt h t).2 = res at hsense htrace
        obtain ⟨sense, t'⟩ := res
        cases hsense <;> cases htrace
      · simp [hpresent, honce] at hcond

/-! ## The time a turn takes -/

theorem answeredAt_ge (hclock : h.Clock now) (t : Sys W) : now t.world ≤ answeredAt h now t := by
  have hpoll := hclock.send t.entry testUnitReadyRequest t.world
  have hsense := requestSenseLocked_now hclock (pollAt h t).2
  exact Int.le_trans hpoll hsense

/-- The reading is of a time after the answer. -/
theorem readingAt_ge (hclock : h.Clock now) (t : Sys W) :
    answeredAt h now t ≤ (readingAt h t).ns := hclock.read_ge _

theorem sleptAfter_ge (hclock : h.Clock now) (t : Sys W) :
    (readingAt h t).ns + laserSpinupDelayMs * 1000000 ≤ now (sleptAfter h t).world := by
  have hread := hclock.read_le (answerAt h t).2.world
  have hsleep := hclock.usleep (laserSpinupDelayMs * 1000) (h.clockGettime (answerAt h t).2.world).2
  show _ ≤ now (h.usleep (laserSpinupDelayMs * 1000) (h.clockGettime (answerAt h t).2.world).2)
  unfold readingAt
  omega

/-! ## The loop -/

/-- The next turn of the wait. -/
theorem InWait.next (hin : InWait h s n v t)
    (hb : waitTurn h (waitBegin h s).1 (waitBegin h s).2.1 (v, t) = .again (v', u)) :
    InWait h s (n + 1) v' u := hin.turn hb

/-- **The loop rule of the wait.** -/
theorem InWait.invariant {I : Nat → WaitVars → Sys W → Prop}
    (hkeep : ∀ k v t v' u, InWait h s k v t → I k v t →
      WaitTurnSpec h (waitBegin h s).1 (waitBegin h s).2.1 v t (.again (v', u)) → I (k + 1) v' u)
    (hin : InWait h s n v t) (hs : I 0 {} (waitBegin h s).2.2) : I n v t := by
  have hstep : ∀ (k : Nat) (p q : WaitVars × Sys W),
      Reaches (waitTurn h (waitBegin h s).1 (waitBegin h s).2.1) ({}, (waitBegin h s).2.2) k p →
      I k p.1 p.2 → waitTurn h (waitBegin h s).1 (waitBegin h s).2.1 p = .again q →
      I (k + 1) q.1 q.2 :=
    fun k p q hr hp hb => hkeep k _ _ _ _ hr hp (waitTurn_again hb)
  have hrun := Reaches.invariant_count hstep hin
  exact hrun hs

/-- A wait whose first poll passes has no other turn. -/
theorem InWait.first (hin : InWait h s n v t) (hpass : (pollAt h (waitBegin h s).2.2).1 = .pass) :
    t = (waitBegin h s).2.2 := by
  rcases Reaches.cases_head hin with ⟨-, heq⟩ | ⟨_, ⟨v', u⟩, -, hb, -⟩
  · injection heq
  · have hspec := waitTurn_again hb
    cases hspec with
    | loading hunready _ _ _ | atOnce hunready _ _ | busy hunready _ _ _ =>
        exact absurd hpass hunready.1

/-- A turn of a run on a concrete input, evaluated. -/
theorem InWait.of_run (n : Nat) {p : WaitVars → Sys W → Prop} [∀ v t, Decidable (p v t)]
    (hrun : (nthTurn (waitTurn h (waitBegin h s).1 (waitBegin h s).2.1) n
      ({}, (waitBegin h s).2.2)).any (fun q => decide (p q.1 q.2)) = true) :
    ∃ v t, InWait h s n v t ∧ p v t := by
  obtain ⟨⟨v, t⟩, hturn, hp⟩ := (Option.any_eq_true _ _).mp hrun
  exact ⟨v, t, .of_nthTurn hturn, of_decide_eq_true hp⟩

/-- The wait returns from one of its turns. -/
theorem laserWaitUntilReady_eq_some_iff {fuel : Nat} {s' : Sys W} :
    laserWaitUntilReady h fuel s = some s' ↔ ∃ n v t, n < fuel ∧ InWait h s n v t
      ∧ waitTurn h (waitBegin h s).1 (waitBegin h s).2.1 (v, t) = .done s' := by
  rw [laserWaitUntilReady_eq, iterate_eq_some_iff]
  constructor
  · rintro ⟨n, ⟨v, t⟩, hn, hr, hdone⟩
    exact ⟨n, v, t, hn, hr, hdone⟩
  · rintro ⟨n, v, t, hn, hr, hdone⟩
    exact ⟨n, (v, t), hn, hr, hdone⟩

end Liblaser
