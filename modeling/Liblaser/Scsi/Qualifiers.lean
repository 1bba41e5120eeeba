import Liblaser.Scsi.Ceilings
import Liblaser.Scsi.Tray

/-!
# `Scsi.Qualifiers` — who earns the long wait

02h/04h says not ready, and its qualifier why: 01h that the drive is becoming ready, the others that it
waits for a command, or for a person. The comments give the long wait, of the readiness wait and of a
command, to 04h/01h. The code looks at 04h alone.

**`longWait_iff`**: without 04h/01h, a command sends its CDB seven times at most if none of its answers is
02h/04h with another qualifier, and the readiness wait keeps to its short ceiling exactly when no poll is
answered past it after such an answer. `longWait_initializing` has both wait for a drive that waits for a
command.
-/

namespace Liblaser

open Loop

variable {W : Type} {h : Host W} {call : CdbCall} {v v' : CdbVars} {s t u : Sys W} {o : BotOutcome}
  {sense : Sense} {n : Nat} {w : WaitVars}

/-- 02h/04h/01h, the drive is becoming ready. -/
def Sense.saysBecomingReady (sense : Sense) : Bool := sense.isBecomingReady && sense.ascq == 0x01

/-- 02h/04h with any other qualifier. -/
def Sense.isOtherNotReady (sense : Sense) : Bool := sense.isBecomingReady && sense.ascq != 0x01

theorem Sense.isBecomingReady_iff : sense.isBecomingReady = true
    ↔ sense.saysBecomingReady = true ∨ sense.isOtherNotReady = true := by
  unfold saysBecomingReady isOtherNotReady
  by_cases hascq : sense.ascq = 0x01 <;> simp [hascq]

/-! ## A command -/

/-- A state of the call: at the start of one of its turns, or on return. -/
def DuringCall (h : Host W) (call : CdbCall) (s t : Sys W) : Prop :=
  (∃ n v, InLoop h call s n v t) ∨ ∃ r, Returns h call s r t

/-- The sense data read, newest first. -/
def sensesRead (trace : List ScsiEvent) : List Sense := trace.filterMap ScsiEvent.senseRead

/-- None of the sense data read so far is of this kind. -/
def NeverRead (kind : Sense → Bool) (trace : List ScsiEvent) : Prop :=
  ∀ sense ∈ sensesRead trace, kind sense = false

instance (kind : Sense → Bool) (trace : List ScsiEvent) : Decidable (NeverRead kind trace) :=
  inferInstanceAs (Decidable (∀ sense ∈ sensesRead trace, _))

theorem NeverRead.suffix {kind : Sense → Bool} {trace trace' : List ScsiEvent}
    (hnever : NeverRead kind trace') (hlater : trace <:+ trace') : NeverRead kind trace :=
  fun sense hmem => hnever sense ((hlater.filterMap _).subset hmem)

/-- A sense that says something is among those read. -/
theorem Failed.sense_mem (hfailed : Failed h call v s o sense v' t) (hread : sense ≠ .unread) :
    sense ∈ sensesRead t.trace := by
  obtain ⟨_, _, -, -, hsense, -⟩ := hfailed.asked
  cases hsense with
  | notAsked _ | unanswered _ => exact absurd rfl hread
  | answered _ _ => exact List.mem_cons_self

/-- The command is not waited for: no answer of it is 02h/04h, or it must not be repeated. -/
def NotWaited (call : CdbCall) (trace : List ScsiEvent) : Prop :=
  NeverRead Sense.isBecomingReady trace ∨ call.idempotent = false

/-- Without a wait, every turn has spent an attempt, but for one 28h/00h. -/
structure FewSends (n : Nat) (v : CdbVars) (t : Sys W) : Prop where
  waiting : v.becomingReady = none
  sends : (cdbOutcomes t.trace).length = n
  spent : n + 1 = v.attempt ∨ (n = v.attempt ∧ t.entry.notReady = false)
  attempt_le : v.attempt ≤ laserMaxRetries + 1

/-- 02h/04h is not answered by a wait in such a call. -/
theorem NotWaited.not_becomingReady (hnot : NotWaited call u.trace)
    (hfailed : Failed h call v s o sense v' t) (hlater : t.trace <:+ u.trace)
    (hsafe : call.idempotent = true ∨ o = .notSent) : sense.isBecomingReady = false := by
  apply eq_false_of_ne_true
  intro hready
  have hread := Sense.read_of_becomingReady hready
  rcases hnot with hnever | hidem
  · rw [hnever sense ((hlater.filterMap _).subset (hfailed.sense_mem hread))] at hready
    cases hready
  · rcases hsafe with hidem' | rfl
    · rw [hidem] at hidem'
      cases hidem'
    · exact hread hfailed.sense_of_notSent

theorem AgainSpec.fewSends (hspec : AgainSpec h call v s v' u) (hnot : NotWaited call u.trace)
    (hI : FewSends n v s) : FewSends (n + 1) v' u := by
  obtain ⟨hwaiting, hsends, hspent, -⟩ := hI
  have hsends' : (Liblaser.cdbOutcomes u.trace).length = n + 1 := by
    rw [hspec.sends, List.length_cons, hsends]
  have hle := hspec.attempt_le
  cases hspec with
  | mediumReady hfailed _ hup =>
      -- the entry's flag was up, and is not any more
      have hattempt := hfailed.vars.1
      have hflag : s.entry.notReady = true := by
        rcases hup with hup | hup
        · rw [hwaiting] at hup
          cases hup
        · exact hup
      rcases hspent with hspent | ⟨-, hdown⟩
      · exact ⟨rfl, hsends', .inr ⟨hspent.trans hattempt.symm, rfl⟩, by dsimp only; omega⟩
      · rw [hflag] at hdown
        cases hdown
  | free hfailed hready hsafe hwait _ _ =>
      rw [hnot.not_becomingReady hfailed (hwait.suffix.trans ⟨[_, _], rfl⟩) hsafe] at hready
      cases hready
  | late hfailed hready hsafe hwait _ _ hspent =>
      rw [hnot.not_becomingReady hfailed (hwait.suffix.trans hspent.suffix) hsafe] at hready
      cases hready
  | retried hfailed _ _ _ hpaid =>
      obtain ⟨hattempt, hkept, hflag, -, -⟩ := hfailed.vars
      have hready := hpaid.notReady
      refine ⟨hkept.trans hwaiting, hsends', ?_, ?_⟩
      · rcases hspent with hspent | ⟨hspent, hdown⟩
        · exact .inl (by simp only [CdbVars.spend]; omega)
        · refine .inr ⟨by simp only [CdbVars.spend]; omega, ?_⟩
          rw [hready, hflag, hdown]
      · simp only [CdbVars.spend]
        omega

theorem InLoop.fewSends (hs : s.trace = []) (hin : InLoop h call s n v t)
    (hnot : NotWaited call t.trace) : FewSends n v t := by
  revert hnot
  apply hin.invariant (I := fun n v t => NotWaited call t.trace → FewSends n v t)
  · intro k v t v' u _ hI hspec hnot
    have hbefore : NotWaited call t.trace := hnot.imp (fun hnever => hnever.suffix hspec.suffix) id
    exact hspec.fewSends hnot (hI hbefore)
  · intro _
    refine ⟨rfl, ?_, .inl rfl, by decide⟩
    rw [precheck_cdbOutcomes, hs]
    rfl

/-- **A command that is not waited for** sends its CDB seven times at most. -/
theorem sends_le_of_notWaited (hs : s.trace = []) (hduring : DuringCall h call s t)
    (hnot : NotWaited call t.trace) : (cdbOutcomes t.trace).length ≤ laserMaxRetries + 1 := by
  have hturn : ∀ {n v}, FewSends n v t → (cdbOutcomes t.trace).length ≤ laserMaxRetries + 1 := by
    rintro n v ⟨-, hsends, hspent, hle⟩
    omega
  rcases hduring with ⟨n, v, hin⟩ | ⟨r, hret⟩
  · exact hturn (hin.fewSends hs hnot)
  · rcases hret.cases with ⟨st, -, -, rfl⟩ | ⟨n, v, t₁, v', u, hin, hdone, -, rfl⟩
    · rw [precheck_cdbOutcomes, hs]
      exact Nat.zero_le _
    · rw [conclude_trace] at hnot ⊢
      have hspec := cdbTurn_done hdone
      have hbefore : NotWaited call t₁.trace :=
        hnot.imp (fun hnever => hnever.suffix hspec.suffix) id
      obtain ⟨-, hsends, hspent, hle⟩ := hin.fewSends hs hbefore
      rcases hspec.cdbOutcomes with ⟨heq, -⟩ | ⟨⟨o, heq⟩, hlast, -⟩
      · rw [heq]
        omega
      · rw [heq, List.length_cons]
        omega

/-! ## The readiness wait -/

/-- No poll of the wait is answered 02h/04h/01h. -/
def NeverBecoming (h : Host W) (s : Sys W) : Prop :=
  ∀ n v t, InWait h s n v t → Unready h t → (answerAt h t).1.saysBecomingReady = false

/-- The wait sleeps under its short ceiling only, on an answer other than no medium. -/
def KeepsShortCeiling (h : Host W) (s : Sys W) : Prop :=
  ∀ n v t, InWait h s n v t → Sleeps (waitTurn h (waitBegin h s).1 (waitBegin h s).2.1 (v, t)) →
    (answerAt h t).1.isMediumNotPresent = false →
    (readingAt h t).ns < (waitBegin h s).1.ns + laserSpinupMaxWallMs * 1000000

/-- A poll of the wait, this turn's or one before it, was answered 02h/04h with a qualifier other than
    01h. -/
def OtherAnswered (h : Host W) (s : Sys W) (n : Nat) : Prop :=
  ∃ m v t, m ≤ n ∧ InWait h s m v t ∧ Unready h t ∧ (answerAt h t).1.isOtherNotReady = true

/-- The answer, not one of no medium nor a UNIT ATTENTION to be polled again at once, is read of between
    the short ceiling and the long one, after an answer of `OtherAnswered`. -/
structure BusyLate (h : Host W) (s : Sys W) (n : Nat) (v : WaitVars) (t : Sys W) : Prop where
  unready : Unready h t
  present : (answerAt h t).1.isMediumNotPresent = false
  delayed : ¬ AtOnce h v t
  late : (waitBegin h s).1.ns + laserSpinupMaxWallMs * 1000000 ≤ (readingAt h t).ns
  inTime : (readingAt h t).msSince (waitBegin h s).1 < laserBecomingReadyMaxWallMs
  other : OtherAnswered h s n

/-- The flag is up when a poll was answered 02h/04h. -/
theorem InWait.becomingReady_iff (hin : InWait h s n w t) : w.becomingReady = true
    ↔ ∃ m v t, m < n ∧ InWait h s m v t ∧ Unready h t ∧ (answerAt h t).1.isBecomingReady = true := by
  apply hin.invariant (I := fun n w _ => w.becomingReady = true
    ↔ ∃ m v t, m < n ∧ InWait h s m v t ∧ Unready h t ∧ (answerAt h t).1.isBecomingReady = true)
  · intro k v t v' u hink hI hspec
    have hturn : v' = notedBy h v t ∧ Unready h t := by
      cases hspec with
      | loading hunready _ _ _ | atOnce hunready _ _ | busy hunready _ _ _ => exact ⟨rfl, hunready⟩
    obtain ⟨rfl, hunready⟩ := hturn
    have hnote : (notedBy h v t).becomingReady
        = (v.becomingReady || (answerAt h t).1.isBecomingReady) := rfl
    rw [hnote, Bool.or_eq_true, hI]
    constructor
    · rintro (⟨m, v₁, t₁, hm, hbefore⟩ | hready)
      · exact ⟨m, v₁, t₁, Nat.lt_succ_of_lt hm, hbefore⟩
      · exact ⟨k, v, t, Nat.lt_succ_self k, hink, hunready, hready⟩
    · rintro ⟨m, v₁, t₁, hm, hinm, hbefore⟩
      rcases Nat.lt_succ_iff_lt_or_eq.mp hm with hlt | rfl
      · exact .inl ⟨m, v₁, t₁, hlt, hinm, hbefore⟩
      · have hsame := Reaches.unique hinm hink
        injection hsame with _ hsame
        exact .inr (hsame ▸ hbefore.2)
  · simp

/-- The long ceiling is in force after an answer of `OtherAnswered`, and only then. -/
theorem InWait.ceiling (hin : InWait h s n w t) (hnever : NeverBecoming h s) (hunready : Unready h t) :
    ((notedBy h w t).ceiling = laserBecomingReadyMaxWallMs ∧ OtherAnswered h s n)
      ∨ ((notedBy h w t).ceiling = laserSpinupMaxWallMs ∧ ¬ OtherAnswered h s n) := by
  have hup : (notedBy h w t).becomingReady = true ↔ OtherAnswered h s n := by
    have hnote : (notedBy h w t).becomingReady
        = (w.becomingReady || (answerAt h t).1.isBecomingReady) := rfl
    rw [hnote, Bool.or_eq_true, hin.becomingReady_iff]
    constructor
    · rintro (⟨m, v₁, t₁, hm, hinm, hunready₁, hready⟩ | hready)
      · refine ⟨m, v₁, t₁, Nat.le_of_lt hm, hinm, hunready₁, ?_⟩
        exact (Sense.isBecomingReady_iff.mp hready).resolve_left
          (by rw [hnever m v₁ t₁ hinm hunready₁]; decide)
      · refine ⟨n, w, t, Nat.le_refl n, hin, hunready, ?_⟩
        exact (Sense.isBecomingReady_iff.mp hready).resolve_left
          (by rw [hnever n w t hin hunready]; decide)
    · rintro ⟨m, v₁, t₁, hm, hinm, hunready₁, hother⟩
      have hready := Sense.isBecomingReady_iff.mpr (.inr hother)
      rcases Nat.lt_or_eq_of_le hm with hlt | rfl
      · exact .inl ⟨m, v₁, t₁, hlt, hinm, hunready₁, hready⟩
      · have hsame := Reaches.unique hinm hin
        injection hsame with _ hsame
        exact .inr (hsame ▸ hready)
  by_cases hother : OtherAnswered h s n
  · exact .inl ⟨if_pos (hup.mpr hother), hother⟩
  · exact .inr ⟨if_neg fun hraised => hother (hup.mp hraised), hother⟩

/-- **When the wait keeps to its short ceiling** without an 02h/04h/01h. -/
theorem keepsShortCeiling_iff (hnever : NeverBecoming h s) :
    KeepsShortCeiling h s ↔ ∀ n v t, InWait h s n v t → ¬ BusyLate h s n v t := by
  constructor
  · rintro hkeeps n v t hin ⟨hunready, hpresent, hdelayed, hlate, hinTime, hother⟩
    have hceiling : (notedBy h v t).ceiling = laserBecomingReadyMaxWallMs :=
      (hin.ceiling hnever hunready).elim And.left fun hnone => absurd hother hnone.2
    have hsleeps : Sleeps (waitTurn h (waitBegin h s).1 (waitBegin h s).2.1 (v, t)) :=
      sleeps_iff.mpr ⟨hunready, .inr ⟨hpresent, hdelayed, hceiling ▸ hinTime⟩⟩
    exact absurd (hkeeps n v t hin hsleeps hpresent) (Int.not_lt.mpr hlate)
  · intro hnone n v t hin hsleeps hpresent
    obtain ⟨hunready, ⟨habsent, -, -⟩ | ⟨-, hdelayed, hinTime⟩⟩ := sleeps_iff.mp hsleeps
    · rw [hpresent] at habsent
      cases habsent
    · rcases hin.ceiling hnever hunready with ⟨hceiling, hother⟩ | ⟨hceiling, -⟩
      · apply Int.not_le.mp
        intro hlate
        exact hnone n v t hin ⟨hunready, hpresent, hdelayed, hlate, hceiling ▸ hinTime, hother⟩
      · rw [hceiling] at hinTime
        exact Timespec.lt_of_msSince_lt hinTime

/-! ## Both -/

/-- **Who earns the long wait.** Of a stream of answers without 02h/04h/01h: a command of which no answer
    is 02h/04h with another qualifier, or which must not be repeated, sends its CDB seven times at most;
    and the readiness wait keeps to its short ceiling exactly when no poll is answered past it after such
    an answer. -/
theorem longWait_iff {W : Type} (h : Host W) :
    (∀ (call : CdbCall) (s t : Sys W), s.trace = [] → DuringCall h call s t →
      NeverRead Sense.saysBecomingReady t.trace →
      NeverRead Sense.isOtherNotReady t.trace ∨ call.idempotent = false →
      (cdbOutcomes t.trace).length ≤ laserMaxRetries + 1)
    ∧ ∀ s : Sys W, NeverBecoming h s →
      (KeepsShortCeiling h s ↔ ∀ n v t, InWait h s n v t → ¬ BusyLate h s n v t) := by
  refine ⟨?_, fun s hnever => keepsShortCeiling_iff hnever⟩
  intro call s t hs hduring hbecoming hother
  refine sends_le_of_notWaited hs hduring (hother.imp (fun hother => ?_) id)
  intro sense hmem
  apply eq_false_of_ne_true
  intro hready
  rcases Sense.isBecomingReady_iff.mp hready with hkind | hkind
  · rw [hbecoming sense hmem] at hkind
    cases hkind
  · rw [hother sense hmem] at hkind
    cases hkind

/-- A read that spends attempts on a UNIT ATTENTION, a hardware error, a phase error and a medium error; and
    a drive that is polled through UNIT ATTENTION, initializing command required, and no medium. -/
theorem longWait_ready :
    (let script := Script.ofList [{ outcome := .failed 0x01 }, .sense 0x06 0x29 0x00,
        { outcome := .failed 0x01 }, .sense 0x04 0x08 0x00, { outcome := .phaseError true },
        { outcome := .failed 0x01 }, .sense 0x03 0x11 0x00, { outcome := .pass }]
      ∃ r t, Returns .scripted readBlock16 ⟨{ inUse := true }, script, []⟩ r t
        ∧ (cdbOutcomes t.trace).length ≤ laserMaxRetries + 1)
    ∧ KeepsShortCeiling .timed ⟨{}, ⟨[({ outcome := .pass }, 3000),
        ({ outcome := .failed 0x01 }, 0), (.sense 0x06 0x29 0x00, 0),
        ({ outcome := .failed 0x01 }, 4000), (.sense 0x02 0x04 0x02, 4000),
        ({ outcome := .failed 0x01 }, 3000), (.sense 0x02 0x3a 0x01, 9000)], 0⟩, []⟩ := by
  constructor
  · intro script
    have hcall : ∃ r t, Returns .scripted readBlock16 ⟨{ inUse := true }, script, []⟩ r t
        ∧ NeverRead Sense.saysBecomingReady t.trace ∧ NeverRead Sense.isOtherNotReady t.trace :=
      Returns.of_run 5 (by decide +kernel)
    obtain ⟨r, t, hret, hbecoming, hother⟩ := hcall
    exact ⟨r, t, hret, (longWait_iff .scripted).1 readBlock16 _ t rfl (.inr ⟨r, hret⟩) hbecoming
      (.inl hother)⟩
  · refine ((longWait_iff .timed).2 _ ?_).mpr ?_
    · intro n v t hin
      exact Reaches.all_of_nthTurn
        (P := fun p => Unready .timed p.2 → (answerAt .timed p.2).1.saysBecomingReady = false) 3
        (by decide +kernel) (by decide +kernel) hin
    · intro n v t hin hbusy
      have hearly := Reaches.all_of_nthTurn
        (P := fun p => (answerAt .timed p.2).1.isMediumNotPresent = false →
          (readingAt .timed p.2).ns < laserSpinupMaxWallMs * 1000000) 3
        (by decide +kernel) (by decide +kernel) hin
      exact Int.not_lt.mpr hbusy.late (hearly hbusy.present)

/-- **A drive that waits for a command is waited for.** It answers 02h/04h/02h, initializing command
    required: a READ(10) is sent eight times; and the readiness wait, both transactions of whose first poll
    take eight seconds, sleeps past its short ceiling. -/
theorem longWait_initializing :
    (let busy := [{ outcome := .failed 0x01 }, .sense 0x02 0x04 0x02]
      let script := Script.ofList ((List.replicate 7 busy).flatten ++ [{ outcome := .pass }])
      ∃ r t, Returns .scripted readBlock16 ⟨{ inUse := true }, script, []⟩ r t
        ∧ NeverRead Sense.saysBecomingReady t.trace
        ∧ laserMaxRetries + 1 < (cdbOutcomes t.trace).length)
    ∧ (let s : Sys TimedScript := ⟨{}, ⟨[({ outcome := .pass }, 0),
          ({ outcome := .failed 0x01 }, 8000), (.sense 0x02 0x04 0x02, 8000), ({ outcome := .pass }, 0)],
          0⟩, []⟩
      NeverBecoming .timed s ∧ ¬ KeepsShortCeiling .timed s) := by
  constructor
  · intro busy script
    exact Returns.of_run 8 (by decide +kernel)
  · intro s
    refine ⟨?_, ?_⟩
    · intro n v t hin
      exact Reaches.all_of_nthTurn
        (P := fun p => Unready .timed p.2 → (answerAt .timed p.2).1.saysBecomingReady = false) 2
        (by decide +kernel) (by decide +kernel) hin
    · intro hkeeps
      have hsleeps := @sleeps_iff _ .timed (waitBegin .timed s).1 (waitBegin .timed s).2.1 {}
        (waitBegin .timed s).2.2
      have hunder := hkeeps 0 {} _ .start (hsleeps.mpr (by decide +kernel)) (by decide +kernel)
      exact absurd hunder (by decide +kernel)

end Liblaser
