import Liblaser.Scsi.SpinUp
import Liblaser.Scsi.CdbSpec

/-!
# `Scsi.Tray` — when the spin-up closes an open tray

START STOP UNIT with LOEJ set loads the medium, which on an open tray means closing it. The last rung
of the spin-up ladder sends it after any refusal that the rungs before did not recognise, and sense
02h/3Ah/02h, tray open, is one of those.

**`wait_keeps_tray_iff`**: this is the only way the readiness wait sends LOEJ to a tray it has just
been told is open. `wait_closes_tray` is one.
-/

namespace Liblaser

open Loop

variable {W : Type} {h : Host W} {s t : Sys W}

/-! ## What a trace says of the tray -/

/-- A START STOP UNIT whose byte 4 is 03h: START and LOEJ. -/
def ScsiEvent.isLoej : ScsiEvent → Bool
  | .sent _ req _ => req.cdb.getD 0 0 == 0x1b && req.cdb.getD 4 0 == 0x03
  | _ => false

def ScsiEvent.senseRead : ScsiEvent → Option Sense
  | .sense x => some x
  | _ => none

/-- The sense data read last. -/
def lastSense (trace : List ScsiEvent) : Option Sense := trace.findSome? ScsiEvent.senseRead

/-- It says the tray is open. -/
def traySeenOpen (trace : List ScsiEvent) : Bool := (lastSense trace).any Sense.isTrayOpen

/-- No START STOP UNIT with LOEJ went out while the tray was last seen open. -/
def KeepsTray : List ScsiEvent → Prop
  | [] => True
  | e :: older => (e.isLoej = true → traySeenOpen older = false) ∧ KeepsTray older

instance decidableKeepsTray : (trace : List ScsiEvent) → Decidable (KeepsTray trace)
  | [] => isTrue trivial
  | e :: older =>
    have := decidableKeepsTray older
    inferInstanceAs (Decidable ((e.isLoej = true → traySeenOpen older = false) ∧ KeepsTray older))

/-- `t` is `s` and later, and no LOEJ went out in between. -/
def Quiet (s t : Sys W) : Prop :=
  ∃ newer, t.trace = newer ++ s.trace ∧ ∀ e ∈ newer, e.isLoej = false

theorem Quiet.refl (s : Sys W) : Quiet s s := ⟨[], rfl, by simp⟩

theorem Quiet.trans {u : Sys W} (hst : Quiet s t) (htu : Quiet t u) : Quiet s u := by
  obtain ⟨newer, heq, hquiet⟩ := hst
  obtain ⟨newer', heq', hquiet'⟩ := htu
  refine ⟨newer' ++ newer, by rw [heq', heq, List.append_assoc], fun e he => ?_⟩
  exact (List.mem_append.mp he).elim (hquiet' e) (hquiet e)

theorem Quiet.cons {e : ScsiEvent} (heq : t.trace = e :: s.trace) (he : e.isLoej = false) :
    Quiet s t :=
  ⟨[e], heq, by simpa using he⟩

/-- A quiet stretch keeps the tray. -/
theorem Quiet.keepsTray_iff (hquiet : Quiet s t) : KeepsTray t.trace ↔ KeepsTray s.trace := by
  obtain ⟨newer, heq, hquiet⟩ := hquiet
  rw [heq]
  clear heq
  induction newer with
  | nil => rfl
  | cons e newer ih =>
      have he := hquiet e List.mem_cons_self
      rw [List.cons_append, KeepsTray, ih fun x hx => hquiet x (List.mem_cons_of_mem e hx)]
      simp [he]

/-! ## The steps of the wait -/

theorem RequestSenseSpec.quiet {sense : Option Sense} (hspec : RequestSenseSpec s sense t) :
    Quiet s t := by
  cases hspec with
  | unanswered => exact .cons rfl rfl
  | answered _ => exact ⟨[_, _], rfl, by simp [ScsiEvent.isLoej, requestSenseRequest]⟩

theorem SenseSpec.quiet {o : BotOutcome} {sense : Sense} (hspec : SenseSpec o s sense t) :
    Quiet s t := by
  cases hspec with
  | notAsked _ => exact .refl s
  | unanswered _ => exact .cons rfl rfl
  | answered _ _ => exact ⟨[_, _], rfl, by simp [ScsiEvent.isLoej, requestSenseRequest]⟩

/-- A sense that was read is the last one read. -/
theorem SenseSpec.lastSense {o : BotOutcome} {sense : Sense} (hspec : SenseSpec o s sense t)
    (hread : sense ≠ .unread) : lastSense t.trace = some sense := by
  cases hspec with
  | notAsked _ => exact absurd rfl hread
  | unanswered _ => exact absurd rfl hread
  | answered _ _ => rfl

/-- One START STOP UNIT: it went out, and the sense is that of its answer. -/
theorem startStopUnitLocked_spec (h : Host W) (immed byte4 : UInt8) (s : Sys W) :
    ∃ o s₁, s₁.trace = .sent .startStopUnit (startStopRequest immed byte4) o :: s.trace
      ∧ (startStopUnitLocked h immed byte4 s).1.status = o.cswStatus
      ∧ SenseSpec o s₁ (startStopUnitLocked h immed byte4 s).1.sense
          (startStopUnitLocked h immed byte4 s).2 := by
  obtain ⟨reply, w, -, hsend⟩ := s.send_eq h .startStopUnit (startStopRequest immed byte4)
  unfold startStopUnitLocked
  rw [hsend]
  exact ⟨reply.outcome, _, rfl, rfl, senseOf_spec h reply.outcome _⟩

/-- Without LOEJ it is quiet. -/
theorem startStopUnitLocked_quiet (h : Host W) (immed : UInt8) (s : Sys W) :
    Quiet s (startStopUnitLocked h immed 0x01 s).2 := by
  obtain ⟨o, s₁, htrace, -, hsense⟩ := startStopUnitLocked_spec h immed 0x01 s
  exact (Quiet.cons htrace rfl).trans hsense.quiet

/-- With LOEJ it keeps the tray when the tray was not last seen open. -/
theorem startStopUnitLocked_loej (h : Host W) (immed : UInt8) (s : Sys W) :
    KeepsTray (startStopUnitLocked h immed 0x03 s).2.trace
      ↔ traySeenOpen s.trace = false ∧ KeepsTray s.trace := by
  obtain ⟨o, s₁, htrace, -, hsense⟩ := startStopUnitLocked_spec h immed 0x03 s
  rw [hsense.quiet.keepsTray_iff, htrace, KeepsTray]
  simp [ScsiEvent.isLoej, startStopRequest, plainRequest]

/-- The first rungs are quiet, and a sense they report is the last one read. -/
theorem startRungs_spec (h : Host W) (s : Sys W) :
    Quiet s (startRungs h s).2
      ∧ ((startRungs h s).1.sense ≠ .unread →
          lastSense (startRungs h s).2.trace = some (startRungs h s).1.sense) := by
  obtain ⟨o, s₁, -, -, hsense⟩ := startStopUnitLocked_spec h 1 0x01 s
  have hquiet := startStopUnitLocked_quiet h 1 s
  unfold startRungs
  generalize startStopUnitLocked h 1 0x01 s = res at hsense hquiet
  obtain ⟨a, t⟩ := res
  dsimp only at hsense hquiet ⊢
  split
  · obtain ⟨o', s₂, -, -, hsense'⟩ := startStopUnitLocked_spec h 1 0x01 t
    exact ⟨hquiet.trans (startStopUnitLocked_quiet h 1 t), hsense'.lastSense⟩
  · exact ⟨hquiet, hsense.lastSense⟩

/-- **The ladder.** It keeps the tray unless its first rungs ended without PASS on a tray last seen
    open. -/
theorem spinUpLocked_keepsTray_iff (h : Host W) (hs : KeepsTray s.trace) :
    KeepsTray (spinUpLocked h s).trace
      ↔ ¬ ((startRungs h s).1.passed = false ∧ traySeenOpen (startRungs h s).2.trace = true) := by
  obtain ⟨hquiet, hlast⟩ := startRungs_spec h s
  unfold spinUpLocked
  generalize startRungs h s = res at hquiet hlast
  obtain ⟨a, t⟩ := res
  dsimp only at hquiet hlast ⊢
  have ht : KeepsTray t.trace := hquiet.keepsTray_iff.mpr hs
  -- a sense the ladder recognises was read, and is not that of an open tray
  have hrecognised : a.sense.isTrayOpen = false → a.sense ≠ .unread →
      traySeenOpen t.trace = false := by
    intro hclosed hread
    rw [traySeenOpen, hlast hread, Option.any_some, hclosed]
  split
  · next hpass => simp [ht, hpass]
  split
  · next hopcode =>
      have hclosed := hrecognised (by simp [Sense.isTrayOpen, Sense.isMediumNotPresent, hopcode.1])
        (fun heq => by rw [heq] at hopcode; exact absurd hopcode.1 (by decide))
      simp [ht, hclosed]
  split
  · next hready =>
      simp only [Sense.isBecomingReady, Bool.and_eq_true, beq_iff_eq] at hready
      have hclosed := hrecognised (by simp [Sense.isTrayOpen, Sense.isMediumNotPresent, hready.2])
        (fun heq => by rw [heq] at hready; exact absurd hready.1 (by decide))
      simp [ht, hclosed]
  split
  · next hfield =>
      have hclosed := hrecognised (by simp [Sense.isTrayOpen, Sense.isMediumNotPresent, hfield.1])
        (fun heq => by rw [heq] at hfield; exact absurd hfield.1 (by decide))
      have hlater := (startStopUnitLocked_quiet h 0 t).keepsTray_iff.mpr ht
      simp [hlater, hclosed]
  · next hpass _ _ _ =>
      rw [startStopUnitLocked_loej]
      simp [ht, eq_false_of_ne_true hpass]

/-! ## The whole wait -/

/-- A transaction that is no START STOP UNIT. -/
theorem Sys.send_quiet (h : Host W) (sender : Sender) (req : BotRequest) (s : Sys W)
    (hreq : req.cdb.getD 0 0 ≠ 0x1b) : Quiet s (s.send h sender req).2 :=
  .cons rfl (by simp only [ScsiEvent.isLoej, beq_eq_false_iff_ne.mpr hreq, Bool.false_and])

/-- Both ways a turn of the wait can go lead later, and quietly. -/
def TurnQuiet (s : Sys W) : Turn (WaitVars × Sys W) (Sys W) → Prop
  | .again (_, u) => Quiet s u
  | .done u => Quiet s u

theorem noMediumRound_quiet (h : Host W) (since : Timespec) (v : WaitVars) (sense : Sense)
    (hquiet : Quiet s t) : TurnQuiet s (noMediumRound h since v sense t) := by
  unfold noMediumRound
  split
  · exact hquiet.trans (Sys.send_quiet h _ mediaStatusRequest t (by decide))
  · obtain ⟨now, w, -, hclock⟩ := t.clockGettime_eq h
    rw [Sys.monotonicMsSince, hclock]
    dsimp only
    have hread : Quiet s { t with world := w } := hquiet
    split
    · exact hread.trans (Sys.send_quiet h _ mediaStatusRequest _ (by decide))
    · exact hread.trans (.cons (Sys.usleep_trace h _ _) rfl)

theorem busyRound_quiet (h : Host W) (started : Timespec) (v : WaitVars) (sense : Sense)
    (hquiet : Quiet s t) : TurnQuiet s (busyRound h started v sense t) := by
  unfold busyRound
  split
  · exact hquiet
  · obtain ⟨now, w, -, hclock⟩ := t.clockGettime_eq h
    rw [Sys.monotonicMsSince, hclock]
    dsimp only
    have hread : Quiet s { t with world := w } := hquiet
    generalize (if v.becomingReady = true then laserBecomingReadyMaxWallMs
      else laserSpinupMaxWallMs) = ceiling
    split
    · exact hread
    · exact hread.trans (.cons (Sys.usleep_trace h _ _) rfl)

theorem waitTurn_quiet (h : Host W) (started since : Timespec) (v : WaitVars) (s : Sys W) :
    TurnQuiet s (waitTurn h started since (v, s)) := by
  have hpoll : Quiet s (testUnitReadyLocked h s).2 :=
    Sys.send_quiet h .testUnitReady testUnitReadyRequest s (by decide)
  unfold waitTurn
  dsimp only
  generalize testUnitReadyLocked h s = res at hpoll ⊢
  obtain ⟨o, t₀⟩ := res
  dsimp only at hpoll ⊢
  split
  · exact hpoll
  · exact hpoll
  · have hpoll := hpoll.trans (requestSenseLocked_spec h t₀).quiet
    generalize requestSenseLocked h t₀ = res at hpoll ⊢
    obtain ⟨sense, t⟩ := res
    dsimp only at hpoll ⊢
    split
    · exact noMediumRound_quiet h since _ _ hpoll
    · exact busyRound_quiet h started _ _ hpoll

/-- A state of the readiness wait: at the start of one of its polls, or on return. -/
def DuringWait (h : Host W) (s t : Sys W) : Prop :=
  (∃ n v, InWait h s n v t) ∨ ∃ fuel, laserWaitUntilReady h fuel s = some t

/-- After the ladder the wait is quiet. -/
theorem DuringWait.quiet (hduring : DuringWait h s t) : Quiet (waitBegin h s).2.2 t := by
  have hstep : ∀ p q : WaitVars × Sys W, Quiet (waitBegin h s).2.2 p.2 →
      waitTurn h (waitBegin h s).1 (waitBegin h s).2.1 p = .again q →
      Quiet (waitBegin h s).2.2 q.2 := by
    intro p q hp hb
    have hturn := waitTurn_quiet h (waitBegin h s).1 (waitBegin h s).2.1 p.1 p.2
    rw [show waitTurn h _ _ (p.1, p.2) = _ from hb] at hturn
    exact hp.trans hturn
  rcases hduring with ⟨n, v, hin⟩ | ⟨fuel, hret⟩
  · exact Reaches.invariant (I := fun p => Quiet (waitBegin h s).2.2 p.2) hstep hin (Quiet.refl _)
  · rw [laserWaitUntilReady_eq] at hret
    obtain ⟨n, p, -, hr, hdone⟩ := iterate_eq_some_iff.mp hret
    have hturn := waitTurn_quiet h (waitBegin h s).1 (waitBegin h s).2.1 p.1 p.2
    rw [show waitTurn h _ _ (p.1, p.2) = _ from hdone] at hturn
    have hbefore := Reaches.invariant (I := fun p => Quiet (waitBegin h s).2.2 p.2) hstep hr
      (Quiet.refl _)
    exact hbefore.trans hturn

/-- What the first rungs of the wait's ladder come back with. -/
def firstRungs (h : Host W) (s : Sys W) : StartAnswer × Sys W :=
  startRungs h ((s.record .waitBegun).clockGettime h).2

/-- **When the readiness wait keeps an open tray open.** After a history that does, no START STOP UNIT
    with LOEJ is sent while the last sense data read says tray open, anywhere in the wait, exactly
    when its first rungs do not end without PASS on such sense data. -/
theorem wait_keeps_tray_iff (h : Host W) (s : Sys W) (hs : KeepsTray s.trace) :
    (∀ t, DuringWait h s t → KeepsTray t.trace)
      ↔ ¬ ((firstRungs h s).1.passed = false ∧ traySeenOpen (firstRungs h s).2.trace = true) := by
  have hbegin : KeepsTray ((s.record .waitBegun).clockGettime h).2.trace :=
    ⟨fun hloej => Bool.noConfusion hloej, hs⟩
  have hladder := spinUpLocked_keepsTray_iff h hbegin
  rw [firstRungs, ← hladder]
  constructor
  · intro hall
    exact hall (waitBegin h s).2.2 (.inl ⟨0, {}, .start⟩)
  · intro hkeeps t hduring
    exact hduring.quiet.keepsTray_iff.mpr hkeeps

/-- A drive that meets START STOP UNIT with UNIT ATTENTION, then with no medium, loads one on LOEJ, and is
    becoming ready for two polls. -/
theorem wait_keeps_tray_ready :
    let refused : List Scripted := [{ outcome := .failed 0x01 }, .sense 0x06 0x28 0x00,
      { outcome := .failed 0x01 }, .sense 0x02 0x3a 0x01]
    let busy : List Scripted := [{ outcome := .failed 0x01 }, .sense 0x02 0x04 0x01]
    let s : Sys Script :=
      ⟨{}, Script.ofList (refused ++ [{ outcome := .pass }] ++ busy ++ busy
        ++ [{ outcome := .pass }]), []⟩
    ∀ t, DuringWait .scripted s t → KeepsTray t.trace := by
  intro refused busy s
  exact (wait_keeps_tray_iff .scripted s trivial).mpr (by decide)

/-- **A tray closed on what was in it.** The first START STOP UNIT is refused with 02h/3Ah/02h, and the
    next thing sent is LOEJ. -/
theorem wait_closes_tray :
    let s : Sys Script := ⟨{}, Script.ofList [{ outcome := .failed 0x01 }, .sense 0x02 0x3a 0x02,
      { outcome := .pass }, { outcome := .pass }], []⟩
    ∃ t, laserWaitUntilReady .scripted 1 s = some t ∧ DuringWait .scripted s t
      ∧ ¬ KeepsTray t.trace :=
  ⟨_, rfl, .inr ⟨1, rfl⟩, by decide⟩

end Liblaser
