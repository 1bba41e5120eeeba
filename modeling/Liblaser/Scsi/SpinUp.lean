import Liblaser.Scsi.Cdb

/-!
# `Scsi.SpinUp` — START STOP UNIT and the readiness wait

`spin_up_locked()`, the ladder of START STOP UNIT shapes, and `laser_wait_until_ready()`, the loop of
TEST UNIT READY polls that follows it. The loop is bounded by the clock alone, so it is run on fuel like
the one of `Scsi.Cdb`. Clock readings that only feed a log line are left out.

`startRungs` is the ladder down to the point where only the catch-all is left; what it decides is what
`Scsi.Tray` is about.
-/

namespace Liblaser

open Loop

variable {W : Type}

/-- `LASER_SPINUP_DELAY_MS`. -/
def laserSpinupDelayMs : Nat := 500

/-- `LASER_SPINUP_MAX_WALL_MS`. -/
def laserSpinupMaxWallMs : Int := 15000

/-- `LASER_SPINUP_MAX_UNIT_ATTENTIONS`. -/
def laserSpinupMaxUnitAttentions : Nat := 4

/-- `LASER_NO_MEDIUM_MAX_WALL_MS`. -/
def laserNoMediumMaxWallMs : Int := 4000

/-! ## START STOP UNIT -/

/-- START STOP UNIT in one shape: byte 1 bit 0 IMMED, byte 4 bit 0 START and bit 1 LOEJ. -/
def startStopRequest (immed byte4 : UInt8) : BotRequest :=
  plainRequest [0x1b, immed, 0, 0, byte4, 0]

/-- What one START STOP UNIT came back with: the CSW status (`none` for the -1 of "no CSW") and the
    sense triple. -/
structure StartAnswer where
  status : Option UInt8
  sense : Sense
deriving DecidableEq, Repr

/-- `start_stop_unit_locked()`. -/
def startStopUnitLocked (h : Host W) (immed byte4 : UInt8) (s : Sys W) : StartAnswer × Sys W :=
  let (reply, s) := s.send h .startStopUnit (startStopRequest immed byte4)
  let (sense, s) := senseOf h reply.outcome s
  (⟨reply.outcome.cswStatus, sense⟩, s)

/-- Did the CSW say PASS? -/
def StartAnswer.passed (a : StartAnswer) : Bool := a.status == some usbBotStatusPass

/-- Rungs 1 and 1b: IMMED and START, once more after a UNIT ATTENTION. -/
def startRungs (h : Host W) (s : Sys W) : StartAnswer × Sys W :=
  let (a, s) := startStopUnitLocked h 1 0x01 s
  if !a.passed ∧ a.sense.isUnitAttention then startStopUnitLocked h 1 0x01 s
  else (a, s)

/-- `spin_up_locked()`. -/
def spinUpLocked (h : Host W) (s : Sys W) : Sys W :=
  let (a, s) := startRungs h s
  if a.passed then s
  -- the drive has no START STOP UNIT: nothing here can ask it to load
  else if a.sense.key = 0x05 ∧ a.sense.asc = 0x20 then s
  else if a.sense.isBecomingReady then s
  -- it does not take IMMED
  else if a.sense.key = 0x05 ∧ a.sense.asc = 0x24 then (startStopUnitLocked h 0 0x01 s).2
  -- any other refusal, a tray reported open among them: load the medium
  else (startStopUnitLocked h 1 0x03 s).2

/-! ## The readiness wait -/

/-- GET EVENT STATUS NOTIFICATION, media class, polled. -/
def mediaStatusRequest : BotRequest where
  cdb := [0x4a, 0x01, 0, 0, 0x10, 0, 0, 0x00, 0x08, 0]
  data := some (List.replicate 8 0)
  dataLen := 8
  dataIn := true
  wantActualLen := true
  dataLen_lt := by decide

/-- `log_media_status_locked()`: its answer is only logged. -/
def logMediaStatusLocked (h : Host W) (s : Sys W) : Sys W := (s.send h .mediaStatus mediaStatusRequest).2

/-- The locals of the wait's loop. -/
structure WaitVars where
  becomingReady : Bool := false
  unitAttentions : Nat := 0
deriving DecidableEq, Repr

/-- What a failed poll leaves in them. `++unit_attentions` is evaluated after a UNIT ATTENTION only. -/
def WaitVars.note (v : WaitVars) (sense : Sense) : WaitVars where
  becomingReady := v.becomingReady || sense.isBecomingReady
  unitAttentions := if sense.isUnitAttention then v.unitAttentions + 1 else v.unitAttentions

/-- `monotonic_ms_since()`. -/
def Sys.monotonicMsSince (h : Host W) (start : Timespec) (s : Sys W) : Int × Sys W :=
  let (now, s) := s.clockGettime h
  (now.msSince start, s)

/-- A poll answered 02h/3Ah: the tray is open, or the shorter ceiling has passed, or wait. -/
def noMediumRound (h : Host W) (noMediumSince : Timespec) (v : WaitVars) (sense : Sense) (s : Sys W) :
    Turn (WaitVars × Sys W) (Sys W) :=
  -- only a person can close the tray
  if sense.ascq = 0x02 then .done (logMediaStatusLocked h s)
  else
    let (noMediumMs, s) := s.monotonicMsSince h noMediumSince
    if laserNoMediumMaxWallMs ≤ noMediumMs then .done (logMediaStatusLocked h s)
    else .again (v, s.usleep h (laserSpinupDelayMs * 1000))

/-- A poll answered anything else: again at once after the first UNIT ATTENTIONs, or up to the ceiling
    in force. -/
def busyRound (h : Host W) (started : Timespec) (v : WaitVars) (sense : Sense) (s : Sys W) :
    Turn (WaitVars × Sys W) (Sys W) :=
  if sense.isUnitAttention ∧ v.unitAttentions ≤ laserSpinupMaxUnitAttentions then .again (v, s)
  else
    let (elapsed, s) := s.monotonicMsSince h started
    let ceiling := if v.becomingReady then laserBecomingReadyMaxWallMs else laserSpinupMaxWallMs
    if ceiling ≤ elapsed then .done s
    else .again (v, s.usleep h (laserSpinupDelayMs * 1000))

/-- One turn of the wait: a TEST UNIT READY, and the sense of one that failed. -/
def waitTurn (h : Host W) (started noMediumSince : Timespec) :
    WaitVars × Sys W → Turn (WaitVars × Sys W) (Sys W)
  | (v, s) =>
    let (outcome, s) := testUnitReadyLocked h s
    match outcome with
    | .pass => .done (s.setNotReady false)
    | .noDevice => .done s
    | _ =>
      let (sense, s) := requestSenseLocked h s
      let sense := sense.getD .unread
      if sense.isMediumNotPresent then noMediumRound h noMediumSince (v.note sense) sense s
      else busyRound h started (v.note sense) sense s

/-- The wait up to its loop: when it started, when START STOP UNIT had gone out, and the state with
    `not_ready` raised. -/
def waitBegin (h : Host W) (s : Sys W) : Timespec × Timespec × Sys W :=
  let (started, s) := (s.record .waitBegun).clockGettime h
  let s := spinUpLocked h s
  let (noMediumSince, s) := s.clockGettime h
  (started, noMediumSince, s.setNotReady true)

/-- `laser_wait_until_ready()`; `none` when it has not returned within `fuel` polls. -/
def laserWaitUntilReady (h : Host W) (fuel : Nat) (s : Sys W) : Option (Sys W) :=
  let (started, noMediumSince, s) := waitBegin h s
  iterate (waitTurn h started noMediumSince) fuel ({}, s)

theorem laserWaitUntilReady_eq (h : Host W) (fuel : Nat) (s : Sys W) :
    laserWaitUntilReady h fuel s = iterate (waitTurn h (waitBegin h s).1 (waitBegin h s).2.1) fuel
      ({}, (waitBegin h s).2.2) := rfl

/-- A state of the wait's loop: its turn number `n` begins there. -/
def InWait (h : Host W) (s : Sys W) (n : Nat) (v : WaitVars) (t : Sys W) : Prop :=
  Reaches (waitTurn h (waitBegin h s).1 (waitBegin h s).2.1) ({}, (waitBegin h s).2.2) n (v, t)

/-- `laser_token_settle()` on the token of the entry. -/
def laserTokenSettle (h : Host W) (fuel : Nat) (s : Sys W) : Option (Sys W) :=
  if !s.entry.inUse ∨ s.entry.deviceGone then some s
  else
    let (cancelled, s) := s.isCancelled h
    if cancelled then some s
    else
      let (outcome, s) := testUnitReadyLocked h s
      if outcome = .pass ∨ outcome = .noDevice then some s
      else laserWaitUntilReady h fuel s

end Liblaser
