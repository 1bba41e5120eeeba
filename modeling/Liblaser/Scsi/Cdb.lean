import Liblaser.Lib.Loop
import Liblaser.Scsi.Host

/-!
# `Scsi.Cdb` — `laser_scsi_cdb()`, the retrying command

The one function every command goes through. Its `for` loop is `Loop.iterate` over `cdbTurn`: a turn
looks at the cancelled flag, runs the transaction, reads the sense of a failure, and asks `classify`
what that means. `classify` is the chain of tests in the order of the source; the order is the point
of several properties, so nothing of it is merged.

The loop has no bound of its own: two branches give an attempt back, so `laserScsiCdb` is run on fuel
and `none` is "has not returned yet". `Returns` is "returns", whatever the fuel.
-/

namespace Liblaser

open Bytes Loop

variable {W : Type}

/-! ## Constants -/

/-- `LASER_MAX_RETRIES`. -/
def laserMaxRetries : Nat := 6

/-- `LASER_RETRY_DELAY_MS`. -/
def laserRetryDelayMs : Nat := 500

/-- `LASER_BECOMING_READY_MAX_WALL_MS`. -/
def laserBecomingReadyMaxWallMs : Int := 30000

/-! ## CSS commands -/

/-- `laser_cdb_changes_css_state()`. -/
def laserCdbChangesCssState (cdb : List UInt8) : Bool :=
  if cdb.length < 12 then false
  else if cdb.getD 0 0 = 0xA4 then
    -- REPORT KEY
    let fmt := cdb.getD 10 0 &&& 0x3f
    fmt == 0x00 || fmt == 0x01 || fmt == 0x02 || fmt == 0x04 || fmt == 0x3f
  else if cdb.getD 0 0 = 0xA3 then
    -- SEND KEY
    let fmt := cdb.getD 10 0 &&& 0x3f
    fmt == 0x01 || fmt == 0x03
  else if cdb.getD 0 0 = 0xAD then
    -- READ DVD STRUCTURE
    !(cdb.getD 7 0 == 0x00 || cdb.getD 7 0 == 0x01)
  else false

/-! ## The call -/

/-- The arguments of one `laser_scsi_cdb()`. `cdb` is the `cdb_len` bytes, and empty for a `NULL`
    pointer or a length not above zero; a `NULL` buffer is `none`; `dataLen` is a C `int`. -/
structure CdbCall where
  cdb : List UInt8
  data : Option (List UInt8)
  dataLen : Int
  dataIn : Bool
  wantActualLen : Bool
  dataLen_lt : dataLen < 2 ^ 31
deriving DecidableEq, Repr

/-- Does the call pass the argument checks? -/
def CdbCall.valid (call : CdbCall) : Bool :=
  !(call.cdb.isEmpty || 16 < call.cdb.length)
    && !(call.dataLen < 0 || (call.data.isNone && 0 < call.dataLen))

/-- What the loop hands to `laser_bot_send_locked()`, every time the same. -/
def CdbCall.request (call : CdbCall) : BotRequest where
  cdb := call.cdb
  data := call.data
  dataLen := call.dataLen.toNat
  dataIn := call.dataIn
  wantActualLen := call.wantActualLen
  dataLen_lt := by have := call.dataLen_lt; omega

/-- Safe to send twice? -/
def CdbCall.idempotent (call : CdbCall) : Bool :=
  !laserCdbChangesCssState call.cdb && (call.dataIn || call.dataLen == 0)

/-- READ(10) of the block at LBA 16. -/
def readBlock16 : CdbCall where
  cdb := [0x28, 0, 0, 0, 0, 16, 0, 0, 1, 0]
  data := some []
  dataLen := 2048
  dataIn := true
  wantActualLen := true
  dataLen_lt := by decide

/-- SEND KEY, format 03h (key 2): 12 data bytes out. -/
def sendKey2 : CdbCall where
  cdb := [0xA3, 0, 0, 0, 0, 0, 0, 0, 0, 0x0C, 0x03, 0]
  data := some (List.replicate 12 0)
  dataLen := 12
  dataIn := false
  wantActualLen := false
  dataLen_lt := by decide

/-- What the call hands back: the status, `*actual_len` (`none` when nothing was stored in it), and
    the bytes the last DATA-IN phase stored in the buffer. -/
structure CdbResult where
  status : LaserStatus
  actualLen : Option Nat
  data : List UInt8
deriving DecidableEq, Repr

/-! ## The locals of the loop -/

/-- The locals of the loop. `becomingReady` is the flag and the `timespec` that is read only while the
    flag is up. `actualLen` and `data` are what the transactions so far stored through the caller's
    pointers. -/
structure CdbVars where
  attempt : Nat := 1
  attemptsMade : Nat := 0
  cbwNeverSent : Nat := 0
  becomingReady : Option Timespec := none
  result : LaserStatus := .errIo
  actualLen : Option Nat := none
  data : List UInt8 := []
deriving DecidableEq, Repr

/-- Keep what a transaction stored through the caller's pointers. -/
def CdbVars.store (v : CdbVars) (reply : BotReply) : CdbVars :=
  { v with
    actualLen := reply.actualLen.or v.actualLen
    data := if reply.data.isEmpty then v.data else reply.data }

/-- Count an attempt whose CBW did not leave. -/
def CdbVars.note (v : CdbVars) (outcome : BotOutcome) : CdbVars :=
  if outcome = .notSent then { v with cbwNeverSent := v.cbwNeverSent + 1 } else v

/-! ## Reading the answer -/

/-- What the chain of tests makes of a failed transaction. -/
inductive Verdict where
  /-- Out of the loop with this result. -/
  | final (st : LaserStatus)
  /-- 28h/00h at the end of a spin-up: again, for free. -/
  | mediumReady
  /-- 02h/04h: wait, for free while the clock allows. -/
  | becomingReady
  /-- 06h: again at once, an attempt spent. -/
  | unitAttention
  /-- Again after the delay, an attempt spent. -/
  | delayed
deriving DecidableEq, Repr

/-- The `switch` on the qualifier of 05h/6Fh. -/
def copyProtectionStatus (ascq : UInt8) : LaserStatus :=
  if ascq = 0x03 then .errScrambled
  else if ascq = 0x00 ∨ ascq = 0x01 ∨ ascq = 0x02 then .errNoKey
  else if ascq = 0x04 ∨ ascq = 0x05 then .errRegion
  else .errRefused

/-- The tests on one failed attempt, in the order of the source. `spinningUp` is
    `becoming_ready || entry->not_ready`. -/
def classify (idempotent spinningUp : Bool) (outcome : BotOutcome) (sense : Sense) : Verdict :=
  if sense.isMediumNotPresent then
    .final .errMediaGone
  -- before the test of idempotency: reached by commands that must not be sent twice
  else if sense.isMediumMayHaveChanged then
    if spinningUp then .mediumReady else .final .errMediaGone
  else if sense.key = 0x05 ∧ sense.asc = 0x6f then
    .final (copyProtectionStatus sense.ascq)
  else if sense.key = 0x05 ∨ sense.key = 0x07 then
    .final .errRefused
  -- the CBW may have reached the drive
  else if !idempotent ∧ outcome ≠ .notSent then
    .final .errIo
  else if sense.isBecomingReady then
    .becomingReady
  else if sense.isUnitAttention then
    .unitAttention
  else
    .delayed

/-- The sense of a failed attempt: asked for after a CSW FAIL only, `ff/00/00` when there is none. -/
def senseOf (h : Host W) (outcome : BotOutcome) (s : Sys W) : Sense × Sys W :=
  match outcome with
  | .failed status =>
    if status = usbBotStatusFail then
      let (sense, s) := requestSenseLocked h s
      (sense.getD .unread, s)
    else (.unread, s)
  | _ => (.unread, s)

/-! ## Throughput -/

/-- `LASER_XFER_SAMPLE_MIN_BYTES`. -/
def laserXferSampleMinBytes : Nat := 32 * 1024

/-- `LASER_XFER_SAMPLE_BYTES`. -/
def laserXferSampleBytes : UInt64 := 1024 * 1024

/-- `sample_throughput_locked()`. -/
def sampleThroughputLocked (h : Host W) (dataLen : Nat) (started : Timespec) (s : Sys W) : Sys W :=
  if s.entry.xfer.slowWarned ∨ dataLen < laserXferSampleMinBytes then s
  else
    let (now, s) := s.clockGettime h
    let us := (now.tvSec - started.tvSec) * 1000000 + (now.tvNsec - started.tvNsec).tdiv 1000
    let xfer : Throughput := {
      xferBytes := s.entry.xfer.xferBytes + UInt64.ofNat dataLen
      xferUs := s.entry.xfer.xferUs + UInt64.ofNat us.toNat
      xferCount := s.entry.xfer.xferCount + 1
      slowWarned := false }
    let warned := ¬ (xfer.xferBytes < laserXferSampleBytes ∨ xfer.xferUs = 0)
    { s with entry := { s.entry with xfer := { xfer with slowWarned := warned } } }

/-! ## The loop -/

/-- Spend the attempt. -/
def CdbVars.spend (v : CdbVars) : CdbVars := { v with attempt := v.attempt + 1 }

/-- The delayed retry: an attempt spent, and the delay unless it was the last. -/
def delayedRetry (h : Host W) (v : CdbVars) (s : Sys W) : Turn (CdbVars × Sys W) (CdbVars × Sys W) :=
  let s := s.record (.retried .counted)
  .again (v.spend, if v.attempt < laserMaxRetries then s.usleep h (laserRetryDelayMs * 1000) else s)

/-- When the becoming-ready wait started: with the first 02h/04h. -/
def waitSince (h : Host W) (v : CdbVars) (s : Sys W) : Timespec × Sys W :=
  match v.becomingReady with
  | some since => (since, s)
  | none => (s.record (.retried .waitStarted)).clockGettime h

/-- The becoming-ready wait: while its clock allows the rounds are free, past its end they are delayed
    retries. -/
def becomingReadyRound (h : Host W) (v : CdbVars) (s : Sys W) :
    Turn (CdbVars × Sys W) (CdbVars × Sys W) :=
  let (since, s) := waitSince h v s
  let v := { v with becomingReady := some since }
  let (now, s) := s.clockGettime h
  if now.msSince since < laserBecomingReadyMaxWallMs then
    .again (v, (s.record (.retried (.becomingReady (now.msSince since)))).usleep h
      (laserRetryDelayMs * 1000))
  else delayedRetry h v s

/-- Act on a verdict. -/
def followVerdict (h : Host W) (v : CdbVars) (s : Sys W) :
    Verdict → Turn (CdbVars × Sys W) (CdbVars × Sys W)
  | .final st => .done ({ v with result := st }, s)
  | .mediumReady =>
    -- both flags are lowered, so that the same answer is final next time
    .again ({ v with becomingReady := none },
      (s.setNotReady false).record (.retried .mediumReady))
  | .becomingReady => becomingReadyRound h v s
  | .unitAttention => .again (v.spend, s.record (.retried .counted))
  | .delayed => delayedRetry h v s

/-- What a failed attempt leads to. -/
def failedTurn (h : Host W) (call : CdbCall) (v : CdbVars) (outcome : BotOutcome) (s : Sys W) :
    Turn (CdbVars × Sys W) (CdbVars × Sys W) :=
  let v := v.note outcome
  let (sense, s) := senseOf h outcome s
  followVerdict h v s
    (classify call.idempotent (v.becomingReady.isSome || s.entry.notReady) outcome sense)

/-- One turn of the `for` loop. -/
def cdbTurn (h : Host W) (call : CdbCall) : CdbVars × Sys W → Turn (CdbVars × Sys W) (CdbVars × Sys W)
  | (v, s) =>
    -- `attempt` counts from one, and the free rounds gave theirs back
    if laserMaxRetries < v.attempt then .done (v, s)
    else
      let v := { v with attemptsMade := v.attempt }
      let (cancelled, s) := s.isCancelled h
      if cancelled then .done ({ v with result := .errCancelled }, s)
      else
        let (xferStarted, s) := s.clockGettime h
        let (reply, s) := s.send h .scsiCdb call.request
        let v := v.store reply
        match reply.outcome with
        | .pass =>
          .done ({ v with result := .ok },
            sampleThroughputLocked h call.request.dataLen xferStarted s)
        | .noDevice => .done ({ v with result := .errNoDevice }, s.markGone)
        | outcome => failedTurn h call v outcome s

/-- After the loop: when no attempt's CBW left, the device is gone, unless the call was cancelled. -/
def neverSentVerdict (v : CdbVars) (s : Sys W) : LaserStatus × Sys W :=
  if v.result ≠ .ok ∧ v.result ≠ .errCancelled ∧ 0 < v.attemptsMade
      ∧ v.cbwNeverSent = v.attemptsMade then
    (.errNoDevice, s.markGone)
  else (v.result, s)

/-- The statuses with a meaning to the caller are kept, the others become `LASER_ERR_IO`. -/
def normalise (result : LaserStatus) : LaserStatus :=
  if result ≠ .ok ∧ result ≠ .errMediaGone ∧ result ≠ .errNoDevice ∧ result ≠ .errRefused
      ∧ result ≠ .errScrambled ∧ result ≠ .errNoKey ∧ result ≠ .errRegion
      ∧ result ≠ .errCancelled then .errIo
  else result

/-- The checks before `io_lock`: the status with which the call ends there, or `none` to go on.
    `inUse` is the lookup of the token. -/
def precheck (h : Host W) (call : CdbCall) (s : Sys W) : Option LaserStatus × Sys W :=
  if !call.valid then (some .errInvalid, s)
  else if !s.entry.inUse then (some .errNoSuchToken, s)
  else if laserCdbChangesCssState call.cdb ∧ !laserCssSessionIsOpen s.entry then (some .errInvalid, s)
  else
    let (cancelled, s) := s.isCancelled h
    if cancelled then (some .errCancelled, s)
    else if s.entry.deviceGone then (some .errNoDevice, s)
    else (none, s)

/-- The verdict on the way the loop ended, and what the caller gets. -/
def conclude (v : CdbVars) (s : Sys W) : CdbResult × Sys W :=
  let (result, s) := neverSentVerdict v s
  (⟨normalise result, v.actualLen, v.data⟩, s)

/-- `laser_scsi_cdb()` on the token of the entry; `none` when the loop has not returned within `fuel`
    turns. -/
def laserScsiCdb (h : Host W) (fuel : Nat) (call : CdbCall) (s : Sys W) : Option (CdbResult × Sys W) :=
  match precheck h call s with
  | (some st, s) => some (⟨st, none, []⟩, s)
  | (none, s) => (iterate (cdbTurn h call) fuel ({}, s)).map fun (v, s) => conclude v s

/-- The call returns: with enough fuel it has this result. -/
def Returns (h : Host W) (call : CdbCall) (s : Sys W) (r : CdbResult) (s' : Sys W) : Prop :=
  ∃ fuel, laserScsiCdb h fuel call s = some (r, s')

/-- The loop of the call begins its turn number `n` with these locals, in this state. -/
def InLoop (h : Host W) (call : CdbCall) (s : Sys W) (n : Nat) (v : CdbVars) (t : Sys W) : Prop :=
  (precheck h call s).1 = none ∧ Reaches (cdbTurn h call) ({}, (precheck h call s).2) n (v, t)

end Liblaser
