import Liblaser.Usb
import Liblaser.Bot.Wire

/-!
# `Bot.Transaction` — `laser_bot_send_locked()`, one Bulk-Only transaction

The model of `bot.c`: CBW, data phase in either direction, CSW with its one retry after a stall, the
validation of the CSW and the reconciliation of wire count and residue. Each phase is a function of
its own, returning either the outcome with which the call ends there or what the next phase needs;
`laserBotSendLocked` is their sequence. The variable `transferred` is threaded from phase to phase as
in the source, so a transfer that reports no count leaves the previous one in it.

`BotOutcome` is the contract of `laser_internal.h` as a type: the return code together with the
`csw_status` that can accompany it. `BotReply` is everything one call hands back.
-/

namespace Liblaser

open Bytes

/-! ## The contract of one call -/

/-- How one transaction ended. -/
inductive BotOutcome where
  /-- `0`: the command completed and the CSW says PASS. -/
  | pass
  /-- `-1` after a CSW carrying this status byte. -/
  | failed (status : UInt8)
  /-- `BOT_FAIL_NOT_SENT`. -/
  | notSent
  /-- `BOT_FAIL_PHASE_ERROR`; `reported` when a CSW said so rather than the wire. -/
  | phaseError (reported : Bool)
  /-- `BOT_FAIL_NO_DEVICE`. -/
  | noDevice
deriving DecidableEq, Repr

/-- `USB_BOT_STATUS_PASS`. -/
def usbBotStatusPass : UInt8 := 0x00

/-- `USB_BOT_STATUS_FAIL`. -/
def usbBotStatusFail : UInt8 := 0x01

/-- `USB_BOT_STATUS_PHASE_ERROR`. -/
def usbBotStatusPhaseError : UInt8 := 0x02

/-- The return value of `laser_bot_send_locked()`. -/
def BotOutcome.rc : BotOutcome → Int
  | .pass => 0
  | .failed _ => -1
  | .notSent => -2
  | .phaseError _ => -3
  | .noDevice => -4

/-- What the call leaves in `*csw_status`: the raw `bCSWStatus`, `none` for the `-1` of "no valid
    CSW". -/
def BotOutcome.cswStatus : BotOutcome → Option UInt8
  | .pass => some usbBotStatusPass
  | .failed status => some status
  | .notSent => none
  | .phaseError reported => if reported then some usbBotStatusPhaseError else none
  | .noDevice => none

/-- The arguments of one `laser_bot_send_locked()`. A `NULL` buffer is `none`; `wantActualLen` is
    `actual_len != NULL`. The length of the data phase is a non-negative C `int`. -/
structure BotRequest where
  cdb : List UInt8
  data : Option (List UInt8)
  dataLen : Nat
  dataIn : Bool
  wantActualLen : Bool
  dataLen_lt : dataLen < 2 ^ 31
deriving DecidableEq, Repr

/-- `data_len > 0 && data`: does the call have a data phase? -/
def BotRequest.hasData (req : BotRequest) : Bool := decide (0 < req.dataLen) && req.data.isSome

/-- What one call hands back: its outcome, what it stored in `*actual_len` (`none` when it stored
    nothing), the bytes a DATA-IN phase stored in the buffer, and the entry's `bot.c` fields. -/
structure BotReply where
  outcome : BotOutcome
  actualLen : Option Nat
  data : List UInt8
  bot : BotState
deriving DecidableEq, Repr

/-! ## The phases -/

/-- The timeouts of the three phases, the short ones while a probe is in flight. -/
def cbwPhaseTimeoutMs (entry : LaserEntry) : Nat := if entry.probeTimeouts then 500 else 3000
def dataPhaseTimeoutMs (entry : LaserEntry) : Nat := if entry.probeTimeouts then 700 else 5000
def cswPhaseTimeoutMs (entry : LaserEntry) : Nat := if entry.probeTimeouts then 500 else 3000

/-- The CBW of a request, under a given tag. -/
def mkCbw (entry : LaserEntry) (req : BotRequest) (tag : UInt32) : Cbw where
  dCBWSignature := usbBotCbwSignature
  dCBWTag := tag
  dCBWDataTransferLength := UInt32.ofNat req.dataLen
  bmCBWFlags := if req.dataIn then 0x80 else 0x00
  bCBWLUN := entry.lun
  bCBWCBLength := UInt8.ofNat req.cdb.length
  cbwcb := overwrite (List.replicate cbwcbSize 0) req.cdb
  length_cbwcb := by simp

variable {U : Type}

/-- The transfer that carries the CBW. -/
def cbwTransfer (entry : LaserEntry) (cbw : Cbw) : BulkRequest where
  endpoint := entry.epOut
  out := cbw.encode
  length := usbBotCbwSize
  timeoutMs := cbwPhaseTimeoutMs entry

/-- The CBW phase: the outcome with which the call ends here, or the count to go on with. -/
def cbwPhase (h : UsbHost U) (entry : LaserEntry) (cbw : Cbw) (b : Bus U) :
    Except BotOutcome Nat × Bus U :=
  let (r, b) := b.bulkTransfer h (cbwTransfer entry cbw)
  let transferred := r.transferred.getD 0
  if r.ret = .errorNoDevice then
    (.error .noDevice, b)
  else if transferred = usbBotCbwSize ∧ (r.ret = .success ∨ r.ret = .errorTimeout) then
    (.ok transferred, b)
  -- nothing of the CBW left the host, and the pipe did not stall: nothing to recover
  else if transferred = 0 ∧ r.ret ≠ .errorPipe then
    (.error .notSent, b)
  else
    -- part of a CBW, or a stalled Bulk-Out
    (.error .notSent, laserMassStorageReset h entry b)

/-- What the data phase leaves: the variable `transferred`, the bytes the phase moved
    (`data_transferred`), what was stored in `*actual_len`, and what was stored in the buffer. -/
structure DataMoved where
  transferred : Nat
  dataTransferred : Nat
  actualLen : Option Nat
  bytes : List UInt8
deriving DecidableEq, Repr

/-- The transfer of the data phase. -/
def dataTransfer (entry : LaserEntry) (req : BotRequest) : BulkRequest where
  endpoint := if req.dataIn then entry.epIn else entry.epOut
  out := if req.dataIn then [] else (req.data.getD []).take req.dataLen
  length := req.dataLen
  timeoutMs := dataPhaseTimeoutMs entry

/-- The data phase. An outcome is the one with which the call ends here. -/
def dataPhase (h : UsbHost U) (entry : LaserEntry) (req : BotRequest) (transferred : Nat)
    (b : Bus U) : Option BotOutcome × DataMoved × Bus U :=
  if req.hasData then
    let (r, b) := b.bulkTransfer h (dataTransfer entry req)
    let transferred := r.transferred.getD transferred
    let bytes := if req.dataIn then r.bytes.take req.dataLen else []
    let actualLen := if req.wantActualLen then some transferred else none
    let moved : DataMoved := ⟨transferred, transferred, actualLen, bytes⟩
    let stopped : DataMoved := ⟨transferred, 0, none, bytes⟩
    if r.ret = .errorPipe then
      -- a device ends a data phase early so, with its CSW already queued
      (none, moved, b.clearHalt h (dataTransfer entry req).endpoint)
    else if r.ret = .errorTimeout then
      -- everything moved, and only the completion came late
      if transferred = req.dataLen then
        (none, moved, b)
      else
        (some (.phaseError false), stopped, laserMassStorageReset h entry b)
    else if r.ret = .errorNoDevice then
      (some .noDevice, stopped, b)
    else if r.ret ≠ .success then
      (some (.phaseError false), stopped, laserMassStorageReset h entry b)
    else
      (none, moved, b)
  else
    (none, ⟨transferred, 0, if req.wantActualLen then some 0 else none, []⟩, b)

/-- The transfer that reads the CSW. -/
def cswTransfer (entry : LaserEntry) : BulkRequest where
  endpoint := entry.epIn
  out := []
  length := usbBotCswSize
  timeoutMs := cswPhaseTimeoutMs entry

/-- The CSW reads: one, and one more after a stall. The last reply, the count, and the bus. -/
def readCsw (h : UsbHost U) (entry : LaserEntry) (transferred : Nat) (b : Bus U) :
    BulkReply × Nat × BotState × Bus U :=
  let (r, b) := b.bulkTransfer h (cswTransfer entry)
  let transferred := r.transferred.getD transferred
  if r.ret = .errorPipe then
    let b := b.clearHalt h entry.epIn
    let (r, b) := b.bulkTransfer h (cswTransfer entry)
    (r, r.transferred.getD transferred, { entry.bot with cswStallQuirkLogged := true }, b)
  else
    (r, transferred, entry.bot, b)

/-- The CSW phase: a CSW with this call's tag and a status other than Phase Error, or the outcome. -/
def cswPhase (h : UsbHost U) (entry : LaserEntry) (tag : UInt32) (transferred : Nat) (b : Bus U) :
    Except BotOutcome Csw × BotState × Bus U :=
  let (r, transferred, bot, b) := readCsw h entry transferred b
  if r.ret = .errorNoDevice then
    (.error .noDevice, bot, b)
  else if transferred ≠ usbBotCswSize ∨ (r.ret ≠ .success ∧ r.ret ≠ .errorTimeout) then
    (.error (.phaseError false), bot, laserMassStorageReset h entry b)
  else
    let csw := Csw.ofBytes r.bytes
    if csw.dCSWSignature ≠ usbBotCswSignature ∨ csw.dCSWTag ≠ tag then
      (.error (.phaseError false), bot, laserMassStorageReset h entry b)
    else if csw.bCSWStatus = usbBotStatusPhaseError then
      (.error (.phaseError true), bot, laserMassStorageReset h entry b)
    else
      (.ok csw, bot, b)

/-- How many bytes of the data phase count: the smaller of wire count and `data_len` less the residue
    for a transfer that came short, the wire count otherwise. -/
def reconcile (dataLen dataTransferred residue : Nat) : Nat :=
  let byResidue := dataLen - residue
  if residue = 0 then dataTransferred
  else if dataTransferred < dataLen then
    if byResidue < dataTransferred then byResidue else dataTransferred
  else dataTransferred

/-- What a call returns on an accepted CSW: the residue check, the reconciliation, the status. -/
def concludeCsw (req : BotRequest) (moved : DataMoved) (bot : BotState) (csw : Csw) : BotReply :=
  let residue := csw.dCSWDataResidue.toNat
  if req.dataLen < residue then
    -- not meaningful (BBB 6.3): the CSW contradicts itself, but the pipes are in step
    ⟨.failed csw.bCSWStatus, moved.actualLen, moved.bytes, bot⟩
  else
    let counted := req.hasData && req.wantActualLen
    let contradicts := residue ≠ 0 ∧ ¬ moved.dataTransferred < req.dataLen
    let bot := if counted ∧ contradicts then { bot with residueQuirkLogged := true } else bot
    let actualLen :=
      if counted then some (reconcile req.dataLen moved.dataTransferred residue)
      else moved.actualLen
    if csw.bCSWStatus ≠ usbBotStatusPass then
      ⟨.failed csw.bCSWStatus, actualLen, moved.bytes, bot⟩
    else
      ⟨.pass, actualLen, moved.bytes, bot⟩

/-- `++entry->tag`. -/
def LaserEntry.nextTag (entry : LaserEntry) : LaserEntry :=
  { entry with bot := { entry.bot with tag := entry.bot.tag + 1 } }

/-- `laser_bot_send_locked()`, run on its own bus log: the reply, and the world with the libusb calls
    of this call, newest first. -/
def laserBotSendLocked (h : UsbHost U) (entry : LaserEntry) (req : BotRequest) (u : U) :
    BotReply × Bus U :=
  if cbwcbSize < req.cdb.length then
    (⟨.notSent, none, [], entry.bot⟩, ⟨u, []⟩)
  else
    let entry := entry.nextTag
    match cbwPhase h entry (mkCbw entry req entry.bot.tag) ⟨u, []⟩ with
    | (.error o, b) => (⟨o, none, [], entry.bot⟩, b)
    | (.ok transferred, b) =>
      match dataPhase h entry req transferred b with
      | (some o, moved, b) => (⟨o, moved.actualLen, moved.bytes, entry.bot⟩, b)
      | (none, moved, b) =>
        match cswPhase h entry entry.bot.tag moved.transferred b with
        | (.error o, bot, b) => (⟨o, moved.actualLen, moved.bytes, bot⟩, b)
        | (.ok csw, bot, b) => (concludeCsw req moved bot csw, b)

end Liblaser
