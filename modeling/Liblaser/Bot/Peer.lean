import Liblaser.Bot.Transaction
import Liblaser.Lib.Service

/-!
# `Bot.Peer` — the other side of the wire

`bot.c` is one party of a protocol; this is the other one, as the Bulk-Only specification has it. The
device is not part of the repository, so nothing here is a definition of what it does: `BotDevice` is the
state a device of that class is in, and `UsbHost.Conforms` is what every transfer may do to it and report
of it. Whatever a device, a cable and a host controller may do within that is allowed: transfers that end
early, stall, time out with some or all of the bytes moved, or fail, a CBW of which all 31 bytes moved
included; data phases shorter than asked for; devices that pad; a device that leaves the bus at any transfer.

What is taken for granted is named. `Conforms`: a count libusb reports is the count the device saw, and a
device that has left does not return. `Recovers`: the requests of a Reset Recovery, and the clearing of a
halt, take effect. `usb.c` and `bot.c` go on whether these succeed or not, so every result that says where
the device is afterwards rests on it. `Candid`: no error is reported for a CBW that arrived whole. Only what
is said of `BOT_FAIL_NOT_SENT` rests on that one.

What a device is for is its `Target`: a transition system on commands and responses. The transport is
there so that the host can step it.
-/

namespace Liblaser

open Bytes

/-! ## Commands and responses -/

/-- A command as the target gets it: the unit, the command block, the direction and length of the data
    phase, and the bytes of a Data-Out phase it took. -/
structure Command where
  lun : UInt8
  cb : List UInt8
  dataIn : Bool
  length : Nat
  received : List UInt8
deriving DecidableEq, Repr

/-- What the target makes of it: how many bytes crossed the wire in the data phase, which, if it was a
    Data-In phase, and the residue and status of the CSW. -/
structure Response where
  moved : Nat
  sent : List UInt8
  residue : Nat
  status : UInt8
deriving DecidableEq, Repr

/-- A response the specification allows: no more moves than was asked for, the residue is within the
    length, and it covers what a short data phase left out. On a full one it may be anything, which is
    how padding looks, and a bridge whose residue is simply wrong. -/
structure Response.Meaningful (r : Response) (c : Command) : Prop where
  moved_eq : r.moved = if c.dataIn then r.sent.length else c.received.length
  moved_le : r.moved ≤ c.length
  residue_le : r.residue ≤ c.length
  short : r.moved < c.length → c.length - r.moved ≤ r.residue

/-- The bytes of the data phase that count: what the residue leaves of a short one, all of a full one. -/
def Response.count (r : Response) (c : Command) : Nat :=
  if r.moved < c.length then c.length - r.residue else r.moved

/-- No more counts than was asked for, -/
theorem Response.Meaningful.count_le {r : Response} {c : Command} (hmeaning : r.Meaningful c) :
    r.count c ≤ c.length := by
  have hmoved := hmeaning.moved_le
  unfold count
  split <;> omega

/-- and no more than was sent. -/
theorem Response.Meaningful.count_le_sent {r : Response} {c : Command} (hmeaning : r.Meaningful c)
    (hin : c.dataIn = true) : r.count c ≤ r.sent.length := by
  have hmoved := hmeaning.moved_eq
  have hshort := hmeaning.short
  rw [if_pos hin] at hmoved
  unfold count
  split <;> omega

/-- The CSW of a response, under the tag of the CBW. -/
def Response.csw (r : Response) (tag : UInt32) : Csw where
  dCSWSignature := usbBotCswSignature
  dCSWTag := tag
  dCSWDataResidue := UInt32.ofNat r.residue
  bCSWStatus := r.status

/-- What a device is for. -/
structure Target (σ : Type) where
  step : σ → Command × Response → σ → Prop
  meaningful : ∀ {s t : σ} {c : Command} {r : Response}, step s (c, r) t → r.Meaningful c

/-! ## The device -/

/-- A CBW the device takes for one. -/
structure Cbw.Valid (c : Cbw) : Prop where
  signature : c.dCBWSignature = usbBotCbwSignature
  flags : c.bmCBWFlags = 0x80 ∨ c.bmCBWFlags = 0x00
  lun : c.bCBWLUN < 16
  length_pos : 0 < c.bCBWCBLength
  length_le : c.bCBWCBLength ≤ 16

/-- The command a CBW carries, with what was received of its data. -/
def Cbw.command (c : Cbw) (received : List UInt8) : Command where
  lun := c.bCBWLUN
  cb := c.cbwcb.take c.bCBWCBLength.toNat
  dataIn := c.bmCBWFlags == 0x80
  length := c.dCBWDataTransferLength.toNat
  received := received

/-- Where a device is in a transaction. -/
inductive BotPhase where
  /-- Awaiting a CBW. -/
  | ready
  /-- In the data phase, with these bytes left to send. -/
  | sending (left : List UInt8) (csw : Csw)
  /-- In the data phase, with data to take. -/
  | receiving (cbw : Cbw)
  /-- The CSW is next. -/
  | status (csw : Csw)
  /-- Out of step with the host: only a Reset Recovery leads back. -/
  | adrift
deriving DecidableEq, Repr

/-- A device on the bus, or one that has left it. -/
structure BotDevice (σ : Type) where
  target : σ
  phase : BotPhase := .ready
  inHalted : Bool := false
  outHalted : Bool := false
  gone : Bool := false
deriving DecidableEq, Repr

variable {σ U : Type}

/-- Present, and awaiting a CBW with neither pipe halted. -/
structure BotDevice.Idle (d : BotDevice σ) : Prop where
  present : d.gone = false
  ready : d.phase = .ready
  inOpen : d.inHalted = false
  outOpen : d.outHalted = false

/-- Where a transaction may begin. -/
def BotDevice.InStep (d : BotDevice σ) : Prop := d.gone = true ∨ d.Idle

/-- The target has carried the command out, or has not seen it. -/
def Target.MayRun (T : Target σ) (cbw : Cbw) (out : List UInt8) (s t : σ) : Prop :=
  t = s ∨ ∃ received r, received <+: out ∧ T.step s (cbw.command received, r) t

/-! ## What a transfer does -/

/-- The device takes a CBW: a command without data, or with data to send, is carried out. -/
inductive CbwAccepted (T : Target σ) (cbw : Cbw) (d : BotDevice σ) : BotDevice σ → Prop where
  | noData {r : Response} {t : σ} (hlen : cbw.dCBWDataTransferLength = 0)
      (hstep : T.step d.target (cbw.command [], r) t) :
      CbwAccepted T cbw d { d with target := t, phase := .status (r.csw cbw.dCBWTag) }
  | dataIn {r : Response} {t : σ} (hlen : cbw.dCBWDataTransferLength ≠ 0)
      (hflags : cbw.bmCBWFlags = 0x80) (hstep : T.step d.target (cbw.command [], r) t) :
      CbwAccepted T cbw d { d with target := t, phase := .sending r.sent (r.csw cbw.dCBWTag) }
  | dataOut (hlen : cbw.dCBWDataTransferLength ≠ 0) (hflags : cbw.bmCBWFlags = 0x00) :
      CbwAccepted T cbw d { d with phase := .receiving cbw }

/-- The transfer of a CBW to an idle device. -/
inductive CbwTaken (T : Target σ) (cbw : Cbw) (d : BotDevice σ) : BulkReply → BotDevice σ → Prop where
  | whole {r : BulkReply} {e : BotDevice σ} (hret : r.ret = .success ∨ r.ret = .errorTimeout)
      (hn : r.transferred = some usbBotCbwSize) (haccepted : CbwAccepted T cbw d e) :
      CbwTaken T cbw d r e
  /-- Less than a CBW: the command is not carried out, and a device that got nothing and did not stall
      is as it was. -/
  | partly {r : BulkReply} {e : BotDevice σ} (hret : r.ret ≠ .errorNoDevice)
      (hn : r.transferred.getD 0 < usbBotCbwSize) (htarget : e.target = d.target)
      (hpresent : e.gone = false)
      (huntouched : r.transferred.getD 0 = 0 → r.ret ≠ .errorPipe → e = d) : CbwTaken T cbw d r e
  /-- All of it moved, and the transfer failed all the same: whether the device took it is anyone's guess. -/
  | spoiled {r : BulkReply} {e : BotDevice σ} (hret : r.ret ≠ .success ∧ r.ret ≠ .errorTimeout
        ∧ r.ret ≠ .errorNoDevice)
      (hn : r.transferred = some usbBotCbwSize) (hran : T.MayRun cbw [] d.target e.target)
      (hpresent : e.gone = false) : CbwTaken T cbw d r e
  | vanished {r : BulkReply} {e : BotDevice σ} (hret : r.ret = .errorNoDevice)
      (hgone : e.gone = true) (hran : T.MayRun cbw [] d.target e.target) : CbwTaken T cbw d r e

/-- A Bulk-In transfer of up to `n` bytes in the data phase. -/
inductive DataSent (left : List UInt8) (csw : Csw) (n : Nat) (d : BotDevice σ) :
    BulkReply → BotDevice σ → Prop where
  /-- All it had to send arrived: as a full transfer, possibly one that completed late, or a short one. -/
  | all {r : BulkReply}
      (hret : r.ret = .success ∨ (r.ret = .errorTimeout ∧ left.length = n))
      (hn : r.transferred = some left.length) (hbytes : r.bytes = left) :
      DataSent left csw n d r { d with phase := .status csw }
  /-- The device ends the phase early by halting the pipe. -/
  | stalled {r : BulkReply} (hret : r.ret = .errorPipe) (hn : r.transferred = some left.length)
      (hbytes : r.bytes = left) :
      DataSent left csw n d r { d with phase := .status csw, inHalted := true }
  /-- The clock runs out on the way, or the transfer fails. -/
  | broken {r : BulkReply} {e : BotDevice σ} (hret : r.ret ≠ .success ∧ r.ret ≠ .errorPipe
        ∧ r.ret ≠ .errorNoDevice)
      (hn : r.ret = .errorTimeout → r.transferred ≠ some n) (htarget : e.target = d.target)
      (hpresent : e.gone = false) : DataSent left csw n d r e
  | vanished {r : BulkReply} {e : BotDevice σ} (hret : r.ret = .errorNoDevice) (hgone : e.gone = true)
      (htarget : e.target = d.target) : DataSent left csw n d r e

/-- A Bulk-Out transfer of the bytes `out` in the data phase: the command is carried out on what the
    device took, once it ends the phase. -/
inductive DataTaken (T : Target σ) (cbw : Cbw) (out : List UInt8) (d : BotDevice σ) :
    BulkReply → BotDevice σ → Prop where
  | all {r : BulkReply} {a : Response} {t : σ} (hret : r.ret = .success ∨ r.ret = .errorTimeout)
      (hn : r.transferred = some out.length) (hstep : T.step d.target (cbw.command out, a) t) :
      DataTaken T cbw out d r { d with target := t, phase := .status (a.csw cbw.dCBWTag) }
  | stalled {r : BulkReply} {a : Response} {t : σ} {k : Nat} (hk : k ≤ out.length)
      (hret : r.ret = .errorPipe) (hn : r.transferred = some k)
      (hstep : T.step d.target (cbw.command (out.take k), a) t) :
      DataTaken T cbw out d r
        { d with target := t, phase := .status (a.csw cbw.dCBWTag), outHalted := true }
  | broken {r : BulkReply} {e : BotDevice σ} (hret : r.ret ≠ .success ∧ r.ret ≠ .errorPipe
        ∧ r.ret ≠ .errorNoDevice)
      (hn : r.ret = .errorTimeout → r.transferred ≠ some out.length)
      (hran : T.MayRun cbw out d.target e.target) (hpresent : e.gone = false) :
      DataTaken T cbw out d r e
  | vanished {r : BulkReply} {e : BotDevice σ} (hret : r.ret = .errorNoDevice) (hgone : e.gone = true)
      (hran : T.MayRun cbw out d.target e.target) : DataTaken T cbw out d r e

/-- A Bulk-In transfer of 13 bytes while the CSW is next. -/
inductive StatusSent (csw : Csw) (d : BotDevice σ) : BulkReply → BotDevice σ → Prop where
  /-- All of it arrived, on a pipe that is not halted. -/
  | read {r : BulkReply} (hopen : d.inHalted = false)
      (hret : r.ret = .success ∨ r.ret = .errorTimeout) (hn : r.transferred = some usbBotCswSize)
      (hbytes : r.bytes = csw.encode) : StatusSent csw d r { d with phase := .ready }
  | stalled {r : BulkReply} (hret : r.ret = .errorPipe) :
      StatusSent csw d r { d with inHalted := true }
  | broken {r : BulkReply} {e : BotDevice σ} (hret : r.ret ≠ .errorPipe ∧ r.ret ≠ .errorNoDevice)
      (hn : r.ret = .success ∨ r.ret = .errorTimeout → r.transferred ≠ some usbBotCswSize)
      (htarget : e.target = d.target) (hpresent : e.gone = false) : StatusSent csw d r e
  | vanished {r : BulkReply} {e : BotDevice σ} (hret : r.ret = .errorNoDevice) (hgone : e.gone = true)
      (htarget : e.target = d.target) : StatusSent csw d r e

/-- A host on whose bus there is one device of the class, seen through `view`, with these endpoints. -/
structure UsbHost.Conforms (h : UsbHost U) (T : Target σ) (epOut epIn : UInt8)
    (view : U → BotDevice σ) : Prop where
  cbw : ∀ req u cbw, (view u).Idle → req.endpoint = epOut → req.length = usbBotCbwSize →
    Cbw.parse req.out = some cbw → cbw.Valid →
    CbwTaken T cbw (view u) (h.bulkTransfer req u).1 (view (h.bulkTransfer req u).2)
  dataIn : ∀ req u left csw, (view u).gone = false → (view u).phase = .sending left csw →
    (view u).inHalted = false → req.endpoint = epIn → left.length ≤ req.length →
    DataSent left csw req.length (view u) (h.bulkTransfer req u).1 (view (h.bulkTransfer req u).2)
  dataOut : ∀ req u cbw, (view u).gone = false → (view u).phase = .receiving cbw →
    (view u).outHalted = false → req.endpoint = epOut → req.out.length = req.length →
    req.length = cbw.dCBWDataTransferLength.toNat →
    DataTaken T cbw req.out (view u) (h.bulkTransfer req u).1 (view (h.bulkTransfer req u).2)
  status : ∀ req u csw, (view u).gone = false → (view u).phase = .status csw →
    req.endpoint = epIn → req.length = usbBotCswSize →
    StatusSent csw (view u) (h.bulkTransfer req u).1 (view (h.bulkTransfer req u).2)
  /-- A device that has left the bus is found by no transfer. -/
  gone : ∀ req u, (view u).gone = true → (h.bulkTransfer req u).1.ret = .errorNoDevice
    ∧ view (h.bulkTransfer req u).2 = view u
  usleep : ∀ us u, view (h.usleep us u) = view u

/-- A bus on which a Reset Recovery recovers: the class request brings a device back to awaiting a CBW, and
    clearing a halt clears it, whatever the two return. -/
structure UsbHost.Recovers (h : UsbHost U) (epOut epIn : UInt8) (view : U → BotDevice σ) : Prop where
  reset : ∀ req u, req.bmRequestType = usbBotResetRequestType → req.bRequest = usbBotResetRequest →
    view (h.controlTransfer req u).2 = { view u with phase := .ready }
  clearIn : ∀ u, epIn ≠ epOut → view (h.clearHalt epIn u).2 = { view u with inHalted := false }
  clearOut : ∀ u, epIn ≠ epOut → view (h.clearHalt epOut u).2 = { view u with outHalted := false }

/-- A bus that reports no error for a CBW that moved whole, but that the clock ran out or that the device has
    left. -/
def UsbHost.Candid (h : UsbHost U) (epOut : UInt8) (view : U → BotDevice σ) : Prop :=
  ∀ req u cbw, (view u).Idle → req.endpoint = epOut → req.length = usbBotCbwSize →
    Cbw.parse req.out = some cbw → cbw.Valid →
    (h.bulkTransfer req u).1.transferred = some usbBotCbwSize →
    (h.bulkTransfer req u).1.ret = .success ∨ (h.bulkTransfer req u).1.ret = .errorTimeout
      ∨ (h.bulkTransfer req u).1.ret = .errorNoDevice

end Liblaser
