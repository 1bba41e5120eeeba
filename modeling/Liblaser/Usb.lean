import Liblaser.Entry

/-!
# `Usb` — the libusb calls, and the Mass Storage Reset of `usb.c`

libusb is not part of the repository: `UsbHost U` is what the transport calls in it, as functions on
a world `U` that holds the device, the bus and the other side's intentions. Any deterministic function
of any world will do, so a statement about every `UsbHost` is a statement about every stream of
return codes, counts and bytes. `Bus U` threads that world with the log of the calls made, newest
first; the log is what the wire properties are about.

Of libusb's documented behaviour only one thing is built into the types: a transfer that ends in
success, timeout or stall reports its count (`BulkReply.reported`). After any other error the count
may be left as it was, which is `none`.
-/

namespace Liblaser

/-- `enum libusb_error`. -/
inductive LibusbError where
  | success
  | errorIo
  | errorInvalidParam
  | errorAccess
  | errorNoDevice
  | errorNotFound
  | errorBusy
  | errorTimeout
  | errorOverflow
  | errorPipe
  | errorInterrupted
  | errorNoMem
  | errorNotSupported
  | errorOther
deriving DecidableEq, Repr

/-- The codes with which a transfer that was really submitted, and reports its count, ends. -/
def LibusbError.Counted (e : LibusbError) : Prop :=
  e = .success ∨ e = .errorTimeout ∨ e = .errorPipe

instance (e : LibusbError) : Decidable e.Counted := by unfold LibusbError.Counted; infer_instance

/-- The arguments of one `libusb_bulk_transfer`: `out` holds the bytes of a Bulk-Out transfer and is
    empty for a Bulk-In one, `length` is the length asked for either way. -/
structure BulkRequest where
  endpoint : UInt8
  out : List UInt8
  length : Nat
  timeoutMs : Nat
deriving DecidableEq, Repr

/-- What one `libusb_bulk_transfer` leaves: the return code, the count stored in `*transferred`
    (`none` when it was left alone), and what the caller's buffer begins with afterwards. -/
structure BulkReply where
  ret : LibusbError
  transferred : Option Nat
  bytes : List UInt8
  reported : ret.Counted → transferred.isSome

/-- A reply that reports `n` bytes. -/
def BulkReply.moved (ret : LibusbError) (n : Nat) (bytes : List UInt8) : BulkReply :=
  ⟨ret, some n, bytes, fun _ => rfl⟩

/-- The arguments of one `libusb_control_transfer`. -/
structure ControlRequest where
  bmRequestType : UInt8
  bRequest : UInt8
  wValue : UInt16
  wIndex : UInt16
  length : Nat
  timeoutMs : Nat
deriving DecidableEq, Repr

/-- What one `libusb_control_transfer` leaves: its return value (a length, or a negative error) and
    the bytes of a Device-to-Host answer. -/
structure ControlReply where
  ret : Int
  bytes : List UInt8

/-- What the transport calls outside the repository. -/
structure UsbHost (U : Type) where
  bulkTransfer : BulkRequest → U → BulkReply × U
  controlTransfer : ControlRequest → U → ControlReply × U
  clearHalt : UInt8 → U → LibusbError × U
  usleep : Nat → U → U

/-- libusb reports at most the length it was asked for. -/
def UsbHost.WithinLength {U : Type} (h : UsbHost U) : Prop :=
  ∀ req u n, (h.bulkTransfer req u).1.transferred = some n → n ≤ req.length

/-- One libusb call, as the log keeps it. -/
inductive UsbEvent where
  | bulk (req : BulkRequest) (reply : BulkReply)
  | control (req : ControlRequest) (reply : ControlReply)
  | clearHalt (endpoint : UInt8) (ret : LibusbError)

/-- Is this a bulk transfer? -/
def UsbEvent.isBulk : UsbEvent → Bool
  | .bulk _ _ => true
  | _ => false

/-- Is it a bulk or a control transfer? -/
def UsbEvent.isTransfer : UsbEvent → Bool
  | .bulk _ _ => true
  | .control _ _ => true
  | .clearHalt _ _ => false

/-- One of the calls was a transfer. -/
def Transfers (log : List UsbEvent) : Prop := ∃ e ∈ log, e.isTransfer = true

instance (log : List UsbEvent) : Decidable (Transfers log) :=
  inferInstanceAs (Decidable (∃ e ∈ log, _))

theorem not_transfers_nil : ¬ Transfers [] := by simp [Transfers]

theorem transfers_append {log log' : List UsbEvent} :
    Transfers (log ++ log') ↔ Transfers log ∨ Transfers log' := by
  simp only [Transfers, List.mem_append, or_and_right, exists_or]

/-- What was transferred stays in the log. -/
theorem Transfers.suffix {log log' : List UsbEvent} (hmoved : Transfers log) (hlater : log <:+ log') :
    Transfers log' := by
  obtain ⟨e, hmem, he⟩ := hmoved
  exact ⟨e, hlater.subset hmem, he⟩

/-- The world, and the calls made on it so far, newest first. -/
structure Bus (U : Type) where
  usb : U
  log : List UsbEvent

variable {U : Type}

def Bus.bulkTransfer (h : UsbHost U) (req : BulkRequest) (b : Bus U) : BulkReply × Bus U :=
  let (r, u) := h.bulkTransfer req b.usb
  (r, ⟨u, .bulk req r :: b.log⟩)

def Bus.controlTransfer (h : UsbHost U) (req : ControlRequest) (b : Bus U) : ControlReply × Bus U :=
  let (r, u) := h.controlTransfer req b.usb
  (r, ⟨u, .control req r :: b.log⟩)

/-- The reply `r` was given to the request `req` by this host. -/
def FromHost (h : UsbHost U) (req : BulkRequest) (r : BulkReply) : Prop :=
  ∃ u, (h.bulkTransfer req u).1 = r

/-- A bulk transfer logs its request with the host's reply. -/
theorem Bus.bulkTransfer_eq (h : UsbHost U) (req : BulkRequest) (b : Bus U) :
    ∃ r u, b.bulkTransfer h req = (r, ⟨u, .bulk req r :: b.log⟩) ∧ FromHost h req r :=
  ⟨_, _, rfl, _, rfl⟩

/-- `bot_clear_stall()`, and every other `libusb_clear_halt`: a failure is only logged. -/
def Bus.clearHalt (h : UsbHost U) (endpoint : UInt8) (b : Bus U) : Bus U :=
  let (r, u) := h.clearHalt endpoint b.usb
  ⟨u, .clearHalt endpoint r :: b.log⟩

def Bus.usleep (h : UsbHost U) (us : Nat) (b : Bus U) : Bus U :=
  ⟨h.usleep us b.usb, b.log⟩

/-- A transfer that finds no device. -/
def BulkReply.gone : BulkReply := ⟨.errorNoDevice, none, [], by decide⟩

/-- A host that answers the bulk transfers from a script, with an I/O error past its end, and every
    other call with success. -/
def UsbHost.scripted : UsbHost (List BulkReply) where
  bulkTransfer _ u := match u with
    | [] => (⟨.errorIo, none, [], by decide⟩, [])
    | r :: rs => (r, rs)
  controlTransfer _ u := (⟨0, []⟩, u)
  clearHalt _ u := (.success, u)
  usleep _ u := u

/-- A host that moves all it is asked to, the bytes of the Bulk-In transfers taken from a list. -/
def UsbHost.obliging : UsbHost (List (List UInt8)) where
  bulkTransfer req u :=
    if req.endpoint < 0x80 then (.moved .success req.length [], u)
    else (.moved .success req.length (u.headD []), u.tail)
  controlTransfer _ u := (⟨0, []⟩, u)
  clearHalt _ u := (.success, u)
  usleep _ u := u

theorem UsbHost.obliging_withinLength : UsbHost.obliging.WithinLength := by
  intro req u n hn
  simp only [obliging] at hn
  split at hn <;> exact Nat.le_of_eq (Option.some.inj hn).symm

/-! ## `laser_mass_storage_reset()` -/

/-- `USB_BOT_RESET_bREQUEST`. -/
def usbBotResetRequest : UInt8 := 0xFF

/-- `USB_BOT_RESET_bmREQUESTTYPE`: Class, Interface, Host-to-Device. -/
def usbBotResetRequestType : UInt8 := 0x21

/-- The class request of a Mass Storage Reset on the entry's interface. -/
def resetRequest (entry : LaserEntry) : ControlRequest where
  bmRequestType := usbBotResetRequestType
  bRequest := usbBotResetRequest
  wValue := 0
  wIndex := entry.ifaceNum.toUInt16
  length := 0
  timeoutMs := 3000

/-- `laser_mass_storage_reset()`: the class request, `clear_halt` on both endpoints, 100 ms. -/
def laserMassStorageReset (h : UsbHost U) (entry : LaserEntry) (b : Bus U) : Bus U :=
  let (_, b) := b.controlTransfer h (resetRequest entry)
  let b := b.clearHalt h entry.epIn
  let b := b.clearHalt h entry.epOut
  b.usleep h (100 * 1000)

/-- Is this the class request of a Mass Storage Reset? -/
def UsbEvent.isReset : UsbEvent → Bool
  | .control req _ => req.bmRequestType == usbBotResetRequestType && req.bRequest == usbBotResetRequest
  | _ => false

/-- `log'` is `log` after one Mass Storage Reset: its class request and two `clear_halt`. -/
def ResetAfter (entry : LaserEntry) (log log' : List UsbEvent) : Prop :=
  ∃ r r₁ r₂, log' = .clearHalt entry.epOut r₂ :: .clearHalt entry.epIn r₁
    :: .control (resetRequest entry) r :: log

theorem laserMassStorageReset_log (h : UsbHost U) (entry : LaserEntry) (b : Bus U) :
    ResetAfter entry b.log (laserMassStorageReset h entry b).log :=
  ⟨_, _, _, rfl⟩

end Liblaser
