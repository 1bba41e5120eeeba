import Mathlib.Logic.Function.Basic
import Liblaser.Entry
import Liblaser.Lib.Ledger

/-!
# `Registry.Register` — the table of devices, registration and teardown

`registry.c` without the sessions: the table, `laser_register()` with its unwind ladder, and the two
public calls. Each call is one critical section of `g_registry_lock`, so it is one function on the
table.

What the outside answers is data. A `Setup` is the outcome of every step of one `laser_register()`; the
traffic with the device that it does on the way (the reset, the probe, the readiness wait) is in there
as what it leaves in the entry. The objects it makes, libusb's and pthread's, are lines of a ledger, one
ledger for each registration.

`refs` is a C `int` and a number here; `RegistryInvariant.refs_le` bounds it by the calls made.
-/

namespace Liblaser

open Ledger

/-! ## What a registration makes -/

/-- The objects a registration obtains and has to give back. -/
inductive Resource where
  | ioLock
  | cssMtx
  | cssCvAttr
  | cssCv
  | ctx
  | handle
  | iface
deriving DecidableEq, Repr

/-- What else it does that cannot be undone by itself: the kernel driver taken off its interface and
    handed back, and the entry published. -/
inductive DriverAct where
  | detached
  | attached
  | published
deriving DecidableEq, Repr

/-- What a registration did, newest first. -/
abbrev RegLedger := List (Ledger.Entry Resource DriverAct)

/-- The answers of `laser_probe_lun()`. -/
inductive LaserOptical where
  | no
  | yes
  | noAnswer
  | gone
deriving DecidableEq, Repr

/-- What `laser_find_bulk_endpoints()` fills in. -/
structure Endpoints where
  ifaceNum : UInt8
  epIn : UInt8
  epOut : UInt8
  epMaxPacket : UInt16
deriving DecidableEq, Repr

/-- The outcome of every setup step of one `laser_register()`; a `Bool` is a step that succeeds. -/
structure Setup where
  /-- `st_dev` and `st_ino`, if `fstat` succeeds. -/
  fstat : Option (Nat × Nat)
  ioLockInit : Bool
  cssMtxInit : Bool
  /-- `LASER_CSS_CLOCK != CLOCK_REALTIME` in this build. -/
  cssClockMonotonic : Bool
  condattrInit : Bool
  condattrSetclock : Bool
  condInit : Bool
  initContext : Bool
  wrapSysDevice : Bool
  /-- The device descriptor: `idVendor`, `idProduct`, `bcdDevice`. -/
  descriptor : Option (UInt16 × UInt16 × UInt16)
  endpoints : Option Endpoints
  kernelDriverActive : Int
  detachKernelDriver : Bool
  claimInterface : Bool
  probe : LaserOptical
  /-- What the reset, the probe and the readiness wait leave in the entry. -/
  lun : UInt8
  bot : BotState
  notReady : Bool
deriving DecidableEq, Repr

/-! ## The unwind ladder -/

/-- An entry under construction, and what was done for it. -/
structure Build where
  entry : LaserEntry
  ledger : RegLedger

def Build.got (r : Resource) (b : Build) : Build := { b with ledger := .got r :: b.ledger }

def Build.gave (r : Resource) (b : Build) : Build := { b with ledger := .gave r :: b.ledger }

def Build.did (a : DriverAct) (b : Build) : Build := { b with ledger := .other a :: b.ledger }

/-- `reattach_kernel_driver()`; what the attach returns is only logged. -/
def reattachKernelDriver (b : Build) : Build :=
  if b.entry.kernelDriverDetached then
    Build.did .attached { b with entry := { b.entry with kernelDriverDetached := false } }
  else b

/-- `release_slot()`. -/
def releaseSlot (b : Build) : Build := { b with entry := {} }

/-- `err_slot:` -/
def errSlot (b : Build) : Build := releaseSlot b

/-- `err_io_mutex:` -/
def errIoMutex (b : Build) : Build := errSlot (b.gave .ioLock)

/-- `err_css_mutex:` -/
def errCssMutex (b : Build) : Build := errIoMutex (b.gave .cssMtx)

/-- `err_css_cond:` -/
def errCssCond (b : Build) : Build := errCssMutex (b.gave .cssCv)

/-- `err_ctx:` -/
def errCtx (b : Build) : Build := errCssCond (b.gave .ctx)

/-- `err_handle:` -/
def errHandle (b : Build) : Build := errCtx ((reattachKernelDriver b).gave .handle)

/-- `err_iface:` -/
def errIface (b : Build) : Build := errHandle (b.gave .iface)

/-! ## Registration, step by step; an error is the build after the ladder -/

/-- The slot as `reserve_slot()` leaves it, the identity of the descriptor, and the full transfer size. -/
def identify (o : Setup) (fd : Int) : Build :=
  let entry : LaserEntry := { token := fd, maxTransferBytes := laserMaxBytesPerTransfer }
  match o.fstat with
  | some (dev, ino) => ⟨{ entry with regDev := dev, regIno := ino }, []⟩
  | none => ⟨entry, []⟩

/-- The condition variable of the sessions, on its clock. -/
def initCssCond (o : Setup) (b : Build) : Except Build Build :=
  if o.cssClockMonotonic then
    if !o.condattrInit then .error (errCssMutex b)
    else
      let b := b.got .cssCvAttr
      if !o.condattrSetclock then .error (errCssMutex (b.gave .cssCvAttr))
      else if o.condInit then .ok ((b.got .cssCv).gave .cssCvAttr)
      else .error (errCssMutex (b.gave .cssCvAttr))
  else if o.condInit then .ok (b.got .cssCv)
  else .error (errCssMutex b)

/-- The two mutexes and the condition variable. -/
def initLocks (o : Setup) (b : Build) : Except Build Build :=
  if !o.ioLockInit then .error (errSlot b)
  else
    let b := b.got .ioLock
    if !o.cssMtxInit then .error (errIoMutex b)
    else initCssCond o (b.got .cssMtx)

/-- The USB identity, where the descriptor can be had. -/
def readDescriptor (o : Setup) (b : Build) : Build :=
  match o.descriptor with
  | some (vid, pid, bcd) => { b with entry := { b.entry with vid := vid, pid := pid, bcdDevice := bcd } }
  | none => b

/-- The libusb context, the wrapped descriptor, the identity and the endpoints of the device. -/
def openDevice (o : Setup) (b : Build) : Except Build Build :=
  if !o.initContext then .error (errCssCond b)
  else
    let b := b.got .ctx
    if !o.wrapSysDevice then .error (errCtx b)
    else
      let b := readDescriptor o (b.got .handle)
      match o.endpoints with
      | none => .error (errHandle b)
      | some e => .ok { b with entry := { b.entry with
          ifaceNum := e.ifaceNum, epIn := e.epIn, epOut := e.epOut, epMaxPacket := e.epMaxPacket } }

/-- The kernel driver detached, the interface claimed. -/
def claimInterface (o : Setup) (b : Build) : Except Build Build :=
  let b := if o.kernelDriverActive = 1 ∧ o.detachKernelDriver then
      Build.did .detached { b with entry := { b.entry with kernelDriverDetached := true } }
    else b
  if !o.claimInterface then .error (errHandle b)
  else .ok (b.got .iface)

/-- The probe for an optical unit, the readiness wait, and the entry published. -/
def acceptDevice (o : Setup) (b : Build) : Except Build Build :=
  let b := { b with entry := { b.entry with lun := o.lun, bot := o.bot } }
  if o.probe = .no ∨ o.probe = .gone ∨ o.probe = .noAnswer then .error (errIface b)
  else
    .ok (Build.did .published { b with entry := { b.entry with notReady := o.notReady, inUse := true } })

/-- `laser_register()` on the slot it has reserved. -/
def setupEntry (o : Setup) (fd : Int) : Except Build Build := do
  let b ← initLocks o (identify o fd)
  let b ← openDevice o b
  let b ← claimInterface o b
  acceptDevice o b

theorem initLocks_entry {o : Setup} {b b' : Build} (h : initLocks o b = .ok b') : b'.entry = b.entry := by
  unfold initLocks initCssCond at h
  dsimp only at h
  repeat' split at h
  all_goals cases h
  all_goals rfl

theorem openDevice_cap {o : Setup} {b b' : Build} (h : openDevice o b = .ok b') :
    b'.entry.maxTransferBytes = b.entry.maxTransferBytes := by
  unfold openDevice readDescriptor at h
  dsimp only at h
  repeat' split at h
  all_goals cases h
  all_goals rfl

theorem claimInterface_cap {o : Setup} {b b' : Build} (h : claimInterface o b = .ok b') :
    b'.entry.maxTransferBytes = b.entry.maxTransferBytes := by
  unfold claimInterface at h
  dsimp only at h
  repeat' split at h
  all_goals cases h
  all_goals rfl

theorem acceptDevice_cap {o : Setup} {b b' : Build} (h : acceptDevice o b = .ok b') :
    b'.entry.maxTransferBytes = b.entry.maxTransferBytes := by
  unfold acceptDevice at h
  dsimp only at h
  split at h
  · cases h
  · cases h
    rfl

theorem bind_ok {b : Build} {x : Except Build Build} {f : Build → Except Build Build}
    (h : (x >>= f) = .ok b) : ∃ b', x = .ok b' ∧ f b' = .ok b := by
  cases x with
  | error e => cases h
  | ok b' => exact ⟨b', rfl, h⟩

/-- A published entry starts with the full transfer size. -/
theorem setupEntry_cap {o : Setup} {fd : Int} {b : Build} (h : setupEntry o fd = .ok b) :
    b.entry.maxTransferBytes = laserMaxBytesPerTransfer := by
  obtain ⟨b₁, hlocks, h⟩ := bind_ok h
  obtain ⟨b₂, hopen, h⟩ := bind_ok h
  obtain ⟨b₃, hclaim, haccept⟩ := bind_ok h
  rw [acceptDevice_cap haccept, claimInterface_cap hclaim, openDevice_cap hopen, initLocks_entry hlocks]
  unfold identify
  dsimp only
  split <;> rfl

/-! ## The table -/

/-- `g_entries`, with what the registrations so far have done: `regs` is the number of the registration
    a slot was filled by, `ledgers` what each registration has done, `count` how many there were. -/
structure Registry where
  slots : Fin laserMaxDevices → LaserEntry
  regs : Fin laserMaxDevices → Nat
  ledgers : Nat → RegLedger
  count : Nat

/-- The table of a library just loaded. -/
def Registry.init : Registry := ⟨fun _ => {}, fun _ => 0, fun _ => [], 0⟩

/-- `laser_lookup()`. -/
def laserLookup (R : Registry) (token : Int) : Option (Fin laserMaxDevices) :=
  (List.finRange laserMaxDevices).find? fun i => (R.slots i).inUse && (R.slots i).token == token

/-- `reserve_slot()`: the slot it reserves. -/
def reserveSlot (R : Registry) (fd : Int) : Option (Fin laserMaxDevices) :=
  if (List.finRange laserMaxDevices).any fun i => (R.slots i).inUse && (R.slots i).token == fd then none
  else (List.finRange laserMaxDevices).find? fun i => !(R.slots i).inUse

/-- Put a build in its slot: a registration that ended, or the end of one. -/
def Registry.put (i : Fin laserMaxDevices) (n : Nat) (b : Build) (R : Registry) : Registry :=
  { R with
    slots := Function.update R.slots i b.entry
    regs := Function.update R.regs i n
    ledgers := Function.update R.ledgers n b.ledger }

/-- The build of a new registration, in a slot that was free. -/
def Registry.enter (i : Fin laserMaxDevices) (b : Build) (R : Registry) : Registry :=
  { R.put i R.count b with count := R.count + 1 }

/-- `laser_register()`. -/
def laserRegister (o : Setup) (fd : Int) (R : Registry) : Registry :=
  match reserveSlot R fd with
  | none => R
  | some i =>
    match setupEntry o fd with
    | .ok b => R.enter i b
    | .error b => R.enter i b

/-- `teardown_entry_locked()`. A Mass Storage Reset first, unless the device is gone, and a session still
    open, are traffic and a log line. -/
def teardownEntryLocked (b : Build) : Build :=
  releaseSlot ((((((b.gave .iface).gave .handle).gave .ctx).gave .cssCv).gave .cssMtx).gave .ioLock)

/-- `fd_still_ours()`, on what `fstat` says now. -/
def fdStillOurs (entry : LaserEntry) (st : Option (Nat × Nat)) : Bool :=
  if entry.regDev = 0 ∧ entry.regIno = 0 then true
  else
    match st with
    | none => false
    | some (dev, ino) => dev == entry.regDev && ino == entry.regIno

/-- Change one entry in place. -/
def Registry.modify (i : Fin laserMaxDevices) (f : LaserEntry → LaserEntry) (R : Registry) : Registry :=
  { R with slots := Function.update R.slots i (f (R.slots i)) }

/-- `laser_acquire()`; `st` is what `fstat` says of the descriptor now, `o` how a registration would
    go. -/
def laserAcquire (token : Int) (o : Setup) (st : Option (Nat × Nat)) (R : Registry) :
    LaserStatus × Registry :=
  match laserLookup R token with
  | some i =>
    if !fdStillOurs (R.slots i) st then (.errNoSuchToken, R)
    else (.ok, R.modify i fun e => { e with refs := e.refs + 1 })
  | none =>
    let R := laserRegister o token R
    match laserLookup R token with
    | none => (.errNoSuchToken, R)
    | some i => (.ok, R.modify i fun e => { e with refs := e.refs + 1 })

/-- `laser_release()`. -/
def laserRelease (token : Int) (R : Registry) : Registry :=
  match laserLookup R token with
  | none => R
  | some i =>
    if (R.slots i).refs ≤ 0 then R
    else
      let entry := { R.slots i with refs := (R.slots i).refs - 1 }
      if 0 < entry.refs then R.modify i fun _ => entry
      else
        R.put i (R.regs i)
          (teardownEntryLocked ⟨laserSetCancelled entry, R.ledgers (R.regs i)⟩)

end Liblaser
