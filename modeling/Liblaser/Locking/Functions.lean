import Liblaser.Entry
import Liblaser.Lib.Locks

/-!
# `Locking.Functions` — the locks, function by function

Every function that takes a lock, or calls one that does: `registry.c`, `scsi.c`, `disc.c` with all
they compute left out, as programs of `Lib.Locks`. A condition, on what the device answered or on a field, is
a choice of either branch; a lookup may find any entry, or none, whatever it found the last time. The
functions of `bot.c` and `usb.c`, and those of `scsi.c` that work under the caller's `io_lock`, take none
and do not appear.
-/

namespace Liblaser.Locking

open Locks Locks.Code

/-- An entry of the table. -/
abbrev Slot := Fin laserMaxDevices

/-- The mutexes. -/
inductive Mutex where
  | gRegistryLock
  | gTableLock
  | ioLock (entry : Slot)
  | cssMtx (entry : Slot)
deriving DecidableEq, Repr

/-- The order of `registry.c`: every nesting has `g_registry_lock` outside, and no other pair nests. -/
def Mutex.rank : Mutex → Fin 2
  | .gRegistryLock => 0
  | _ => 1

@[simp] theorem rank_gRegistryLock : Mutex.rank .gRegistryLock = 0 := rfl

@[simp] theorem rank_gTableLock : Mutex.rank .gTableLock = 1 := rfl

@[simp] theorem rank_ioLock {entry : Slot} : Mutex.rank (.ioLock entry) = 1 := rfl

@[simp] theorem rank_cssMtx {entry : Slot} : Mutex.rank (.cssMtx entry) = 1 := rfl

/-! ## `registry.c`: the table -/

def laserLookup : Code Mutex := block [
  lock .gTableLock,
  loop (whenever (leave .brk)),
  unlock .gTableLock,
  leave .ret]

def laserTokenNotReady : Code Mutex := block [call laserLookup, leave .ret]

def laserSetCancelled : Code Mutex := block [lock .gTableLock, unlock .gTableLock]

def reserveSlot : Code Mutex := block [
  lock .gTableLock,
  loop (whenever (block [unlock .gTableLock, leave .ret])),
  loop (whenever (leave .brk)),
  unlock .gTableLock,
  leave .ret]

def releaseSlot : Code Mutex := block [lock .gTableLock, unlock .gTableLock]

/-! ## `scsi.c`: setup -/

def laserAllowMediumRemoval (entry : Slot) : Code Mutex := block [
  lock (.ioLock entry),
  unlock (.ioLock entry)]

def laserWaitUntilReady (entry : Slot) : Code Mutex := block [
  lock (.ioLock entry),
  loop (block [
    -- ready
    whenever (block [unlock (.ioLock entry), leave .ret]),
    -- device gone
    whenever (block [unlock (.ioLock entry), leave .ret]),
    -- no medium
    whenever (block [
      whenever (block [unlock (.ioLock entry), leave .ret]),
      whenever (block [unlock (.ioLock entry), leave .ret]),
      leave .cont]),
    -- UNIT ATTENTION
    whenever (leave .cont),
    -- the ceiling
    whenever (leave .brk)]),
  unlock (.ioLock entry)]

def laserTokenSettle : Code Mutex := block [
  call laserLookup,
  whenever (leave .ret),
  any fun entry : Slot => block [
    lock (.ioLock entry),
    unlock (.ioLock entry),
    whenever (leave .ret),
    call (laserWaitUntilReady entry)]]

def inquiryPdt (entry : Slot) : Code Mutex := block [
  loop (block [
    lock (.ioLock entry),
    unlock (.ioLock entry),
    whenever (leave .ret),
    whenever (leave .ret),
    whenever (leave .brk)]),
  leave .ret]

def laserProbeLun (entry : Slot) : Code Mutex := block [
  loop (block [
    call (inquiryPdt entry),
    whenever (leave .ret),
    whenever (leave .cont),
    whenever (leave .ret)]),
  whenever (leave .ret),
  whenever (leave .ret),
  leave .ret]

/-! ## `registry.c`: registration and teardown -/

/-- The unwind ladder of `laser_register()`, from any rung: they all fall through to `err_slot`. -/
def errSlot : Code Mutex := block [call releaseSlot, leave .ret]

def laserRegister : Code Mutex := block [
  call reserveSlot,
  whenever (leave .ret),
  any fun entry : Slot => block [
    -- io_lock, css_mtx, the attributes of css_cv, css_cv
    whenever errSlot,
    whenever errSlot,
    whenever errSlot,
    whenever errSlot,
    whenever errSlot,
    -- the libusb context, the handle, the endpoints, the claim
    whenever errSlot,
    whenever errSlot,
    whenever errSlot,
    whenever errSlot,
    call (laserProbeLun entry),
    -- LASER_OPTICAL_NO, LASER_OPTICAL_GONE, LASER_OPTICAL_NO_ANSWER
    whenever errSlot,
    whenever errSlot,
    whenever errSlot,
    whenever (call (laserAllowMediumRemoval entry)),
    call (laserWaitUntilReady entry),
    lock .gTableLock,
    unlock .gTableLock,
    leave .ret]]

def laserCssSessionIsOpen (entry : Slot) : Code Mutex := block [
  lock (.cssMtx entry),
  unlock (.cssMtx entry),
  leave .ret]

def teardownEntryLocked (entry : Slot) : Code Mutex := block [
  lock (.ioLock entry),
  unlock (.ioLock entry),
  call (laserCssSessionIsOpen entry),
  call releaseSlot]

/-! ## The public operations -/

def laserAcquire : Code Mutex := block [
  lock .gRegistryLock,
  call laserLookup,
  -- the descriptor names another device
  whenever (block [unlock .gRegistryLock, leave .ret]),
  whenever (block [call laserRegister, call laserLookup]),
  whenever (block [unlock .gRegistryLock, leave .ret]),
  unlock .gRegistryLock,
  leave .ret]

def laserRelease : Code Mutex := block [
  lock .gRegistryLock,
  call laserLookup,
  whenever (block [unlock .gRegistryLock, leave .ret]),
  any fun entry : Slot => block [
    -- no claim, or claims left
    whenever (block [unlock .gRegistryLock, leave .ret]),
    whenever (block [unlock .gRegistryLock, leave .ret]),
    call laserSetCancelled,
    call (teardownEntryLocked entry),
    unlock .gRegistryLock]]

def laserCssSessionBegin : Code Mutex := block [
  whenever (leave .ret),
  call laserLookup,
  whenever (leave .ret),
  any fun entry : Slot => block [
    lock (.cssMtx entry),
    loop (block [
      -- a session of this owner
      whenever (block [unlock (.cssMtx entry), leave .ret]),
      condWait (.cssMtx entry),
      -- ETIMEDOUT
      whenever (block [unlock (.cssMtx entry), leave .ret])]),
    unlock (.cssMtx entry),
    leave .ret]]

def laserCssSessionEnd : Code Mutex := block [
  call laserLookup,
  whenever (leave .ret),
  any fun entry : Slot => block [
    lock (.cssMtx entry),
    whenever (block [unlock (.cssMtx entry), leave .ret]),
    unlock (.cssMtx entry)]]

def laserScsiCdb : Code Mutex := block [
  whenever (leave .ret),
  whenever (leave .ret),
  call laserLookup,
  whenever (leave .ret),
  any fun entry : Slot => block [
    -- the session check, of a command that changes the CSS state
    whenever (block [call (laserCssSessionIsOpen entry), whenever (leave .ret)]),
    -- cancelled, device gone
    whenever (leave .ret),
    whenever (leave .ret),
    lock (.ioLock entry),
    loop (block [
      -- cancelled, passed, device gone
      whenever (leave .brk),
      whenever (leave .brk),
      whenever (leave .brk),
      -- no medium
      whenever (leave .brk),
      -- the medium may have changed
      whenever (block [whenever (leave .cont), leave .brk]),
      -- copy protection, refused, not to be repeated
      whenever (leave .brk),
      whenever (leave .brk),
      whenever (leave .brk),
      -- becoming ready, UNIT ATTENTION
      whenever (leave .cont),
      whenever (leave .cont)]),
    unlock (.ioLock entry),
    leave .ret]]

def lowerTransferCap (entry : Slot) : Code Mutex := block [
  lock (.ioLock entry),
  unlock (.ioLock entry)]

def readChunked : Code Mutex := block [
  whenever (leave .ret),
  call laserLookup,
  loop (block [
    call laserScsiCdb,
    -- a failure: terminal, worth a smaller size, or the end
    whenever (block [whenever (leave .ret), whenever (leave .cont), leave .ret]),
    -- a short read
    whenever (leave .ret),
    whenever (any fun entry : Slot => call (lowerTransferCap entry))]),
  leave .ret]

def laserReadBlocks : Code Mutex := block [call readChunked, leave .ret]

def laserReadCdBlocks : Code Mutex := block [
  -- the sector type
  whenever (leave .ret),
  call readChunked,
  leave .ret]

def laserRegionMismatch : Code Mutex := block [
  call laserScsiCdb,
  whenever (leave .ret),
  whenever (leave .ret),
  call laserScsiCdb,
  leave .ret]

/-! ## `disc.c` -/

def udfReadCb : Code Mutex := block [whenever (leave .ret), call laserReadBlocks, leave .ret]

/-- A call into the UDF library, which makes its reads by the callback. -/
def udfread : Code Mutex := loop (call udfReadCb)

def udfZonePresent : Code Mutex := block [
  call udfread,
  whenever (leave .ret),
  call udfread,
  call udfread,
  leave .ret]

def detectUdfDisc : Code Mutex := block [
  whenever (leave .ret),
  call udfread,
  whenever (block [
    call udfZonePresent,
    either (call udfZonePresent) (block [
      call udfread,
      either (call udfread) (call udfZonePresent)]),
    whenever (call udfread)]),
  call udfread,
  leave .ret]

def isoReadSector : Code Mutex := block [call laserReadBlocks, leave .ret]

def isoFindChild : Code Mutex := block [
  loop (block [
    call isoReadSector,
    whenever (leave .ret),
    loop (block [
      whenever (leave .brk),
      whenever (leave .brk),
      whenever (leave .cont),
      whenever (leave .ret)])]),
  leave .ret]

def isoInfoMagicIs : Code Mutex := block [call isoReadSector, whenever (leave .ret), leave .ret]

def detectIsoVideo : Code Mutex := block [
  call isoReadSector,
  whenever (leave .ret),
  whenever (leave .ret),
  whenever (leave .ret),
  loop (block [
    call isoFindChild,
    whenever (leave .cont),
    call isoFindChild,
    whenever (leave .cont),
    whenever (leave .cont),
    call isoInfoMagicIs,
    whenever (leave .brk)]),
  whenever (leave .ret),
  whenever (leave .ret),
  leave .ret]

def readMedium : Code Mutex := block [call laserScsiCdb, whenever (leave .ret), leave .ret]

def readCdToc : Code Mutex := block [
  call laserScsiCdb,
  whenever (leave .ret),
  whenever (leave .ret),
  leave .ret]

def laserDiscIdentify : Code Mutex := block [
  call laserTokenNotReady,
  whenever (leave .ret),
  call laserTokenSettle,
  call laserTokenNotReady,
  whenever (leave .ret),
  call readMedium,
  whenever (block [
    call readCdToc,
    -- an audio CD
    whenever (leave .ret)]),
  -- a CD with a data track
  whenever (block [call detectIsoVideo, whenever (leave .ret)]),
  call detectUdfDisc,
  whenever (leave .ret),
  whenever (call detectIsoVideo)]

/-- The public operations. -/
inductive Operation where
  | acquire
  | release
  | scsiCdb
  | readBlocks
  | readCdBlocks
  | regionMismatch
  | cssSessionBegin
  | cssSessionEnd
  | discIdentify
deriving DecidableEq, Repr

/-- Their functions. -/
def Operation.function : Operation → Code Mutex
  | .acquire => laserAcquire
  | .release => laserRelease
  | .scsiCdb => laserScsiCdb
  | .readBlocks => laserReadBlocks
  | .readCdBlocks => laserReadCdBlocks
  | .regionMismatch => laserRegionMismatch
  | .cssSessionBegin => laserCssSessionBegin
  | .cssSessionEnd => laserCssSessionEnd
  | .discIdentify => laserDiscIdentify

end Liblaser.Locking
