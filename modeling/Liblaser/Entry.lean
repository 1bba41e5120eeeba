/-!
# `Entry` — statuses, limits and the per-device record

The data `laser.h` and `laser_internal.h` declare and every other module works on: `laser_status_t`,
the registry and transfer limits, and `laser_entry_t`. A flag of the source is a `Bool`, a counter a
`Nat`, a field of fixed width the fixed-width type; a `NULL` pointer is `none`.

The record is cut where the source cuts its responsibilities, so that who may write what is visible
in a type: `BotState` is the part only `bot.c` writes, `Throughput` the part only
`sample_throughput_locked()` writes. The mutexes and the condition variable are not data here: they
are steps of the models that take them, and resources of the registry's accounting.
-/

namespace Liblaser

/-! ## `laser_status_t` -/

/-- `laser_status_t`. -/
inductive LaserStatus where
  | ok
  | errNoSuchToken
  | errIo
  | errMediaGone
  | errRefused
  | errScrambled
  | errNoKey
  | errRegion
  | errInvalid
  | errCancelled
  | errNoDevice
deriving DecidableEq, Repr

/-- The numeric value of a status, as the block reads return it. -/
def LaserStatus.code : LaserStatus → Int
  | .ok => 0
  | .errNoSuchToken => -1
  | .errIo => -2
  | .errMediaGone => -3
  | .errRefused => -4
  | .errScrambled => -5
  | .errNoKey => -6
  | .errRegion => -7
  | .errInvalid => -8
  | .errCancelled => -9
  | .errNoDevice => -10

/-- Every status but `LASER_OK` is a negative number, so none is mistaken for a block count. -/
theorem LaserStatus.code_neg {st : LaserStatus} (h : st ≠ .ok) : st.code < 0 := by
  cases st <;> simp_all [LaserStatus.code]

/-- No two statuses have one number. -/
theorem LaserStatus.code_inj {st st' : LaserStatus} (h : st.code = st'.code) : st = st' := by
  cases st <;> cases st' <;> first | rfl | cases h

/-! ## Limits -/

/-- `LASER_MAX_DEVICES`. -/
def laserMaxDevices : Nat := 8

/-- `LASER_MAX_BYTES_PER_TRANSFER`. -/
def laserMaxBytesPerTransfer : Nat := 64 * 1024

/-- `LASER_MIN_BYTES_PER_TRANSFER`. -/
def laserMinBytesPerTransfer : Nat := 8 * 1024

/-! ## `laser_entry_t` -/

/-- The fields of the entry that only `bot.c` writes: the tag of the last CBW, and the two
    once-per-device log latches. -/
structure BotState where
  tag : UInt32 := 0
  residueQuirkLogged : Bool := false
  cswStallQuirkLogged : Bool := false
deriving DecidableEq, Repr

/-- The read-throughput sample. -/
structure Throughput where
  xferBytes : UInt64 := 0
  xferUs : UInt64 := 0
  xferCount : UInt64 := 0
  slowWarned : Bool := false
deriving DecidableEq, Repr

/-- `laser_entry_t`. The default value is the slot after the `memset` to zero. -/
structure LaserEntry where
  inUse : Bool := false
  token : Int := 0
  refs : Nat := 0
  maxTransferBytes : Nat := 0
  cancelled : Bool := false
  deviceGone : Bool := false
  /-- `st_dev` and `st_ino` of the descriptor at registration; both zero when `fstat` failed. -/
  regDev : Nat := 0
  regIno : Nat := 0
  ifaceNum : UInt8 := 0
  epIn : UInt8 := 0
  epOut : UInt8 := 0
  epMaxPacket : UInt16 := 0
  kernelDriverDetached : Bool := false
  xfer : Throughput := {}
  bot : BotState := {}
  vid : UInt16 := 0
  pid : UInt16 := 0
  bcdDevice : UInt16 := 0
  probeTimeouts : Bool := false
  lun : UInt8 := 0
  cssOpen : Bool := false
  /-- The cookie of the open CSS session, `none` for `NULL`. -/
  cssOwner : Option Nat := none
  notReady : Bool := false
deriving DecidableEq, Repr

/-- `laser_set_cancelled()`. -/
def laserSetCancelled (entry : LaserEntry) : LaserEntry := { entry with cancelled := true }

/-- `laser_css_session_is_open()`. -/
def laserCssSessionIsOpen (entry : LaserEntry) : Bool := entry.cssOpen

end Liblaser
