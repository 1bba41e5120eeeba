import Mathlib.Logic.Function.Basic
import Liblaser.Blocks.Chunked
import Liblaser.Css.Session
import Liblaser.Scsi.Latched

/-!
# `Threads.Machine` — one entry and the threads that call on it

The calls of the library on one published entry, from any number of threads, down to what each does at
once: a look at a flag, a critical section of `css_mtx` or `io_lock`, one round of a loop that holds
`io_lock`. A round is the function that models it (`cdbTurn`, `waitTurn`, `testUnitReadyLocked`,
`waitBegin`), run on whatever libusb and the clock answer this time, and on the cancelled flag as it
stands.

`laser_read_blocks()`, `laser_region_mismatch()`, `laser_disc_identify()` and the rest are to the entry a
sequence of `laser_scsi_cdb()`, `laser_token_settle()` and `lower_transfer_cap()`, which a thread of the
machine makes in any order it likes. The last `laser_release()` is in it up to `release_slot()`.

`Act` is what one thread does to what all share; `Step` is that for one thread of all.
-/

namespace Liblaser

open Loop

/-! ## The threads -/

/-- The arguments of a `laser_scsi_cdb()` that has passed its checks on them. -/
abbrev CheckedCall := { call : CdbCall // call.valid = true }

/-- Does it change the CSS state? -/
def CheckedCall.gated (call : CheckedCall) : Bool := laserCdbChangesCssState call.1.cdb

/-- Where a thread is. -/
inductive Thread where
  | idle
  /-- `laser_scsi_cdb()`, with its entry: before the session check. -/
  | atGate (call : CheckedCall)
  /-- Before `laser_is_cancelled()`. -/
  | atPoll (call : CheckedCall)
  /-- Before the look at `device_gone`. -/
  | atLatch (call : CheckedCall)
  /-- In `pthread_mutex_lock(&entry->io_lock)`. -/
  | queued (call : CheckedCall)
  /-- At the top of a round, `io_lock` held. -/
  | inLoop (call : CheckedCall) (v : CdbVars)
  /-- `laser_token_settle()`: before the look at `device_gone`. -/
  | settleLatch
  /-- Before `laser_is_cancelled()`. -/
  | settlePoll
  /-- Waiting for `io_lock`, for its TEST UNIT READY. -/
  | settleQueued
  /-- `laser_wait_until_ready()`, waiting for `io_lock`. -/
  | waitQueued
  /-- At the top of a poll, `io_lock` held. -/
  | inWait (started noMediumSince : Timespec) (v : WaitVars)
  /-- `laser_css_session_begin()`, past its first critical section. -/
  | session (c : CssThread)
  /-- The last `laser_release()`: cancelled, waiting for `io_lock`. -/
  | teardown
  /-- The handle closed, `io_lock` released. -/
  | torn
deriving DecidableEq

/-- Does the thread hold `io_lock` there? -/
def Thread.holds : Thread → Bool
  | .inLoop _ _ | .inWait _ _ _ => true
  | _ => false

/-- How far the entry has come towards its end. The last `laser_release()` holds `g_registry_lock` from the
    moment it finds no claim left, so nobody else takes a step of this. -/
inductive Handle where
  | opened
  /-- No claim left. -/
  | dropping
  /-- `libusb_close()` has been called. -/
  | closed
  /-- `release_slot()` has. -/
  | freed
deriving DecidableEq, Repr

/-- What the threads share. -/
structure Shared (τ : Type) where
  entry : LaserEntry
  ioLock : Option τ
  handle : Handle

/-- The shared part, and where each thread is. -/
structure Machine (τ : Type) where
  shared : Shared τ
  threads : τ → Thread

/-- An entry as a registration publishes it, nobody calling on it. -/
def Machine.start {τ : Type} (entry : LaserEntry) : Machine τ :=
  ⟨⟨{ entry with inUse := true, cancelled := false, cssOpen := false, cssOwner := none }, none, .opened⟩,
    fun _ => .idle⟩

/-! ## What happens -/

/-- Why a `laser_scsi_cdb()` returned before `io_lock`. -/
inductive Refusal where
  | arguments
  | token
  | session
  | cancelled
  | gone
deriving DecidableEq, Repr

/-- The status it returned with. -/
def Refusal.status : Refusal → LaserStatus
  | .arguments => .errInvalid
  | .token => .errNoSuchToken
  | .session => .errInvalid
  | .cancelled => .errCancelled
  | .gone => .errNoDevice

/-- What a thread did. A round comes with the libusb calls made in it. -/
inductive Did where
  | refused (call : CdbCall) (why : Refusal)
  | entered (call : CheckedCall)
  /-- The session check passed. -/
  | gated (call : CheckedCall)
  /-- The other checks. -/
  | looked
  | locked (call : CheckedCall)
  /-- A round of the retry loop; with the result when the call returned on it. -/
  | round (call : CheckedCall) (log : List UsbEvent) (result : Option CdbResult)
  | settling
  /-- The TEST UNIT READY of `laser_token_settle()`, in a critical section of its own. -/
  | tested (log : List UsbEvent)
  /-- `laser_wait_until_ready()` has obtained `io_lock` and sent the spin-up. -/
  | spunUp (log : List UsbEvent)
  | waited (log : List UsbEvent)
  | lowered (bytes : Nat)
  /-- A critical section of `css_mtx`, or a wakeup, as the sessions log it. -/
  | session (e : SessionEvent Unit)
  | cancelled
  | closed (log : List UsbEvent)
  | freed

/-- The libusb calls made on the entry's handle. -/
def Did.log : Did → List UsbEvent
  | .round _ log _ => log
  | .tested log => log
  | .spunUp log => log
  | .waited log => log
  | .closed log => log
  | _ => []

/-- The host of one round: libusb and the clock as they answer this time, the cancelled flag as it
    stands. -/
def roundHost {U : Type} (usb : UsbHost U) (clockGettime : U → Timespec × U) (cancelled : Bool) :
    Host (Bus U) :=
  .onBus usb clockGettime fun u => (cancelled, u)

variable {τ : Type}

/-- The state a round runs on: the entry, and an empty bus log. -/
def Shared.sys {U : Type} (sh : Shared τ) (u : U) : Sys (Bus U) := ⟨sh.entry, ⟨u, []⟩, []⟩

/-- What thread `i` can do at once: from the shared state and where it is, to the same after it. -/
inductive Act (i : τ) (sh : Shared τ) : Thread → Did → Shared τ → Thread → Prop where
  -- `laser_scsi_cdb()`, the checks
  | badArguments {call : CdbCall} (hbad : call.valid = false) :
      Act i sh .idle (.refused call .arguments) sh .idle
  | badToken {call : CdbCall} (hok : call.valid = true) (hout : sh.entry.inUse = false) :
      Act i sh .idle (.refused call .token) sh .idle
  | enter (call : CheckedCall) (hin : sh.entry.inUse = true) :
      Act i sh .idle (.entered call) sh (.atGate call)
  | gateShut {call : CheckedCall} (hgated : call.gated = true) (hshut : laserCssSessionIsOpen sh.entry = false) :
      Act i sh (.atGate call) (.refused call.1 .session) sh .idle
  | gate {call : CheckedCall} (hopen : call.gated = true → laserCssSessionIsOpen sh.entry = true) :
      Act i sh (.atGate call) (.gated call) sh (.atPoll call)
  | pollCancelled {call : CheckedCall} (hcancel : sh.entry.cancelled = true) :
      Act i sh (.atPoll call) (.refused call.1 .cancelled) sh .idle
  | poll {call : CheckedCall} (hon : sh.entry.cancelled = false) :
      Act i sh (.atPoll call) .looked sh (.atLatch call)
  | latchGone {call : CheckedCall} (hgone : sh.entry.deviceGone = true) :
      Act i sh (.atLatch call) (.refused call.1 .gone) sh .idle
  | latch {call : CheckedCall} (hthere : sh.entry.deviceGone = false) :
      Act i sh (.atLatch call) .looked sh (.queued call)
  -- its critical section, round by round
  | lock {call : CheckedCall} (hfree : sh.ioLock = none) :
      Act i sh (.queued call) (.locked call) { sh with ioLock := some i } (.inLoop call {})
  | again {U : Type} (usb : UsbHost U) (clockGettime : U → Timespec × U) (u : U) {call : CheckedCall}
      {v v' : CdbVars} {t : Sys (Bus U)}
      (hturn : cdbTurn (roundHost usb clockGettime sh.entry.cancelled) call.1 (v, sh.sys u)
        = .again (v', t)) :
      Act i sh (.inLoop call v) (.round call t.world.log none) { sh with entry := t.entry }
        (.inLoop call v')
  | done {U : Type} (usb : UsbHost U) (clockGettime : U → Timespec × U) (u : U) {call : CheckedCall}
      {v v' : CdbVars} {t : Sys (Bus U)}
      (hturn : cdbTurn (roundHost usb clockGettime sh.entry.cancelled) call.1 (v, sh.sys u)
        = .done (v', t)) :
      Act i sh (.inLoop call v) (.round call t.world.log (some (conclude v' t).1))
        { sh with entry := (conclude v' t).2.entry, ioLock := none } .idle
  -- `laser_token_settle()`
  | settle (hin : sh.entry.inUse = true) : Act i sh .idle .settling sh .settleLatch
  | settleLatch :
      Act i sh .settleLatch .looked sh (if sh.entry.deviceGone then .idle else .settlePoll)
  | settlePoll :
      Act i sh .settlePoll .looked sh (if sh.entry.cancelled then .idle else .settleQueued)
  | test {U : Type} (usb : UsbHost U) (clockGettime : U → Timespec × U) (u : U) {o : BotOutcome}
      {t : Sys (Bus U)} (hfree : sh.ioLock = none)
      (htest : testUnitReadyLocked (roundHost usb clockGettime sh.entry.cancelled) (sh.sys u)
        = (o, t)) :
      Act i sh .settleQueued (.tested t.world.log) { sh with entry := t.entry }
        (if o = .pass ∨ o = .noDevice then .idle else .waitQueued)
  -- `laser_wait_until_ready()`
  | spinUp {U : Type} (usb : UsbHost U) (clockGettime : U → Timespec × U) (u : U)
      {started since : Timespec} {t : Sys (Bus U)} (hfree : sh.ioLock = none)
      (hbegin : waitBegin (roundHost usb clockGettime sh.entry.cancelled) (sh.sys u)
        = (started, since, t)) :
      Act i sh .waitQueued (.spunUp t.world.log) { sh with entry := t.entry, ioLock := some i }
        (.inWait started since {})
  | waitAgain {U : Type} (usb : UsbHost U) (clockGettime : U → Timespec × U) (u : U)
      {started since : Timespec} {v v' : WaitVars} {t : Sys (Bus U)}
      (hturn : waitTurn (roundHost usb clockGettime sh.entry.cancelled) started since (v, sh.sys u)
        = .again (v', t)) :
      Act i sh (.inWait started since v) (.waited t.world.log) { sh with entry := t.entry }
        (.inWait started since v')
  | waitDone {U : Type} (usb : UsbHost U) (clockGettime : U → Timespec × U) (u : U)
      {started since : Timespec} {v : WaitVars} {t : Sys (Bus U)}
      (hturn : waitTurn (roundHost usb clockGettime sh.entry.cancelled) started since (v, sh.sys u)
        = .done t) :
      Act i sh (.inWait started since v) (.waited t.world.log)
        { sh with entry := t.entry, ioLock := none } .idle
  -- `lower_transfer_cap()`
  | lower (bytes : Nat) (hfree : sh.ioLock = none) :
      Act i sh .idle (.lowered bytes)
        { sh with entry := (lowerTransferCap bytes (⟨sh.entry, (), []⟩ : Sys Unit)).entry } .idle
  -- `laser_css_session_begin()` and `laser_css_session_end()`
  | beginNull : Act i sh .idle (.session (.returned () none .errInvalid)) sh .idle
  | begin (owner : Nat) (hin : sh.entry.inUse = true) :
      Act i sh .idle (.session (.ofBegin () owner (beginLoop owner sh.entry).1))
        { sh with entry := (beginLoop owner sh.entry).2 }
        (if (beginLoop owner sh.entry).1.isSome then .idle else .session (.blocked owner))
  | wake {owner : Nat} (timedOut : Bool) :
      Act i sh (.session (.blocked owner)) (.session (.woke () timedOut)) sh
        (.session (.woken owner timedOut))
  | resume {owner : Nat} {timedOut : Bool} :
      Act i sh (.session (.woken owner timedOut))
        (.session (.ofBegin () owner (beginWoken timedOut owner sh.entry).1))
        { sh with entry := (beginWoken timedOut owner sh.entry).2 }
        (if (beginWoken timedOut owner sh.entry).1.isSome then .idle else .session (.blocked owner))
  | finish (owner : Option Nat) (hin : sh.entry.inUse = true) :
      Act i sh .idle (.session (.ended () owner (laserCssSessionEnd owner sh.entry).1))
        { sh with entry := (laserCssSessionEnd owner sh.entry).2 } .idle
  -- the last `laser_release()`: `laser_set_cancelled()`, then `teardown_entry_locked()`
  | cancel (hfirst : sh.handle = .opened) :
      Act i sh .idle .cancelled
        { sh with entry := laserSetCancelled sh.entry, handle := .dropping } .teardown
  | close {U : Type} (usb : UsbHost U) (u : U) {log : List UsbEvent} (hnext : sh.handle = .dropping)
      (hfree : sh.ioLock = none)
      (hreset : log = if sh.entry.deviceGone then []
        else (laserMassStorageReset usb sh.entry ⟨u, []⟩).log) :
      Act i sh .teardown (.closed log) { sh with handle := .closed } .torn
  | free (hnext : sh.handle = .closed) :
      Act i sh .torn .freed { sh with entry := {}, handle := .freed } .idle

variable [DecidableEq τ]

/-- What one of the threads does at once. -/
inductive Step (s : Machine τ) (a : τ × Did) : Machine τ → Prop where
  | of {sh : Shared τ} {pc : Thread} (hact : Act a.1 s.shared (s.threads a.1) a.2 sh pc) :
      Step s a ⟨sh, Function.update s.threads a.1 pc⟩

end Liblaser
