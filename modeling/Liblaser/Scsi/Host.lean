import Liblaser.Bot.Transaction

/-!
# `Scsi.Host` — what `scsi.c` runs on

`scsi.c` sees the drive through four calls: one Bulk-Only transaction, the monotonic clock, `usleep`
and the look at the entry's cancelled flag, which another thread raises. `Host W` is these four on a
world `W`; any functions will do, so a statement about every `Host` is a statement about every stream
of outcomes, sense data, clock readings and cancellations. `Host.ofUsb` is the one the library runs
on: `laserBotSendLocked` over libusb.

`Sys W` is what a function of `scsi.c` works on under `io_lock`: the entry, the world, and a trace of
what was said on either side, newest first. The trace is never read by the code; it is what the
properties are about.

## Contents
- **The clock.** `Timespec`, `Timespec.msSince`, and `Host.Clock`, the law of a monotonic clock that
  `usleep` moves.
- **The trace.** `ScsiEvent`, `Sys`, and the primitive steps with what each changes.
- **Sense data.** `Sense`, `requestSenseLocked` and its spec.
-/

namespace Liblaser

open Bytes

/-! ## The clock -/

/-- `struct timespec`. -/
structure Timespec where
  tvSec : Int
  tvNsec : Int
deriving DecidableEq, Repr

/-- `monotonic_ms_since()`, on a clock already read; the division truncates toward zero. -/
def Timespec.msSince (now start : Timespec) : Int :=
  (now.tvSec - start.tvSec) * 1000 + (now.tvNsec - start.tvNsec).tdiv 1000000

/-- The nanoseconds a reading stands for. -/
def Timespec.ns (t : Timespec) : Int := t.tvSec * 1000000000 + t.tvNsec

/-- The milliseconds counted never fall short of those that passed, cut to whole ones. -/
theorem Timespec.le_msSince {now start : Timespec} {ms : Int}
    (h : start.ns + ms * 1000000 ≤ now.ns) : ms ≤ now.msSince start := by
  unfold ns at h
  unfold msSince
  rcases Int.le_total 0 (now.tvNsec - start.tvNsec) with hn | hn
  · rw [Int.tdiv_eq_ediv_of_nonneg hn]
    omega
  · have hneg := Int.neg_tdiv (a := start.tvNsec - now.tvNsec) (b := 1000000)
    rw [Int.neg_sub] at hneg
    rw [hneg, Int.tdiv_eq_ediv_of_nonneg (by omega)]
    omega

theorem Timespec.msSince_self (t : Timespec) : t.msSince t = 0 := by
  simp [msSince]

/-! ## The host -/

/-- What `scsi.c` calls: a transaction on the entry as it stands, the clock, `usleep` in microseconds,
    and the flag `laser_is_cancelled()` reads. -/
structure Host (W : Type) where
  send : LaserEntry → BotRequest → W → BotReply × W
  clockGettime : W → Timespec × W
  usleep : Nat → W → W
  isCancelled : W → Bool × W

/-- The host the library runs on: `bot.c` over libusb. -/
def Host.ofUsb {U : Type} (h : UsbHost U) (clockGettime : U → Timespec × U)
    (isCancelled : U → Bool × U) : Host U where
  send entry req u :=
    let (reply, b) := laserBotSendLocked h entry req u
    (reply, b.usb)
  clockGettime := clockGettime
  usleep := h.usleep
  isCancelled := isCancelled

/-- A scripted transaction: its outcome, the bytes moved, and what they were. -/
structure Scripted where
  outcome : BotOutcome
  actualLen : Option Nat := none
  data : List UInt8 := []
deriving DecidableEq, Repr

/-- A script: the transactions to come, and the time in nanoseconds. -/
structure Script where
  replies : Nat → Scripted
  ns : Int

/-- A script of these transactions, the device leaving the bus after them. -/
def Script.ofList (rs : List Scripted) : Script := ⟨fun n => rs.getD n { outcome := .noDevice }, 0⟩

/-- A host that answers from a script; only `usleep` takes time, and nothing is cancelled. -/
def Host.scripted : Host Script where
  send entry _ script :=
    let r := script.replies 0
    (⟨r.outcome, r.actualLen, r.data, { entry.bot with tag := entry.bot.tag + 1 }⟩,
      { script with replies := fun n => script.replies (n + 1) })
  clockGettime script := (⟨script.ns / 1000000000, script.ns % 1000000000⟩, script)
  usleep us script := { script with ns := script.ns + us * 1000 }
  isCancelled script := (false, script)

/-- The answer to REQUEST SENSE: fixed format, 24 bytes. -/
def Scripted.sense (key asc ascq : UInt8) : Scripted where
  outcome := .pass
  actualLen := some 24
  data := [0x70, 0, key, 0, 0, 0, 0, 0x10, 0, 0, 0, 0, asc, ascq] ++ List.replicate 10 0

/-- A monotonic clock: `now` never goes back, a reading is taken at some instant of the call, and
    `usleep` lets at least its argument pass. -/
structure Host.Clock {W : Type} (h : Host W) (now : W → Int) : Prop where
  send : ∀ entry req w, now w ≤ now (h.send entry req w).2
  isCancelled : ∀ w, now w ≤ now (h.isCancelled w).2
  usleep : ∀ us w, now w + us * 1000 ≤ now (h.usleep us w)
  read_ge : ∀ w, now w ≤ (h.clockGettime w).1.ns
  read_le : ∀ w, (h.clockGettime w).1.ns ≤ now (h.clockGettime w).2

theorem Host.scripted_clock : Host.scripted.Clock Script.ns where
  send _ _ _ := Int.le_refl _
  isCancelled _ := Int.le_refl _
  usleep _ _ := Int.le_refl _
  read_ge w := by simp only [scripted, Timespec.ns]; omega
  read_le w := by simp only [scripted, Timespec.ns]; omega

/-! ## The trace -/

/-- The fixed-format sense triple. -/
structure Sense where
  key : UInt8
  asc : UInt8
  ascq : UInt8
deriving DecidableEq, Repr

/-- What `laser_scsi_cdb()` made of an answer that does not end it. -/
inductive Retry where
  /-- 28h/00h taken as the end of a spin-up: a free retry. -/
  | mediumReady
  /-- The first 02h/04h of a becoming-ready wait: its clock starts. -/
  | waitStarted
  /-- A free round of a becoming-ready wait, so many milliseconds into it. -/
  | becomingReady (elapsedMs : Int)
  /-- A retry that spends an attempt. -/
  | counted
deriving DecidableEq, Repr

/-- The function of `scsi.c` a transaction is made by. -/
inductive Sender where
  /-- `laser_scsi_cdb()`: the caller's CDB. -/
  | scsiCdb
  | requestSense
  | testUnitReady
  | startStopUnit
  | mediaStatus
  | mediumRemoval
  | inquiry
deriving DecidableEq, Repr

/-- One thing said between `scsi.c` and what it runs on. -/
inductive ScsiEvent where
  /-- A transaction and its outcome. -/
  | sent (sender : Sender) (req : BotRequest) (outcome : BotOutcome)
  /-- Sense data read from the drive. -/
  | sense (s : Sense)
  /-- A look at the cancelled flag. -/
  | polled (cancelled : Bool)
  | slept (us : Nat)
  | retried (why : Retry)
  /-- A readiness wait begins. -/
  | waitBegun
deriving DecidableEq, Repr

/-- The outcome of a transaction, whoever made it. -/
def ScsiEvent.outcome : ScsiEvent → Option BotOutcome
  | .sent _ _ o => some o
  | _ => none

/-- The entry, the world, and the trace, newest first. -/
structure Sys (W : Type) where
  entry : LaserEntry
  world : W
  trace : List ScsiEvent

variable {W : Type}

/-- Add an event to the trace. -/
def Sys.record (e : ScsiEvent) (s : Sys W) : Sys W := { s with trace := e :: s.trace }

/-- `laser_bot_send_locked()`: only the fields of `bot.c` change in the entry. -/
def Sys.send (h : Host W) (sender : Sender) (req : BotRequest) (s : Sys W) : BotReply × Sys W :=
  let (reply, w) := h.send s.entry req s.world
  (reply, ⟨{ s.entry with bot := reply.bot }, w, .sent sender req reply.outcome :: s.trace⟩)

def Sys.clockGettime (h : Host W) (s : Sys W) : Timespec × Sys W :=
  let (t, w) := h.clockGettime s.world
  (t, { s with world := w })

def Sys.usleep (h : Host W) (us : Nat) (s : Sys W) : Sys W :=
  { s with world := h.usleep us s.world, trace := .slept us :: s.trace }

/-- `laser_is_cancelled()`. -/
def Sys.isCancelled (h : Host W) (s : Sys W) : Bool × Sys W :=
  let (c, w) := h.isCancelled s.world
  (c, { s with world := w, trace := .polled c :: s.trace })

/-- `entry->device_gone = 1`. -/
def Sys.markGone (s : Sys W) : Sys W := { s with entry := { s.entry with deviceGone := true } }

/-- `entry->not_ready = flag`. -/
def Sys.setNotReady (flag : Bool) (s : Sys W) : Sys W :=
  { s with entry := { s.entry with notReady := flag } }

theorem Sys.usleep_trace (h : Host W) (us : Nat) (s : Sys W) :
    (s.usleep h us).trace = .slept us :: s.trace := rfl

/-- A transaction changes the fields of `bot.c` and the world, and is recorded. -/
theorem Sys.send_eq (h : Host W) (sender : Sender) (req : BotRequest) (s : Sys W) :
    ∃ reply w, h.send s.entry req s.world = (reply, w)
      ∧ s.send h sender req
        = (reply, ⟨{ s.entry with bot := reply.bot }, w, .sent sender req reply.outcome :: s.trace⟩) :=
  ⟨_, _, rfl, rfl⟩

theorem Sys.clockGettime_eq (h : Host W) (s : Sys W) :
    ∃ t w, h.clockGettime s.world = (t, w) ∧ s.clockGettime h = (t, { s with world := w }) :=
  ⟨_, _, rfl, rfl⟩

theorem Sys.isCancelled_eq (h : Host W) (s : Sys W) :
    ∃ c w, h.isCancelled s.world = (c, w)
      ∧ s.isCancelled h = (c, { s with world := w, trace := .polled c :: s.trace }) :=
  ⟨_, _, rfl, rfl⟩

/-! ## Sense data -/

/-- The triple before any sense is read: `ff/00/00`. -/
def Sense.unread : Sense := ⟨0xff, 0, 0⟩

/-- 28h/00h NOT READY TO READY CHANGE, MEDIUM MAY HAVE CHANGED. -/
def Sense.isMediumMayHaveChanged (s : Sense) : Bool := s.asc == 0x28 && s.ascq == 0x00

/-- 02h/04h NOT READY, BECOMING READY. -/
def Sense.isBecomingReady (s : Sense) : Bool := s.key == 0x02 && s.asc == 0x04

/-- 02h/3Ah MEDIUM NOT PRESENT. -/
def Sense.isMediumNotPresent (s : Sense) : Bool := s.key == 0x02 && s.asc == 0x3a

/-- 02h/3Ah/02h MEDIUM NOT PRESENT - TRAY OPEN. -/
def Sense.isTrayOpen (s : Sense) : Bool := s.isMediumNotPresent && s.ascq == 0x02

/-- 06h UNIT ATTENTION. -/
def Sense.isUnitAttention (s : Sense) : Bool := s.key == 0x06

/-- A CDB without a data phase. -/
def plainRequest (cdb : List UInt8) : BotRequest where
  cdb := cdb
  data := none
  dataLen := 0
  dataIn := false
  wantActualLen := false
  dataLen_lt := by decide

/-- REQUEST SENSE, 24 bytes into a zeroed buffer. -/
def requestSenseRequest : BotRequest where
  cdb := [0x03, 0x00, 0x00, 0x00, 0x18, 0x00]
  data := some (List.replicate 24 0)
  dataLen := 24
  dataIn := true
  wantActualLen := true
  dataLen_lt := by decide

/-- `request_sense_locked()`: the triple, or `none` when it returns -1. -/
def requestSenseLocked (h : Host W) (s : Sys W) : Option Sense × Sys W :=
  let (reply, s) := s.send h .requestSense requestSenseRequest
  if reply.outcome.rc < 0 then (none, s)
  else if reply.actualLen.getD 0 < 14 then (none, s)
  else
    let buffer := overwrite (List.replicate 24 0) reply.data
    let sense : Sense := ⟨buffer.getD 2 0 &&& 0x0f, buffer.getD 12 0, buffer.getD 13 0⟩
    (some sense, s.record (.sense sense))

/-- TEST UNIT READY. -/
def testUnitReadyRequest : BotRequest := plainRequest [0x00, 0x00, 0x00, 0x00, 0x00, 0x00]

/-- `test_unit_ready_locked()`. -/
def testUnitReadyLocked (h : Host W) (s : Sys W) : BotOutcome × Sys W :=
  let (reply, s) := s.send h .testUnitReady testUnitReadyRequest
  (reply.outcome, s)

/-- One TEST UNIT READY: a transaction and its outcome. -/
theorem testUnitReadyLocked_eq (h : Host W) (s : Sys W) :
    ∃ o bot w, testUnitReadyLocked h s = (o, ⟨{ s.entry with bot := bot }, w,
      .sent .testUnitReady testUnitReadyRequest o :: s.trace⟩) :=
  ⟨_, _, _, rfl⟩

/-- What `request_sense_locked()` can do: one transaction, and the sense it read, if any. -/
inductive RequestSenseSpec (s : Sys W) : Option Sense → Sys W → Prop where
  | unanswered {w : W} {bot : BotState} {o : BotOutcome} :
      RequestSenseSpec s none
        ⟨{ s.entry with bot := bot }, w, .sent .requestSense requestSenseRequest o :: s.trace⟩
  | answered {w : W} {bot : BotState} {o : BotOutcome} {sense : Sense} (hkey : sense.key ≤ 0x0f) :
      RequestSenseSpec s (some sense)
        ⟨{ s.entry with bot := bot }, w,
          .sense sense :: .sent .requestSense requestSenseRequest o :: s.trace⟩

theorem requestSenseLocked_spec (h : Host W) (s : Sys W) :
    RequestSenseSpec s (requestSenseLocked h s).1 (requestSenseLocked h s).2 := by
  obtain ⟨reply, w, -, hsend⟩ := s.send_eq h .requestSense requestSenseRequest
  unfold requestSenseLocked
  rw [hsend]
  dsimp only
  split
  · exact .unanswered
  · split
    · exact .unanswered
    · exact .answered UInt8.and_le_right

/-- REQUEST SENSE takes its time. -/
theorem requestSenseLocked_now {h : Host W} {now : W → Int} (hclock : h.Clock now) (s : Sys W) :
    now s.world ≤ now (requestSenseLocked h s).2.world := by
  obtain ⟨reply, w, hw, hsend⟩ := s.send_eq h .requestSense requestSenseRequest
  have hle := hclock.send s.entry requestSenseRequest s.world
  rw [hw] at hle
  unfold requestSenseLocked
  rw [hsend]
  dsimp only
  split
  · exact hle
  · split <;> exact hle

end Liblaser
