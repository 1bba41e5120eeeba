import Mathlib.Logic.Function.Basic
import Liblaser.Entry
import Liblaser.Lib.Lease
import Liblaser.Lib.Transition

/-!
# `Css.Session` — the authentication sessions of one entry

`laser_css_session_begin()` and `laser_css_session_end()` on an entry that stays registered, called by any
number of threads. A session is a flag and a cookie, not a held lock, so what is atomic is one critical
section of `css_mtx`: a `begin()` is one of them if it returns at once, and otherwise one up to its wait
and one more after each time it wakes.

A waiter may wake at any time, with its deadline over or without; that covers the signal of an `end()`,
a spurious wakeup, and a deadline that passes while another thread holds `css_mtx` or takes the signal
with it. It goes on when it next gets `css_mtx`.
-/

namespace Liblaser

variable {τ : Type}

/-! ## The critical sections -/

/-- `laser_css_session_begin()` from the top of its loop; `none` is its wait. -/
def beginLoop (owner : Nat) (entry : LaserEntry) : Option LaserStatus × LaserEntry :=
  if entry.cssOpen then
    if entry.cssOwner = some owner then (some .errInvalid, entry)
    else (none, entry)
  else (some .ok, { entry with cssOpen := true, cssOwner := some owner })

/-- From the return of its wait: `ETIMEDOUT`, or not. -/
def beginWoken (timedOut : Bool) (owner : Nat) (entry : LaserEntry) :
    Option LaserStatus × LaserEntry :=
  if timedOut then (some .errIo, entry) else beginLoop owner entry

/-- `laser_css_session_end()`: whether it took effect, and what it leaves. -/
def laserCssSessionEnd (owner : Option Nat) (entry : LaserEntry) : Bool × LaserEntry :=
  if !entry.cssOpen || entry.cssOwner != owner then (false, entry)
  else (true, { entry with cssOpen := false, cssOwner := none })

/-! ## The threads -/

/-- Where a thread is. -/
inductive CssThread where
  | idle
  /-- In `pthread_cond_timedwait()`, on `css_cv`. -/
  | blocked (owner : Nat)
  /-- Woken, waiting for `css_mtx`; `timedOut` is what its wait is going to return. -/
  | woken (owner : Nat) (timedOut : Bool)
deriving DecidableEq, Repr

/-- The cookie a thread waits with. -/
def CssThread.waiting : CssThread → Option Nat
  | .idle => none
  | .blocked owner => some owner
  | .woken owner _ => some owner

/-- An entry and the threads that call on it. -/
structure Sessions (τ : Type) where
  entry : LaserEntry
  threads : τ → CssThread

/-- An entry just registered. -/
def Sessions.start (entry : LaserEntry) : Sessions τ :=
  ⟨{ entry with cssOpen := false, cssOwner := none }, fun _ => .idle⟩

/-- What happened. A cookie is `none` for `NULL`. -/
inductive SessionEvent (τ : Type) where
  /-- A `begin()` returned. -/
  | returned (t : τ) (owner : Option Nat) (status : LaserStatus)
  /-- A `begin()` found a session open and went to wait. -/
  | waits (t : τ) (owner : Nat)
  | woke (t : τ) (timedOut : Bool)
  /-- An `end()`; `closed` if it took effect. -/
  | ended (t : τ) (owner : Option Nat) (closed : Bool)
deriving DecidableEq, Repr

/-- What a `begin()` that leaves `css_mtx` does, in the log. -/
def SessionEvent.ofBegin (t : τ) (owner : Nat) : Option LaserStatus → SessionEvent τ
  | some status => .returned t (some owner) status
  | none => .waits t owner

variable [DecidableEq τ]

/-- What it does to the entry and to its own thread. -/
def Sessions.leave (t : τ) (owner : Nat) (r : Option LaserStatus × LaserEntry) (s : Sessions τ) :
    Sessions τ :=
  ⟨r.2, Function.update s.threads t (if r.1.isSome then .idle else .blocked owner)⟩

/-- One critical section, or one wakeup. -/
inductive SessionStep : Sessions τ → SessionEvent τ → Sessions τ → Prop where
  | beginNull {s : Sessions τ} (t : τ) (hidle : s.threads t = .idle) :
      SessionStep s (.returned t none .errInvalid) s
  | begin {s : Sessions τ} (t : τ) (owner : Nat) (hidle : s.threads t = .idle) :
      SessionStep s (.ofBegin t owner (beginLoop owner s.entry).1)
        (s.leave t owner (beginLoop owner s.entry))
  | wake {s : Sessions τ} (t : τ) (owner : Nat) (timedOut : Bool)
      (hblocked : s.threads t = .blocked owner) :
      SessionStep s (.woke t timedOut)
        { s with threads := Function.update s.threads t (.woken owner timedOut) }
  | resume {s : Sessions τ} (t : τ) (owner : Nat) (timedOut : Bool)
      (hwoken : s.threads t = .woken owner timedOut) :
      SessionStep s (.ofBegin t owner (beginWoken timedOut owner s.entry).1)
        (s.leave t owner (beginWoken timedOut owner s.entry))
  | finish {s : Sessions τ} (t : τ) (owner : Option Nat) (hidle : s.threads t = .idle) :
      SessionStep s (.ended t owner (laserCssSessionEnd owner s.entry).1)
        { s with entry := (laserCssSessionEnd owner s.entry).2 }

end Liblaser
