import Liblaser.Css.Session
import Liblaser.Registry.Unwind

/-!
# `Css.Exclusion` — one session at a time

What the sessions are for, in the terms of `Lib.Lease`: a `begin()` that returns `LASER_OK` takes the drive
for its cookie, an `end()` that takes effect drops it, and nothing else says anything. `SessionInvariant` is
the refinement: the log of every run is lawful, and the flag and the cookie of the entry are the owner the
log leads to. **`sessions_exclusive`** is read off it.
-/

namespace Liblaser

open Transition

variable {τ : Type} {e : SessionEvent τ} {hist : List (SessionEvent τ)} {entry : LaserEntry}

/-! ## One critical section -/

/-- Everything that can happen to the entry. -/
inductive SessionEffect : LaserEntry → SessionEvent τ → LaserEntry → Prop where
  | opens {entry : LaserEntry} (t : τ) (owner : Nat) (hfree : entry.cssOpen = false) :
      SessionEffect entry (.returned t (some owner) .ok)
        { entry with cssOpen := true, cssOwner := some owner }
  | closes {entry : LaserEntry} (t : τ) (hopen : entry.cssOpen = true) :
      SessionEffect entry (.ended t entry.cssOwner true)
        { entry with cssOpen := false, cssOwner := none }
  | ignored {entry : LaserEntry} (t : τ) (owner : Option Nat)
      (hmismatch : ¬(entry.cssOpen = true ∧ entry.cssOwner = owner)) :
      SessionEffect entry (.ended t owner false) entry
  | fails {entry : LaserEntry} (t : τ) (owner : Option Nat) (status : LaserStatus)
      (hstatus : status ≠ .ok) : SessionEffect entry (.returned t owner status) entry
  | waits {entry : LaserEntry} (t : τ) (owner : Nat) (hopen : entry.cssOpen = true)
      (hother : entry.cssOwner ≠ some owner) : SessionEffect entry (.waits t owner) entry
  | woke {entry : LaserEntry} (t : τ) (timedOut : Bool) : SessionEffect entry (.woke t timedOut) entry

theorem beginLoop_effect (t : τ) (owner : Nat) (entry : LaserEntry) :
    SessionEffect entry (.ofBegin t owner (beginLoop owner entry).1) (beginLoop owner entry).2 := by
  unfold beginLoop
  by_cases hopen : entry.cssOpen = true
  · rw [if_pos hopen]
    by_cases hown : entry.cssOwner = some owner
    · rw [if_pos hown]
      exact .fails t _ _ (by simp)
    · rw [if_neg hown]
      exact .waits t owner hopen hown
  · rw [if_neg hopen]
    exact .opens t owner (by simpa using hopen)

theorem laserCssSessionEnd_effect (t : τ) (owner : Option Nat) (entry : LaserEntry) :
    SessionEffect entry (.ended t owner (laserCssSessionEnd owner entry).1)
      (laserCssSessionEnd owner entry).2 := by
  unfold laserCssSessionEnd
  by_cases hmatch : entry.cssOpen = true ∧ entry.cssOwner = owner
  · obtain ⟨hopen, hown⟩ := hmatch
    subst hown
    rw [if_neg (by simp [hopen])]
    exact .closes t hopen
  · rw [if_pos (by simpa [Classical.or_iff_not_imp_left] using hmatch)]
    exact .ignored t owner hmatch

/-! ## The lease -/

/-- What the log says to the lease. -/
def SessionEvent.lease : SessionEvent τ → Lease.Act Nat
  | .returned _ (some owner) .ok => .took owner
  | .ended _ (some owner) true => .dropped owner
  | _ => .other

theorem lease_dropped {owner : Nat} (h : e.lease = .dropped owner) :
    ∃ t, e = .ended t (some owner) true := by
  unfold SessionEvent.lease at h
  split at h
  · cases h
  · injection h with h
    subst h
    exact ⟨_, rfl⟩
  · cases h

theorem lease_of_failed {t : τ} {owner : Option Nat} {status : LaserStatus} (h : status ≠ .ok) :
    (SessionEvent.returned t owner status).lease = .other := by
  unfold SessionEvent.lease
  split
  · simp_all
  · simp_all
  · rfl

/-- The log of a run is lawful, and the entry says who the owner is. -/
structure SessionInvariant (hist : List (SessionEvent τ)) (entry : LaserEntry) : Prop where
  lawful : Lease.Lawful (hist.map SessionEvent.lease)
  owner : entry.cssOwner = Lease.holder (hist.map SessionEvent.lease)
  flag : entry.cssOpen = entry.cssOwner.isSome

theorem SessionInvariant.start :
    SessionInvariant ([] : List (SessionEvent τ)) (Sessions.start entry : Sessions τ).entry :=
  ⟨trivial, rfl, rfl⟩

/-- A step that the lease does not see. -/
theorem SessionInvariant.other (h : SessionInvariant hist entry) (he : e.lease = .other) :
    SessionInvariant (e :: hist) entry := by
  refine ⟨?_, ?_, h.flag⟩
  · rw [List.map_cons, he]
    exact h.lawful
  · rw [List.map_cons, he, Lease.holder_other]
    exact h.owner

theorem SessionInvariant.step {entry' : LaserEntry} (h : SessionInvariant hist entry)
    (heffect : SessionEffect entry e entry') : SessionInvariant (e :: hist) entry' := by
  cases heffect with
  | opens t owner hfree =>
      refine ⟨⟨?_, h.lawful⟩, rfl, rfl⟩
      rw [← h.owner]
      have hflag := h.flag
      rw [hfree] at hflag
      simpa using hflag.symm
  | closes t hopen =>
      have hflag := h.flag
      rw [hopen] at hflag
      -- an open session has an owner, so the lease sees it dropped
      obtain ⟨owner, howner⟩ := Option.isSome_iff_exists.mp hflag.symm
      rw [howner]
      refine ⟨⟨?_, h.lawful⟩, rfl, rfl⟩
      rw [← h.owner]
      exact howner
  | ignored t owner hmismatch =>
      apply h.other
      cases owner <;> rfl
  | fails t owner status hstatus => exact h.other (lease_of_failed hstatus)
  | waits t owner hopen hother => exact h.other rfl
  | woke t timedOut => exact h.other rfl

/-! ## Exclusion -/

/-- What one step may do to the session of an entry. -/
structure SessionAccount (before : LaserEntry) (e : SessionEvent τ) (after : LaserEntry) : Prop where
  /-- A `begin()` that returns `LASER_OK` finds no session, and opens one for its cookie. -/
  opened : ∀ t owner, e = .returned t owner .ok →
    before.cssOpen = false ∧ after.cssOpen = true ∧ after.cssOwner = owner ∧ owner ≠ none
  /-- An `end()` takes effect exactly with the cookie of the open session. -/
  matched : ∀ t owner closed, e = .ended t owner closed →
    (closed = true ↔ before.cssOpen = true ∧ before.cssOwner = owner)
  /-- Only that closes a session. -/
  closed : before.cssOpen = true → after.cssOpen = false → ∃ t, e = .ended t before.cssOwner true
  /-- A `begin()` that returns anything else or waits, and any other `end()`, changes nothing. -/
  unchanged : (∀ t owner, e ≠ .returned t owner .ok) → (∀ t owner, e ≠ .ended t owner true) →
    after.cssOpen = before.cssOpen ∧ after.cssOwner = before.cssOwner

theorem SessionEffect.account {entry' : LaserEntry} (heffect : SessionEffect entry e entry') :
    SessionAccount entry e entry' := by
  cases heffect with
  | opens t owner hfree => constructor <;> simp_all
  | closes t hopen => constructor <;> simp_all
  | ignored t owner hmismatch => constructor <;> simp_all
  | fails t owner status hstatus => constructor <;> simp_all
  | waits t owner hopen hother => constructor <;> simp_all
  | woke t timedOut => constructor <;> simp_all

/-! ## Runs -/

/-- A run starts on the entry that a registration publishes. -/
theorem start_registered {o : Setup} {fd : Int} {b : Build} (h : setupEntry o fd = .ok b) :
    (Sessions.start b.entry : Sessions τ).entry = b.entry := by
  have hsetup := setupEntry_spec o fd
  rw [h] at hsetup
  obtain ⟨-, -, -, -, hopen, howner⟩ := hsetup
  show { b.entry with cssOpen := false, cssOwner := none } = b.entry
  rw [← hopen, ← howner]

variable [DecidableEq τ] {s s' : Sessions τ}

theorem SessionStep.effect (hstep : SessionStep s e s') : SessionEffect s.entry e s'.entry := by
  cases hstep with
  | beginNull t hidle => exact .fails t none _ (by simp)
  | begin t owner hidle => exact beginLoop_effect t owner s.entry
  | wake t owner timedOut hblocked => exact .woke t timedOut
  | resume t owner timedOut hwoken =>
      cases timedOut
      · exact beginLoop_effect t owner s.entry
      · exact .fails t _ _ (by simp)
  | finish t owner hidle => exact laserCssSessionEnd_effect t owner s.entry

theorem SessionInvariant.run (hrun : Run SessionStep (Sessions.start entry) hist s) :
    SessionInvariant hist s.entry :=
  hrun.invariant (I := fun hist s => SessionInvariant hist s.entry)
    (fun _ _ _ _ _ h hstep => h.step hstep.effect) .start

/-- **One session at a time.** On every run the flag says whether there is an owner; between a `begin()`
    that returned `LASER_OK` and any later one stands an `end()` of the first one's cookie that took
    effect; and no other step touches the session. -/
theorem sessions_exclusive (hrun : Run SessionStep (Sessions.start entry) hist s) :
    (s.entry.cssOpen = true ↔ s.entry.cssOwner ≠ none)
      ∧ (∀ newer mid older t t' owner owner',
        hist = newer ++ .returned t' (some owner') .ok :: (mid ++ .returned t (some owner) .ok :: older) →
        ∃ t'', .ended t'' (some owner) true ∈ mid)
      ∧ ∀ e s', SessionStep s e s' → SessionAccount s.entry e s'.entry := by
  have hinv := SessionInvariant.run hrun
  refine ⟨?_, ?_, ?_⟩
  · rw [hinv.flag]
    exact Option.isSome_iff_ne_none
  · intro newer mid older t t' owner owner' hhist
    -- the two returns are two takes of the lease
    have hlawful := hinv.lawful
    rw [hhist] at hlawful
    simp only [List.map_append, List.map_cons] at hlawful
    have hdropped : .dropped owner ∈ mid.map SessionEvent.lease := Lease.Lawful.exclusive hlawful
    obtain ⟨e, hmem, hlease⟩ := List.mem_map.mp hdropped
    obtain ⟨t'', he⟩ := lease_dropped hlease
    exact ⟨t'', he ▸ hmem⟩
  · intro e s' hstep
    exact hstep.effect.account

/-- Two consumers: the second waits for the first, and has the session after it. -/
theorem sessions_exclusive_handover : ∃ s : Sessions Bool, s.entry.cssOwner = some 2
    ∧ (s.entry.cssOpen = true ↔ s.entry.cssOwner ≠ none)
    ∧ ∃ t, SessionEvent.ended t (some 1) true ∈
      [.woke true false, .ended false (some 1) true, .waits true 2] := by
  have hrun : Run SessionStep (Sessions.start {} : Sessions Bool) _ _ :=
    ((((Run.refl.step (.begin false 1 rfl)).step (.begin true 2 rfl)).step
      (.finish false (some 1) rfl)).step (.wake true 2 false rfl)).step (.resume true 2 false rfl)
  obtain ⟨hflag, hbetween, -⟩ := sessions_exclusive hrun
  exact ⟨_, rfl, hflag, hbetween [] _ [] false true 1 2 rfl⟩

end Liblaser
