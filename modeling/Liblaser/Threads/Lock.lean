import Liblaser.Threads.Rounds

/-!
# `Threads.Lock` — who holds `io_lock`, and what goes out under a raised flag

The invariants of the machine: `io_lock` is held by the one thread that is inside a critical section of
several rounds (`Exclusive`), and an entry that is being torn down is cancelled (`Cancelling`).

Two properties of the library say that once some flag is up nothing more goes out: `device_gone` once
latched, the handle once closed. Both flags are raised with `io_lock` free on return (`Latch`), so a thread
that holds it under a raised flag has taken it there; what happens then depends on what that thread looks
at next. **`silent_iff`** is the one argument for both: nothing goes out under the flag exactly when
nobody who does not look, or looks and finds the token not cancelled, runs under it.
-/

namespace Liblaser

open Loop Transition

variable {τ : Type} {i j : τ} {sh sh' : Shared τ} {pc pc' : Thread} {did : Did}

/-! ## The lock -/

/-- What an act does to `io_lock` and to whether its thread holds it. -/
inductive LockAct (i : τ) : Option τ → Bool → Option τ → Bool → Prop where
  | same {l : Option τ} {b : Bool} : LockAct i l b l b
  | takes : LockAct i none false (some i) true
  | drops {l : Option τ} : LockAct i l true none false

theorem LockAct.self {l l' : Option τ} {b b' : Bool} (hlock : LockAct i l b l' b')
    (hheld : b = true ↔ l = some i) : b' = true ↔ l' = some i := by
  cases hlock with
  | same => exact hheld
  | takes => simp
  | drops => simp

/-- The other threads' claim on the lock is what it was. -/
theorem LockAct.other {l l' : Option τ} {b b' : Bool} (hlock : LockAct i l b l' b')
    (hheld : b = true ↔ l = some i) (hj : j ≠ i) : l = some j ↔ l' = some j := by
  cases hlock with
  | same => exact Iff.rfl
  | takes => simp [Ne.symm hj]
  | drops =>
      rw [hheld.mp rfl]
      simp [Ne.symm hj]

theorem Act.lockAct (hact : Act i sh pc did sh' pc') :
    LockAct i sh.ioLock pc.holds sh'.ioLock pc'.holds := by
  cases hact with
  | lock hfree =>
      rw [hfree]
      exact .takes
  | spinUp _ _ _ hfree _ =>
      rw [hfree]
      exact .takes
  | done _ _ _ _ => exact .drops
  | waitDone _ _ _ _ => exact .drops
  | settleLatch | settlePoll | test _ _ _ _ _ | begin _ _ | resume =>
      split <;> exact .same
  | _ => exact .same

/-- `io_lock` is held by the thread that is inside its critical section, if any. -/
def Exclusive (s : Machine τ) : Prop := ∀ i, (s.threads i).holds = true ↔ s.shared.ioLock = some i

theorem Exclusive.start {entry : LaserEntry} : Exclusive (Machine.start entry : Machine τ) := by
  intro i
  simp [Machine.start, Thread.holds]

/-! ## What acts do to the flags -/

theorem EntryAct.stays_gone {e e' : LaserEntry} (hentry : EntryAct e did e') (hlive : did ≠ .freed)
    (hgone : e.deviceGone = true) : e'.deviceGone = true := by
  cases hentry with
  | works _ hfixed =>
      have heq := congrArg LaserEntry.deviceGone hfixed
      exact heq.trans hgone
  | latches hfixed =>
      have heq := congrArg LaserEntry.deviceGone hfixed
      exact heq
  | session heffect => cases heffect <;> exact hgone
  | cancels => exact hgone
  | clears => exact absurd rfl hlive

/-- `device_gone` is raised by a `laser_scsi_cdb()` that returns, if at all. -/
theorem Act.deviceGone (hact : Act i sh pc did sh' pc') (hgone : sh'.entry.deviceGone = true) :
    sh.entry.deviceGone = true ∨ sh'.ioLock = none := by
  have hentry := hact.entryAct
  generalize hbefore : sh.entry = e at hentry
  generalize hafter : sh'.entry = e' at hentry hgone
  cases hentry with
  | works _ hfixed =>
      have heq := congrArg LaserEntry.deviceGone hfixed
      exact .inl (heq.symm.trans hgone)
  | latches _ =>
      cases hact with
      | done _ _ _ _ => exact .inr rfl
  | session heffect => cases heffect <;> exact .inl hgone
  | cancels => exact .inl hgone
  | clears => cases hgone

theorem EntryAct.cancelled {e e' : LaserEntry} (hentry : EntryAct e did e') (hlive : did ≠ .freed)
    (hcancel : e.cancelled = true) : e'.cancelled = true := by
  cases hentry with
  | works _ hfixed =>
      have heq := congrArg LaserEntry.cancelled hfixed
      exact heq.trans hcancel
  | latches hfixed =>
      have heq := congrArg LaserEntry.cancelled hfixed
      exact heq.trans hcancel
  | session heffect => cases heffect <;> exact hcancel
  | cancels => rfl
  | clears => exact absurd rfl hlive

/-- An entry that is being torn down is cancelled. -/
def Cancelling (sh : Shared τ) : Prop :=
  sh.handle = .dropping ∨ sh.handle = .closed → sh.entry.cancelled = true

theorem Cancelling.act (hcancel : Cancelling sh) (hact : Act i sh pc did sh' pc') :
    Cancelling sh' := by
  have hentry := hact.entryAct
  cases hact with
  | cancel _ => exact fun _ => rfl
  | free _ => rintro (hdown | hdown) <;> cases hdown
  | close _ _ hnext _ _ => exact fun _ => hcancel (.inl hnext)
  | _ => exact fun hdown => hentry.cancelled nofun (hcancel hdown)

/-- A thread comes to the top of a round with the lock just taken, or from a round that touched the bus. -/
theorem Act.into_loop {call : CheckedCall} {v : CdbVars} (hact : Act i sh pc did sh' pc')
    (hpc' : pc' = .inLoop call v) : v = {} ∨ Transfers did.log := by
  cases hact with
  | lock _ =>
      injection hpc' with _ hv
      exact .inl hv.symm
  | again _ _ _ hturn => exact .inr (round_again_transfers hturn)
  | settleLatch | settlePoll | test _ _ _ _ _ | begin _ _ | resume => split at hpc' <;> cases hpc'
  | _ => cases hpc'

/-- A thread comes to the top of a poll from the spin-up, or from a poll. -/
theorem Act.into_wait {started since : Timespec} {v : WaitVars} (hact : Act i sh pc did sh' pc')
    (hpc' : pc' = .inWait started since v) :
    (∃ log, did = .spunUp log) ∨ ∃ v', pc = .inWait started since v' := by
  cases hact with
  | spinUp _ _ _ _ _ => exact .inl ⟨_, rfl⟩
  | waitAgain _ _ _ _ =>
      injection hpc' with hstarted hsince _
      subst hstarted hsince
      exact .inr ⟨_, rfl⟩
  | settleLatch | settlePoll | test _ _ _ _ _ | begin _ _ | resume => split at hpc' <;> cases hpc'
  | _ => cases hpc'

variable [DecidableEq τ] {s s' : Machine τ} {entry : LaserEntry}

theorem Exclusive.step {a : τ × Did} (hex : Exclusive s) (hstep : Step s a s') : Exclusive s' := by
  cases hstep with
  | @of sh' pc' hact =>
      have hlock := hact.lockAct
      intro j
      show (Function.update s.threads a.1 pc' j).holds = true ↔ sh'.ioLock = some j
      by_cases hj : j = a.1
      · subst hj
        rw [Function.update_self]
        exact hlock.self (hex a.1)
      · rw [Function.update_of_ne hj, hex j]
        exact hlock.other (hex a.1) hj

/-- What the threads have done, newest first, each act with the state it was done in. -/
abbrev History (τ : Type) := List (Machine τ × τ × Did)

/-- A run of the machine. -/
abbrev MachineRun (entry : LaserEntry) (hist : History τ) (s : Machine τ) : Prop :=
  Run (Traced Step) (Machine.start entry) hist s

/-- A run goes on with what one of its threads does. -/
theorem MachineRun.act {hist : History τ} (hrun : MachineRun entry hist s) (hpc : s.threads i = pc)
    (hact : Act i s.shared pc did sh' pc') :
    MachineRun entry ((s, i, did) :: hist) ⟨sh', Function.update s.threads i pc'⟩ := by
  subst hpc
  exact hrun.step ⟨rfl, .of hact⟩

/-- The invariants of every run. -/
theorem MachineRun.invariants {hist : History τ} (hrun : MachineRun entry hist s) :
    Exclusive s ∧ Cancelling s.shared := by
  apply hrun.invariant (I := fun _ s => Exclusive s ∧ Cancelling s.shared)
  · rintro _ t a u _ ⟨hex, hcancel⟩ ⟨-, hstep⟩
    refine ⟨hex.step hstep, ?_⟩
    cases hstep with
    | of hact => exact hcancel.act hact
  · refine ⟨.start, ?_⟩
    rintro (hdown | hdown) <;> cases hdown

/-! ## A raised flag -/

/-- A flag that is raised with `io_lock` free on return. -/
def Latch (F : Shared τ → Prop) : Prop :=
  ∀ {i sh pc did sh' pc'}, Act i sh pc did sh' pc' → F sh' → F sh ∨ sh'.ioLock = none

/-- What runs without a look at anything that could stop it, or looks and finds the token not cancelled: the
    critical sections of the settle and of the wait, and a round of the retry loop. -/
def Unchecked (sh : Shared τ) : Did → Prop
  | .tested _ => True
  | .spunUp _ => True
  | .round _ _ _ => sh.entry.cancelled = false
  | _ => False

/-- **The invariant under the flag.** A thread that holds `io_lock` there has taken it there: it has not
    begun its first round, or something went out. -/
structure TakenUnder (F : Shared τ → Prop) (hist : History τ) (s : Machine τ) :
    Prop where
  inLoop : F s.shared → ∀ i call v, s.threads i = .inLoop call v →
    v = {} ∨ ∃ p ∈ hist, F p.1.shared ∧ Transfers p.2.2.log
  inWait : F s.shared → ∀ i started since v, s.threads i = .inWait started since v →
    ∃ p ∈ hist, F p.1.shared ∧ Unchecked p.1.shared p.2.2

omit [DecidableEq τ] in
theorem TakenUnder.start {F : Shared τ → Prop} : TakenUnder F [] (Machine.start entry : Machine τ) where
  inLoop _ i _ _ hat := by cases hat
  inWait _ i _ _ _ hat := by cases hat

theorem TakenUnder.step {F : Shared τ → Prop} {hist : History τ} {a : τ × Did}
    (hF : Latch F) (htaken : TakenUnder F hist s) (hex' : Exclusive s')
    (hstep : Step s a s') : TakenUnder F ((s, a) :: hist) s' := by
  cases hstep with
  | @of sh' pc' hact =>
      -- with a holder afterwards the flag was up before
      have hbefore : ∀ j, (Function.update s.threads a.1 pc' j).holds = true → F sh' → F s.shared := by
        intro j hholds hup
        rcases hF hact hup with hup | hfree
        · exact hup
        · have hheld := (hex' j).mp hholds
          rw [show sh'.ioLock = some j from hheld] at hfree
          cases hfree
      constructor
      case inLoop =>
        intro hup j call v hat
        have hat : Function.update s.threads a.1 pc' j = .inLoop call v := hat
        have hup := hbefore j (by rw [hat]; rfl) hup
        by_cases hj : j = a.1
        · subst hj
          rw [Function.update_self] at hat
          exact (hact.into_loop hat).imp id fun hlog => ⟨_, List.mem_cons_self, hup, hlog⟩
        · rw [Function.update_of_ne hj] at hat
          exact (htaken.inLoop hup j call v hat).imp id
            fun ⟨p, hmem, hp⟩ => ⟨p, List.mem_cons_of_mem _ hmem, hp⟩
      case inWait =>
        intro hup j started since v hat
        have hat : Function.update s.threads a.1 pc' j = .inWait started since v := hat
        have hup := hbefore j (by rw [hat]; rfl) hup
        by_cases hj : j = a.1
        · subst hj
          rw [Function.update_self] at hat
          rcases hact.into_wait hat with ⟨log, hdid⟩ | ⟨v', hpc⟩
          · refine ⟨(s, a), List.mem_cons_self, hup, ?_⟩
            show Unchecked s.shared a.2
            rw [hdid]
            trivial
          · obtain ⟨p, hmem, hp⟩ := htaken.inWait hup a.1 started since v' hpc
            exact ⟨p, List.mem_cons_of_mem _ hmem, hp⟩
        · rw [Function.update_of_ne hj] at hat
          obtain ⟨p, hmem, hp⟩ := htaken.inWait hup j started since v hat
          exact ⟨p, List.mem_cons_of_mem _ hmem, hp⟩

omit [DecidableEq τ] in
/-- Everything that makes a transfer. -/
theorem Act.transfers_cases (hact : Act i sh pc did sh' pc') (hlog : Transfers did.log) :
    Unchecked sh did ∨ (∃ started since v, pc = .inWait started since v)
      ∨ (sh.handle = .dropping ∧ sh.entry.deviceGone = false) := by
  cases hact with
  | again _ _ _ hturn =>
      left
      show sh.entry.cancelled = false
      cases hcancel : sh.entry.cancelled with
      | false => rfl
      | true =>
          rw [hcancel] at hturn
          obtain ⟨_, _, heq, -⟩ := round_cancelled hturn
          cases heq
  | @done _ _ _ _ _ _ _ t hturn =>
      left
      show sh.entry.cancelled = false
      cases hcancel : sh.entry.cancelled with
      | false => rfl
      | true =>
          rw [hcancel] at hturn
          obtain ⟨_, _, heq, hnil⟩ := round_cancelled hturn
          injection heq with heq
          injection heq with _ heq
          subst heq
          have hlog : Transfers t.world.log := hlog
          rw [hnil] at hlog
          exact absurd hlog not_transfers_nil
  | test _ _ _ _ _ | spinUp _ _ _ _ _ => exact .inl trivial
  | waitAgain _ _ _ _ | waitDone _ _ _ _ => exact .inr (.inl ⟨_, _, _, rfl⟩)
  | close _ _ hnext _ hreset =>
      refine .inr (.inr ⟨hnext, eq_false_of_ne_true fun hgone => ?_⟩)
      rw [hreset, if_pos hgone] at hlog
      exact not_transfers_nil hlog
  | _ => exact absurd hlog not_transfers_nil

omit [DecidableEq τ] in
/-- What is unchecked makes one, a round if it has an attempt to make. -/
theorem Act.transfers_of_unchecked (hact : Act i sh pc did sh' pc') (hun : Unchecked sh did)
    (hleft : ∀ call v, pc = .inLoop call v → v.attempt ≤ laserMaxRetries) : Transfers did.log := by
  cases hact with
  | again _ _ _ hturn => exact round_again_transfers hturn
  | done _ _ _ hturn =>
      have hon : sh.entry.cancelled = false := hun
      rw [hon] at hturn
      exact round_done_transfers (hleft _ _ rfl) hturn
  | test _ _ _ _ htest => exact test_transfers htest
  | spinUp _ _ _ _ hbegin => exact spinUp_transfers hbegin
  | _ => cases hun

theorem TakenUnder.run {F : Shared τ → Prop} {hist : History τ} (hF : Latch F)
    (hrun : MachineRun entry hist s) : TakenUnder F hist s := by
  apply hrun.invariant (I := TakenUnder F)
  · rintro labels t ⟨t', a⟩ u hrun htaken ⟨heq, hstep⟩
    have heq : t' = t := heq
    subst heq
    exact htaken.step hF (MachineRun.invariants (hrun.step ⟨rfl, hstep⟩)).1 hstep
  · exact .start

/-- **What goes out under the flag.** In a run nothing goes out under the flag exactly when nothing
    unchecked runs under it; `hclose` says that the reset of the teardown is not made under it. -/
theorem silent_iff {F : Shared τ → Prop} {hist : History τ} (hF : Latch F)
    (hclose : ∀ sh, F sh → ¬ (sh.handle = .dropping ∧ sh.entry.deviceGone = false))
    (hrun : MachineRun entry hist s) :
    (∀ p ∈ hist, F p.1.shared → ¬ Transfers p.2.2.log)
      ↔ ∀ p ∈ hist, F p.1.shared → ¬ Unchecked p.1.shared p.2.2 := by
  have hreached : ∀ p ∈ hist, ∃ newer older, hist = newer ++ p :: older
      ∧ TakenUnder F older p.1 ∧ ∃ u, Step p.1 p.2 u := by
    intro p hp
    obtain ⟨newer, older, hhist⟩ := List.append_of_mem hp
    obtain ⟨hbefore, hstep⟩ := hrun.traced hhist
    exact ⟨newer, older, hhist, .run hF hbefore, hstep⟩
  constructor
  · intro hsilent p hp hup hun
    obtain ⟨newer, older, hhist, htaken, u, hstep⟩ := hreached p hp
    cases hstep with
    | of hact =>
        refine hsilent p hp hup (hact.transfers_of_unchecked hun ?_)
        intro call v hat
        rcases htaken.inLoop hup _ call v hat with rfl | ⟨q, hq, hqup, hqlog⟩
        · decide
        · have hmem : q ∈ hist := by
            rw [hhist]
            exact List.mem_append_right _ (List.mem_cons_of_mem _ hq)
          exact absurd hqlog (hsilent q hmem hqup)
  · intro hchecked p hp hup hlog
    obtain ⟨newer, older, hhist, htaken, u, hstep⟩ := hreached p hp
    cases hstep with
    | of hact =>
        rcases hact.transfers_cases hlog with hun | ⟨started, since, v, hat⟩ | hdown
        · exact hchecked p hp hup hun
        · obtain ⟨q, hq, hqup, hqun⟩ := htaken.inWait hup _ started since v hat
          have hmem : q ∈ hist := by
            rw [hhist]
            exact List.mem_append_right _ (List.mem_cons_of_mem _ hq)
          exact hchecked q hmem hqup hqun
        · exact hclose _ hup hdown

end Liblaser
