import Liblaser.Threads.Lock

/-!
# `Threads.Gate` — key commands and sessions

`laser_scsi_cdb()` refuses a CDB that changes the CSS state when no session is open, whoever's it is. It
looks in one critical section of `css_mtx`, and sends in another of `io_lock`; in between, and between two
attempts, the session it saw can end.

`SessionInvariant` carries over from `Css.Exclusion`: the flag is what the log of the sessions says.
A thread past its check has seen it up (`CheckedOpen`), so **`key_commands_in_session_iff`**: its commands go
out in a session as long as the last change since the check is not an `end()`. `key_command_after_end` is
a SEND KEY that passed on another consumer's session and goes out when that is over.
-/

namespace Liblaser

open Loop Transition

variable {τ : Type} {i : τ} {sh sh' : Shared τ} {pc pc' : Thread} {did : Did} {call : CheckedCall}

/-! ## The log of the sessions -/

/-- What an act writes to the log of the sessions. -/
def Did.session? : Did → Option (SessionEvent Unit)
  | .session e => some e
  | _ => none

/-- The log of the sessions, newest first. -/
def sessionLog (hist : History τ) : List (SessionEvent Unit) := hist.filterMap fun p => p.2.2.session?

@[simp] theorem sessionLog_cons (p : Machine τ × τ × Did) (hist : History τ) :
    sessionLog (p :: hist) = p.2.2.session?.toList ++ sessionLog hist := by
  unfold sessionLog
  rw [List.filterMap_cons]
  cases p.2.2.session? <;> rfl

theorem sessionLog_append (newer older : History τ) :
    sessionLog (newer ++ older) = sessionLog newer ++ sessionLog older :=
  List.filterMap_append

/-- The owner the log leads to. -/
def ownerIn (hist : History τ) : Option Nat := Lease.holder ((sessionLog hist).map SessionEvent.lease)

/-- Is the last change of owner in the log an `end()`? -/
def EndedIn (hist : History τ) : Prop :=
  Lease.change ((sessionLog hist).map SessionEvent.lease) = some none

instance (hist : History τ) : Decidable (EndedIn hist) := inferInstanceAs (Decidable (_ = _))

/-- A session open then is open now unless it has ended and none has begun since. -/
theorem ownerIn_append {newer older : History τ} (hopen : (ownerIn older).isSome = true) :
    (ownerIn (newer ++ older)).isSome = true ↔ ¬ EndedIn newer := by
  unfold ownerIn EndedIn at *
  rw [sessionLog_append, List.map_append, Lease.holder_append]
  cases Lease.change ((sessionLog newer).map SessionEvent.lease) with
  | none => simpa using hopen
  | some owner => cases owner <;> simp

theorem ownerIn_append_of_ended {newer older : History τ} (hended : EndedIn newer) :
    ownerIn (newer ++ older) = none := by
  unfold ownerIn EndedIn at *
  rw [sessionLog_append, List.map_append, Lease.holder_append, hended]
  rfl

/-! ## The invariants -/

theorem EntryAct.sessions {hist : List (SessionEvent Unit)} {e e' : LaserEntry}
    (hentry : EntryAct e did e') (hlive : did ≠ .freed) (hinv : SessionInvariant hist e) :
    SessionInvariant (did.session?.toList ++ hist) e' := by
  have hsame : did.session? = none → e'.cssOpen = e.cssOpen → e'.cssOwner = e.cssOwner →
      SessionInvariant (did.session?.toList ++ hist) e' := by
    intro hno hopen howner
    rw [hno]
    refine ⟨hinv.lawful, howner.trans hinv.owner, ?_⟩
    rw [hopen, howner]
    exact hinv.flag
  cases hentry with
  | works hplain hfixed =>
      have hopen := congrArg LaserEntry.cssOpen hfixed
      have howner := congrArg LaserEntry.cssOwner hfixed
      apply hsame _ hopen howner
      cases did <;> first | rfl | cases hplain
  | latches hfixed =>
      have hopen := congrArg LaserEntry.cssOpen hfixed
      have howner := congrArg LaserEntry.cssOwner hfixed
      exact hsame rfl hopen howner
  | session heffect => exact hinv.step heffect
  | cancels => exact hsame rfl rfl rfl
  | clears => exact absurd rfl hlive

/-- The call a thread is in, its session check behind it. -/
def Thread.checked : Thread → Option CheckedCall
  | .atPoll call | .atLatch call | .queued call | .inLoop call _ => some call
  | _ => none

/-- A thread comes to be past the check of a call by the check, or was. -/
theorem Act.checked (hact : Act i sh pc did sh' pc') (hpc' : pc'.checked = some call) :
    (did = .gated call ∧ (call.gated = true → sh.entry.cssOpen = true))
      ∨ (pc.checked = some call ∧ ∀ call', did ≠ .gated call') := by
  cases hact with
  | gate hopen =>
      injection hpc' with heq
      subst heq
      exact .inl ⟨rfl, hopen⟩
  | poll _ | latch _ | lock _ | again _ _ _ _ =>
      refine .inr ⟨hpc', ?_⟩
      intro call' hdid
      cases hdid
  | settleLatch | settlePoll | test _ _ _ _ _ | begin _ _ | resume => split at hpc' <;> cases hpc'
  | _ => cases hpc'

/-- `q` is the last session check of thread `i`, with `since` after it. -/
structure SessionCheck (i : τ) (since : History τ) (q : Machine τ × τ × Did) : Prop where
  check : ∃ call, q.2 = (i, .gated call)
  last : ∀ p ∈ since, p.2.1 = i → ∀ call, p.2.2 ≠ .gated call

/-- **The invariant of a key command past its check**: it has seen a session open there. -/
def CheckedOpen (hist : History τ) (s : Machine τ) : Prop :=
  ∀ i call, (s.threads i).checked = some call → call.gated = true →
    ∃ since q older, hist = since ++ q :: older ∧ SessionCheck i since q
      ∧ q.1.shared.entry.cssOpen = true

variable [DecidableEq τ] {s s' : Machine τ} {hist : History τ} {entry : LaserEntry}

theorem CheckedOpen.step {a : τ × Did} (hinv : CheckedOpen hist s) (hstep : Step s a s') :
    CheckedOpen ((s, a) :: hist) s' := by
  cases hstep with
  | @of sh' pc' hact =>
      intro j call hat hgated
      have hat : (Function.update s.threads a.1 pc' j).checked = some call := hat
      -- what has been checked before stays checked over an act that is no check of this thread
      have hold : (s.threads j).checked = some call → (a.1 = j → ∀ call', a.2 ≠ .gated call') →
          ∃ since q older, (s, a) :: hist = since ++ q :: older ∧ SessionCheck j since q
            ∧ q.1.shared.entry.cssOpen = true := by
        intro hbefore hno
        obtain ⟨since, q, older, rfl, hcheck, hopen⟩ := hinv j call hbefore hgated
        refine ⟨(s, a) :: since, q, older, rfl, ⟨hcheck.check, ?_⟩, hopen⟩
        intro p hp
        rcases List.mem_cons.mp hp with rfl | hp
        · exact hno
        · exact hcheck.last p hp
      by_cases hj : j = a.1
      · subst hj
        rw [Function.update_self] at hat
        rcases hact.checked hat with ⟨hdid, hopen⟩ | ⟨hbefore, hno⟩
        · exact ⟨[], (s, a), hist, rfl, ⟨⟨call, Prod.ext rfl hdid⟩, by simp⟩, hopen hgated⟩
        · exact hold hbefore fun _ => hno
      · rw [Function.update_of_ne hj] at hat
        exact hold hat fun heq => absurd heq.symm hj

/-- The invariants of a run that does not come to the release of the slot. -/
theorem MachineRun.sessions (hrun : MachineRun entry hist s) (hlive : ∀ p ∈ hist, p.2.2 ≠ .freed) :
    SessionInvariant (sessionLog hist) s.shared.entry ∧ CheckedOpen hist s := by
  have hkept : (∀ p ∈ hist, p.2.2 ≠ .freed) →
      SessionInvariant (sessionLog hist) s.shared.entry ∧ CheckedOpen hist s := by
    apply hrun.invariant (I := fun hist s => (∀ p ∈ hist, p.2.2 ≠ .freed) →
      SessionInvariant (sessionLog hist) s.shared.entry ∧ CheckedOpen hist s)
    · rintro labels t ⟨t', a⟩ u _ ih ⟨heq, hstep⟩ hlive
      have heq : t' = t := heq
      subst heq
      obtain ⟨hsessions, hchecked⟩ := ih fun p hp => hlive p (List.mem_cons_of_mem _ hp)
      refine ⟨?_, hchecked.step hstep⟩
      rw [sessionLog_cons]
      cases hstep with
      | of hact => exact hact.entryAct.sessions (hlive _ List.mem_cons_self) hsessions
    · intro _
      refine ⟨⟨trivial, rfl, rfl⟩, ?_⟩
      intro i call hat
      cases hat
  exact hkept hlive

/-- The flag, at any moment of it. -/
theorem MachineRun.cssOpen (hrun : MachineRun entry hist s) (hlive : ∀ p ∈ hist, p.2.2 ≠ .freed) :
    s.shared.entry.cssOpen = (ownerIn hist).isSome := by
  obtain ⟨hsessions, -⟩ := hrun.sessions hlive
  rw [hsessions.flag, hsessions.owner]
  rfl

/-! ## The property -/

omit [DecidableEq τ] in
/-- A round of a call that changes the CSS state goes out to the device; the CBW of its CDB goes first. -/
def KeyAttempt (p : Machine τ × τ × Did) : Prop :=
  ∃ call log r, p.2.2 = .round call log r ∧ call.gated = true ∧ Transfers log

/-- **When the key commands keep to the sessions.** Of any run on a registered entry: every attempt of a
    command that changes the CSS state goes out while a session is open, exactly when at each of them the
    last change since the session check of its call, if there was one, is a `begin()` and not an `end()`. -/
theorem key_commands_in_session_iff (hrun : MachineRun entry hist s)
    (hlive : ∀ p ∈ hist, p.2.2 ≠ .freed) :
    (∀ p ∈ hist, KeyAttempt p → p.1.shared.entry.cssOpen = true)
      ↔ ∀ newer p since q older, hist = newer ++ p :: (since ++ q :: older) → KeyAttempt p →
          SessionCheck p.2.1 since q → ¬ EndedIn since := by
  have hat : ∀ newer p older, hist = newer ++ p :: older → MachineRun entry older p.1
      ∧ (∃ u, Step p.1 p.2 u) ∧ ∀ q ∈ older, q.2.2 ≠ .freed := by
    intro newer p older hhist
    obtain ⟨hbefore, hstep⟩ := hrun.traced hhist
    refine ⟨hbefore, hstep, fun q hq => hlive q ?_⟩
    rw [hhist]
    exact List.mem_append_right _ (List.mem_cons_of_mem _ hq)
  constructor
  · intro hopen newer p since q older hhist hkey _ hended
    obtain ⟨hbefore, -, hlive⟩ := hat _ _ _ hhist
    have hmem : p ∈ hist := by
      rw [hhist]
      exact List.mem_append_right _ List.mem_cons_self
    have hflag := hopen p hmem hkey
    rw [hbefore.cssOpen hlive, ownerIn_append_of_ended hended] at hflag
    cases hflag
  · intro hnone p hp hkey
    obtain ⟨newer, older, hhist⟩ := List.append_of_mem hp
    obtain ⟨hbefore, ⟨u, hstep⟩, hlive⟩ := hat _ _ _ hhist
    obtain ⟨call, log, r, hdid, hgated, hlog⟩ := hkey
    -- the thread is in the loop of its call, so past the check
    have hchecked : (p.1.threads p.2.1).checked = some call := by
      cases hstep with
      | of hact =>
          rw [hdid] at hact
          generalize p.1.threads p.2.1 = pc at hact
          cases hact with
          | again _ _ _ _ => rfl
          | done _ _ _ _ => rfl
    obtain ⟨since, q, oldest, rfl, hcheck, hopen⟩ :=
      (hbefore.sessions hlive).2 p.2.1 call hchecked hgated
    have hended := hnone newer p since q oldest hhist ⟨call, log, r, hdid, hgated, hlog⟩ hcheck
    -- the check has seen a session, and the log since then says whether it is there still
    obtain ⟨hfirst, -, hlive'⟩ := hat (newer ++ p :: since) q oldest (by rw [hhist]; simp)
    rw [hfirst.cssOpen hlive'] at hopen
    rw [hbefore.cssOpen hlive]
    obtain ⟨call', hq⟩ := hcheck.check
    have hsame : ownerIn (q :: oldest) = ownerIn oldest := by
      unfold ownerIn
      rw [sessionLog_cons, hq]
      rfl
    exact (ownerIn_append (hsame ▸ hopen)).mpr hended

/-- A SEND KEY checked in the session of one consumer and sent in that of the next. -/
theorem key_commands_in_session_handover : ∃ (hist : History Bool) (s : Machine Bool),
    MachineRun {} hist s ∧ (∃ p ∈ hist, KeyAttempt p)
      ∧ ∀ newer p since q older, hist = newer ++ p :: (since ++ q :: older) → KeyAttempt p →
        SessionCheck p.2.1 since q → ¬ EndedIn since := by
  let call : CheckedCall := ⟨sendKey2, rfl⟩
  have hrun : MachineRun {} [] (Machine.start {} : Machine Bool) := .refl
  have hrun := hrun.act (i := true) rfl (.begin 1 rfl)
  have hrun := hrun.act (i := false) rfl (.enter call rfl)
  have hrun := hrun.act (i := false) rfl (.gate fun _ => rfl)
  have hrun := hrun.act (i := true) rfl (.finish (some 1) rfl)
  have hrun := hrun.act (i := true) rfl (.begin 2 rfl)
  have hrun := hrun.act (i := false) rfl (.poll rfl)
  have hrun := hrun.act (i := false) rfl (.latch rfl)
  have hrun := hrun.act (i := false) rfl (.lock rfl)
  have hrun := hrun.act (i := false) rfl (.done .scripted (fun u => (⟨0, 0⟩, u)) [.gone] rfl)
  refine ⟨_, _, hrun, ⟨_, List.mem_cons_self, call, _, _, rfl, by decide, by decide⟩,
    (key_commands_in_session_iff hrun ?_).mp ?_⟩
  · intro p hp
    simp only [List.mem_cons, List.not_mem_nil, or_false] at hp
    rcases hp with rfl | rfl | rfl | rfl | rfl | rfl | rfl | rfl | rfl <;> rintro ⟨⟩
  · intro p hp ⟨_, _, _, hdid, _⟩
    simp only [List.mem_cons, List.not_mem_nil, or_false] at hp
    rcases hp with rfl | rfl | rfl | rfl | rfl | rfl | rfl | rfl | rfl <;> first | rfl | cases hdid

/-- **A SEND KEY outside any session.** It passes the check in the session of another consumer, which ends
    it before the command has `io_lock`. -/
theorem key_command_after_end : ∃ (hist : History Bool) (s : Machine Bool), MachineRun {} hist s
    ∧ ∃ p ∈ hist, KeyAttempt p ∧ p.1.shared.entry.cssOpen = false := by
  let call : CheckedCall := ⟨sendKey2, rfl⟩
  have hrun : MachineRun {} [] (Machine.start {} : Machine Bool) := .refl
  have hrun := hrun.act (i := true) rfl (.begin 1 rfl)
  have hrun := hrun.act (i := false) rfl (.enter call rfl)
  have hrun := hrun.act (i := false) rfl (.gate fun _ => rfl)
  have hrun := hrun.act (i := false) rfl (.poll rfl)
  have hrun := hrun.act (i := false) rfl (.latch rfl)
  have hrun := hrun.act (i := true) rfl (.finish (some 1) rfl)
  have hrun := hrun.act (i := false) rfl (.lock rfl)
  have hrun := hrun.act (i := false) rfl (.done .scripted (fun u => (⟨0, 0⟩, u)) [.gone] rfl)
  exact ⟨_, _, hrun, _, List.mem_cons_self, ⟨call, _, _, rfl, by decide, by decide⟩, rfl⟩

end Liblaser
