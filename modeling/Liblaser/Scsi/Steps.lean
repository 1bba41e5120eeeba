import Mathlib.Logic.Relation
import Liblaser.Bot.History
import Liblaser.Scsi.CdbSpec
import Liblaser.Scsi.SpinUp

/-!
# `Scsi.Steps` — what a command amounts to on the wire

Whatever a function of `scsi.c` decides, what it does is a sequence of a few primitive steps: transactions,
looks at the clock and the cancelled flag, sleeps, and changes to fields of the entry that the wire does
not see. `ScsiStep` is one of them, `ScsiSteps` a sequence, with what may be sent as a parameter.

**`Returns.steps`** is that for `laser_scsi_cdb()`, **`laserTokenSettle_steps`** for the readiness wait. Over
libusb, such a sequence is a run of transactions with the unit of the entry (**`ScsiSteps.transacts`**), and
what is true of every run of transactions is true of it: `Bot.History` and `Bot.Answered` are about whole
commands now, retries included.
-/

namespace Liblaser

open Bytes Loop Relation Service Transition

variable {W : Type} {h : Host W} {may : Sender → BotRequest → Prop} {s t u : Sys W} {call : CdbCall}

/-- The endpoints and the unit: what the wire sees of an entry. -/
def LaserEntry.wire (entry : LaserEntry) : UInt8 × UInt8 × UInt8 := (entry.epOut, entry.epIn, entry.lun)

/-- One primitive step of a function of `scsi.c`. -/
inductive ScsiStep (h : Host W) (may : Sender → BotRequest → Prop) : Sys W → Sys W → Prop where
  | sent {s : Sys W} {sender : Sender} {req : BotRequest} (hmay : may sender req) :
      ScsiStep h may s (s.send h sender req).2
  | clock {s : Sys W} : ScsiStep h may s (s.clockGettime h).2
  | slept {s : Sys W} (us : Nat) : ScsiStep h may s (s.usleep h us)
  | polled {s : Sys W} : ScsiStep h may s (s.isCancelled h).2
  | noted {s : Sys W} {e : ScsiEvent} (hquiet : e.outcome = none) : ScsiStep h may s (s.record e)
  /-- A field of the entry is set that the wire does not see. -/
  | marked {s : Sys W} {entry : LaserEntry} (hwire : entry.wire = s.entry.wire) :
      ScsiStep h may s { s with entry := entry }

/-- A sequence of such steps. -/
abbrev ScsiSteps (h : Host W) (may : Sender → BotRequest → Prop) : Sys W → Sys W → Prop :=
  ReflTransGen (ScsiStep h may)

/-! ## The pieces of a turn -/

theorem requestSenseLocked_steps (h : Host W) (s : Sys W)
    (hmay : may .requestSense requestSenseRequest) : ScsiSteps h may s (requestSenseLocked h s).2 := by
  have hsent : ScsiSteps h may s (s.send h .requestSense requestSenseRequest).2 :=
    .single (.sent hmay)
  unfold requestSenseLocked
  dsimp only
  split
  · exact hsent
  · split
    · exact hsent
    · exact hsent.tail (.noted rfl)

theorem senseOf_steps (h : Host W) (o : BotOutcome) (s : Sys W)
    (hmay : may .requestSense requestSenseRequest) : ScsiSteps h may s (senseOf h o s).2 := by
  unfold senseOf
  split
  · split
    · exact requestSenseLocked_steps h s hmay
    · exact .refl
  · exact .refl

theorem sampleThroughputLocked_steps (h : Host W) (n : Nat) (started : Timespec) (s : Sys W) :
    ScsiSteps h may s (sampleThroughputLocked h n started s) := by
  unfold sampleThroughputLocked
  split
  · exact .refl
  · exact (ReflTransGen.single .clock).tail (.marked rfl)

/-- Whichever way a turn goes, this is how it got there. -/
def StepsTo (h : Host W) (may : Sender → BotRequest → Prop) (s : Sys W)
    (turn : Turn (CdbVars × Sys W) (CdbVars × Sys W)) : Prop :=
  turn.All (fun p => ScsiSteps h may s p.2) (fun p => ScsiSteps h may s p.2)

theorem StepsTo.after {turn : Turn (CdbVars × Sys W) (CdbVars × Sys W)} (hturn : StepsTo h may t turn)
    (hsteps : ScsiSteps h may s t) : StepsTo h may s turn := by
  cases turn with
  | again p => exact hsteps.trans hturn
  | done p => exact hsteps.trans hturn

theorem delayedRetry_steps (h : Host W) (may : Sender → BotRequest → Prop) (v : CdbVars) (s : Sys W) :
    StepsTo h may s (delayedRetry h v s) := by
  have hnoted : ScsiSteps h may s (s.record (.retried .counted)) := .single (.noted rfl)
  obtain ⟨u, heq, rfl | rfl⟩ := delayedRetry_spec h v s
  · rw [heq]
    exact hnoted
  · rw [heq]
    exact hnoted.tail (.slept _)

theorem waitSince_steps (h : Host W) (may : Sender → BotRequest → Prop) (v : CdbVars) (s : Sys W) :
    ScsiSteps h may s (waitSince h v s).2 := by
  unfold waitSince
  split
  · exact .refl
  · exact (ReflTransGen.single (.noted rfl)).tail .clock

theorem becomingReadyRound_steps (h : Host W) (may : Sender → BotRequest → Prop) (v : CdbVars)
    (s : Sys W) : StepsTo h may s (becomingReadyRound h v s) := by
  have hread : ScsiSteps h may s ((waitSince h v s).2.clockGettime h).2 :=
    (waitSince_steps h may v s).tail .clock
  unfold becomingReadyRound
  dsimp only
  split
  · exact (hread.tail (.noted rfl)).tail (.slept _)
  · exact (delayedRetry_steps h may _ _).after hread

theorem followVerdict_steps (h : Host W) (may : Sender → BotRequest → Prop) (v : CdbVars) (s : Sys W)
    (verdict : Verdict) : StepsTo h may s (followVerdict h v s verdict) := by
  cases verdict with
  | final st => exact .refl
  | mediumReady => exact (ReflTransGen.single (.marked rfl)).tail (.noted rfl)
  | becomingReady => exact becomingReadyRound_steps h may v s
  | unitAttention => exact .single (.noted rfl)
  | delayed => exact delayedRetry_steps h may v s

/-! ## The command -/

/-- All `laser_scsi_cdb()` sends: the caller's CDB, and REQUEST SENSE. -/
inductive CdbSends (call : CdbCall) : Sender → BotRequest → Prop where
  | command : CdbSends call .scsiCdb call.request
  | sense : CdbSends call .requestSense requestSenseRequest

theorem CdbSends.cases {sender : Sender} {req : BotRequest} (hsends : CdbSends call sender req) :
    (sender = .scsiCdb ∧ req = call.request) ∨ (sender = .requestSense ∧ req = requestSenseRequest) := by
  cases hsends with
  | command => exact .inl ⟨rfl, rfl⟩
  | sense => exact .inr ⟨rfl, rfl⟩

theorem cdbTurn_steps (h : Host W) (call : CdbCall) (v : CdbVars) (s : Sys W) :
    StepsTo h (CdbSends call) s (cdbTurn h call (v, s)) := by
  unfold cdbTurn
  dsimp only
  split
  · exact .refl
  · have hpolled : ScsiSteps h (CdbSends call) s (s.isCancelled h).2 := .single .polled
    split
    · exact hpolled
    · have hasked : ScsiSteps h (CdbSends call) s (attemptOf h call s).2 :=
        (hpolled.tail .clock).tail (.sent .command)
      unfold attemptOf at hasked
      generalize ((s.isCancelled h).2.clockGettime h).2.send h .scsiCdb call.request = reply at hasked ⊢
      obtain ⟨reply, t⟩ := reply
      dsimp only at hasked ⊢
      split
      · exact hasked.trans (sampleThroughputLocked_steps ..)
      · exact hasked.tail (.marked rfl)
      · refine StepsTo.after ?_ hasked
        unfold failedTurn
        exact (followVerdict_steps ..).after (senseOf_steps h _ t .sense)

theorem precheck_steps (h : Host W) (call : CdbCall) (s : Sys W) :
    ScsiSteps h (CdbSends call) s (precheck h call s).2 := by
  unfold precheck
  split
  · exact .refl
  split
  · exact .refl
  split
  · exact .refl
  dsimp only
  split
  · exact .single .polled
  split
  · exact .single .polled
  · exact .single .polled

theorem conclude_steps (h : Host W) (call : CdbCall) (v : CdbVars) (s : Sys W) :
    ScsiSteps h (CdbSends call) s (conclude v s).2 := by
  unfold conclude neverSentVerdict
  dsimp only
  split
  · exact .single (.marked rfl)
  · exact .refl

/-- So is a command as far as the start of any turn, -/
theorem InLoop.steps {n : Nat} {v : CdbVars} (hin : InLoop h call s n v t) :
    ScsiSteps h (CdbSends call) s t := by
  have hbefore := precheck_steps h call s
  have hloop := hin.2.invariant (I := fun p => ScsiSteps h (CdbSends call) s p.2) ?_ hbefore
  · exact hloop
  · rintro ⟨v, t⟩ ⟨v', u⟩ hreached hb
    have hturn := (cdbTurn_steps h call v t).after hreached
    rw [hb] at hturn
    exact hturn

/-- **A command is a sequence of steps**, and sends nothing but the caller's CDB and REQUEST SENSE. -/
theorem Returns.steps {r : CdbResult} {s' : Sys W} (hret : Returns h call s r s') :
    ScsiSteps h (CdbSends call) s s' := by
  obtain ⟨fuel, hrun⟩ := hret
  unfold laserScsiCdb at hrun
  have hbefore := precheck_steps h call s
  generalize precheck h call s = pre at hbefore hrun
  obtain ⟨_ | st, t⟩ := pre
  · dsimp only at hbefore hrun
    obtain ⟨⟨v, u⟩, hiter, heq⟩ := Option.map_eq_some_iff.mp hrun
    have hloop : ScsiSteps h (CdbSends call) t u := by
      refine iterate_all (I := fun p => ScsiSteps h (CdbSends call) t p.2)
        (Q := fun p => ScsiSteps h (CdbSends call) t p.2) ?_ .refl hiter
      rintro ⟨v, u⟩ hreached
      exact (cdbTurn_steps h call v u).after hreached
    have hend := conclude_steps h call v u
    rw [heq] at hend
    exact (hbefore.trans hloop).trans hend
  · cases hrun
    exact hbefore

/-! ## The readiness wait -/

/-- All the wait sends. -/
inductive WaitSends : Sender → BotRequest → Prop where
  | poll : WaitSends .testUnitReady testUnitReadyRequest
  | start (immed byte4 : UInt8) : WaitSends .startStopUnit (startStopRequest immed byte4)
  | sense : WaitSends .requestSense requestSenseRequest
  | media : WaitSends .mediaStatus mediaStatusRequest

/-- The same of a turn of the wait's loop. -/
def WaitStepsTo (h : Host W) (s : Sys W) (turn : Turn (WaitVars × Sys W) (Sys W)) : Prop :=
  turn.All (fun p => ScsiSteps h WaitSends s p.2) (fun t => ScsiSteps h WaitSends s t)

theorem WaitStepsTo.after {turn : Turn (WaitVars × Sys W) (Sys W)} (hturn : WaitStepsTo h t turn)
    (hsteps : ScsiSteps h WaitSends s t) : WaitStepsTo h s turn := by
  cases turn with
  | again p => exact hsteps.trans hturn
  | done p => exact hsteps.trans hturn

theorem startStopUnitLocked_steps (h : Host W) (immed byte4 : UInt8) (s : Sys W) :
    ScsiSteps h WaitSends s (startStopUnitLocked h immed byte4 s).2 :=
  (ReflTransGen.single (.sent (.start immed byte4))).trans (senseOf_steps h _ _ .sense)

theorem startRungs_steps (h : Host W) (s : Sys W) : ScsiSteps h WaitSends s (startRungs h s).2 := by
  have hfirst := startStopUnitLocked_steps h 1 0x01 s
  unfold startRungs
  dsimp only
  split
  · exact hfirst.trans (startStopUnitLocked_steps ..)
  · exact hfirst

theorem spinUpLocked_steps (h : Host W) (s : Sys W) : ScsiSteps h WaitSends s (spinUpLocked h s) := by
  have hrungs := startRungs_steps h s
  unfold spinUpLocked
  dsimp only
  split
  · exact hrungs
  split
  · exact hrungs
  split
  · exact hrungs
  split
  · exact hrungs.trans (startStopUnitLocked_steps ..)
  · exact hrungs.trans (startStopUnitLocked_steps ..)

theorem waitBegin_steps (h : Host W) (s : Sys W) : ScsiSteps h WaitSends s (waitBegin h s).2.2 := by
  have hread : ScsiSteps h WaitSends s ((s.record .waitBegun).clockGettime h).2 :=
    (ReflTransGen.single (.noted rfl)).tail .clock
  exact ((hread.trans (spinUpLocked_steps h _)).tail .clock).tail (.marked rfl)

theorem noMediumRound_steps (h : Host W) (since : Timespec) (v : WaitVars) (sense : Sense) (s : Sys W) :
    WaitStepsTo h s (noMediumRound h since v sense s) := by
  have hlogged : ∀ t, ScsiSteps h WaitSends t (logMediaStatusLocked h t) := fun t => .single (.sent .media)
  have hread : ScsiSteps h WaitSends s (s.clockGettime h).2 := .single .clock
  unfold noMediumRound
  split
  · exact hlogged s
  · dsimp only
    split
    · exact hread.trans (hlogged _)
    · exact hread.tail (.slept _)

theorem busyRound_steps (h : Host W) (started : Timespec) (v : WaitVars) (sense : Sense) (s : Sys W) :
    WaitStepsTo h s (busyRound h started v sense s) := by
  have hread : ScsiSteps h WaitSends s (s.clockGettime h).2 := .single .clock
  unfold busyRound
  split
  · exact .refl
  · dsimp only
    generalize (if v.becomingReady = true then laserBecomingReadyMaxWallMs
      else laserSpinupMaxWallMs) = ceiling
    split
    · exact hread
    · exact hread.tail (.slept _)

theorem waitTurn_steps (h : Host W) (started since : Timespec) (v : WaitVars) (s : Sys W) :
    WaitStepsTo h s (waitTurn h started since (v, s)) := by
  have hpoll : ScsiSteps h WaitSends s (testUnitReadyLocked h s).2 := .single (.sent .poll)
  unfold waitTurn
  dsimp only
  split
  · exact hpoll.tail (.marked rfl)
  · exact hpoll
  · have hsense := hpoll.trans (requestSenseLocked_steps h _ .sense)
    split
    · exact (noMediumRound_steps ..).after hsense
    · exact (busyRound_steps ..).after hsense

theorem laserWaitUntilReady_steps {fuel : Nat} {s' : Sys W}
    (hret : laserWaitUntilReady h fuel s = some s') : ScsiSteps h WaitSends s s' := by
  rw [laserWaitUntilReady_eq] at hret
  refine iterate_all (I := fun p : WaitVars × Sys W => ScsiSteps h WaitSends s p.2) ?_ (waitBegin_steps h s)
    hret
  rintro ⟨v, t⟩ hreached
  exact (waitTurn_steps h _ _ v t).after hreached

/-- **So is settling a token**: TEST UNIT READY, and the wait when it fails. -/
theorem laserTokenSettle_steps {fuel : Nat} {s' : Sys W} (hret : laserTokenSettle h fuel s = some s') :
    ScsiSteps h WaitSends s s' := by
  have hpolled : ScsiSteps h WaitSends s (s.isCancelled h).2 := .single .polled
  have htested : ScsiSteps h WaitSends s (testUnitReadyLocked h (s.isCancelled h).2).2 :=
    hpolled.tail (.sent .poll)
  unfold laserTokenSettle at hret
  dsimp only at hret
  split at hret
  · exact Option.some.inj hret ▸ .refl
  split at hret
  · exact Option.some.inj hret ▸ hpolled
  split at hret
  · exact Option.some.inj hret ▸ htested
  · exact htested.trans (laserWaitUntilReady_steps hret)

/-! ## On the wire -/

/-- A transaction among the events: who sent it, what, and how it ended. -/
def ScsiEvent.sent? : ScsiEvent → Option (Sender × BotRequest × BotOutcome)
  | .sent sender req o => some (sender, req, o)
  | _ => none

/-- The transactions of a trace, newest first. -/
def sents (trace : List ScsiEvent) : List (Sender × BotRequest × BotOutcome) :=
  trace.filterMap ScsiEvent.sent?

theorem ScsiEvent.sent?_of_quiet {e : ScsiEvent} (hquiet : e.outcome = none) : e.sent? = none := by
  cases e <;> first | rfl | cases hquiet

/-- `calls` are the transactions recorded on the way from one trace to a later one. -/
structure Recorded (may : Sender → BotRequest → Prop) (before after : List ScsiEvent)
    (calls : List (BotRequest × BotReply)) : Prop where
  trace : ∃ newer, after = newer ++ before
    ∧ (sents newer).map Prod.snd = calls.map (fun p => (p.1, p.2.outcome))
    ∧ ∀ x ∈ sents newer, may x.1 x.2.1

theorem Recorded.refl {trace : List ScsiEvent} : Recorded may trace trace [] :=
  ⟨[], rfl, rfl, fun _ hx => absurd hx List.not_mem_nil⟩

theorem Recorded.quiet {before after : List ScsiEvent} {calls : List (BotRequest × BotReply)}
    {e : ScsiEvent} (hquiet : e.outcome = none) (hrec : Recorded may before after calls) :
    Recorded may before (e :: after) calls := by
  obtain ⟨newer, rfl, hcalls, hmay⟩ := hrec.trace
  have hsame : sents (e :: newer) = sents newer := List.filterMap_cons_none (e.sent?_of_quiet hquiet)
  exact ⟨e :: newer, rfl, hsame ▸ hcalls, hsame ▸ hmay⟩

theorem Recorded.sent {before after : List ScsiEvent} {calls : List (BotRequest × BotReply)}
    {sender : Sender} {req : BotRequest} {reply : BotReply} (hmay : may sender req)
    (hrec : Recorded may before after calls) :
    Recorded may before (.sent sender req reply.outcome :: after) ((req, reply) :: calls) := by
  obtain ⟨newer, rfl, hcalls, hall⟩ := hrec.trace
  have hcons : sents (.sent sender req reply.outcome :: newer)
      = (sender, req, reply.outcome) :: sents newer := List.filterMap_cons_some rfl
  refine ⟨.sent sender req reply.outcome :: newer, rfl, ?_, ?_⟩
  · rw [hcons, List.map_cons, List.map_cons, hcalls]
  · rw [hcons]
    exact List.forall_mem_cons.mpr ⟨hmay, hall⟩

/-- Only what may be sent is. -/
theorem Recorded.may_send {before after : List ScsiEvent} {calls : List (BotRequest × BotReply)}
    (hrec : Recorded may before after calls) : ∀ p ∈ calls, ∃ sender, may sender p.1 := by
  obtain ⟨newer, -, hcalls, hmay⟩ := hrec.trace
  intro p hp
  have hmem : (p.1, p.2.outcome) ∈ (sents newer).map Prod.snd := by
    rw [hcalls]
    exact List.mem_map_of_mem hp
  obtain ⟨⟨sender, req, o⟩, hx, heq⟩ := List.mem_map.mp hmem
  obtain ⟨rfl, -⟩ := Prod.mk.inj heq
  exact ⟨sender, hmay _ hx⟩

/-- An unchanged trace has no transactions. -/
theorem Recorded.eq_nil {before after : List ScsiEvent} {calls : List (BotRequest × BotReply)}
    (hrec : Recorded may before after calls) (hsame : after = before) : calls = [] := by
  obtain ⟨newer, rfl, hcalls, -⟩ := hrec.trace
  obtain rfl : newer = [] := List.append_left_eq_self.mp hsame
  exact List.map_eq_nil_iff.mp hcalls.symm

section Wire

variable {σ U : Type} {usb : UsbHost U} {clock : U → Timespec × U} {poll : U → Bool × U} {T : Target σ}
  {view : U → BotDevice σ} {epOut epIn lun : UInt8} {s t : Sys U}

/-- Reading the clock and the cancelled flag is none of the device's business. -/
structure Unseen (clock : U → Timespec × U) (poll : U → Bool × U) (view : U → BotDevice σ) : Prop where
  clock : ∀ u, view (clock u).2 = view u
  poll : ∀ u, view (poll u).2 = view u

/-- **Steps over libusb are a run of transactions** with the unit of the entry. -/
theorem ScsiSteps.transacts (hwired : Wired usb T epOut epIn lun view) (hunseen : Unseen clock poll view)
    (hsteps : ScsiSteps (Host.ofUsb usb clock poll) may s t) (hon : s.entry.On epOut epIn lun) :
    t.entry.On epOut epIn lun ∧ ∃ calls,
      Run (Transacts usb view epOut epIn lun) (view s.world) calls (view t.world)
        ∧ Recorded may s.trace t.trace calls := by
  induction hsteps with
  | refl => exact ⟨hon, [], .refl, .refl⟩
  | @tail t u _ hstep ih =>
      obtain ⟨hon', calls, hrun, hrec⟩ := ih
      cases hstep with
      | @sent sender req hmay =>
          refine ⟨⟨hon'.epOut_eq, hon'.epIn_eq, hon'.lun_eq⟩, _, .step hrun ?_, hrec.sent hmay⟩
          exact Transacts.of_send hon' req t.world
      | clock => exact ⟨hon', calls, (hunseen.clock t.world).symm ▸ hrun, hrec⟩
      | slept us =>
          exact ⟨hon', calls, (hwired.conforms.usleep us t.world).symm ▸ hrun, hrec.quiet rfl⟩
      | polled => exact ⟨hon', calls, (hunseen.poll t.world).symm ▸ hrun, hrec.quiet rfl⟩
      | noted hquiet => exact ⟨hon', calls, hrun, hrec.quiet hquiet⟩
      | marked hwire =>
          refine ⟨?_, calls, hrun, hrec⟩
          obtain ⟨h₁, h₂, h₃⟩ := hon'
          simp only [LaserEntry.wire, Prod.mk.injEq] at hwire
          exact ⟨hwire.1.trans h₁, hwire.2.1.trans h₂, hwire.2.2.trans h₃⟩

/-- The entry is of the unit, and the device awaits a CBW or has left the bus. -/
structure Sys.At (s : Sys U) (epOut epIn lun : UInt8) (view : U → BotDevice σ) : Prop where
  on : s.entry.On epOut epIn lun
  inStep : (view s.world).InStep

/-- Steps that send well-formed requests: the target has carried some of them out, in order, and the device
    is where the next transaction may begin. -/
theorem ScsiSteps.served (hwired : Wired usb T epOut epIn lun view) (hunseen : Unseen clock poll view)
    (hwell : ∀ sender req, may sender req → req.WellFormed)
    (hsteps : ScsiSteps (Host.ofUsb usb clock poll) may s t) (hat : s.At epOut epIn lun view) :
    t.At epOut epIn lun view
      ∧ ∃ done, Run (T.Serves lun) (view s.world).target done (view t.world).target := by
  obtain ⟨hon, calls, hrun, hrec⟩ := hsteps.transacts hwired hunseen hat.on
  have hreq : ∀ p ∈ calls, p.1.WellFormed := by
    intro p hp
    obtain ⟨sender, hmay⟩ := hrec.may_send p hp
    exact hwell sender p.1 hmay
  obtain ⟨hin, heard, -, -, hheard⟩ := Transacts.calls hwired hrun hreq hat.inStep
  obtain ⟨done, -, hdone⟩ := run_call_iff.mp hheard
  exact ⟨⟨hon, hin⟩, done, hdone⟩

/-- One transaction is one call on the target. -/
theorem Sys.At.send (clock : U → Timespec × U) (poll : U → Bool × U)
    (hwired : Wired usb T epOut epIn lun view) (sender : Sender) {req : BotRequest}
    (hat : s.At epOut epIn lun view) (hreq : req.WellFormed) :
    (s.send (Host.ofUsb usb clock poll) sender req).2.At epOut epIn lun view
      ∧ ∃ heard, (s.send (Host.ofUsb usb clock poll) sender req).1.Tells req heard
        ∧ Call (T.Serves lun) (view s.world).target (req, heard)
          (view (s.send (Host.ofUsb usb clock poll) sender req).2.world).target := by
  obtain ⟨⟨rfl, rfl, rfl⟩, hin⟩ := hat
  obtain ⟨hin', heard, htells, hcall, -⟩ :=
    laserBotSendLocked_refines hwired.conforms hwired.recovers hwired.endpoints hwired.lun_lt hreq hin
  exact ⟨⟨⟨rfl, rfl, rfl⟩, hin'⟩, heard, htells, hcall⟩

end Wire

end Liblaser
