import Liblaser.Scsi.Ideal
import Liblaser.Scsi.Preserved

/-!
# `Scsi.Present` — a device that is there is not given up

`device_gone` is raised for good, and from then on every call on the token fails, so nothing but a departure
may raise it. The transport tells a departure from a failure (`BOT_FAIL_NO_DEVICE`) and counts the CBWs that
did not leave (`BOT_FAIL_NOT_SENT`); on a bus that adds no failure of its own neither comes up, whatever the
target answers.

**`operations_keep_device`**: over any run of commands and readiness waits on such a bus the device stays
registered and awaits the next CBW, and no command returns `LASER_ERR_NO_DEVICE`.
-/

namespace Liblaser

open Bytes Loop Service Transition

section Wire

variable {σ U : Type} {usb : UsbHost U} {clock : U → Timespec × U} {poll : U → Bool × U} {T : Target σ}
  {view : U → BotDevice σ} {epOut epIn lun : UInt8} {may : Sender → BotRequest → Prop} {call : CdbCall}
  {s s' t u : Sys U} {r : CdbResult} {v v' : CdbVars} {n : Nat}

/-! ## A device that awaits a CBW -/

/-- Registered, not known to be gone, and the device awaits a CBW. -/
structure Sys.Up (s : Sys U) (epOut epIn lun : UInt8) (view : U → BotDevice σ) : Prop where
  on : s.entry.On epOut epIn lun
  idle : (view s.world).Idle
  registered : s.entry.inUse = true
  present : s.entry.deviceGone = false
  capped : s.entry.maxTransferBytes ≤ laserMaxBytesPerTransfer

theorem Sys.Up.at (hup : s.Up epOut epIn lun view) : s.At epOut epIn lun view :=
  ⟨hup.on, .inr hup.idle⟩

/-- A request that the transport takes. -/
def BotRequest.Sendable (req : BotRequest) : Prop := req.WellFormed ∧ req.cdb.length ≤ cbwcbSize

theorem CdbSends.sendable (hvalid : call.valid = true) (hbuffer : call.Buffered) (sender : Sender)
    (req : BotRequest) (hsends : CdbSends call sender req) : req.Sendable := by
  refine ⟨call.sends_wellFormed hvalid hbuffer sender req hsends, ?_⟩
  rcases hsends.cases with ⟨-, rfl⟩ | ⟨-, rfl⟩
  · exact CdbCall.fits_of_valid hvalid
  · decide

theorem WaitSends.sendable (sender : Sender) (req : BotRequest) (hsends : WaitSends sender req) :
    req.Sendable := by
  cases hsends with
  | poll => exact ⟨⟨by decide, by decide, by decide⟩, by decide⟩
  | start immed byte4 =>
      refine ⟨⟨?_, ?_, ?_⟩, ?_⟩ <;> simp [startStopRequest, plainRequest, cbwcbSize]
  | sense => exact ⟨requestSenseRequest_wellFormed, by decide⟩
  | media => exact ⟨⟨by decide, by decide, by decide⟩, by decide⟩

/-- Steps that send such requests leave the device awaiting a CBW. -/
theorem ScsiSteps.idle (hwired : Wired usb T epOut epIn lun view) (hunseen : Unseen clock poll view)
    (hquiet : usb.Untroubled epOut epIn view) (hmay : ∀ sender req, may sender req → req.Sendable)
    (hsteps : ScsiSteps (Host.ofUsb usb clock poll) may s t) (hon : s.entry.On epOut epIn lun)
    (hidle : (view s.world).Idle) : t.entry.On epOut epIn lun ∧ (view t.world).Idle := by
  obtain ⟨hon', calls, hrun, hrec⟩ := hsteps.transacts hwired hunseen hon
  have hreq : ∀ p ∈ calls, p.1.Sendable := by
    intro p hp
    obtain ⟨sender, hsends⟩ := hrec.may_send p hp
    exact hmay sender p.1 hsends
  exact ⟨hon', (transactions_answered hwired hquiet hrun hreq hidle).1⟩

/-- The status of a CSW is no departure, and no failure to send. -/
theorem statusOutcome_heard (status : UInt8) :
    statusOutcome status ≠ .noDevice ∧ statusOutcome status ≠ .notSent := by
  unfold statusOutcome
  split
  · simp
  split <;> simp

/-! ## A command -/

/-- An attempt is answered. -/
theorem InLoop.heard (hwired : Wired usb T epOut epIn lun view) (hunseen : Unseen clock poll view)
    (hquiet : usb.Untroubled epOut epIn view) (hbuffer : call.Buffered)
    (hup : s.Up epOut epIn lun view) (hin : InLoop (Host.ofUsb usb clock poll) call s n v t) :
    (attemptOf (Host.ofUsb usb clock poll) call t).1.outcome ≠ .noDevice
      ∧ (attemptOf (Host.ofUsb usb clock poll) call t).1.outcome ≠ .notSent := by
  have hsendable := CdbSends.sendable hin.valid hbuffer
  obtain ⟨hon, hidle⟩ := hin.steps.idle hwired hunseen hquiet hsendable hup.on hup.idle
  have hidle' : (view (clock (poll t.world).2).2).Idle := by
    rw [hunseen.clock, hunseen.poll]
    exact hidle
  obtain ⟨trace, hattempt⟩ := attemptOf_ofUsb usb clock poll call t
  rw [hattempt]
  obtain ⟨rfl, rfl, rfl⟩ := hon
  obtain ⟨hwell, hfit⟩ := hsendable _ _ .command
  obtain ⟨c, a, -, hcarries, -⟩ := laserBotSendLocked_answered hwired.conforms hwired.recovers hquiet
    hwired.endpoints hwired.lun_lt hwell hfit hidle'
  dsimp only
  rw [hcarries.outcome]
  exact statusOutcome_heard a.status

/-- So no CBW is counted as not sent. -/
theorem InLoop.none_unsent (hwired : Wired usb T epOut epIn lun view) (hunseen : Unseen clock poll view)
    (hquiet : usb.Untroubled epOut epIn view) (hbuffer : call.Buffered)
    (hup : s.Up epOut epIn lun view) (hin : InLoop (Host.ofUsb usb clock poll) call s n v t) :
    v.cbwNeverSent = 0 := by
  refine hin.invariant (I := fun _ v _ => v.cbwNeverSent = 0) ?_ rfl
  intro k v t v' u hreached hzero hspec
  have hcounts : ∀ {o sense v₁ t₁}, Failed (Host.ofUsb usb clock poll) call v t o sense v₁ t₁ →
      v₁.cbwNeverSent = 0 := by
    intro o sense v₁ t₁ hfailed
    have hcount := hfailed.counts.2
    obtain ⟨_, _, hasked, -⟩ := hfailed.asked
    have hsent := (hreached.heard hwired hunseen hquiet hbuffer hup).2
    rw [hasked.outcome] at hsent
    rw [if_neg hsent, hzero] at hcount
    exact hcount
  cases hspec with
  | mediumReady hfailed _ _ | free hfailed _ _ _ _ _ | late hfailed _ _ _ _ _ _
  | retried hfailed _ _ _ _ =>
      have hkept := hcounts hfailed
      exact hkept

/-- What a call that comes to its loop ends with, when nobody counts CBWs. -/
theorem conclude_of_sent (hzero : v.cbwNeverSent = 0) :
    conclude v s = (⟨normalise v.result, v.actualLen, v.data⟩, s) := by
  unfold conclude neverSentVerdict
  rw [if_neg]
  rintro ⟨-, -, hmade, hall⟩
  omega

/-- The rest of the entry is in the frame. -/
theorem Sys.Up.of_frame (hup : s.Up epOut epIn lun view) (hframe : t.entry.frame = s.entry.frame)
    (hidle : (view t.world).Idle) : t.Up epOut epIn lun view where
  on :=
    ⟨(congrArg LaserEntry.epOut hframe).trans hup.on.epOut_eq,
      (congrArg LaserEntry.epIn hframe).trans hup.on.epIn_eq,
      (congrArg LaserEntry.lun hframe).trans hup.on.lun_eq⟩
  idle := hidle
  registered := (congrArg LaserEntry.inUse hframe).trans hup.registered
  present := (congrArg LaserEntry.deviceGone hframe).trans hup.present
  capped := by
    have hcap := congrArg LaserEntry.maxTransferBytes hframe
    exact Nat.le_trans (Nat.le_of_eq hcap) hup.capped

/-- The last turn of a command counts none either, latches nothing, and ends in no departure. -/
theorem InLoop.ends_present (hwired : Wired usb T epOut epIn lun view) (hunseen : Unseen clock poll view)
    (hquiet : usb.Untroubled epOut epIn view) (hbuffer : call.Buffered)
    (hup : s.Up epOut epIn lun view) (hin : InLoop (Host.ofUsb usb clock poll) call s n v t)
    (hspec : DoneSpec (Host.ofUsb usb clock poll) call v t v' u) :
    v'.cbwNeverSent = 0 ∧ v'.result ≠ .errNoDevice ∧ u.entry.frame = s.entry.frame := by
  have hzero := hin.none_unsent hwired hunseen hquiet hbuffer hup
  have hheard := hin.heard hwired hunseen hquiet hbuffer hup
  have hframe := hin.frame
  cases hspec with
  | exhausted _ =>
      rw [hin.result]
      exact ⟨hzero, by decide, hframe⟩
  | cancelled _ _ => exact ⟨hzero, by simp, hframe⟩
  | passed hasked =>
      have hsampled := sampleThroughputLocked_frame (Host.ofUsb usb clock poll) call.request.dataLen
      exact ⟨hasked.neverSent.trans hzero, by simp, (hsampled _ _).trans (hasked.frame.trans hframe)⟩
  | gone hasked => exact absurd hasked.outcome hheard.1
  | final hfailed hclass =>
      obtain ⟨_, _, hasked, -⟩ := hfailed.asked
      have hcount := hfailed.counts.2
      rw [if_neg (hasked.outcome ▸ hheard.2), hzero] at hcount
      exact ⟨hcount, hclass.ne_noDevice, hfailed.frame.trans hframe⟩

/-- Before its loop a call on a device that is not known to be gone does not say that it is. -/
theorem precheck_present {W : Type} {h : Host W} {s : Sys W} (hpresent : s.entry.deviceGone = false) :
    (precheck h call s).1 ≠ some .errNoDevice := by
  have hsame : (s.isCancelled h).2.entry = s.entry := rfl
  unfold precheck
  generalize s.isCancelled h = p at hsame
  obtain ⟨cancelled, t⟩ := p
  dsimp only at hsame ⊢
  repeat' split
  all_goals simp_all

/-- **A command on a device that is there** leaves it there, whatever the target answers. -/
theorem Returns.keeps_up (hwired : Wired usb T epOut epIn lun view) (hunseen : Unseen clock poll view)
    (hquiet : usb.Untroubled epOut epIn view) (hbuffer : call.Buffered)
    (hup : s.Up epOut epIn lun view) (hret : Returns (Host.ofUsb usb clock poll) call s r s') :
    s'.Up epOut epIn lun view ∧ r.status ≠ .errNoDevice := by
  rcases hret.cases with ⟨st, hcheck, rfl, rfl⟩ | ⟨n, v, t, v', u, hin, hdone, rfl, rfl⟩
  · constructor
    · rcases precheck_spec (Host.ofUsb usb clock poll) call s with heq | heq <;> rw [heq]
      · exact hup
      · refine hup.of_frame rfl ?_
        show (view (poll s.world).2).Idle
        rw [hunseen.poll]
        exact hup.idle
    · rintro rfl
      exact precheck_present hup.present hcheck
  · have hsendable := CdbSends.sendable hin.valid hbuffer
    have hsteps := hret.steps
    have hidle := (hsteps.idle hwired hunseen hquiet hsendable hup.on hup.idle).2
    obtain ⟨hzero, hst, hframe⟩ :=
      hin.ends_present hwired hunseen hquiet hbuffer hup (cdbTurn_done hdone)
    rw [conclude_of_sent hzero] at hidle ⊢
    exact ⟨hup.of_frame hframe hidle, normalise_ne_noDevice v'.result hst⟩

/-- **So does settling a token.** -/
theorem Sys.Up.settle (hwired : Wired usb T epOut epIn lun view) (hunseen : Unseen clock poll view)
    (hquiet : usb.Untroubled epOut epIn view) (hup : s.Up epOut epIn lun view) {fuel : Nat}
    (hret : laserTokenSettle (Host.ofUsb usb clock poll) fuel s = some s') :
    s'.Up epOut epIn lun view := by
  obtain ⟨hon, hidle⟩ := (laserTokenSettle_steps hret).idle hwired hunseen hquiet
    WaitSends.sendable hup.on hup.idle
  have hkept := (kept_preserved (Host.ofUsb usb clock poll) (fun _ => True) s.entry).laserTokenSettle
    (fun _ _ => trivial) rfl hret
  have hcap := congrArg LaserEntry.maxTransferBytes hkept
  exact ⟨hon, hidle, (congrArg LaserEntry.inUse hkept).trans hup.registered,
    (congrArg LaserEntry.deviceGone hkept).trans hup.present,
    Nat.le_trans (Nat.le_of_eq hcap) hup.capped⟩

end Wire

/-! ## Runs of operations -/

/-- One operation on the token, or what other threads do to it in between; the label is the result of a
    command. -/
inductive LibStep {U σ : Type} (h : Host U) (view : U → BotDevice σ) :
    Sys U → Option CdbResult → Sys U → Prop where
  | scsiCdb {call : CdbCall} {s s' : Sys U} {r : CdbResult} (hbuffer : call.Buffered)
      (hret : Returns h call s r s') : LibStep h view s (some r) s'
  | settle {s s' : Sys U} {fuel : Nat} (hret : laserTokenSettle h fuel s = some s') :
      LibStep h view s none s'
  /-- The transfer cap comes down. -/
  | lowered {s : Sys U} (bytes : Nat) : LibStep h view s none (lowerTransferCap bytes s)
  /-- A CSS session begins or ends. -/
  | session {s : Sys U} (cssOpen : Bool) :
      LibStep h view s none { s with entry := { s.entry with cssOpen := cssOpen } }
  /-- Time goes by, or the token is cancelled. -/
  | elapsed {s : Sys U} {w : U} (hview : view w = view s.world) :
      LibStep h view s none { s with world := w }

section Run

variable {σ U : Type} {usb : UsbHost U} {clock : U → Timespec × U} {poll : U → Bool × U} {T : Target σ}
  {view : U → BotDevice σ} {epOut epIn lun : UInt8} {s s' t : Sys U} {label : Option CdbResult}

/-- One operation. -/
theorem LibStep.keeps_up (hwired : Wired usb T epOut epIn lun view) (hunseen : Unseen clock poll view)
    (hquiet : usb.Untroubled epOut epIn view) (hup : s.Up epOut epIn lun view)
    (hstep : LibStep (Host.ofUsb usb clock poll) view s label t) :
    t.Up epOut epIn lun view ∧ ∀ r ∈ label, r.status ≠ .errNoDevice := by
  cases hstep with
  | scsiCdb hbuffer hret =>
      obtain ⟨hup', hst⟩ := hret.keeps_up hwired hunseen hquiet hbuffer hup
      exact ⟨hup', by simpa using hst⟩
  | settle hret => exact ⟨hup.settle hwired hunseen hquiet hret, by simp⟩
  | lowered bytes =>
      refine ⟨?_, by simp⟩
      unfold lowerTransferCap
      split
      · next hlt =>
          exact ⟨⟨hup.on.epOut_eq, hup.on.epIn_eq, hup.on.lun_eq⟩, hup.idle, hup.registered, hup.present,
            Nat.le_trans (Nat.le_of_lt hlt) hup.capped⟩
      · exact hup
  | session cssOpen =>
      exact ⟨⟨⟨hup.on.epOut_eq, hup.on.epIn_eq, hup.on.lun_eq⟩, hup.idle, hup.registered, hup.present,
        hup.capped⟩, by simp⟩
  | elapsed hview => exact ⟨hup.of_frame rfl (hview ▸ hup.idle), by simp⟩

/-- **A device that is there is not given up.** On a bus that adds no failure of its own, with a device that
    awaits a CBW at the start: over any run of commands, readiness waits, lowered caps, sessions and
    cancellations, and whatever the target answers, the device is never marked as gone, no command returns
    `LASER_ERR_NO_DEVICE`, and in the end it awaits the next CBW. -/
theorem operations_keep_device (hwired : Wired usb T epOut epIn lun view)
    (hunseen : Unseen clock poll view) (hquiet : usb.Untroubled epOut epIn view)
    (hup : s.Up epOut epIn lun view) {labels : List (Option CdbResult)}
    (hrun : Run (LibStep (Host.ofUsb usb clock poll) view) s labels s') :
    s'.Up epOut epIn lun view ∧ ∀ r, some r ∈ labels → r.status ≠ .errNoDevice := by
  refine hrun.invariant (I := fun labels t => t.Up epOut epIn lun view
    ∧ ∀ r, some r ∈ labels → r.status ≠ .errNoDevice) ?_ ⟨hup, by simp⟩
  rintro labels t label u - ⟨hup, hbefore⟩ hstep
  obtain ⟨hup', hlast⟩ := hstep.keeps_up hwired hunseen hquiet hup
  refine ⟨hup', ?_⟩
  intro r hmem
  rcases List.mem_cons.mp hmem with hlabel | hmem
  · exact hlast r hlabel.symm
  · exact hbefore r hmem

end Run

/-! ## A drive that fails and refuses -/

/-- What a drive has in store: for each command to come, whether it passes or with which sense it fails; and
    the sense of the last that failed. -/
structure Moods where
  next : List (Option Sense)
  sense : Sense := ⟨0, 0, 0⟩

/-- Pass, with zeros. -/
def Response.blank (c : Command) : Response :=
  ⟨if c.dataIn then c.length else c.received.length, if c.dataIn then List.replicate c.length 0 else [],
    if c.dataIn then 0 else c.length - c.received.length, usbBotStatusPass⟩

/-- Do as is in store, and tell the sense when asked. -/
def Command.moody (c : Command) (s : Moods) : Response × Moods :=
  if c.cb = requestSenseRequest.cdb ∧ c.dataIn ∧ c.length = 24 then
    (.full ([0x70, 0, s.sense.key, 0, 0, 0, 0, 0x10, 0, 0, 0, 0, s.sense.asc, s.sense.ascq]
      ++ List.replicate 10 0), s)
  else match s.next with
    | [] => (.refused c, s)
    | none :: rest => (.blank c, { s with next := rest })
    | some sense :: rest => (.refused c, ⟨rest, sense⟩)

theorem Response.blank_meaningful {c : Command} (hlen : c.received.length ≤ c.length) :
    (Response.blank c).Meaningful c := by
  unfold blank
  cases hin : c.dataIn with
  | true => exact ⟨by simp [hin], by simp, Nat.zero_le _, fun h => absurd h (by simp)⟩
  | false => exact ⟨by simp [hin], by simpa using hlen, by simp, fun _ => by simp⟩

theorem Command.moody_meaningful (c : Command) (s : Moods) (hlen : c.received.length ≤ c.length) :
    (c.moody s).1.Meaningful c := by
  unfold moody
  split
  · next hasked => exact Response.full_meaningful hasked.2.1 (by rw [hasked.2.2]; rfl)
  · split
    · exact Response.refused_meaningful hlen
    · exact Response.blank_meaningful hlen
    · exact Response.refused_meaningful hlen

/-- The drive is settled: UNIT ATTENTION, a START STOP UNIT it refuses, a poll that finds it becoming ready,
    one it passes. A read finds it becoming ready again, then UNIT ATTENTION, and is refused the third time;
    in a CSS session a SEND KEY fails for want of authentication. -/
theorem operations_keep_device_recorded :
    let h : Host (BotDevice Moods) := .ideal Command.moody 0x02 0x81
    let moods : List (Option Sense) := [some ⟨6, 0x29, 0⟩, some ⟨5, 0x20, 0⟩, some ⟨2, 0x04, 1⟩, none,
      some ⟨2, 0x04, 1⟩, some ⟨6, 0x29, 0⟩, some ⟨5, 0x21, 0⟩, some ⟨5, 0x6f, 1⟩]
    let s : Sys (BotDevice Moods) :=
      ⟨{ inUse := true, epIn := 0x81, epOut := 0x02, maxTransferBytes := laserMaxBytesPerTransfer },
        ⟨⟨moods, ⟨0, 0, 0⟩⟩, .ready, false, false, false⟩, []⟩
    ∃ r₁ r₂ s', Run (LibStep h id) s [some r₂, none, some r₁, none] s' ∧ s'.Up 0x02 0x81 0 id
      ∧ r₁.status = .errRefused ∧ r₂.status = .errNoKey := by
  intro h moods s
  have hon : s.entry.On 0x02 0x81 0 := ⟨rfl, rfl, rfl⟩
  have hwired := Wired.ideal Command.moody_meaningful hon (by decide) (by decide)
  have hruns : ((laserTokenSettle h 5 s).bind fun t₁ => (laserScsiCdb h 8 readBlock16 t₁).bind fun q₁ =>
      (laserScsiCdb h 8 sendKey2 { q₁.2 with entry := { q₁.2.entry with cssOpen := true } }).map fun q₂ =>
        (q₁.1.status, q₂.1.status)) = some (.errRefused, .errNoKey) := by
    decide +kernel
  obtain ⟨t₁, hsettle, hreads⟩ := Option.bind_eq_some_iff.mp hruns
  obtain ⟨⟨r₁, t₂⟩, hread, hsends⟩ := Option.bind_eq_some_iff.mp hreads
  obtain ⟨⟨r₂, s'⟩, hsend, hstatus⟩ := Option.map_eq_some_iff.mp hsends
  have hrun : Run (LibStep h id) s [some r₂, none, some r₁, none] s' :=
    .step (.step (.step (.step .refl (.settle hsettle)) (.scsiCdb (fun h => by cases h) ⟨8, hread⟩))
      (.session true)) (.scsiCdb (fun _ => rfl) ⟨8, hsend⟩)
  obtain ⟨hup, -⟩ := operations_keep_device hwired ⟨fun _ => rfl, fun _ => rfl⟩
    (BotDevice.ideal_untroubled _ _ _) ⟨hon, ⟨rfl, rfl, rfl, rfl⟩, rfl, rfl, by decide⟩ hrun
  obtain ⟨hrefused, hnoKey⟩ := Prod.mk.inj hstatus
  exact ⟨r₁, r₂, s', hrun, hup, hrefused, hnoKey⟩

end Liblaser
