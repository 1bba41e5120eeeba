import Liblaser.Blocks.Drive
import Liblaser.Scsi.Delivered

/-!
# `Scsi.Truthful` — no status is made up

`Scsi.Classified` says which answer a status is the meaning of; here the answer is the drive's own. Between
the two are the transport, which may lose answers, and the retries, which may get several.

**`scsiCdb_truthful`**: with a conforming device, on a bus where a Reset Recovery takes effect, when
`laser_scsi_cdb()` returns `LASER_OK` the last thing the drive has done is to carry the command out with
status PASS, and what the caller has is what it sent; when it returns one of the statuses that stand for
sense data, the last two things the drive has done are to fail the command and to send that sense data.
-/

namespace Liblaser

open Bytes Loop Service Transition

/-! ## Sense data, from the bytes the drive sent -/

/-- The triple in fixed-format sense data. -/
def Sense.ofBytes (bytes : List UInt8) : Sense :=
  ⟨bytes.getD 2 0 &&& 0x0f, bytes.getD 12 0, bytes.getD 13 0⟩

theorem Sense.ofBytes_overwrite {new : List UInt8} (hlen : 14 ≤ new.length) :
    Sense.ofBytes (overwrite (List.replicate 24 0) new) = Sense.ofBytes new := by
  have hbyte : ∀ i < 14, (overwrite (List.replicate 24 0) new).getD i 0 = new.getD i 0 := by
    intro i hi
    exact getD_overwrite (by omega) (by simp; omega) 0
  unfold ofBytes
  rw [hbyte 2 (by decide), hbyte 12 (by decide), hbyte 13 (by decide)]

/-- Sense data that was read is an answer to REQUEST SENSE. -/
theorem requestSenseLocked_answered {W : Type} {h : Host W} {s t : Sys W} {sense : Sense}
    (hsense : requestSenseLocked h s = (some sense, t)) :
    (s.send h .requestSense requestSenseRequest).1.outcome = .pass
      ∧ 14 ≤ (s.send h .requestSense requestSenseRequest).1.actualLen.getD 0
      ∧ sense = Sense.ofBytes (overwrite (List.replicate 24 0)
        (s.send h .requestSense requestSenseRequest).1.data)
      ∧ t.world = (s.send h .requestSense requestSenseRequest).2.world := by
  unfold requestSenseLocked at hsense
  generalize s.send h .requestSense requestSenseRequest = p at hsense ⊢
  obtain ⟨reply, u⟩ := p
  dsimp only at hsense ⊢
  split at hsense
  · cases hsense
  next hrc =>
  split at hsense
  · cases hsense
  next hlen =>
  obtain ⟨heq, rfl⟩ := Prod.mk.inj hsense
  refine ⟨?_, Nat.le_of_not_lt hlen, (Option.some.inj heq).symm, rfl⟩
  generalize reply.outcome = o at hrc
  cases o with
  | pass => rfl
  | failed _ | notSent | phaseError _ | noDevice => simp [BotOutcome.rc] at hrc

/-- So is the sense of a failed attempt, when there is any. -/
theorem requestSenseLocked_of_read {W : Type} {h : Host W} {s t : Sys W} {sense : Sense}
    (hsense : senseOf h (.failed usbBotStatusFail) s = (sense, t)) (hread : sense ≠ .unread) :
    requestSenseLocked h s = (some sense, t) := by
  unfold senseOf at hsense
  generalize requestSenseLocked h s = p at hsense ⊢
  obtain ⟨_ | found, u⟩ := p
  · simp only [if_true, Option.getD_none, Prod.mk.injEq] at hsense
    exact absurd hsense.1.symm hread
  · simp only [if_true, Option.getD_some, Prod.mk.injEq] at hsense
    rw [hsense.1, hsense.2]

/-- The flags only take classes away. -/
theorem Sense.means.of_flags {sense : Sense} {up : Bool} {st : LaserStatus} (hmeans : sense.means up st) :
    sense.means false st := by
  cases st with
  | errMediaGone => exact hmeans.imp id fun hchanged => ⟨hchanged.1, rfl⟩
  | errRefused | errScrambled | errNoKey | errRegion => exact hmeans
  | ok | errNoSuchToken | errIo | errInvalid | errCancelled | errNoDevice => exact hmeans

/-! ## What the caller has -/

/-- What a caller has of a response: how many of its bytes count, and those. -/
structure CdbResult.Reports (call : CdbCall) (r : CdbResult) (c : Command) (a : Response) : Prop where
  count : call.wantActualLen = true → r.actualLen = some (a.count c)
  bytes : call.dataIn = true → r.data.take (a.count c) = a.sent.take (a.count c)

section Truthful

variable {σ U : Type} {usb : UsbHost U} {clock : U → Timespec × U} {poll : U → Bool × U} {T : Target σ}
  {view : U → BotDevice σ} {epOut epIn lun : UInt8} {call : CdbCall} {s s' t u : Sys U} {r : CdbResult}
  {v v' : CdbVars} {n : Nat} {o : BotOutcome} {sense : Sense}

/-- A transaction that passed, or ended in a CSW that is not PASS, is a response of the target. -/
theorem BotReply.Tells.of_outcome {req : BotRequest} {reply : BotReply} {x y : σ}
    {heard : Heard (Command × Response)} (htells : reply.Tells req heard)
    (hcall : Call (T.Serves lun) x (req, heard) y) (status : UInt8)
    (houtcome : reply.outcome = if status = usbBotStatusPass then .pass else .failed status) :
    ∃ c a, T.Serves lun x (req, (c, a)) y ∧ a.status = status
      ∧ (req.wantActualLen = true → reply.actualLen = some (a.count c))
      ∧ (req.dataIn = true → reply.data = a.sent) := by
  cases htells with
  | @answer c a _ hanswer hcount hdata =>
      cases hcall with
      | answered hstep =>
          refine ⟨c, a, hstep, ?_, fun hwant => by rw [hcount, if_pos hwant], hdata⟩
          rw [hanswer] at houtcome
          split at houtcome <;> split at houtcome
          · next h₁ h₂ => rw [h₁, h₂]
          · cases houtcome
          · cases houtcome
          · injection houtcome
  | lost hlost =>
      rw [hlost] at houtcome
      split at houtcome <;> cases houtcome
  | unknown hunknown =>
      rcases hunknown with hlost | hlost | ⟨_, hlost⟩ <;> rw [hlost] at houtcome <;>
        split at houtcome <;> cases houtcome

/-- The transaction of an attempt, on the target. -/
theorem InLoop.attempt (hwired : Wired usb T epOut epIn lun view) (hunseen : Unseen clock poll view)
    (hbuffer : call.Buffered) (hin : InLoop (Host.ofUsb usb clock poll) call s n v t)
    (hat : s.At epOut epIn lun view) :
    ∃ done x, Run (T.Serves lun) (view s.world).target done x
      ∧ (attemptOf (Host.ofUsb usb clock poll) call t).2.At epOut epIn lun view
      ∧ ∃ heard, (attemptOf (Host.ofUsb usb clock poll) call t).1.Tells call.request heard
        ∧ Call (T.Serves lun) x (call.request, heard)
          (view (attemptOf (Host.ofUsb usb clock poll) call t).2.world).target := by
  have hwell := call.sends_wellFormed hin.valid hbuffer
  obtain ⟨hat', done, hdone⟩ := hin.steps.served hwired hunseen hwell hat
  have hpolled : (ScsiSteps (Host.ofUsb usb clock poll) (CdbSends call) t
      ((t.isCancelled (Host.ofUsb usb clock poll)).2.clockGettime (Host.ofUsb usb clock poll)).2) :=
    (Relation.ReflTransGen.single .polled).tail .clock
  have hview : view ((t.isCancelled (Host.ofUsb usb clock poll)).2.clockGettime
      (Host.ofUsb usb clock poll)).2.world = view t.world := by
    show view (clock (poll t.world).2).2 = _
    rw [hunseen.clock, hunseen.poll]
  obtain ⟨hat'', heard, htells, hcall⟩ := (hpolled.served hwired hunseen hwell hat').1.send clock poll
    hwired .scsiCdb (hwell _ _ .command)
  rw [hview] at hcall
  exact ⟨done, _, hdone, hat'', heard, htells, hcall⟩

/-- **`LASER_OK` is the drive's PASS.** -/
theorem Returns.truthful_ok (hwired : Wired usb T epOut epIn lun view)
    (hunseen : Unseen clock poll view) (hbuffer : call.Buffered) (hat : s.At epOut epIn lun view)
    (hret : Returns (Host.ofUsb usb clock poll) call s r s') (hok : r.status = .ok) :
    ∃ c a earlier, Run (T.Serves lun) (view s.world).target ((call.request, (c, a)) :: earlier)
        (view s'.world).target
      ∧ a.status = usbBotStatusPass ∧ r.Reports call c a := by
  rcases hret.cases with ⟨st, hcheck, rfl, -⟩ | ⟨n, v, t, v', u, hin, hdone, rfl, rfl⟩
  · obtain rfl : st = .ok := hok
    rcases precheck_status hcheck with hst | hst | hst | hst <;> cases hst
  · have hresult := result_of_conclude (by decide) (by decide) hok
    have hspec := cdbTurn_done hdone
    obtain ⟨v₁, t', started, hasked, -, rfl⟩ := hspec.asked_of_ok hin.result hresult
    obtain ⟨hpass, hactual, hdata⟩ := hspec.passed_of_ok hin.result hresult
    obtain ⟨earlier, x, hrun, -, heard, htells, hcall⟩ := hin.attempt hwired hunseen hbuffer hat
    obtain ⟨c, a, hstep, hstatus, hcount, hbytes⟩ := htells.of_outcome hcall usbBotStatusPass hpass
    -- nothing but the clock comes after the transaction
    have hview : view (conclude v' (sampleThroughputLocked (Host.ofUsb usb clock poll)
        call.request.dataLen started t')).2.world
          = view (attemptOf (Host.ofUsb usb clock poll) call t).2.world := by
      obtain ⟨xfer, w, hsample, hw⟩ := sampleThroughputLocked_eq (Host.ofUsb usb clock poll)
        call.request.dataLen started t'
      rw [conclude_world, hsample, hasked.state]
      rcases hw with rfl | rfl
      · rfl
      · exact hunseen.clock t'.world
    rw [hview]
    refine ⟨c, a, earlier, .step hrun hstep, hstatus, ?_, ?_⟩
    · intro hwant
      show v'.actualLen = _
      rw [hactual, hcount hwant]
      rfl
    · intro hdir
      show v'.data.take _ = _
      rw [hdata, hbytes hdir]
      split
      · next hempty =>
          -- nothing was sent, and so nothing counts
          obtain ⟨⟨received, -, hcommand⟩, hstep⟩ := hstep
          obtain rfl : c = call.request.command lun received := hcommand
          have hle := (T.meaningful hstep).count_le_sent hdir
          have hzero : a.count (call.request.command lun received) = 0 := by
            rw [List.isEmpty_iff.mp hempty] at hle
            exact Nat.le_zero.mp hle
          rw [hzero, List.take_zero, List.take_zero]
      · rfl

/-- What the drive did last: it failed the command, and then sent sense data that is in the class of the
    status. -/
structure FailedWith (req : BotRequest) (st : LaserStatus)
    (done : List (BotRequest × (Command × Response))) : Prop where
  newest : ∃ c a c' a' earlier, done = (requestSenseRequest, (c', a')) :: (req, (c, a)) :: earlier
    ∧ a.status = usbBotStatusFail ∧ a'.status = usbBotStatusPass ∧ 14 ≤ a'.sent.length
    ∧ (Sense.ofBytes a'.sent).means false st

/-- **A status of sense data is the drive's sense data.** -/
theorem Returns.truthful_sense (hwired : Wired usb T epOut epIn lun view)
    (hunseen : Unseen clock poll view) (hbuffer : call.Buffered) (hat : s.At epOut epIn lun view)
    (hret : Returns (Host.ofUsb usb clock poll) call s r s') (hst : r.status.ofSense) :
    ∃ done, Run (T.Serves lun) (view s.world).target done (view s'.world).target
      ∧ FailedWith call.request r.status done := by
  obtain ⟨hok, hdevice, hio, hcancelled⟩ := LaserStatus.ofSense_ne hst
  rcases hret.cases with ⟨st, hcheck, rfl, -⟩ | ⟨n, v, t, v', u, hin, hdone, rfl, rfl⟩
  · rcases precheck_status hcheck with rfl | rfl | rfl | rfl <;>
      rcases hst with hst | hst | hst | hst | hst <;> cases hst
  · have hresult := result_of_conclude hdevice hio rfl
    rw [← hresult] at hst
    obtain ⟨sense, v₁, hfailed, hmeans⟩ := (cdbTurn_done hdone).failed_of_sense hin.result hst
    obtain ⟨v₂, s₁, hasked, -, -, hsense⟩ := hfailed.asked
    -- the command failed
    obtain ⟨earlier, x, hrun, hat', heard, htells, hcall⟩ := hin.attempt hwired hunseen hbuffer hat
    obtain ⟨c, a, hstep, hstatus, -, -⟩ := htells.of_outcome hcall usbBotStatusFail hasked.outcome
    rw [hasked.state] at hat' hstep
    -- and REQUEST SENSE was answered
    obtain ⟨hpass, hlen, hbuffered, hworld⟩ :=
      requestSenseLocked_answered (requestSenseLocked_of_read hsense hmeans.read)
    obtain ⟨-, heard', htells', hcall'⟩ :=
      hat'.send clock poll hwired .requestSense requestSenseRequest_wellFormed
    obtain ⟨c', a', hstep', hstatus', hcount', hdata'⟩ :=
      htells'.of_outcome hcall' usbBotStatusPass hpass
    rw [hcount' rfl] at hlen
    rw [hdata' rfl] at hbuffered
    have hsent : 14 ≤ a'.sent.length := by
      obtain ⟨⟨received, -, hcommand⟩, hstep'⟩ := hstep'
      have hcommand : c' = requestSenseRequest.command lun received := hcommand
      exact Nat.le_trans hlen ((T.meaningful hstep').count_le_sent (by rw [hcommand]; rfl))
    rw [Sense.ofBytes_overwrite hsent] at hbuffered
    rw [conclude_world, hworld, ← hresult]
    exact ⟨_, .step (.step hrun hstep) hstep',
      ⟨c, a, c', a', earlier, rfl, hstatus, hstatus', hsent, hbuffered ▸ hmeans.of_flags⟩⟩

/-- **No status is made up.** Whatever transfers fail and however often the command was tried: `LASER_OK`
    means that the last thing the drive did was to carry the command out, with status PASS, and the caller
    has what it sent; a status that stands for sense data means that the last things the drive did were to
    fail the command and to send that sense data. -/
theorem scsiCdb_truthful (hwired : Wired usb T epOut epIn lun view) (hunseen : Unseen clock poll view)
    (hbuffer : call.Buffered) (hat : s.At epOut epIn lun view)
    (hret : Returns (Host.ofUsb usb clock poll) call s r s') :
    (r.status = .ok → ∃ c a earlier,
        Run (T.Serves lun) (view s.world).target ((call.request, (c, a)) :: earlier) (view s'.world).target
          ∧ a.status = usbBotStatusPass ∧ r.Reports call c a)
      ∧ (r.status.ofSense → ∃ done, Run (T.Serves lun) (view s.world).target done (view s'.world).target
          ∧ FailedWith call.request r.status done) :=
  ⟨hret.truthful_ok hwired hunseen hbuffer hat, hret.truthful_sense hwired hunseen hbuffer hat⟩

/-- SEND KEY, on the device that keeps a record. -/
theorem scsiCdb_truthful_sendKey :
    let h := Host.ofUsb (BotDevice.ideal Command.record 0x02 0x81) (fun d => (⟨0, 0⟩, d)) fun d => (false, d)
    let entry : LaserEntry :=
      { inUse := true, cssOpen := true, epIn := 0x81, epOut := 0x02,
        maxTransferBytes := laserMaxBytesPerTransfer }
    ∃ r s', Returns h sendKey2 ⟨entry, ⟨[], .ready, false, false, false⟩, []⟩ r s'
      ∧ (r.status = .ok → ∃ c a earlier,
        Run ((Target.ofFun Command.record Command.record_meaningful).Serves 0) []
            ((sendKey2.request, (c, a)) :: earlier) s'.world.target
          ∧ a.status = usbBotStatusPass ∧ r.Reports sendKey2 c a)
      ∧ (r.status.ofSense →
        ∃ done, Run ((Target.ofFun Command.record Command.record_meaningful).Serves 0) [] done
            s'.world.target ∧ FailedWith sendKey2.request r.status done) := by
  intro h entry
  have hon : entry.On 0x02 0x81 0 := ⟨rfl, rfl, rfl⟩
  obtain ⟨r, s', hret⟩ := returns_of_unsafe_call (h := h)
    (s := ⟨entry, ⟨[], .ready, false, false, false⟩, []⟩) (show sendKey2.idempotent = false by decide)
  have hwired := Wired.ideal Command.record_meaningful hon (by decide) (by decide)
  exact ⟨r, s', hret, scsiCdb_truthful hwired ⟨fun _ => rfl, fun _ => rfl⟩ (fun _ => rfl)
    ⟨hon, .inr ⟨rfl, rfl, rfl, rfl⟩⟩ hret⟩

end Truthful

end Liblaser
