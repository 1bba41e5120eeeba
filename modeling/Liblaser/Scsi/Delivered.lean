import Liblaser.Scsi.Classified
import Liblaser.Scsi.Replay
import Liblaser.Scsi.Steps

/-!
# `Scsi.Delivered` — how often the drive carries a command out

`Scsi.Replay` says when a command that must not be sent twice is sent twice; what matters is how often the
drive carries it out, and between the two lie CBWs that did not go out, answers that were lost, and the
REQUEST SENSEs in between. Here the layers meet: the retry loop is steps (`Scsi.Steps`), the steps are
transactions, and the transactions are calls on the drive (`Bot.History`).

**`keyCommand_delivered_once`**: with a conforming device, on a candid bus where a Reset Recovery takes
effect, whatever transfers fail, a command that changes CSS state or carries data out is carried out at
most once by a call of `laser_scsi_cdb()`, and exactly once, with status PASS, when the call returns
`LASER_OK`. Candour is needed: a CBW that moved whole under an error is not sent to `bot.c`
(`Bot.NotSent`), and what is not sent is sent again.
-/

namespace Liblaser

open Bytes Loop Service Transition

/-! ## What the outcomes say of the calls -/

section Count

variable {req : BotRequest} {calls : List (BotRequest × BotReply)}
  {heard : List (BotRequest × Heard (Command × Response))}

/-- When every call reported as not sent was lost, the others are all that the target may have seen. -/
theorem UnsentLost.countP_le (hunsent : UnsentLost calls heard) (hheard : HeardOf calls heard) :
    heard.countP (fun q => q.1 = req ∧ ¬ q.2.isLost = true)
      ≤ calls.countP (fun p => p.1 = req ∧ p.2.outcome ≠ .notSent) := by
  induction hheard with
  | nil => exact Nat.le_refl _
  | @cons p q calls heard hpq _ ih =>
      obtain ⟨hreq, -⟩ := hpq
      rw [UnsentLost, List.forall₂_cons] at hunsent
      obtain ⟨hlost, hunsent⟩ := hunsent
      have hsent : (q.1 = req ∧ ¬ q.2.isLost = true) → p.1 = req ∧ p.2.outcome ≠ .notSent := by
        rintro ⟨rfl, hkept⟩
        refine ⟨hreq.symm, fun hnot => hkept ?_⟩
        rw [hlost hnot]
        rfl
      have hrest := ih hunsent
      simp only [List.countP_cons, decide_eq_true_eq]
      by_cases hkept : q.1 = req ∧ ¬ q.2.isLost = true
      · rw [if_pos hkept, if_pos (hsent hkept)]
        omega
      · rw [if_neg hkept]
        omega

theorem HeardOf.requests (hheard : HeardOf calls heard) : heard.map Prod.fst = calls.map Prod.fst := by
  induction hheard with
  | nil => rfl
  | cons hpq _ ih => rw [List.map_cons, List.map_cons, ih, hpq.1]

/-- A request is carried out no more often than it was sent without `BOT_FAIL_NOT_SENT`. -/
theorem HeardOf.count_le {done : List (BotRequest × (Command × Response))} (hheard : HeardOf calls heard)
    (hunsent : UnsentLost calls heard) (hthins : Thins heard done) : done.countP (fun p => p.1 = req)
      ≤ calls.countP (fun p => p.1 = req ∧ p.2.outcome ≠ .notSent) := by
  have hle := (hthins.filter fun q => decide (q = req)).length_le
  rw [List.countP_filter] at hle
  rw [← List.countP_eq_length_filter] at hle
  refine Nat.le_trans (Nat.le_trans hle ?_) (hunsent.countP_le hheard)
  refine Nat.le_of_eq (List.countP_congr fun q _ => ?_)
  simp [and_comm]

/-- A call that passed was carried out, with status PASS. -/
theorem HeardOf.passed {done : List (BotRequest × (Command × Response))} {reply : BotReply}
    (hheard : HeardOf calls heard) (hthins : Thins heard done) (hmem : (req, reply) ∈ calls)
    (hpass : reply.outcome = .pass) :
    ∃ c r, (req, (c, r)) ∈ done ∧ r.status = usbBotStatusPass := by
  induction hheard generalizing done with
  | nil => cases hmem
  | @cons p q calls heard hpq _ ih =>
      obtain ⟨hreq, htells⟩ := hpq
      rcases List.mem_cons.mp hmem with rfl | hmem
      · obtain ⟨q₁, q₂⟩ := q
        obtain rfl : q₁ = req := hreq
        cases htells with
        | @answer c r _ houtcome _ _ =>
            refine ⟨c, r, ?_, ?_⟩
            · cases hthins with
              | answered _ => exact List.mem_cons_self
            · rw [hpass] at houtcome
              split at houtcome
              · assumption
              · cases houtcome
        | lost houtcome =>
            rw [hpass] at houtcome
            cases houtcome
        | unknown houtcome =>
            rw [hpass] at houtcome
            rcases houtcome with houtcome | houtcome | ⟨_, houtcome⟩ <;> cases houtcome
      · cases hthins with
        | answered hthins | unseen hthins =>
            obtain ⟨c, r, hin, hstatus⟩ := ih hthins hmem
            exact ⟨c, r, List.mem_cons_of_mem _ hin, hstatus⟩
        | lost hthins | undone hthins => exact ih hthins hmem

end Count

/-! ## What a call of `laser_scsi_cdb()` sends -/

section Calls

variable {W : Type} {h : Host W} {call : CdbCall} {s s' : Sys W} {r : CdbResult}

/-- A call that returns `LASER_OK` has seen its CDB pass. -/
theorem Returns.passed (hret : Returns h call s r s') (hok : r.status = .ok) :
    .pass ∈ cdbOutcomes s'.trace := by
  rcases hret.cases with ⟨st, hcheck, rfl, -⟩ | ⟨n, v, t, v', u, hin, hdone, rfl, rfl⟩
  · obtain rfl : st = .ok := hok
    rcases precheck_status hcheck with hst | hst | hst | hst <;> cases hst
  · have hresult := result_of_conclude (by decide) (by decide) hok
    obtain ⟨v₁, t', started, hasked, -, rfl⟩ := (cdbTurn_done hdone).asked_of_ok hin.result hresult
    rw [conclude_trace, sampleThroughputLocked_trace, hasked.cdbOutcomes]
    exact List.mem_cons_self

/-- A command that is not idempotent is not sent again, on an entry whose readiness wait did not give
    up, but after `BOT_FAIL_NOT_SENT`. -/
theorem Returns.noReplay (hret : Returns h call s r s') (hidem : call.idempotent = false)
    (hready : s.entry.notReady = false) (hs : s.trace = []) : NoReplay s'.trace := by
  have hno : ¬ SwapReplayed h call s := by
    rintro ⟨hup, -⟩
    rw [hready] at hup
    cases hup
  rcases hret.cases with ⟨st, -, -, rfl⟩ | ⟨n, v, t, v', u, hin, hdone, -, rfl⟩
  · rw [NoReplay, precheck_cdbOutcomes, hs]
    exact fun o ho => absurd ho List.not_mem_nil
  · rw [conclude_trace]
    have hclean := hin.cleanSoFar hidem hs hno
    rcases (cdbTurn_done hdone).cdbOutcomes with ⟨heq, -⟩ | ⟨⟨o, heq⟩, -, hpoll⟩
    · rw [NoReplay, heq]
      rcases hclean with hall | ⟨hclean, -⟩
      · exact fun o ho => hall o (List.mem_of_mem_tail ho)
      · exact hclean
    · rw [NoReplay, heq]
      rcases hclean with hall | ⟨-, hcancel⟩
      · exact hall
      · rw [hpoll] at hcancel
        cases hcancel

/-- All but one of the outcomes are `BOT_FAIL_NOT_SENT`. -/
theorem NoReplay.countP_le {trace : List ScsiEvent} (hclean : NoReplay trace) :
    (cdbOutcomes trace).countP (fun o => o ≠ .notSent) ≤ 1 := by
  unfold NoReplay at hclean
  generalize cdbOutcomes trace = outcomes at hclean ⊢
  cases outcomes with
  | nil => exact Nat.zero_le 1
  | cons o rest =>
      have hrest : rest.countP (fun o => o ≠ .notSent) = 0 :=
        List.countP_eq_zero.mpr fun o ho => by simp [hclean o ho]
      rw [List.countP_cons, hrest]
      split <;> simp

/-- The transactions of the caller's CDB are those with its request. -/
theorem cdbOutcomes_of_sents (hne : call.request ≠ requestSenseRequest) (trace : List ScsiEvent)
    (hmay : ∀ x ∈ sents trace, CdbSends call x.1 x.2.1) :
    cdbOutcomes trace = ((sents trace).filter fun x => x.2.1 = call.request).map fun x => x.2.2 := by
  induction trace with
  | nil => rfl
  | cons e trace ih =>
      cases e with
      | sent sender req o =>
          have hcons : sents (.sent sender req o :: trace) = (sender, req, o) :: sents trace :=
            List.filterMap_cons_some rfl
          rw [hcons] at hmay ⊢
          obtain ⟨hhead, htail⟩ := List.forall_mem_cons.mp hmay
          have hrest := ih htail
          rcases hhead.cases with ⟨rfl, hreq⟩ | ⟨rfl, hreq⟩
          · have hkept : decide (req = call.request) = true := decide_eq_true hreq
            rw [List.filter_cons, if_pos hkept, List.map_cons, ← hrest]
            rfl
          · have hdropped : ¬ decide (req = call.request) = true := fun heq =>
              hne ((of_decide_eq_true heq).symm.trans hreq)
            rw [List.filter_cons, if_neg hdropped]
            exact hrest
      | sense _ | polled _ | slept _ | retried _ | waitBegun => exact ih hmay

/-- The same of the calls that were recorded. -/
theorem Recorded.cdbOutcomes_eq {trace : List ScsiEvent} {calls : List (BotRequest × BotReply)}
    (hrec : Recorded (CdbSends call) [] trace calls) (hne : call.request ≠ requestSenseRequest) :
    cdbOutcomes trace
      = (calls.filter fun p => p.1 = call.request).map fun p => p.2.outcome := by
  obtain ⟨newer, rfl, hcalls, hmay⟩ := hrec.trace
  rw [List.append_nil, cdbOutcomes_of_sents hne newer hmay]
  have hmapped := congrArg
    (fun l => (l.filter fun x : BotRequest × BotOutcome => x.1 = call.request).map Prod.snd) hcalls
  simpa [List.filter_map, Function.comp_def] using hmapped

end Calls

/-! ## What the drive does -/

section Delivered

variable {σ U : Type} {usb : UsbHost U} {clock : U → Timespec × U} {poll : U → Bool × U} {T : Target σ}
  {view : U → BotDevice σ} {epOut epIn lun : UInt8} {call : CdbCall} {s s' : Sys U} {r : CdbResult}

/-- A call as C makes it: a Data-Out buffer is as long as the length passed with it. -/
def CdbCall.Buffered (call : CdbCall) : Prop :=
  call.dataIn = false → (call.data.getD []).length = call.dataLen.toNat

/-- What passes the argument checks is a well-formed request. -/
theorem CdbCall.wellFormed (hvalid : call.valid = true) (hbuffer : call.Buffered) :
    call.request.WellFormed where
  cdb_pos := by
    unfold valid at hvalid
    cases hcdb : call.cdb with
    | nil => simp [hcdb] at hvalid
    | cons b rest => simp [request, hcdb]
  buffer := by
    intro hpos
    have hpos : 0 < call.dataLen := by
      have : 0 < call.dataLen.toNat := hpos
      omega
    cases hdata : call.data with
    | none => simp [valid, hdata, hpos] at hvalid
    | some bytes => simp [request, hdata]
  data_length := hbuffer

theorem requestSenseRequest_wellFormed : requestSenseRequest.WellFormed :=
  ⟨by decide, fun _ => rfl, fun hout => by cases hout⟩

/-- All that a call sends that passes the checks. -/
theorem CdbCall.sends_wellFormed (hvalid : call.valid = true) (hbuffer : call.Buffered) (sender : Sender)
    (req : BotRequest) (hsends : CdbSends call sender req) : req.WellFormed := by
  rcases hsends.cases with ⟨-, rfl⟩ | ⟨-, rfl⟩
  · exact call.wellFormed hvalid hbuffer
  · exact requestSenseRequest_wellFormed

/-- A call that came as far as the loop passed the argument checks. -/
theorem InLoop.valid {W : Type} {h : Host W} {call : CdbCall} {s t : Sys W} {n : Nat} {v : CdbVars}
    (hin : InLoop h call s n v t) : call.valid = true := by
  have hnone := hin.1
  cases hvalid : call.valid with
  | true => rfl
  | false => simp [precheck, hvalid] at hnone

/-- A call that does not pass the checks sends nothing. -/
theorem Returns.of_invalid {W : Type} {h : Host W} {s s' : Sys W} (hret : Returns h call s r s')
    (hvalid : call.valid = false) : s' = s := by
  obtain ⟨fuel, hrun⟩ := hret
  simp only [laserScsiCdb, precheck, hvalid, Bool.not_false, if_true, Option.some.injEq,
    Prod.mk.injEq] at hrun
  exact hrun.2.symm

/-- **A command is calls on the drive.** -/
theorem Returns.history (hwired : Wired usb T epOut epIn lun view) (hunseen : Unseen clock poll view)
    (hret : Returns (Host.ofUsb usb clock poll) call s r s') (hon : s.entry.On epOut epIn lun)
    (hs : s.trace = []) (hbuffer : call.Buffered) (hin : (view s.world).InStep) :
    (view s'.world).InStep ∧ ∃ calls heard done, Recorded (CdbSends call) [] s'.trace calls
      ∧ HeardOf calls heard ∧ (usb.Candid epOut view → UnsentLost calls heard) ∧ Thins heard done
      ∧ Run (T.Serves lun) (view s.world).target done (view s'.world).target := by
  obtain ⟨-, calls, hrun, hrec⟩ := hret.steps.transacts hwired hunseen hon
  rw [hs] at hrec
  have hreq : ∀ p ∈ calls, p.1.WellFormed := by
    intro p hp
    cases hvalid : call.valid with
    | true =>
        obtain ⟨sender, hsends⟩ := hrec.may_send p hp
        exact call.sends_wellFormed hvalid hbuffer sender p.1 hsends
    | false =>
        have hnone := hrec.eq_nil (by rw [hret.of_invalid hvalid, hs])
        rw [hnone] at hp
        cases hp
  obtain ⟨hin', heard, htold, hunsent, hheard⟩ := Transacts.calls hwired hrun hreq hin
  obtain ⟨done, hthins, hdone⟩ := run_call_iff.mp hheard
  exact ⟨hin', calls, heard, done, hrec, htold, hunsent, hthins, hdone⟩

/-- A command leaves the device in step. -/
theorem Returns.at_end (hwired : Wired usb T epOut epIn lun view) (hunseen : Unseen clock poll view)
    (hbuffer : call.Buffered) (hat : s.At epOut epIn lun view)
    (hret : Returns (Host.ofUsb usb clock poll) call s r s') : s'.At epOut epIn lun view := by
  cases hvalid : call.valid with
  | true => exact (hret.steps.served hwired hunseen (call.sends_wellFormed hvalid hbuffer) hat).1
  | false => exact hret.of_invalid hvalid ▸ hat

/-- **A key command is carried out at most once**, on an entry whose readiness wait did not give up,
    whatever transfers fail on a candid bus; and once, with status PASS, when the call returns `LASER_OK`.
    Nothing else is carried out but REQUEST SENSE. -/
theorem keyCommand_delivered_once (hwired : Wired usb T epOut epIn lun view)
    (hcandid : usb.Candid epOut view) (hunseen : Unseen clock poll view) {entry : LaserEntry} {u : U}
    (hon : entry.On epOut epIn lun) (hready : entry.notReady = false) (hin : (view u).InStep)
    (hbuffer : call.Buffered)
    (hrisky : laserCdbChangesCssState call.cdb = true ∨ (call.dataIn = false ∧ call.dataLen ≠ 0)) :
    ∃ r s', Returns (Host.ofUsb usb clock poll) call ⟨entry, u, []⟩ r s' ∧ (view s'.world).InStep
      ∧ ∃ done, Run (T.Serves lun) (view u).target done (view s'.world).target
        ∧ (∀ p ∈ done, p.1 = call.request ∨ p.1 = requestSenseRequest)
        ∧ done.countP (fun p => p.1 = call.request) ≤ 1
        ∧ (r.status = .ok → ∃ c a, (call.request, (c, a)) ∈ done ∧ a.status = usbBotStatusPass) := by
  have hidem : call.idempotent = false := by
    rcases hrisky with hcss | ⟨hout, hlen⟩
    · simp [CdbCall.idempotent, hcss]
    · simp [CdbCall.idempotent, hout, hlen]
  have hne : call.request ≠ requestSenseRequest := by
    intro heq
    have hcdb : call.cdb = requestSenseRequest.cdb := congrArg BotRequest.cdb heq
    have hdir : call.dataIn = requestSenseRequest.dataIn := congrArg BotRequest.dataIn heq
    rcases hrisky with hcss | ⟨hout, -⟩
    · rw [hcdb] at hcss
      exact absurd hcss (by decide)
    · rw [hout] at hdir
      cases hdir
  obtain ⟨r, s', hret⟩ := returns_of_unsafe_call (h := Host.ofUsb usb clock poll)
    (s := ⟨entry, u, []⟩) hidem
  obtain ⟨hin', calls, heard, done, hrec, hheard, hunsent, hthins, hdone⟩ :=
    hret.history hwired hunseen hon rfl hbuffer hin
  have houtcomes := hrec.cdbOutcomes_eq hne
  refine ⟨r, s', hret, hin', done, hdone, ?_, ?_, ?_⟩
  · intro p hp
    have hsub := hthins.sublist
    rw [hheard.requests] at hsub
    obtain ⟨p', hp', heq⟩ := List.mem_map.mp (hsub.subset (List.mem_map_of_mem hp))
    obtain ⟨sender, hsends⟩ := hrec.may_send p' hp'
    exact heq ▸ hsends.cases.imp And.right And.right
  · refine Nat.le_trans (hheard.count_le (hunsent hcandid) hthins) ?_
    have hclean := (hret.noReplay hidem hready rfl).countP_le
    rw [houtcomes, List.countP_map, List.countP_filter] at hclean
    refine Nat.le_trans (Nat.le_of_eq (List.countP_congr fun p _ => ?_)) hclean
    simp [and_comm]
  · intro hok
    have hpass := hret.passed hok
    rw [houtcomes, List.mem_map] at hpass
    obtain ⟨⟨req, reply⟩, hmem, hpass⟩ := hpass
    obtain ⟨hmem, hreq⟩ := List.mem_filter.mp hmem
    obtain rfl : req = call.request := of_decide_eq_true hreq
    exact hheard.passed hthins hmem hpass

/-- SEND KEY, on the device that keeps a record. -/
theorem keyCommand_delivered_once_sendKey :
    let h := Host.ofUsb (BotDevice.ideal Command.record 0x02 0x81) (fun d => (⟨0, 0⟩, d)) fun d => (false, d)
    let entry : LaserEntry :=
      { inUse := true, cssOpen := true, epIn := 0x81, epOut := 0x02,
        maxTransferBytes := laserMaxBytesPerTransfer }
    ∃ r s', Returns h sendKey2 ⟨entry, ⟨[], .ready, false, false, false⟩, []⟩ r s'
      ∧ s'.world.InStep
      ∧ ∃ done, Run ((Target.ofFun Command.record Command.record_meaningful).Serves 0) [] done
          s'.world.target
        ∧ (∀ p ∈ done, p.1 = sendKey2.request ∨ p.1 = requestSenseRequest)
        ∧ done.countP (fun p => p.1 = sendKey2.request) ≤ 1
        ∧ (r.status = .ok →
          ∃ c a, (sendKey2.request, (c, a)) ∈ done ∧ a.status = usbBotStatusPass) := by
  intro h entry
  have hon : entry.On 0x02 0x81 0 := ⟨rfl, rfl, rfl⟩
  exact keyCommand_delivered_once (Wired.ideal Command.record_meaningful hon (by decide) (by decide))
    (BotDevice.ideal_candid 0x02 0x81) ⟨fun _ => rfl, fun _ => rfl⟩ hon rfl (.inr ⟨rfl, rfl, rfl, rfl⟩)
    (fun _ => rfl) (.inl (by decide))

end Delivered

end Liblaser
