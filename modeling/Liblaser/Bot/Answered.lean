import Liblaser.Bot.History

/-!
# `Bot.Answered` — what a device may do without an error coming of it

`Bot.History` says what the host may believe when transfers fail. This is the other half: the ways a
device may go about a command that are not failures. It may send less than asked for, in a short transfer
or by halting the pipe; pad; take only a part of what it is sent; answer so late that the clock runs out
with everything moved; stall its status phase once. On a bus that adds nothing worse (`Untroubled`) every
command is carried out and its answer returned: **`laserBotSendLocked_answered`**.
-/

namespace Liblaser

open Bytes Service Transition

variable {σ U : Type} {h : UsbHost U} {T : Target σ} {view : U → BotDevice σ} {entry : LaserEntry}
  {req : BotRequest} {b : Bus U} {epOut epIn lun : UInt8}

/-! ## A bus that adds nothing -/

/-- All of it moved, in time or not. -/
def BulkReply.Moved (r : BulkReply) (n : Nat) : Prop :=
  (r.ret = .success ∨ r.ret = .errorTimeout) ∧ r.transferred = some n

/-- The device ended the data phase: by a transfer of its own length, or by halting the pipe. -/
def BulkReply.Over (r : BulkReply) (n : Nat) : Prop :=
  r.ret = .success ∨ r.ret = .errorPipe ∨ (r.ret = .errorTimeout ∧ r.transferred = some n)

/-- Nothing shows on the bus but the device's own doing. -/
structure UsbHost.Untroubled (h : UsbHost U) (epOut epIn : UInt8) (view : U → BotDevice σ) : Prop where
  cbw : ∀ q u c, (view u).Idle → q.endpoint = epOut → q.length = usbBotCbwSize →
    Cbw.parse q.out = some c → c.Valid → (h.bulkTransfer q u).1.Moved usbBotCbwSize
  dataIn : ∀ q u left csw, (view u).gone = false → (view u).phase = .sending left csw →
    q.endpoint = epIn → (h.bulkTransfer q u).1.Over q.length
  dataOut : ∀ q u cbw, (view u).gone = false → (view u).phase = .receiving cbw →
    q.endpoint = epOut → (h.bulkTransfer q u).1.Over q.length
  /-- A status phase is read, or it stalls and is read once the halt is cleared. -/
  status : ∀ q u csw, (view u).gone = false → (view u).phase = .status csw →
    q.endpoint = epIn → q.length = usbBotCswSize →
    (h.bulkTransfer q u).1.Moved usbBotCswSize
      ∨ ((h.bulkTransfer q u).1.ret = .errorPipe
        ∧ (h.bulkTransfer q (h.clearHalt epIn (h.bulkTransfer q u).2).2).1.Moved usbBotCswSize)

theorem BulkReply.Moved.ne_noDevice {r : BulkReply} {n : Nat} (hmoved : r.Moved n) :
    r.ret ≠ .errorNoDevice := by
  rcases hmoved.1 with hret | hret <;> simp [hret]

/-- The CBW goes out. -/
theorem cbwPhase_of_untroubled (entry : LaserEntry) (b : Bus U) {cbw : Cbw}
    (hquiet : h.Untroubled entry.epOut entry.epIn view)
    (hidle : (view b.usb).Idle) (hvalid : cbw.Valid) :
    (cbwPhase h entry cbw b).1 = .ok usbBotCbwSize := by
  have hmoved := hquiet.cbw (cbwTransfer entry cbw) b.usb cbw hidle rfl rfl cbw.parse_encode hvalid
  obtain ⟨r, u, hru, hbt⟩ := b.bulkTransfer_usb h (cbwTransfer entry cbw)
  rw [hru] at hmoved
  unfold cbwPhase
  rw [hbt]
  dsimp only at hmoved ⊢
  rw [if_neg hmoved.ne_noDevice, hmoved.2, if_pos ⟨rfl, hmoved.1⟩]
  rfl

/-- The data phase is over when its transfer is. -/
theorem dataPhase_of_over {t : Nat} (hdata : req.hasData = true)
    (hover : (h.bulkTransfer (dataTransfer entry req) b.usb).1.Over req.dataLen) :
    (dataPhase h entry req t b).1 = none := by
  obtain ⟨r, u, hru, hbt⟩ := b.bulkTransfer_usb h (dataTransfer entry req)
  rw [hru] at hover
  rcases hover with hret | hret | ⟨hret, hn⟩
  · obtain ⟨n, hn⟩ := Option.isSome_iff_exists.mp (r.reported (.inl hret))
    rw [dataPhase_of_all hdata hbt (.inl hret) hn]
  · obtain ⟨n, hn⟩ := Option.isSome_iff_exists.mp (r.reported (.inr (.inr hret)))
    rw [dataPhase_of_stalled hdata hbt hret hn]
  · rw [dataPhase_of_all hdata hbt (.inr ⟨hret, rfl⟩) hn]

theorem dataPhase_of_untroubled (entry : LaserEntry) (t : Nat) {d : BotDevice σ} {tag : UInt32}
    (hquiet : h.Untroubled entry.epOut entry.epIn view) (hidle : d.Idle)
    (haccepted : CbwAccepted T (mkCbw entry req tag) d (view b.usb)) :
    (dataPhase h entry req t b).1 = none := by
  cases hdata : req.hasData with
  | false =>
      unfold dataPhase
      rw [if_neg (by simp [hdata])]
  | true =>
      apply dataPhase_of_over hdata
      have hlen : (mkCbw entry req tag).dCBWDataTransferLength ≠ 0 := by
        intro hzero
        have := req.ofNat_dataLen_eq_zero.mp hzero
        simp [BotRequest.hasData, this] at hdata
      generalize hview : view b.usb = e at haccepted
      cases haccepted with
      | noData hzero _ => exact absurd hzero hlen
      | dataIn _ hflags _ =>
          have hin : req.dataIn = true := mkCbw_flags_in hflags
          exact hquiet.dataIn _ b.usb _ _ (hview ▸ hidle.present) (by rw [hview])
            (by simp [dataTransfer, hin])
      | dataOut _ hflags =>
          have hout : req.dataIn = false := mkCbw_flags_out hflags
          exact hquiet.dataOut _ b.usb _ (hview ▸ hidle.present) (by rw [hview])
            (by simp [dataTransfer, hout])

/-- The CSW is read, at the first try or the second. -/
theorem readCsw_of_untroubled {csw : Csw} {t : Nat} (hquiet : h.Untroubled entry.epOut entry.epIn view)
    (hpresent : (view b.usb).gone = false) (hphase : (view b.usb).phase = .status csw) :
    ((readCsw h entry t b).1.ret = .success ∨ (readCsw h entry t b).1.ret = .errorTimeout)
      ∧ (readCsw h entry t b).2.1 = usbBotCswSize := by
  have hread := hquiet.status (cswTransfer entry) b.usb csw hpresent hphase rfl rfl
  obtain ⟨r, u, hru, hbt⟩ := b.bulkTransfer_usb h (cswTransfer entry)
  rw [hru] at hread
  unfold readCsw
  rw [hbt]
  dsimp only at hread ⊢
  rcases hread with hmoved | ⟨hpipe, hmoved⟩
  · have hopen : r.ret ≠ .errorPipe := by rcases hmoved.1 with hret | hret <;> simp [hret]
    rw [if_neg hopen, hmoved.2]
    exact ⟨hmoved.1, rfl⟩
  · rw [if_pos hpipe]
    refine ⟨hmoved.1, ?_⟩
    show (h.bulkTransfer (cswTransfer entry) (h.clearHalt entry.epIn u).2).1.transferred.getD _ = _
    rw [hmoved.2]
    rfl

/-- So the CSW phase fails only on a Phase Error of the device's own. -/
theorem cswPhase_of_untroubled (entry : LaserEntry) (t : Nat) {csw : Csw}
    (hconf : h.Conforms T entry.epOut entry.epIn view)
    (hrec : h.Recovers entry.epOut entry.epIn view)
    (hne : entry.epIn ≠ entry.epOut) (hquiet : h.Untroubled entry.epOut entry.epIn view)
    (hpresent : (view b.usb).gone = false) (hphase : (view b.usb).phase = .status csw)
    (hout : (view b.usb).outHalted = false) (hsignature : csw.dCSWSignature = usbBotCswSignature) :
    (cswPhase h entry csw.dCSWTag t b).1
      = if csw.bCSWStatus = usbBotStatusPhaseError then .error (.phaseError true) else .ok csw := by
  obtain ⟨hret, hn⟩ := readCsw_of_untroubled (t := t) hquiet hpresent hphase
  have hread := readCsw_end (t := t) hconf hrec hne hpresent hphase hout
  unfold cswPhase
  generalize readCsw h entry t b = rr at hret hn hread ⊢
  obtain ⟨r, n, bot, b'⟩ := rr
  dsimp only at hret hn hread ⊢
  have hgone : r.ret ≠ .errorNoDevice := by rcases hret with hret | hret <;> simp [hret]
  have hmoved : ¬ (n ≠ usbBotCswSize ∨ (r.ret ≠ .success ∧ r.ret ≠ .errorTimeout)) := by
    rcases hret with hret | hret <;> simp [hret, hn]
  generalize view b'.usb = e at hread
  cases hread with
  | vanished hret _ _ => exact absurd hret hgone
  | broken _ hbad _ _ => exact absurd hbad hmoved
  | read _ hbytes _ _ =>
      rw [if_neg hgone, if_neg hmoved, hbytes, Csw.ofBytes_encode, if_neg (by simp [hsignature])]
      split <;> rfl

/-! ## The call -/

/-- How a transaction ends on a response with this status. -/
def statusOutcome (status : UInt8) : BotOutcome :=
  if status = usbBotStatusPass then .pass
  else if status = usbBotStatusPhaseError then .phaseError true
  else .failed status

/-- The reply that carries a response back. -/
structure BotReply.Carries (req : BotRequest) (reply : BotReply) (c : Command) (r : Response) : Prop where
  outcome : reply.outcome = statusOutcome r.status
  answer : r.status ≠ usbBotStatusPhaseError → reply.Tells req (.answer (c, r))

/-- **No error of its own.** On a bus that adds nothing, each command of at most 16 bytes is carried out,
    once, and its answer comes back: the status, the bytes that count and the data. The device awaits the
    next CBW. -/
theorem laserBotSendLocked_answered (hconf : h.Conforms T entry.epOut entry.epIn view)
    (hrec : h.Recovers entry.epOut entry.epIn view)
    (hquiet : h.Untroubled entry.epOut entry.epIn view) (hne : entry.epIn ≠ entry.epOut)
    (hlun : entry.lun < 16) (hreq : req.WellFormed) (hfit : req.cdb.length ≤ cbwcbSize) {u : U}
    (hidle : (view u).Idle) :
    ∃ c r, T.Serves entry.lun (view u).target (req, (c, r))
        (view (laserBotSendLocked h entry req u).2.usb).target
      ∧ (laserBotSendLocked h entry req u).1.Carries req c r
      ∧ (view (laserBotSendLocked h entry req u).2.usb).Idle := by
  unfold laserBotSendLocked
  rw [if_neg (Nat.not_lt_of_le hfit)]
  dsimp only
  -- the CBW goes out and is accepted
  have hvalid := mkCbw_valid entry.nextTag entry.nextTag.bot.tag hreq hfit hlun
  have hsent := cbwPhase_of_untroubled entry.nextTag ⟨u, []⟩ hquiet hidle hvalid
  have hcbw := cbwPhase_end entry.nextTag ⟨u, []⟩ hconf hrec hne hidle hvalid
  generalize cbwPhase h entry.nextTag _ ⟨u, []⟩ = phase at hsent hcbw ⊢
  obtain ⟨res, b₁⟩ := phase
  dsimp only at hsent hcbw ⊢
  subst hsent
  cases hcbw with
  | sent haccepted =>
  -- the data phase ends as the device ends it
  have hover := dataPhase_of_untroubled entry.nextTag usbBotCbwSize hquiet hidle haccepted
  have hdata := dataPhase_end entry.nextTag usbBotCbwSize hconf hrec hne hfit hreq hidle haccepted
  dsimp only
  generalize dataPhase h entry.nextTag req usbBotCbwSize b₁ = phase at hover hdata ⊢
  obtain ⟨res, moved, b₂⟩ := phase
  dsimp only at hover hdata ⊢
  subst hover
  cases hdata with
  | @status c r _ _ hat =>
  -- and the CSW says what the target answered
  have hread := cswPhase_of_untroubled entry.nextTag moved.transferred hconf hrec hne
    hquiet hat.present hat.phase hat.outOpen rfl
  have hcsw := cswPhase_end entry.nextTag moved.transferred hconf hrec hne
    hat.present hat.phase hat.outOpen rfl
  have htag : (r.csw entry.nextTag.bot.tag).dCSWTag = entry.nextTag.bot.tag := rfl
  rw [htag] at hread hcsw
  dsimp only
  generalize cswPhase h entry.nextTag entry.nextTag.bot.tag moved.transferred b₂ = phase
    at hread hcsw ⊢
  obtain ⟨res, bot, b₃⟩ := phase
  dsimp only at hread hcsw ⊢
  generalize hview : view b₃.usb = e at hcsw
  have hstatus : (r.csw entry.nextTag.bot.tag).bCSWStatus = r.status := rfl
  rw [hstatus] at hread
  refine ⟨c, r, ?_⟩
  by_cases hphase : r.status = usbBotStatusPhaseError
  · rw [if_pos hphase] at hread
    subst hread
    cases hcsw with
    | reset hidle₃ htarget =>
        dsimp only
        rw [hview, htarget]
        refine ⟨hat.serves, ⟨?_, fun hne => absurd hphase hne⟩, hidle₃⟩
        simp [statusOutcome, hphase, usbBotStatusPass, usbBotStatusPhaseError]
  · rw [if_neg hphase] at hread
    subst hread
    cases hcsw with
    | accepted _ hidle₃ htarget =>
        have htells := hat.concludes bot hreq hphase
        dsimp only
        rw [hview, htarget]
        refine ⟨hat.serves, ⟨?_, fun _ => htells⟩, hidle₃⟩
        cases htells with
        | answer _ houtcome _ _ => rw [houtcome, statusOutcome, if_neg hphase]

/-- **Every command is carried out.** Over a run of transactions on such a bus the target steps through
    their commands, each once and in order, and every reply carries the response to its own. -/
theorem transactions_answered (hwired : Wired h T epOut epIn lun view)
    (hquiet : h.Untroubled epOut epIn view) {d e : BotDevice σ}
    {calls : List (BotRequest × BotReply)} (hrun : Run (Transacts h view epOut epIn lun) d calls e)
    (hreq : ∀ p ∈ calls, p.1.WellFormed ∧ p.1.cdb.length ≤ cbwcbSize) (hidle : d.Idle) :
    e.Idle ∧ ∃ done, Run (T.Serves lun) d.target done e.target
      ∧ List.Forall₂ (fun p q => q.1 = p.1 ∧ p.2.Carries p.1 q.2.1 q.2.2) calls done := by
  induction hrun with
  | refl => exact ⟨hidle, [], .refl, .nil⟩
  | @step calls e e' p hrun hcall ih =>
      obtain ⟨hidle', done, hdone, hcarried⟩ := ih fun p hp => hreq p (List.mem_cons_of_mem _ hp)
      obtain ⟨entry, u, ⟨rfl, rfl, rfl⟩, rfl, hreply, rfl⟩ := hcall
      obtain ⟨hwf, hfit⟩ := hreq p List.mem_cons_self
      obtain ⟨c, r, hserves, hcarries, hidle''⟩ := laserBotSendLocked_answered hwired.conforms
        hwired.recovers hquiet hwired.endpoints hwired.lun_lt hwf hfit hidle'
      exact ⟨hidle'', (p.1, (c, r)) :: done, .step hdone hserves,
        .cons ⟨rfl, hreply ▸ hcarries⟩ hcarried⟩

/-! ## A bus on which all of this holds -/

/-- On the bus of an ideal device nothing goes wrong. -/
theorem BotDevice.ideal_untroubled (exec : Command → σ → Response × σ) (epOut epIn : UInt8) :
    (ideal exec epOut epIn).Untroubled epOut epIn id where
  cbw q d c hidle _ _ hparse _ := by
    rw [ideal_cbw (d := d) hidle.present hidle.ready hparse]
    exact ⟨.inl rfl, rfl⟩
  dataIn q d left csw hpresent hphase _ := by
    rw [ideal_in (d := d) hpresent hphase]
    exact .inl rfl
  dataOut q d cbw hpresent hphase _ := by
    rw [ideal_out (d := d) hpresent hphase]
    exact .inl rfl
  status q d csw hpresent hphase _ _ := by
    have hcleared : ((ideal exec epOut epIn).clearHalt epIn d).2 = { d with inHalted := false } := by
      simp [ideal]
    rw [ideal_status (d := d) hpresent hphase]
    split
    · right
      refine ⟨rfl, ?_⟩
      dsimp only
      rw [hcleared, ideal_status (d := { d with inHalted := false }) hpresent hphase]
      exact ⟨.inl rfl, rfl⟩
    · exact .inl ⟨.inl rfl, rfl⟩

/-- A READ DISC INFORMATION was carried out, and what came back is its response. -/
theorem transactions_answered_discInformation : ∃ (calls : List (BotRequest × BotReply))
      (done : List (BotRequest × (Command × Response))) (e : BotDevice (List Command)),
    calls.map (fun p => p.1.cdb) = [[0x51, 0, 0, 0, 0, 0, 0, 0, 34, 0]] ∧ e.Idle
      ∧ Run ((Target.ofFun _ Command.record_meaningful).Serves 0) [] done e.target
      ∧ List.Forall₂ (fun p q => q.1 = p.1 ∧ p.2.Carries p.1 q.2.1 q.2.2) calls done := by
  have hon : LaserEntry.On { epIn := 0x81, epOut := 0x02 } 0x02 0x81 0 := ⟨rfl, rfl, rfl⟩
  have hwired := Wired.ideal Command.record_meaningful hon (by decide) (by decide)
  have hanswered := transactions_answered hwired (BotDevice.ideal_untroubled _ _ _)
    (.step .refl (.of_send hon readDiscInformationRequest ⟨[], .ready, false, false, false⟩))
    (List.forall_mem_singleton.mpr ⟨readDiscInformationRequest_wellFormed, by decide⟩)
    ⟨rfl, rfl, rfl, rfl⟩
  obtain ⟨hidle, done, hdone, hcarried⟩ := hanswered
  exact ⟨_, done, _, rfl, hidle, hdone, hcarried⟩

end Liblaser
