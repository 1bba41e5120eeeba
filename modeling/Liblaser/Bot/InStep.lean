import Liblaser.Bot.Ideal

/-!
# `Bot.InStep` — host and device stay in step

One transaction against a conforming device, on a bus that may fail at any transfer. Seen from the
target it is one call on a service (`Lib.Service`): `pass` and `failed` are the answer the target gave to
this very command, `notSent` means that the command was not carried out if the bus is candid, and the other
two that the host does not know. And whatever happened, the next transaction finds the device awaiting its
CBW on a bus that recovers, unless it has left: **`laserBotSendLocked_refines`**.

Each phase has one lemma, which says where it leaves the device.
-/

namespace Liblaser

open Bytes Service

variable {σ U : Type} {h : UsbHost U} {T : Target σ} {view : U → BotDevice σ} {entry : LaserEntry}
  {req : BotRequest} {b : Bus U} {d e : BotDevice σ}

/-! ## Requests and the commands they carry -/

/-- A request as the callers of `laser_bot_send_locked()` make it: with a CDB, and with a buffer if a data
    phase is asked for, as long as the phase. -/
structure BotRequest.WellFormed (req : BotRequest) : Prop where
  cdb_pos : 0 < req.cdb.length
  buffer : 0 < req.dataLen → req.data.isSome = true
  data_length : req.dataIn = false → (req.data.getD []).length = req.dataLen

/-- The bytes of a Data-Out phase. -/
def BotRequest.out (req : BotRequest) : List UInt8 :=
  if req.dataIn then [] else (req.data.getD []).take req.dataLen

/-- The command of a request, for a unit, with so much of its data received. -/
def BotRequest.command (req : BotRequest) (lun : UInt8) (received : List UInt8) : Command where
  lun := lun
  cb := req.cdb
  dataIn := req.dataIn
  length := req.dataLen
  received := received

/-- The target as the callers of a unit see it: requests instead of commands. -/
def Target.Serves (T : Target σ) (lun : UInt8) (s : σ) (p : BotRequest × (Command × Response)) (t : σ) :
    Prop :=
  (∃ received, received <+: p.1.out ∧ p.2.1 = p.1.command lun received) ∧ T.step s p.2 t

/-- What a reply tells its caller. -/
inductive BotReply.Tells (req : BotRequest) (reply : BotReply) : Heard (Command × Response) → Prop where
  | answer {c : Command} {r : Response} (hstatus : r.status ≠ usbBotStatusPhaseError)
      (houtcome : reply.outcome = if r.status = usbBotStatusPass then .pass else .failed r.status)
      (hcount : reply.actualLen = if req.wantActualLen then some (r.count c) else none)
      (hdata : req.dataIn = true → reply.data = r.sent) : BotReply.Tells req reply (.answer (c, r))
  | lost (houtcome : reply.outcome = .notSent) : BotReply.Tells req reply .lost
  /-- `notSent` is among these for a CBW that moved whole and was reported as an error. -/
  | unknown (houtcome : reply.outcome = .notSent ∨ reply.outcome = .noDevice
      ∨ ∃ reported, reply.outcome = .phaseError reported) : BotReply.Tells req reply .unknown

/-- An answer is not reported as not sent. -/
theorem BotReply.Tells.sent {reply : BotReply} {p : Command × Response}
    (htells : reply.Tells req (.answer p)) : reply.outcome ≠ .notSent := by
  cases htells with
  | answer _ houtcome _ _ =>
      rw [houtcome]
      split <;> simp

theorem overwrite_take {buf new : List UInt8} (hfit : new.length ≤ buf.length) :
    (overwrite buf new).take new.length = new := by
  rw [overwrite, List.take_of_length_le hfit]
  exact List.take_left' rfl

/-- The length field of a CBW. -/
theorem BotRequest.toNat_dataLen (req : BotRequest) : (UInt32.ofNat req.dataLen).toNat = req.dataLen := by
  have hlen := req.dataLen_lt
  rw [UInt32.toNat_ofNat']
  exact Nat.mod_eq_of_lt (by omega)

theorem BotRequest.ofNat_dataLen_eq_zero (req : BotRequest) :
    UInt32.ofNat req.dataLen = 0 ↔ req.dataLen = 0 := by
  constructor
  · intro hzero
    rw [← req.toNat_dataLen, hzero]
    rfl
  · intro hzero
    rw [hzero]
    rfl

theorem toNat_cdbLength {n : Nat} (hfit : n ≤ cbwcbSize) : (UInt8.ofNat n).toNat = n := by
  rw [UInt8.toNat_ofNat']
  exact Nat.mod_eq_of_lt (Nat.lt_of_le_of_lt hfit (by decide))

/-- The CBW carries the request. -/
theorem mkCbw_command (entry : LaserEntry) (tag : UInt32) (received : List UInt8)
    (hfit : req.cdb.length ≤ cbwcbSize) :
    (mkCbw entry req tag).command received = req.command entry.lun received := by
  have hcb : (overwrite (List.replicate cbwcbSize 0) req.cdb).take req.cdb.length = req.cdb :=
    overwrite_take (by simpa using hfit)
  unfold Cbw.command BotRequest.command mkCbw
  simp only [toNat_cdbLength hfit, hcb, req.toNat_dataLen]
  cases req.dataIn <;> rfl

/-- The device takes it for a CBW. -/
theorem mkCbw_valid (entry : LaserEntry) (tag : UInt32) (hreq : req.WellFormed)
    (hfit : req.cdb.length ≤ cbwcbSize) (hlun : entry.lun < 16) : (mkCbw entry req tag).Valid where
  signature := rfl
  flags := by
    unfold mkCbw
    cases req.dataIn <;> simp
  lun := hlun
  length_pos := by
    rw [UInt8.lt_iff_toNat_lt]
    exact (toNat_cdbLength hfit).symm ▸ hreq.cdb_pos
  length_le := by
    rw [UInt8.le_iff_toNat_le]
    exact (toNat_cdbLength hfit).symm ▸ hfit

/-- The direction bit is the direction asked for. -/
theorem mkCbw_flags_in {tag : UInt32} (hflags : (mkCbw entry req tag).bmCBWFlags = 0x80) :
    req.dataIn = true := by
  cases hdir : req.dataIn with
  | true => rfl
  | false => simp [mkCbw, hdir] at hflags

theorem mkCbw_flags_out {tag : UInt32} (hflags : (mkCbw entry req tag).bmCBWFlags = 0x00) :
    req.dataIn = false := by
  cases hdir : req.dataIn with
  | false => rfl
  | true => simp [mkCbw, hdir] at hflags

theorem Target.serves_of_step (entry : LaserEntry) {s t : σ} {tag : UInt32} {received : List UInt8}
    {r : Response} (hfit : req.cdb.length ≤ cbwcbSize) (hreceived : received <+: req.out)
    (hstep : T.step s ((mkCbw entry req tag).command received, r) t) :
    T.Serves entry.lun s (req, (req.command entry.lun received, r)) t :=
  ⟨⟨received, hreceived, rfl⟩, mkCbw_command entry tag received hfit ▸ hstep⟩

/-- What a broken transfer leaves behind is a call whose fate is not known. -/
theorem Target.MayRun.unknown {s t : σ} {tag : UInt32} {out : List UInt8}
    (hran : T.MayRun (mkCbw entry req tag) out s t) (hfit : req.cdb.length ≤ cbwcbSize)
    (hout : out <+: req.out) : Call (T.Serves entry.lun) s (req, .unknown) t := by
  rcases hran with rfl | ⟨received, r, hreceived, hstep⟩
  · exact .undone
  · exact .unseen (serves_of_step entry hfit (hreceived.trans hout) hstep)

/-! ## Transfers on a conforming bus -/

/-- A transfer is answered from the world it is made in. -/
theorem Bus.bulkTransfer_usb (h : UsbHost U) (q : BulkRequest) (b : Bus U) :
    ∃ r u, h.bulkTransfer q b.usb = (r, u) ∧ b.bulkTransfer h q = (r, ⟨u, .bulk q r :: b.log⟩) :=
  ⟨_, _, rfl, rfl⟩

/-- **Reset Recovery**: the device awaits a CBW, its pipes open, and the target is as it was. -/
theorem UsbHost.Recovers.view_reset (hrec : h.Recovers entry.epOut entry.epIn view)
    (hconf : h.Conforms T entry.epOut entry.epIn view) (hne : entry.epIn ≠ entry.epOut) (b : Bus U) :
    view (laserMassStorageReset h entry b).usb
      = { view b.usb with phase := .ready, inHalted := false, outHalted := false } := by
  show view (h.usleep _ (h.clearHalt entry.epOut (h.clearHalt entry.epIn
    (h.controlTransfer (resetRequest entry) b.usb).2).2).2) = _
  rw [hconf.usleep, hrec.clearOut _ hne, hrec.clearIn _ hne, hrec.reset _ _ rfl rfl]

/-- A present device is idle after it. -/
theorem UsbHost.Recovers.idle_of_reset (hrec : h.Recovers entry.epOut entry.epIn view)
    (hconf : h.Conforms T entry.epOut entry.epIn view) (hne : entry.epIn ≠ entry.epOut)
    (hpresent : (view b.usb).gone = false) :
    (view (laserMassStorageReset h entry b).usb).Idle := by
  rw [hrec.view_reset hconf hne]
  exact ⟨hpresent, rfl, rfl, rfl⟩

/-! ## The CBW phase -/

/-- Where the CBW phase leaves the device, on a bus that is `candid` or not. -/
inductive CbwPhaseEnd (T : Target σ) (cbw : Cbw) (candid : Prop) (d : BotDevice σ) :
    Except BotOutcome Nat → BotDevice σ → Prop where
  | sent {e : BotDevice σ} (haccepted : CbwAccepted T cbw d e) :
      CbwPhaseEnd T cbw candid d (.ok usbBotCbwSize) e
  | notSent {e : BotDevice σ} (hidle : e.Idle) (htarget : e.target = d.target) :
      CbwPhaseEnd T cbw candid d (.error .notSent) e
  /-- Reported as not sent, after all of it moved. -/
  | spoiled {e : BotDevice σ} (hnot : ¬ candid) (hidle : e.Idle)
      (hran : T.MayRun cbw [] d.target e.target) : CbwPhaseEnd T cbw candid d (.error .notSent) e
  | noDevice {e : BotDevice σ} (hgone : e.gone = true) (hran : T.MayRun cbw [] d.target e.target) :
      CbwPhaseEnd T cbw candid d (.error .noDevice) e

theorem cbwPhase_end (entry : LaserEntry) (b : Bus U) {cbw : Cbw}
    (hconf : h.Conforms T entry.epOut entry.epIn view)
    (hrec : h.Recovers entry.epOut entry.epIn view)
    (hne : entry.epIn ≠ entry.epOut) (hidle : (view b.usb).Idle) (hvalid : cbw.Valid) :
    CbwPhaseEnd T cbw (h.Candid entry.epOut view) (view b.usb) (cbwPhase h entry cbw b).1
      (view (cbwPhase h entry cbw b).2.usb) := by
  have htaken := hconf.cbw (cbwTransfer entry cbw) b.usb cbw hidle rfl rfl cbw.parse_encode hvalid
  have hcandid := fun hall : h.Candid entry.epOut view =>
    hall (cbwTransfer entry cbw) b.usb cbw hidle rfl rfl cbw.parse_encode hvalid
  obtain ⟨r, u, hru, hbt⟩ := b.bulkTransfer_usb h (cbwTransfer entry cbw)
  unfold cbwPhase
  rw [hbt]
  rw [hru] at htaken hcandid
  dsimp only at htaken hcandid ⊢
  cases htaken with
  | vanished hret hgone hran =>
      rw [if_pos hret]
      exact .noDevice hgone hran
  | spoiled hret hn hran hpresent =>
      obtain ⟨hsuccess, htimeout, hnoDevice⟩ := hret
      have hnot : ¬ h.Candid entry.epOut view := by
        intro hall
        rcases hcandid hall hn with heq | heq | heq
        · exact hsuccess heq
        · exact htimeout heq
        · exact hnoDevice heq
      rw [if_neg hnoDevice, hn, if_neg (by simp [hsuccess, htimeout]),
        if_neg (by simp [usbBotCbwSize])]
      refine .spoiled hnot (hrec.idle_of_reset hconf hne hpresent) ?_
      rw [hrec.view_reset hconf hne]
      exact hran
  | whole hret hn haccepted =>
      have hpresent : r.ret ≠ .errorNoDevice := by rcases hret with hret | hret <;> simp [hret]
      rw [if_neg hpresent, hn, if_pos ⟨rfl, hret⟩]
      exact .sent haccepted
  | partly hret hn htarget hpresent huntouched =>
      rw [if_neg hret, if_neg (fun hall => absurd hall.1 (Nat.ne_of_lt hn))]
      split
      · next hnone =>
          have hsame := huntouched hnone.1 hnone.2
          refine .notSent ?_ htarget
          rw [hsame]
          exact hidle
      · refine .notSent (hrec.idle_of_reset hconf hne hpresent) ?_
        rw [hrec.view_reset hconf hne]
        exact htarget

/-! ## The data phase -/

/-- The command was carried out, and its CSW is next: what the target answered, and what the host has of
    it. -/
structure AtStatus (T : Target σ) (lun : UInt8) (req : BotRequest) (tag : UInt32) (s : σ) (c : Command)
    (r : Response) (moved : DataMoved) (e : BotDevice σ) : Prop where
  serves : T.Serves lun s (req, (c, r)) e.target
  phase : e.phase = .status (r.csw tag)
  present : e.gone = false
  inOpen : e.inHalted = false
  outOpen : e.outHalted = false
  dataTransferred : moved.dataTransferred = r.moved
  actualLen : moved.actualLen = if req.wantActualLen then some r.moved else none
  bytes : req.dataIn = true → moved.bytes = r.sent

/-- Where the data phase leaves a device that has taken the CBW. -/
inductive DataPhaseEnd (T : Target σ) (lun : UInt8) (req : BotRequest) (tag : UInt32) (s : σ) :
    Option BotOutcome → DataMoved → BotDevice σ → Prop where
  | status {c : Command} {r : Response} {moved : DataMoved} {e : BotDevice σ}
      (hat : AtStatus T lun req tag s c r moved e) : DataPhaseEnd T lun req tag s none moved e
  | broken {o : BotOutcome} {moved : DataMoved} {e : BotDevice σ}
      (ho : o = .noDevice ∨ ∃ reported, o = .phaseError reported)
      (hcall : Call (T.Serves lun) s (req, .unknown) e.target) (hin : e.InStep) :
      DataPhaseEnd T lun req tag s (some o) moved e

/-- The command has no data phase, for either side. -/
theorem dataPhase_end_noData {tag : UInt32} {t : Nat} {s : σ} {r : Response}
    (hfit : req.cdb.length ≤ cbwcbSize) (hidle : d.Idle) (hlen : req.dataLen = 0)
    (hstep : T.step s ((mkCbw entry req tag).command [], r) (view b.usb).target)
    (hview : view b.usb = { d with target := (view b.usb).target, phase := .status (r.csw tag) }) :
    DataPhaseEnd T entry.lun req tag s (dataPhase h entry req t b).1 (dataPhase h entry req t b).2.1
      (view (dataPhase h entry req t b).2.2.usb) := by
  have hno : req.hasData = false := by simp [BotRequest.hasData, hlen]
  have hserves := Target.serves_of_step entry hfit List.nil_prefix hstep
  have hmeaning := T.meaningful hserves.2
  have hmoved : r.moved = 0 := by
    have := hmeaning.moved_le
    simpa [BotRequest.command, hlen] using this
  unfold dataPhase
  rw [if_neg (by simp [hno])]
  refine .status (c := req.command entry.lun []) (r := r) ⟨hserves, ?_, ?_, ?_, ?_, ?_, ?_, ?_⟩
  · rw [hview]
  · rw [hview]; exact hidle.present
  · rw [hview]; exact hidle.inOpen
  · rw [hview]; exact hidle.outOpen
  · exact hmoved.symm
  · simp only [hmoved]
  · intro hin
    have heq := hmeaning.moved_eq
    simp only [BotRequest.command, hin, if_true, hmoved] at heq
    exact (List.eq_nil_of_length_eq_zero heq.symm).symm

/-- A transfer that cannot be gone on from: the device is present, and reset. -/
theorem DataPhaseEnd.of_reset {tag : UInt32} {s : σ} {moved : DataMoved}
    (hconf : h.Conforms T entry.epOut entry.epIn view)
    (hrec : h.Recovers entry.epOut entry.epIn view) (hne : entry.epIn ≠ entry.epOut)
    (hpresent : (view b.usb).gone = false)
    (hcall : Call (T.Serves entry.lun) s (req, .unknown) (view b.usb).target) :
    DataPhaseEnd T entry.lun req tag s (some (.phaseError false)) moved
      (view (laserMassStorageReset h entry b).usb) := by
  refine .broken (.inr ⟨false, rfl⟩) ?_ (.inr (hrec.idle_of_reset hconf hne hpresent))
  rw [hrec.view_reset hconf hne]
  exact hcall

/-- What the host has of a data phase in which `n` bytes moved. -/
def BotRequest.moved (req : BotRequest) (r : BulkReply) (n : Nat) : DataMoved :=
  ⟨n, n, if req.wantActualLen then some n else none,
    if req.dataIn then r.bytes.take req.dataLen else []⟩

section Reply

variable {r : BulkReply} {u : U} {t n : Nat}

/-- A data phase that is over: the CSW is read next. -/
theorem dataPhase_of_all (hdata : req.hasData = true)
    (hbt : b.bulkTransfer h (dataTransfer entry req) = (r, ⟨u, .bulk (dataTransfer entry req) r :: b.log⟩))
    (hret : r.ret = .success ∨ (r.ret = .errorTimeout ∧ n = req.dataLen)) (hn : r.transferred = some n) :
    dataPhase h entry req t b
      = (none, req.moved r n, ⟨u, .bulk (dataTransfer entry req) r :: b.log⟩) := by
  unfold dataPhase
  rw [if_pos hdata, hbt]
  rcases hret with hret | ⟨hret, hall⟩
  · simp [hret, hn, BotRequest.moved]
  · simp [hret, hn, hall, BotRequest.moved]

/-- A stalled one: the halt is cleared first. -/
theorem dataPhase_of_stalled (hdata : req.hasData = true)
    (hbt : b.bulkTransfer h (dataTransfer entry req) = (r, ⟨u, .bulk (dataTransfer entry req) r :: b.log⟩))
    (hret : r.ret = .errorPipe) (hn : r.transferred = some n) :
    dataPhase h entry req t b = (none, req.moved r n,
      Bus.clearHalt h (dataTransfer entry req).endpoint ⟨u, .bulk (dataTransfer entry req) r :: b.log⟩) := by
  unfold dataPhase
  rw [if_pos hdata, hbt]
  simp [hret, hn, BotRequest.moved]

theorem dataPhase_of_noDevice (hdata : req.hasData = true)
    (hbt : b.bulkTransfer h (dataTransfer entry req) = (r, ⟨u, .bulk (dataTransfer entry req) r :: b.log⟩))
    (hret : r.ret = .errorNoDevice) :
    ∃ moved, dataPhase h entry req t b
      = (some .noDevice, moved, ⟨u, .bulk (dataTransfer entry req) r :: b.log⟩) := by
  unfold dataPhase
  rw [if_pos hdata, hbt]
  simp [hret]

/-- One that cannot be gone on from: Reset Recovery. -/
theorem dataPhase_of_broken (hdata : req.hasData = true)
    (hbt : b.bulkTransfer h (dataTransfer entry req) = (r, ⟨u, .bulk (dataTransfer entry req) r :: b.log⟩))
    (hret : r.ret ≠ .success ∧ r.ret ≠ .errorPipe ∧ r.ret ≠ .errorNoDevice)
    (hn : r.ret = .errorTimeout → r.transferred ≠ some req.dataLen) :
    ∃ moved, dataPhase h entry req t b = (some (.phaseError false), moved,
      laserMassStorageReset h entry ⟨u, .bulk (dataTransfer entry req) r :: b.log⟩) := by
  obtain ⟨hsuccess, hpipe, hgone⟩ := hret
  unfold dataPhase
  rw [if_pos hdata, hbt]
  by_cases htime : r.ret = .errorTimeout
  · obtain ⟨n, hcount⟩ := Option.isSome_iff_exists.mp (r.reported (.inr (.inl htime)))
    have hpart : n ≠ req.dataLen := by
      intro hall
      exact hn htime (hall ▸ hcount)
    simp [htime, hcount, hpart]
  · simp [hsuccess, hpipe, hgone, htime]

end Reply

/-- The device has the data. -/
theorem dataPhase_end_in {tag : UInt32} {t : Nat} {s : σ} {r : Response}
    (hconf : h.Conforms T entry.epOut entry.epIn view)
    (hrec : h.Recovers entry.epOut entry.epIn view) (hne : entry.epIn ≠ entry.epOut)
    (hfit : req.cdb.length ≤ cbwcbSize) (hidle : d.Idle) (hdata : req.hasData = true)
    (hin : req.dataIn = true)
    (hstep : T.step s ((mkCbw entry req tag).command [], r) (view b.usb).target)
    (hview : view b.usb
      = { d with target := (view b.usb).target, phase := .sending r.sent (r.csw tag) }) :
    DataPhaseEnd T entry.lun req tag s (dataPhase h entry req t b).1 (dataPhase h entry req t b).2.1
      (view (dataPhase h entry req t b).2.2.usb) := by
  have hserves := Target.serves_of_step entry hfit List.nil_prefix hstep
  have hmeaning := T.meaningful hserves.2
  have hmoved : r.moved = r.sent.length := by
    have heq := hmeaning.moved_eq
    simpa only [BotRequest.command, hin, if_true] using heq
  have hle : r.sent.length ≤ req.dataLen := hmoved ▸ hmeaning.moved_le
  have hep : (dataTransfer entry req).endpoint = entry.epIn := by simp [dataTransfer, hin]
  have hsent := hconf.dataIn (dataTransfer entry req) b.usb r.sent (r.csw tag)
    (hview ▸ hidle.present) (by rw [hview]) (hview ▸ hidle.inOpen) hep hle
  obtain ⟨reply, u, hru, hbt⟩ := b.bulkTransfer_usb h (dataTransfer entry req)
  rw [hru] at hsent
  dsimp only at hsent
  -- what the host has, once all of it has arrived and the pipe is open
  have hall : ∀ e : BotDevice σ, reply.bytes = r.sent → e.target = (view b.usb).target →
      e.phase = .status (r.csw tag) → e.gone = false → e.inHalted = false → e.outHalted = false →
      DataPhaseEnd T entry.lun req tag s none (req.moved reply r.sent.length) e := by
    intro e hbytes htarget hphase hpresent hopen hout
    refine .status ⟨htarget ▸ hserves, hphase, hpresent, hopen, hout, hmoved.symm, ?_, ?_⟩
    · simp only [BotRequest.moved, hmoved]
    · intro _
      simp only [BotRequest.moved, hin, if_true, hbytes]
      exact List.take_of_length_le hle
  generalize hu : view u = e at hsent
  cases hsent with
  | all hret hn hbytes =>
      rw [dataPhase_of_all hdata hbt hret hn]
      dsimp only
      rw [hu, hview]
      exact hall _ hbytes rfl rfl hidle.present hidle.inOpen hidle.outOpen
  | stalled hret hn hbytes =>
      rw [dataPhase_of_stalled hdata hbt hret hn, hep]
      show DataPhaseEnd _ _ _ _ _ none _ (view (h.clearHalt entry.epIn u).2)
      rw [hrec.clearIn u hne, hu, hview]
      exact hall _ hbytes rfl rfl hidle.present rfl hidle.outOpen
  | broken hret hn htarget hpresent =>
      obtain ⟨moved, heq⟩ := dataPhase_of_broken (t := t) hdata hbt hret hn
      rw [heq]
      apply DataPhaseEnd.of_reset hconf hrec hne
      · rw [hu]; exact hpresent
      · rw [hu, htarget]; exact .unseen hserves
  | vanished hret hgone htarget =>
      obtain ⟨moved, heq⟩ := dataPhase_of_noDevice (t := t) hdata hbt hret
      rw [heq]
      dsimp only
      rw [hu]
      exact .broken (.inl rfl) (htarget ▸ .unseen hserves) (.inl hgone)

/-- The device takes the data. -/
theorem dataPhase_end_out {tag : UInt32} {t : Nat}
    (hconf : h.Conforms T entry.epOut entry.epIn view)
    (hrec : h.Recovers entry.epOut entry.epIn view) (hne : entry.epIn ≠ entry.epOut)
    (hfit : req.cdb.length ≤ cbwcbSize) (hreq : req.WellFormed) (hidle : d.Idle)
    (hdata : req.hasData = true) (hout : req.dataIn = false)
    (hview : view b.usb = { d with phase := .receiving (mkCbw entry req tag) }) :
    DataPhaseEnd T entry.lun req tag d.target (dataPhase h entry req t b).1
      (dataPhase h entry req t b).2.1 (view (dataPhase h entry req t b).2.2.usb) := by
  have hbytes : (dataTransfer entry req).out = req.out := by
    simp [dataTransfer, BotRequest.out, hout]
  have hlength : req.out.length = req.dataLen := by
    simp [BotRequest.out, hout, hreq.data_length hout]
  have hep : (dataTransfer entry req).endpoint = entry.epOut := by simp [dataTransfer, hout]
  have htarget : (view b.usb).target = d.target := by rw [hview]
  have htaken := hconf.dataOut (dataTransfer entry req) b.usb (mkCbw entry req tag)
    (hview ▸ hidle.present) (by rw [hview]) (hview ▸ hidle.outOpen) hep
    (by rw [hbytes, hlength]; rfl) req.toNat_dataLen.symm
  rw [hbytes] at htaken
  obtain ⟨reply, u, hru, hbt⟩ := b.bulkTransfer_usb h (dataTransfer entry req)
  rw [hru] at htaken
  dsimp only at htaken
  -- the command, once the device has ended the phase on a part of the data
  have hran : ∀ (received : List UInt8) (a : Response) (e : BotDevice σ), received <+: req.out →
      T.step d.target ((mkCbw entry req tag).command received, a) e.target →
      e.phase = .status (a.csw tag) → e.gone = false → e.inHalted = false → e.outHalted = false →
      DataPhaseEnd T entry.lun req tag d.target none (req.moved reply received.length) e := by
    intro received a e hreceived hstep hphase hpresent hopen hopen'
    have hserves := Target.serves_of_step entry hfit hreceived hstep
    have hmoved : a.moved = received.length := by
      have heq := (T.meaningful hserves.2).moved_eq
      simpa [BotRequest.command, hout] using heq
    refine .status ⟨hserves, hphase, hpresent, hopen, hopen', hmoved.symm, ?_, ?_⟩
    · simp only [BotRequest.moved, hmoved]
    · intro hin
      rw [hout] at hin
      cases hin
  generalize hu : view u = e at htaken
  cases htaken with
  | all hret hn hstep =>
      rw [hlength] at hn
      rw [dataPhase_of_all hdata hbt (hret.imp id fun ht => ⟨ht, rfl⟩) hn]
      dsimp only
      rw [hu, ← hlength]
      rw [hview] at hstep ⊢
      exact hran _ _ _ (List.prefix_refl _) hstep rfl hidle.present hidle.inOpen hidle.outOpen
  | @stalled a t' k hk hret hn hstep =>
      have hlen : (req.out.take k).length = k := List.length_take_of_le hk
      rw [dataPhase_of_stalled hdata hbt hret hn, hep]
      show DataPhaseEnd _ _ _ _ _ none _ (view (h.clearHalt entry.epOut u).2)
      rw [hrec.clearOut u hne, hu, ← hlen]
      rw [hview] at hstep ⊢
      exact hran _ _ _ (List.take_prefix k _) hstep rfl hidle.present hidle.inOpen rfl
  | broken hret hn hmay hpresent =>
      rw [hlength] at hn
      obtain ⟨moved, heq⟩ := dataPhase_of_broken (t := t) hdata hbt hret hn
      rw [heq]
      apply DataPhaseEnd.of_reset hconf hrec hne
      · rw [hu]; exact hpresent
      · rw [hu]; exact (htarget ▸ hmay).unknown hfit (List.prefix_refl _)
  | vanished hret hgone hmay =>
      obtain ⟨moved, heq⟩ := dataPhase_of_noDevice (t := t) hdata hbt hret
      rw [heq]
      dsimp only
      rw [hu]
      exact .broken (.inl rfl) ((htarget ▸ hmay).unknown hfit (List.prefix_refl _)) (.inl hgone)

/-- The data phase of an accepted CBW. -/
theorem dataPhase_end (entry : LaserEntry) (t : Nat) {tag : UInt32}
    (hconf : h.Conforms T entry.epOut entry.epIn view)
    (hrec : h.Recovers entry.epOut entry.epIn view) (hne : entry.epIn ≠ entry.epOut)
    (hfit : req.cdb.length ≤ cbwcbSize) (hreq : req.WellFormed) (hidle : d.Idle)
    (haccepted : CbwAccepted T (mkCbw entry req tag) d (view b.usb)) :
    DataPhaseEnd T entry.lun req tag d.target (dataPhase h entry req t b).1
      (dataPhase h entry req t b).2.1 (view (dataPhase h entry req t b).2.2.usb) := by
  have hdata : (mkCbw entry req tag).dCBWDataTransferLength ≠ 0 → req.hasData = true := by
    intro hlen
    have hpos : 0 < req.dataLen :=
      Nat.pos_of_ne_zero fun hzero => hlen (req.ofNat_dataLen_eq_zero.mpr hzero)
    simp [BotRequest.hasData, hpos, hreq.buffer hpos]
  generalize hview : view b.usb = e at haccepted
  cases haccepted with
  | @noData r s hlen hstep =>
      have htarget : (view b.usb).target = s := by rw [hview]
      refine dataPhase_end_noData hfit hidle (req.ofNat_dataLen_eq_zero.mp hlen) (htarget ▸ hstep) ?_
      rw [htarget, hview]
      rfl
  | @dataIn r s hlen hflags hstep =>
      have htarget : (view b.usb).target = s := by rw [hview]
      have hin : req.dataIn = true := mkCbw_flags_in hflags
      refine dataPhase_end_in hconf hrec hne hfit hidle (hdata hlen) hin (htarget ▸ hstep) ?_
      rw [htarget, hview]
      rfl
  | dataOut hlen hflags =>
      have hout : req.dataIn = false := mkCbw_flags_out hflags
      exact dataPhase_end_out hconf hrec hne hfit hreq hidle (hdata hlen) hout hview

/-! ## The CSW phase -/

/-- What the CSW reads of the host come to, on a device whose CSW is next. -/
inductive CswReadEnd (csw : Csw) (s : σ) : BulkReply → Nat → BotDevice σ → Prop where
  | read {r : BulkReply} {e : BotDevice σ} (hret : r.ret = .success ∨ r.ret = .errorTimeout)
      (hbytes : r.bytes = csw.encode) (hidle : e.Idle) (htarget : e.target = s) :
      CswReadEnd csw s r usbBotCswSize e
  | broken {r : BulkReply} {n : Nat} {e : BotDevice σ} (hret : r.ret ≠ .errorNoDevice)
      (hn : n ≠ usbBotCswSize ∨ (r.ret ≠ .success ∧ r.ret ≠ .errorTimeout)) (hpresent : e.gone = false)
      (htarget : e.target = s) : CswReadEnd csw s r n e
  | vanished {r : BulkReply} {n : Nat} {e : BotDevice σ} (hret : r.ret = .errorNoDevice)
      (hgone : e.gone = true) (htarget : e.target = s) : CswReadEnd csw s r n e

/-- One read, on an open pipe. -/
theorem StatusSent.readEnd {csw : Csw} {r : BulkReply} {t : Nat} (hsent : StatusSent csw d r e)
    (hpresent : d.gone = false) (hout : d.outHalted = false) :
    CswReadEnd csw d.target r (r.transferred.getD t) e := by
  cases hsent with
  | read hopen hret hn hbytes =>
      rw [hn]
      exact .read hret hbytes ⟨hpresent, rfl, hopen, hout⟩ rfl
  | stalled hret => exact .broken (by simp [hret]) (.inr (by simp [hret])) hpresent rfl
  | broken hret hn htarget hpresent =>
      refine .broken hret.2 ?_ hpresent htarget
      by_cases hok : r.ret = .success ∨ r.ret = .errorTimeout
      · obtain ⟨m, hm⟩ := Option.isSome_iff_exists.mp (r.reported (hok.imp id .inl))
        left
        intro hall
        rw [hm] at hall
        exact hn hok (hall ▸ hm)
      · exact .inr ⟨fun hs => hok (.inl hs), fun ht => hok (.inr ht)⟩
  | vanished hret hgone htarget => exact .vanished hret hgone htarget

theorem readCsw_end {csw : Csw} {t : Nat} (hconf : h.Conforms T entry.epOut entry.epIn view)
    (hrec : h.Recovers entry.epOut entry.epIn view)
    (hne : entry.epIn ≠ entry.epOut) (hpresent : (view b.usb).gone = false)
    (hphase : (view b.usb).phase = .status csw) (hout : (view b.usb).outHalted = false) :
    CswReadEnd csw (view b.usb).target (readCsw h entry t b).1 (readCsw h entry t b).2.1
      (view (readCsw h entry t b).2.2.2.usb) := by
  have hsent := hconf.status (cswTransfer entry) b.usb csw hpresent hphase rfl rfl
  obtain ⟨r, u, hru, hbt⟩ := b.bulkTransfer_usb h (cswTransfer entry)
  unfold readCsw
  rw [hbt]
  rw [hru] at hsent
  dsimp only at hsent ⊢
  split
  · next hpipe =>
      -- the halt is cleared, and the device is where it was
      have hstalled : view u = { view b.usb with inHalted := true } := by
        generalize view u = e at hsent
        cases hsent with
        | read _ hret _ _ => simp [hpipe] at hret
        | stalled _ => rfl
        | broken hret _ _ _ => exact absurd hpipe hret.1
        | vanished hret _ _ => simp [hpipe] at hret
      have hclear : view (h.clearHalt entry.epIn u).2 = { view b.usb with inHalted := false } := by
        rw [hrec.clearIn u hne, hstalled]
      have hagain := hconf.status (cswTransfer entry) (h.clearHalt entry.epIn u).2 csw
        (hclear ▸ hpresent) (hclear ▸ hphase) rfl rfl
      have hend := hagain.readEnd (t := r.transferred.getD t) (hclear ▸ hpresent) (hclear ▸ hout)
      rw [hclear] at hend
      exact hend
  · exact hsent.readEnd hpresent hout

/-- Where the CSW phase leaves the device. -/
inductive CswPhaseEnd (csw : Csw) (s : σ) : Except BotOutcome Csw → BotDevice σ → Prop where
  | accepted {e : BotDevice σ} (hstatus : csw.bCSWStatus ≠ usbBotStatusPhaseError) (hidle : e.Idle)
      (htarget : e.target = s) : CswPhaseEnd csw s (.ok csw) e
  | reset {reported : Bool} {e : BotDevice σ} (hidle : e.Idle) (htarget : e.target = s) :
      CswPhaseEnd csw s (.error (.phaseError reported)) e
  | vanished {e : BotDevice σ} (hgone : e.gone = true) (htarget : e.target = s) :
      CswPhaseEnd csw s (.error .noDevice) e

theorem cswPhase_end (entry : LaserEntry) (t : Nat) {csw : Csw}
    (hconf : h.Conforms T entry.epOut entry.epIn view)
    (hrec : h.Recovers entry.epOut entry.epIn view)
    (hne : entry.epIn ≠ entry.epOut) (hpresent : (view b.usb).gone = false)
    (hphase : (view b.usb).phase = .status csw) (hout : (view b.usb).outHalted = false)
    (hsignature : csw.dCSWSignature = usbBotCswSignature) :
    CswPhaseEnd csw (view b.usb).target (cswPhase h entry csw.dCSWTag t b).1
      (view (cswPhase h entry csw.dCSWTag t b).2.2.usb) := by
  have hread := readCsw_end (t := t) hconf hrec hne hpresent hphase hout
  have hreset : ∀ (b' : Bus U) (reported : Bool), (view b'.usb).gone = false →
      (view b'.usb).target = (view b.usb).target →
      CswPhaseEnd csw (view b.usb).target (.error (.phaseError reported))
        (view (laserMassStorageReset h entry b').usb) := by
    intro b' reported hpresent htarget
    refine .reset (hrec.idle_of_reset hconf hne hpresent) ?_
    rw [hrec.view_reset hconf hne]
    exact htarget
  unfold cswPhase
  generalize readCsw h entry t b = rr at hread ⊢
  obtain ⟨r, n, bot, b'⟩ := rr
  dsimp only at hread ⊢
  generalize hview : view b'.usb = e at hread
  cases hread with
  | vanished hret hgone htarget =>
      rw [if_pos hret]
      dsimp only
      rw [hview]
      exact .vanished hgone htarget
  | broken hret hn hpresent htarget =>
      rw [if_neg hret, if_pos hn]
      exact hreset b' false (hview ▸ hpresent) (hview ▸ htarget)
  | read hret hbytes hidle htarget =>
      have hpresent : r.ret ≠ .errorNoDevice := by rcases hret with hret | hret <;> simp [hret]
      have hwhole : ¬ (usbBotCswSize ≠ usbBotCswSize ∨ (r.ret ≠ .success ∧ r.ret ≠ .errorTimeout)) := by
        rcases hret with hret | hret <;> simp [hret]
      rw [if_neg hpresent, if_neg hwhole, hbytes, Csw.ofBytes_encode, if_neg (by simp [hsignature])]
      split
      · exact hreset b' true (hview ▸ hidle.present) (hview ▸ htarget)
      · next hstatus =>
          dsimp only
          rw [hview]
          exact .accepted hstatus hidle htarget

/-! ## The call -/

/-- The reconciliation of wire count and residue finds the bytes that count. -/
theorem Response.Meaningful.reconcile_eq {c : Command} {r : Response} (hmeaning : r.Meaningful c) :
    reconcile c.length r.moved r.residue = r.count c := by
  have hmoved := hmeaning.moved_le
  have hshort := hmeaning.short
  unfold reconcile Response.count
  dsimp only
  split
  · next hzero =>
      split
      · omega
      · rfl
  · split
    · split <;> omega
    · rfl

theorem Response.toNat_residue {c : Command} {r : Response} (hmeaning : r.Meaningful c)
    (hlen : c.length < 2 ^ 31) : (UInt32.ofNat r.residue).toNat = r.residue := by
  have hle := hmeaning.residue_le
  rw [UInt32.toNat_ofNat']
  exact Nat.mod_eq_of_lt (by omega)

/-- What ends up in `*actual_len`. -/
theorem AtStatus.actualLen_eq {tag : UInt32} {s : σ} {c : Command} {r : Response} {moved : DataMoved}
    {lun : UInt8} (hat : AtStatus T lun req tag s c r moved e) (hreq : req.WellFormed)
    (hlength : c.length = req.dataLen) :
    (if (req.hasData && req.wantActualLen) = true then
        some (reconcile req.dataLen moved.dataTransferred r.residue) else moved.actualLen)
      = if req.wantActualLen then some (r.count c) else none := by
  have hmeaning := T.meaningful hat.serves.2
  rw [hat.dataTransferred, ← hlength, hmeaning.reconcile_eq, hat.actualLen]
  cases hwant : req.wantActualLen with
  | false => simp
  | true =>
      cases hdata : req.hasData with
      | true => simp
      | false =>
          have hzero : c.length = 0 := by
            rcases Nat.eq_zero_or_pos req.dataLen with hzero | hpos
            · exact hlength.trans hzero
            · simp [BotRequest.hasData, hpos, hreq.buffer hpos] at hdata
          simp [Response.count, hzero]

/-- The host concludes what the target answered. -/
theorem AtStatus.concludes {tag : UInt32} {s : σ} {c : Command} {r : Response} {moved : DataMoved}
    {lun : UInt8} (bot : BotState) (hat : AtStatus T lun req tag s c r moved e) (hreq : req.WellFormed)
    (hstatus : r.status ≠ usbBotStatusPhaseError) :
    (concludeCsw req moved bot (r.csw tag)).Tells req (.answer (c, r)) := by
  have hmeaning := T.meaningful hat.serves.2
  obtain ⟨received, -, hc⟩ := hat.serves.1
  have hlength : c.length = req.dataLen := congrArg Command.length hc
  have hresidue : (r.csw tag).dCSWDataResidue.toNat = r.residue :=
    Response.toNat_residue hmeaning (hlength ▸ req.dataLen_lt)
  have hbound : ¬ req.dataLen < r.residue := by
    have := hmeaning.residue_le
    omega
  have hcount := hat.actualLen_eq hreq hlength
  unfold concludeCsw
  dsimp only
  rw [hresidue, if_neg hbound, hcount]
  split
  · next hfail => exact .answer hstatus (if_neg hfail).symm rfl hat.bytes
  · next hpass => exact .answer hstatus (if_pos (Classical.not_not.mp hpass)).symm rfl hat.bytes

/-- A device that has left the bus is not there for the CBW. -/
theorem cbwPhase_of_gone (entry : LaserEntry) (cbw : Cbw) (b : Bus U)
    (hconf : h.Conforms T entry.epOut entry.epIn view)
    (hgone : (view b.usb).gone = true) :
    (cbwPhase h entry cbw b).1 = .error .noDevice ∧ view (cbwPhase h entry cbw b).2.usb = view b.usb := by
  obtain ⟨hret, hview⟩ := hconf.gone (cbwTransfer entry cbw) b.usb hgone
  obtain ⟨r, u, hru, hbt⟩ := b.bulkTransfer_usb h (cbwTransfer entry cbw)
  rw [hru] at hret hview
  unfold cbwPhase
  rw [hbt]
  dsimp only at hret hview ⊢
  rw [if_pos hret]
  exact ⟨rfl, hview⟩

/-- **Host and device stay in step.** Against a conforming device, on a bus where a Reset Recovery recovers,
    a transaction is a call on its target: an answer is the target's own answer to this command, carried out
    once; anything else leaves open whether it was carried out, and no more; `BOT_FAIL_NOT_SENT` means that it
    was not, when the bus is candid. The device awaits the next CBW afterwards, or has left the bus. -/
theorem laserBotSendLocked_refines (hconf : h.Conforms T entry.epOut entry.epIn view)
    (hrec : h.Recovers entry.epOut entry.epIn view)
    (hne : entry.epIn ≠ entry.epOut) (hlun : entry.lun < 16) (hreq : req.WellFormed) {u : U}
    (hin : (view u).InStep) :
    (view (laserBotSendLocked h entry req u).2.usb).InStep
      ∧ ∃ heard, (laserBotSendLocked h entry req u).1.Tells req heard
        ∧ Call (T.Serves entry.lun) (view u).target (req, heard)
          (view (laserBotSendLocked h entry req u).2.usb).target
        ∧ (h.Candid entry.epOut view → (laserBotSendLocked h entry req u).1.outcome = .notSent →
          heard = .lost) := by
  unfold laserBotSendLocked
  split
  · exact ⟨hin, .lost, .lost rfl, .lost, fun _ _ => rfl⟩
  next hlong =>
  have hfit : req.cdb.length ≤ cbwcbSize := Nat.le_of_not_lt hlong
  dsimp only
  rcases hin with hgone | hidle
  · obtain ⟨hres, hview⟩ := cbwPhase_of_gone entry.nextTag
      (mkCbw entry.nextTag req entry.nextTag.bot.tag) ⟨u, []⟩ hconf hgone
    generalize cbwPhase h entry.nextTag _ ⟨u, []⟩ = phase at hres hview ⊢
    obtain ⟨res, b₁⟩ := phase
    dsimp only at hres hview ⊢
    rw [hres]
    refine ⟨?_, .unknown, .unknown (.inr (.inl rfl)), ?_, fun _ hnot => by cases hnot⟩
    · exact .inl (hview ▸ hgone)
    · dsimp only
      rw [hview]
      exact .undone
  have hcbw := cbwPhase_end entry.nextTag ⟨u, []⟩ hconf hrec hne hidle
    (mkCbw_valid entry.nextTag entry.nextTag.bot.tag hreq hfit hlun)
  generalize cbwPhase h entry.nextTag _ ⟨u, []⟩ = phase at hcbw ⊢
  obtain ⟨res, b₁⟩ := phase
  dsimp only at hcbw ⊢
  generalize hview₁ : view b₁.usb = d₁ at hcbw
  cases hcbw with
  | notSent hidle₁ htarget =>
      dsimp only
      rw [hview₁]
      exact ⟨.inr hidle₁, .lost, .lost rfl, htarget ▸ .lost, fun _ _ => rfl⟩
  | spoiled hnot hidle₁ hran =>
      dsimp only
      rw [hview₁]
      exact ⟨.inr hidle₁, .unknown, .unknown (.inl rfl), hran.unknown hfit List.nil_prefix,
        fun hall => absurd hall hnot⟩
  | noDevice hgone hran =>
      dsimp only
      rw [hview₁]
      exact ⟨.inl hgone, .unknown, .unknown (.inr (.inl rfl)), hran.unknown hfit List.nil_prefix,
        fun _ hnot => by cases hnot⟩
  | sent haccepted =>
      subst hview₁
      have hdata := dataPhase_end entry.nextTag usbBotCbwSize hconf hrec hne hfit hreq hidle haccepted
      dsimp only
      generalize dataPhase h entry.nextTag req usbBotCbwSize b₁ = phase at hdata ⊢
      obtain ⟨res, moved, b₂⟩ := phase
      dsimp only at hdata ⊢
      generalize hview₂ : view b₂.usb = d₂ at hdata
      cases hdata with
      | broken ho hcall hin =>
          rw [hview₂]
          refine ⟨hin, .unknown, .unknown (.inr ho), hcall, fun _ hnot => ?_⟩
          rcases ho with rfl | ⟨_, rfl⟩ <;> cases hnot
      | @status c r _ _ hat =>
          subst hview₂
          have hcsw := cswPhase_end entry.nextTag moved.transferred hconf hrec hne
            hat.present hat.phase hat.outOpen rfl
          have htag : (r.csw entry.nextTag.bot.tag).dCSWTag = entry.nextTag.bot.tag := rfl
          rw [htag] at hcsw
          dsimp only
          generalize cswPhase h entry.nextTag entry.nextTag.bot.tag moved.transferred b₂ = phase
            at hcsw ⊢
          obtain ⟨res, bot, b₃⟩ := phase
          dsimp only at hcsw ⊢
          generalize hview₃ : view b₃.usb = d₃ at hcsw
          cases hcsw with
          | accepted hstatus hidle₃ htarget =>
              rw [hview₃]
              have htells := hat.concludes bot hreq hstatus
              exact ⟨.inr hidle₃, .answer (c, r), htells, htarget ▸ .answered hat.serves,
                fun _ hnot => absurd hnot htells.sent⟩
          | @reset reported _ hidle₃ htarget =>
              rw [hview₃]
              exact ⟨.inr hidle₃, .unknown, .unknown (.inr (.inr ⟨reported, rfl⟩)),
                htarget ▸ .unseen hat.serves, fun _ hnot => by cases hnot⟩
          | vanished hgone htarget =>
              rw [hview₃]
              exact ⟨.inl hgone, .unknown, .unknown (.inr (.inl rfl)), htarget ▸ .unseen hat.serves,
                fun _ hnot => by cases hnot⟩

end Liblaser
