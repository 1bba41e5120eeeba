import Liblaser.Bot.Peer

/-!
# `Bot.Ideal` — a device that never fails

The simplest device of the class: it carries its commands out by a function on the state of its target,
sends what it has in one transfer and takes what it is sent, on a bus where every transfer succeeds. It
can be run, and it conforms (**`BotDevice.ideal_conforms`**), recovers and is candid, so what is said of
every such device is said of something.
-/

namespace Liblaser

open Bytes

variable {σ : Type} {epOut epIn : UInt8}

/-- The target that carries a command out by a function, on as much data as was announced. -/
def Target.ofFun (exec : Command → σ → Response × σ)
    (hmeaning : ∀ c s, c.received.length ≤ c.length → (exec c s).1.Meaningful c) : Target σ where
  step s p t := p.1.received.length ≤ p.1.length ∧ exec p.1 s = (p.2, t)
  meaningful := by
    rintro s t c r ⟨hlen, heq⟩
    have hr := hmeaning c s hlen
    rw [heq] at hr
    exact hr

/-- Carry a command out, and go to a phase with its CSW. -/
def BotDevice.run (exec : Command → σ → Response × σ) (d : BotDevice σ) (cbw : Cbw)
    (received : List UInt8) (next : Response → Csw → BotPhase) : BotDevice σ :=
  let (r, t) := exec (cbw.command received) d.target
  { d with target := t, phase := next r (r.csw cbw.dCBWTag) }

/-- Take a CBW. -/
def BotDevice.accept (exec : Command → σ → Response × σ) (d : BotDevice σ) (cbw : Cbw) : BotDevice σ :=
  if cbw.dCBWDataTransferLength = 0 then d.run exec cbw [] fun _ csw => .status csw
  else if cbw.bmCBWFlags = 0x80 then d.run exec cbw [] fun r csw => .sending r.sent csw
  else { d with phase := .receiving cbw }

/-- A device that carries its commands out by a function, sends what it has in one transfer and takes
    what it is sent, on a bus where every transfer succeeds. -/
def BotDevice.ideal (exec : Command → σ → Response × σ) (epOut epIn : UInt8) : UsbHost (BotDevice σ) where
  bulkTransfer req d :=
    if d.gone then (.gone, d)
    else match d.phase with
      | .ready =>
        match Cbw.parse req.out with
        | some cbw => (.moved .success usbBotCbwSize [], d.accept exec cbw)
        | none => (.moved .errorPipe 0 [], { d with phase := .adrift })
      | .sending left csw => (.moved .success left.length left, { d with phase := .status csw })
      | .receiving cbw =>
        (.moved .success req.out.length [], d.run exec cbw req.out fun _ csw => .status csw)
      | .status csw =>
        if d.inHalted then (.moved .errorPipe 0 [], d)
        else (.moved .success usbBotCswSize csw.encode, { d with phase := .ready })
      | .adrift => (.moved .errorPipe 0 [], d)
  controlTransfer req d :=
    (⟨0, []⟩, if req.bmRequestType = usbBotResetRequestType ∧ req.bRequest = usbBotResetRequest then
      { d with phase := .ready } else d)
  clearHalt ep d :=
    (.success, if ep = epIn then { d with inHalted := false }
      else if ep = epOut then { d with outHalted := false } else d)
  usleep _ d := d

section Ideal

variable {exec : Command → σ → Response × σ}
  (hmeaning : ∀ c s, c.received.length ≤ c.length → (exec c s).1.Meaningful c)

/-- It carries out what it is told to. -/
theorem BotDevice.run_eq (cbw : Cbw) (received : List UInt8) (d : BotDevice σ)
    (next : Response → Csw → BotPhase)
    (hlen : received.length ≤ cbw.dCBWDataTransferLength.toNat) :
    ∃ r t, (Target.ofFun exec hmeaning).step d.target (cbw.command received, r) t
      ∧ d.run exec cbw received next
        = { d with target := t, phase := next r (r.csw cbw.dCBWTag) } :=
  ⟨_, _, ⟨hlen, rfl⟩, rfl⟩

theorem BotDevice.accept_spec {cbw : Cbw} (d : BotDevice σ) (hvalid : cbw.Valid) :
    CbwAccepted (.ofFun exec hmeaning) cbw d (d.accept exec cbw) := by
  unfold accept
  split
  · next hlen =>
      obtain ⟨r, t, hstep, heq⟩ :=
        run_eq hmeaning cbw [] d (fun _ csw => .status csw) (Nat.zero_le _)
      rw [heq]
      exact .noData hlen hstep
  · next hlen =>
      split
      · next hflags =>
          obtain ⟨r, t, hstep, heq⟩ :=
            run_eq hmeaning cbw [] d (fun r csw => .sending r.sent csw) (Nat.zero_le _)
          rw [heq]
          exact .dataIn hlen hflags hstep
      · next hflags => exact .dataOut hlen (hvalid.flags.resolve_left hflags)

section Transfers

variable {d : BotDevice σ} {q : BulkRequest}

theorem BotDevice.ideal_cbw {cbw : Cbw} (hpresent : d.gone = false) (hready : d.phase = .ready)
    (hparse : Cbw.parse q.out = some cbw) :
    (ideal exec epOut epIn).bulkTransfer q d
      = (.moved .success usbBotCbwSize [], d.accept exec cbw) := by
  simp [ideal, hpresent, hready, hparse]

theorem BotDevice.ideal_in {left : List UInt8} {csw : Csw} (hpresent : d.gone = false)
    (hphase : d.phase = .sending left csw) :
    (ideal exec epOut epIn).bulkTransfer q d
      = (.moved .success left.length left, { d with phase := .status csw }) := by
  simp [ideal, hpresent, hphase]

theorem BotDevice.ideal_out {cbw : Cbw} (hpresent : d.gone = false) (hphase : d.phase = .receiving cbw) :
    (ideal exec epOut epIn).bulkTransfer q d
      = (.moved .success q.out.length [], d.run exec cbw q.out fun _ csw => .status csw) := by
  simp [ideal, hpresent, hphase]

theorem BotDevice.ideal_status {csw : Csw} (hpresent : d.gone = false) (hphase : d.phase = .status csw) :
    (ideal exec epOut epIn).bulkTransfer q d
      = if d.inHalted then (.moved .errorPipe 0 [], d)
        else (.moved .success usbBotCswSize csw.encode, { d with phase := .ready }) := by
  simp [ideal, hpresent, hphase]

end Transfers

/-- **It is a device of the class.** -/
theorem BotDevice.ideal_conforms (epOut epIn : UInt8) :
    (ideal exec epOut epIn).Conforms (.ofFun exec hmeaning) epOut epIn id where
  cbw q d cbw hidle _ _ hparse hvalid := by
    rw [ideal_cbw (d := d) hidle.present hidle.ready hparse]
    exact .whole (.inl rfl) rfl (d.accept_spec hmeaning hvalid)
  dataIn q d left csw hpresent hphase _ _ _ := by
    rw [ideal_in (d := d) hpresent hphase]
    exact .all (.inl rfl) rfl rfl
  dataOut q d cbw hpresent hphase _ _ hout hlen := by
    obtain ⟨r, t, hstep, heq⟩ := run_eq hmeaning cbw q.out d
      (fun _ csw => .status csw) (Nat.le_of_eq (hout.trans hlen))
    rw [ideal_out (d := d) hpresent hphase, heq]
    exact .all (.inl rfl) rfl hstep
  status q d csw hpresent hphase _ _ := by
    rw [ideal_status (d := d) hpresent hphase]
    split
    · next hhalted =>
        have hstalled : StatusSent csw d (.moved .errorPipe 0 []) { d with inHalted := true } :=
          .stalled rfl
        rwa [← hhalted] at hstalled
    · next hopen => exact .read (Bool.eq_false_iff.mpr hopen) (.inl rfl) rfl rfl
  gone q d hgone := by
    have hgone : d.gone = true := hgone
    simp [ideal, hgone, BulkReply.gone]
  usleep _ _ := rfl

theorem BotDevice.ideal_recovers (epOut epIn : UInt8) :
    (ideal exec epOut epIn).Recovers epOut epIn id where
  reset q d htype hrequest := by simp [ideal, htype, hrequest]
  clearIn d _ := by simp [ideal]
  clearOut d hne := by simp [ideal, Ne.symm hne]

theorem BotDevice.ideal_candid (epOut epIn : UInt8) : (ideal exec epOut epIn).Candid epOut id := by
  intro q d cbw hidle _ _ hparse _ _
  rw [ideal_cbw (d := d) hidle.present hidle.ready hparse]
  exact .inl rfl

end Ideal

/-! ## Two responses -/

/-- Pass, with this data. -/
def Response.full (data : List UInt8) : Response := ⟨data.length, data, 0, usbBotStatusPass⟩

/-- Fail, with nothing sent. -/
def Response.refused (c : Command) : Response :=
  ⟨if c.dataIn then 0 else c.received.length, [], c.length, usbBotStatusFail⟩

theorem Response.full_meaningful {data : List UInt8} {c : Command} (hin : c.dataIn = true)
    (hlen : c.length = data.length) : (Response.full data).Meaningful c :=
  ⟨by simp [full, hin], Nat.le_of_eq hlen.symm, Nat.zero_le _, fun hshort => by
    simp [full, hlen] at hshort⟩

theorem Response.refused_meaningful {c : Command} (hlen : c.received.length ≤ c.length) :
    (Response.refused c).Meaningful c :=
  ⟨by simp [refused], by simp only [refused]; split <;> omega, Nat.le_refl _, fun _ => Nat.sub_le _ _⟩

/-! ## A target that keeps a record -/

/-- Pass every command, send zeros, and keep the commands, newest first. -/
def Command.record (c : Command) (s : List Command) : Response × List Command :=
  if c.dataIn then (⟨c.length, List.replicate c.length 0, 0, usbBotStatusPass⟩, c :: s)
  else (⟨c.received.length, [], c.length - c.received.length, usbBotStatusPass⟩, c :: s)

theorem Command.record_meaningful (c : Command) (s : List Command)
    (hlen : c.received.length ≤ c.length) : (c.record s).1.Meaningful c := by
  unfold record
  split
  · next hin => exact ⟨by simp [hin], Nat.le_refl _, Nat.zero_le _, fun h => absurd h (Nat.lt_irrefl _)⟩
  · next hout => exact ⟨by simp [hout], hlen, Nat.sub_le _ _, fun _ => Nat.le_refl _⟩

end Liblaser
