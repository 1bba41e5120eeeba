import Mathlib.Data.List.Forall2
import Liblaser.Bot.InStep

/-!
# `Bot.History` — what a device has done, from what the host was told

Runs of transactions with one unit of a device. Between them the world may do what it likes, as long as
it leaves the device alone, and so may the rest of the library with the entry: a run is of device states,
and `Transacts` is one transaction among them.

**`transactions_refine`** is the safety of the protocol, on a bus where a Reset Recovery takes effect.
Whatever transfers fail on the way, the device's target has stepped through the commands of the run in
order, each at most once: those answered with their answer, and of the others some, but on a candid bus
none of those reported as `BOT_FAIL_NOT_SENT`.
-/

namespace Liblaser

open Service Transition

variable {σ U : Type} {h : UsbHost U} {T : Target σ} {view : U → BotDevice σ} {epOut epIn lun : UInt8}
  {d e : BotDevice σ}

/-- An entry of the unit `lun` behind these endpoints. -/
structure LaserEntry.On (entry : LaserEntry) (epOut epIn lun : UInt8) : Prop where
  epOut_eq : entry.epOut = epOut
  epIn_eq : entry.epIn = epIn
  lun_eq : entry.lun = lun

/-- One transaction with the unit, from one state of the device to the next. -/
def Transacts (h : UsbHost U) (view : U → BotDevice σ) (epOut epIn lun : UInt8) (d : BotDevice σ)
    (p : BotRequest × BotReply) (e : BotDevice σ) : Prop :=
  ∃ (entry : LaserEntry) (u : U), entry.On epOut epIn lun ∧ view u = d
    ∧ (laserBotSendLocked h entry p.1 u).1 = p.2
    ∧ view (laserBotSendLocked h entry p.1 u).2.usb = e

theorem Transacts.of_send {entry : LaserEntry} (hon : entry.On epOut epIn lun) (req : BotRequest) (u : U) :
    Transacts h view epOut epIn lun (view u) (req, (laserBotSendLocked h entry req u).1)
      (view (laserBotSendLocked h entry req u).2.usb) :=
  ⟨entry, u, hon, rfl, rfl, rfl⟩

/-- What was heard of a run of calls, from what they returned. -/
def HeardOf (calls : List (BotRequest × BotReply))
    (heard : List (BotRequest × Heard (Command × Response))) : Prop :=
  List.Forall₂ (fun p q => q.1 = p.1 ∧ p.2.Tells p.1 q.2) calls heard

/-- Each call reported as not sent was lost. -/
def UnsentLost (calls : List (BotRequest × BotReply))
    (heard : List (BotRequest × Heard (Command × Response))) : Prop :=
  List.Forall₂ (fun p q => p.2.outcome = .notSent → q.2 = .lost) calls heard

/-- A bus with a conforming device on it, whose unit `lun` the host addresses, where a Reset Recovery and the
    clearing of a halt take effect. -/
structure Wired (h : UsbHost U) (T : Target σ) (epOut epIn lun : UInt8) (view : U → BotDevice σ) :
    Prop where
  conforms : h.Conforms T epOut epIn view
  recovers : h.Recovers epOut epIn view
  endpoints : epIn ≠ epOut
  lun_lt : lun < 16

/-- One transaction of a run is a call on the target. -/
theorem Transacts.call {p : BotRequest × BotReply} (hwired : Wired h T epOut epIn lun view)
    (hcall : Transacts h view epOut epIn lun d p e) (hreq : p.1.WellFormed) (hin : d.InStep) :
    e.InStep ∧ ∃ heard, p.2.Tells p.1 heard ∧ Call (T.Serves lun) d.target (p.1, heard) e.target
      ∧ (h.Candid epOut view → p.2.outcome = .notSent → heard = .lost) := by
  obtain ⟨entry, u, hon, rfl, hreply, rfl⟩ := hcall
  obtain ⟨rfl, rfl, rfl⟩ := hon
  rw [← hreply]
  exact laserBotSendLocked_refines hwired.conforms hwired.recovers hwired.endpoints hwired.lun_lt hreq hin

/-- A run of transactions is a run of calls. -/
theorem Transacts.calls {calls : List (BotRequest × BotReply)}
    (hwired : Wired h T epOut epIn lun view)
    (hrun : Run (Transacts h view epOut epIn lun) d calls e) (hreq : ∀ p ∈ calls, p.1.WellFormed)
    (hin : d.InStep) :
    e.InStep ∧ ∃ heard, HeardOf calls heard ∧ (h.Candid epOut view → UnsentLost calls heard)
      ∧ Run (Call (T.Serves lun)) d.target heard e.target := by
  induction hrun with
  | refl => exact ⟨hin, [], .nil, fun _ => .nil, .refl⟩
  | @step calls e e' p hrun hcall ih =>
      obtain ⟨hin', log, htold, hunsent, hlog⟩ := ih fun p hp => hreq p (List.mem_cons_of_mem _ hp)
      obtain ⟨hin'', heard, htells, hheard, hlost⟩ :=
        hcall.call hwired (hreq p List.mem_cons_self) hin'
      exact ⟨hin'', (p.1, heard) :: log, .cons ⟨rfl, htells⟩ htold,
        fun hcandid => .cons (hlost hcandid) (hunsent hcandid), .step hlog hheard⟩

/-- **The history of a device.** After any run of transactions, with any transfers failing, stalling or
    cut short on the way, the device awaits a CBW or has left the bus; and what its target has done is a
    thinning of the calls: each carried out at most once and in order, every answered one with the answer
    given, and on a candid bus no `BOT_FAIL_NOT_SENT`. -/
theorem transactions_refine (hwired : Wired h T epOut epIn lun view)
    {calls : List (BotRequest × BotReply)}
    (hrun : Run (Transacts h view epOut epIn lun) d calls e) (hreq : ∀ p ∈ calls, p.1.WellFormed)
    (hin : d.InStep) :
    e.InStep ∧ ∃ heard done, HeardOf calls heard ∧ (h.Candid epOut view → UnsentLost calls heard)
      ∧ Thins heard done ∧ Run (T.Serves lun) d.target done e.target := by
  obtain ⟨hin', heard, htold, hunsent, hheard⟩ := Transacts.calls hwired hrun hreq hin
  obtain ⟨done, hthins, hdone⟩ := run_call_iff.mp hheard
  exact ⟨hin', heard, done, htold, hunsent, hthins, hdone⟩

/-! ## On an ideal device -/

/-- READ DISC INFORMATION: 34 bytes. -/
def readDiscInformationRequest : BotRequest where
  cdb := [0x51, 0, 0, 0, 0, 0, 0, 0, 34, 0]
  data := some []
  dataLen := 34
  dataIn := true
  wantActualLen := true
  dataLen_lt := by decide

theorem readDiscInformationRequest_wellFormed : readDiscInformationRequest.WellFormed :=
  ⟨by decide, fun _ => rfl, fun hout => by cases hout⟩

theorem Wired.ideal {exec : Command → σ → Response × σ}
    (hmeaning : ∀ c s, c.received.length ≤ c.length → (exec c s).1.Meaningful c) {entry : LaserEntry}
    (hon : entry.On epOut epIn lun) (hne : epIn ≠ epOut) (hlun : entry.lun < 16) :
    Wired (BotDevice.ideal exec epOut epIn) (.ofFun exec hmeaning) epOut epIn lun id :=
  ⟨BotDevice.ideal_conforms hmeaning epOut epIn, BotDevice.ideal_recovers epOut epIn, hne,
    hon.lun_eq ▸ hlun⟩

/-- A READ DISC INFORMATION, on the device that keeps a record. -/
theorem transactions_refine_discInformation : ∃ (calls : List (BotRequest × BotReply))
      (heard : List (BotRequest × Heard (Command × Response)))
      (done : List (BotRequest × (Command × Response))) (e : BotDevice (List Command)),
    calls.map (fun p => p.1.cdb) = [[0x51, 0, 0, 0, 0, 0, 0, 0, 34, 0]] ∧ e.InStep
      ∧ HeardOf calls heard ∧ UnsentLost calls heard ∧ Thins heard done
      ∧ Run ((Target.ofFun _ Command.record_meaningful).Serves 0) [] done e.target := by
  have hon : LaserEntry.On { epIn := 0x81, epOut := 0x02 } 0x02 0x81 0 := ⟨rfl, rfl, rfl⟩
  have hrefines := transactions_refine (Wired.ideal Command.record_meaningful hon (by decide) (by decide))
    (.step .refl (.of_send hon readDiscInformationRequest ⟨[], .ready, false, false, false⟩))
    (List.forall_mem_singleton.mpr readDiscInformationRequest_wellFormed) (.inr ⟨rfl, rfl, rfl, rfl⟩)
  obtain ⟨hin, heard, done, hheard, hunsent, hthins, hdone⟩ := hrefines
  exact ⟨_, heard, done, _, rfl, hin, hheard, hunsent (BotDevice.ideal_candid 0x02 0x81), hthins, hdone⟩

end Liblaser
