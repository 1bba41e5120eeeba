import Liblaser.Blocks.Chunked
import Liblaser.Bot.Answered
import Liblaser.Scsi.Delivered

/-!
# `Scsi.Ideal` — commands on a device that never fails

`Bot.Ideal` is a device that can be run; this is `laser_scsi_cdb()` on it, on a clock that stands still and
with nobody cancelling. A command that the device passes, or that finds it gone, ends with its first turn
(**`Host.ideal_turn_done`**), so such commands make a port (**`ScsiPort.ideal_runs`**).
-/

namespace Liblaser

open Bytes Loop Service Transition

section Wire

variable {σ U : Type} {usb : UsbHost U} {T : Target σ} {view : U → BotDevice σ}

/-- An attempt, as the transaction it is. -/
theorem attemptOf_ofUsb (usb : UsbHost U) (clock : U → Timespec × U) (poll : U → Bool × U)
    (call : CdbCall) (s : Sys U) :
    ∃ trace, attemptOf (Host.ofUsb usb clock poll) call s
      = ((laserBotSendLocked usb s.entry call.request (clock (poll s.world).2).2).1,
        ⟨{ s.entry with
            bot := (laserBotSendLocked usb s.entry call.request (clock (poll s.world).2).2).1.bot },
          (laserBotSendLocked usb s.entry call.request (clock (poll s.world).2).2).2.usb, trace⟩) :=
  ⟨_, rfl⟩

/-- A transaction with a device that has left finds no device. -/
theorem laserBotSendLocked_gone {entry : LaserEntry} {req : BotRequest} {u : U}
    (hconf : usb.Conforms T entry.epOut entry.epIn view) (hfit : req.cdb.length ≤ cbwcbSize)
    (hgone : (view u).gone = true) : (laserBotSendLocked usb entry req u).1.outcome = .noDevice := by
  unfold laserBotSendLocked
  rw [if_neg (Nat.not_lt_of_le hfit)]
  dsimp only
  have hres := (cbwPhase_of_gone entry.nextTag (mkCbw entry.nextTag req entry.nextTag.bot.tag) ⟨u, []⟩
    hconf hgone).1
  generalize cbwPhase usb entry.nextTag _ ⟨u, []⟩ = phase at hres
  obtain ⟨res, b⟩ := phase
  obtain rfl : res = .error .noDevice := hres
  rfl

end Wire

variable {σ : Type} {exec : Command → σ → Response × σ} {epOut epIn lun : UInt8} {call : CdbCall}
  {s : Sys (BotDevice σ)} {hmeaning : ∀ c s, c.received.length ≤ c.length → (exec c s).1.Meaningful c}

/-- The host of an ideal device. -/
def Host.ideal (exec : Command → σ → Response × σ) (epOut epIn : UInt8) : Host (BotDevice σ) :=
  Host.ofUsb (BotDevice.ideal exec epOut epIn) (fun d => (⟨0, 0⟩, d)) fun d => (false, d)

/-- A transaction of a Data-In command: the device's answer comes back. -/
theorem BotDevice.ideal_transaction {entry : LaserEntry} {req : BotRequest} {d : BotDevice σ}
    (hwired : Wired (BotDevice.ideal exec epOut epIn) (.ofFun exec hmeaning) epOut epIn lun id)
    (hon : entry.On epOut epIn lun) (hreq : req.WellFormed) (hfit : req.cdb.length ≤ cbwcbSize)
    (hdir : req.dataIn = true) (hwant : req.wantActualLen = true) (hidle : d.Idle) :
    ∃ reply b, laserBotSendLocked (BotDevice.ideal exec epOut epIn) entry req d = (reply, b)
      ∧ b.usb.Idle
      ∧ reply.outcome = statusOutcome (exec (req.command lun []) d.target).1.status
      ∧ ((exec (req.command lun []) d.target).1.status = usbBotStatusPass →
        reply.actualLen = some ((exec (req.command lun []) d.target).1.count (req.command lun []))
          ∧ reply.data = (exec (req.command lun []) d.target).1.sent) := by
  obtain ⟨rfl, rfl, rfl⟩ := hon
  obtain ⟨c, a, ⟨⟨received, hprefix, hcommand⟩, -, heq⟩, ⟨houtcome, htells⟩, hidle'⟩ :=
    laserBotSendLocked_answered hwired.conforms hwired.recovers (BotDevice.ideal_untroubled _ _ _)
      hwired.endpoints hwired.lun_lt hreq hfit hidle
  have hnone : received = [] := by
    have hempty : req.out = [] := if_pos hdir
    rw [show (req, c, a).1.out = req.out from rfl, hempty] at hprefix
    exact List.prefix_nil.mp hprefix
  subst hnone
  obtain rfl : c = req.command entry.lun [] := hcommand
  obtain rfl : (exec (req.command entry.lun []) d.target).1 = a := congrArg Prod.fst heq
  refine ⟨_, _, rfl, hidle', houtcome, ?_⟩
  intro hpass
  have hanswer := htells (by rw [hpass]; decide)
  cases hanswer with
  | answer _ _ hcount hdata =>
      rw [if_pos hwant] at hcount
      exact ⟨hcount, hdata hdir⟩

/-- The attempt of a Data-In command, likewise. -/
theorem Host.ideal_attempt
    (hwired : Wired (BotDevice.ideal exec epOut epIn) (.ofFun exec hmeaning) epOut epIn lun id)
    (hon : s.entry.On epOut epIn lun) (hreq : call.request.WellFormed) (hvalid : call.valid = true)
    (hdir : call.dataIn = true) (hwant : call.wantActualLen = true) (hidle : s.world.Idle) :
    (attemptOf (Host.ideal exec epOut epIn) call s).1.outcome
        = statusOutcome (exec (call.request.command lun []) s.world.target).1.status
      ∧ (attemptOf (Host.ideal exec epOut epIn) call s).2.entry.On epOut epIn lun
      ∧ (attemptOf (Host.ideal exec epOut epIn) call s).2.world.Idle := by
  obtain ⟨reply, b, hsend, hidle', houtcome, -⟩ :=
    BotDevice.ideal_transaction hwired hon hreq (CdbCall.fits_of_valid hvalid) hdir hwant hidle
  obtain ⟨trace, hattempt⟩ := attemptOf_ofUsb (BotDevice.ideal exec epOut epIn) (fun d => (⟨0, 0⟩, d))
    (fun d => (false, d)) call s
  have hattempt : attemptOf (Host.ideal exec epOut epIn) call s = _ := hattempt
  dsimp only at hattempt
  rw [hsend] at hattempt
  rw [hattempt]
  exact ⟨houtcome, ⟨hon.epOut_eq, hon.epIn_eq, hon.lun_eq⟩, hidle'⟩

/-- **One turn is enough** for a Data-In command that the device passes, and on a device that is gone. -/
theorem Host.ideal_turn_done
    (hwired : Wired (BotDevice.ideal exec epOut epIn) (.ofFun exec hmeaning) epOut epIn lun id)
    (hreq : call.request.WellFormed) (hvalid : call.valid = true) (hdir : call.dataIn = true)
    (hwant : call.wantActualLen = true) (hat : s.At epOut epIn lun id)
    (hpasses : s.world.Idle →
      (exec (call.request.command lun []) s.world.target).1.status = usbBotStatusPass) :
    ∃ p, cdbTurn (Host.ideal exec epOut epIn) call ({}, s) = .done p := by
  have hle : ({} : CdbVars).attempt ≤ laserMaxRetries := by decide
  have hpoll : (s.isCancelled (Host.ideal exec epOut epIn)).1 = false := rfl
  rcases hat.inStep with hgone | hidle
  · obtain ⟨trace, hattempt⟩ := attemptOf_ofUsb (BotDevice.ideal exec epOut epIn)
      (fun d => (⟨0, 0⟩, d)) (fun d => (false, d)) call s
    have hattempt : attemptOf (Host.ideal exec epOut epIn) call s = _ := hattempt
    obtain ⟨rfl, rfl, rfl⟩ := hat.on
    obtain ⟨started, hturn⟩ := cdbTurn_of_asked call hle hpoll
    rw [hattempt] at hturn
    dsimp only at hturn
    rw [laserBotSendLocked_gone hwired.conforms (CdbCall.fits_of_valid hvalid) hgone] at hturn
    exact ⟨_, hturn⟩
  · have hpass := (Host.ideal_attempt hwired hat.on hreq hvalid hdir hwant hidle).1
    rw [hpasses hidle] at hpass
    obtain ⟨started, hturn⟩ := cdbTurn_of_passed hle hpoll hpass
    exact ⟨_, hturn⟩

/-- The port over an ideal device, for commands that end in their first turn. -/
def ScsiPort.ideal (exec : Command → σ → Response × σ) (epOut epIn : UInt8) :
    ScsiPort (BotDevice σ) where
  scsiCdb call s := (laserScsiCdb (Host.ideal exec epOut epIn) 1 call s).getD (⟨.errIo, none, []⟩, s)
  otherThreads s := s

/-- Such commands return. -/
theorem ScsiPort.ideal_runs (hat : s.At epOut epIn lun id)
    (hdone : ∀ t : Sys (BotDevice σ), call.valid = true → t.At epOut epIn lun id →
      ∃ p, cdbTurn (Host.ideal exec epOut epIn) call ({}, t) = .done p) :
    Returns (Host.ideal exec epOut epIn) call s ((ScsiPort.ideal exec epOut epIn).scsiCdb call s).1
      ((ScsiPort.ideal exec epOut epIn).scsiCdb call s).2 := by
  have hone : ∃ p, laserScsiCdb (Host.ideal exec epOut epIn) 1 call s = some p := by
    have hin : (precheck (Host.ideal exec epOut epIn) call s).1 = none →
        InLoop (Host.ideal exec epOut epIn) call s 0 {} (precheck (Host.ideal exec epOut epIn) call s).2 :=
      fun hnone => ⟨hnone, .start⟩
    have hat' : (precheck (Host.ideal exec epOut epIn) call s).2.At epOut epIn lun id := by
      rcases precheck_spec (Host.ideal exec epOut epIn) call s with heq | heq
      · rw [heq]
        exact hat
      · rw [heq]
        exact ⟨hat.on, hat.inStep⟩
    unfold laserScsiCdb
    generalize precheck (Host.ideal exec epOut epIn) call s = pre at hin hat'
    obtain ⟨_ | st, s₀⟩ := pre
    · obtain ⟨p, hturn⟩ := hdone s₀ (hin rfl).valid hat'
      simp only [iterate, hturn]
      exact ⟨_, rfl⟩
    · exact ⟨_, rfl⟩
  obtain ⟨p, hp⟩ := hone
  refine ⟨1, ?_⟩
  simp only [ideal, hp, Option.getD_some]

end Liblaser
