import Liblaser.Blocks.Bus
import Liblaser.Blocks.Cancelled
import Liblaser.Scsi.Present
import Liblaser.Scsi.Truthful

/-!
# `Blocks.Complete` — a block read on a bus where nothing fails

`Blocks.Bus` says that what a read returns is right, and would say so of a library that reads nothing.
Here the bus adds no failure of its own (`UsbHost.Untroubled`), the drive passes every read of blocks it
has (`Target.ServesAll`), and nobody cancels: then each command returns, having passed at its first attempt,
the loop never negotiates, and every block that was asked for is read.
-/

namespace Liblaser

open Bytes Loop Service Transition

/-! ## The loop on commands that pass -/

section Delivers

variable {W : Type} {port : ScsiPort W} {I : Sys W → Prop} {drive : Drive} {kind : ReadKind}
  {registered : Bool} {lba : UInt32} {numBlocks : Nat}

/-- In the states `I` the commands of the loop pass in full, and `I` is kept. -/
structure ScsiPort.Delivers (port : ScsiPort W) (I : Sys W → Prop) (drive : Drive) : Prop where
  capped : ∀ s, I s → s.entry.maxTransferBytes ≤ laserMaxBytesPerTransfer
  others : ∀ s, I s → I (port.otherThreads s)
  chunk : ∀ kind lba n s, I s → lba.toNat + n ≤ drive.capacity →
    n * kind.blockSize ≤ laserMaxBytesPerTransfer →
    (port.scsiCdb (ReadKind.call kind lba n) s).1.status = .ok
      ∧ (port.scsiCdb (ReadKind.call kind lba n) s).1.actualLen = some (n * kind.blockSize)
      ∧ I (port.scsiCdb (ReadKind.call kind lba n) s).2

/-- Where the loop is: no negotiation has begun. -/
structure Smooth (I : Sys W → Prop) (numBlocks : Nat) (t : ReadState W) : Prop where
  sys : I t.sys
  untried : t.vars.trialCap = 0
  done_le : t.vars.blocksDone ≤ numBlocks

/-- A turn reads its chunk and goes on, until there is nothing left. -/
theorem readTurn_of_delivers (hdelivers : port.Delivers I drive)
    (hrange : lba.toNat + numBlocks ≤ drive.capacity) (t : ReadState W) (ht : Smooth I numBlocks t) :
    (readTurn port kind registered lba numBlocks t).All (Smooth I numBlocks)
      fun r : ReadResult W => r.ret = numBlocks := by
  by_cases hleft : t.vars.blocksDone < numBlocks
  · obtain ⟨s, chunk, r, s', rfl, hchunk, hres, hturn⟩ :=
      @readTurn_of_lt _ port kind registered lba numBlocks t hleft
    have hs := hdelivers.others _ ht.sys
    have hcapped := (@currentCap_le _ registered t.vars _ (hdelivers.capped _ hs)).1
    have hle := (@nextChunk_spec kind.blockSize (currentCap registered t.vars (port.otherThreads t.sys))
      (numBlocks - t.vars.blocksDone) (by omega)).2.1
    have hsize := @nextChunk_size kind _ (numBlocks - t.vars.blocksDone) (by omega) hcapped
    rw [← hchunk] at hle hsize
    have hlba : (lba + UInt32.ofNat t.vars.blocksDone).toNat = lba.toNat + t.vars.blocksDone := by
      have hcapacity := drive.capacity_lt
      rw [UInt32.toNat_add, UInt32.toNat_ofNat', Nat.mod_eq_of_lt (by omega),
        Nat.mod_eq_of_lt (by omega)]
    obtain ⟨hok, hactual, hs'⟩ := hdelivers.chunk kind (lba + UInt32.ofNat t.vars.blocksDone) chunk
      (port.otherThreads t.sys) hs (by omega) hsize
    rw [hres] at hok hactual hs'
    rw [hturn]
    dsimp only
    rw [if_neg (not_not_intro hok), hactual, Option.getD_some]
    unfold chunkRead
    dsimp only
    rw [if_neg (not_not_intro rfl), if_neg (by simp [ht.untried])]
    exact ⟨hs', ht.untried, by dsimp only; omega⟩
  · have hdone := ht.done_le
    unfold readTurn
    rw [if_neg hleft]
    show ((t.vars.blocksDone : Nat) : Int) = numBlocks
    omega

/-- **So the loop reads everything.** -/
theorem ScsiPort.Delivers.readChunked (hdelivers : port.Delivers I drive) {fuel : Nat}
    {memory : Nat → UInt8} {s : Sys W} {r : ReadResult W} (hs : I s)
    (hrange : lba.toNat + numBlocks ≤ drive.capacity)
    (hrun : Liblaser.readChunked port kind fuel lba numBlocks memory s = some r) :
    r.ret = numBlocks := by
  unfold Liblaser.readChunked at hrun
  split at hrun
  · next hnone =>
      cases hrun
      show (0 : Int) = numBlocks
      omega
  · exact iterate_all (I := Smooth I numBlocks) (Q := fun r : ReadResult W => r.ret = numBlocks)
      (readTurn_of_delivers hdelivers hrange) ⟨hs, rfl, Nat.zero_le _⟩ hrun

end Delivers

/-! ## Over a bus without failures -/

section Untroubled

variable {σ U : Type} {usb : UsbHost U} {clock : U → Timespec × U} {poll : U → Bool × U} {T : Target σ}
  {view : U → BotDevice σ} {epOut epIn lun : UInt8} {drive : Drive} {port : ScsiPort U} {s t : Sys U}

/-- The unit serves its medium: it passes every read of blocks the medium has, and sends all of them. -/
def Target.ServesAll (T : Target σ) (lun : UInt8) (drive : Drive) : Prop :=
  ∀ s t c a kind lba n, T.step s (c, a) t → c.lun = lun → c.dataIn = true →
    decodeRead c.cb = some (kind, lba, n) → c.length = n * kind.blockSize → lba + n ≤ drive.capacity →
    a.status = usbBotStatusPass ∧ a.count c = c.length

/-- A bus and a thread of the caller's on which nothing comes between a command and its answer. -/
structure Calm (usb : UsbHost U) (poll : U → Bool × U) (epOut epIn : UInt8) (view : U → BotDevice σ) :
    Prop where
  untroubled : usb.Untroubled epOut epIn view
  uncancelled : ∀ u, (poll u).1 = false

/-- The unit passes the command, whatever it has done before. -/
def Target.Passes (T : Target σ) (lun : UInt8) (req : BotRequest) : Prop :=
  ∀ s t c a, T.Serves lun s (req, (c, a)) t → a.status = usbBotStatusPass

/-- Such a command passes on the wire. -/
theorem Target.Passes.outcome {req : BotRequest} {entry : LaserEntry} {u : U}
    (hpasses : T.Passes lun req) (hwired : Wired usb T epOut epIn lun view)
    (hquiet : usb.Untroubled epOut epIn view) (hreq : req.Sendable) (hon : entry.On epOut epIn lun)
    (hidle : (view u).Idle) : (laserBotSendLocked usb entry req u).1.outcome = .pass := by
  obtain ⟨rfl, rfl, rfl⟩ := hon
  obtain ⟨hwell, hfit⟩ := hreq
  obtain ⟨c, a, hserved, hcarries, -⟩ := laserBotSendLocked_answered hwired.conforms hwired.recovers hquiet
    hwired.endpoints hwired.lun_lt hwell hfit hidle
  rw [hcarries.outcome, hpasses _ _ c a hserved]
  rfl

/-- **So it passes at the first attempt**, and the call returns. -/
theorem Sys.Up.passed (hwired : Wired usb T epOut epIn lun view) (hunseen : Unseen clock poll view)
    (hcalm : Calm usb poll epOut epIn view) {call : CdbCall} (hpasses : T.Passes lun call.request)
    (hvalid : call.valid = true) (hbuffer : call.Buffered)
    (hcss : laserCdbChangesCssState call.cdb = false) (hup : s.Up epOut epIn lun view) :
    ∃ r t, Returns (Host.ofUsb usb clock poll) call s r t ∧ r.status = .ok := by
  have hcheck := precheck_of_ready (h := Host.ofUsb usb clock poll) hvalid hup.registered hcss
    (hcalm.uncancelled s.world) hup.present
  have hidle : (view (s.isCancelled (Host.ofUsb usb clock poll)).2.world).Idle := by
    show (view (poll s.world).2).Idle
    rw [hunseen.poll]
    exact hup.idle
  have hon : (s.isCancelled (Host.ofUsb usb clock poll)).2.entry.On epOut epIn lun := hup.on
  generalize (s.isCancelled (Host.ofUsb usb clock poll)).2 = s₀ at hcheck hidle hon
  obtain ⟨trace, hattempt⟩ := attemptOf_ofUsb usb clock poll call s₀
  have hpass : (attemptOf (Host.ofUsb usb clock poll) call s₀).1.outcome = .pass := by
    rw [hattempt]
    refine hpasses.outcome hwired hcalm.untroubled
      (CdbSends.sendable hvalid hbuffer _ _ .command) hon ?_
    rw [hunseen.clock, hunseen.poll]
    exact hidle
  have hpoll : (s₀.isCancelled (Host.ofUsb usb clock poll)).1 = false := hcalm.uncancelled s₀.world
  obtain ⟨started, hdone⟩ := cdbTurn_of_passed (v := {}) (by decide) hpoll hpass
  -- the first turn ends the call
  have hin : InLoop (Host.ofUsb usb clock poll) call s 0 {} s₀ := by
    unfold InLoop
    rw [hcheck]
    exact ⟨rfl, .start⟩
  have hret := hin.returns hdone
  rw [conclude_of_ok rfl] at hret
  exact ⟨_, _, hret, rfl⟩

/-- A chunk on the medium, no longer than the largest transfer. -/
structure OnMedium (drive : Drive) (kind : ReadKind) (lba : UInt32) (n : Nat) : Prop where
  range : lba.toNat + n ≤ drive.capacity
  size : n * kind.blockSize ≤ laserMaxBytesPerTransfer

theorem OnMedium.dataLen {kind : ReadKind} {lba : UInt32} {n : Nat} (hon : OnMedium drive kind lba n) :
    (ReadKind.call kind lba n).dataLen = (n * kind.blockSize : Nat) := by
  have hsize := hon.size
  unfold laserMaxBytesPerTransfer at hsize
  simp only [ReadKind.call, cInt_of_lt (show n * kind.blockSize < 2 ^ 31 by omega)]

theorem OnMedium.lt {kind : ReadKind} {lba : UInt32} {n : Nat} (hon : OnMedium drive kind lba n) :
    n < 2 ^ 16 := by
  have hsize := hon.size
  have hbs : 2048 ≤ kind.blockSize := by cases kind <;> simp [ReadKind.blockSize]
  have hmul : n * 2048 ≤ n * kind.blockSize := Nat.mul_le_mul_left n hbs
  simp only [laserMaxBytesPerTransfer] at hsize
  omega

theorem OnMedium.passes (hserves : T.ServesAll lun drive) {kind : ReadKind} {lba : UInt32} {n : Nat}
    (hmedium : OnMedium drive kind lba n) {s t : σ} {c : Command} {a : Response}
    (hserved : T.Serves lun s ((ReadKind.call kind lba n).request, (c, a)) t) :
    a.status = usbBotStatusPass ∧ a.count c = n * kind.blockSize := by
  obtain ⟨⟨received, -, hcommand⟩, hstep⟩ := hserved
  obtain rfl : c = (ReadKind.call kind lba n).request.command lun received := hcommand
  have hlen : ((ReadKind.call kind lba n).request.command lun received).length = n * kind.blockSize := by
    simp only [BotRequest.command, CdbCall.request, hmedium.dataLen, Int.toNat_natCast]
  obtain ⟨hstatus, hcount⟩ := hserves _ _ _ _ kind lba.toNat n hstep rfl rfl
    (decodeRead_buildCdb kind lba hmedium.lt) hlen hmedium.range
  exact ⟨hstatus, hcount.trans hlen⟩

/-- **A chunk is read at the first attempt.** -/
theorem Sys.Up.chunk (hwired : Wired usb T epOut epIn lun view) (hunseen : Unseen clock poll view)
    (hcalm : Calm usb poll epOut epIn view) (hserves : T.ServesAll lun drive) {kind : ReadKind}
    {lba : UInt32} {n : Nat} {r : CdbResult} (hmedium : OnMedium drive kind lba n)
    (hup : s.Up epOut epIn lun view)
    (hgiven : ReturnsOrHangs (Host.ofUsb usb clock poll) (ReadKind.call kind lba n) s r t) :
    r.status = .ok ∧ r.actualLen = some (n * kind.blockSize) ∧ t.Up epOut epIn lun view := by
  have hbuffer : (ReadKind.call kind lba n).Buffered := fun hout => by cases hout
  obtain ⟨r', t', hret, hok⟩ := hup.passed hwired hunseen hcalm
    (fun _ _ _ _ hserved => (hmedium.passes hserves hserved).1) (ReadKind.call_valid hmedium.size) hbuffer
    (buildCdb_not_css kind lba n)
  obtain ⟨rfl, rfl⟩ := hgiven.unique hret
  obtain ⟨c, a, earlier, hrun, -, hreports⟩ := hret.truthful_ok hwired hunseen hbuffer hup.at hok
  refine ⟨hok, ?_, (hret.keeps_up hwired hunseen hcalm.untroubled hbuffer hup).1⟩
  cases hrun with
  | step _ hserved => rw [hreports.count rfl, (hmedium.passes hserves hserved).2]

/-- So the port delivers, as long as other threads leave things as they are. -/
theorem ScsiPort.OverBus.delivers (hwired : Wired usb T epOut epIn lun view)
    (hunseen : Unseen clock poll view) (hcalm : Calm usb poll epOut epIn view)
    (hserves : T.ServesAll lun drive)
    (hbus : port.OverBus (Host.ofUsb usb clock poll) epOut epIn lun view)
    (hothers : ∀ s, s.Up epOut epIn lun view → (port.otherThreads s).Up epOut epIn lun view) :
    port.Delivers (fun s => s.Up epOut epIn lun view) drive where
  capped _ hup := hup.capped
  others := hothers
  chunk kind lba n s hup hrange hsize :=
    hup.chunk hwired hunseen hcalm hserves ⟨hrange, hsize⟩ (hbus.runs kind lba n s hup.at)

/-- **Every block is read.** On a bus that adds no failure of its own, from a drive that serves its
    medium, and with nobody cancelling, a read of blocks the medium has returns their number, and they are
    in the buffer. -/
theorem blockReads_complete (hwired : Wired usb T epOut epIn lun view)
    (hunseen : Unseen clock poll view) (hcalm : Calm usb poll epOut epIn view)
    (hholds : T.Holds lun drive) (hserves : T.ServesAll lun drive)
    (hbus : port.OverBus (Host.ofUsb usb clock poll) epOut epIn lun view)
    (hothers : ∀ s, s.Up epOut epIn lun view → (port.otherThreads s).Up epOut epIn lun view)
    (lba : UInt32) (numBlocks : Nat) (memory : Nat → UInt8) (s : Sys U)
    (hup : s.Up epOut epIn lun view) (hrange : lba.toNat + numBlocks ≤ drive.capacity) :
    (∃ fuel r, laserReadBlocks port fuel lba numBlocks memory s = some r ∧ r.ret = numBlocks
        ∧ ExactRead drive .read10 lba numBlocks memory r.ret r.memory)
      ∧ ∀ (sectorType : Int) kind, readCdKind sectorType = some kind →
        ∃ fuel r, laserReadCdBlocks port fuel lba numBlocks sectorType memory s = some r
          ∧ r.ret = numBlocks ∧ ExactRead drive kind lba numBlocks memory r.ret r.memory := by
  have hdelivers := hbus.delivers hwired hunseen hcalm hserves hothers
  have hread : ∀ kind, ∃ fuel r, readChunked port kind fuel lba numBlocks memory s = some r
      ∧ r.ret = numBlocks ∧ ExactRead drive kind lba numBlocks memory r.ret r.memory := by
    intro kind
    obtain ⟨fuel, r, hrun, hexact, -⟩ := readChunked_exact_over_bus hwired hunseen hbus hholds kind lba
      numBlocks memory hup.at hup.capped
    exact ⟨fuel, r, hrun, hdelivers.readChunked hup hrange hrun, hexact⟩
  refine ⟨hread .read10, ?_⟩
  intro sectorType kind hkind
  unfold laserReadCdBlocks
  rw [hkind]
  exact hread kind

/-! ## On a drive that serves its medium -/

theorem Drive.ServedBy.servesAll {exec : Command → σ → Response × σ}
    {hmeaning : ∀ c s, c.received.length ≤ c.length → (exec c s).1.Meaningful c}
    (hserved : drive.ServedBy exec) (lun : UInt8) :
    (Target.ofFun exec hmeaning).ServesAll lun drive := by
  rintro s t c a kind lba n ⟨-, heq⟩ - hin hdecode hlen hrange
  obtain rfl : drive.answer c = a :=
    (hserved c s (.inl (by simp [hdecode]))).symm.trans (congrArg Prod.fst heq)
  rw [Drive.answer_read hin hdecode hlen, if_pos hrange]
  refine ⟨rfl, ?_⟩
  simp [Response.count, Response.full, hlen]

theorem BotDevice.ideal_calm (exec : Command → σ → Response × σ) (epOut epIn : UInt8) :
    Calm (BotDevice.ideal exec epOut epIn) (fun d => (false, d)) epOut epIn id :=
  ⟨BotDevice.ideal_untroubled _ _ _, fun _ => rfl⟩

/-- The last eighty blocks of a medium of 100. -/
theorem blockReads_complete_to_end :
    let drive : Drive := ⟨100, by decide, fun _ block offset => UInt8.ofNat (block + offset)⟩
    let s : Sys (BotDevice Unit) :=
      ⟨{ inUse := true, epIn := 0x81, epOut := 0x02, maxTransferBytes := laserMaxBytesPerTransfer },
        ⟨(), .ready, false, false, false⟩, []⟩
    ∃ fuel r, laserReadBlocks (.ideal drive.exec 0x02 0x81) fuel 20 80 (fun _ => 0) s = some r ∧ r.ret = 80
      ∧ ExactRead drive .read10 20 80 (fun _ => 0) r.ret r.memory := by
  intro drive s
  have hon : s.entry.On 0x02 0x81 0 := ⟨rfl, rfl, rfl⟩
  have hwired : drive.Plugged 0x02 0x81 0 :=
    Wired.ideal (fun c _ => drive.answer_meaningful c) hon (by decide) (by decide)
  exact (blockReads_complete hwired ⟨fun _ => rfl, fun _ => rfl⟩ (BotDevice.ideal_calm _ _ _)
    (drive.servedBy_exec.holds 0) (drive.servedBy_exec.servesAll 0) (drive.servedBy_exec.overBus hwired)
    (fun _ hup => hup) 20 80 (fun _ => 0) s ⟨hon, ⟨rfl, rfl, rfl, rfl⟩, rfl, rfl, by decide⟩ (by decide)).1

end Untroubled

end Liblaser
