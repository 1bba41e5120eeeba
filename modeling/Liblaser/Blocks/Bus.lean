import Liblaser.Blocks.Drive
import Liblaser.Scsi.Ideal

/-!
# `Blocks.Bus` — block reads, from the caller's buffer to the bytes on the wire

`Blocks.Exact` reads from a port and `Blocks.Drive` from a host of transactions; both say what the drive
answers. Here nothing is said of answers any more: there is a device on a bus, as the Bulk-Only
specification has it (`UsbHost.Conforms`), and behind it a target with a medium in it (`Target.Holds`).
Between that target and the caller's buffer lie the transport, the retries and the chunked loop.

**`blockReads_exact_over_bus`**: whatever transfers fail, on a bus where a Reset Recovery takes effect
(`UsbHost.Recovers`), the blocks a read says it read are in the buffer and are those of the medium, and the
device is in step afterwards. A command that never returns is stood in for by a plain failure
(`ReturnsOrHangs`). That a read on a bus without failures reads everything is `Blocks.Complete`.
-/

namespace Liblaser

open Bytes Loop Service Transition

variable {σ U : Type} {usb : UsbHost U} {clock : U → Timespec × U} {poll : U → Bool × U} {T : Target σ}
  {view : U → BotDevice σ} {epOut epIn lun : UInt8} {drive : Drive} {port : ScsiPort U} {s t : Sys U}

/-! ## The medium behind a unit -/

/-- A unit with the medium in it: what it passes of a read is of blocks the medium has, and what counts
    of the bytes it sends is theirs. -/
def Target.Holds (T : Target σ) (lun : UInt8) (drive : Drive) : Prop :=
  ∀ s t c a kind lba n, T.step s (c, a) t → c.lun = lun → c.dataIn = true →
    a.status = usbBotStatusPass → decodeRead c.cb = some (kind, lba, n) →
    c.length = n * kind.blockSize → lba + n ≤ drive.capacity ∧ ∀ i < a.count c,
      a.sent[i]? = some (drive.byte kind (lba + i / kind.blockSize) (i % kind.blockSize))

/-- **A transaction with the unit** is one the drive may make. -/
theorem laserBotSendLocked_transacts (hwired : Wired usb T epOut epIn lun view)
    (hholds : T.Holds lun drive) {entry : LaserEntry} {req : BotRequest} {u : U}
    (hon : entry.On epOut epIn lun) (hin : (view u).InStep) (hreq : req.WellFormed)
    (hdir : req.dataIn = true) (hwant : req.wantActualLen = true) :
    drive.Transacts req (laserBotSendLocked usb entry req u).1 := by
  obtain ⟨rfl, rfl, rfl⟩ := hon
  refine ⟨laserBotSendLocked_stored usb entry req u, ?_⟩
  intro hpass kind lba n hdecode hlen
  obtain ⟨-, heard, htells, hcall, -⟩ :=
    laserBotSendLocked_refines hwired.conforms hwired.recovers hwired.endpoints hwired.lun_lt hreq hin
  cases htells with
  | @answer c a _ houtcome hcount hdata =>
      have hstatus : a.status = usbBotStatusPass := by
        rw [hpass] at houtcome
        split at houtcome
        · assumption
        · cases houtcome
      cases hcall with
      | answered hstep =>
          obtain ⟨⟨received, -, hcommand⟩, hstep⟩ := hstep
          obtain rfl : c = req.command entry.lun received := hcommand
          obtain ⟨hrange, hbytes⟩ := hholds _ _ _ _ kind lba n hstep rfl hdir hstatus hdecode hlen
          have hle := (T.meaningful hstep).count_le
          rw [if_pos hwant] at hcount
          refine ⟨hrange, _, hlen ▸ hle, hcount, ?_⟩
          rw [hdata hdir]
          exact hbytes
  | lost houtcome =>
      rw [hpass] at houtcome
      cases houtcome
  | unknown houtcome =>
      rw [hpass] at houtcome
      rcases houtcome with houtcome | houtcome | ⟨_, houtcome⟩ <;> cases houtcome

/-! ## The commands of the loop -/

/-- One of the commands the loop sends. -/
def CdbCall.IsChunk (call : CdbCall) : Prop := ∃ kind lba n, call = ReadKind.call kind lba n

/-- All that a chunk's command sends is well-formed. -/
theorem CdbCall.IsChunk.sends {call : CdbCall} (hchunk : call.IsChunk) (hvalid : call.valid = true)
    (sender : Sender) (req : BotRequest) (hsends : CdbSends call sender req) : req.WellFormed := by
  obtain ⟨kind, lba, n, rfl⟩ := hchunk
  exact CdbCall.sends_wellFormed hvalid (fun hout => by cases hout) sender req hsends

/-- The attempts of a chunk's command are served by the unit. -/
theorem CdbCall.IsChunk.servedBy (hwired : Wired usb T epOut epIn lun view)
    (hunseen : Unseen clock poll view) (hholds : T.Holds lun drive) {call : CdbCall}
    (hchunk : call.IsChunk) (hat : s.At epOut epIn lun view) :
    ServedBy drive (Host.ofUsb usb clock poll) call s := by
  intro n v t hin
  obtain ⟨hon, hstep⟩ := (hin.steps.served hwired hunseen (hchunk.sends hin.valid) hat).1
  have hwell := hchunk.sends hin.valid _ _ .command
  have hstep' : (view (clock (poll t.world).2).2).InStep := by
    rw [hunseen.clock, hunseen.poll]
    exact hstep
  have hdir : call.request.dataIn = true ∧ call.request.wantActualLen = true := by
    obtain ⟨kind, lba, m, rfl⟩ := hchunk
    exact ⟨rfl, rfl⟩
  exact laserBotSendLocked_transacts hwired hholds hon hstep' hwell hdir.1 hdir.2

/-! ## The loop, on the states it comes through -/

/-- What the loop needs of the port in a set of states `I`: its commands and the other threads lead from
    one to another. -/
structure ScsiPort.StaysIn {W : Type} (port : ScsiPort W) (I : Sys W → Prop) : Prop where
  chunk : ∀ kind lba n s, I s → I (port.scsiCdb (ReadKind.call kind lba n) s).2
  others : ∀ s, I s → I (port.otherThreads s)
  lowered : ∀ bytes s, I s → I (lowerTransferCap bytes s)

section Within

variable {W : Type} {port : ScsiPort W} {I : Sys W → Prop} {kind : ReadKind} {registered : Bool}
  {lba : UInt32} {numBlocks : Nat}

theorem ScsiPort.StaysIn.readTurn (hstays : port.StaysIn I) (t : ReadState W) (ht : I t.sys) :
    (Liblaser.readTurn port kind registered lba numBlocks t).All (fun u => I u.sys)
      fun r => I r.sys := by
  by_cases hleft : t.vars.blocksDone < numBlocks
  · obtain ⟨s, chunk, r, s', rfl, -, hres, hturn⟩ :=
      @readTurn_of_lt _ port kind registered lba numBlocks t hleft
    have hs' := hstays.chunk kind (lba + UInt32.ofNat t.vars.blocksDone) chunk _ (hstays.others _ ht)
    rw [hres] at hs'
    rw [hturn]
    dsimp only
    split
    · unfold chunkFailed
      dsimp only
      split
      · exact hs'
      · split
        · exact hs'
        · exact hs'
    · unfold chunkRead
      dsimp only
      split
      · exact hs'
      · split
        · exact hstays.lowered _ _ (hstays.others _ hs')
        · exact hs'
  · unfold Liblaser.readTurn
    rw [if_neg hleft]
    exact ht

open Classical in
/-- The port in these states; in any other nothing happens. -/
noncomputable def ScsiPort.within (port : ScsiPort W) (I : Sys W → Prop) : ScsiPort W where
  scsiCdb call s := if I s ∧ call.IsChunk then port.scsiCdb call s else (⟨.errRefused, none, []⟩, s)
  otherThreads s := if I s then port.otherThreads s else s

/-- The loop does not notice. -/
theorem ScsiPort.StaysIn.readTurn_within (hstays : port.StaysIn I) (t : ReadState W) (ht : I t.sys) :
    Liblaser.readTurn (port.within I) kind registered lba numBlocks t
      = Liblaser.readTurn port kind registered lba numBlocks t := by
  have hothers : ∀ s, I s → (port.within I).otherThreads s = port.otherThreads s := fun s hs => if_pos hs
  have hcdb : ∀ kind lba n s, I s →
      (port.within I).scsiCdb (ReadKind.call kind lba n) s = port.scsiCdb (ReadKind.call kind lba n) s :=
    fun kind lba n s hs => if_pos ⟨hs, kind, lba, n, rfl⟩
  by_cases hleft : t.vars.blocksDone < numBlocks
  · obtain ⟨s, chunk, r, s', rfl, rfl, hres, hturn⟩ :=
      @readTurn_of_lt _ port kind registered lba numBlocks t hleft
    obtain ⟨s, chunk, r', s'', rfl, rfl, hres', hturn'⟩ :=
      @readTurn_of_lt _ (port.within I) kind registered lba numBlocks t hleft
    have hs := hstays.others _ ht
    rw [hothers _ ht, hcdb _ _ _ _ hs, hres] at hres'
    have hs' : I s' := by
      have hkept := hstays.chunk kind (lba + UInt32.ofNat t.vars.blocksDone) (nextChunk kind.blockSize
        (currentCap registered t.vars (port.otherThreads t.sys)) (numBlocks - t.vars.blocksDone)) _ hs
      rwa [hres] at hkept
    obtain ⟨rfl, rfl⟩ := Prod.mk.inj hres'
    rw [hturn, hturn', hothers _ ht]
    dsimp only
    split
    · rfl
    · unfold chunkRead
      dsimp only
      rw [hothers _ hs']
  · unfold Liblaser.readTurn
    rw [if_neg hleft, if_neg hleft]

/-- The whole read, from such a state. -/
theorem ScsiPort.StaysIn.readChunked_within (hstays : port.StaysIn I) (kind : ReadKind) (fuel : Nat)
    (lba : UInt32) (numBlocks : Int) (memory : Nat → UInt8) (s : Sys W) (hs : I s) :
    readChunked (port.within I) kind fuel lba numBlocks memory s
      = readChunked port kind fuel lba numBlocks memory s := by
  unfold readChunked
  split
  · rfl
  · refine iterate_congr (I := fun t : ReadState W => I t.sys) hstays.readTurn_within ?_ hs
    intro t u ht hb
    have hturn := @ScsiPort.StaysIn.readTurn _ port I kind s.entry.inUse lba numBlocks.toNat hstays t ht
    rwa [hb] at hturn

theorem ScsiPort.StaysIn.readChunked (hstays : port.StaysIn I) {fuel : Nat} {numBlocks : Int}
    {memory : Nat → UInt8} {s : Sys W} {r : ReadResult W} (hs : I s)
    (hrun : Liblaser.readChunked port kind fuel lba numBlocks memory s = some r) : I r.sys := by
  unfold Liblaser.readChunked at hrun
  split at hrun
  · cases hrun
    exact hs
  · exact iterate_all (I := fun t : ReadState W => I t.sys) (Q := fun r : ReadResult W => I r.sys)
      hstays.readTurn hs hrun

end Within

/-! ## Over the bus -/

/-- The port is `laser_scsi_cdb()` over this host, for reads of the unit; other threads leave the device in
    step and only ever lower the transfer cap. -/
structure ScsiPort.OverBus (port : ScsiPort U) (h : Host U) (epOut epIn lun : UInt8)
    (view : U → BotDevice σ) : Prop where
  runs : ∀ kind lba n s, s.At epOut epIn lun view → ReturnsOrHangs h (ReadKind.call kind lba n) s
    (port.scsiCdb (ReadKind.call kind lba n) s).1 (port.scsiCdb (ReadKind.call kind lba n) s).2
  others_at : ∀ s, s.At epOut epIn lun view → (port.otherThreads s).At epOut epIn lun view
  others_cap : ∀ s, s.At epOut epIn lun view →
    (port.otherThreads s).entry.maxTransferBytes ≤ s.entry.maxTransferBytes

theorem lowerTransferCap_at (bytes : Nat) (hat : s.At epOut epIn lun view) :
    (lowerTransferCap bytes s).At epOut epIn lun view := by
  unfold lowerTransferCap
  split
  · exact ⟨⟨hat.on.epOut_eq, hat.on.epIn_eq, hat.on.lun_eq⟩, hat.inStep⟩
  · exact hat

/-- A command leaves the device in step; one that hangs leaves it to no one. -/
theorem ReturnsOrHangs.at_end (hwired : Wired usb T epOut epIn lun view)
    (hunseen : Unseen clock poll view) {call : CdbCall} {r : CdbResult} (hbuffer : call.Buffered)
    (hat : s.At epOut epIn lun view) (hgiven : ReturnsOrHangs (Host.ofUsb usb clock poll) call s r t) :
    t.At epOut epIn lun view := by
  cases hgiven with
  | returns hret => exact hret.at_end hwired hunseen hbuffer hat
  | hangs _ => exact hat

section Over

variable (hwired : Wired usb T epOut epIn lun view) (hunseen : Unseen clock poll view)
  (hbus : port.OverBus (Host.ofUsb usb clock poll) epOut epIn lun view)

include hwired hunseen hbus

theorem ScsiPort.OverBus.staysIn : port.StaysIn fun s => s.At epOut epIn lun view where
  chunk kind lba n s hat :=
    (hbus.runs kind lba n s hat).at_end hwired hunseen (fun hout => by cases hout) hat
  others := hbus.others_at
  lowered bytes _ hat := lowerTransferCap_at bytes hat

/-- The transfer cap never rises either. -/
theorem ScsiPort.OverBus.staysBelow (cap : Nat) :
    port.StaysIn fun s => s.At epOut epIn lun view ∧ s.entry.maxTransferBytes ≤ cap where
  chunk kind lba n s hs :=
    ⟨(hbus.runs kind lba n s hs.1).at_end hwired hunseen (fun hout => by cases hout) hs.1,
      Nat.le_trans (Nat.le_of_eq (hbus.runs kind lba n s hs.1).cap) hs.2⟩
  others s hs := ⟨hbus.others_at s hs.1, Nat.le_trans (hbus.others_cap s hs.1) hs.2⟩
  lowered bytes s hs := ⟨lowerTransferCap_at bytes hs.1, Nat.le_trans (lowerTransferCap_le bytes s) hs.2⟩

/-- The port of a unit that holds the medium serves it. -/
theorem ScsiPort.OverBus.serves (hholds : T.Holds lun drive) :
    (port.within fun s => s.At epOut epIn lun view).Serves drive where
  answers call s := by
    unfold within
    dsimp only
    split
    · next hwithin =>
        obtain ⟨hat, hchunk⟩ := hwithin
        have hserved := hchunk.servedBy hwired hunseen hholds hat
        obtain ⟨kind, lba, n, rfl⟩ := hchunk
        exact (hbus.runs kind lba n s hat).answers hserved
    · exact ⟨Nat.zero_le _, fun hok => by cases hok⟩
  scsiCdb_cap call s := by
    unfold within
    dsimp only
    split
    · next hwithin =>
        obtain ⟨hat, kind, lba, n, rfl⟩ := hwithin
        exact Nat.le_of_eq (hbus.runs kind lba n s hat).cap
    · exact Nat.le_refl _
  otherThreads_cap s := by
    unfold within
    dsimp only
    split
    · next hat => exact hbus.others_cap s hat
    · exact Nat.le_refl _

theorem readChunked_exact_over_bus (hholds : T.Holds lun drive) (kind : ReadKind) (lba : UInt32)
    (numBlocks : Int) (memory : Nat → UInt8) (hat : s.At epOut epIn lun view)
    (hcap : s.entry.maxTransferBytes ≤ laserMaxBytesPerTransfer) :
    ∃ fuel r, readChunked port kind fuel lba numBlocks memory s = some r
      ∧ ExactRead drive kind lba numBlocks memory r.ret r.memory
      ∧ r.sys.At epOut epIn lun view := by
  have hstays := hbus.staysIn hwired hunseen
  obtain ⟨fuel, r, hrun, hexact⟩ :=
    readChunked_exact (hbus.serves hwired hunseen hholds) kind lba numBlocks memory s hcap
  rw [hstays.readChunked_within kind fuel lba numBlocks memory s hat] at hrun
  exact ⟨fuel, r, hrun, hexact, hstays.readChunked hat hrun⟩

end Over

/-- **Block reads are exact over a faulty bus.** The device is one of the Bulk-Only class, its unit holds a
    medium, and the requests of a Reset Recovery and the clearing of a halt take effect. Transfers may
    fail, stall, be cut short or time out, commands may be lost, answered late or not at all, refused,
    retried and split, and the device may leave. The blocks a read says it read are in the buffer and are
    those of the medium, nothing is written outside the buffer, and the device is in step with the host
    when the read returns. -/
theorem blockReads_exact_over_bus (hwired : Wired usb T epOut epIn lun view)
    (hunseen : Unseen clock poll view) (hholds : T.Holds lun drive)
    (hbus : port.OverBus (Host.ofUsb usb clock poll) epOut epIn lun view) (lba : UInt32)
    (numBlocks : Int) (memory : Nat → UInt8) (s : Sys U) (hat : s.At epOut epIn lun view)
    (hcap : s.entry.maxTransferBytes ≤ laserMaxBytesPerTransfer) :
    (∃ fuel r, laserReadBlocks port fuel lba numBlocks memory s = some r
        ∧ ExactRead drive .read10 lba numBlocks memory r.ret r.memory
        ∧ r.sys.At epOut epIn lun view)
      ∧ ∀ (sectorType : Int) kind, readCdKind sectorType = some kind →
        ∃ fuel r, laserReadCdBlocks port fuel lba numBlocks sectorType memory s = some r
          ∧ ExactRead drive kind lba numBlocks memory r.ret r.memory
          ∧ r.sys.At epOut epIn lun view := by
  refine ⟨readChunked_exact_over_bus hwired hunseen hbus hholds .read10 lba numBlocks memory hat hcap,
    ?_⟩
  intro sectorType kind hkind
  unfold laserReadCdBlocks
  rw [hkind]
  exact readChunked_exact_over_bus hwired hunseen hbus hholds kind lba numBlocks memory hat hcap

/-! ## On a drive that serves its medium -/

/-- Sense data of 05h/21h, LOGICAL BLOCK ADDRESS OUT OF RANGE. -/
def outOfRangeSense : List UInt8 :=
  [0x70, 0, 0x05, 0, 0, 0, 0, 0x10, 0, 0, 0, 0, 0x21, 0] ++ List.replicate 10 0

/-- Read what is on the medium, say that everything else is out of range. -/
def Drive.answer (drive : Drive) (c : Command) : Response :=
  match decodeRead c.cb with
  | some (kind, lba, n) =>
    if c.dataIn ∧ c.length = n * kind.blockSize ∧ lba + n ≤ drive.capacity then
      .full (drive.bytes kind lba n)
    else .refused c
  | none => if c.dataIn ∧ c.cb = requestSenseRequest.cdb ∧ c.length = 24 then .full outOfRangeSense
    else .refused c

@[simp] theorem Drive.length_bytes (drive : Drive) (kind : ReadKind) (lba n : Nat) :
    (drive.bytes kind lba n).length = n * kind.blockSize := by
  simp [bytes]

theorem Drive.answer_meaningful (drive : Drive) (c : Command) (hlen : c.received.length ≤ c.length) :
    (drive.answer c).Meaningful c := by
  unfold answer
  split
  · split
    · next hfit => exact Response.full_meaningful hfit.1 (by simp [hfit.2.1])
    · exact Response.refused_meaningful hlen
  · split
    · next hsense => exact Response.full_meaningful hsense.1 (by rw [hsense.2.2]; rfl)
    · exact Response.refused_meaningful hlen

/-- It passes or it refuses. -/
theorem Drive.answer_status (drive : Drive) (c : Command) :
    (drive.answer c).status = usbBotStatusPass ∨ (drive.answer c).status = usbBotStatusFail := by
  unfold answer
  repeat' split
  all_goals first | exact .inl rfl | exact .inr rfl

/-- What the drive does with a command; it has no state. -/
def Drive.exec (drive : Drive) (c : Command) (u : Unit) : Response × Unit := (drive.answer c, u)

/-- The target of the drive. -/
def Drive.target (drive : Drive) : Target Unit :=
  .ofFun drive.exec fun c _ => drive.answer_meaningful c

/-- What the drive does with a read. -/
theorem Drive.answer_read {drive : Drive} {c : Command} {kind : ReadKind} {lba n : Nat}
    (hin : c.dataIn = true) (hdecode : decodeRead c.cb = some (kind, lba, n))
    (hlen : c.length = n * kind.blockSize) : drive.answer c
      = if lba + n ≤ drive.capacity then .full (drive.bytes kind lba n) else .refused c := by
  simp [answer, hdecode, hin, hlen]

section Served

variable {σ : Type} {drive : Drive} {exec : Command → σ → Response × σ}
  {hmeaning : ∀ c s, c.received.length ≤ c.length → (exec c s).1.Meaningful c} {s : Sys (BotDevice σ)}

/-- A target with the drive's medium in it, whatever else it can do: a read is answered as the drive
    answers it, and so is the question what is wrong with one. -/
def Drive.ServedBy (drive : Drive) (exec : Command → σ → Response × σ) : Prop :=
  ∀ c s, (decodeRead c.cb).isSome = true ∨ c.cb = requestSenseRequest.cdb →
    (exec c s).1 = drive.answer c

theorem Drive.servedBy_exec (drive : Drive) : drive.ServedBy drive.exec := fun _ _ _ => rfl

theorem Drive.ServedBy.holds (hserved : drive.ServedBy exec) (lun : UInt8) :
    (Target.ofFun exec hmeaning).Holds lun drive := by
  rintro s t c a kind lba n ⟨-, heq⟩ - hin hstatus hdecode hlen
  obtain rfl : drive.answer c = a :=
    (hserved c s (.inl (by simp [hdecode]))).symm.trans (congrArg Prod.fst heq)
  rw [Drive.answer_read hin hdecode hlen] at hstatus ⊢
  split at hstatus
  · next hrange =>
      refine ⟨hrange, ?_⟩
      rw [if_pos hrange]
      intro i hi
      have hi : i < n * kind.blockSize := by
        simpa [Response.count, Response.full, hlen] using hi
      simp [Response.full, bytes, hi]
  · cases hstatus

theorem Drive.ServedBy.requestSense (hserved : drive.ServedBy exec)
    (hwired : Wired (BotDevice.ideal exec epOut epIn) (.ofFun exec hmeaning) epOut epIn lun id)
    (hon : s.entry.On epOut epIn lun) (hidle : s.world.Idle) :
    ∃ t, requestSenseLocked (Host.ideal exec epOut epIn) s = (some ⟨0x05, 0x21, 0⟩, t) := by
  obtain ⟨reply, b, hsend, -, houtcome, htold⟩ := BotDevice.ideal_transaction hwired hon
    requestSenseRequest_wellFormed (by decide) rfl rfl hidle
  have hanswer : (exec (requestSenseRequest.command lun []) s.world.target).1 = .full outOfRangeSense :=
    hserved _ _ (.inr rfl)
  rw [hanswer] at houtcome htold
  obtain ⟨hcount, hdata⟩ := htold rfl
  have houtcome : reply.outcome = .pass := houtcome
  have hcount : reply.actualLen = some 24 := hcount
  have hdata : reply.data = outOfRangeSense := hdata
  unfold requestSenseLocked
  simp only [Sys.send, Host.ideal, Host.ofUsb, hsend, houtcome, hcount, hdata]
  exact ⟨_, rfl⟩

/-- The first turn ends a chunk's command: it passes, or is out of range, or finds the drive gone. -/
theorem Drive.ServedBy.turn_done (hserved : drive.ServedBy exec)
    (hwired : Wired (BotDevice.ideal exec epOut epIn) (.ofFun exec hmeaning) epOut epIn lun id)
    {kind : ReadKind} {lba : UInt32} {n : Nat} (hvalid : (ReadKind.call kind lba n).valid = true)
    (hat : s.At epOut epIn lun id) :
    ∃ p, cdbTurn (Host.ideal exec epOut epIn) (ReadKind.call kind lba n) ({}, s) = .done p := by
  have hchunk : (ReadKind.call kind lba n).IsChunk := ⟨kind, lba, n, rfl⟩
  have hwell := hchunk.sends hvalid _ _ .command
  have hanswer : ∀ u, (exec ((ReadKind.call kind lba n).request.command lun []) u).1
      = drive.answer ((ReadKind.call kind lba n).request.command lun []) := by
    intro u
    refine hserved _ _ (.inl ?_)
    cases kind <;>
      simp [BotRequest.command, CdbCall.request, ReadKind.call, ReadKind.buildCdb, buildRead10Cdb,
        buildReadCdCdb, decodeRead]
  rcases drive.answer_status ((ReadKind.call kind lba n).request.command lun []) with hstatus | hstatus
  · exact Host.ideal_turn_done hwired hwell hvalid rfl rfl hat fun _ => by rw [hanswer, hstatus]
  rcases hat.inStep with hgone | hidle
  · refine Host.ideal_turn_done hwired hwell hvalid rfl rfl hat fun hidle => ?_
    have hpresent := hidle.present
    rw [show s.world.gone = true from hgone] at hpresent
    cases hpresent
  · obtain ⟨hfailed, hon, hidle⟩ := Host.ideal_attempt hwired hat.on hwell hvalid rfl rfl hidle
    rw [hanswer, hstatus] at hfailed
    obtain ⟨t, hsense⟩ := hserved.requestSense hwired hon hidle
    have hclass : ∀ idempotent spinningUp,
        classify idempotent spinningUp (.failed usbBotStatusFail) ⟨0x05, 0x21, 0⟩
          = .final .errRefused := by decide
    rw [cdbTurn_of_failed (by decide) rfl hfailed]
    unfold failedTurn senseOf
    simp only [if_true, hsense, Option.getD_some, hclass]
    exact ⟨_, rfl⟩

theorem Drive.ServedBy.overBus (hserved : drive.ServedBy exec)
    (hwired : Wired (BotDevice.ideal exec epOut epIn) (.ofFun exec hmeaning) epOut epIn lun id) :
    (ScsiPort.ideal exec epOut epIn).OverBus (Host.ideal exec epOut epIn) epOut epIn lun id where
  runs _ _ _ _ hat :=
    .returns (ScsiPort.ideal_runs hat fun _ hvalid hat => hserved.turn_done hwired hvalid hat)
  others_at _ hat := hat
  others_cap _ _ := Nat.le_refl _

end Served

/-- The target of the drive on an ideal bus. -/
abbrev Drive.Plugged (drive : Drive) (epOut epIn lun : UInt8) : Prop :=
  Wired (BotDevice.ideal drive.exec epOut epIn) drive.target epOut epIn lun id

/-- A hundred blocks from 40, of a medium of 100, on a device that has just been plugged in: the second
    command runs past the end. -/
theorem blockReads_exact_over_bus_past_end :
    let drive : Drive := ⟨100, by decide, fun _ block offset => UInt8.ofNat (block + offset)⟩
    let s : Sys (BotDevice Unit) :=
      ⟨{ inUse := true, epIn := 0x81, epOut := 0x02, maxTransferBytes := laserMaxBytesPerTransfer },
        ⟨(), .ready, false, false, false⟩, []⟩
    ∃ fuel r, laserReadBlocks (.ideal drive.exec 0x02 0x81) fuel 40 100 (fun _ => 0) s = some r
      ∧ ExactRead drive .read10 40 100 (fun _ => 0) r.ret r.memory
      ∧ r.sys.At 0x02 0x81 0 id := by
  intro drive s
  have hon : s.entry.On 0x02 0x81 0 := ⟨rfl, rfl, rfl⟩
  have hwired : drive.Plugged 0x02 0x81 0 :=
    Wired.ideal (fun c _ => drive.answer_meaningful c) hon (by decide) (by decide)
  exact (blockReads_exact_over_bus hwired ⟨fun _ => rfl, fun _ => rfl⟩ (drive.servedBy_exec.holds 0)
    (drive.servedBy_exec.overBus hwired) 40 100 (fun _ => 0) s ⟨hon, .inr ⟨rfl, rfl, rfl, rfl⟩⟩ (by decide)).1

end Liblaser
