import Liblaser.Blocks.Bus
import Liblaser.Scsi.Truthful

/-!
# `Blocks.Positional` — the blocks that may be recorded as bad

A caller that gets a positional status from a block read may give up on these blocks for good, so a status
must not be positional for any other reason than the blocks: not for a failure of the bus, which a retry may
mend, and not for one of the medium or the session.

**`blockReads_positional`**: it is not. A value for which `laser_status_is_positional()` holds is the drive's
refusal of the read's first chunk, a command that begins at the first block and covers as many of the blocks
as fit a transfer, and the refusal is the last thing the drive did. Which of the command's blocks it was that
the drive refused it does not say: the first may well be readable.
-/

namespace Liblaser

open Bytes Loop Service Transition

/-- `laser_status_is_positional()`. -/
def laserStatusIsPositional (status : Int) : Bool :=
  status = LaserStatus.errScrambled.code ∨ status = LaserStatus.errRegion.code
    ∨ status = LaserStatus.errRefused.code

/-- A positional value is a status and no count, and a status that stands for sense data. -/
theorem laserStatusIsPositional_code {st : LaserStatus} :
    laserStatusIsPositional st.code = true → st.ofSense := by
  intro hpos
  cases st <;> simp_all [laserStatusIsPositional, LaserStatus.code, LaserStatus.ofSense]

theorem laserStatusIsPositional_count (n : Nat) : laserStatusIsPositional n = false := by
  simp [laserStatusIsPositional, LaserStatus.code]

variable {σ U : Type} {usb : UsbHost U} {clock : U → Timespec × U} {poll : U → Bool × U} {T : Target σ}
  {view : U → BotDevice σ} {epOut epIn lun : UInt8} {port : ScsiPort U} {kind : ReadKind} {lba : UInt32}
  {numBlocks : Nat}

/-- The first chunk of a read: from its first block, as many as were asked for, or as fit a size that is not
    above the cap, and at least one. -/
def FirstChunk (kind : ReadKind) (numBlocks cap chunk : Nat) : Prop :=
  ∃ size ≤ cap, chunk = nextChunk kind.blockSize size numBlocks

/-- It has a block, and none that was not asked for. -/
theorem FirstChunk.within {cap chunk : Nat} (hfirst : FirstChunk kind numBlocks cap chunk)
    (hasked : 0 < numBlocks) : 0 < chunk ∧ chunk ≤ numBlocks := by
  obtain ⟨size, hsize, rfl⟩ := hfirst
  obtain ⟨hpos, hle, -⟩ := @nextChunk_spec kind.blockSize size numBlocks hasked
  exact ⟨hpos, hle⟩

/-- The read ended with this status, because the unit failed the command for its first chunk, under this
    transfer cap, and sent sense data of the status's class; the unit has done nothing since. -/
structure RefusedRead (T : Target σ) (lun : UInt8) (view : U → BotDevice σ) (kind : ReadKind) (lba : UInt32)
    (numBlocks cap : Nat) (r : ReadResult U) : Prop where
  refused : ∃ st chunk, r.ret = LaserStatus.code st ∧ FirstChunk kind numBlocks cap chunk
    ∧ 0 < chunk ∧ chunk ≤ numBlocks
    ∧ ∃ before done, Run (T.Serves lun) before done (view r.sys.world).target
      ∧ FailedWith (kind.call lba chunk).request st done

/-- The cap of a turn is not above the one its loop began with. -/
theorem currentCap_mono {s s' : Sys U} (registered : Bool) (v : ReadVars)
    (hcap : s'.entry.maxTransferBytes ≤ s.entry.maxTransferBytes) :
    currentCap registered v s' ≤ currentCap registered {} s := by
  have hentry : (if registered then s'.entry.maxTransferBytes else laserMaxBytesPerTransfer)
      ≤ currentCap registered {} s := by
    cases registered with
    | true => exact hcap
    | false => exact Nat.le_refl _
  generalize currentCap registered {} s = limit at hentry ⊢
  unfold currentCap
  generalize (if registered then s'.entry.maxTransferBytes else laserMaxBytesPerTransfer) = cap
    at hentry ⊢
  dsimp only
  split <;> omega

/-- Only a chunk that failed ends the loop with a positional value, and only the first. -/
theorem chunkFailed_positional {registered : Bool} {chunk : Nat} {st : LaserStatus} {t : ReadState U}
    {r : ReadResult U} (hdone : chunkFailed kind registered chunk st t = .done r)
    (hpos : laserStatusIsPositional r.ret = true) :
    r.ret = st.code ∧ r.sys = t.sys ∧ t.vars.blocksDone = 0 := by
  unfold chunkFailed at hdone
  dsimp only at hdone
  split at hdone
  · next hgone =>
      cases hdone
      rcases hgone with rfl | rfl | rfl <;> simp [laserStatusIsPositional, LaserStatus.code] at hpos
  split at hdone
  · cases hdone
  · cases hdone
    dsimp only at hpos ⊢
    split at hpos
    · rw [laserStatusIsPositional_count] at hpos
      cases hpos
    · next hnone =>
        rw [if_neg hnone]
        exact ⟨rfl, rfl, Nat.eq_zero_of_not_pos hnone⟩

/-- A chunk that was read does not. -/
theorem chunkRead_not_positional {chunk actualLen : Nat} {t : ReadState U} {r : ReadResult U}
    (hdone : chunkRead port kind chunk actualLen t = .done r) : laserStatusIsPositional r.ret = false := by
  unfold chunkRead at hdone
  dsimp only at hdone
  split at hdone
  · cases hdone
    dsimp only
    split
    · rfl
    · exact_mod_cast laserStatusIsPositional_count _
  split at hdone <;> cases hdone

section Over

variable (hwired : Wired usb T epOut epIn lun view) (hunseen : Unseen clock poll view)
  (hbus : port.OverBus (Host.ofUsb usb clock poll) epOut epIn lun view)

include hwired hunseen hbus

/-- **A turn** that ends the loop with a positional value ends it with a refusal. -/
theorem readTurn_positional {registered : Bool} {cap : Nat} {t : ReadState U} {r : ReadResult U}
    (hat : t.sys.At epOut epIn lun view) (hcap : currentCap registered {} t.sys ≤ cap)
    (hdone : readTurn port kind registered lba numBlocks t = .done r)
    (hpos : laserStatusIsPositional r.ret = true) :
    RefusedRead T lun view kind lba numBlocks cap r := by
  by_cases hleft : t.vars.blocksDone < numBlocks
  · obtain ⟨s, chunk, res, s', rfl, hchunk, hres, hturn⟩ :=
      @readTurn_of_lt _ port kind registered lba numBlocks t hleft
    rw [hturn] at hdone
    dsimp only at hdone
    split at hdone
    · next hst =>
        obtain ⟨hret, hsys, hzero⟩ := chunkFailed_positional hdone hpos
        have hreturns := hbus.runs kind (lba + UInt32.ofNat t.vars.blocksDone) chunk _
          (hbus.others_at _ hat)
        rw [hres] at hreturns
        have hsense : res.status.ofSense := laserStatusIsPositional_code (hret ▸ hpos)
        have hreturns := hreturns.returned (LaserStatus.ofSense_ne hsense).2.2.1
        obtain ⟨done, hrun, hfailed⟩ := hreturns.truthful_sense hwired hunseen
          (fun hout => by cases hout) (hbus.others_at _ hat) hsense
        rw [hzero, show lba + UInt32.ofNat 0 = lba from UInt32.add_zero lba] at hfailed
        have hrun : Run (T.Serves lun) (view (port.otherThreads t.sys).world).target done
            (view r.sys.world).target := by
          rw [hsys]
          exact hrun
        have hfirst : FirstChunk kind numBlocks cap chunk := by
          have hother := currentCap_mono registered t.vars (hbus.others_cap _ hat)
          refine ⟨_, Nat.le_trans hother hcap, ?_⟩
          rw [hchunk, hzero, Nat.sub_zero]
        obtain ⟨hsome, hle⟩ := hfirst.within (by omega)
        exact ⟨res.status, chunk, hret, hfirst, hsome, hle, _, done, hrun, hfailed⟩
    · rw [chunkRead_not_positional hdone] at hpos
      cases hpos
  · unfold readTurn at hdone
    rw [if_neg hleft] at hdone
    cases hdone
    rw [laserStatusIsPositional_count] at hpos
    cases hpos

theorem readChunked_positional {fuel : Nat} {numBlocks : Int} {memory : Nat → UInt8} {s : Sys U}
    {r : ReadResult U} (hat : s.At epOut epIn lun view)
    (hrun : readChunked port kind fuel lba numBlocks memory s = some r)
    (hpos : laserStatusIsPositional r.ret = true) :
    RefusedRead T lun view kind lba numBlocks.toNat (currentCap s.entry.inUse {} s) r := by
  have hstays := hbus.staysBelow hwired hunseen s.entry.maxTransferBytes
  unfold readChunked at hrun
  split at hrun
  · cases hrun
    cases hpos
  · refine iterate_all
      (I := fun t : ReadState U => t.sys.At epOut epIn lun view
        ∧ t.sys.entry.maxTransferBytes ≤ s.entry.maxTransferBytes)
      (Q := fun r : ReadResult U => laserStatusIsPositional r.ret = true →
        RefusedRead T lun view kind lba numBlocks.toNat (currentCap s.entry.inUse {} s) r)
      ?_ ⟨hat, Nat.le_refl _⟩ hrun hpos
    intro t ht
    have hkept := @ScsiPort.StaysIn.readTurn _ port _ kind s.entry.inUse lba numBlocks.toNat hstays t ht
    cases hturn : readTurn port kind s.entry.inUse lba numBlocks.toNat t with
    | again u =>
        rw [hturn] at hkept
        exact hkept
    | done r' =>
        intro hpos'
        have hcap : currentCap s.entry.inUse {} t.sys ≤ currentCap s.entry.inUse {} s := by
          cases s.entry.inUse with
          | true => exact ht.2
          | false => exact Nat.le_refl _
        exact readTurn_positional hwired hunseen hbus ht.1 hcap hturn hpos'

end Over

/-- **A positional status is the drive's own word.** On any bus with a conforming device where a Reset
    Recovery takes effect, whatever fails on the way: when a block read returns a value that is positional,
    it is a status, nothing was read, and the last two things the unit did were to fail the command for the
    read's first chunk, and to send sense data in the class of the status. -/
theorem blockReads_positional (hwired : Wired usb T epOut epIn lun view)
    (hunseen : Unseen clock poll view)
    (hbus : port.OverBus (Host.ofUsb usb clock poll) epOut epIn lun view) (fuel : Nat) (lba : UInt32)
    (numBlocks : Int) (memory : Nat → UInt8) (s : Sys U) (hat : s.At epOut epIn lun view) :
    (∀ r, laserReadBlocks port fuel lba numBlocks memory s = some r →
        laserStatusIsPositional r.ret = true →
        RefusedRead T lun view .read10 lba numBlocks.toNat (currentCap s.entry.inUse {} s) r)
      ∧ ∀ (sectorType : Int) r, laserReadCdBlocks port fuel lba numBlocks sectorType memory s = some r →
        laserStatusIsPositional r.ret = true →
        ∃ kind, readCdKind sectorType = some kind
          ∧ RefusedRead T lun view kind lba numBlocks.toNat (currentCap s.entry.inUse {} s) r := by
  refine ⟨fun r hrun hpos => readChunked_positional hwired hunseen hbus hat hrun hpos, ?_⟩
  intro sectorType r hrun hpos
  unfold laserReadCdBlocks at hrun
  split at hrun
  · next kind hkind =>
      exact ⟨kind, hkind, readChunked_positional hwired hunseen hbus hat hrun hpos⟩
  · cases hrun
    cases hpos

/-- Four blocks from 98, of a medium of 100: the command for all four is refused, though the first two would
    read. -/
theorem blockReads_positional_past_end :
    let drive : Drive := ⟨100, by decide, fun _ block offset => UInt8.ofNat (block + offset)⟩
    let s : Sys (BotDevice Unit) :=
      ⟨{ inUse := true, epIn := 0x81, epOut := 0x02, maxTransferBytes := laserMaxBytesPerTransfer },
        ⟨(), .ready, false, false, false⟩, []⟩
    ∃ r, laserReadBlocks (.ideal drive.exec 0x02 0x81) 2 98 4 (fun _ => 0) s = some r
      ∧ laserStatusIsPositional r.ret = true
      ∧ RefusedRead drive.target 0 id .read10 98 4 laserMaxBytesPerTransfer r := by
  intro drive s
  have hon : s.entry.On 0x02 0x81 0 := ⟨rfl, rfl, rfl⟩
  have hwired : drive.Plugged 0x02 0x81 0 :=
    Wired.ideal (fun c _ => drive.answer_meaningful c) hon (by decide) (by decide)
  have hends : (laserReadBlocks (.ideal drive.exec 0x02 0x81) 2 98 4 (fun _ => 0) s).map (·.ret)
      = some (-4) := by decide +kernel
  obtain ⟨r, hrun, hret⟩ := Option.map_eq_some_iff.mp hends
  have hpos : laserStatusIsPositional r.ret = true := by rw [hret]; rfl
  exact ⟨r, hrun, hpos, (blockReads_positional hwired ⟨fun _ => rfl, fun _ => rfl⟩
    (drive.servedBy_exec.overBus hwired) 2 98 4 (fun _ => 0) s ⟨hon, .inr ⟨rfl, rfl, rfl, rfl⟩⟩).1
      r hrun hpos⟩

end Liblaser
