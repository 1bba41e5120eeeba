import Liblaser.Blocks.Chunked

/-!
# `Blocks.Exact` — a chunked read is the block-by-block read

What `read_chunked()` is for: the caller asks for a range of blocks and gets the first so many of them,
whatever the drive refuses, cuts short or lets fail on the way, and whatever other threads make of the
transfer cap. `Drive` is a medium and `ScsiPort.Serves` what a drive that holds it may answer; the drive
reads its commands with `decodeRead`, from the bytes.

`Progress` is the invariant of the loop, and `readMeasure` the two-level measure that ends it: blocks
left, then the size on trial. **`blockReads_exact`** is the result, for both helpers.
-/

namespace Liblaser

open Bytes Loop

variable {W : Type}

/-! ## The drive -/

/-- A medium of so many blocks, and the bytes of each as each kind of read returns them. -/
structure Drive where
  capacity : Nat
  capacity_lt : capacity < 2 ^ 32
  byte : ReadKind → Nat → Nat → UInt8

/-- The drive's side of READ(10) and READ CD: the kind of read, the first block and their number. -/
def decodeRead (cdb : List UInt8) : Option (ReadKind × Nat × Nat) :=
  if cdb.length = 10 ∧ cdb.getD 0 0 = 0x28 then
    some (.read10, beNat ((cdb.drop 2).take 4), beNat ((cdb.drop 7).take 2))
  else if cdb.length = 12 ∧ cdb.getD 0 0 = 0xBE then
    some (.readCd (cdb.getD 1 0) (cdb.getD 9 0), beNat ((cdb.drop 2).take 4),
      beNat ((cdb.drop 6).take 3))
  else none

/-- What a drive that holds the medium may answer a read with. -/
structure Drive.Answers (drive : Drive) (call : CdbCall) (r : CdbResult) : Prop where
  /-- A data phase stores no more than was asked for, whatever comes of the command. -/
  stored : r.data.length ≤ call.dataLen.toNat
  /-- A read that passes is of blocks the medium has, and a prefix of their bytes has been moved. -/
  passed : r.status = .ok → ∀ kind lba n, decodeRead call.cdb = some (kind, lba, n) →
    call.dataLen = (n * kind.blockSize : Nat) →
    lba + n ≤ drive.capacity ∧ ∃ k ≤ n * kind.blockSize, r.actualLen = some k ∧
      ∀ i < k, r.data[i]? = some (drive.byte kind (lba + i / kind.blockSize) (i % kind.blockSize))

/-- A port on such a drive; the transfer cap is only ever lowered. -/
structure ScsiPort.Serves (port : ScsiPort W) (drive : Drive) : Prop where
  answers : ∀ call s, drive.Answers call (port.scsiCdb call s).1
  scsiCdb_cap : ∀ call s,
    (port.scsiCdb call s).2.entry.maxTransferBytes ≤ s.entry.maxTransferBytes
  otherThreads_cap : ∀ s,
    (port.otherThreads s).entry.maxTransferBytes ≤ s.entry.maxTransferBytes

theorem ReadKind.blockSize_pos (kind : ReadKind) : 0 < kind.blockSize := by
  cases kind <;> simp [blockSize]

theorem ReadKind.blockSize_le (kind : ReadKind) : kind.blockSize ≤ 4096 := by
  cases kind <;> simp [blockSize]

/-- **The CDBs say what was meant**: the drive reads back the kind, the first block and the number of
    blocks, which fits the 16 bits of READ(10). -/
theorem decodeRead_buildCdb (kind : ReadKind) (lba : UInt32) {blocks : Nat} (h : blocks < 2 ^ 16) :
    decodeRead (kind.buildCdb lba blocks) = some (kind, lba.toNat, blocks) := by
  have hlba : beNat (beBytes 4 lba.toNat) = lba.toNat := beNat_beBytes_of_lt lba.toNat_lt
  have hfour := length_beBytes 4 lba.toNat
  cases kind with
  | read10 =>
      have hblocks : beNat (beBytes 2 blocks) = blocks := beNat_beBytes_of_lt h
      have htwo := length_beBytes 2 blocks
      show decodeRead (buildRead10Cdb lba blocks) = _
      unfold buildRead10Cdb
      generalize beBytes 4 lba.toNat = l at hlba hfour
      generalize beBytes 2 blocks = m at hblocks htwo
      match l, hfour, m, htwo with
      | [a, b, c, d], _, [e, f], _ =>
        rw [← hlba, ← hblocks]
        rfl
  | readCd expectedType fieldFlags =>
      have hblocks : beNat (beBytes 3 blocks) = blocks := beNat_beBytes_of_lt (by omega)
      have hthree := length_beBytes 3 blocks
      show decodeRead (buildReadCdCdb expectedType fieldFlags lba blocks) = _
      unfold buildReadCdCdb
      generalize beBytes 4 lba.toNat = l at hlba hfour
      generalize beBytes 3 blocks = m at hblocks hthree
      match l, hfour, m, hthree with
      | [a, b, c, d], _, [e, f, g], _ =>
        rw [← hlba, ← hblocks]
        rfl

/-! ## The size of a chunk -/

/-- A chunk is at least one block and no more than is left, and beyond one block it keeps to the cap. -/
theorem nextChunk_spec {blockSize cap left : Nat} (hleft : 0 < left) :
    1 ≤ nextChunk blockSize cap left ∧ nextChunk blockSize cap left ≤ left
      ∧ (1 < nextChunk blockSize cap left → nextChunk blockSize cap left * blockSize ≤ cap) := by
  have hfit : cap / blockSize * blockSize ≤ cap := Nat.div_mul_le_self cap blockSize
  have hle : 1 < nextChunk blockSize cap left → nextChunk blockSize cap left ≤ cap / blockSize := by
    unfold nextChunk
    dsimp only
    intro hone
    split at hone <;> split at hone <;> split <;> omega
  refine ⟨?_, ?_, ?_⟩
  · unfold nextChunk
    dsimp only
    split <;> split <;> omega
  · unfold nextChunk
    dsimp only
    split <;> split <;> omega
  · intro hone
    exact Nat.le_trans (Nat.mul_le_mul_right _ (hle hone)) hfit

theorem currentCap_le {registered : Bool} {v : ReadVars} {s : Sys W}
    (hcap : s.entry.maxTransferBytes ≤ laserMaxBytesPerTransfer) :
    currentCap registered v s ≤ laserMaxBytesPerTransfer
      ∧ (0 < v.trialCap → currentCap registered v s ≤ v.trialCap) := by
  have hentry : (if registered then s.entry.maxTransferBytes else laserMaxBytesPerTransfer)
      ≤ laserMaxBytesPerTransfer := by
    split <;> omega
  unfold currentCap
  generalize (if registered then s.entry.maxTransferBytes else laserMaxBytesPerTransfer) = cap
    at hentry
  dsimp only
  constructor
  · split <;> omega
  · intro htrial
    split <;> omega

/-- No chunk is longer than the largest transfer; a single block is sent even when the cap is below its
    size. -/
theorem nextChunk_size (kind : ReadKind) {cap left : Nat} (hleft : 0 < left)
    (hcap : cap ≤ laserMaxBytesPerTransfer) :
    nextChunk kind.blockSize cap left * kind.blockSize ≤ laserMaxBytesPerTransfer := by
  obtain ⟨hpos, -, hfit⟩ := @nextChunk_spec kind.blockSize cap left hleft
  by_cases hone : 1 < nextChunk kind.blockSize cap left
  · exact Nat.le_trans (hfit hone) hcap
  · have hbs := kind.blockSize_le
    have heq : nextChunk kind.blockSize cap left = 1 := by omega
    simp only [heq, laserMaxBytesPerTransfer]
    omega

/-! ## The invariant -/

/-- The first `n` blocks from `lba` are in memory. -/
def Holds (drive : Drive) (kind : ReadKind) (lba : UInt32) (memory : Nat → UInt8) (n : Nat) : Prop :=
  ∀ i < n, ∀ j < kind.blockSize,
    memory (i * kind.blockSize + j) = drive.byte kind (lba.toNat + i) j

/-- What a block read is to do with memory: the blocks it says it read are there, it says no more than
    was asked, and it stored nothing outside the buffer. -/
structure ExactRead (drive : Drive) (kind : ReadKind) (lba : UInt32) (numBlocks : Int)
    (before : Nat → UInt8) (ret : Int) (after : Nat → UInt8) : Prop where
  le : 0 ≤ numBlocks → ret ≤ numBlocks
  blocks : Holds drive kind lba after ret.toNat
  outside : ∀ i, numBlocks.toNat * kind.blockSize ≤ i → after i = before i

/-- **The invariant of the loop.** -/
structure Progress (drive : Drive) (kind : ReadKind) (lba : UInt32) (numBlocks : Nat)
    (before : Nat → UInt8) (t : ReadState W) : Prop where
  done_le : t.vars.blocksDone ≤ numBlocks
  cap_le : t.sys.entry.maxTransferBytes ≤ laserMaxBytesPerTransfer
  trial_le : t.vars.trialCap ≤ laserMaxBytesPerTransfer
  inRange : 0 < t.vars.blocksDone → lba.toNat + t.vars.blocksDone ≤ drive.capacity
  blocks : Holds drive kind lba t.memory t.vars.blocksDone
  outside : ∀ i, numBlocks * kind.blockSize ≤ i → t.memory i = before i

/-- The size on trial; a first attempt counts as larger than any trial. -/
def ReadVars.trialSize (v : ReadVars) : Nat :=
  if v.trialCap = 0 then laserMaxBytesPerTransfer + 1 else v.trialCap

theorem ReadVars.trialSize_of_pos {v : ReadVars} (h : 0 < v.trialCap) : v.trialSize = v.trialCap :=
  if_neg (by omega)

theorem ReadVars.trialSize_le {v : ReadVars} (h : v.trialCap ≤ laserMaxBytesPerTransfer) :
    v.trialSize ≤ laserMaxBytesPerTransfer + 1 := by
  unfold trialSize
  split <;> omega

/-- Blocks left, then the size on trial. -/
def readMeasure (numBlocks : Nat) (t : ReadState W) : Nat :=
  (numBlocks - t.vars.blocksDone) * (laserMaxBytesPerTransfer + 2) + t.vars.trialSize

variable {port : ScsiPort W} {drive : Drive} {kind : ReadKind} {registered : Bool} {lba : UInt32}
  {numBlocks : Nat} {before : Nat → UInt8} {t : ReadState W}

/-- The address of the next chunk does not wrap: the blocks read so far are all on the medium. -/
theorem Progress.lba_toNat (hI : Progress drive kind lba numBlocks before t) :
    (lba + UInt32.ofNat t.vars.blocksDone).toNat = lba.toNat + t.vars.blocksDone := by
  have hlba := lba.toNat_lt
  have hcapacity := drive.capacity_lt
  have hrange := hI.inRange
  have hfit : lba.toNat + t.vars.blocksDone < 2 ^ 32 := by
    by_cases hdone : 0 < t.vars.blocksDone
    · have hle := hrange hdone
      omega
    · omega
  rw [UInt32.toNat_add, UInt32.toNat_ofNat', Nat.mod_eq_of_lt (show t.vars.blocksDone < 2 ^ 32 by omega)]
  exact Nat.mod_eq_of_lt hfit

/-! ## One chunk in memory -/

/-- Block `i` of memory ends before block `n` begins. -/
theorem block_end_le {i n bs j : Nat} (hi : i < n) (hj : j < bs) : i * bs + j < n * bs := by
  have hnext : (i + 1) * bs ≤ n * bs := Nat.mul_le_mul_right bs hi
  rw [Nat.add_mul, Nat.one_mul] at hnext
  omega

/-- A chunk stored after the blocks that are there leaves them there. -/
theorem Holds.store {memory : Nat → UInt8} {n : Nat} {data : List UInt8}
    (hholds : Holds drive kind lba memory n) :
    Holds drive kind lba (storeAt memory (n * kind.blockSize) data) n := by
  intro i hi j hj
  rw [storeAt_outside (.inl (block_end_le hi hj))]
  exact hholds i hi j hj

/-- A prefix of the next blocks adds the whole blocks in it. -/
theorem Holds.store_front {memory : Nat → UInt8} {n k : Nat} {data : List UInt8}
    (hholds : Holds drive kind lba memory n)
    (hdata : ∀ i < k, data[i]? = some (drive.byte kind (lba.toNat + n + i / kind.blockSize)
      (i % kind.blockSize))) :
    Holds drive kind lba (storeAt memory (n * kind.blockSize) data) (n + k / kind.blockSize) := by
  intro i hi j hj
  by_cases hold : i < n
  · exact hholds.store i hold j hj
  · -- byte `j` of block `q` of the chunk
    obtain ⟨q, rfl⟩ := Nat.exists_eq_add_of_le (Nat.le_of_not_lt hold)
    have hq : q < k / kind.blockSize := by omega
    have hk : k / kind.blockSize * kind.blockSize ≤ k := Nat.div_mul_le_self k _
    have hin : q * kind.blockSize + j < k := Nat.lt_of_lt_of_le (block_end_le hq hj) hk
    have hbyte := hdata _ hin
    have hdiv : (q * kind.blockSize + j) / kind.blockSize = q := by
      rw [Nat.mul_comm, Nat.mul_add_div kind.blockSize_pos, Nat.div_eq_of_lt hj, Nat.add_zero]
    have hmod : (q * kind.blockSize + j) % kind.blockSize = j := by
      rw [Nat.mul_comm, Nat.mul_add_mod, Nat.mod_eq_of_lt hj]
    rw [hdiv, hmod, Nat.add_assoc] at hbyte
    rw [Nat.add_mul, Nat.add_assoc]
    exact storeAt_of_getElem? hbyte

/-- What one command leaves, seen from the loop: memory before the chunk and after the buffer as it was,
    and after a PASS the whole blocks of what was moved. -/
structure ChunkSpec (drive : Drive) (kind : ReadKind) (lba : UInt32) (numBlocks done chunk : Nat)
    (before : Nat → UInt8) (r : CdbResult) (memory : Nat → UInt8) : Prop where
  blocks : Holds drive kind lba memory done
  outside : ∀ i, numBlocks * kind.blockSize ≤ i → memory i = before i
  passed : r.status = .ok → lba.toNat + done + chunk ≤ drive.capacity
    ∧ r.actualLen.getD 0 ≤ chunk * kind.blockSize
    ∧ Holds drive kind lba memory (done + r.actualLen.getD 0 / kind.blockSize)

theorem Progress.chunk (hserves : port.Serves drive)
    (hI : Progress drive kind lba numBlocks before t) {s : Sys W} {chunk : Nat}
    (hfits : t.vars.blocksDone + chunk ≤ numBlocks)
    (hsize : chunk * kind.blockSize ≤ laserMaxBytesPerTransfer) :
    ChunkSpec drive kind lba numBlocks t.vars.blocksDone chunk before
      (port.scsiCdb (kind.call (lba + UInt32.ofNat t.vars.blocksDone) chunk) s).1
      (storeAt t.memory (t.vars.blocksDone * kind.blockSize)
        (port.scsiCdb (kind.call (lba + UInt32.ofNat t.vars.blocksDone) chunk) s).1.data) := by
  have hanswers := hserves.answers (kind.call (lba + UInt32.ofNat t.vars.blocksDone) chunk) s
  generalize (port.scsiCdb _ s).1 = r at hanswers ⊢
  -- a chunk is no longer than the cap, so its length is no negative `int`
  have hlen : (kind.call (lba + UInt32.ofNat t.vars.blocksDone) chunk).dataLen
      = (chunk * kind.blockSize : Nat) := by
    unfold laserMaxBytesPerTransfer at hsize
    simp only [ReadKind.call, cInt_of_lt (show chunk * kind.blockSize < 2 ^ 31 by omega)]
  have hstored := hanswers.stored
  rw [hlen, Int.toNat_natCast] at hstored
  refine ⟨hI.blocks.store, ?_, ?_⟩
  · intro i hi
    rw [storeAt_outside, hI.outside i hi]
    right
    have hend : (t.vars.blocksDone + chunk) * kind.blockSize ≤ numBlocks * kind.blockSize :=
      Nat.mul_le_mul_right _ hfits
    rw [Nat.add_mul] at hend
    omega
  · intro hok
    -- nor does its count of blocks overflow the two bytes of READ(10)
    have hchunk : chunk < 2 ^ 16 := by
      have hbs : 2048 ≤ kind.blockSize := by cases kind <;> simp [ReadKind.blockSize]
      have hmul : chunk * 2048 ≤ chunk * kind.blockSize := Nat.mul_le_mul_left chunk hbs
      simp only [laserMaxBytesPerTransfer] at hsize
      omega
    obtain ⟨hrange, k, hk, hactual, hdata⟩ :=
      hanswers.passed hok kind _ chunk (decodeRead_buildCdb kind _ hchunk) hlen
    rw [hI.lba_toNat] at hrange hdata
    rw [hactual, Option.getD_some]
    exact ⟨hrange, hk, hI.blocks.store_front hdata⟩

/-! ## One turn -/

/-- Both ways a turn can go: on, with the invariant and a smaller measure, or out with an exact read. -/
def TurnExact (drive : Drive) (kind : ReadKind) (lba : UInt32) (numBlocks : Nat)
    (before : Nat → UInt8) (t : ReadState W) : Turn (ReadState W) (ReadResult W) → Prop
  | .again u => Progress drive kind lba numBlocks before u
      ∧ readMeasure numBlocks u < readMeasure numBlocks t
  | .done r => ExactRead drive kind lba numBlocks before r.ret r.memory

/-- A count of blocks that are there is an exact read. -/
theorem ExactRead.of_count {ret : Int} {memory : Nat → UInt8} {n : Nat}
    (hblocks : Holds drive kind lba memory n)
    (houtside : ∀ i, numBlocks * kind.blockSize ≤ i → memory i = before i) (hn : n ≤ numBlocks)
    (hret : ret = n ∨ ret < 0) : ExactRead drive kind lba numBlocks before ret memory := by
  refine ⟨?_, ?_, by simpa using houtside⟩
  · intro _
    rcases hret with rfl | hneg <;> omega
  · intro i hi
    have hn : i < n := by rcases hret with rfl | hneg <;> omega
    exact hblocks i hn

/-- Everything a turn has established when its command is back: the chunk was sized by the rules, and
    `u` is the loop's state but for what the turn makes of the answer. -/
structure AfterChunk (drive : Drive) (kind : ReadKind) (lba : UInt32) (numBlocks : Nat)
    (before : Nat → UInt8) (t : ReadState W) (chunk : Nat) (r : CdbResult) (u : ReadState W) :
    Prop where
  progress : Progress drive kind lba numBlocks before t
  vars : u.vars = t.vars
  cap_le : u.sys.entry.maxTransferBytes ≤ laserMaxBytesPerTransfer
  chunk_pos : 1 ≤ chunk
  fits : t.vars.blocksDone + chunk ≤ numBlocks
  size : chunk * kind.blockSize ≤ laserMaxBytesPerTransfer
  /-- During a negotiation a chunk of several blocks keeps to the size on trial. -/
  trial : 0 < t.vars.trialCap → 1 < chunk → chunk * kind.blockSize ≤ t.vars.trialCap
  spec : ChunkSpec drive kind lba numBlocks t.vars.blocksDone chunk before r u.memory

theorem chunkFailed_exact {chunk : Nat} {r : CdbResult} {u : ReadState W}
    (hafter : AfterChunk drive kind lba numBlocks before t chunk r u) (hst : r.status ≠ .ok) :
    TurnExact drive kind lba numBlocks before t (chunkFailed kind registered chunk r.status u) := by
  obtain ⟨hI, hvars, hcap, hpos, hfits, hsize, htrial, hspec⟩ := hafter
  have hneg := LaserStatus.code_neg hst
  unfold chunkFailed
  dsimp only
  rw [hvars]
  split
  · exact .of_count hspec.blocks hspec.outside hI.done_le (.inr hneg)
  split
  case isTrue hretry =>
    -- the next trial is smaller than what failed, and so than the trial it failed in
    obtain ⟨-, hseveral, -, hlarge⟩ := hretry
    obtain ⟨hzero, hless⟩ := nextTrial_lt hlarge
    refine ⟨⟨?_, hcap, ?_, ?_, ?_, hspec.outside⟩, ?_⟩
    · simpa using hI.done_le
    · simpa using Nat.le_trans (Nat.le_of_lt hless) hsize
    · simpa using hI.inRange
    · simpa using hspec.blocks
    · have hnext := @ReadVars.trialSize_of_pos (t.vars.onTrial chunk (chunk * kind.blockSize))
        (by simpa using hzero)
      rw [ReadVars.onTrial_trialCap] at hnext
      simp only [readMeasure, ReadVars.onTrial_blocksDone, hnext]
      by_cases hon : 0 < t.vars.trialCap
      · have hwithin := htrial hon hseveral
        rw [ReadVars.trialSize_of_pos hon]
        omega
      · have hfirst : t.vars.trialSize = laserMaxBytesPerTransfer + 1 := if_pos (by omega)
        omega
  case isFalse =>
    split
    · exact .of_count hspec.blocks hspec.outside hI.done_le (.inl rfl)
    · exact .of_count hspec.blocks hspec.outside hI.done_le (.inr hneg)

theorem lowerTransferCap_le (bytes : Nat) (s : Sys W) :
    (lowerTransferCap bytes s).entry.maxTransferBytes ≤ s.entry.maxTransferBytes := by
  unfold lowerTransferCap
  split
  · exact Nat.le_of_lt ‹_›
  · exact Nat.le_refl _

theorem chunkRead_exact {chunk : Nat} {r : CdbResult} {u : ReadState W}
    (hserves : port.Serves drive)
    (hafter : AfterChunk drive kind lba numBlocks before t chunk r u) (hst : r.status = .ok) :
    TurnExact drive kind lba numBlocks before t
      (chunkRead port kind chunk (r.actualLen.getD 0) u) := by
  obtain ⟨hI, hvars, hcap, hpos, hfits, hsize, htrial, hspec⟩ := hafter
  obtain ⟨hrange, hactual, hblocks⟩ := hspec.passed hst
  generalize r.actualLen.getD 0 = actualLen at hactual hblocks ⊢
  have hwhole : actualLen / kind.blockSize ≤ chunk :=
    Nat.div_le_of_le_mul (by rwa [Nat.mul_comm] at hactual)
  unfold chunkRead
  dsimp only
  rw [hvars]
  split
  · -- a short read: the whole blocks of it, or an error when there is none
    refine .of_count hblocks hspec.outside (by omega) ?_
    split
    · exact .inr (LaserStatus.code_neg (show LaserStatus.errIo ≠ .ok by decide))
    · exact .inl rfl
  · next hfull =>
      have hfull : actualLen = chunk * kind.blockSize := Decidable.not_not.mp hfull
      rw [hfull, Nat.mul_div_cancel _ kind.blockSize_pos] at hblocks
      -- a full chunk: fewer blocks left, which outweighs any size on trial
      have hnext : ∀ v : ReadVars, ∀ s : Sys W, v.blocksDone = t.vars.blocksDone + chunk →
          v.trialCap ≤ laserMaxBytesPerTransfer →
          s.entry.maxTransferBytes ≤ laserMaxBytesPerTransfer →
          TurnExact drive kind lba numBlocks before t (.again ⟨v, u.memory, s⟩) := by
        intro v s hdone htrial hs
        refine ⟨⟨?_, hs, htrial, ?_, ?_, hspec.outside⟩, ?_⟩
        · exact hdone ▸ hfits
        · intro _
          show _ + v.blocksDone ≤ _
          omega
        · show Holds drive kind lba u.memory v.blocksDone
          exact hdone ▸ hblocks
        · have hsmall := ReadVars.trialSize_le htrial
          simp only [readMeasure, laserMaxBytesPerTransfer, hdone] at hsmall ⊢
          omega
      split
      · refine hnext _ _ rfl (Nat.zero_le _) ?_
        exact Nat.le_trans (lowerTransferCap_le _ _)
          (Nat.le_trans (hserves.otherThreads_cap _) hcap)
      · exact hnext _ _ rfl hI.trial_le hcap

/-- **One turn keeps the invariant and decreases the measure, or ends in an exact read.** -/
theorem readTurn_exact (hserves : port.Serves drive)
    (hI : Progress drive kind lba numBlocks before t) :
    TurnExact drive kind lba numBlocks before t (readTurn port kind registered lba numBlocks t) := by
  by_cases hleft : t.vars.blocksDone < numBlocks
  · obtain ⟨s, chunk, r, s', hs, hchunk, hres, hturn⟩ :=
      @readTurn_of_lt _ port kind registered lba numBlocks t hleft
    have hcap : s.entry.maxTransferBytes ≤ laserMaxBytesPerTransfer :=
      hs ▸ Nat.le_trans (hserves.otherThreads_cap _) hI.cap_le
    obtain ⟨hcap_le, htrial⟩ := @currentCap_le _ registered t.vars s hcap
    obtain ⟨hpos, hle, hfit⟩ := @nextChunk_spec kind.blockSize (currentCap registered t.vars s)
      (numBlocks - t.vars.blocksDone) (by omega)
    rw [← hchunk] at hpos hle hfit
    have hsize : chunk * kind.blockSize ≤ laserMaxBytesPerTransfer :=
      hchunk ▸ nextChunk_size kind (by omega) hcap_le
    have hspec := @Progress.chunk _ port drive kind lba numBlocks before t hserves hI s chunk
      (by omega) hsize
    have hafter := hserves.scsiCdb_cap
      (kind.call (lba + UInt32.ofNat t.vars.blocksDone) chunk) s
    rw [hres] at hspec hafter
    have hall : AfterChunk drive kind lba numBlocks before t chunk r
        ⟨t.vars, storeAt t.memory (t.vars.blocksDone * kind.blockSize) r.data, s'⟩ :=
      ⟨hI, rfl, Nat.le_trans hafter hcap, hpos, by omega, hsize,
        fun hon hone => Nat.le_trans (hfit hone) (htrial hon), hspec⟩
    rw [hturn]
    dsimp only
    by_cases hst : r.status = .ok
    · rw [if_neg (not_not_intro hst)]
      exact chunkRead_exact hserves hall hst
    · rw [if_pos hst]
      exact chunkFailed_exact hall hst
  · unfold readTurn
    rw [if_neg hleft]
    exact .of_count hI.blocks hI.outside hI.done_le (.inl rfl)

/-! ## The whole read -/

/-- `read_chunked()` returns, and reads exactly. -/
theorem readChunked_exact (hserves : port.Serves drive) (kind : ReadKind) (lba : UInt32)
    (numBlocks : Int) (memory : Nat → UInt8) (s : Sys W)
    (hcap : s.entry.maxTransferBytes ≤ laserMaxBytesPerTransfer) :
    ∃ fuel r, readChunked port kind fuel lba numBlocks memory s = some r
      ∧ ExactRead drive kind lba numBlocks memory r.ret r.memory := by
  unfold readChunked
  by_cases hnone : numBlocks ≤ 0
  · refine ⟨0, _, if_pos hnone, ?_, ?_, fun _ _ => rfl⟩
    · intro hpos
      exact hpos
    · intro i hi
      exact absurd hi (Nat.not_lt_zero i)
  · obtain ⟨n, rfl⟩ := Int.eq_ofNat_of_zero_le (show 0 ≤ numBlocks by omega)
    simp only [if_neg hnone, Int.toNat_natCast]
    have hstart : Progress drive kind lba n memory ⟨{}, memory, s⟩ :=
      ⟨Nat.zero_le _, hcap, Nat.zero_le _, fun hpos => absurd hpos (Nat.lt_irrefl 0),
        fun i hi => absurd hi (Nat.not_lt_zero i), fun _ _ => rfl⟩
    have hkeep : ∀ t u, Progress drive kind lba n memory t →
        readTurn port kind s.entry.inUse lba n t = .again u →
        Progress drive kind lba n memory u ∧ readMeasure n u < readMeasure n t := by
      intro t u hI hb
      have hturn := @readTurn_exact _ port drive kind s.entry.inUse lba n memory t hserves hI
      rwa [hb] at hturn
    have hdone : ∀ t r, Progress drive kind lba n memory t →
        readTurn port kind s.entry.inUse lba n t = .done r →
        ExactRead drive kind lba n memory r.ret r.memory := by
      intro t r hI hb
      have hturn := @readTurn_exact _ port drive kind s.entry.inUse lba n memory t hserves hI
      rwa [hb] at hturn
    obtain ⟨r, hr⟩ := iterate_of_measure (readMeasure n) (fun t u hI hb => (hkeep t u hI hb).1)
      (fun t u hI hb => (hkeep t u hI hb).2) hstart (Nat.lt_succ_self _)
    exact ⟨_, r, hr, iterate_invariant (Q := fun r : ReadResult W =>
      ExactRead drive kind lba n memory r.ret r.memory) (fun t u hI hb => (hkeep t u hI hb).1) hdone hstart hr⟩

/-- **Chunked reads return exactly the requested blocks.** On a drive that refuses what reaches past its
    last block and otherwise answers as it likes, with the transfer cap lowered by whom it may be,
    `laser_read_blocks()` and `laser_read_cd_blocks()` return; what they say they read is in the buffer,
    they say no more than was asked, and nothing outside the buffer is written. A sector type that is
    none is refused with nothing done. -/
theorem blockReads_exact (port : ScsiPort W) (drive : Drive) (hserves : port.Serves drive)
    (lba : UInt32) (numBlocks : Int) (memory : Nat → UInt8) (s : Sys W)
    (hcap : s.entry.maxTransferBytes ≤ laserMaxBytesPerTransfer) :
    (∃ fuel r, laserReadBlocks port fuel lba numBlocks memory s = some r
        ∧ ExactRead drive .read10 lba numBlocks memory r.ret r.memory)
      ∧ ∀ sectorType : Int, ∃ fuel r,
        laserReadCdBlocks port fuel lba numBlocks sectorType memory s = some r
        ∧ match readCdKind sectorType with
          | some kind => ExactRead drive kind lba numBlocks memory r.ret r.memory
          | none => r.ret = LaserStatus.errInvalid.code ∧ r.memory = memory := by
  refine ⟨readChunked_exact hserves .read10 lba numBlocks memory s hcap, ?_⟩
  intro sectorType
  unfold laserReadCdBlocks
  cases readCdKind sectorType with
  | some kind => exact readChunked_exact hserves kind lba numBlocks memory s hcap
  | none => exact ⟨0, _, rfl, rfl, rfl⟩

/-- The bytes of `n` blocks. -/
def Drive.bytes (drive : Drive) (kind : ReadKind) (lba n : Nat) : List UInt8 :=
  (List.range (n * kind.blockSize)).map fun i =>
    drive.byte kind (lba + i / kind.blockSize) (i % kind.blockSize)

/-- A drive that reads whatever is on the medium, and refuses everything else. -/
def Drive.reader (drive : Drive) : ScsiPort Unit where
  scsiCdb call s :=
    match decodeRead call.cdb with
    | some (kind, lba, n) =>
      if lba + n ≤ drive.capacity ∧ call.dataLen = (n * kind.blockSize : Nat) then
        (⟨.ok, some (n * kind.blockSize), drive.bytes kind lba n⟩, s)
      else (⟨.errRefused, none, []⟩, s)
    | none => (⟨.errRefused, none, []⟩, s)
  otherThreads s := s

theorem Drive.reader_serves (drive : Drive) : drive.reader.Serves drive := by
  refine ⟨fun call s => ⟨?_, ?_⟩, fun call s => ?_, fun s => Nat.le_refl _⟩
  · simp only [reader]
    split
    · split
      · next hfit =>
          rw [hfit.2, Int.toNat_natCast]
          simp [Drive.bytes]
      · exact Nat.zero_le _
    · exact Nat.zero_le _
  · intro hok kind lba n hdecode hlen
    simp only [reader, hdecode] at hok ⊢
    by_cases hfit : lba + n ≤ drive.capacity ∧ call.dataLen = (n * kind.blockSize : Nat)
    · rw [if_pos hfit]
      refine ⟨hfit.1, _, Nat.le_refl _, rfl, ?_⟩
      intro i hi
      simp [Drive.bytes, hi]
    · rw [if_neg hfit] at hok
      cases hok
  · simp only [reader]
    split
    · split <;> exact Nat.le_refl _
    · exact Nat.le_refl _

/-- A hundred blocks from 80, of a medium of 100: the last chunks are refused. -/
theorem blockReads_exact_past_end :
    let drive : Drive := ⟨100, by decide, fun _ block offset => UInt8.ofNat (block + offset)⟩
    let s : Sys Unit := ⟨{ inUse := true, maxTransferBytes := 65536 }, (), []⟩
    ∃ fuel r, laserReadBlocks drive.reader fuel 80 100 (fun _ => 0) s = some r
      ∧ ExactRead drive .read10 80 100 (fun _ => 0) r.ret r.memory := by
  intro drive s
  exact (blockReads_exact drive.reader drive drive.reader_serves 80 100 (fun _ => 0) s
    (Nat.le_refl _)).1

end Liblaser
