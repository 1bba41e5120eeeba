import Liblaser.Scsi.Cdb

/-!
# `Blocks.Chunked` — `read_chunked()` and the two block reads over it

The loop that reads a range of blocks in commands the device takes, and negotiates their size when one
fails. What it calls is a `ScsiPort`: `laser_scsi_cdb()` on the token, and what other threads do to the
entry in the meantime. Memory is a function of the address, 0 being the first byte of the caller's
buffer, so a store past the end of it would be seen.

The loop is `Loop.iterate` over `readTurn`; fuel stands for nothing but its turns.
-/

namespace Liblaser

open Bytes Loop

variable {W : Type}

/-! ## CDBs -/

/-- What the two public helpers do differently: the block size, and the CDB of one chunk. The two bytes
    are `read_cd_ctx_t`. -/
inductive ReadKind where
  | read10
  | readCd (expectedType fieldFlags : UInt8)
deriving DecidableEq, Repr

/-- `block_size`. -/
def ReadKind.blockSize : ReadKind → Nat
  | .read10 => 2048
  | .readCd _ _ => 2352

/-- `build_read10_cdb()`, the first `cdb_len` bytes. -/
def buildRead10Cdb (lba : UInt32) (blocks : Nat) : List UInt8 :=
  [0x28, 0] ++ beBytes 4 lba.toNat ++ [0] ++ beBytes 2 blocks ++ [0]

/-- `build_read_cd_cdb()`, the first `cdb_len` bytes. -/
def buildReadCdCdb (expectedType fieldFlags : UInt8) (lba : UInt32) (blocks : Nat) : List UInt8 :=
  [0xBE, expectedType] ++ beBytes 4 lba.toNat ++ beBytes 3 blocks ++ [fieldFlags, 0, 0]

def ReadKind.buildCdb : ReadKind → UInt32 → Nat → List UInt8
  | .read10 => buildRead10Cdb
  | .readCd expectedType fieldFlags => buildReadCdCdb expectedType fieldFlags

/-- What a number is as a C `int`. -/
def cInt (n : Nat) : Int := (n : Int).bmod (2 ^ 32)

theorem cInt_lt (n : Nat) : cInt n < 2 ^ 31 := by
  have h := @Int.bmod_lt n (2 ^ 32) (by decide)
  unfold cInt
  omega

theorem cInt_of_lt {n : Nat} (h : n < 2 ^ 31) : cInt n = n := by
  unfold cInt
  rw [Int.bmod_eq_of_le] <;> omega

/-- The command that reads one chunk. -/
def ReadKind.call (kind : ReadKind) (lba : UInt32) (chunk : Nat) : CdbCall where
  cdb := kind.buildCdb lba chunk
  data := some []
  dataLen := cInt (chunk * kind.blockSize)
  dataIn := true
  wantActualLen := true
  dataLen_lt := cInt_lt _

/-! ## The loop -/

/-- What the loop runs on: `laser_scsi_cdb()` on the token, and the other threads. -/
structure ScsiPort (W : Type) where
  scsiCdb : CdbCall → Sys W → CdbResult × Sys W
  otherThreads : Sys W → Sys W

/-- The locals of the loop. -/
structure ReadVars where
  blocksDone : Nat := 0
  trialCap : Nat := 0
  trialEnd : Nat := 0
  trialFailed : Nat := 0
deriving DecidableEq, Repr

/-- The loop between two turns: the locals, memory, the entry and the world. -/
structure ReadState (W : Type) where
  vars : ReadVars
  memory : Nat → UInt8
  sys : Sys W

/-- How the call ends: what it returns, memory, the entry and the world. -/
structure ReadResult (W : Type) where
  ret : Int
  memory : Nat → UInt8
  sys : Sys W

/-- `lower_transfer_cap()`. -/
def lowerTransferCap (bytes : Nat) (s : Sys W) : Sys W :=
  if bytes < s.entry.maxTransferBytes then
    { s with entry := { s.entry with maxTransferBytes := bytes } }
  else s

/-- The transfer cap a turn keeps to: the entry's, or the trial's when that is lower. -/
def currentCap (registered : Bool) (v : ReadVars) (s : Sys W) : Nat :=
  -- a token without an entry keeps to the largest size
  let cap := if registered then s.entry.maxTransferBytes else laserMaxBytesPerTransfer
  if 0 < v.trialCap ∧ v.trialCap < cap then v.trialCap else cap

/-- The blocks of the next chunk. -/
def nextChunk (blockSize cap left : Nat) : Nat :=
  let maxBlocksPerChunk := if cap / blockSize < 1 then 1 else cap / blockSize
  if maxBlocksPerChunk < left then maxBlocksPerChunk else left

/-- The size tried after a failed one: half of it, down to the floor. -/
def nextTrial (tried : Nat) : Nat :=
  if tried / 2 < laserMinBytesPerTransfer then laserMinBytesPerTransfer else tried / 2

/-- The negotiation begins or goes on: its first failure sets the range it must cover. -/
def ReadVars.onTrial (v : ReadVars) (chunk tried : Nat) : ReadVars :=
  let v := if v.trialCap = 0 then
      { v with trialEnd := v.blocksDone + chunk, trialFailed := tried }
    else v
  { v with trialCap := nextTrial tried }

@[simp] theorem ReadVars.onTrial_blocksDone (v : ReadVars) (chunk tried : Nat) :
    (v.onTrial chunk tried).blocksDone = v.blocksDone := by
  unfold onTrial
  dsimp only
  split <;> rfl

@[simp] theorem ReadVars.onTrial_trialCap (v : ReadVars) (chunk tried : Nat) :
    (v.onTrial chunk tried).trialCap = nextTrial tried := rfl

/-- The first failure sets the range, -/
theorem ReadVars.onTrial_trialEnd_first {v : ReadVars} (hfirst : v.trialCap = 0) (chunk tried : Nat) :
    (v.onTrial chunk tried).trialEnd = v.blocksDone + chunk := by
  unfold onTrial
  rw [if_pos hfirst]

/-- and a further one leaves it. -/
theorem ReadVars.onTrial_trialEnd {v : ReadVars} (hon : 0 < v.trialCap) (chunk tried : Nat) :
    (v.onTrial chunk tried).trialEnd = v.trialEnd := by
  unfold onTrial
  rw [if_neg (by omega)]

/-- A size on trial is smaller than the one that failed. -/
theorem nextTrial_lt {tried : Nat} (h : laserMinBytesPerTransfer < tried) :
    0 < nextTrial tried ∧ nextTrial tried < tried := by
  unfold nextTrial
  unfold laserMinBytesPerTransfer at h ⊢
  split <;> omega

/-- A chunk that failed: out, or the same blocks again at half the size. -/
def chunkFailed (kind : ReadKind) (registered : Bool) (chunk : Nat) (st : LaserStatus)
    (t : ReadState W) : Turn (ReadState W) (ReadResult W) :=
  let tried := chunk * kind.blockSize
  if st = .errMediaGone ∨ st = .errNoDevice ∨ st = .errCancelled then .done ⟨st.code, t.memory, t.sys⟩
  -- a plain I/O error on a large transfer may be its size: try it smaller
  else if st = .errIo ∧ 1 < chunk ∧ registered ∧ laserMinBytesPerTransfer < tried then
    .again { t with vars := t.vars.onTrial chunk tried }
  else
    .done ⟨if 0 < t.vars.blocksDone then t.vars.blocksDone else st.code, t.memory, t.sys⟩

/-- A chunk that was read, in full or not. -/
def chunkRead (port : ScsiPort W) (kind : ReadKind) (chunk actualLen : Nat) (t : ReadState W) :
    Turn (ReadState W) (ReadResult W) :=
  let v := t.vars
  if actualLen ≠ chunk * kind.blockSize then
    let shortTotal := v.blocksDone + actualLen / kind.blockSize
    .done ⟨if shortTotal = 0 then LaserStatus.errIo.code else shortTotal, t.memory, t.sys⟩
  else
    let v := { v with blocksDone := v.blocksDone + chunk }
    -- the range of the first failure is covered: the size on trial becomes the cap
    if 0 < v.trialCap ∧ v.trialEnd ≤ v.blocksDone then
      .again { t with
        vars := { v with trialCap := 0 }
        sys := lowerTransferCap v.trialCap (port.otherThreads t.sys) }
    else .again { t with vars := v }

/-- One turn of the `while` loop. -/
def readTurn (port : ScsiPort W) (kind : ReadKind) (registered : Bool) (lba : UInt32)
    (numBlocks : Nat) (t : ReadState W) : Turn (ReadState W) (ReadResult W) :=
  let v := t.vars
  if v.blocksDone < numBlocks then
    -- the cap is read again for each chunk, as another thread may have lowered it
    let s := port.otherThreads t.sys
    let chunk := nextChunk kind.blockSize (currentCap registered v s) (numBlocks - v.blocksDone)
    let (r, s) := port.scsiCdb (kind.call (lba + UInt32.ofNat v.blocksDone) chunk) s
    let memory := storeAt t.memory (v.blocksDone * kind.blockSize) r.data
    if r.status ≠ .ok then chunkFailed kind registered chunk r.status ⟨v, memory, s⟩
    else chunkRead port kind chunk (r.actualLen.getD 0) ⟨v, memory, s⟩
  else .done ⟨v.blocksDone, t.memory, t.sys⟩

/-- A failed chunk is tried again after a plain I/O error only, and moves nothing but the locals. -/
theorem chunkFailed_again {kind : ReadKind} {registered : Bool} {chunk : Nat} {st : LaserStatus}
    {t u : ReadState W} (hb : chunkFailed kind registered chunk st t = .again u) :
    st = .errIo ∧ u.sys = t.sys := by
  unfold chunkFailed at hb
  dsimp only at hb
  split at hb
  · cases hb
  split at hb
  · next hretry =>
      injection hb with hb
      subst hb
      exact ⟨hretry.1, rfl⟩
  · cases hb

/-- After a chunk the loop goes on when it was read in full; the cap may have come down meanwhile. -/
theorem chunkRead_again {port : ScsiPort W} {kind : ReadKind} {chunk actualLen : Nat}
    {t u : ReadState W} (hb : chunkRead port kind chunk actualLen t = .again u) :
    u.vars.blocksDone = t.vars.blocksDone + chunk
      ∧ (u.sys = t.sys ∨ ∃ bytes, u.sys = lowerTransferCap bytes (port.otherThreads t.sys)) := by
  unfold chunkRead at hb
  dsimp only at hb
  split at hb
  · cases hb
  split at hb
  · injection hb with hb
    subst hb
    exact ⟨rfl, .inr ⟨_, rfl⟩⟩
  · injection hb with hb
    subst hb
    exact ⟨rfl, .inl rfl⟩

/-- A turn with blocks left, on the answer to its command. -/
theorem readTurn_of_lt {port : ScsiPort W} {kind : ReadKind} {registered : Bool} {lba : UInt32}
    {numBlocks : Nat} {t : ReadState W} (hleft : t.vars.blocksDone < numBlocks) :
    ∃ s chunk r s', s = port.otherThreads t.sys
      ∧ chunk = nextChunk kind.blockSize (currentCap registered t.vars s)
          (numBlocks - t.vars.blocksDone)
      ∧ port.scsiCdb (kind.call (lba + UInt32.ofNat t.vars.blocksDone) chunk) s = (r, s')
      ∧ readTurn port kind registered lba numBlocks t
        = let u : ReadState W :=
            ⟨t.vars, storeAt t.memory (t.vars.blocksDone * kind.blockSize) r.data, s'⟩
          if r.status ≠ .ok then chunkFailed kind registered chunk r.status u
          else chunkRead port kind chunk (r.actualLen.getD 0) u := by
  refine ⟨_, _, _, _, rfl, rfl, rfl, ?_⟩
  unfold readTurn
  rw [if_pos hleft]

/-- `read_chunked()`; `none` when it has not returned within `fuel` turns. -/
def readChunked (port : ScsiPort W) (kind : ReadKind) (fuel : Nat) (lba : UInt32) (numBlocks : Int)
    (memory : Nat → UInt8) (s : Sys W) : Option (ReadResult W) :=
  if numBlocks ≤ 0 then some ⟨0, memory, s⟩
  else iterate (readTurn port kind s.entry.inUse lba numBlocks.toNat) fuel ⟨{}, memory, s⟩

/-! ## The two block reads -/

/-- `laser_read_blocks()`. -/
def laserReadBlocks (port : ScsiPort W) (fuel : Nat) (lba : UInt32) (numBlocks : Int)
    (memory : Nat → UInt8) (s : Sys W) : Option (ReadResult W) :=
  readChunked port .read10 fuel lba numBlocks memory s

/-- Bytes 1 and 9 of READ CD for each `laser_cd_sector_t`: AUDIO, MODE2_FORM2 and ANY; `none` for any
    other value. -/
def readCdKind (sectorType : Int) : Option ReadKind :=
  if sectorType = 0 then some (.readCd 0x04 0x10)
  else if sectorType = 1 then some (.readCd 0x14 0xF8)
  else if sectorType = 2 then some (.readCd 0x00 0xF8)
  else none

/-- `laser_read_cd_blocks()`. -/
def laserReadCdBlocks (port : ScsiPort W) (fuel : Nat) (lba : UInt32) (numBlocks : Int)
    (sectorType : Int) (memory : Nat → UInt8) (s : Sys W) : Option (ReadResult W) :=
  match readCdKind sectorType with
  | some kind => readChunked port kind fuel lba numBlocks memory s
  | none => some ⟨LaserStatus.errInvalid.code, memory, s⟩

end Liblaser
