import Liblaser.Blocks.Exact

/-!
# `Blocks.Device` — a drive that fails by size and by block

The device the negotiation of the transfer size is made for: a bridge that fails every transfer above
some size, a disc with blocks that cannot be read, or both. `ScsiPort.IsDevice` is a port on one; the
device reads its commands with `decodeRead`, from the bytes, and fails them with `LASER_ERR_IO`.

`ReadCall` is one call of `read_chunked()` with its arguments, and **`ReadCall.turn_case`** says once what
a turn of it can be on such a device. Addresses are 32-bit throughout, so that a read which wraps is
nothing special.
-/

namespace Liblaser

open Bytes Loop

variable {W : Type}

/-! ## The device -/

/-- The largest transfer the bridge passes, if it has a limit; the blocks of the disc that cannot be
    read; and the bytes of the others, as each kind of read returns them. -/
structure Device where
  limit : Option Nat
  bad : UInt32 → Bool
  byte : ReadKind → UInt32 → Nat → UInt8

/-- A read of `n` blocks in `bytes` bytes is too large, or covers a block that cannot be read. -/
def Device.Fails (d : Device) (lba : UInt32) (n bytes : Nat) : Prop :=
  (∃ limit ∈ d.limit, limit < bytes) ∨ ∃ i < n, d.bad (lba + UInt32.ofNat i) = true

instance (d : Device) (lba : UInt32) (n bytes : Nat) : Decidable (d.Fails lba n bytes) :=
  inferInstanceAs (Decidable (_ ∨ _))

/-- A port on the device: a read fails with `LASER_ERR_IO` exactly when the device fails it, and no
    command or thread raises the transfer cap. -/
structure ScsiPort.IsDevice (port : ScsiPort W) (d : Device) : Prop where
  fails : ∀ (call : CdbCall) (s : Sys W) (kind : ReadKind) (lba : UInt32) (n : Nat),
    decodeRead call.cdb = some (kind, lba.toNat, n) →
    call.dataLen = (n * kind.blockSize : Nat) → d.Fails lba n (n * kind.blockSize) →
    (port.scsiCdb call s).1.status = .errIo
  /-- A read that passes may be cut short. -/
  passes : ∀ (call : CdbCall) (s : Sys W) (kind : ReadKind) (lba : UInt32) (n : Nat),
    decodeRead call.cdb = some (kind, lba.toNat, n) →
    call.dataLen = (n * kind.blockSize : Nat) → ¬ d.Fails lba n (n * kind.blockSize) →
    (port.scsiCdb call s).1.status = .ok
      ∧ ∃ k ≤ n * kind.blockSize, (port.scsiCdb call s).1.actualLen = some k
  scsiCdb_cap : ∀ call s,
    (port.scsiCdb call s).2.entry.maxTransferBytes ≤ s.entry.maxTransferBytes
  otherThreads_cap : ∀ s,
    (port.otherThreads s).entry.maxTransferBytes ≤ s.entry.maxTransferBytes

/-- The bytes of `n` blocks from `lba`. -/
def Device.data (d : Device) (kind : ReadKind) (lba : UInt32) (n : Nat) : List UInt8 :=
  (List.range (n * kind.blockSize)).map fun i =>
    d.byte kind (lba + UInt32.ofNat (i / kind.blockSize)) (i % kind.blockSize)

/-- The device as a port, with nobody else on it: what it reads, it reads in full. -/
def Device.port (d : Device) : ScsiPort Unit where
  scsiCdb call s :=
    match decodeRead call.cdb with
    | some (kind, lba, n) =>
      if d.Fails (UInt32.ofNat lba) n (n * kind.blockSize) then (⟨.errIo, none, []⟩, s)
      else (⟨.ok, some (n * kind.blockSize), d.data kind (UInt32.ofNat lba) n⟩, s)
    | none => (⟨.errRefused, none, []⟩, s)
  otherThreads s := s

theorem Device.port_scsiCdb (d : Device) {call : CdbCall} {s : Sys Unit} {kind : ReadKind} {lba : UInt32}
    {n : Nat} (hdecode : decodeRead call.cdb = some (kind, lba.toNat, n)) :
    d.port.scsiCdb call s = if d.Fails lba n (n * kind.blockSize) then (⟨.errIo, none, []⟩, s)
      else (⟨.ok, some (n * kind.blockSize), d.data kind lba n⟩, s) := by
  unfold port
  dsimp only
  rw [hdecode]
  dsimp only
  rw [UInt32.ofNat_toNat]

/-- Nothing changes on it but what is read. -/
theorem Device.port_state (d : Device) (call : CdbCall) (s : Sys Unit) :
    (d.port.scsiCdb call s).2 = s := by
  unfold port
  dsimp only
  split
  · split <;> rfl
  · rfl

theorem Device.port_isDevice (d : Device) : d.port.IsDevice d where
  fails := by
    intro call s kind lba n hdecode _ hfails
    rw [d.port_scsiCdb hdecode, if_pos hfails]
  passes := by
    intro call s kind lba n hdecode _ hpass
    rw [d.port_scsiCdb hdecode, if_neg hpass]
    exact ⟨rfl, _, Nat.le_refl _, rfl⟩
  scsiCdb_cap call s := by simp [d.port_state]
  otherThreads_cap _ := Nat.le_refl _

/-! ## One call of `read_chunked()` -/

/-- One call of `read_chunked()`: its arguments, the caller's memory, and the entry with its world when
    it begins. -/
structure ReadCall (W : Type) where
  port : ScsiPort W
  kind : ReadKind
  lba : UInt32
  numBlocks : Int
  memory : Nat → UInt8
  sys : Sys W

namespace ReadCall

variable (c : ReadCall W)

/-- `entry != NULL`. -/
def registered : Bool := c.sys.entry.inUse

def turn : ReadState W → Turn (ReadState W) (ReadResult W) :=
  readTurn c.port c.kind c.registered c.lba c.numBlocks.toNat

def start : ReadState W := ⟨{}, c.memory, c.sys⟩

/-- The call returns `r`. -/
def Returns (r : ReadResult W) : Prop :=
  ∃ fuel, readChunked c.port c.kind fuel c.lba c.numBlocks c.memory c.sys = some r

/-- The cap of a turn. -/
def cap (t : ReadState W) : Nat := currentCap c.registered t.vars (c.port.otherThreads t.sys)

/-- The blocks of a turn's transfer. -/
def chunk (t : ReadState W) : Nat :=
  nextChunk c.kind.blockSize (c.cap t) (c.numBlocks.toNat - t.vars.blocksDone)

/-- The bytes of a turn's transfer. -/
def bytes (t : ReadState W) : Nat := c.chunk t * c.kind.blockSize

/-- Where a turn's transfer begins. -/
def address (t : ReadState W) : UInt32 := c.lba + UInt32.ofNat t.vars.blocksDone

/-- The answer to a turn's command, and the state it leaves. -/
def reply (t : ReadState W) : CdbResult × Sys W :=
  c.port.scsiCdb (c.kind.call (c.address t) (c.chunk t)) (c.port.otherThreads t.sys)

/-- Memory after a turn's command. -/
def stored (t : ReadState W) : Nat → UInt8 :=
  storeAt t.memory (t.vars.blocksDone * c.kind.blockSize) (c.reply t).1.data

/-- A turn with blocks left, as the device settles it. -/
def Fails (d : Device) (t : ReadState W) : Prop := d.Fails (c.address t) (c.chunk t) (c.bytes t)

instance (d : Device) (t : ReadState W) : Decidable (c.Fails d t) :=
  inferInstanceAs (Decidable (d.Fails _ _ _))

/-- A chunk that failed is tried again smaller. -/
def Retries (t : ReadState W) : Prop :=
  1 < c.chunk t ∧ c.registered = true ∧ laserMinBytesPerTransfer < c.bytes t

/-- What a turn can be. -/
inductive TurnCase (d : Device) (t : ReadState W) :
    Turn (ReadState W) (ReadResult W) → Prop where
  /-- Every block is read. -/
  | finished : c.numBlocks.toNat ≤ t.vars.blocksDone →
      TurnCase d t (.done ⟨t.vars.blocksDone, t.memory, t.sys⟩)
  /-- The transfer failed: the same blocks again, smaller. -/
  | retried : t.vars.blocksDone < c.numBlocks.toNat → c.Fails d t → c.Retries t →
      TurnCase d t (.again ⟨t.vars.onTrial (c.chunk t) (c.bytes t), c.stored t, (c.reply t).2⟩)
  /-- The transfer failed, and no smaller one is left to try. -/
  | gaveUp : t.vars.blocksDone < c.numBlocks.toNat → c.Fails d t → ¬ c.Retries t →
      TurnCase d t (.done
        ⟨if 0 < t.vars.blocksDone then t.vars.blocksDone else LaserStatus.errIo.code, c.stored t,
          (c.reply t).2⟩)
  /-- The transfer was cut short. -/
  | short (k : Nat) (ret : Int) : t.vars.blocksDone < c.numBlocks.toNat → ¬ c.Fails d t →
      (c.reply t).1.actualLen = some k → k < c.bytes t →
      ret ≤ (t.vars.blocksDone + k / c.kind.blockSize : Nat) →
      TurnCase d t (.done ⟨ret, c.stored t, (c.reply t).2⟩)
  /-- The chunk was read, and the range of a failure is not covered yet, if there is one. -/
  | advanced : t.vars.blocksDone < c.numBlocks.toNat → ¬ c.Fails d t →
      (c.reply t).1.actualLen = some (c.bytes t) →
      (0 < t.vars.trialCap → t.vars.blocksDone + c.chunk t < t.vars.trialEnd) →
      TurnCase d t (.again
        ⟨{ t.vars with blocksDone := t.vars.blocksDone + c.chunk t }, c.stored t, (c.reply t).2⟩)
  /-- The chunk covers the range that failed: the negotiation is over. -/
  | settled : t.vars.blocksDone < c.numBlocks.toNat → ¬ c.Fails d t →
      (c.reply t).1.actualLen = some (c.bytes t) → 0 < t.vars.trialCap →
      t.vars.trialEnd ≤ t.vars.blocksDone + c.chunk t →
      TurnCase d t (.again
        ⟨{ t.vars with blocksDone := t.vars.blocksDone + c.chunk t, trialCap := 0 }, c.stored t,
          lowerTransferCap t.vars.trialCap (c.port.otherThreads (c.reply t).2)⟩)

variable {c} {d : Device} {t u : ReadState W}

/-! ### The size of a transfer -/

theorem chunk_spec (hleft : t.vars.blocksDone < c.numBlocks.toNat) :
    1 ≤ c.chunk t ∧ t.vars.blocksDone + c.chunk t ≤ c.numBlocks.toNat
      ∧ (1 < c.chunk t → c.bytes t ≤ c.cap t) := by
  obtain ⟨hpos, hle, hfit⟩ := @nextChunk_spec c.kind.blockSize (c.cap t)
    (c.numBlocks.toNat - t.vars.blocksDone) (by omega)
  refine ⟨hpos, ?_, hfit⟩
  show t.vars.blocksDone + nextChunk _ _ _ ≤ _
  omega

theorem cap_le (hd : c.port.IsDevice d)
    (hcap : t.sys.entry.maxTransferBytes ≤ laserMaxBytesPerTransfer) :
    c.cap t ≤ laserMaxBytesPerTransfer ∧ (0 < t.vars.trialCap → c.cap t ≤ t.vars.trialCap) :=
  currentCap_le (Nat.le_trans (hd.otherThreads_cap _) hcap)

theorem bytes_le (hd : c.port.IsDevice d)
    (hcap : t.sys.entry.maxTransferBytes ≤ laserMaxBytesPerTransfer)
    (hleft : t.vars.blocksDone < c.numBlocks.toNat) : c.bytes t ≤ laserMaxBytesPerTransfer :=
  nextChunk_size c.kind (by omega) (cap_le hd hcap).1

/-! ### What a turn can be -/

/-- The command of a turn as the device reads it. -/
theorem decode_turn (hsize : c.bytes t ≤ laserMaxBytesPerTransfer) :
    decodeRead (c.kind.call (c.address t) (c.chunk t)).cdb
        = some (c.kind, (c.address t).toNat, c.chunk t)
      ∧ (c.kind.call (c.address t) (c.chunk t)).dataLen = (c.bytes t : Nat) := by
  unfold laserMaxBytesPerTransfer at hsize
  have hbs : 2048 ≤ c.kind.blockSize := by cases c.kind <;> simp [ReadKind.blockSize]
  have hmul : c.chunk t * 2048 ≤ c.bytes t := Nat.mul_le_mul_left _ hbs
  unfold bytes at hsize hmul ⊢
  simp only [ReadKind.call, cInt_of_lt (show c.chunk t * c.kind.blockSize < 2 ^ 31 by omega)]
  exact ⟨decodeRead_buildCdb _ _ (by omega), trivial⟩

/-- A turn with blocks left, on the answer to its command. -/
theorem turn_of_lt (hleft : t.vars.blocksDone < c.numBlocks.toNat) :
    c.turn t = if (c.reply t).1.status ≠ .ok then
        chunkFailed c.kind c.registered (c.chunk t) (c.reply t).1.status
          ⟨t.vars, c.stored t, (c.reply t).2⟩
      else chunkRead c.port c.kind (c.chunk t) ((c.reply t).1.actualLen.getD 0)
          ⟨t.vars, c.stored t, (c.reply t).2⟩ := by
  obtain ⟨s, chunk, r, s', rfl, rfl, hreply, hturn⟩ :=
    @readTurn_of_lt _ c.port c.kind c.registered c.lba c.numBlocks.toNat t hleft
  have hreply : c.reply t = (r, s') := hreply
  unfold stored
  rw [hreply]
  exact hturn

/-- **What a turn can be** on the device. -/
theorem turn_case (hd : c.port.IsDevice d)
    (hcap : t.sys.entry.maxTransferBytes ≤ laserMaxBytesPerTransfer) :
    c.TurnCase d t (c.turn t) := by
  by_cases hleft : t.vars.blocksDone < c.numBlocks.toNat
  case neg =>
    have hturn : c.turn t = .done ⟨t.vars.blocksDone, t.memory, t.sys⟩ := if_neg hleft
    rw [hturn]
    exact .finished (Nat.le_of_not_lt hleft)
  obtain ⟨hdecode, hlen⟩ := decode_turn (bytes_le hd hcap hleft)
  rw [turn_of_lt hleft]
  by_cases hfails : c.Fails d t
  · have hst : (c.reply t).1.status = .errIo := hd.fails _ _ _ _ _ hdecode hlen hfails
    rw [hst, if_pos (by decide)]
    unfold chunkFailed
    dsimp only
    rw [if_neg (by decide)]
    by_cases hretry : c.Retries t
    · rw [if_pos ⟨rfl, hretry⟩]
      exact .retried hleft hfails hretry
    · rw [if_neg (fun hall => hretry hall.2)]
      exact .gaveUp hleft hfails hretry
  · obtain ⟨hst, k, hk, hactual⟩ :
        (c.reply t).1.status = .ok ∧ ∃ k ≤ c.bytes t, (c.reply t).1.actualLen = some k :=
      hd.passes _ _ _ _ _ hdecode hlen hfails
    rw [if_neg (not_not_intro hst), hactual, Option.getD_some]
    unfold chunkRead
    dsimp only
    by_cases hfull : k = c.bytes t
    · subst hfull
      rw [if_neg (show ¬ c.bytes t ≠ c.chunk t * c.kind.blockSize from not_not_intro rfl)]
      by_cases hover : 0 < t.vars.trialCap ∧ t.vars.trialEnd ≤ t.vars.blocksDone + c.chunk t
      · rw [if_pos hover]
        exact .settled hleft hfails hactual hover.1 hover.2
      · rw [if_neg hover]
        refine .advanced hleft hfails hactual ?_
        intro htrial
        exact Nat.lt_of_not_le fun hle => hover ⟨htrial, hle⟩
    · rw [if_pos (show k ≠ c.chunk t * c.kind.blockSize from hfull)]
      refine .short k _ hleft hfails hactual (Nat.lt_of_le_of_ne hk hfull) ?_
      split
      · exact Int.le_trans (Int.le_of_lt (LaserStatus.code_neg (by decide))) (Int.natCast_nonneg _)
      · exact Int.le_refl _

/-- A turn that was read moved blocks that can be read, in no more bytes than the device passes. -/
theorem passed_of_not_fails (hpass : ¬ c.Fails d t) :
    (∀ limit ∈ d.limit, c.bytes t ≤ limit)
      ∧ ∀ i < c.chunk t, d.bad (c.address t + UInt32.ofNat i) = false := by
  constructor
  · intro limit hlimit
    exact Nat.le_of_not_lt fun hlt => hpass (.inl ⟨limit, hlimit, hlt⟩)
  · intro i hi
    exact Bool.eq_false_iff.mpr fun hbad => hpass (.inr ⟨i, hi, hbad⟩)

/-- Block `i` of a turn's transfer, counted from the first block of the call. -/
theorem address_add (t : ReadState W) (i : Nat) :
    c.address t + UInt32.ofNat i = c.lba + UInt32.ofNat (t.vars.blocksDone + i) := by
  unfold address
  rw [UInt32.add_assoc, ← UInt32.ofNat_add]

end ReadCall

end Liblaser
