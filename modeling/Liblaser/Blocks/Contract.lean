import Liblaser.Blocks.Exact

/-!
# `Blocks.Contract` — what a block read returns

The return value of `read_chunked()` against the commands it made: `ScsiPort.logged` writes down every
result of `laser_scsi_cdb()` as the loop gets it, and **`readChunked_contract`** says which number the
caller is given for which results. Nothing is assumed of the drive, of the entry or of the other threads;
not even of the transfer cap, so the measure that ends the loop (`readTurns`) is one on the request alone.

The contract is what a caller's own loop rests on. `callerTurn` is that loop, and it ends.
-/

namespace Liblaser

open Bytes Loop

variable {W : Type}

/-! ## The results of a call -/

/-- The statuses that are returned even after chunks that were read. -/
def CdbResult.terminal (r : CdbResult) : Prop :=
  r.status = .errMediaGone ∨ r.status = .errNoDevice ∨ r.status = .errCancelled

/-- The whole blocks one command brought back. -/
def CdbResult.blocks (kind : ReadKind) (r : CdbResult) : Nat :=
  if r.status = .ok then r.actualLen.getD 0 / kind.blockSize else 0

/-- The whole blocks all of them brought back. -/
def blocksRead (kind : ReadKind) (log : List CdbResult) : Nat :=
  log.foldr (fun r n => r.blocks kind + n) 0

@[simp] theorem blocksRead_cons (kind : ReadKind) (r : CdbResult) (log : List CdbResult) :
    blocksRead kind (r :: log) = r.blocks kind + blocksRead kind log := by
  simp [blocksRead]

theorem CdbResult.blocks_of_ne_ok {kind : ReadKind} {r : CdbResult} (hst : r.status ≠ .ok) :
    r.blocks kind = 0 := if_neg hst

theorem CdbResult.blocks_of_ok {kind : ReadKind} {r : CdbResult} (hst : r.status = .ok) :
    r.blocks kind = r.actualLen.getD 0 / kind.blockSize := if_pos hst

theorem CdbResult.not_terminal_of_ok {r : CdbResult} (hst : r.status = .ok) : ¬ r.terminal := by
  unfold terminal
  rw [hst]
  rintro (h | h | h) <;> cases h

/-- The same state with a log beside the world. -/
def Sys.withLog (log : List CdbResult) (s : Sys W) : Sys (W × List CdbResult) :=
  ⟨s.entry, (s.world, log), s.trace⟩

/-- The state without its log. -/
def Sys.forget (s : Sys (W × List CdbResult)) : Sys W := ⟨s.entry, s.world.1, s.trace⟩

/-- The port that writes down what each command returned, newest first. -/
def ScsiPort.logged (port : ScsiPort W) : ScsiPort (W × List CdbResult) where
  scsiCdb call s :=
    let (r, s') := port.scsiCdb call s.forget
    (r, s'.withLog (r :: s.world.2))
  otherThreads s := (port.otherThreads s.forget).withLog s.world.2

def ReadState.forget (t : ReadState (W × List CdbResult)) : ReadState W :=
  ⟨t.vars, t.memory, t.sys.forget⟩

def ReadResult.forget (r : ReadResult (W × List CdbResult)) : ReadResult W :=
  ⟨r.ret, r.memory, r.sys.forget⟩

/-- The results of the commands of a call, newest first. -/
def readLog (port : ScsiPort W) (kind : ReadKind) (fuel : Nat) (lba : UInt32) (numBlocks : Int)
    (memory : Nat → UInt8) (s : Sys W) : List CdbResult :=
  match readChunked port.logged kind fuel lba numBlocks memory (s.withLog []) with
  | some r => r.sys.world.2
  | none => []

variable {port : ScsiPort W} {kind : ReadKind} {registered : Bool} {lba : UInt32} {numBlocks : Nat}

theorem chunkFailed_forget (chunk : Nat) (st : LaserStatus) (t : ReadState (W × List CdbResult)) :
    chunkFailed kind registered chunk st t.forget
      = (chunkFailed kind registered chunk st t).map ReadState.forget ReadResult.forget := by
  unfold chunkFailed
  dsimp only
  split
  · rfl
  · split <;> rfl

theorem lowerTransferCap_forget (bytes : Nat) (s : Sys (W × List CdbResult)) :
    lowerTransferCap bytes s.forget = (lowerTransferCap bytes s).forget := by
  unfold lowerTransferCap
  by_cases hlow : bytes < s.entry.maxTransferBytes
  · rw [if_pos hlow, if_pos (show bytes < s.forget.entry.maxTransferBytes from hlow)]
    rfl
  · rw [if_neg hlow, if_neg (show ¬ bytes < s.forget.entry.maxTransferBytes from hlow)]

theorem chunkRead_forget (chunk actualLen : Nat) (t : ReadState (W × List CdbResult)) :
    chunkRead port kind chunk actualLen t.forget
      = (chunkRead port.logged kind chunk actualLen t).map ReadState.forget ReadResult.forget := by
  obtain ⟨v, memory, s⟩ := t
  show chunkRead port kind chunk actualLen ⟨v, memory, s.forget⟩ = _
  unfold chunkRead
  dsimp only
  split
  · rfl
  · split
    · have hlower := lowerTransferCap_forget v.trialCap (port.logged.otherThreads s)
      show _ = Turn.again (ReadState.forget _)
      rw [ReadState.forget, ← hlower]
      rfl
    · rfl

/-- The log is never read. -/
theorem readTurn_forget (t : ReadState (W × List CdbResult)) :
    readTurn port kind registered lba numBlocks t.forget
      = (readTurn port.logged kind registered lba numBlocks t).map ReadState.forget
          ReadResult.forget := by
  by_cases hleft : t.vars.blocksDone < numBlocks
  · obtain ⟨s, chunk, r, s', hs, hchunk, hres, hturn⟩ :=
      @readTurn_of_lt _ port.logged kind registered lba numBlocks t hleft
    obtain ⟨s₁, chunk₁, r₁, s₁', hs₁, hchunk₁, hres₁, hturn₁⟩ :=
      @readTurn_of_lt _ port kind registered lba numBlocks t.forget hleft
    obtain rfl : s₁ = s.forget := by
      rw [hs₁, hs]
      rfl
    obtain rfl : chunk₁ = chunk := by
      rw [hchunk₁, hchunk]
      rfl
    obtain ⟨rfl, rfl⟩ : r₁ = r ∧ s₁' = s'.forget := by
      obtain ⟨rfl, rfl⟩ := Prod.mk.inj hres
      obtain ⟨rfl, rfl⟩ := Prod.mk.inj hres₁
      exact ⟨rfl, rfl⟩
    rw [hturn, hturn₁]
    dsimp only
    by_cases hst : r₁.status = .ok
    · rw [if_neg (not_not_intro hst), if_neg (not_not_intro hst)]
      exact chunkRead_forget chunk₁ _ ⟨t.vars, _, s'⟩
    · rw [if_pos hst, if_pos hst]
      exact chunkFailed_forget chunk₁ _ ⟨t.vars, _, s'⟩
  · unfold readTurn
    rw [if_neg hleft, if_neg (show ¬ t.forget.vars.blocksDone < numBlocks from hleft)]
    rfl

theorem readChunked_forget (fuel : Nat) (numBlocks : Int) (memory : Nat → UInt8)
    (s : Sys (W × List CdbResult)) :
    readChunked port kind fuel lba numBlocks memory s.forget
      = (readChunked port.logged kind fuel lba numBlocks memory s).map ReadResult.forget := by
  unfold readChunked
  by_cases hnone : numBlocks ≤ 0
  · rw [if_pos hnone, if_pos hnone]
    rfl
  · rw [if_neg hnone, if_neg hnone]
    exact iterate_map (s := (⟨{}, memory, s⟩ : ReadState (W × List CdbResult))) readTurn_forget

/-! ## The contract -/

/-- **The contract of a block read**, on the results of its commands. -/
structure ReadContract (kind : ReadKind) (numBlocks : Int) (log : List CdbResult) (ret : Int) :
    Prop where
  /-- Zero means that nothing was asked for. -/
  zero : ret = 0 ↔ numBlocks ≤ 0
  /-- A terminal status is returned, whatever was read before it. -/
  terminal : ∀ r ∈ log, r.terminal → ret = r.status.code
  /-- Otherwise the blocks that were read are reported, when there are any, -/
  progress : (∀ r ∈ log, ¬ r.terminal) → 0 < blocksRead kind log → ret = blocksRead kind log
  /-- and an error when there are none. -/
  nothing : (∀ r ∈ log, ¬ r.terminal) → blocksRead kind log = 0 → 0 < numBlocks →
    ∃ st, st ≠ .ok ∧ ret = LaserStatus.code st

/-- **The invariant of the loop**, on the log of the commands so far. -/
structure ReadSoFar (kind : ReadKind) (numBlocks : Nat) (t : ReadState (W × List CdbResult)) :
    Prop where
  done : t.vars.blocksDone = blocksRead kind t.sys.world.2
  done_le : t.vars.blocksDone ≤ numBlocks
  trial_le : t.vars.trialCap ≤ numBlocks * kind.blockSize
  live : ∀ r ∈ t.sys.world.2, ¬ r.terminal

/-- The size on trial; a first attempt counts as larger than any trial. -/
def ReadVars.trialSizeOf (limit : Nat) (v : ReadVars) : Nat :=
  if v.trialCap = 0 then limit + 1 else v.trialCap

/-- Blocks left, then the size on trial. -/
def turnsLeft (kind : ReadKind) (numBlocks : Nat) (v : ReadVars) : Nat :=
  (numBlocks - v.blocksDone) * (numBlocks * kind.blockSize + 2)
    + v.trialSizeOf (numBlocks * kind.blockSize)

/-- Turns enough for any read of so many blocks. -/
def readTurns (kind : ReadKind) (numBlocks : Nat) : Nat :=
  numBlocks * (numBlocks * kind.blockSize + 2) + numBlocks * kind.blockSize + 2

theorem ReadVars.trialSizeOf_of_pos {limit : Nat} {v : ReadVars} (h : 0 < v.trialCap) :
    v.trialSizeOf limit = v.trialCap := if_neg (by omega)

theorem ReadVars.trialSizeOf_le {limit : Nat} {v : ReadVars} (h : v.trialCap ≤ limit) :
    v.trialSizeOf limit ≤ limit + 1 := by
  unfold trialSizeOf
  split <;> omega

/-- A chunk read in full outweighs any size on trial. -/
theorem turnsLeft_of_done {v v' : ReadVars} (hmore : v.blocksDone < v'.blocksDone)
    (hle : v'.blocksDone ≤ numBlocks) (htrial : v'.trialCap ≤ numBlocks * kind.blockSize) :
    turnsLeft kind numBlocks v' < turnsLeft kind numBlocks v := by
  have hsmall := ReadVars.trialSizeOf_le htrial
  have hfewer : numBlocks - v'.blocksDone + 1 ≤ numBlocks - v.blocksDone := by omega
  have hmul := Nat.mul_le_mul_right (numBlocks * kind.blockSize + 2) hfewer
  rw [Nat.add_mul, Nat.one_mul] at hmul
  unfold turnsLeft
  omega

/-- A smaller size on trial for the same blocks. -/
theorem turnsLeft_of_trial {v v' : ReadVars} (hsame : v'.blocksDone = v.blocksDone)
    (hless : v'.trialSizeOf (numBlocks * kind.blockSize)
      < v.trialSizeOf (numBlocks * kind.blockSize)) :
    turnsLeft kind numBlocks v' < turnsLeft kind numBlocks v := by
  unfold turnsLeft
  rw [hsame]
  exact Nat.add_lt_add_left hless _

/-- Both ways a turn can go: on, with the invariant and a smaller measure, or out as the contract says
    for the commands made. -/
def TurnContract (kind : ReadKind) (numBlocks : Nat) (t : ReadState (W × List CdbResult)) :
    Turn (ReadState (W × List CdbResult)) (ReadResult (W × List CdbResult)) → Prop
  | .again u => ReadSoFar kind numBlocks u
      ∧ turnsLeft kind numBlocks u.vars < turnsLeft kind numBlocks t.vars
  | .done r => ReadContract kind numBlocks r.sys.world.2 r.ret

variable {t u : ReadState (W × List CdbResult)} {chunk : Nat} {r : CdbResult}

/-- A turn whose command is back: the chunk was sized by the rules, and the log has its result. -/
structure AfterCommand (kind : ReadKind) (numBlocks : Nat) (t : ReadState (W × List CdbResult))
    (chunk : Nat) (r : CdbResult) (u : ReadState (W × List CdbResult)) : Prop where
  soFar : ReadSoFar kind numBlocks t
  vars : u.vars = t.vars
  log : u.sys.world.2 = r :: t.sys.world.2
  chunk_pos : 1 ≤ chunk
  fits : t.vars.blocksDone + chunk ≤ numBlocks
  /-- During a negotiation a chunk of several blocks keeps to the size on trial. -/
  trial : 0 < t.vars.trialCap → 1 < chunk → chunk * kind.blockSize ≤ t.vars.trialCap

/-- Any return but a terminal one, after at least one block was asked for. -/
theorem ReadContract.of_live {log : List CdbResult} {ret : Int} (hpos : 0 < numBlocks)
    (hlive : ∀ r ∈ log, ¬ r.terminal)
    (hret : (0 < blocksRead kind log ∧ ret = blocksRead kind log)
      ∨ (blocksRead kind log = 0 ∧ ∃ st, st ≠ .ok ∧ ret = LaserStatus.code st)) :
    ReadContract kind numBlocks log ret := by
  have hterminal : ∀ r ∈ log, r.terminal → ret = r.status.code :=
    fun r hr hterm => absurd hterm (hlive r hr)
  rcases hret with ⟨hsome, rfl⟩ | ⟨hnone, st, hst, rfl⟩
  · refine ⟨by omega, hterminal, fun _ _ => rfl, ?_⟩
    intro _ hzero
    omega
  · have hneg := LaserStatus.code_neg hst
    refine ⟨by omega, hterminal, ?_, fun _ _ _ => ⟨st, hst, rfl⟩⟩
    intro _ hsome
    omega

/-- A terminal status ends the call with its code. -/
theorem AfterCommand.of_terminal (hafter : AfterCommand kind numBlocks t chunk r u)
    (hterm : r.terminal) :
    ReadContract kind numBlocks u.sys.world.2 r.status.code := by
  obtain ⟨hI, -, hlog, hpos, hfits, -⟩ := hafter
  have hst : r.status ≠ .ok := fun hok => CdbResult.not_terminal_of_ok hok hterm
  have hneg := LaserStatus.code_neg hst
  have hmem : r ∈ u.sys.world.2 := hlog ▸ List.mem_cons_self
  refine ⟨by omega, ?_, ?_, ?_⟩
  · intro r' hr' hterm'
    rw [hlog] at hr'
    rcases List.mem_cons.mp hr' with rfl | hold
    · rfl
    · exact absurd hterm' (hI.live r' hold)
  · intro hlive
    exact absurd hterm (hlive r hmem)
  · intro hlive
    exact absurd hterm (hlive r hmem)

/-- What the log holds after a result that is not terminal. -/
theorem AfterCommand.live (hafter : AfterCommand kind numBlocks t chunk r u) (hterm : ¬ r.terminal) :
    (∀ r' ∈ u.sys.world.2, ¬ r'.terminal)
      ∧ blocksRead kind u.sys.world.2 = r.blocks kind + t.vars.blocksDone := by
  obtain ⟨hI, -, hlog, -, -, -⟩ := hafter
  rw [hlog, blocksRead_cons, hI.done]
  refine ⟨?_, rfl⟩
  intro r' hr'
  rcases List.mem_cons.mp hr' with rfl | hold
  · exact hterm
  · exact hI.live r' hold

theorem chunkFailed_contract (hafter : AfterCommand kind numBlocks t chunk r u)
    (hst : r.status ≠ .ok) :
    TurnContract kind numBlocks t (chunkFailed kind registered chunk r.status u) := by
  have hI := hafter.soFar
  have hfits := hafter.fits
  have hpos := hafter.chunk_pos
  unfold chunkFailed
  dsimp only
  split
  case isTrue hterm => exact hafter.of_terminal hterm
  rename_i hterm
  obtain ⟨hlive, hread⟩ := hafter.live hterm
  rw [CdbResult.blocks_of_ne_ok hst, Nat.zero_add] at hread
  rw [hafter.vars]
  split
  case isTrue hretry =>
    -- the next trial is smaller than what failed, and so than the trial it failed in
    obtain ⟨-, hseveral, -, hlarge⟩ := hretry
    obtain ⟨hzero, hless⟩ := nextTrial_lt hlarge
    have hwhole : chunk * kind.blockSize ≤ numBlocks * kind.blockSize :=
      Nat.mul_le_mul_right _ (by omega)
    refine ⟨⟨?_, ?_, ?_, hlive⟩, turnsLeft_of_trial ?_ ?_⟩
    · show (t.vars.onTrial _ _).blocksDone = _
      rw [ReadVars.onTrial_blocksDone]
      exact hread.symm
    · show (t.vars.onTrial _ _).blocksDone ≤ _
      rw [ReadVars.onTrial_blocksDone]
      exact hI.done_le
    · show (t.vars.onTrial _ _).trialCap ≤ _
      rw [ReadVars.onTrial_trialCap]
      omega
    · exact ReadVars.onTrial_blocksDone _ _ _
    · show (t.vars.onTrial _ _).trialSizeOf _ < _
      rw [ReadVars.trialSizeOf_of_pos (by rwa [ReadVars.onTrial_trialCap]),
        ReadVars.onTrial_trialCap]
      by_cases hon : 0 < t.vars.trialCap
      · have hwithin := hafter.trial hon hseveral
        rw [ReadVars.trialSizeOf_of_pos hon]
        omega
      · have hfirst : t.vars.trialSizeOf (numBlocks * kind.blockSize)
            = numBlocks * kind.blockSize + 1 := if_pos (by omega)
        omega
  case isFalse =>
    show ReadContract _ _ _ _
    apply ReadContract.of_live (by omega) hlive
    split
    · exact .inl ⟨by omega, by rw [hread]⟩
    · exact .inr ⟨by omega, r.status, hst, rfl⟩

theorem chunkRead_contract (hafter : AfterCommand kind numBlocks t chunk r u)
    (hst : r.status = .ok) :
    TurnContract kind numBlocks t (chunkRead port.logged kind chunk (r.actualLen.getD 0) u) := by
  have hI := hafter.soFar
  have hfits := hafter.fits
  have hpos := hafter.chunk_pos
  obtain ⟨hlive, hread⟩ := hafter.live (CdbResult.not_terminal_of_ok hst)
  rw [CdbResult.blocks_of_ok hst] at hread
  unfold chunkRead
  dsimp only
  rw [hafter.vars]
  split
  · -- a short read: the whole blocks of it, or an error when there is none
    show ReadContract _ _ _ _
    apply ReadContract.of_live (by omega) hlive
    split
    · exact .inr ⟨by omega, .errIo, by decide, rfl⟩
    · exact .inl ⟨by omega, by rw [hread, Nat.add_comm]⟩
  · next hfull =>
      have hfull := Decidable.not_not.mp hfull
      rw [hfull, Nat.mul_div_cancel _ kind.blockSize_pos] at hread
      have hnext : ∀ v s, v.blocksDone = t.vars.blocksDone + chunk →
          v.trialCap ≤ numBlocks * kind.blockSize → s.world.2 = u.sys.world.2 →
          TurnContract kind numBlocks t (.again ⟨v, u.memory, s⟩) := by
        intro v s hdone htrial hworld
        refine ⟨⟨?_, ?_, htrial, ?_⟩, turnsLeft_of_done ?_ ?_ htrial⟩
        · show v.blocksDone = _
          rw [hworld, hread, hdone, Nat.add_comm]
        · show v.blocksDone ≤ _
          omega
        · show ∀ r' ∈ s.world.2, _
          rw [hworld]
          exact hlive
        · show _ < v.blocksDone
          omega
        · show v.blocksDone ≤ _
          omega
      split
      · apply hnext _ _ rfl (Nat.zero_le _)
        unfold lowerTransferCap
        split <;> rfl
      · exact hnext _ _ rfl hI.trial_le rfl

/-- The entry's cap, whatever it is, is never above the size on trial. -/
theorem currentCap_le_trial {v : ReadVars} {s : Sys W} (hon : 0 < v.trialCap) :
    currentCap registered v s ≤ v.trialCap := by
  unfold currentCap
  generalize (if registered then s.entry.maxTransferBytes else laserMaxBytesPerTransfer) = cap
  dsimp only
  split <;> omega

/-- **One turn keeps the invariant and decreases the measure, or ends by the contract.** -/
theorem readTurn_contract (hasked : 0 < numBlocks) (hI : ReadSoFar kind numBlocks t) :
    TurnContract kind numBlocks t (readTurn port.logged kind registered lba numBlocks t) := by
  by_cases hleft : t.vars.blocksDone < numBlocks
  · obtain ⟨s, chunk, r, s', hs, hchunk, hres, hturn⟩ :=
      @readTurn_of_lt _ port.logged kind registered lba numBlocks t hleft
    obtain ⟨hpos, hle, hfit⟩ := @nextChunk_spec kind.blockSize (currentCap registered t.vars s)
      (numBlocks - t.vars.blocksDone) (by omega)
    rw [← hchunk] at hpos hle hfit
    have hlog : s'.world.2 = r :: t.sys.world.2 := by
      obtain ⟨rfl, rfl⟩ := Prod.mk.inj hres
      subst hs
      rfl
    have hafter : AfterCommand kind numBlocks t chunk r
        ⟨t.vars, storeAt t.memory (t.vars.blocksDone * kind.blockSize) r.data, s'⟩ :=
      ⟨hI, rfl, hlog, hpos, by omega,
        fun hon hone => Nat.le_trans (hfit hone) (currentCap_le_trial hon)⟩
    rw [hturn]
    dsimp only
    by_cases hst : r.status = .ok
    · rw [if_neg (not_not_intro hst)]
      exact chunkRead_contract hafter hst
    · rw [if_pos hst]
      exact chunkFailed_contract hafter hst
  · unfold readTurn
    rw [if_neg hleft]
    have hdone := hI.done
    have hall := hI.done_le
    have hsome : 0 < blocksRead kind t.sys.world.2 := by omega
    show ReadContract _ _ _ _
    exact .of_live hasked hI.live (.inl ⟨hsome, congrArg Nat.cast hdone⟩)

/-! ## The whole call -/

/-- A read returns within its turns, as the contract says. -/
theorem readChunked_returns (port : ScsiPort W) (kind : ReadKind) (lba : UInt32) (numBlocks : Int)
    (memory : Nat → UInt8) (s : Sys W) :
    ∃ r, readChunked port kind (readTurns kind numBlocks.toNat) lba numBlocks memory s = some r
      ∧ ReadContract kind numBlocks
        (readLog port kind (readTurns kind numBlocks.toNat) lba numBlocks memory s) r.ret := by
  have hforget := @readChunked_forget _ port kind lba (readTurns kind numBlocks.toNat) numBlocks memory
    (s.withLog [])
  unfold readLog
  suffices ∃ r, readChunked port.logged kind (readTurns kind numBlocks.toNat) lba numBlocks memory
      (s.withLog []) = some r ∧ ReadContract kind numBlocks r.sys.world.2 r.ret by
    obtain ⟨r, hr, hcontract⟩ := this
    rw [hr] at hforget ⊢
    exact ⟨r.forget, hforget, hcontract⟩
  unfold readChunked
  by_cases hnone : numBlocks ≤ 0
  · refine ⟨_, if_pos hnone, ⟨fun _ => hnone, fun _ => rfl⟩, ?_, ?_, ?_⟩
    · intro r hr
      cases hr
    · intro _ hread
      cases hread
    · intro _ _ hpos
      exact absurd hnone (Int.not_le.mpr hpos)
  · obtain ⟨n, rfl⟩ := Int.eq_ofNat_of_zero_le (show 0 ≤ numBlocks by omega)
    simp only [if_neg hnone, Int.toNat_natCast]
    have hasked : 0 < n := by omega
    have hstart : ReadSoFar kind n ⟨{}, memory, s.withLog []⟩ :=
      ⟨rfl, Nat.zero_le _, Nat.zero_le _, fun r hr => absurd hr List.not_mem_nil⟩
    have hstep : ∀ t turn, ReadSoFar kind n t →
        readTurn port.logged kind (s.withLog []).entry.inUse lba n t = turn →
        TurnContract kind n t turn := by
      intro t turn hI hb
      rw [← hb]
      exact readTurn_contract hasked hI
    have hfuel : turnsLeft kind n {} < readTurns kind n := by
      unfold turnsLeft readTurns
      show (n - 0) * (n * kind.blockSize + 2) + (n * kind.blockSize + 1) < _
      rw [Nat.sub_zero]
      omega
    obtain ⟨r, hr⟩ := iterate_of_measure (fun t => turnsLeft kind n t.vars)
      (fun t u hI hb => (hstep t (.again u) hI hb).1) (fun t u hI hb => (hstep t (.again u) hI hb).2)
      hstart hfuel
    exact ⟨r, hr, iterate_invariant
      (Q := fun r : ReadResult (W × List CdbResult) => ReadContract kind n r.sys.world.2 r.ret)
      (fun t u hI hb => (hstep t (.again u) hI hb).1)
      (fun t res hI hb => hstep t (.done res) hI hb) hstart hr⟩

/-- `read_chunked()` to its end. -/
def readChunkedToEnd (port : ScsiPort W) (kind : ReadKind) (lba : UInt32) (numBlocks : Int)
    (memory : Nat → UInt8) (s : Sys W) : ReadResult W :=
  (readChunked port kind (readTurns kind numBlocks.toNat) lba numBlocks memory s).get
    (by
      obtain ⟨r, hr, -⟩ := readChunked_returns port kind lba numBlocks memory s
      rw [hr]
      rfl)

theorem readChunkedToEnd_spec (port : ScsiPort W) (kind : ReadKind) (lba : UInt32) (numBlocks : Int)
    (memory : Nat → UInt8) (s : Sys W) :
    readChunked port kind (readTurns kind numBlocks.toNat) lba numBlocks memory s
      = some (readChunkedToEnd port kind lba numBlocks memory s) := by
  unfold readChunkedToEnd
  exact (Option.some_get _).symm

/-! ## The caller's loop -/

/-- What a caller still wants, and where: the first block, how many, memory from the pointer on, and the
    entry with its world. -/
structure CallerState (W : Type) where
  lba : UInt32
  left : Int
  memory : Nat → UInt8
  sys : Sys W

/-- Advance by what was read, ask for the rest, stop on a negative value. -/
def callerTurn (port : ScsiPort W) (kind : ReadKind) (c : CallerState W) :
    Turn (CallerState W) (ReadResult W) :=
  if c.left ≤ 0 then .done ⟨0, c.memory, c.sys⟩
  else
    let r := readChunkedToEnd port kind c.lba c.left c.memory c.sys
    if r.ret < 0 then .done r
    else
      .again {
        lba := c.lba + UInt32.ofNat r.ret.toNat
        left := c.left - r.ret
        memory := fun i => r.memory (r.ret.toNat * kind.blockSize + i)
        sys := port.otherThreads r.sys }

/-- A read that returned no error brought the caller closer to its end. -/
theorem callerTurn_again {c c' : CallerState W} (hb : callerTurn port kind c = .again c') :
    c'.left.toNat < c.left.toNat := by
  obtain ⟨r, hr, hcontract⟩ := readChunked_returns port kind c.lba c.left c.memory c.sys
  rw [readChunkedToEnd_spec, Option.some.injEq] at hr
  have hzero := hcontract.zero
  unfold callerTurn at hb
  dsimp only at hb
  rw [hr] at hb
  split at hb
  · cases hb
  split at hb
  · cases hb
  injection hb with hb
  subst hb
  show (c.left - r.ret).toNat < c.left.toNat
  omega

/-- **The error contract of the block reads.** Whatever its commands return, `read_chunked()` comes back,
    and by the contract: 0 for an empty request only, a terminal status whenever a command had one, else
    the blocks read or, when there are none, an error. So a caller that advances by what was read and
    asks for the rest comes to its end. -/
theorem readChunked_contract (port : ScsiPort W) (kind : ReadKind) (lba : UInt32) (numBlocks : Int)
    (memory : Nat → UInt8) (s : Sys W) :
    (∃ fuel r, readChunked port kind fuel lba numBlocks memory s = some r
        ∧ ReadContract kind numBlocks (readLog port kind fuel lba numBlocks memory s) r.ret)
      ∧ ∃ fuel r, iterate (callerTurn port kind) fuel ⟨lba, numBlocks, memory, s⟩ = some r := by
  constructor
  · obtain ⟨r, hr, hcontract⟩ := readChunked_returns port kind lba numBlocks memory s
    exact ⟨_, r, hr, hcontract⟩
  · obtain ⟨r, hr⟩ := @iterate_of_measure _ _ (callerTurn port kind) ⟨lba, numBlocks, memory, s⟩ _
      (fun _ => True) (fun c => c.left.toNat) (fun _ _ _ _ => trivial)
      (fun _ _ _ hb => callerTurn_again hb) trivial (Nat.lt_succ_self _)
    exact ⟨_, r, hr⟩

end Liblaser
