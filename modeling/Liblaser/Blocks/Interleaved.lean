import Mathlib.Logic.Function.Basic
import Liblaser.Blocks.Exact
import Liblaser.Lib.Transition
import Liblaser.Registry.Register

/-!
# `Blocks.Interleaved` — many block reads on one entry

`max_transfer_bytes` is shared: `read_chunked()` reads it without a lock before each chunk, and other calls
lower it meanwhile, also in the middle of a negotiation. `Reads` is the entry's cap and any number of calls on
it, each taken apart into what it does at once: it reads the cap and issues a command, it gets an answer, it
lowers the cap under `io_lock`. Any answer may come at any time.

`readTurn_run` and `lowerTransferCap_step` are that a turn of the loop of `Blocks.Chunked` is these steps,
with whatever the other threads do between them. **`transferCap_interleaved`** is what holds in every
interleaving.
-/

namespace Liblaser

open Bytes Loop Transition

/-! ## One call -/

/-- The arguments of one `read_chunked()`. -/
structure ReadArgs where
  kind : ReadKind
  lba : UInt32
  numBlocks : Int

/-- Where a call is. -/
inductive ReadAt where
  /-- Not made yet. -/
  | idle
  /-- At the condition of the `while`. -/
  | atLoop (v : ReadVars)
  /-- In `laser_scsi_cdb()`, for so many blocks. -/
  | asked (v : ReadVars) (chunk : Nat)
  /-- Waiting for `io_lock` in `lower_transfer_cap()`. -/
  | lowering (v : ReadVars)
  | returned (ret : Int)

/-- What a call did. -/
inductive ReadAct where
  | began
  /-- It issued a command for so many blocks behind the ones it has, by the cap it read. -/
  | issued (blocksDone chunk maxTransferBytes : Nat)
  | answered (status : LaserStatus) (actualLen : Nat)
  | lowered (bytes : Nat)
  | returned (ret : Int)

/-- `cap`, on what was read of the entry. -/
def ReadVars.cap (v : ReadVars) (maxTransferBytes : Nat) : Nat :=
  if 0 < v.trialCap ∧ v.trialCap < maxTransferBytes then v.trialCap else maxTransferBytes

/-- The blocks of the command that is issued next. -/
def ReadArgs.chunk (a : ReadArgs) (v : ReadVars) (maxTransferBytes : Nat) : Nat :=
  nextChunk a.kind.blockSize (v.cap maxTransferBytes) (a.numBlocks.toNat - v.blocksDone)

/-- A chunk that failed: out, or the same blocks again at half the size. -/
def afterFailure (kind : ReadKind) (v : ReadVars) (chunk : Nat) (st : LaserStatus) : ReadAt :=
  let tried := chunk * kind.blockSize
  if st = .errMediaGone ∨ st = .errNoDevice ∨ st = .errCancelled then .returned st.code
  else if st = .errIo ∧ 1 < chunk ∧ laserMinBytesPerTransfer < tried then .atLoop (v.onTrial chunk tried)
  else .returned (if 0 < v.blocksDone then v.blocksDone else st.code)

/-- A chunk that was read, in full or not. -/
def afterRead (kind : ReadKind) (v : ReadVars) (chunk actualLen : Nat) : ReadAt :=
  if actualLen ≠ chunk * kind.blockSize then
    let shortTotal := v.blocksDone + actualLen / kind.blockSize
    .returned (if shortTotal = 0 then LaserStatus.errIo.code else shortTotal)
  else
    let v := { v with blocksDone := v.blocksDone + chunk }
    if 0 < v.trialCap ∧ v.trialEnd ≤ v.blocksDone then .lowering v else .atLoop v

/-- Where an answer takes a call. -/
def afterAnswer (kind : ReadKind) (v : ReadVars) (chunk : Nat) (st : LaserStatus) (actualLen : Nat) : ReadAt :=
  if st ≠ .ok then afterFailure kind v chunk st else afterRead kind v chunk actualLen

/-- `lower_transfer_cap()`, on the cap. -/
def capLowered (bytes maxTransferBytes : Nat) : Nat :=
  if bytes < maxTransferBytes then bytes else maxTransferBytes

/-- What a call can do at once: from the cap and where it is, to the same after it. -/
inductive ReadAct.On (a : ReadArgs) (cap : Nat) : ReadAt → ReadAct → Nat → ReadAt → Prop where
  | nothing (hnone : a.numBlocks ≤ 0) : ReadAct.On a cap .idle (.returned 0) cap (.returned 0)
  | begin (hasked : 0 < a.numBlocks) : ReadAct.On a cap .idle .began cap (.atLoop {})
  | issue {v : ReadVars} (hleft : v.blocksDone < a.numBlocks.toNat) :
      ReadAct.On a cap (.atLoop v) (.issued v.blocksDone (a.chunk v cap) cap) cap (.asked v (a.chunk v cap))
  | finish {v : ReadVars} (hall : a.numBlocks.toNat ≤ v.blocksDone) :
      ReadAct.On a cap (.atLoop v) (.returned v.blocksDone) cap (.returned v.blocksDone)
  | answer {v : ReadVars} {chunk : Nat} (st : LaserStatus) (actualLen : Nat) :
      ReadAct.On a cap (.asked v chunk) (.answered st actualLen) cap (afterAnswer a.kind v chunk st actualLen)
  | lower {v : ReadVars} :
      ReadAct.On a cap (.lowering v) (.lowered v.trialCap) (capLowered v.trialCap cap)
        (.atLoop { v with trialCap := 0 })

/-! ## All of them -/

/-- The entry's cap, and where each call is. -/
structure Reads (ι : Type) where
  maxTransferBytes : Nat
  calls : ι → ReadAt

variable {ι : Type}

/-- An entry as a registration publishes it, no read made yet. -/
def Reads.start : Reads ι := ⟨laserMaxBytesPerTransfer, fun _ => .idle⟩

theorem Reads.start_registered {o : Setup} {fd : Int} {b : Build} (h : setupEntry o fd = .ok b) :
    (Reads.start : Reads ι).maxTransferBytes = b.entry.maxTransferBytes := (setupEntry_cap h).symm

/-- What one of the calls does at once. -/
inductive ReadStep [DecidableEq ι] (args : ι → ReadArgs) (s : Reads ι) (a : ι × ReadAct) :
    Reads ι → Prop where
  | of {cap : Nat} {pc : ReadAt} (hact : ReadAct.On (args a.1) s.maxTransferBytes (s.calls a.1) a.2 cap pc) :
      ReadStep args s a ⟨cap, Function.update s.calls a.1 pc⟩

/-! ## A turn of the loop is these steps -/

section Turn

variable {W : Type}

/-- A turn whose answer takes the call there; the cap is lowered in the state the other threads leave by
    then. -/
inductive TurnTo (port : ScsiPort W) (memory : Nat → UInt8) (s : Sys W) :
    ReadAt → Turn (ReadState W) (ReadResult W) → Prop where
  | atLoop {v : ReadVars} : TurnTo port memory s (.atLoop v) (.again ⟨v, memory, s⟩)
  | lowering {v : ReadVars} : TurnTo port memory s (.lowering v)
      (.again ⟨{ v with trialCap := 0 }, memory, lowerTransferCap v.trialCap (port.otherThreads s)⟩)
  | returned {ret : Int} : TurnTo port memory s (.returned ret) (.done ⟨ret, memory, s⟩)

theorem chunkFailed_to (port : ScsiPort W) (kind : ReadKind) (chunk : Nat) (st : LaserStatus)
    (t : ReadState W) :
    TurnTo port t.memory t.sys (afterFailure kind t.vars chunk st) (chunkFailed kind true chunk st t) := by
  unfold afterFailure chunkFailed
  dsimp only
  by_cases hterminal : st = .errMediaGone ∨ st = .errNoDevice ∨ st = .errCancelled
  · rw [if_pos hterminal, if_pos hterminal]
    exact .returned
  rw [if_neg hterminal, if_neg hterminal]
  by_cases hretry : st = .errIo ∧ 1 < chunk ∧ laserMinBytesPerTransfer < chunk * kind.blockSize
  · rw [if_pos hretry, if_pos ⟨hretry.1, hretry.2.1, rfl, hretry.2.2⟩]
    exact .atLoop
  · have hout : ¬ (st = .errIo ∧ 1 < chunk ∧ true = true
        ∧ laserMinBytesPerTransfer < chunk * kind.blockSize) :=
      fun h => hretry ⟨h.1, h.2.1, h.2.2.2⟩
    rw [if_neg hretry, if_neg hout]
    exact .returned

theorem chunkRead_to (port : ScsiPort W) (kind : ReadKind) (chunk actualLen : Nat) (t : ReadState W) :
    TurnTo port t.memory t.sys (afterRead kind t.vars chunk actualLen)
      (chunkRead port kind chunk actualLen t) := by
  unfold afterRead chunkRead
  dsimp only
  split
  · exact .returned
  split
  · exact .lowering
  · exact .atLoop

/-- **A turn of the loop of a registered token** issues its command by the cap it finds, and goes where the
    answer takes it. -/
theorem readTurn_to (port : ScsiPort W) (a : ReadArgs) {t : ReadState W}
    (hleft : t.vars.blocksDone < a.numBlocks.toNat) :
    let s := port.otherThreads t.sys
    let chunk := a.chunk t.vars s.entry.maxTransferBytes
    let r := port.scsiCdb (a.kind.call (a.lba + UInt32.ofNat t.vars.blocksDone) chunk) s
    TurnTo port (storeAt t.memory (t.vars.blocksDone * a.kind.blockSize) r.1.data) r.2
      (afterAnswer a.kind t.vars chunk r.1.status (r.1.actualLen.getD 0))
      (readTurn port a.kind true a.lba a.numBlocks.toNat t) := by
  intro s chunk r
  let u : ReadState W := ⟨t.vars, storeAt t.memory (t.vars.blocksDone * a.kind.blockSize) r.1.data, r.2⟩
  have hturn : readTurn port a.kind true a.lba a.numBlocks.toNat t
      = if r.1.status ≠ .ok then chunkFailed a.kind true chunk r.1.status u
        else chunkRead port a.kind chunk (r.1.actualLen.getD 0) u := if_pos hleft
  rw [hturn]
  unfold afterAnswer
  split
  · exact chunkFailed_to port a.kind chunk r.1.status u
  · exact chunkRead_to port a.kind chunk (r.1.actualLen.getD 0) u

variable [DecidableEq ι] {args : ι → ReadArgs} {i : ι}

/-- A command and its answer. -/
theorem issued_answered {s : Reads ι} {v : ReadVars} (hcall : s.calls i = .atLoop v)
    (hleft : v.blocksDone < (args i).numBlocks.toNat) (st : LaserStatus) (actualLen : Nat) :
    let cap := s.maxTransferBytes
    let chunk := (args i).chunk v cap
    Run (ReadStep args) s [(i, .answered st actualLen), (i, .issued v.blocksDone chunk cap)]
      ⟨cap, Function.update s.calls i (afterAnswer (args i).kind v chunk st actualLen)⟩ := by
  intro cap chunk
  have hissued : ReadStep args s (i, .issued v.blocksDone chunk cap)
      ⟨cap, Function.update s.calls i (.asked v chunk)⟩ := by
    refine .of ?_
    rw [hcall]
    exact .issue hleft
  have hanswered : ReadStep args ⟨cap, Function.update s.calls i (.asked v chunk)⟩
      (i, .answered st actualLen) ⟨cap, Function.update (Function.update s.calls i (.asked v chunk)) i
        (afterAnswer (args i).kind v chunk st actualLen)⟩ := by
    refine .of ?_
    show ReadAct.On _ _ (Function.update s.calls i (.asked v chunk) i) _ _ _
    rw [Function.update_self]
    exact .answer st actualLen
  rw [Function.update_idem] at hanswered
  exact (Run.refl.step hissued).step hanswered

/-- A turn is two steps of its call, by the cap it reads. -/
theorem readTurn_run (port : ScsiPort W) {s : Reads ι} {t : ReadState W} (hcall : s.calls i = .atLoop t.vars)
    (hcap : s.maxTransferBytes = (port.otherThreads t.sys).entry.maxTransferBytes)
    (hleft : t.vars.blocksDone < (args i).numBlocks.toNat) :
    ∃ hist pc memory sys, Run (ReadStep args) s hist ⟨s.maxTransferBytes, Function.update s.calls i pc⟩
      ∧ TurnTo port memory sys pc
        (readTurn port (args i).kind true (args i).lba (args i).numBlocks.toNat t) := by
  have hturn := readTurn_to port (args i) hleft
  dsimp only at hturn
  rw [← hcap] at hturn
  exact ⟨_, _, _, _, issued_answered hcall hleft _ _, hturn⟩

/-- `lower_transfer_cap()` is one. -/
theorem lowerTransferCap_step {s : Reads ι} {v : ReadVars} {sys : Sys W} (hcall : s.calls i = .lowering v)
    (hcap : s.maxTransferBytes = sys.entry.maxTransferBytes) :
    ReadStep args s (i, .lowered v.trialCap)
      ⟨(lowerTransferCap v.trialCap sys).entry.maxTransferBytes,
        Function.update s.calls i (.atLoop { v with trialCap := 0 })⟩ := by
  have hlowered : (lowerTransferCap v.trialCap sys).entry.maxTransferBytes
      = capLowered v.trialCap s.maxTransferBytes := by
    rw [hcap]
    unfold lowerTransferCap capLowered
    split <;> rfl
  rw [hlowered]
  refine .of ?_
  rw [hcall]
  exact .lower

end Turn

/-! ## What one call keeps to -/

/-- The bounds of the cap. -/
def InBounds (bytes : Nat) : Prop := laserMinBytesPerTransfer ≤ bytes ∧ bytes ≤ laserMaxBytesPerTransfer

/-- The transfer that a call issues, if it does: where, and of how many blocks. -/
def ReadAct.transfer : ReadAct → Option (Nat × Nat)
  | .issued blocksDone chunk _ => some (blocksDone, chunk)
  | _ => none

/-- What a command is issued by: it is of one block at least, beyond one block it keeps to the cap that was
    read, and its CDB says as much. -/
structure WellSized (a : ReadArgs) (blocksDone chunk maxTransferBytes : Nat) : Prop where
  inBounds : InBounds maxTransferBytes
  pos : 1 ≤ chunk
  bytes_le : chunk * a.kind.blockSize ≤ max a.kind.blockSize maxTransferBytes
  decodes : decodeRead (a.kind.call (a.lba + UInt32.ofNat blocksDone) chunk).cdb
    = some (a.kind, (a.lba + UInt32.ofNat blocksDone).toNat, chunk)

/-- Of two transfers at one position the later is the smaller. -/
def Shrinks (later earlier : Nat × Nat) : Prop := later.1 = earlier.1 → later.2 < earlier.2

/-- The size on trial is never below the floor. -/
def ReadVars.TrialOk (v : ReadVars) : Prop := 0 < v.trialCap → laserMinBytesPerTransfer ≤ v.trialCap

/-- **The invariant of one call**, on the transfers it has issued: all of them were at or before the position
    it is at; those at that position have failed, and were larger than what it tries or will try there. -/
inductive CallInv (a : ReadArgs) (past : List (Nat × Nat)) : ReadAt → Prop where
  | idle (hnone : past = []) : CallInv a past .idle
  | atLoop {v : ReadVars} (htrial : v.TrialOk) (hbehind : ∀ p ∈ past, p.1 ≤ v.blocksDone)
      (hfailed : ∀ chunk, (v.blocksDone, chunk) ∈ past →
        1 < chunk ∧ 0 < v.trialCap ∧ v.trialCap < chunk * a.kind.blockSize) : CallInv a past (.atLoop v)
  | asked {v : ReadVars} {chunk : Nat} (htrial : v.TrialOk) (hpos : 1 ≤ chunk)
      (hbehind : ∀ p ∈ past, p.1 ≤ v.blocksDone)
      (hsmallest : ∀ chunk', (v.blocksDone, chunk') ∈ past → chunk ≤ chunk') :
      CallInv a past (.asked v chunk)
  | lowering {v : ReadVars} (htrial : laserMinBytesPerTransfer ≤ v.trialCap)
      (hbehind : ∀ p ∈ past, p.1 < v.blocksDone) : CallInv a past (.lowering v)
  | returned {ret : Int} : CallInv a past (.returned ret)

theorem nextTrial_ge (tried : Nat) : laserMinBytesPerTransfer ≤ nextTrial tried := by
  unfold nextTrial
  split <;> omega

theorem ReadVars.cap_le (v : ReadVars) (cap : Nat) : v.cap cap ≤ cap := by
  unfold ReadVars.cap
  split <;> omega

theorem ReadVars.cap_le_trial {v : ReadVars} (hon : 0 < v.trialCap) (cap : Nat) : v.cap cap ≤ v.trialCap := by
  unfold ReadVars.cap
  split <;> omega

/-- The next chunk is smaller than one that failed on more than the size on trial. -/
theorem ReadArgs.chunk_lt {a : ReadArgs} {v : ReadVars} {chunk : Nat} (cap : Nat) (hon : 0 < v.trialCap)
    (htried : v.trialCap < chunk * a.kind.blockSize) (hone : 1 < chunk)
    (hleft : v.blocksDone < a.numBlocks.toNat) : a.chunk v cap < chunk := by
  obtain ⟨-, -, hfit⟩ := @nextChunk_spec a.kind.blockSize (v.cap cap) (a.numBlocks.toNat - v.blocksDone)
    (Nat.sub_pos_of_lt hleft)
  by_cases hmore : 1 < a.chunk v cap
  · have hle : a.chunk v cap * a.kind.blockSize ≤ v.trialCap :=
      Nat.le_trans (hfit hmore) (ReadVars.cap_le_trial hon cap)
    exact Nat.lt_of_mul_lt_mul_right (Nat.lt_of_le_of_lt hle htried)
  · omega

theorem ReadArgs.chunk_wellSized {a : ReadArgs} {v : ReadVars} {cap : Nat} (hcap : InBounds cap)
    (hleft : v.blocksDone < a.numBlocks.toNat) : WellSized a v.blocksDone (a.chunk v cap) cap := by
  obtain ⟨hpos, -, hfit⟩ := @nextChunk_spec a.kind.blockSize (v.cap cap) (a.numBlocks.toNat - v.blocksDone)
    (Nat.sub_pos_of_lt hleft)
  have hpos : 1 ≤ a.chunk v cap := hpos
  have hbytes : a.chunk v cap * a.kind.blockSize ≤ max a.kind.blockSize cap := by
    by_cases hmore : 1 < a.chunk v cap
    · exact Nat.le_trans (Nat.le_trans (hfit hmore) (v.cap_le cap)) (Nat.le_max_right _ _)
    · have hone : a.chunk v cap = 1 := by omega
      rw [hone, Nat.one_mul]
      exact Nat.le_max_left _ _
  refine ⟨hcap, hpos, hbytes, decodeRead_buildCdb a.kind _ ?_⟩
  have hsmall : a.chunk v cap * 2048 ≤ a.chunk v cap * a.kind.blockSize :=
    Nat.mul_le_mul_left _ (by cases a.kind <;> simp [ReadKind.blockSize])
  have hbs := a.kind.blockSize_le
  obtain ⟨-, hmax⟩ := hcap
  unfold laserMaxBytesPerTransfer at hmax
  omega

/-- An answer keeps the invariant: after a failure the size on trial is below what was tried, and after a
    success the position is past all that was. -/
theorem CallInv.answer {a : ReadArgs} {past : List (Nat × Nat)} {v : ReadVars} {chunk : Nat}
    (hI : CallInv a past (.asked v chunk)) (st : LaserStatus) (actualLen : Nat) :
    CallInv a past (afterAnswer a.kind v chunk st actualLen) := by
  cases hI with
  | asked htrial hpos hbehind hsmallest =>
      unfold afterAnswer
      split
      · unfold afterFailure
        dsimp only
        split
        · exact .returned
        split
        next hretry =>
          obtain ⟨-, hone, hlarge⟩ := hretry
          obtain ⟨hon, hless⟩ := nextTrial_lt hlarge
          refine .atLoop (fun _ => nextTrial_ge _) ?_ ?_
          · rw [ReadVars.onTrial_blocksDone]
            exact hbehind
          · rw [ReadVars.onTrial_blocksDone, ReadVars.onTrial_trialCap]
            intro chunk' hpast
            have hle := hsmallest chunk' hpast
            have hbytes : chunk * a.kind.blockSize ≤ chunk' * a.kind.blockSize := Nat.mul_le_mul_right _ hle
            exact ⟨by omega, hon, by omega⟩
        next => exact .returned
      · unfold afterRead
        dsimp only
        have hpassed : ∀ p ∈ past, p.1 < v.blocksDone + chunk := by
          intro p hp
          have hle := hbehind p hp
          omega
        split
        · exact .returned
        split
        next hcovered => exact .lowering (htrial hcovered.1) hpassed
        next =>
          refine .atLoop htrial (fun p hp => Nat.le_of_lt (hpassed p hp)) ?_
          intro chunk' hpast
          exact absurd (hpassed _ hpast) (Nat.lt_irrefl _)

/-- Issuing a transfer keeps it, and the transfer is smaller than any there was at that position. -/
theorem CallInv.issue {a : ReadArgs} {past : List (Nat × Nat)} {v : ReadVars} (cap : Nat)
    (hI : CallInv a past (.atLoop v)) (hleft : v.blocksDone < a.numBlocks.toNat) :
    CallInv a ((v.blocksDone, a.chunk v cap) :: past) (.asked v (a.chunk v cap))
      ∧ ∀ p ∈ past, Shrinks (v.blocksDone, a.chunk v cap) p := by
  cases hI with
  | atLoop htrial hbehind hfailed =>
      have hsmaller : ∀ chunk, (v.blocksDone, chunk) ∈ past → a.chunk v cap < chunk := by
        intro chunk hpast
        obtain ⟨hone, hon, htried⟩ := hfailed chunk hpast
        exact a.chunk_lt cap hon htried hone hleft
      obtain ⟨hpos, -, -⟩ := @nextChunk_spec a.kind.blockSize (v.cap cap)
        (a.numBlocks.toNat - v.blocksDone) (Nat.sub_pos_of_lt hleft)
      refine ⟨.asked htrial hpos ?_ ?_, ?_⟩
      · intro p hp
        rcases List.mem_cons.mp hp with rfl | hp
        · exact Nat.le_refl _
        · exact hbehind p hp
      · intro chunk hp
        rcases List.mem_cons.mp hp with heq | hp
        · exact Nat.le_of_eq (Prod.mk.inj heq).2.symm
        · exact Nat.le_of_lt (hsmaller chunk hp)
      · rintro ⟨pos, chunk⟩ hp (rfl : v.blocksDone = pos)
        exact hsmaller chunk hp

/-- Lowering the cap ends the negotiation behind all that failed in it. -/
theorem CallInv.lower {a : ReadArgs} {past : List (Nat × Nat)} {v : ReadVars}
    (hI : CallInv a past (.lowering v)) : CallInv a past (.atLoop { v with trialCap := 0 }) := by
  cases hI with
  | lowering htrial hbehind =>
      refine .atLoop (fun hon => absurd hon (Nat.lt_irrefl 0)) (fun p hp => Nat.le_of_lt (hbehind p hp)) ?_
      intro chunk hpast
      exact absurd (hbehind _ hpast) (Nat.lt_irrefl _)

theorem capLowered_le (bytes cap : Nat) : capLowered bytes cap ≤ cap := by
  unfold capLowered
  split <;> omega

/-- What a step of the call keeps, with the transfer it issues, if any. -/
structure StepKept (a : ReadArgs) (past : List (Nat × Nat)) (act : ReadAct) (cap : Nat)
    (pc : ReadAt) : Prop where
  inBounds : InBounds cap
  call : CallInv a (act.transfer.toList ++ past) pc
  shrink : ∀ p ∈ act.transfer, ∀ q ∈ past, Shrinks p q
  sized : ∀ blocksDone chunk read, act = .issued blocksDone chunk read → WellSized a blocksDone chunk read

/-- A step that issues nothing. -/
theorem StepKept.silent {a : ReadArgs} {past : List (Nat × Nat)} {act : ReadAct} {cap : Nat} {pc : ReadAt}
    (hcap : InBounds cap) (hcall : CallInv a past pc) (hsilent : act.transfer = none) :
    StepKept a past act cap pc where
  inBounds := hcap
  call := by rwa [hsilent]
  shrink p hp := by
    rw [hsilent] at hp
    cases hp
  sized blocksDone chunk read hact := by
    rw [hact] at hsilent
    cases hsilent

/-- **One step of one call.** -/
theorem ReadAct.On.kept {a : ReadArgs} {past : List (Nat × Nat)} {cap cap' : Nat} {act : ReadAct}
    {pc pc' : ReadAt} (hact : ReadAct.On a cap pc act cap' pc') (hcap : InBounds cap)
    (hI : CallInv a past pc) : StepKept a past act cap' pc' := by
  cases hact with
  | nothing _ => exact .silent hcap .returned rfl
  | begin _ =>
      cases hI with
      | idle hnone =>
          refine .silent hcap (.atLoop (fun hon => absurd hon (Nat.lt_irrefl 0)) ?_ ?_) rfl
          · rw [hnone]
            exact fun p hp => absurd hp List.not_mem_nil
          · rw [hnone]
            exact fun chunk hp => absurd hp List.not_mem_nil
  | issue hleft =>
      obtain ⟨hcall, hshrink⟩ := hI.issue cap hleft
      refine ⟨hcap, hcall, ?_, ?_⟩
      · rintro p (hp : some _ = some p) q hq
        cases hp
        exact hshrink q hq
      · intro blocksDone chunk read heq
        injection heq with hpos hchunk hread
        subst hpos hchunk hread
        exact a.chunk_wellSized hcap hleft
  | finish _ => exact .silent hcap .returned rfl
  | answer st actualLen => exact .silent hcap (hI.answer st actualLen) rfl
  | lower =>
      refine .silent ⟨?_, Nat.le_trans (capLowered_le _ _) hcap.2⟩ hI.lower rfl
      cases hI with
      | lowering htrial _ =>
          unfold capLowered
          split
          · exact htrial
          · exact hcap.1

theorem ReadAct.On.cap_le {a : ReadArgs} {cap cap' : Nat} {act : ReadAct} {pc pc' : ReadAt}
    (hact : ReadAct.On a cap pc act cap' pc') : cap' ≤ cap := by
  cases hact with
  | lower => exact capLowered_le _ _
  | nothing _ | begin _ | issue _ | finish _ | answer _ _ => exact Nat.le_refl _

/-! ## Every interleaving -/

variable [DecidableEq ι]

/-- The transfers of one call, newest first. -/
def transfers (i : ι) (hist : List (ι × ReadAct)) : List (Nat × Nat) :=
  hist.filterMap fun p => if p.1 = i then p.2.transfer else none

theorem transfers_cons_self (i : ι) (act : ReadAct) (hist : List (ι × ReadAct)) :
    transfers i ((i, act) :: hist) = act.transfer.toList ++ transfers i hist := by
  unfold transfers
  cases hact : act.transfer with
  | none => simp [hact]
  | some p => simp [hact]

theorem transfers_cons_ne {i j : ι} (hne : j ≠ i) (act : ReadAct) (hist : List (ι × ReadAct)) :
    transfers i ((j, act) :: hist) = transfers i hist := by
  unfold transfers
  simp [hne]

/-- **The invariant.** -/
structure ReadsInv (args : ι → ReadArgs) (hist : List (ι × ReadAct)) (s : Reads ι) : Prop where
  inBounds : InBounds s.maxTransferBytes
  calls : ∀ i, CallInv (args i) (transfers i hist) (s.calls i)
  shrink : ∀ i, (transfers i hist).Pairwise Shrinks
  sized : ∀ i blocksDone chunk read, (i, .issued blocksDone chunk read) ∈ hist →
    WellSized (args i) blocksDone chunk read

theorem ReadsInv.start (args : ι → ReadArgs) : ReadsInv args [] (Reads.start : Reads ι) where
  inBounds := by
    show InBounds laserMaxBytesPerTransfer
    unfold InBounds
    decide
  calls _ := .idle rfl
  shrink _ := .nil
  sized _ _ _ _ hmem := by cases hmem

/-- **One step**, of whichever call. -/
theorem ReadsInv.step {args : ι → ReadArgs} {hist : List (ι × ReadAct)} {s t : Reads ι}
    {a : ι × ReadAct} (hI : ReadsInv args hist s) (hstep : ReadStep args s a t) :
    ReadsInv args (a :: hist) t := by
  obtain ⟨i, act⟩ := a
  cases hstep with
  | @of cap pc hact =>
      have hkept := hact.kept hI.inBounds (hI.calls i)
      refine ⟨hkept.inBounds, ?_, ?_, ?_⟩
      · intro j
        by_cases hj : i = j
        · subst hj
          rw [transfers_cons_self]
          show CallInv _ _ (Function.update s.calls i pc i)
          rw [Function.update_self]
          exact hkept.call
        · rw [transfers_cons_ne hj]
          show CallInv _ _ (Function.update s.calls i pc j)
          rw [Function.update_of_ne (Ne.symm hj)]
          exact hI.calls j
      · intro j
        by_cases hj : i = j
        · subst hj
          rw [transfers_cons_self, List.pairwise_append]
          refine ⟨?_, hI.shrink i, fun p hp => hkept.shrink p (Option.mem_toList.mp hp)⟩
          cases act.transfer with
          | none => exact .nil
          | some p => exact List.pairwise_singleton _ _
        · rw [transfers_cons_ne hj]
          exact hI.shrink j
      · intro j blocksDone chunk read hmem
        rcases List.mem_cons.mp hmem with heq | hmem
        · obtain ⟨rfl, rfl⟩ := Prod.mk.inj heq
          exact hkept.sized blocksDone chunk read rfl
        · exact hI.sized j blocksDone chunk read hmem

theorem readsInv_of_run {args : ι → ReadArgs} {hist : List (ι × ReadAct)} {s : Reads ι}
    (hrun : Run (ReadStep args) Reads.start hist s) : ReadsInv args hist s :=
  hrun.invariant (I := ReadsInv args) (fun _ _ _ _ _ hI hstep => hI.step hstep) (.start args)

/-- The cap only comes down. -/
theorem cap_le_of_run {args : ι → ReadArgs} {hist : List (ι × ReadAct)} {s t : Reads ι}
    (hrun : Run (ReadStep args) s hist t) : t.maxTransferBytes ≤ s.maxTransferBytes := by
  apply hrun.invariant (I := fun _ t => t.maxTransferBytes ≤ s.maxTransferBytes)
  · intro _ t a u _ hle hstep
    cases hstep with
    | of hact => exact Nat.le_trans hact.cap_le hle
  · exact Nat.le_refl _

/-- **In every interleaving** of any number of block reads, whatever the device answers: the cap only comes
    down, and stays between its bounds; every command is well-sized, by the cap that was read for it; and a
    call that tries again where it failed tries less. -/
theorem transferCap_interleaved {args : ι → ReadArgs} {older newer : List (ι × ReadAct)} {s t : Reads ι}
    (hrun : Run (ReadStep args) Reads.start older s) (hlater : Run (ReadStep args) s newer t) :
    InBounds s.maxTransferBytes ∧ t.maxTransferBytes ≤ s.maxTransferBytes
      ∧ (∀ i blocksDone chunk read, (i, .issued blocksDone chunk read) ∈ older →
        WellSized (args i) blocksDone chunk read)
      ∧ ∀ i, (transfers i older).Pairwise Shrinks :=
  have hI := readsInv_of_run hrun
  ⟨hI.inBounds, cap_le_of_run hlater, hI.sized, hI.shrink⟩

/-- A read of 32 blocks, and one of three sectors beside it. -/
def twoReads : Bool → ReadArgs
  | true => ⟨.read10, 0, 32⟩
  | false => ⟨.readCd 0x04 0x10, 100, 3⟩

/-- The first command fails, the other call begins, and the same blocks are tried in half the size. -/
theorem twoReads_shrink : ∃ (hist : List (Bool × ReadAct)) (s : Reads Bool),
    Run (ReadStep twoReads) Reads.start hist s ∧ transfers true hist = [(0, 16), (0, 32)]
      ∧ (transfers true hist).Pairwise Shrinks := by
  have hrun : ∃ s, Run (ReadStep twoReads) Reads.start
      [(true, .issued 0 16 65536), (true, .answered .errIo 0), (false, .began), (true, .issued 0 32 65536),
        (true, .began)] s :=
    ⟨_, .step (.step (.step (.step (.step .refl (.of (.begin (by decide)))) (.of (.issue (by decide))))
      (.of (.begin (by decide)))) (.of (.answer .errIo 0))) (.of (.issue (by decide)))⟩
  obtain ⟨s, hrun⟩ := hrun
  exact ⟨_, s, hrun, rfl, (transferCap_interleaved hrun .refl).2.2.2 true⟩

end Liblaser
