import Liblaser.Blocks.Drive
import Liblaser.Scsi.Cancelled

/-!
# `Blocks.Cancelled` — a block read whose token is cancelled

What `Scsi.Cancelled` says of one command, carried to `read_chunked()`: a read cancelled in the middle of
a command should return `LASER_ERR_CANCELLED`, or a status that command's own transaction said. It never
sends another command, since the checks before the next one find the flag up; but what it returns is a
number of blocks where the loop stops for another reason, and a plain I/O error where the command gave one.

**`cancellation_reported_iff`** puts both levels together, each with the exact condition.
-/

namespace Liblaser

open Bytes Loop

variable {W : Type} {h : Host W} {raised : W → Prop} {port : ScsiPort W} {kind : ReadKind}
  {registered : Bool} {lba : UInt32} {numBlocks : Nat} {s s' : Sys W} {t : ReadState W}

/-- What the other threads leave alone: the entry of a caller that holds its claim, but for a lower
    transfer cap; and the flag once it is up. -/
structure ScsiPort.Keeps (port : ScsiPort W) (raised : W → Prop) : Prop where
  inUse : ∀ s, s.entry.inUse = true → (port.otherThreads s).entry.inUse = true
  cap : ∀ s, (port.otherThreads s).entry.maxTransferBytes ≤ s.entry.maxTransferBytes
  raised : ∀ s, raised s.world → raised (port.otherThreads s).world

/-- The blocks of a turn's command. -/
def chunkAt (port : ScsiPort W) (kind : ReadKind) (registered : Bool) (numBlocks : Nat)
    (t : ReadState W) : Nat :=
  nextChunk kind.blockSize (currentCap registered t.vars (port.otherThreads t.sys))
    (numBlocks - t.vars.blocksDone)

/-- The command of a turn, and the state it is made in. -/
def commandAt (port : ScsiPort W) (kind : ReadKind) (registered : Bool) (lba : UInt32)
    (numBlocks : Nat) (t : ReadState W) : CdbCall × Sys W :=
  (kind.call (lba + UInt32.ofNat t.vars.blocksDone) (chunkAt port kind registered numBlocks t),
    port.otherThreads t.sys)

/-- Where a turn with blocks left leads when its command returns. -/
theorem readTurn_of_command (hruns : port.Runs h) (hleft : t.vars.blocksDone < numBlocks)
    {call : CdbCall} {s₁ s' : Sys W}
    (hcommand : commandAt port kind registered lba numBlocks t = (call, s₁)) {r : CdbResult}
    (hret : Returns h call s₁ r s') :
    ∃ memory, readTurn port kind registered lba numBlocks t
      = if r.status ≠ .ok then
          chunkFailed kind registered (chunkAt port kind registered numBlocks t) r.status
            ⟨t.vars, memory, s'⟩
        else chunkRead port kind (chunkAt port kind registered numBlocks t) (r.actualLen.getD 0)
          ⟨t.vars, memory, s'⟩ := by
  obtain ⟨s, chunk, r', s'', rfl, hchunk, hres, hturn⟩ :=
    @readTurn_of_lt _ port kind registered lba numBlocks t hleft
  obtain rfl : chunk = chunkAt port kind registered numBlocks t := hchunk
  obtain ⟨rfl, rfl⟩ := Prod.mk.inj hcommand
  have hgiven := hruns (kind.call (lba + UInt32.ofNat t.vars.blocksDone)
    (chunkAt port kind registered numBlocks t)) (port.otherThreads t.sys)
  rw [hres] at hgiven
  obtain ⟨rfl, rfl⟩ := hgiven.unique hret
  exact ⟨_, hturn⟩

/-- The entry as the loop needs it: registered, with a cap in range. -/
structure EntryReady (s : Sys W) : Prop where
  inUse : s.entry.inUse = true
  cap : s.entry.maxTransferBytes ≤ laserMaxBytesPerTransfer

theorem EntryReady.otherThreads (hkeeps : port.Keeps raised) (hready : EntryReady s) :
    EntryReady (port.otherThreads s) :=
  ⟨hkeeps.inUse s hready.inUse, Nat.le_trans (hkeeps.cap s) hready.cap⟩

theorem EntryReady.returns {call : CdbCall} {r : CdbResult} (hready : EntryReady s)
    (hgiven : ReturnsOrHangs h call s r s') : EntryReady s' := by
  cases hgiven with
  | hangs _ => exact hready
  | returns hret =>
      obtain ⟨gone, hframe⟩ := hret.frame
      have hinUse := congrArg LaserEntry.inUse hframe
      have hcap := congrArg LaserEntry.maxTransferBytes hframe
      refine ⟨?_, ?_⟩
      · show s'.entry.frame.inUse = true
        rw [hinUse]
        exact hready.inUse
      · show s'.entry.frame.maxTransferBytes ≤ _
        rw [hcap]
        exact hready.cap

theorem EntryReady.lower (bytes : Nat) (hready : EntryReady s) :
    EntryReady (lowerTransferCap bytes s) := by
  refine ⟨?_, Nat.le_trans (lowerTransferCap_le bytes s) hready.cap⟩
  unfold lowerTransferCap
  split <;> exact hready.inUse

/-! ## The commands of a read -/

theorem length_buildCdb (kind : ReadKind) (lba : UInt32) (blocks : Nat) :
    (kind.buildCdb lba blocks).length = 10 ∨ (kind.buildCdb lba blocks).length = 12 := by
  cases kind <;> simp [ReadKind.buildCdb, buildRead10Cdb, buildReadCdCdb]

/-- A read is no CSS command. -/
theorem buildCdb_not_css (kind : ReadKind) (lba : UInt32) (blocks : Nat) :
    laserCdbChangesCssState (kind.buildCdb lba blocks) = false := by
  cases kind with
  | read10 =>
      have hshort : (buildRead10Cdb lba blocks).length < 12 := by simp [buildRead10Cdb]
      exact if_pos hshort
  | readCd expectedType fieldFlags =>
      simp [ReadKind.buildCdb, buildReadCdCdb, laserCdbChangesCssState]

theorem ReadKind.call_valid {chunk : Nat} (hsize : chunk * kind.blockSize ≤ laserMaxBytesPerTransfer) :
    (kind.call lba chunk).valid = true := by
  have hlength := length_buildCdb kind lba chunk
  have hne : (kind.buildCdb lba chunk).isEmpty = false := by
    rw [List.isEmpty_eq_false_iff_exists_mem]
    rcases hc : kind.buildCdb lba chunk with _ | ⟨b, bs⟩
    · rw [hc] at hlength
      simp at hlength
    · exact ⟨b, List.mem_cons_self⟩
  have hlen : (kind.call lba chunk).dataLen = (chunk * kind.blockSize : Nat) := by
    unfold laserMaxBytesPerTransfer at hsize
    simp only [ReadKind.call, cInt_of_lt (show chunk * kind.blockSize < 2 ^ 31 by omega)]
  have hlong : ¬ 16 < (kind.buildCdb lba chunk).length := by omega
  have hneg : ¬ ((chunk * kind.blockSize : Nat) : Int) < 0 := by omega
  unfold CdbCall.valid
  rw [hlen]
  simp only [ReadKind.call, hne, hlong, hneg, Option.isNone_some, Bool.false_and]
  rfl

/-- A read may be sent twice. -/
theorem ReadKind.call_idempotent (kind : ReadKind) (lba : UInt32) (chunk : Nat) :
    (kind.call lba chunk).idempotent = true := by
  have hcss : laserCdbChangesCssState (kind.call lba chunk).cdb = false := buildCdb_not_css kind lba chunk
  unfold CdbCall.idempotent
  rw [hcss]
  rfl

/-- A command that arrives once the flag is up is refused. -/
theorem returns_of_raised {call : CdbCall} (hflag : h.Flag raised) (hup : raised s.world)
    (hvalid : call.valid = true) (hinUse : s.entry.inUse = true)
    (hcss : laserCdbChangesCssState call.cdb = false) :
    Returns h call s ⟨.errCancelled, none, []⟩ (s.isCancelled h).2 := by
  have hpoll : (s.isCancelled h).1 = true := hflag.read _ hup
  have hcheck : precheck h call s = (some .errCancelled, (s.isCancelled h).2) := by
    unfold precheck
    rw [hvalid, hinUse, hcss]
    simp [hpoll]
  refine ⟨0, ?_⟩
  unfold laserScsiCdb
  rw [hcheck]

/-! ## The read -/

/-- The loop of a read that runs on an entry in order. -/
theorem readTurn_ready (hruns : port.Runs h) (hkeeps : port.Keeps raised)
    {t u : ReadState W} (hready : EntryReady t.sys)
    (hb : readTurn port kind registered lba numBlocks t = .again u) : EntryReady u.sys := by
  by_cases hleft : t.vars.blocksDone < numBlocks
  · obtain ⟨s, chunk, r, s', rfl, -, hres, hturn⟩ :=
      @readTurn_of_lt _ port kind registered lba numBlocks t hleft
    have hret := hruns (kind.call (lba + UInt32.ofNat t.vars.blocksDone) chunk)
      (port.otherThreads t.sys)
    rw [hres] at hret
    have hafter := (hready.otherThreads hkeeps).returns hret
    rw [hturn] at hb
    dsimp only at hb
    split at hb
    · obtain ⟨-, heq⟩ := chunkFailed_again hb
      rw [heq]
      exact hafter
    · obtain ⟨-, heq | ⟨bytes, heq⟩⟩ := chunkRead_again hb
      · rw [heq]
        exact hafter
      · rw [heq]
        exact (hafter.otherThreads hkeeps).lower bytes
  · unfold readTurn at hb
    rw [if_neg hleft] at hb
    cases hb

/-- A read returns with what a reached turn leaves with. -/
theorem readChunked_of_done {memory : Nat → UInt8} {k : Nat} {res : ReadResult W}
    (hasked : 0 < numBlocks)
    (hr : Reaches (readTurn port kind s.entry.inUse lba numBlocks) ⟨{}, memory, s⟩ k t)
    (hdone : readTurn port kind s.entry.inUse lba numBlocks t = .done res) :
    readChunked port kind (k + 1) lba numBlocks memory s = some res := by
  unfold readChunked
  rw [if_neg (by omega), Int.toNat_natCast]
  exact iterate_eq_some_iff.mpr ⟨k, t, Nat.lt_succ_self k, hr, hdone⟩

/-- A status that ends the read whatever was read before. -/
theorem chunkFailed_terminal {st : LaserStatus} (registered : Bool) (chunk : Nat) (u : ReadState W)
    (hst : st = .errMediaGone ∨ st = .errNoDevice ∨ st = .errCancelled) :
    chunkFailed kind registered chunk st u = .done ⟨st.code, u.memory, u.sys⟩ := by
  unfold chunkFailed
  exact if_pos hst

/-- One that ends it with what was read before. -/
theorem chunkFailed_left {st : LaserStatus} {registered : Bool} {chunk : Nat} {u : ReadState W}
    (hst : ¬ (st = .errMediaGone ∨ st = .errNoDevice ∨ st = .errCancelled))
    (hretry : ¬ (st = .errIo ∧ 1 < chunk ∧ registered ∧
      laserMinBytesPerTransfer < chunk * kind.blockSize)) :
    chunkFailed kind registered chunk st u
      = .done ⟨if 0 < u.vars.blocksDone then u.vars.blocksDone else st.code, u.memory, u.sys⟩ := by
  unfold chunkFailed
  dsimp only
  rw [if_neg hst, if_neg hretry]

/-- A plain failure of a large chunk does not end it. -/
theorem chunkFailed_smaller {chunk : Nat} (u : ReadState W) (hchunk : 1 < chunk)
    (hlarge : laserMinBytesPerTransfer < chunk * kind.blockSize) :
    chunkFailed kind true chunk .errIo u
      = .again { u with vars := u.vars.onTrial chunk (chunk * kind.blockSize) } := by
  unfold chunkFailed
  dsimp only
  rw [if_neg (by decide), if_pos ⟨rfl, hchunk, rfl, hlarge⟩]

/-- A chunk that fell short ends it with the blocks that arrived. -/
theorem chunkRead_short {chunk actualLen : Nat} (u : ReadState W)
    (hshort : actualLen ≠ chunk * kind.blockSize) :
    chunkRead port kind chunk actualLen u
      = .done ⟨if u.vars.blocksDone + actualLen / kind.blockSize = 0 then LaserStatus.errIo.code
          else ((u.vars.blocksDone + actualLen / kind.blockSize : Nat) : Int), u.memory, u.sys⟩ := by
  unfold chunkRead
  dsimp only
  rw [if_pos hshort]

/-- A chunk read in full goes on. -/
theorem chunkRead_full {chunk actualLen : Nat} (u : ReadState W)
    (hfull : actualLen = chunk * kind.blockSize) :
    ∃ t', chunkRead port kind chunk actualLen u = .again t' := by
  unfold chunkRead
  dsimp only
  rw [if_neg (not_not_intro hfull)]
  split <;> exact ⟨_, rfl⟩

/-- A turn begun with the flag up ends the read as cancelled, when blocks are left. -/
theorem readTurn_of_raised (hruns : port.Runs h) (hflag : h.Flag raised) (hkeeps : port.Keeps raised)
    (hready : EntryReady t.sys) (hup : raised t.sys.world) (hleft : t.vars.blocksDone < numBlocks) :
    ∃ res, readTurn port kind registered lba numBlocks t = .done res
      ∧ res.ret = LaserStatus.errCancelled.code := by
  have hready' := hready.otherThreads hkeeps
  have hsize : chunkAt port kind registered numBlocks t * kind.blockSize ≤ laserMaxBytesPerTransfer :=
    nextChunk_size kind (by omega) (currentCap_le hready'.cap).1
  have hret := returns_of_raised hflag (hkeeps.raised _ hup)
    (@ReadKind.call_valid kind (lba + UInt32.ofNat t.vars.blocksDone) _ hsize) hready'.inUse
    (buildCdb_not_css _ _ _)
  obtain ⟨memory, hturn⟩ := readTurn_of_command hruns hleft rfl hret
  rw [hturn, if_pos (by decide), chunkFailed_terminal _ _ _ (.inr (.inr rfl))]
  exact ⟨_, rfl, rfl⟩

/-- The read, when the flag is up and a turn goes on: it is over, or the next turn ends it. -/
theorem readChunked_of_raised (hruns : port.Runs h) (hflag : h.Flag raised)
    (hkeeps : port.Keeps raised) {memory : Nat → UInt8} (hasked : 0 < numBlocks) {k : Nat}
    (hr : Reaches (readTurn port kind s.entry.inUse lba numBlocks) ⟨{}, memory, s⟩ k t)
    (hready : EntryReady t.sys) (hup : raised t.sys.world) (hle : t.vars.blocksDone ≤ numBlocks) :
    ∃ fuel res, readChunked port kind fuel lba numBlocks memory s = some res
      ∧ res.ret = if t.vars.blocksDone < numBlocks then LaserStatus.errCancelled.code
        else (numBlocks : Int) := by
  by_cases hleft : t.vars.blocksDone < numBlocks
  · obtain ⟨res, hdone, hcancelled⟩ := readTurn_of_raised hruns hflag hkeeps hready hup hleft
    exact ⟨_, res, readChunked_of_done hasked hr hdone, by rw [if_pos hleft, hcancelled]⟩
  · have hdone : readTurn port kind s.entry.inUse lba numBlocks t
        = .done ⟨t.vars.blocksDone, t.memory, t.sys⟩ := if_neg hleft
    refine ⟨_, _, readChunked_of_done hasked hr hdone, ?_⟩
    rw [if_neg hleft]
    exact congrArg Nat.cast (Nat.le_antisymm hle (Nat.le_of_not_lt hleft))

/-! ## What the read returns -/

/-- The return value is one that a cancelled read may have: `LASER_ERR_CANCELLED`; a status that the
    transaction in progress said; or, when that transaction passed, that every block was read. -/
def ReadReported (h : Host W) (numBlocks : Nat) (call : CdbCall) (v : CdbVars) (u : Sys W)
    (ret : Int) : Prop :=
  ret = LaserStatus.errCancelled.code ∨ (∃ st, Said h call v u st ∧ ret = LaserStatus.code st)
    ∨ (outcomeAt h call u = .pass ∧ ret = numBlocks)

/-- **The condition**, on the transaction in progress, with `done` blocks read before its command and
    `chunk` in it. -/
inductive ReadReportable (h : Host W) (kind : ReadKind) (numBlocks done chunk : Nat) (call : CdbCall)
    (v : CdbVars) (u : Sys W) : Prop where
  /-- It passes, in full or with all the blocks that were left. -/
  | passed (ho : outcomeAt h call u = .pass)
      (hlen : (passedLen h call v u).getD 0 = chunk * kind.blockSize
        ∨ done + (passedLen h call v u).getD 0 / kind.blockSize = numBlocks) :
      ReadReportable h kind numBlocks done chunk call v u
  | gone (ho : outcomeAt h call u = .noDevice) : ReadReportable h kind numBlocks done chunk call v u
  /-- Its sense ends the command: with the medium gone, or with nothing read before it. -/
  | said (hlost : Lost h call u) {st : LaserStatus} (hverdict : verdictAt h call v u = .final st)
      (hkept : st = .errMediaGone ∨ done = 0) : ReadReportable h kind numBlocks done chunk call v u
  /-- It would be made again, and there is an attempt to make it in. -/
  | again (hlost : Lost h call u) (hverdict : ∀ st, verdictAt h call v u ≠ .final st)
      (hmore : v.attempt < laserMaxRetries ∨ ¬ Spends h call v u) :
      ReadReportable h kind numBlocks done chunk call v u
  /-- There is none, but the loop would try the chunk at half its size. -/
  | smaller (hlost : Lost h call u) (hspends : Spends h call v u) (hlast : v.attempt = laserMaxRetries)
      (hheard : ¬ NeverLeft h call v u) (hchunk : 1 < chunk)
      (hlarge : laserMinBytesPerTransfer < chunk * kind.blockSize) :
      ReadReportable h kind numBlocks done chunk call v u

section

variable {done chunk : Nat} {call : CdbCall} {v : CdbVars} {u : Sys W} {st : LaserStatus} {ret : Int}

/-- A count is not reported for a transaction that failed. -/
theorem not_reported_of_count (hpass : outcomeAt h call u ≠ .pass) (hpos : 0 < done)
    (hret : ret = done) : ¬ ReadReported h numBlocks call v u ret := by
  subst hret
  rintro (hcancelled | ⟨st, -, hcode⟩ | ⟨ho, -⟩)
  · have hneg := @LaserStatus.code_neg .errCancelled (by decide)
    omega
  · by_cases hok : st = .ok
    · subst hok
      have hzero : LaserStatus.ok.code = 0 := rfl
      omega
    · have hneg := LaserStatus.code_neg hok
      omega
  · exact hpass ho

/-- A status is, when the transaction said it or it is that of a cancelled call. -/
theorem reported_code_iff (hpass : outcomeAt h call u ≠ .pass) (hret : ret = st.code) :
    ReadReported h numBlocks call v u ret ↔ st = .errCancelled ∨ Said h call v u st := by
  subst hret
  constructor
  · rintro (hcancelled | ⟨st', hsaid, hcode⟩ | ⟨ho, -⟩)
    · exact .inl (LaserStatus.code_inj hcancelled)
    · exact .inr (LaserStatus.code_inj hcode ▸ hsaid)
    · exact absurd ho hpass
  · rintro (rfl | hsaid)
    · exact .inl rfl
    · exact .inr (.inl ⟨st, hsaid, rfl⟩)

/-- What a read that its command ends returns: the blocks read before, or the status. -/
theorem not_reported_of_left (hpass : outcomeAt h call u ≠ .pass) (hst : st ≠ .errCancelled)
    (hsaid : ¬ Said h call v u st) (hret : ret = if 0 < done then (done : Int) else st.code) :
    ¬ ReadReported h numBlocks call v u ret := by
  split at hret
  · next hpos => exact not_reported_of_count hpass hpos hret
  · rw [reported_code_iff hpass hret]
    rintro (h | h)
    · exact hst h
    · exact hsaid h

/-- A read that fell short after a transaction that passed. -/
theorem reported_short_iff (ho : outcomeAt h call u = .pass) (hasked : 0 < numBlocks)
    (hret : ret = if done = 0 then LaserStatus.errIo.code else (done : Int)) :
    ReadReported h numBlocks call v u ret ↔ done = numBlocks := by
  have hnot : ∀ st, ¬ Said h call v u st := by
    rintro st (⟨hfail, -⟩ | ⟨hgone, -⟩)
    · rw [ho] at hfail
      cases hfail
    · rw [ho] at hgone
      cases hgone
  have hio : LaserStatus.errIo.code = -2 := rfl
  have hcancelled : LaserStatus.errCancelled.code = -9 := rfl
  constructor
  · rintro (heq | ⟨st, hsaid, -⟩ | ⟨-, heq⟩)
    · split at hret <;> omega
    · exact absurd hsaid (hnot st)
    · split at hret <;> omega
  · rintro rfl
    exact .inr (.inr ⟨ho, hret.trans (if_neg (by omega))⟩)

/-- The last attempt spent leaves only the way of a smaller chunk. -/
theorem ReadReportable.of_spent (hspends : Spends h call v u) (hlost : Lost h call u)
    (hlast : v.attempt = laserMaxRetries) (hcond : ReadReportable h kind numBlocks done chunk call v u) :
    ¬ NeverLeft h call v u ∧ 1 < chunk ∧ laserMinBytesPerTransfer < chunk * kind.blockSize := by
  cases hcond with
  | passed ho _ => exact absurd ho hlost.1
  | gone ho => exact absurd ho hlost.2
  | said _ hverdict _ => simp [Spends, hverdict] at hspends
  | again _ _ hmore =>
      rcases hmore with hmore | hfree
      · omega
      · exact absurd hspends hfree
  | smaller _ _ _ hheard hchunk hlarge => exact ⟨hheard, hchunk, hlarge⟩

/-- A verdict that ends the command leaves only the way of the sense. -/
theorem ReadReportable.done_of_final (hlost : Lost h call u) (hverdict : verdictAt h call v u = .final st)
    (hgone : st ≠ .errMediaGone) (hcond : ReadReportable h kind numBlocks done chunk call v u) :
    done = 0 := by
  cases hcond with
  | passed ho _ => exact absurd ho hlost.1
  | gone ho => exact absurd ho hlost.2
  | said _ hverdict' hkept =>
      rw [hverdict] at hverdict'
      injection hverdict' with heq
      exact hkept.resolve_left (heq ▸ hgone)
  | again _ hnot _ => exact absurd hverdict (hnot st)
  | smaller _ hspends _ _ _ _ => simp [Spends, hverdict] at hspends

end

/-! ## A cancelled read -/

/-- A read is in the command of a turn. -/
structure ReadIn (port : ScsiPort W) (kind : ReadKind) (lba : UInt32) (numBlocks : Nat)
    (memory : Nat → UInt8) (s : Sys W) (k : Nat) (t : ReadState W) (call : CdbCall) (s₁ : Sys W) :
    Prop where
  reached : Reaches (readTurn port kind s.entry.inUse lba numBlocks) ⟨{}, memory, s⟩ k t
  left : t.vars.blocksDone < numBlocks
  command : commandAt port kind s.entry.inUse lba numBlocks t = (call, s₁)

section

variable {memory : Nat → UInt8} {k n : Nat} {call : CdbCall} {s₁ u : Sys W} {v : CdbVars}

theorem ReadIn.ready (hruns : port.Runs h) (hkeeps : port.Keeps raised) (hready : EntryReady s)
    (hread : ReadIn port kind lba numBlocks memory s k t call s₁) : EntryReady t.sys :=
  hread.reached.invariant (I := fun t => EntryReady t.sys)
    (fun _ _ hI hb => readTurn_ready hruns hkeeps hI hb) hready

/-- When the loop goes on after the command, with so many blocks read and the flag still up. -/
theorem ReadIn.goesOn (hruns : port.Runs h) (hflag : h.Flag raised) (hkeeps : port.Keeps raised)
    (hready : EntryReady s) (hread : ReadIn port kind lba numBlocks memory s k t call s₁)
    {t' : ReadState W} (hb : readTurn port kind s.entry.inUse lba numBlocks t = .again t')
    (hup : raised t'.sys.world) (hle : t'.vars.blocksDone ≤ numBlocks) :
    ∃ fuel res, readChunked port kind fuel lba numBlocks memory s = some res
      ∧ res.ret = if t'.vars.blocksDone < numBlocks then LaserStatus.errCancelled.code
        else (numBlocks : Int) :=
  readChunked_of_raised hruns hflag hkeeps (Nat.zero_lt_of_lt hread.left) (hread.reached.turn hb)
    (readTurn_ready hruns hkeeps (hread.ready hruns hkeeps hready) hb) hup hle

/-- When the loop ends with the command. -/
theorem ReadIn.ends (hread : ReadIn port kind lba numBlocks memory s k t call s₁)
    {res : ReadResult W} (hdone : readTurn port kind s.entry.inUse lba numBlocks t = .done res) :
    ∃ fuel res', readChunked port kind fuel lba numBlocks memory s = some res' ∧ res'.ret = res.ret :=
  ⟨_, res, readChunked_of_done (Nat.zero_lt_of_lt hread.left) hread.reached hdone, rfl⟩

/-- A command that fails is a chunk that failed. -/
theorem ReadIn.failed (hruns : port.Runs h)
    (hread : ReadIn port kind lba numBlocks memory s k t call s₁) {r : CdbResult} {s' : Sys W}
    (hret : Returns h call s₁ r s') {st : LaserStatus} (hst : r.status = st) (hfailed : st ≠ .ok) :
    ∃ memory', readTurn port kind s.entry.inUse lba numBlocks t
      = chunkFailed kind s.entry.inUse (chunkAt port kind s.entry.inUse numBlocks t) st
        ⟨t.vars, memory', s'⟩ := by
  subst hst
  obtain ⟨memory', hturn⟩ := readTurn_of_command hruns hread.left hread.command hret
  rw [if_pos hfailed] at hturn
  exact ⟨memory', hturn⟩

/-- With a status that ends a read, it is what the read returns. -/
theorem ReadIn.ends_terminal (hruns : port.Runs h)
    (hread : ReadIn port kind lba numBlocks memory s k t call s₁) {r : CdbResult} {s' : Sys W}
    (hret : Returns h call s₁ r s') {st : LaserStatus} (hst : r.status = st)
    (hends : st = .errMediaGone ∨ st = .errNoDevice ∨ st = .errCancelled) :
    ∃ fuel res, readChunked port kind fuel lba numBlocks memory s = some res ∧ res.ret = st.code := by
  have hfailed : st ≠ .ok := by
    rintro rfl
    rcases hends with h | h | h <;> cases h
  obtain ⟨memory', hturn⟩ := hread.failed hruns hret hst hfailed
  exact hread.ends (hturn.trans (chunkFailed_terminal _ _ _ hends))

/-- The look before an attempt of the command finds the flag up. -/
theorem ReadIn.cancelled (hruns : port.Runs h)
    (hread : ReadIn port kind lba numBlocks memory s k t call s₁) (hfound : FoundUp h call s₁ n v u) :
    ∃ fuel res, readChunked port kind fuel lba numBlocks memory s = some res
      ∧ res.ret = LaserStatus.errCancelled.code :=
  hread.ends_terminal hruns hfound.returns rfl (.inr (.inr rfl))

/-- The chunk's transaction passed: the read goes on when it did in full, and falls short else. -/
theorem ReadIn.reported_of_passed (hruns : port.Runs h) (hflag : h.Flag raised)
    (hkeeps : port.Keeps raised) (hready : EntryReady s)
    (hread : ReadIn port kind lba numBlocks memory s k t call s₁)
    {r : CdbResult} {s' : Sys W} (hret : Returns h call s₁ r s') (hup : raised s'.world)
    (ho : outcomeAt h call u = .pass) (hst : r.status = .ok)
    (hlen : r.actualLen = passedLen h call v u) :
    ∃ fuel res, readChunked port kind fuel lba numBlocks memory s = some res
      ∧ (ReadReported h numBlocks call v u res.ret ↔ ReadReportable h kind numBlocks t.vars.blocksDone
        (chunkAt port kind s.entry.inUse numBlocks t) call v u) := by
  obtain ⟨memory', hturn⟩ := readTurn_of_command hruns hread.left hread.command hret
  have hasked : 0 < numBlocks := Nat.zero_lt_of_lt hread.left
  have hchunk : chunkAt port kind s.entry.inUse numBlocks t ≤ numBlocks - t.vars.blocksDone :=
    (nextChunk_spec (Nat.sub_pos_of_lt hread.left)).2.1
  rw [if_neg (not_not_intro hst), hlen] at hturn
  by_cases hfull : (passedLen h call v u).getD 0
      = chunkAt port kind s.entry.inUse numBlocks t * kind.blockSize
  · obtain ⟨t', hb⟩ := @chunkRead_full _ port kind _ _ ⟨t.vars, memory', s'⟩ hfull
    obtain ⟨hdone, hsys⟩ := chunkRead_again hb
    have hup' : raised t'.sys.world := by
      rcases hsys with heq | ⟨bytes, heq⟩
      · rw [heq]
        exact hup
      · have hkept := hkeeps.raised s' hup
        rw [heq]
        unfold lowerTransferCap
        split <;> exact hkept
    have hle : t'.vars.blocksDone ≤ numBlocks := by
      rw [hdone]
      show t.vars.blocksDone + _ ≤ _
      have hleft := hread.left
      omega
    obtain ⟨fuel, res, hrun, hres⟩ :=
      hread.goesOn hruns hflag hkeeps hready (hturn.trans hb) hup' hle
    refine ⟨fuel, res, hrun, fun _ => .passed ho (.inl hfull), fun _ => ?_⟩
    split at hres
    · exact .inl hres
    · exact .inr (.inr ⟨ho, hres⟩)
  · obtain ⟨fuel, res, hrun, hres⟩ := hread.ends (hturn.trans (chunkRead_short _ hfull))
    refine ⟨fuel, res, hrun, ?_⟩
    rw [reported_short_iff ho hasked hres]
    constructor
    · exact fun hall => .passed ho (.inr hall)
    · intro hcond
      cases hcond with
      | passed _ hlen => exact hlen.resolve_left hfull
      | gone ho' =>
          rw [ho] at ho'
          cases ho'
      | said hlost _ _ | again hlost _ _ | smaller hlost _ _ _ _ _ => exact absurd ho hlost.1

/-- The sense of the chunk's transaction ended the command: the read says so when nothing was read before,
    or when the medium is gone. -/
theorem ReadIn.reported_of_said (hruns : port.Runs h)
    (hread : ReadIn port kind lba numBlocks memory s k t call s₁) {r : CdbResult} {s' : Sys W}
    (hret : Returns h call s₁ r s') (hlost : Lost h call u)
    (hverdict : verdictAt h call v u = .final r.status) (hsaid : Said h call v u r.status) :
    ∃ fuel res, readChunked port kind fuel lba numBlocks memory s = some res
      ∧ (ReadReported h numBlocks call v u res.ret ↔ ReadReportable h kind numBlocks t.vars.blocksDone
        (chunkAt port kind s.entry.inUse numBlocks t) call v u) := by
  by_cases hgone : r.status = .errMediaGone
  · obtain ⟨fuel, res, hrun, hres⟩ := hread.ends_terminal hruns hret rfl (.inl hgone)
    exact ⟨fuel, res, hrun, fun _ => .said hlost hverdict (.inl hgone),
      fun _ => .inr (.inl ⟨_, hsaid, hres⟩)⟩
  · have hleft : ¬ (r.status = .errMediaGone ∨ r.status = .errNoDevice ∨ r.status = .errCancelled) := by
      rintro (hst | hst | hst)
      · exact hgone hst
      · exact hlost.2 (hst ▸ hsaid).noDevice
      · exact hsaid.ne.2 hst
    obtain ⟨memory', hturn⟩ := hread.failed hruns hret rfl hsaid.ne.1
    obtain ⟨fuel, res, hrun, hres⟩ := hread.ends
      (hturn.trans (chunkFailed_left hleft fun hretry => hsaid.ne_errIo hretry.1))
    refine ⟨fuel, res, hrun, ?_, ?_⟩
    · intro hreported
      by_cases hnone : t.vars.blocksDone = 0
      · exact .said hlost hverdict (.inr hnone)
      · rw [if_pos (Nat.pos_of_ne_zero hnone)] at hres
        exact absurd hreported (not_reported_of_count hlost.1 (Nat.pos_of_ne_zero hnone) hres)
    · intro hcond
      have hnone := hcond.done_of_final hlost hverdict hgone
      rw [hnone] at hres
      exact .inr (.inl ⟨_, hsaid, hres⟩)

/-- The last attempt of the command was spent: the read says that it was cancelled when it would try fewer
    blocks. -/
theorem ReadIn.reported_of_exhausted (hruns : port.Runs h) (hflag : h.Flag raised)
    (hkeeps : port.Keeps raised) (hready : EntryReady s)
    (hread : ReadIn port kind lba numBlocks memory s k t call s₁) {r : CdbResult} {s' : Sys W}
    (hret : Returns h call s₁ r s') (hup : raised s'.world) (hlost : Lost h call u)
    (hspends : Spends h call v u) (hlast : v.attempt = laserMaxRetries) (hheard : ¬ NeverLeft h call v u)
    (hst : r.status = .errIo) :
    ∃ fuel res, readChunked port kind fuel lba numBlocks memory s = some res
      ∧ (ReadReported h numBlocks call v u res.ret ↔ ReadReportable h kind numBlocks t.vars.blocksDone
        (chunkAt port kind s.entry.inUse numBlocks t) call v u) := by
  obtain ⟨memory', hturn⟩ := hread.failed hruns hret hst (by decide)
  generalize chunkAt port kind s.entry.inUse numBlocks t = chunk at hturn ⊢
  by_cases hlarge : 1 < chunk ∧ laserMinBytesPerTransfer < chunk * kind.blockSize
  · rw [hready.inUse] at hturn
    have hb := hturn.trans (chunkFailed_smaller _ hlarge.1 hlarge.2)
    rw [← hready.inUse] at hb
    obtain ⟨fuel, res, hrun, hres⟩ := hread.goesOn hruns hflag hkeeps hready hb hup
      (by rw [ReadVars.onTrial_blocksDone]; exact Nat.le_of_lt hread.left)
    rw [ReadVars.onTrial_blocksDone, if_pos hread.left] at hres
    exact ⟨fuel, res, hrun, fun _ => .smaller hlost hspends hlast hheard hlarge.1 hlarge.2,
      fun _ => .inl hres⟩
  · have hdone := hturn.trans (chunkFailed_left (by decide) fun hretry =>
      hlarge ⟨hretry.2.1, hretry.2.2.2⟩)
    obtain ⟨fuel, res, hrun, hres⟩ := hread.ends hdone
    refine ⟨fuel, res, hrun, iff_of_false ?_ fun hcond => hlarge (hcond.of_spent hspends hlost hlast).2⟩
    exact not_reported_of_left hlost.1 (by decide) (fun hsaid => hsaid.ne_errIo rfl) hres

/-- **What a cancelled read returns** is right exactly under the condition. -/
theorem ReadIn.reported_iff (hruns : port.Runs h) (hflag : h.Flag raised)
    (hkeeps : port.Keeps raised) (hready : EntryReady s)
    (hread : ReadIn port kind lba numBlocks memory s k t call s₁)
    (hraised : RaisedIn h raised call s₁ n v u) :
    ∃ fuel res, readChunked port kind fuel lba numBlocks memory s = some res
      ∧ (ReadReported h numBlocks call v u res.ret ↔ ReadReportable h kind numBlocks t.vars.blocksDone
        (chunkAt port kind s.entry.inUse numBlocks t) call v u) := by
  obtain ⟨r, s', hret, -, hup⟩ := hraised.stops hflag
  cases hraised.ends hflag hret with
  | passed ho hst hlen => exact hread.reported_of_passed hruns hflag hkeeps hready hret hup ho hst hlen
  | gone ho hst =>
      obtain ⟨fuel, res, hrun, hres⟩ := hread.ends_terminal hruns hret hst (.inr (.inl rfl))
      exact ⟨fuel, res, hrun, fun _ => .gone ho, fun _ => .inr (.inl ⟨_, .inr ⟨ho, rfl⟩, hres⟩)⟩
  | said hlost hverdict hsaid => exact hread.reported_of_said hruns hret hlost hverdict hsaid
  | unexplained hlost hverdict hrisky hst =>
      -- a read may be sent twice
      obtain ⟨rfl, -⟩ := Prod.mk.inj hread.command
      rw [ReadKind.call_idempotent] at hrisky
      cases hrisky
  | cancelled hlost hverdict hmore hst =>
      obtain ⟨fuel, res, hrun, hres⟩ := hread.ends_terminal hruns hret hst (.inr (.inr rfl))
      exact ⟨fuel, res, hrun, fun _ => .again hlost hverdict hmore, fun _ => .inl hres⟩
  | exhausted hlost hspends hlast hheard hst =>
      exact hread.reported_of_exhausted hruns hflag hkeeps hready hret hup hlost hspends hlast hheard hst
  | neverLeft hlost hspends hlast hsilent hst =>
      obtain ⟨fuel, res, hrun, hres⟩ := hread.ends_terminal hruns hret hst (.inr (.inl rfl))
      refine ⟨fuel, res, hrun, iff_of_false ?_ fun hcond =>
        (hcond.of_spent hspends hlost hlast).1 hsilent⟩
      rw [reported_code_iff hlost.1 hres]
      rintro (heq | hsaid)
      · cases heq
      · exact hlost.2 hsaid.noDevice

end

/-! ## Both levels -/

/-- **When cancellation is reported as cancellation.** For a flag that is only ever raised. A command
    whose look before an attempt finds it up says so, and sends its CDB no more. When it goes up in a turn
    of the loop, the call returns without sending the CDB again, with a status that a cancelled call may
    have exactly if the transaction in progress is `Reportable`. A block read that is in such a command
    returns, as cancelled in the first case, and in the second with a value that a cancelled read may have
    exactly if that transaction is `ReadReportable`. -/
theorem cancellation_reported_iff (h : Host W) (raised : W → Prop) (hflag : h.Flag raised) :
    (∀ call s n v t,
      (FoundUp h call s n v t → ∃ r s', Returns h call s r s' ∧ r.status = .errCancelled
        ∧ cdbOutcomes s'.trace = cdbOutcomes t.trace)
      ∧ (RaisedIn h raised call s n v t → ∃ r s', Returns h call s r s' ∧ Stops h call t s'
        ∧ (Reported h call v t r.status ↔ Reportable h call v t)))
    ∧ ∀ port : ScsiPort W, port.Runs h → port.Keeps raised →
      ∀ kind lba (numBlocks : Nat) memory s, EntryReady s →
      ∀ k t call s₁, ReadIn port kind lba numBlocks memory s k t call s₁ →
      ∀ n v u,
        (FoundUp h call s₁ n v u →
          ∃ fuel res, readChunked port kind fuel lba numBlocks memory s = some res
            ∧ res.ret = LaserStatus.errCancelled.code)
        ∧ (RaisedIn h raised call s₁ n v u →
          ∃ fuel res, readChunked port kind fuel lba numBlocks memory s = some res
            ∧ (ReadReported h numBlocks call v u res.ret
              ↔ ReadReportable h kind numBlocks t.vars.blocksDone
                (chunkAt port kind s.entry.inUse numBlocks t) call v u)) := by
  constructor
  · intro call s n v t
    refine ⟨fun hfound => ⟨_, _, hfound.returns, rfl, rfl⟩, fun hraised => ?_⟩
    obtain ⟨r, s', hret, hstops, -⟩ := hraised.stops hflag
    exact ⟨r, s', hret, hstops, hraised.reported_iff hflag hret⟩
  · intro port hruns hkeeps kind lba numBlocks memory s hready k t call s₁ hread n v u
    exact ⟨hread.cancelled hruns, hread.reported_iff hruns hflag hkeeps hready⟩

/-! ## A flag that goes up after so many looks -/

/-- A scripted host on which the flag goes up right after it has been looked at so many times. -/
def Host.cancelledAfter : Host (Script × Nat) where
  send entry req w :=
    let (reply, script) := Host.scripted.send entry req w.1
    (reply, (script, w.2))
  clockGettime w :=
    let (t, script) := Host.scripted.clockGettime w.1
    (t, (script, w.2))
  usleep us w := (Host.scripted.usleep us w.1, w.2)
  isCancelled w := (w.2 == 0, (w.1, w.2 - 1))

/-- The flag is up when no look is left. -/
theorem Host.cancelledAfter_flag : Host.cancelledAfter.Flag (fun w => w.2 = 0) where
  read w hup := by
    show (w.2 == 0) = true
    rw [hup]
    rfl
  seen w hseen := by
    have hzero : w.2 = 0 := by simpa [cancelledAfter] using hseen
    show w.2 - 1 = 0
    omega
  isCancelled w hup := by
    show w.2 - 1 = 0
    rw [hup]
  send _ _ _ hup := hup
  clockGettime _ hup := hup
  usleep _ _ hup := hup

theorem ScsiPort.ofHost_keeps (h : Host W) (raised : W → Prop) : (ScsiPort.ofHost h).Keeps raised :=
  ⟨fun _ hinUse => hinUse, fun _ => Nat.le_refl _, fun _ hup => hup⟩

/-- A read of eight blocks, the first of which is not readable. Cancelled during its first attempt, the
    command says so before the second; cancelled during the sixth it gives a plain I/O error, but the read
    would try fewer blocks, and says that it was cancelled. -/
theorem cancellation_reported_second :
    let failure := [{ outcome := .failed 0x01 }, Scripted.sense 0x03 0x11 0x00]
    let script := Script.ofList (failure ++ failure ++ failure ++ failure ++ failure ++ failure)
    let entry : LaserEntry := { inUse := true, maxTransferBytes := laserMaxBytesPerTransfer }
    let call := ReadKind.read10.call 16 8
    (∃ r s' v t, Returns .cancelledAfter call ⟨entry, (script, 2), []⟩ r s'
        ∧ v.attempt = 1 ∧ Stops .cancelledAfter call t s'
        ∧ Reported .cancelledAfter call v t r.status)
      ∧ ∃ fuel res v t,
        readChunked (.ofHost .cancelledAfter) .read10 fuel 16 8 (fun _ => 0) ⟨entry, (script, 7), []⟩ = some res
        ∧ v.attempt = 6 ∧ ReadReported .cancelledAfter 8 call v t res.ret := by
  intro failure script entry call
  have hboth := cancellation_reported_iff .cancelledAfter (fun w => w.2 = 0) Host.cancelledAfter_flag
  constructor
  · have hturn : ∃ v t, InLoop .cancelledAfter call ⟨entry, (script, 2), []⟩ 0 v t ∧ (v.attempt = 1
        ∧ (t.isCancelled .cancelledAfter).1 = false
        ∧ (turnEnd (cdbTurn .cancelledAfter call (v, t))).world.2 = 0
        ∧ verdictAt .cancelledAfter call v t = .delayed) :=
      InLoop.of_run 0 (by decide +kernel) (by decide +kernel)
    obtain ⟨v, t, hin, hfirst, hpoll, hup, hverdict⟩ := hturn
    have hraised : RaisedIn .cancelledAfter (fun w => w.2 = 0) call ⟨entry, (script, 2), []⟩ 0 v t :=
      ⟨hin, by rw [hfirst]; decide, hpoll, hup⟩
    have hcond : Reportable .cancelledAfter call v t :=
      .inr (.inr ⟨by rw [hverdict]; decide, .inl (by rw [hfirst]; decide)⟩)
    obtain ⟨r, s', hret, hstops, hiff⟩ := (hboth.1 call _ 0 v t).2 hraised
    exact ⟨r, s', v, t, hret, hfirst, hstops, hiff.mpr hcond⟩
  · have hturn : ∃ v t, InLoop .cancelledAfter call ⟨entry, (script, 7), []⟩ 5 v t ∧ (v.attempt = 6
        ∧ (t.isCancelled .cancelledAfter).1 = false
        ∧ (turnEnd (cdbTurn .cancelledAfter call (v, t))).world.2 = 0
        ∧ outcomeAt .cancelledAfter call t = .failed 0x01
        ∧ verdictAt .cancelledAfter call v t = .delayed) :=
      InLoop.of_run 5 (by decide +kernel) (by decide +kernel)
    obtain ⟨v, t, hin, hlast, hpoll, hup, ho, hverdict⟩ := hturn
    have hraised : RaisedIn .cancelledAfter (fun w => w.2 = 0) call ⟨entry, (script, 7), []⟩ 5 v t :=
      ⟨hin, by rw [hlast]; decide, hpoll, hup⟩
    have hread : ReadIn (.ofHost .cancelledAfter) .read10 16 8 (fun _ => 0) ⟨entry, (script, 7), []⟩ 0
        ⟨{}, fun _ => 0, ⟨entry, (script, 7), []⟩⟩ call ⟨entry, (script, 7), []⟩ := by
      refine ⟨.start, by decide, ?_⟩
      unfold commandAt
      rw [show chunkAt (.ofHost .cancelledAfter) .read10 true 8
        ⟨{}, fun _ => 0, ⟨entry, (script, 7), []⟩⟩ = 8 by decide]
      rfl
    obtain ⟨fuel, res, hrun, hiff⟩ := (hboth.2 (.ofHost .cancelledAfter) (ScsiPort.ofHost_runs _)
      (ScsiPort.ofHost_keeps _ _) .read10 16 8 _ _ ⟨rfl, Nat.le_refl _⟩ _ _ _ _ hread 5 v t).2 hraised
    have hlost : Lost .cancelledAfter call t := by
      rw [Lost, ho]
      decide
    refine ⟨fuel, res, v, t, hrun, hlast, hiff.mpr (.smaller hlost ?_ hlast ?_ ?_ ?_)⟩
    · simp [Spends, hverdict]
    · rintro ⟨hsilent, -⟩
      rw [ho] at hsilent
      cases hsilent
    · decide
    · decide

/-- **Cancelled, and told of an I/O error.** The flag goes up in the sixth attempt, which fails like the
    five before it. It is looked at no more. -/
theorem cancelled_in_last_attempt :
    let failure := [{ outcome := .failed 0x01 }, Scripted.sense 0x03 0x11 0x00]
    let script := Script.ofList (failure ++ failure ++ failure ++ failure ++ failure ++ failure)
    let s : Sys (Script × Nat) := ⟨{ inUse := true }, (script, 7), []⟩
    ∃ r s', Returns .cancelledAfter readBlock16 s r s' ∧ r.status = .errIo
      ∧ ∃ n v t, RaisedIn .cancelledAfter (fun w => w.2 = 0) readBlock16 s n v t
        ∧ ¬ Reported .cancelledAfter readBlock16 v t r.status := by
  intro failure script s
  have hcall : ∃ r s', Returns .cancelledAfter readBlock16 s r s' ∧ r.status = .errIo :=
    Returns.of_run 7 (by decide +kernel)
  obtain ⟨r, s', hret, hst⟩ := hcall
  have hturn : ∃ v t, InLoop .cancelledAfter readBlock16 s 5 v t ∧ (v.attempt = 6
      ∧ (t.isCancelled .cancelledAfter).1 = false
      ∧ (turnEnd (cdbTurn .cancelledAfter readBlock16 (v, t))).world.2 = 0) :=
    InLoop.of_run 5 (by decide +kernel) (by decide +kernel)
  obtain ⟨v, t, hin, hlast, hpoll, hup⟩ := hturn
  refine ⟨r, s', hret, hst, 5, v, t, ⟨hin, by rw [hlast]; decide, hpoll, hup⟩, ?_⟩
  rw [hst]
  rintro (hok | hcancel | ⟨-, hmeans⟩ | ⟨-, hgone⟩)
  · cases hok
  · cases hcancel
  · exact hmeans
  · cases hgone

end Liblaser
