import Liblaser.Blocks.Evidence
import Liblaser.Blocks.Contract
import Liblaser.Blocks.Drive

/-!
# `Blocks.Scratch` — a scratch leaves the transfer size alone

A run of the two block reads on one drive, `CallsRun`, and what it makes of the transfer cap when the
drive passes every size: nothing. A negotiation that a scratch began has the scratch in the range it must
cover, and no chunk that succeeds gets past it. **`scratch_keeps_cap`** is the result; that no call counts
a block it could not read is the same invariant.
-/

namespace Liblaser

open Bytes Loop

variable {W : Type}

/-! ## Runs of calls -/

/-- A call of `laser_read_blocks()` or `laser_read_cd_blocks()`, without its buffer. -/
inductive BlocksCall where
  | readBlocks (lba : UInt32) (numBlocks : Int)
  | readCdBlocks (lba : UInt32) (numBlocks : Int) (sectorType : Int)

namespace BlocksCall

def lba : BlocksCall → UInt32
  | .readBlocks lba _ => lba
  | .readCdBlocks lba _ _ => lba

def numBlocks : BlocksCall → Int
  | .readBlocks _ numBlocks => numBlocks
  | .readCdBlocks _ numBlocks _ => numBlocks

/-- What is read; `none` for a sector type there is not. -/
def kind : BlocksCall → Option ReadKind
  | .readBlocks _ _ => some .read10
  | .readCdBlocks _ _ sectorType => readCdKind sectorType

/-- Both are calls of the same function. -/
def SameHelper : BlocksCall → BlocksCall → Prop
  | .readBlocks _ _, .readBlocks _ _ => True
  | .readCdBlocks _ _ _, .readCdBlocks _ _ _ => True
  | _, _ => False

def run (port : ScsiPort W) (fuel : Nat) (memory : Nat → UInt8) (s : Sys W) :
    BlocksCall → Option (ReadResult W)
  | .readBlocks lba numBlocks => laserReadBlocks port fuel lba numBlocks memory s
  | .readCdBlocks lba numBlocks sectorType =>
    laserReadCdBlocks port fuel lba numBlocks sectorType memory s

end BlocksCall

/-- A call that was made: its buffer, the state it was made in, and what came of it. -/
structure Made (W : Type) where
  call : BlocksCall
  memory : Nat → UInt8
  sys : Sys W
  result : ReadResult W

/-- The call of `read_chunked()` that was made, if the arguments were good. -/
def Made.read (port : ScsiPort W) (m : Made W) : Option (ReadCall W) :=
  m.call.kind.map fun kind => ⟨port, kind, m.call.lba, m.call.numBlocks, m.memory, m.sys⟩

/-- Calls on one token, each made in the state the one before left. -/
inductive CallsRun (port : ScsiPort W) : Sys W → List (Made W) → Prop where
  | nil (s : Sys W) : CallsRun port s []
  | cons {m : Made W} {ms : List (Made W)} {fuel : Nat} :
      m.call.run port fuel m.memory m.sys = some m.result → CallsRun port m.result.sys ms →
      CallsRun port m.sys (m :: ms)

/-- Nobody but the negotiation touches the transfer cap. -/
structure ScsiPort.Quiet (port : ScsiPort W) : Prop where
  scsiCdb_cap : ∀ call s,
    (port.scsiCdb call s).2.entry.maxTransferBytes = s.entry.maxTransferBytes
  otherThreads_cap : ∀ s, (port.otherThreads s).entry.maxTransferBytes = s.entry.maxTransferBytes

/-- A command leaves the cap alone, so it takes other threads to move it. -/
theorem ScsiPort.Runs.quiet {port : ScsiPort W} {h : Host W} (hruns : port.Runs h)
    (hothers : ∀ s, (port.otherThreads s).entry.maxTransferBytes = s.entry.maxTransferBytes) :
    port.Quiet where
  scsiCdb_cap call s := (hruns call s).cap
  otherThreads_cap := hothers

variable {port : ScsiPort W} {d : Device} {m : Made W} {fuel : Nat}

/-- A call that returns ends in the turn that leaves; an empty request leaves in its first. -/
theorem ReadCall.Returns.run {c : ReadCall W} {r : ReadResult W} (hret : c.Returns r) :
    ∃ n t, Reaches c.turn c.start n t ∧ c.turn t = .done r := by
  obtain ⟨fuel, hret⟩ := hret
  unfold readChunked at hret
  by_cases hnone : c.numBlocks ≤ 0
  · rw [if_pos hnone] at hret
    injection hret with hret
    subst hret
    refine ⟨0, c.start, .start, if_neg ?_⟩
    show ¬ 0 < c.numBlocks.toNat
    omega
  · rw [if_neg hnone] at hret
    obtain ⟨n, t, -, hr, hd⟩ := iterate_eq_some_iff.mp hret
    exact ⟨n, t, hr, hd⟩

/-- A call either is refused and changes nothing, or is one of `read_chunked()`. -/
theorem Made.cases (hrun : m.call.run port fuel m.memory m.sys = some m.result) :
    (m.read port = none ∧ m.result = ⟨LaserStatus.errInvalid.code, m.memory, m.sys⟩)
      ∨ ∃ c, m.read port = some c ∧ c.Returns m.result := by
  obtain ⟨call, memory, s, result⟩ := m
  cases call with
  | readBlocks lba numBlocks => exact .inr ⟨_, rfl, fuel, hrun⟩
  | readCdBlocks lba numBlocks sectorType =>
      have hrun : laserReadCdBlocks port fuel lba numBlocks sectorType memory s = some result := hrun
      unfold laserReadCdBlocks at hrun
      show ((readCdKind sectorType).map _ = none ∧ _) ∨ ∃ c, (readCdKind sectorType).map _ = some c ∧ _
      cases hkind : readCdKind sectorType with
      | none =>
          rw [hkind] at hrun
          exact .inl ⟨rfl, (Option.some.inj hrun).symm⟩
      | some kind =>
          rw [hkind] at hrun
          exact .inr ⟨_, rfl, fuel, hrun⟩

/-- A call with good arguments returns. -/
theorem BlocksCall.run_toEnd {call : BlocksCall} {kind : ReadKind} (hkind : call.kind = some kind)
    (port : ScsiPort W) (memory : Nat → UInt8) (s : Sys W) :
    call.run port (readTurns kind call.numBlocks.toNat) memory s
      = some (readChunkedToEnd port kind call.lba call.numBlocks memory s) := by
  cases call with
  | readBlocks lba numBlocks =>
      cases hkind
      exact readChunkedToEnd_spec port .read10 lba numBlocks memory s
  | readCdBlocks lba numBlocks sectorType =>
      have hkind : readCdKind sectorType = some kind := hkind
      show laserReadCdBlocks port _ lba numBlocks sectorType memory s = _
      unfold laserReadCdBlocks
      rw [hkind]
      exact readChunkedToEnd_spec port kind lba numBlocks memory s

/-- What is known of the call of `read_chunked()` that was made. -/
theorem Made.read_spec {c : ReadCall W} (hread : m.read port = some c) :
    c.port = port ∧ m.call.kind = some c.kind ∧ c.lba = m.call.lba ∧ c.numBlocks = m.call.numBlocks
      ∧ c.memory = m.memory ∧ c.sys = m.sys := by
  unfold Made.read at hread
  obtain ⟨kind, hkind, rfl⟩ := Option.map_eq_some_iff.mp hread
  exact ⟨rfl, hkind, rfl, rfl, rfl, rfl⟩

/-! ## A drive without a limit -/

namespace ReadCall

variable {c : ReadCall W} {t : ReadState W}

/-- **The invariant of the loop** on a drive that passes every size. -/
structure Unscathed (c : ReadCall W) (d : Device) (t : ReadState W) : Prop where
  cap : t.sys.entry.maxTransferBytes = c.sys.entry.maxTransferBytes
  good : ∀ i < t.vars.blocksDone, d.bad (c.lba + UInt32.ofNat i) = false
  /-- The scratch that began the negotiation is still ahead. -/
  ahead : 0 < t.vars.trialCap →
    ∃ i, t.vars.blocksDone ≤ i ∧ i < t.vars.trialEnd ∧ d.bad (c.lba + UInt32.ofNat i) = true

/-- How a call ends on such a drive. -/
structure Spared (c : ReadCall W) (d : Device) (r : ReadResult W) : Prop where
  cap : r.sys.entry.maxTransferBytes = c.sys.entry.maxTransferBytes
  good : ∀ i : Nat, (i : Int) < r.ret → d.bad (c.lba + UInt32.ofNat i) = false

theorem reply_cap (hquiet : c.port.Quiet) (t : ReadState W) :
    (c.reply t).2.entry.maxTransferBytes = t.sys.entry.maxTransferBytes := by
  rw [← hquiet.otherThreads_cap t.sys]
  exact hquiet.scsiCdb_cap _ _

/-- Without a limit it is a scratch that fails a transfer. -/
theorem Fails.scratch (hlimit : d.limit = none) (hfails : c.Fails d t) :
    ∃ i, t.vars.blocksDone ≤ i ∧ i < t.vars.blocksDone + c.chunk t
      ∧ d.bad (c.lba + UInt32.ofNat i) = true := by
  rcases hfails.cases with ⟨limit, hmem, -⟩ | hbad
  · rw [hlimit] at hmem
    cases hmem
  · exact hbad

/-- The blocks read so far, and those of a chunk that passed. -/
theorem Unscathed.good_add (hI : c.Unscathed d t) (hpass : ¬ c.Fails d t) :
    ∀ i < t.vars.blocksDone + c.chunk t, d.bad (c.lba + UInt32.ofNat i) = false := by
  intro i hi
  by_cases hold : i < t.vars.blocksDone
  · exact hI.good i hold
  · exact not_bad_of_not_fails hpass (Nat.le_of_not_lt hold) hi

/-- A failure leaves its scratch ahead of the loop. -/
theorem Unscathed.retried (hquiet : c.port.Quiet) (hlimit : d.limit = none) (hI : c.Unscathed d t)
    (hfails : c.Fails d t) :
    c.Unscathed d ⟨t.vars.onTrial (c.chunk t) (c.bytes t), c.stored t, (c.reply t).2⟩ := by
  refine ⟨(reply_cap hquiet t).trans hI.cap, ?_, ?_⟩
  · simpa using hI.good
  · intro _
    simp only [ReadVars.onTrial_blocksDone]
    rcases Nat.eq_zero_or_pos t.vars.trialCap with hfirst | hon
    · rw [ReadVars.onTrial_trialEnd_first hfirst]
      exact hfails.scratch hlimit
    · rw [ReadVars.onTrial_trialEnd hon]
      exact hI.ahead hon

/-- **One turn**: on with the invariant, or out with every block of the count read. -/
theorem Unscathed.turn (hd : c.port.IsDevice d) (hquiet : c.port.Quiet) (hlimit : d.limit = none)
    (hcap : c.sys.entry.maxTransferBytes ≤ laserMaxBytesPerTransfer) (hI : c.Unscathed d t) :
    (c.turn t).All (c.Unscathed d) (c.Spared d) := by
  have hreply := (reply_cap hquiet t).trans hI.cap
  have hcase := turn_case hd (hI.cap ▸ hcap)
  generalize c.turn t = turn at hcase
  cases hcase with
  | finished _ =>
      refine ⟨hI.cap, ?_⟩
      intro i hi
      exact hI.good i (Int.ofNat_lt.mp hi)
  | retried _ hfails _ => exact hI.retried hquiet hlimit hfails
  | gaveUp _ _ _ =>
      refine ⟨hreply, ?_⟩
      intro i hi
      dsimp only at hi
      split at hi
      · exact hI.good i (Int.ofNat_lt.mp hi)
      · exact absurd hi (by show ¬ (i : Int) < -2; omega)
  | short k ret _ hpass _ hk hret =>
      refine ⟨hreply, ?_⟩
      intro i hi
      have hwhole : k / c.kind.blockSize ≤ c.chunk t :=
        Nat.div_le_of_le_mul (by rw [Nat.mul_comm]; exact Nat.le_of_lt hk)
      have hi : (i : Int) < ret := hi
      exact hI.good_add hpass i (by omega)
  | advanced _ hpass _ hopen =>
      refine ⟨hreply, hI.good_add hpass, ?_⟩
      intro hon
      obtain ⟨i, hfrom, hto, hbad⟩ := hI.ahead hon
      -- it is not among the blocks that were just read
      refine ⟨i, Nat.le_of_not_lt fun hin => ?_, hto, hbad⟩
      exact hpass (fails_of_bad hfrom hin hbad)
  | settled _ hpass _ hon hcovers =>
      obtain ⟨i, hfrom, hto, hbad⟩ := hI.ahead hon
      exact absurd (fails_of_bad hfrom (Nat.lt_of_lt_of_le hto hcovers) hbad) hpass

theorem unscathed_start (c : ReadCall W) (d : Device) : c.Unscathed d c.start :=
  ⟨rfl, fun _ hi => absurd hi (Nat.not_lt_zero _), fun hon => absurd hon (Nat.lt_irrefl 0)⟩

/-- A whole call on a drive without a limit. -/
theorem unscathed_of_reaches (hd : c.port.IsDevice d) (hquiet : c.port.Quiet) (hlimit : d.limit = none)
    (hcap : c.sys.entry.maxTransferBytes ≤ laserMaxBytesPerTransfer) {n : Nat}
    (hr : Reaches c.turn c.start n t) : c.Unscathed d t := by
  apply hr.invariant (I := c.Unscathed d)
  · intro t u hI hb
    have hturn := hI.turn hd hquiet hlimit hcap
    rwa [hb] at hturn
  · exact unscathed_start c d

theorem Returns.spared (hd : c.port.IsDevice d) (hquiet : c.port.Quiet) (hlimit : d.limit = none)
    (hcap : c.sys.entry.maxTransferBytes ≤ laserMaxBytesPerTransfer) {r : ReadResult W}
    (hret : c.Returns r) : c.Spared d r := by
  obtain ⟨n, t, hr, hdone⟩ := hret.run
  have hturn := (unscathed_of_reaches hd hquiet hlimit hcap hr).turn hd hquiet hlimit hcap
  rwa [hdone] at hturn

end ReadCall

/-- **A scratch alone never shrinks the transfer size.** On a drive without a limit, whatever blocks of
    the disc cannot be read, no block read changes the cap, in no turn of it; and none returns a count
    that has such a block in it. -/
theorem scratch_keeps_cap (port : ScsiPort W) (d : Device) (hd : port.IsDevice d) (hquiet : port.Quiet)
    (hlimit : d.limit = none) (s : Sys W) (hcap : s.entry.maxTransferBytes ≤ laserMaxBytesPerTransfer)
    (ms : List (Made W)) (hrun : CallsRun port s ms) :
    ∀ m ∈ ms,
      (∀ c n t, m.read port = some c → Reaches c.turn c.start n t →
        t.sys.entry.maxTransferBytes = s.entry.maxTransferBytes)
      ∧ m.result.sys.entry.maxTransferBytes = s.entry.maxTransferBytes
      ∧ ∀ i : Nat, (i : Int) < m.result.ret → d.bad (m.call.lba + UInt32.ofNat i) = false := by
  induction hrun with
  | nil s =>
      intro m hm
      cases hm
  | @cons m ms fuel hmade _ ih =>
      -- the first call leaves the cap, and the others begin with it
      have hfirst : (∀ c n t, m.read port = some c → Reaches c.turn c.start n t →
            t.sys.entry.maxTransferBytes = m.sys.entry.maxTransferBytes)
          ∧ m.result.sys.entry.maxTransferBytes = m.sys.entry.maxTransferBytes
          ∧ ∀ i : Nat, (i : Int) < m.result.ret → d.bad (m.call.lba + UInt32.ofNat i) = false := by
        rcases Made.cases hmade with ⟨hread, hresult⟩ | ⟨c, hread, hret⟩
        · rw [hread, hresult]
          refine ⟨fun c n t h => (by cases h), rfl, ?_⟩
          intro i hi
          exact absurd hi (by show ¬ (i : Int) < -8; omega)
        · obtain ⟨rfl, -, hlba, -, -, hsys⟩ := Made.read_spec hread
          have hcap' : c.sys.entry.maxTransferBytes ≤ laserMaxBytesPerTransfer := hsys ▸ hcap
          have hspared := hret.spared hd hquiet hlimit hcap'
          rw [← hsys, ← hlba]
          refine ⟨?_, hspared.cap, hspared.good⟩
          intro c' n t hread' hr
          obtain rfl : c = c' := Option.some.inj (hread.symm.trans hread')
          exact (ReadCall.unscathed_of_reaches hd hquiet hlimit hcap' hr).cap
      have hrest := ih (hfirst.2.1 ▸ hcap)
      intro x hx
      rcases List.mem_cons.mp hx with rfl | hx
      · exact hfirst
      · obtain ⟨hturns, hresult, hgood⟩ := hrest x hx
        rw [hfirst.2.1] at hturns hresult
        exact ⟨hturns, hresult, hgood⟩

theorem Device.port_quiet (d : Device) : d.port.Quiet where
  scsiCdb_cap call s := by rw [d.port_state]
  otherThreads_cap _ := rfl

/-- A disc with one scratch, in a drive that passes every size. -/
def scratchedDisc : Device := ⟨none, fun lba => lba == 30, fun _ _ _ => 0⟩

/-- A hundred raw blocks of it, read at the largest size. -/
def scratchedRead : Made Unit :=
  let s : Sys Unit := ⟨{ inUse := true, maxTransferBytes := laserMaxBytesPerTransfer }, (), []⟩
  ⟨.readCdBlocks 0 100 2, fun _ => 0, s,
    readChunkedToEnd scratchedDisc.port (.readCd 0x00 0xF8) 0 100 (fun _ => 0) s⟩

/-- The read leaves the cap as large as it was, and the scratch is not among the blocks it returns. -/
theorem scratchedRead_keeps_cap :
    scratchedRead.result.sys.entry.maxTransferBytes = laserMaxBytesPerTransfer
      ∧ ∀ i : Nat, (i : Int) < scratchedRead.result.ret →
          scratchedDisc.bad (scratchedRead.call.lba + UInt32.ofNat i) = false := by
  have hkind : scratchedRead.call.kind = some (.readCd 0x00 0xF8) := rfl
  have hmade := BlocksCall.run_toEnd hkind scratchedDisc.port scratchedRead.memory scratchedRead.sys
  have hrun : CallsRun scratchedDisc.port scratchedRead.sys [scratchedRead] := .cons hmade (.nil _)
  exact (scratch_keeps_cap _ _ scratchedDisc.port_isDevice scratchedDisc.port_quiet rfl _ (Nat.le_refl _)
    _ hrun scratchedRead List.mem_cons_self).2

end Liblaser
