import Liblaser.Blocks.Scratch

/-!
# `Blocks.WeakBridge` — the negotiation finds a size the bridge passes

A drive whose disc is sound and whose bridge fails every transfer above a limit of its own, no smaller
than `LASER_MIN_BYTES_PER_TRANSFER`. The first chunk of a trial is as large as the size on trial allows,
since the range that failed is larger; so when one succeeds, whole blocks of that size fit the limit
(`Fits`), and they still do once the size has become the cap.

**`negotiation_adapts`**: every read returns all it was asked for, and a helper that has met the limit
once does not meet it again.
-/

namespace Liblaser

open Bytes Loop

variable {W : Type}

/-- The most blocks a cap allows, which is at least one. -/
def maxBlocksPerChunk (blockSize cap : Nat) : Nat := if cap / blockSize < 1 then 1 else cap / blockSize

/-- A transfer as large as the cap allows keeps to the limit. -/
def Fits (blockSize limit cap : Nat) : Prop := maxBlocksPerChunk blockSize cap * blockSize ≤ limit

theorem nextChunk_eq (blockSize cap left : Nat) :
    nextChunk blockSize cap left
      = if maxBlocksPerChunk blockSize cap < left then maxBlocksPerChunk blockSize cap else left := rfl

theorem nextChunk_le_max (blockSize cap left : Nat) :
    nextChunk blockSize cap left ≤ maxBlocksPerChunk blockSize cap := by
  rw [nextChunk_eq]
  split <;> omega

/-- A cap is good as soon as a larger one is. -/
theorem Fits.mono {blockSize limit cap cap' : Nat} (hfits : Fits blockSize limit cap')
    (hle : cap ≤ cap') : Fits blockSize limit cap := by
  have hdiv : cap / blockSize ≤ cap' / blockSize := Nat.div_le_div_right hle
  have hblocks : maxBlocksPerChunk blockSize cap ≤ maxBlocksPerChunk blockSize cap' := by
    unfold maxBlocksPerChunk
    split <;> split <;> omega
  exact Nat.le_trans (Nat.mul_le_mul_right _ hblocks) hfits

/-- A cap below the blocks that are left is what sizes the chunk. -/
theorem nextChunk_of_lt {blockSize cap left : Nat} (hleft : 0 < left) (hcap : cap < left * blockSize) :
    nextChunk blockSize cap left = maxBlocksPerChunk blockSize cap := by
  have hdiv : cap / blockSize < left := Nat.div_lt_of_lt_mul (by rwa [Nat.mul_comm])
  have hmax : maxBlocksPerChunk blockSize cap ≤ left := by
    unfold maxBlocksPerChunk
    split <;> omega
  rw [nextChunk_eq]
  split <;> omega

/-- The disc is sound, and the bridge has a limit that leaves room for the smallest size. -/
structure Device.Weak (d : Device) (limit : Nat) : Prop where
  limit_eq : d.limit = some limit
  floor : laserMinBytesPerTransfer ≤ limit
  sound : ∀ lba, d.bad lba = false

/-- What the device reads, it reads in full. -/
def ScsiPort.ReadsInFull (port : ScsiPort W) (d : Device) : Prop :=
  ∀ (call : CdbCall) (s : Sys W) (kind : ReadKind) (lba : UInt32) (n : Nat),
    decodeRead call.cdb = some (kind, lba.toNat, n) → call.dataLen = (n * kind.blockSize : Nat) →
    ¬ d.Fails lba n (n * kind.blockSize) →
    (port.scsiCdb call s).1.actualLen = some (n * kind.blockSize)
      ∧ (port.scsiCdb call s).1.data = d.data kind lba n

/-- The token stays open while it is read from. -/
structure ScsiPort.StaysOpen (port : ScsiPort W) : Prop where
  scsiCdb : ∀ call s, (port.scsiCdb call s).2.entry.inUse = s.entry.inUse
  otherThreads : ∀ s, (port.otherThreads s).entry.inUse = s.entry.inUse

/-- The blocks of the disc by their addresses, which go round at the end. -/
def Device.medium (d : Device) : Drive where
  capacity := 2 ^ 32 - 1
  capacity_lt := by decide
  byte kind lba := d.byte kind (UInt32.ofNat lba)

namespace ReadCall

variable {c : ReadCall W} {d : Device} {limit : Nat} {t u : ReadState W} {ts : List (ReadState W)}

/-- Only the size fails a transfer. -/
theorem fails_iff (hweak : d.Weak limit) : c.Fails d t ↔ limit < c.bytes t := by
  constructor
  · intro hfails
    rcases hfails.cases with ⟨l, hl, hlarge⟩ | ⟨i, -, -, hbad⟩
    · rw [hweak.limit_eq] at hl
      cases hl
      exact hlarge
    · rw [hweak.sound] at hbad
      cases hbad
  · intro hlarge
    exact .inl ⟨limit, hweak.limit_eq, hlarge⟩

/-- The floor is no obstacle: a transfer that fails is of several blocks and above it. -/
theorem retries_of_fails (hweak : d.Weak limit) (hregistered : c.registered = true)
    (hleft : t.vars.blocksDone < c.numBlocks.toNat) (hfails : c.Fails d t) : c.Retries t := by
  have hlarge := (fails_iff hweak).mp hfails
  have hfloor := hweak.floor
  have hpos := (chunk_spec hleft).1
  have hbs := c.kind.blockSize_le
  refine ⟨Nat.lt_of_not_le fun hle => ?_, hregistered, by omega⟩
  have hone : c.chunk t = 1 := by omega
  unfold bytes at hlarge
  rw [hone] at hlarge
  unfold laserMinBytesPerTransfer at hfloor
  omega

/-- A turn under a cap that is good does not fail. -/
theorem not_fails_of_fits (hweak : d.Weak limit) (hfits : Fits c.kind.blockSize limit (c.cap t)) :
    ¬ c.Fails d t := by
  intro hfails
  have hlarge := (fails_iff hweak).mp hfails
  have hsmall : c.bytes t ≤ maxBlocksPerChunk c.kind.blockSize (c.cap t) * c.kind.blockSize :=
    Nat.mul_le_mul_right _ (nextChunk_le_max _ _ _)
  unfold Fits at hfits
  omega

/-- The cap of a turn is the entry's, and the trial's when there is one. -/
theorem cap_le_entry (hd : c.port.IsDevice d) (hregistered : c.registered = true) :
    c.cap t ≤ (c.port.otherThreads t.sys).entry.maxTransferBytes
      ∧ c.cap t ≤ t.sys.entry.maxTransferBytes ∧ (0 < t.vars.trialCap → c.cap t ≤ t.vars.trialCap) := by
  have hothers := hd.otherThreads_cap t.sys
  unfold cap currentCap
  rw [hregistered, if_pos rfl]
  dsimp only
  refine ⟨?_, ?_, fun hon => ?_⟩ <;> split <;> omega

theorem le_cap (hregistered : c.registered = true) {b : Nat} (htrial : b ≤ t.vars.trialCap)
    (hentry : b ≤ (c.port.otherThreads t.sys).entry.maxTransferBytes) : b ≤ c.cap t := by
  unfold cap currentCap
  rw [hregistered, if_pos rfl]
  dsimp only
  split <;> omega

/-! ## The invariant -/

/-- A negotiation: the first chunk of the range is sized by the trial, or the trial is good. -/
structure Trying (c : ReadCall W) (limit : Nat) (t : ReadState W) : Prop where
  inside : t.vars.blocksDone < t.vars.trialEnd
  asked : t.vars.trialEnd ≤ c.numBlocks.toNat
  sized : t.vars.trialCap < (t.vars.trialEnd - t.vars.blocksDone) * c.kind.blockSize
    ∨ Fits c.kind.blockSize limit (min t.vars.trialCap t.sys.entry.maxTransferBytes)

/-- **The invariant of the loop** on a weak bridge. -/
structure Adapting (c : ReadCall W) (d : Device) (limit : Nat) (ts : List (ReadState W))
    (t : ReadState W) : Prop where
  done_le : t.vars.blocksDone ≤ c.numBlocks.toNat
  cap_le : t.sys.entry.maxTransferBytes ≤ c.sys.entry.maxTransferBytes
  inUse : t.sys.entry.inUse = c.sys.entry.inUse
  holds : Holds d.medium c.kind c.lba t.memory t.vars.blocksDone
  trying : 0 < t.vars.trialCap → Trying c limit t
  /-- Once a transfer has failed, the cap is being found or has been. -/
  found : (∃ x ∈ ts, c.Fails d x) →
    0 < t.vars.trialCap ∨ Fits c.kind.blockSize limit t.sys.entry.maxTransferBytes

/-- How a call ends on a weak bridge: with all of it, and with a good cap if a transfer failed. -/
structure Adapted (c : ReadCall W) (d : Device) (limit : Nat) (ts : List (ReadState W))
    (r : ReadResult W) : Prop where
  ret : r.ret = c.numBlocks.toNat
  holds : Holds d.medium c.kind c.lba r.memory c.numBlocks.toNat
  cap_le : r.sys.entry.maxTransferBytes ≤ c.sys.entry.maxTransferBytes
  inUse : r.sys.entry.inUse = c.sys.entry.inUse
  found : (∃ x ∈ ts, c.Fails d x) → Fits c.kind.blockSize limit r.sys.entry.maxTransferBytes

/-- A chunk that was read is in memory. -/
theorem holds_stored (hd : c.port.IsDevice d) (hfull : c.port.ReadsInFull d)
    (hcap : t.sys.entry.maxTransferBytes ≤ laserMaxBytesPerTransfer)
    (hleft : t.vars.blocksDone < c.numBlocks.toNat) (hpass : ¬ c.Fails d t)
    (hholds : Holds d.medium c.kind c.lba t.memory t.vars.blocksDone) :
    Holds d.medium c.kind c.lba (c.stored t) (t.vars.blocksDone + c.chunk t) := by
  obtain ⟨hdecode, hlen⟩ := decode_turn (bytes_le hd hcap hleft)
  obtain ⟨-, hdata⟩ : _ ∧ (c.reply t).1.data = d.data c.kind (c.address t) (c.chunk t) :=
    hfull _ _ _ _ _ hdecode hlen hpass
  have hfront : Holds d.medium c.kind c.lba (c.stored t)
      (t.vars.blocksDone + c.bytes t / c.kind.blockSize) := by
    apply hholds.store_front
    intro i hi
    rw [hdata]
    unfold Device.data
    rw [List.getElem?_map, List.getElem?_range (show i < c.chunk t * c.kind.blockSize from hi), Option.map_some]
    -- the address of a block, as a number and as the 32 bits of it
    have haddress : c.address t + UInt32.ofNat (i / c.kind.blockSize)
        = UInt32.ofNat (c.lba.toNat + t.vars.blocksDone + i / c.kind.blockSize) := by
      rw [address_add, Nat.add_assoc, UInt32.ofNat_add c.lba.toNat, UInt32.ofNat_toNat]
    rw [haddress]
    rfl
  unfold bytes at hfront
  rwa [Nat.mul_div_cancel _ c.kind.blockSize_pos] at hfront

theorem lowerTransferCap_inUse (bytes : Nat) (s : Sys W) :
    (lowerTransferCap bytes s).entry.inUse = s.entry.inUse := by
  unfold lowerTransferCap
  split <;> rfl

theorem lowerTransferCap_le_bytes (bytes : Nat) (s : Sys W) :
    (lowerTransferCap bytes s).entry.maxTransferBytes ≤ bytes := by
  unfold lowerTransferCap
  split
  · exact Nat.le_refl _
  · omega

/-! ## One turn -/

/-- A chunk that succeeds on trial shows the cap of its turn to be good. -/
theorem Trying.fits_of_passed (hd : c.port.IsDevice d) (hregistered : c.registered = true)
    (hweak : d.Weak limit) (htrying : Trying c limit t) (hon : 0 < t.vars.trialCap)
    (hpass : ¬ c.Fails d t) : Fits c.kind.blockSize limit (c.cap t) := by
  obtain ⟨-, hentry, htrial⟩ := cap_le_entry (t := t) hd hregistered
  have htrial := htrial hon
  rcases htrying.sized with hsized | hfits
  · -- what is left of the request is no shorter than the range, so the cap sized the chunk
    have hinside := htrying.inside
    have hasked := htrying.asked
    have hleft : (t.vars.trialEnd - t.vars.blocksDone) * c.kind.blockSize
        ≤ (c.numBlocks.toNat - t.vars.blocksDone) * c.kind.blockSize :=
      Nat.mul_le_mul_right _ (by omega)
    have hchunk : c.chunk t = maxBlocksPerChunk c.kind.blockSize (c.cap t) :=
      nextChunk_of_lt (by omega) (by omega)
    have hsmall : c.bytes t ≤ limit := Nat.le_of_not_lt fun hlarge => hpass ((fails_iff hweak).mpr hlarge)
    unfold bytes at hsmall
    rwa [hchunk] at hsmall
  · exact hfits.mono (Nat.le_min.mpr ⟨htrial, hentry⟩)

/-- A failure, the first of a negotiation or a further one. -/
theorem Adapting.retried (hd : c.port.IsDevice d) (hopen : c.port.StaysOpen)
    (hregistered : c.registered = true) (hweak : d.Weak limit) (hI : Adapting c d limit ts t)
    (hleft : t.vars.blocksDone < c.numBlocks.toNat) (hfails : c.Fails d t) (hretry : c.Retries t) :
    Adapting c d limit (t :: ts)
      ⟨t.vars.onTrial (c.chunk t) (c.bytes t), c.stored t, (c.reply t).2⟩ := by
  obtain ⟨hentry, -, htrial⟩ := cap_le_entry (t := t) hd hregistered
  obtain ⟨hpos, hasked, hfit⟩ := chunk_spec hleft
  obtain ⟨hnext, hless⟩ := nextTrial_lt hretry.2.2
  refine ⟨?_, ?_, ?_, ?_, fun _ => ?_, fun _ => .inl hnext⟩
  · simpa using hI.done_le
  · exact Nat.le_trans (hd.scsiCdb_cap _ _) (Nat.le_trans (hd.otherThreads_cap _) hI.cap_le)
  · exact (hopen.scsiCdb _ _).trans ((hopen.otherThreads _).trans hI.inUse)
  · rw [ReadVars.onTrial_blocksDone]
    exact hI.holds.store
  · rcases Nat.eq_zero_or_pos t.vars.trialCap with hfirst | hon
    · have hend := @ReadVars.onTrial_trialEnd_first t.vars hfirst (c.chunk t) (c.bytes t)
      refine ⟨?_, ?_, .inl ?_⟩
      · show (t.vars.onTrial _ _).blocksDone < (t.vars.onTrial _ _).trialEnd
        rw [ReadVars.onTrial_blocksDone, hend]
        omega
      · show (t.vars.onTrial _ _).trialEnd ≤ _
        omega
      · show nextTrial _ < ((t.vars.onTrial _ _).trialEnd - (t.vars.onTrial _ _).blocksDone) * _
        rw [ReadVars.onTrial_blocksDone, hend, Nat.add_sub_cancel_left]
        exact hless
    · have htrying := hI.trying hon
      have hend := @ReadVars.onTrial_trialEnd t.vars hon (c.chunk t) (c.bytes t)
      have hwithin : c.bytes t ≤ t.vars.trialCap := Nat.le_trans (hfit hretry.1) (htrial hon)
      refine ⟨?_, ?_, .inl ?_⟩
      · show (t.vars.onTrial _ _).blocksDone < (t.vars.onTrial _ _).trialEnd
        rw [ReadVars.onTrial_blocksDone, hend]
        exact htrying.inside
      · show (t.vars.onTrial _ _).trialEnd ≤ _
        rw [hend]
        exact htrying.asked
      · show nextTrial _ < ((t.vars.onTrial _ _).trialEnd - (t.vars.onTrial _ _).blocksDone) * _
        rw [ReadVars.onTrial_blocksDone, hend]
        rcases htrying.sized with hsized | hfits
        · omega
        · have hmin := Nat.le_min.mpr ⟨htrial hon, (cap_le_entry (t := t) hd hregistered).2.1⟩
          exact absurd hfails (not_fails_of_fits hweak (hfits.mono hmin))

/-- A chunk that was read, in a negotiation or not. -/
theorem Adapting.read (hd : c.port.IsDevice d) (hfull : c.port.ReadsInFull d)
    (hopen : c.port.StaysOpen) (hcap : c.sys.entry.maxTransferBytes ≤ laserMaxBytesPerTransfer)
    (hI : Adapting c d limit ts t) (hleft : t.vars.blocksDone < c.numBlocks.toNat)
    (hpass : ¬ c.Fails d t) {v : ReadVars} {s : Sys W}
    (hdone : v.blocksDone = t.vars.blocksDone + c.chunk t)
    (hle : s.entry.maxTransferBytes ≤ (c.reply t).2.entry.maxTransferBytes)
    (hinUse : s.entry.inUse = (c.reply t).2.entry.inUse)
    (htrying : 0 < v.trialCap → Trying c limit ⟨v, c.stored t, s⟩)
    (hfound : 0 < t.vars.trialCap →
      0 < v.trialCap ∨ Fits c.kind.blockSize limit s.entry.maxTransferBytes) :
    Adapting c d limit (t :: ts) ⟨v, c.stored t, s⟩ := by
  have hreply : (c.reply t).2.entry.maxTransferBytes ≤ t.sys.entry.maxTransferBytes :=
    Nat.le_trans (hd.scsiCdb_cap _ _) (hd.otherThreads_cap _)
  refine ⟨?_, ?_, ?_, ?_, htrying, ?_⟩
  · show v.blocksDone ≤ _
    have hchunk := (chunk_spec hleft).2.1
    omega
  · exact Nat.le_trans hle (Nat.le_trans hreply hI.cap_le)
  · exact hinUse.trans ((hopen.scsiCdb _ _).trans ((hopen.otherThreads _).trans hI.inUse))
  · show Holds _ _ _ _ v.blocksDone
    rw [hdone]
    exact holds_stored hd hfull (Nat.le_trans hI.cap_le hcap) hleft hpass hI.holds
  · rintro ⟨x, hx, hfails⟩
    rcases List.mem_cons.mp hx with rfl | hold
    · exact absurd hfails hpass
    · rcases hI.found ⟨x, hold, hfails⟩ with hon | hfits
      · exact hfound hon
      · exact .inr (hfits.mono (Nat.le_trans hle hreply))

/-- **One turn** on a weak bridge: on with the invariant, or out with all that was asked for. -/
theorem Adapting.turn (hd : c.port.IsDevice d) (hfull : c.port.ReadsInFull d)
    (hopen : c.port.StaysOpen) (hregistered : c.registered = true) (hweak : d.Weak limit)
    (hcap : c.sys.entry.maxTransferBytes ≤ laserMaxBytesPerTransfer) (hI : Adapting c d limit ts t) :
    (c.turn t).All (Adapting c d limit (t :: ts)) (Adapted c d limit ts) := by
  have hcase := turn_case hd (Nat.le_trans hI.cap_le hcap)
  generalize c.turn t = turn at hcase
  cases hcase with
  | finished hall =>
      have hdone : t.vars.blocksDone = c.numBlocks.toNat := Nat.le_antisymm hI.done_le hall
      refine ⟨congrArg Nat.cast hdone, hdone ▸ hI.holds, hI.cap_le, hI.inUse, fun hfailed => ?_⟩
      rcases hI.found hfailed with hon | hfits
      · -- the range of a negotiation is not covered, so there are blocks left
        have hinside := (hI.trying hon).inside
        have hasked := (hI.trying hon).asked
        omega
      · exact hfits
  | retried hleft hfails hretry => exact hI.retried hd hopen hregistered hweak hleft hfails hretry
  | gaveUp hleft hfails hgive =>
      exact absurd (retries_of_fails hweak hregistered hleft hfails) hgive
  | short k ret hleft hpass hactual hk _ =>
      obtain ⟨hdecode, hlen⟩ := decode_turn (bytes_le hd (Nat.le_trans hI.cap_le hcap) hleft)
      obtain ⟨hwhole, -⟩ : (c.reply t).1.actualLen = some (c.bytes t) ∧ _ :=
        hfull _ _ _ _ _ hdecode hlen hpass
      rw [hwhole] at hactual
      cases hactual
      exact absurd hk (Nat.lt_irrefl _)
  | advanced hleft hpass _ hbefore =>
      refine hI.read hd hfull hopen hcap hleft hpass rfl (Nat.le_refl _) rfl ?_ .inl
      intro hon
      have hon : 0 < t.vars.trialCap := hon
      have htrying := hI.trying hon
      obtain ⟨hentry, -, htrial⟩ := cap_le_entry (t := t) hd hregistered
      refine ⟨hbefore hon, htrying.asked, .inr ?_⟩
      have hfits := htrying.fits_of_passed hd hregistered hweak hon hpass
      refine hfits.mono (le_cap hregistered (Nat.min_le_left _ _) ?_)
      exact Nat.le_trans (Nat.min_le_right _ _) (hd.scsiCdb_cap _ _)
  | settled hleft hpass _ hon hcovers =>
      have htrying := hI.trying hon
      have hothers := hd.otherThreads_cap (c.reply t).2
      have hfits := htrying.fits_of_passed hd hregistered hweak hon hpass
      have hlowered := lowerTransferCap_le t.vars.trialCap (c.port.otherThreads (c.reply t).2)
      refine hI.read hd hfull hopen hcap hleft hpass rfl (Nat.le_trans hlowered hothers) ?_ ?_ ?_
      · exact (lowerTransferCap_inUse _ _).trans (hopen.otherThreads _)
      · exact fun hon => absurd hon (Nat.lt_irrefl 0)
      · intro _
        refine .inr (hfits.mono (le_cap hregistered (lowerTransferCap_le_bytes _ _) ?_))
        exact Nat.le_trans hlowered (Nat.le_trans hothers (hd.scsiCdb_cap _ _))

/-! ## One call -/

variable (c) in
/-- A turn makes a transfer, and it fails. -/
def TransferFails (t : ReadState W) : Prop :=
  t.vars.blocksDone < c.numBlocks.toNat ∧ ¬ c.Succeeds t

theorem adapting_of_visits (hd : c.port.IsDevice d) (hfull : c.port.ReadsInFull d)
    (hopen : c.port.StaysOpen) (hregistered : c.registered = true) (hweak : d.Weak limit)
    (hcap : c.sys.entry.maxTransferBytes ≤ laserMaxBytesPerTransfer)
    (hv : Visits c.turn c.start ts t) : Adapting c d limit ts t := by
  apply hv.invariant (I := fun ts t => Adapting c d limit ts t)
  · intro ts t u _ hI hb
    have hturn := hI.turn hd hfull hopen hregistered hweak hcap
    rwa [hb] at hturn
  · refine ⟨Nat.zero_le _, Nat.le_refl _, rfl, ?_, fun hon => absurd hon (Nat.lt_irrefl 0), ?_⟩
    · intro i hi
      exact absurd hi (Nat.not_lt_zero i)
    · rintro ⟨x, hx, -⟩
      cases hx

/-- A whole call on a weak bridge. -/
theorem Returns.adapted (hd : c.port.IsDevice d) (hfull : c.port.ReadsInFull d)
    (hopen : c.port.StaysOpen) (hregistered : c.registered = true) (hweak : d.Weak limit)
    (hcap : c.sys.entry.maxTransferBytes ≤ laserMaxBytesPerTransfer) {r : ReadResult W}
    (hret : c.Returns r) :
    ∃ ts, Adapted c d limit ts r
      ∧ ∀ n x, Reaches c.turn c.start n x → c.TransferFails x → x ∈ ts ∧ c.Fails d x := by
  obtain ⟨n, t, hr, hdone⟩ := hret.run
  obtain ⟨ts, hv⟩ := hr.visits
  have hI := adapting_of_visits hd hfull hopen hregistered hweak hcap hv
  have hturn := hI.turn hd hfull hopen hregistered hweak hcap
  rw [hdone] at hturn
  refine ⟨ts, hturn, ?_⟩
  intro m x hx hfailed
  -- the turn that leaves has no blocks left, so the one that failed came before it
  obtain ⟨hleft, hlost⟩ := hfailed
  obtain ⟨xs, hxs⟩ := hx.visits
  have hIx := adapting_of_visits hd hfull hopen hregistered hweak hcap hxs
  have hcapx := Nat.le_trans hIx.cap_le hcap
  have hfails : c.Fails d x := Decidable.byContradiction fun hpass =>
    hlost ((succeeds_iff hd hcapx hleft).mpr hpass)
  have hle := hv.reaches.le_of_done hdone hx
  rcases List.mem_cons.mp (hv.mem_of_reaches hx hle) with rfl | hold
  · have hcase := turn_case hd hcapx
    rw [hdone] at hcase
    cases hcase with
    | finished hall => omega
    | gaveUp _ _ hgive =>
        exact absurd (retries_of_fails hweak hregistered hleft hfails) hgive
    | short _ _ _ hpass _ _ _ => exact absurd hfails hpass
  · exact ⟨hold, hfails⟩

/-- A call that begins with a good cap meets no failure. -/
theorem succeeds_of_fits (hd : c.port.IsDevice d) (hfull : c.port.ReadsInFull d)
    (hopen : c.port.StaysOpen) (hregistered : c.registered = true) (hweak : d.Weak limit)
    (hcap : c.sys.entry.maxTransferBytes ≤ laserMaxBytesPerTransfer)
    (hfits : Fits c.kind.blockSize limit c.sys.entry.maxTransferBytes) {n : Nat}
    (hr : Reaches c.turn c.start n t) : ¬ c.TransferFails t := by
  rintro ⟨hleft, hlost⟩
  obtain ⟨ts, hv⟩ := hr.visits
  have hI := adapting_of_visits hd hfull hopen hregistered hweak hcap hv
  obtain ⟨-, hentry, -⟩ := cap_le_entry (t := t) hd hregistered
  have hgood := hfits.mono (Nat.le_trans hentry hI.cap_le)
  exact hlost ((succeeds_iff hd (Nat.le_trans hI.cap_le hcap) hleft).mpr
    (not_fails_of_fits hweak hgood))

end ReadCall

/-! ## Runs of calls -/

/-- A transfer of the call failed. -/
def Made.Failed (port : ScsiPort W) (m : Made W) : Prop :=
  ∃ c n t, m.read port = some c ∧ Reaches c.turn c.start n t ∧ c.TransferFails t

/-- What a token needs to be read from: it is open, and its cap is in range. -/
structure Readable (s : Sys W) : Prop where
  inUse : s.entry.inUse = true
  cap : s.entry.maxTransferBytes ≤ laserMaxBytesPerTransfer

/-- The two helpers each have one block size. -/
theorem BlocksCall.SameHelper.blockSize_eq {a b : BlocksCall} {ka kb : ReadKind}
    (hsame : a.SameHelper b) (ha : a.kind = some ka) (hb : b.kind = some kb) :
    ka.blockSize = kb.blockSize := by
  have hcd : ∀ {sectorType k}, readCdKind sectorType = some k → k.blockSize = 2352 := by
    intro sectorType k hk
    unfold readCdKind at hk
    split at hk
    · cases hk
      rfl
    split at hk
    · cases hk
      rfl
    split at hk
    · cases hk
      rfl
    · cases hk
  cases a with
  | readBlocks _ _ =>
      cases b with
      | readBlocks _ _ =>
          cases ha
          cases hb
          rfl
      | readCdBlocks _ _ _ => exact hsame.elim
  | readCdBlocks _ _ _ =>
      cases b with
      | readBlocks _ _ => exact hsame.elim
      | readCdBlocks _ _ _ => rw [hcd ha, hcd hb]

section Runs

variable {port : ScsiPort W} {d : Device} {limit : Nat} {s : Sys W} {m : Made W} {ms : List (Made W)}
  {fuel : Nat}

theorem Made.registered {c : ReadCall W} (hread : m.read port = some c) (hready : Readable m.sys) :
    c.registered = true := by
  obtain ⟨-, -, -, -, -, hsys⟩ := Made.read_spec hread
  unfold ReadCall.registered
  rw [hsys]
  exact hready.inUse

/-- What one call of a run leaves. -/
theorem Made.step (hd : port.IsDevice d) (hfull : port.ReadsInFull d) (hopen : port.StaysOpen)
    (hweak : d.Weak limit) (hready : Readable m.sys)
    (hrun : m.call.run port fuel m.memory m.sys = some m.result) :
    Readable m.result.sys ∧ m.result.sys.entry.maxTransferBytes ≤ m.sys.entry.maxTransferBytes
      ∧ (∀ kind, m.call.kind = some kind → 1 ≤ m.call.numBlocks →
          m.result.ret = m.call.numBlocks
            ∧ Holds d.medium kind m.call.lba m.result.memory m.call.numBlocks.toNat)
      ∧ ∀ kind, m.call.kind = some kind → m.Failed port →
          Fits kind.blockSize limit m.result.sys.entry.maxTransferBytes := by
  rcases Made.cases hrun with ⟨hnone, hresult⟩ | ⟨c, hread, hret⟩
  · have hkind : m.call.kind = none := Option.map_eq_none_iff.mp hnone
    rw [hresult, hkind]
    refine ⟨hready, Nat.le_refl _, fun kind h => (by cases h), fun kind h => (by cases h)⟩
  · obtain ⟨rfl, hkind, hlba, hnum, -, hsys⟩ := Made.read_spec hread
    have hregistered := Made.registered hread hready
    have hcap : c.sys.entry.maxTransferBytes ≤ laserMaxBytesPerTransfer := hsys ▸ hready.cap
    obtain ⟨ts, hadapted, hfailed⟩ := hret.adapted hd hfull hopen hregistered hweak hcap
    have hle := hadapted.cap_le
    rw [← hsys, ← hnum, ← hlba]
    refine ⟨⟨hadapted.inUse.trans hregistered, Nat.le_trans hle hcap⟩, hle, ?_, ?_⟩
    · intro kind hk hone
      obtain rfl : c.kind = kind := Option.some.inj (hkind.symm.trans hk)
      refine ⟨?_, hadapted.holds⟩
      have hret := hadapted.ret
      omega
    · rintro kind hk ⟨c', n, t, hread', hr, hfails⟩
      obtain rfl : c.kind = kind := Option.some.inj (hkind.symm.trans hk)
      obtain rfl : c = c' := Option.some.inj (hread.symm.trans hread')
      obtain ⟨hmem, hf⟩ := hfailed n t hr hfails
      exact hadapted.found ⟨t, hmem, hf⟩

/-- Every call of a run is made on a token that can be read from, and with a cap that has not been
    raised. -/
theorem CallsRun.ready (hd : port.IsDevice d) (hfull : port.ReadsInFull d) (hopen : port.StaysOpen)
    (hweak : d.Weak limit) (hrun : CallsRun port s ms) (hready : Readable s) :
    ∀ m ∈ ms, Readable m.sys ∧ m.sys.entry.maxTransferBytes ≤ s.entry.maxTransferBytes
      ∧ ∃ fuel, m.call.run port fuel m.memory m.sys = some m.result := by
  induction hrun with
  | nil s =>
      intro m hm
      cases hm
  | @cons m ms fuel hmade _ ih =>
      obtain ⟨hnext, hle, -, -⟩ := Made.step hd hfull hopen hweak hready hmade
      intro x hx
      rcases List.mem_cons.mp hx with rfl | hx
      · exact ⟨hready, Nat.le_refl _, fuel, hmade⟩
      · obtain ⟨hreadyx, hlex, hmadex⟩ := ih hnext x hx
        exact ⟨hreadyx, Nat.le_trans hlex hle, hmadex⟩

/-- A call on a token whose cap is good for its helper meets no failure. -/
theorem Made.not_failed (hd : port.IsDevice d) (hfull : port.ReadsInFull d) (hopen : port.StaysOpen)
    (hweak : d.Weak limit) (hready : Readable m.sys)
    (hfits : ∀ kind, m.call.kind = some kind →
      Fits kind.blockSize limit m.sys.entry.maxTransferBytes) : ¬ m.Failed port := by
  rintro ⟨c, n, t, hread, hr, hfails⟩
  obtain ⟨rfl, hkind, -, -, -, hsys⟩ := Made.read_spec hread
  have hregistered := Made.registered hread hready
  exact ReadCall.succeeds_of_fits hd hfull hopen hregistered hweak (hsys ▸ hready.cap)
    (hsys ▸ hfits _ hkind) hr hfails

/-- **The negotiation adapts to a weak bridge.** Every read returns, with all the blocks it was asked
    for; and over any run of reads, after a call in which a transfer failed no later call of the same
    helper has one that fails. -/
theorem negotiation_adapts (port : ScsiPort W) (d : Device) (limit : Nat) (hd : port.IsDevice d)
    (hfull : port.ReadsInFull d) (hopen : port.StaysOpen) (hweak : d.Weak limit) (s : Sys W)
    (hready : Readable s) :
    (∀ (call : BlocksCall) (kind : ReadKind) (memory : Nat → UInt8), call.kind = some kind →
        1 ≤ call.numBlocks →
        ∃ fuel r, call.run port fuel memory s = some r ∧ r.ret = call.numBlocks
          ∧ Holds d.medium kind call.lba r.memory call.numBlocks.toNat)
      ∧ ∀ ms, CallsRun port s ms →
          (∀ m ∈ ms, ∀ kind, m.call.kind = some kind → 1 ≤ m.call.numBlocks →
            m.result.ret = m.call.numBlocks
              ∧ Holds d.medium kind m.call.lba m.result.memory m.call.numBlocks.toNat)
          ∧ ms.Pairwise fun a b => a.call.SameHelper b.call → a.Failed port → ¬ b.Failed port := by
  constructor
  · intro call kind memory hkind hone
    have hrun := BlocksCall.run_toEnd hkind port memory s
    have hstep := Made.step (m := ⟨call, memory, s, _⟩) hd hfull hopen hweak hready hrun
    exact ⟨_, _, hrun, hstep.2.2.1 kind hkind hone⟩
  intro ms hrun
  constructor
  · intro m hm
    obtain ⟨hreadym, -, fuel, hmade⟩ := hrun.ready hd hfull hopen hweak hready m hm
    exact (Made.step hd hfull hopen hweak hreadym hmade).2.2.1
  · induction hrun with
    | nil s => exact .nil
    | @cons m ms fuel hmade hrest ih =>
        obtain ⟨hnext, -, -, hfound⟩ := Made.step hd hfull hopen hweak hready hmade
        refine .cons ?_ (ih hnext)
        intro x hx hsame hfailed
        obtain ⟨hreadyx, hle, -⟩ := hrest.ready hd hfull hopen hweak hnext x hx
        apply Made.not_failed hd hfull hopen hweak hreadyx
        intro kind hkind
        have hread := hfailed
        obtain ⟨c, _, _, hread, _⟩ := hread
        have hkindm := (Made.read_spec hread).2.1
        have hfits := (hfound c.kind hkindm hfailed).mono hle
        rwa [hsame.blockSize_eq hkindm hkind] at hfits

end Runs

theorem Device.port_readsInFull (d : Device) : d.port.ReadsInFull d := by
  intro call s kind lba n hdecode _ hpass
  rw [d.port_scsiCdb hdecode, if_neg hpass]
  exact ⟨rfl, rfl⟩

theorem Device.port_staysOpen (d : Device) : d.port.StaysOpen where
  scsiCdb call s := by rw [d.port_state]
  otherThreads _ := rfl

/-- A sound disc behind a bridge that passes 40000 bytes. -/
def weakBridge : Device := ⟨some 40000, fun _ => false, fun _ _ i => UInt8.ofNat i⟩

/-- A hundred raw blocks through it, from a cap that is too large. -/
theorem weakBridge_reads_hundred :
    ∃ fuel r, (BlocksCall.readCdBlocks 0 100 2).run weakBridge.port fuel (fun _ => 0)
          ⟨{ inUse := true, maxTransferBytes := laserMaxBytesPerTransfer }, (), []⟩ = some r
        ∧ r.ret = 100 ∧ Holds weakBridge.medium (.readCd 0x00 0xF8) 0 r.memory 100 := by
  have hweak : weakBridge.Weak 40000 := ⟨rfl, by decide, fun _ => rfl⟩
  exact (negotiation_adapts _ _ _ weakBridge.port_isDevice weakBridge.port_readsInFull
    weakBridge.port_staysOpen hweak _ ⟨rfl, Nat.le_refl _⟩).1 (.readCdBlocks 0 100 2) _ _ rfl (by decide)

end Liblaser
