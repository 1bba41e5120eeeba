import Liblaser.Blocks.Device

/-!
# `Blocks.Evidence` — the transfer cap and the reads that passed

A negotiation that ends lowers the cap of the whole drive, so it must not settle on a size that a larger
read of the same negotiation has shown to be needless. On a device that fails by size and by block it
settles so in one case: a chunk on trial is sized by what is left of the request and not by the range
that failed, so it can run past the end of that range, fail there on a scratch, and halve the size again.

**`keepsEvidence_iff`** is the law with this condition, `RunsPast`; **`scratch_lowers_cap`** is the
smallest run that breaks it.
-/

namespace Liblaser

open Bytes Loop

variable {W : Type}

/-- The turns made on trial, newest first: those since the failure that began the negotiation. -/
def negotiation (ts : List (ReadState W)) : List (ReadState W) :=
  ts.takeWhile fun t => 0 < t.vars.trialCap

theorem negotiation_cons {t : ReadState W} {ts : List (ReadState W)} (h : 0 < t.vars.trialCap) :
    negotiation (t :: ts) = t :: negotiation ts :=
  List.takeWhile_cons_of_pos (decide_eq_true h)

theorem negotiation_first {t : ReadState W} {ts : List (ReadState W)} (h : t.vars.trialCap = 0) :
    negotiation (t :: ts) = [] :=
  List.takeWhile_cons_of_neg (by simp [h])

theorem nextChunk_mono {blockSize cap cap' left left' : Nat} (hcap : cap ≤ cap') (hleft : left ≤ left') :
    nextChunk blockSize cap left ≤ nextChunk blockSize cap' left' := by
  have hdiv : cap / blockSize ≤ cap' / blockSize := Nat.div_le_div_right hcap
  unfold nextChunk
  dsimp only
  split <;> split <;> split <;> split <;> omega

namespace ReadCall

variable {c : ReadCall W} {d : Device} {t u : ReadState W} {ts : List (ReadState W)}

variable (c) in
/-- The transfer of the turn succeeds. -/
def Succeeds (t : ReadState W) : Prop := (c.reply t).1.status = .ok

variable (c) in
/-- The turn lowers `max_transfer_bytes` to `b`, from what the other threads have left of it. -/
def LowersTo (t : ReadState W) (b : Nat) : Prop :=
  ∃ u, c.turn t = .again u ∧ u.sys.entry.maxTransferBytes = b
    ∧ b < (c.port.otherThreads (c.reply t).2).entry.maxTransferBytes

instance (t : ReadState W) (b : Nat) : Decidable (c.LowersTo t b) :=
  match hb : c.turn t with
  | .again u =>
    decidable_of_iff (u.sys.entry.maxTransferBytes = b
        ∧ b < (c.port.otherThreads (c.reply t).2).entry.maxTransferBytes)
      ⟨fun h => ⟨u, hb, h⟩, fun ⟨_, hb', h⟩ => Turn.again.inj (hb.symm.trans hb') ▸ h⟩
  | .done _ => .isFalse fun ⟨_, hb', _⟩ => by cases hb.symm.trans hb'

instance (t : ReadState W) : Decidable (c.Succeeds t) := inferInstanceAs (Decidable (_ = _))

variable (c) in
/-- **The law.** Whenever the call lowers the cap to `b`, no transfer of more than `b` bytes has
    succeeded since the first failure of the negotiation. -/
def KeepsEvidence : Prop :=
  ∀ ts t b, Visits c.turn c.start ts t → c.LowersTo t b →
    ∀ x ∈ negotiation (t :: ts), c.Succeeds x → c.bytes x ≤ b

variable (c) in
/-- The transfer of the turn runs past the end of the range that failed, and meets a block there that
    cannot be read. -/
def RunsPast (d : Device) (t : ReadState W) : Prop :=
  ∃ i, t.vars.trialEnd ≤ i ∧ i < t.vars.blocksDone + c.chunk t
    ∧ d.bad (c.lba + UInt32.ofNat i) = true

variable (c) in
/-- No negotiation that lowers the cap has met a scratch behind the range it was to cover. -/
def StaysInRange (d : Device) : Prop :=
  ∀ ts t b, Visits c.turn c.start ts t → c.LowersTo t b → ∀ x ∈ negotiation (t :: ts), ¬ c.RunsPast d x

/-! ## One transfer -/

theorem succeeds_iff (hd : c.port.IsDevice d)
    (hcap : t.sys.entry.maxTransferBytes ≤ laserMaxBytesPerTransfer)
    (hleft : t.vars.blocksDone < c.numBlocks.toNat) : c.Succeeds t ↔ ¬ c.Fails d t := by
  obtain ⟨hdecode, hlen⟩ := decode_turn (bytes_le hd hcap hleft)
  constructor
  · intro hok hfails
    have hst : (c.reply t).1.status = .errIo := hd.fails _ _ _ _ _ hdecode hlen hfails
    have hok : (c.reply t).1.status = .ok := hok
    rw [hst] at hok
    cases hok
  · intro hpass
    exact (hd.passes _ _ _ _ _ hdecode hlen hpass).1

/-- A block of the transfer, counted from the first of the call, that cannot be read fails it. -/
theorem fails_of_bad {i : Nat} (hfrom : t.vars.blocksDone ≤ i) (hto : i < t.vars.blocksDone + c.chunk t)
    (hbad : d.bad (c.lba + UInt32.ofNat i) = true) : c.Fails d t := by
  obtain ⟨k, rfl⟩ := Nat.exists_eq_add_of_le hfrom
  exact .inr ⟨k, by omega, (address_add t k).symm ▸ hbad⟩

/-- The blocks of a transfer that passed can be read. -/
theorem not_bad_of_not_fails (hpass : ¬ c.Fails d t) {i : Nat} (hfrom : t.vars.blocksDone ≤ i)
    (hto : i < t.vars.blocksDone + c.chunk t) : d.bad (c.lba + UInt32.ofNat i) = false :=
  Bool.eq_false_iff.mpr fun hbad => hpass (fails_of_bad hfrom hto hbad)

/-- A transfer that fails is over the limit, or has a block that cannot be read. -/
theorem Fails.cases (hfails : c.Fails d t) :
    (∃ limit ∈ d.limit, limit < c.bytes t)
      ∨ ∃ i, t.vars.blocksDone ≤ i ∧ i < t.vars.blocksDone + c.chunk t
          ∧ d.bad (c.lba + UInt32.ofNat i) = true := by
  rcases hfails with hlarge | ⟨k, hk, hbad⟩
  · exact .inl hlarge
  · right
    rw [address_add] at hbad
    exact ⟨_, by omega, by omega, hbad⟩

/-! ## The cap from turn to turn -/

theorem cap_mono (hd : c.port.IsDevice d) (htrial : u.vars.trialCap = t.vars.trialCap)
    (hsys : u.sys = (c.reply t).2) : c.cap u ≤ c.cap t := by
  have hothers := hd.otherThreads_cap u.sys
  have hcommand : u.sys.entry.maxTransferBytes
      ≤ (c.port.otherThreads t.sys).entry.maxTransferBytes := hsys ▸ hd.scsiCdb_cap _ _
  have hentry : (if c.registered then (c.port.otherThreads u.sys).entry.maxTransferBytes
      else laserMaxBytesPerTransfer)
      ≤ if c.registered then (c.port.otherThreads t.sys).entry.maxTransferBytes
        else laserMaxBytesPerTransfer := by
    split <;> omega
  unfold cap currentCap
  rw [htrial]
  generalize (if c.registered then (c.port.otherThreads u.sys).entry.maxTransferBytes else _) = a
    at hentry ⊢
  generalize (if c.registered then (c.port.otherThreads t.sys).entry.maxTransferBytes else _) = b
    at hentry ⊢
  dsimp only
  split <;> split <;> omega

/-- After a chunk that was read the next one is no larger. -/
theorem chunk_advanced (hd : c.port.IsDevice d) (htrial : u.vars.trialCap = t.vars.trialCap)
    (hsys : u.sys = (c.reply t).2) (hdone : t.vars.blocksDone ≤ u.vars.blocksDone) :
    c.chunk u ≤ c.chunk t :=
  nextChunk_mono (cap_mono hd htrial hsys) (by omega)

/-- After one that failed it is smaller, or a single block. -/
theorem chunk_retried (hd : c.port.IsDevice d)
    (hcap : (c.reply t).2.entry.maxTransferBytes ≤ laserMaxBytesPerTransfer)
    (hleft : t.vars.blocksDone < c.numBlocks.toNat) (hretry : c.Retries t)
    (hvars : u.vars = t.vars.onTrial (c.chunk t) (c.bytes t)) (hsys : u.sys = (c.reply t).2) :
    c.chunk u ≤ c.chunk t := by
  obtain ⟨hseveral, -, hlarge⟩ := hretry
  obtain ⟨hpos, hless⟩ := nextTrial_lt hlarge
  have htrial : u.vars.trialCap = nextTrial (c.bytes t) := by rw [hvars, ReadVars.onTrial_trialCap]
  have hdone : u.vars.blocksDone = t.vars.blocksDone := by rw [hvars, ReadVars.onTrial_blocksDone]
  have hfit : c.bytes t ≤ c.cap t := (chunk_spec hleft).2.2 hseveral
  have hkeeps : c.cap u ≤ u.vars.trialCap := (cap_le hd (hsys ▸ hcap)).2 (by omega)
  exact nextChunk_mono (by omega) (by omega)

/-! ## The invariant -/

/-- What a negotiation has shown so far. -/
structure Negotiating (c : ReadCall W) (d : Device) (ts : List (ReadState W)) (t : ReadState W) :
    Prop where
  floor : laserMinBytesPerTransfer ≤ t.vars.trialCap
  inside : t.vars.blocksDone < t.vars.trialEnd
  shrinks : ∀ x ∈ negotiation ts, c.chunk t ≤ c.chunk x
  passed : ∀ x ∈ negotiation ts, c.Succeeds x → ∀ limit ∈ d.limit, c.bytes x ≤ limit
  /-- The first chunk of the range does not run past it. -/
  covers : (∃ x ∈ negotiation ts, c.Succeeds x)
    ∨ t.vars.blocksDone + c.chunk t ≤ t.vars.trialEnd
  /-- The reads keep to the size on trial, unless a trial has run past the range; or the range has a
      scratch, and the negotiation will not get past it. -/
  evidence : (∀ x ∈ negotiation ts, c.Succeeds x → c.bytes x ≤ t.vars.trialCap)
    ∨ (∃ x ∈ negotiation ts, c.RunsPast d x)
    ∨ ∃ i, t.vars.blocksDone ≤ i ∧ i < t.vars.trialEnd ∧ d.bad (c.lba + UInt32.ofNat i) = true
  /-- A trial that has run past the range came after a read that was larger than what follows. -/
  past : ∀ x ∈ negotiation ts, c.RunsPast d x →
    ∃ y ∈ negotiation ts, c.Succeeds y ∧ t.vars.trialCap < c.bytes y

/-- **The invariant of the loop**, on the turns so far. -/
structure Trials (c : ReadCall W) (d : Device) (ts : List (ReadState W)) (t : ReadState W) :
    Prop where
  cap_le : t.sys.entry.maxTransferBytes ≤ laserMaxBytesPerTransfer
  on : 0 < t.vars.trialCap → Negotiating c d ts t

/-- The cap after the command of a turn. -/
theorem reply_cap_le (hd : c.port.IsDevice d)
    (hcap : t.sys.entry.maxTransferBytes ≤ laserMaxBytesPerTransfer) :
    (c.reply t).2.entry.maxTransferBytes ≤ laserMaxBytesPerTransfer :=
  Nat.le_trans (hd.scsiCdb_cap _ _) (Nat.le_trans (hd.otherThreads_cap _) hcap)

theorem floor_nextTrial (tried : Nat) : laserMinBytesPerTransfer ≤ nextTrial tried := by
  unfold nextTrial
  split <;> omega

/-- The first failure: the range is its blocks, and nothing has been read since. -/
theorem Trials.first (hd : c.port.IsDevice d) (hI : Trials c d ts t)
    (hleft : t.vars.blocksDone < c.numBlocks.toNat) (hretry : c.Retries t)
    (hfirst : t.vars.trialCap = 0) :
    Trials c d (t :: ts)
      ⟨t.vars.onTrial (c.chunk t) (c.bytes t), c.stored t, (c.reply t).2⟩ := by
  have hcap := reply_cap_le hd hI.cap_le
  generalize hu : (⟨t.vars.onTrial (c.chunk t) (c.bytes t), c.stored t, (c.reply t).2⟩ : ReadState W)
    = u
  have hvars : u.vars = t.vars.onTrial (c.chunk t) (c.bytes t) := hu ▸ rfl
  have hsys : u.sys = (c.reply t).2 := hu ▸ rfl
  have hdone : u.vars.blocksDone = t.vars.blocksDone := by rw [hvars, ReadVars.onTrial_blocksDone]
  have hend : u.vars.trialEnd = t.vars.blocksDone + c.chunk t := by
    rw [hvars, ReadVars.onTrial_trialEnd_first hfirst]
  have hpos := (chunk_spec hleft).1
  have hchunk := chunk_retried hd hcap hleft hretry hvars hsys
  refine ⟨hsys ▸ hcap, fun _ => ?_⟩
  have hnone : ∀ x, x ∉ negotiation (t :: ts) := by
    rw [negotiation_first hfirst]
    exact fun x => List.not_mem_nil
  refine ⟨?_, by omega, ?_, ?_, .inr (by omega), .inl ?_, ?_⟩
  · rw [hvars]
    exact floor_nextTrial _
  · exact fun x hx => absurd hx (hnone x)
  · exact fun x hx => absurd hx (hnone x)
  · exact fun x hx => absurd hx (hnone x)
  · exact fun x hx => absurd hx (hnone x)

/-- What a turn on trial leaves of a negotiation that goes on: the sizes do not grow, and the reads passed. -/
theorem Negotiating.next (hon : 0 < t.vars.trialCap) (hneg : Negotiating c d ts t)
    (hfloor : laserMinBytesPerTransfer ≤ u.vars.trialCap) (hinside : u.vars.blocksDone < u.vars.trialEnd)
    (hchunk : c.chunk u ≤ c.chunk t)
    (hpassed : c.Succeeds t → ∀ limit ∈ d.limit, c.bytes t ≤ limit)
    (hcovers : (∃ x ∈ t :: negotiation ts, c.Succeeds x)
      ∨ u.vars.blocksDone + c.chunk u ≤ u.vars.trialEnd)
    (hevidence : (∀ x ∈ t :: negotiation ts, c.Succeeds x → c.bytes x ≤ u.vars.trialCap)
      ∨ (∃ x ∈ t :: negotiation ts, c.RunsPast d x)
      ∨ ∃ i, u.vars.blocksDone ≤ i ∧ i < u.vars.trialEnd ∧ d.bad (c.lba + UInt32.ofNat i) = true)
    (hpast : ∀ x ∈ t :: negotiation ts, c.RunsPast d x →
      ∃ y ∈ t :: negotiation ts, c.Succeeds y ∧ u.vars.trialCap < c.bytes y) :
    Negotiating c d (t :: ts) u := by
  rw [← negotiation_cons hon] at hcovers hevidence hpast
  refine ⟨hfloor, hinside, ?_, ?_, hcovers, hevidence, hpast⟩
  · rw [negotiation_cons hon]
    intro x hx
    rcases List.mem_cons.mp hx with rfl | hold
    · exact hchunk
    · exact Nat.le_trans hchunk (hneg.shrinks x hold)
  · rw [negotiation_cons hon]
    intro x hx hok
    rcases List.mem_cons.mp hx with rfl | hold
    · exact hpassed hok
    · exact hneg.passed x hold hok

/-- What a turn that fails adds to the evidence. By size only the first of a negotiation can fail: what has
    been read was no smaller. -/
theorem Negotiating.add_failure (hneg : Negotiating c d ts t) (hfails : c.Fails d t)
    (hlost : ¬ c.Succeeds t) {b : Nat} (hb : b < c.bytes t) (hb' : b ≤ t.vars.trialCap) :
    ((∀ x ∈ t :: negotiation ts, c.Succeeds x → c.bytes x ≤ b)
        ∨ (∃ x ∈ t :: negotiation ts, c.RunsPast d x)
        ∨ ∃ i, t.vars.blocksDone ≤ i ∧ i < t.vars.trialEnd ∧ d.bad (c.lba + UInt32.ofNat i) = true)
      ∧ ∀ x ∈ t :: negotiation ts, c.RunsPast d x →
          ∃ y ∈ t :: negotiation ts, c.Succeeds y ∧ b < c.bytes y := by
  have hbytes : ∀ x ∈ negotiation ts, c.bytes t ≤ c.bytes x :=
    fun x hx => Nat.mul_le_mul_right _ (hneg.shrinks x hx)
  constructor
  · rcases hfails.cases with ⟨limit, hlimit, hlarge⟩ | ⟨i, hfrom, hto, hbad⟩
    · -- over the limit: nothing has been read on trial
      left
      intro x hx hok
      rcases List.mem_cons.mp hx with rfl | hold
      · exact absurd hok hlost
      · have hsmall := hneg.passed x hold hok limit hlimit
        have hle := hbytes x hold
        omega
    · by_cases hin : i < t.vars.trialEnd
      · exact .inr (.inr ⟨i, hfrom, hin, hbad⟩)
      · exact .inr (.inl ⟨t, List.mem_cons_self, i, by omega, hto, hbad⟩)
  · intro x hx hpast
    rcases List.mem_cons.mp hx with rfl | hold
    · -- the chunk that runs past the range comes after a read that moved into it
      rcases hneg.covers with ⟨y, hy, hok⟩ | hcovers
      · have hle := hbytes y hy
        exact ⟨y, List.mem_cons_of_mem _ hy, hok, by omega⟩
      · obtain ⟨i, hfrom, hto, -⟩ := hpast
        omega
    · obtain ⟨y, hy, hok, hlt⟩ := hneg.past x hold hpast
      exact ⟨y, List.mem_cons_of_mem _ hy, hok, by omega⟩

/-- A failure on trial. -/
theorem Trials.further (hd : c.port.IsDevice d) (hI : Trials c d ts t)
    (hleft : t.vars.blocksDone < c.numBlocks.toNat) (hfails : c.Fails d t) (hretry : c.Retries t)
    (hon : 0 < t.vars.trialCap) :
    Trials c d (t :: ts)
      ⟨t.vars.onTrial (c.chunk t) (c.bytes t), c.stored t, (c.reply t).2⟩ := by
  have hcap := reply_cap_le hd hI.cap_le
  have hneg := hI.on hon
  have hinside := hneg.inside
  generalize hu : (⟨t.vars.onTrial (c.chunk t) (c.bytes t), c.stored t, (c.reply t).2⟩ : ReadState W)
    = u
  have hvars : u.vars = t.vars.onTrial (c.chunk t) (c.bytes t) := hu ▸ rfl
  have hsys : u.sys = (c.reply t).2 := hu ▸ rfl
  have hdone : u.vars.blocksDone = t.vars.blocksDone := by rw [hvars, ReadVars.onTrial_blocksDone]
  have htrial : u.vars.trialCap = nextTrial (c.bytes t) := by rw [hvars, ReadVars.onTrial_trialCap]
  have hend : u.vars.trialEnd = t.vars.trialEnd := by rw [hvars, ReadVars.onTrial_trialEnd hon]
  have hchunk := chunk_retried hd hcap hleft hretry hvars hsys
  have hless := (nextTrial_lt hretry.2.2).2
  have hfit : c.bytes t ≤ t.vars.trialCap :=
    Nat.le_trans ((chunk_spec hleft).2.2 hretry.1) ((ReadCall.cap_le hd hI.cap_le).2 hon)
  have hlost : ¬ c.Succeeds t := fun hok => (succeeds_iff hd hI.cap_le hleft).mp hok hfails
  obtain ⟨hevidence, hpast⟩ := hneg.add_failure hfails hlost hless (by omega)
  rw [← htrial] at hevidence hpast
  rw [← hdone, ← hend] at hevidence
  refine ⟨hsys ▸ hcap, fun _ => ?_⟩
  refine hneg.next hon ?_ (by omega) hchunk (fun hok => absurd hok hlost) ?_ hevidence hpast
  · rw [htrial]
    exact floor_nextTrial _
  · rcases hneg.covers with ⟨x, hx, hok⟩ | hcovers
    · exact .inl ⟨x, List.mem_cons_of_mem _ hx, hok⟩
    · right
      omega

/-- A chunk on trial that succeeds keeps to the size on trial; a single block does so by the floor. -/
theorem Negotiating.bytes_le_trial (hd : c.port.IsDevice d)
    (hcap : t.sys.entry.maxTransferBytes ≤ laserMaxBytesPerTransfer) (hneg : Negotiating c d ts t)
    (hleft : t.vars.blocksDone < c.numBlocks.toNat) : c.bytes t ≤ t.vars.trialCap := by
  have hfloor := hneg.floor
  obtain ⟨hpos, -, hfit⟩ := chunk_spec hleft
  by_cases hone : 1 < c.chunk t
  · have hwithin := (cap_le hd hcap).2 (by unfold laserMinBytesPerTransfer at hfloor; omega)
    exact Nat.le_trans (hfit hone) hwithin
  · have hbs := c.kind.blockSize_le
    have heq : c.chunk t = 1 := by omega
    unfold laserMinBytesPerTransfer at hfloor
    unfold bytes
    rw [heq]
    omega

/-- What a turn that succeeds adds to the evidence. -/
theorem Negotiating.add_read (hd : c.port.IsDevice d)
    (hcap : t.sys.entry.maxTransferBytes ≤ laserMaxBytesPerTransfer) (hneg : Negotiating c d ts t)
    (hleft : t.vars.blocksDone < c.numBlocks.toNat) (hpass : ¬ c.Fails d t) :
    ((∀ x ∈ t :: negotiation ts, c.Succeeds x → c.bytes x ≤ t.vars.trialCap)
        ∨ (∃ x ∈ t :: negotiation ts, c.RunsPast d x)
        ∨ ∃ i, t.vars.blocksDone + c.chunk t ≤ i ∧ i < t.vars.trialEnd
            ∧ d.bad (c.lba + UInt32.ofNat i) = true)
      ∧ ∀ x ∈ t :: negotiation ts, c.RunsPast d x →
          ∃ y ∈ t :: negotiation ts, c.Succeeds y ∧ t.vars.trialCap < c.bytes y := by
  constructor
  · rcases hneg.evidence with hsmall | ⟨x, hx, hpast⟩ | ⟨i, hfrom, hto, hbad⟩
    · left
      intro x hx hok
      rcases List.mem_cons.mp hx with rfl | hold
      · exact hneg.bytes_le_trial hd hcap hleft
      · exact hsmall x hold hok
    · exact .inr (.inl ⟨x, List.mem_cons_of_mem _ hx, hpast⟩)
    · right; right
      -- the scratch is not in what was read, so it is still ahead
      refine ⟨i, Nat.le_of_not_lt fun hin => ?_, hto, hbad⟩
      exact hpass (fails_of_bad hfrom hin hbad)
  · intro x hx hpast
    rcases List.mem_cons.mp hx with rfl | hold
    · obtain ⟨i, hfrom, hto, hbad⟩ := hpast
      have hinside := hneg.inside
      exact absurd (fails_of_bad (by omega) hto hbad) hpass
    · obtain ⟨y, hy, hok, hlt⟩ := hneg.past x hold hpast
      exact ⟨y, List.mem_cons_of_mem _ hy, hok, hlt⟩

/-- A chunk that was read, the range not covered yet. -/
theorem Trials.advanced (hd : c.port.IsDevice d) (hI : Trials c d ts t)
    (hleft : t.vars.blocksDone < c.numBlocks.toNat) (hpass : ¬ c.Fails d t)
    (hopen : 0 < t.vars.trialCap → t.vars.blocksDone + c.chunk t < t.vars.trialEnd) :
    Trials c d (t :: ts)
      ⟨{ t.vars with blocksDone := t.vars.blocksDone + c.chunk t }, c.stored t, (c.reply t).2⟩ := by
  refine ⟨reply_cap_le hd hI.cap_le, ?_⟩
  intro hon
  have hon : 0 < t.vars.trialCap := hon
  have hneg := hI.on hon
  have hok : c.Succeeds t := (succeeds_iff hd hI.cap_le hleft).mpr hpass
  obtain ⟨hevidence, hpast⟩ := hneg.add_read hd hI.cap_le hleft hpass
  have hchunk : c.chunk ⟨{ t.vars with blocksDone := t.vars.blocksDone + c.chunk t }, c.stored t,
      (c.reply t).2⟩ ≤ c.chunk t := chunk_advanced hd rfl rfl (Nat.le_add_right _ _)
  exact hneg.next hon hneg.floor (hopen hon) hchunk (fun _ => (passed_of_not_fails hpass).1)
    (.inl ⟨t, List.mem_cons_self, hok⟩) hevidence hpast

/-- **One turn keeps the invariant.** -/
theorem Trials.keep (hd : c.port.IsDevice d) (hI : Trials c d ts t) (hb : c.turn t = .again u) :
    Trials c d (t :: ts) u := by
  have hcase := turn_case hd hI.cap_le
  rw [hb] at hcase
  cases hcase with
  | retried hleft hfails hretry =>
      by_cases hfirst : t.vars.trialCap = 0
      · exact hI.first hd hleft hretry hfirst
      · exact hI.further hd hleft hfails hretry (by omega)
  | advanced hleft hpass _ hopen => exact hI.advanced hd hleft hpass hopen
  | settled _ _ _ _ _ =>
      refine ⟨?_, fun hon => absurd hon (Nat.lt_irrefl 0)⟩
      exact Nat.le_trans (lowerTransferCap_le _ _)
        (Nat.le_trans (hd.otherThreads_cap _) (reply_cap_le hd hI.cap_le))

/-- The invariant over a whole run. -/
theorem trials_of_visits (hd : c.port.IsDevice d)
    (hcap : c.sys.entry.maxTransferBytes ≤ laserMaxBytesPerTransfer)
    (hv : Visits c.turn c.start ts t) : Trials c d ts t := by
  apply hv.invariant (I := fun ts t => Trials c d ts t)
  · intro ts t u _ hI hb
    exact hI.keep hd hb
  · exact ⟨hcap, fun hon => absurd hon (Nat.lt_irrefl 0)⟩

/-! ## The law -/

theorem lowerTransferCap_of_lt {bytes b : Nat} {s : Sys W}
    (hb : (lowerTransferCap bytes s).entry.maxTransferBytes = b) (hlt : b < s.entry.maxTransferBytes) :
    b = bytes := by
  unfold lowerTransferCap at hb
  split at hb
  · exact hb.symm
  · omega

/-- The cap is lowered by a turn that covers the range, and to the size on trial. -/
theorem LowersTo.cases {b : Nat} (hd : c.port.IsDevice d)
    (hcap : t.sys.entry.maxTransferBytes ≤ laserMaxBytesPerTransfer) (hlow : c.LowersTo t b) :
    t.vars.blocksDone < c.numBlocks.toNat ∧ ¬ c.Fails d t ∧ 0 < t.vars.trialCap
      ∧ t.vars.trialEnd ≤ t.vars.blocksDone + c.chunk t ∧ b = t.vars.trialCap := by
  obtain ⟨u, hb, hcapu, hlt⟩ := hlow
  have hothers := hd.otherThreads_cap (c.reply t).2
  have hcase := turn_case hd hcap
  rw [hb] at hcase
  cases hcase with
  | retried _ _ _ => exact absurd hcapu (Nat.ne_of_gt (Nat.lt_of_lt_of_le hlt hothers))
  | advanced _ _ _ _ => exact absurd hcapu (Nat.ne_of_gt (Nat.lt_of_lt_of_le hlt hothers))
  | settled hleft hpass _ hon hcovers =>
      exact ⟨hleft, hpass, hon, hcovers, lowerTransferCap_of_lt hcapu hlt⟩

/-- **The evidence law of the negotiation.** On a device that fails by size and by block, the cap is
    never lowered below a transfer that the negotiation saw succeed, if and only if no negotiation that
    lowers it has met a scratch behind the range it was to cover. -/
theorem keepsEvidence_iff (c : ReadCall W) (d : Device) (hd : c.port.IsDevice d)
    (hcap : c.sys.entry.maxTransferBytes ≤ laserMaxBytesPerTransfer) :
    c.KeepsEvidence ↔ c.StaysInRange d := by
  constructor
  · intro hkeeps ts t b hv hlow x hx hpast
    have hI := trials_of_visits hd hcap hv
    obtain ⟨hleft, hpass, hon, -, rfl⟩ := hlow.cases hd hI.cap_le
    obtain ⟨-, hlarger⟩ := (hI.on hon).add_read hd hI.cap_le hleft hpass
    rw [← negotiation_cons hon] at hlarger
    obtain ⟨y, hy, hok, hlt⟩ := hlarger x hx hpast
    have hle := hkeeps ts t _ hv hlow y hy hok
    omega
  · intro hstays ts t b hv hlow
    have hI := trials_of_visits hd hcap hv
    obtain ⟨hleft, hpass, hon, hcovers, rfl⟩ := hlow.cases hd hI.cap_le
    obtain ⟨hevidence, -⟩ := (hI.on hon).add_read hd hI.cap_le hleft hpass
    rw [← negotiation_cons hon] at hevidence
    rcases hevidence with hsmall | ⟨x, hx, hpast⟩ | ⟨i, hfrom, hto, -⟩
    · exact hsmall
    · exact absurd hpast (hstays ts t _ hv hlow x hx)
    · omega

/-- A bridge that passes 40000 bytes, and a disc with one scratch. -/
def scratchedBridge : Device := ⟨some 40000, fun lba => lba == 30, fun _ _ _ => 0⟩

/-- A hundred raw blocks from the start of a disc, at the largest size. -/
def hundredBlocks (d : Device) : ReadCall Unit :=
  ⟨d.port, .readCd 0x00 0xF8, 0, 100, fun _ => 0,
    ⟨{ inUse := true, maxTransferBytes := laserMaxBytesPerTransfer }, (), []⟩⟩

/-- A bridge that passes 40000 bytes keeps to the law, as long as the disc has no scratch. -/
theorem cleanDisc_keeps_evidence : (hundredBlocks ⟨some 40000, fun _ => false, fun _ _ _ => 0⟩).KeepsEvidence := by
  apply (keepsEvidence_iff _ _ (Device.port_isDevice _) (Nat.le_refl _)).mpr
  rintro ts t b _ _ x _ ⟨i, -, -, hbad⟩
  cases hbad

/-- **The law as it stands fails.** The transfers of 30576 bytes that read blocks 0 to 25 show the size
    to be good; the next one, for block 26, runs past the range, which ends at 27, and meets the scratch
    at 30. The cap ends up at 8192. -/
theorem scratch_lowers_cap :
    (hundredBlocks scratchedBridge).port.IsDevice scratchedBridge
      ∧ (hundredBlocks scratchedBridge).sys.entry.maxTransferBytes ≤ laserMaxBytesPerTransfer
      ∧ ¬ (hundredBlocks scratchedBridge).KeepsEvidence := by
  refine ⟨Device.port_isDevice _, Nat.le_refl _, ?_⟩
  intro hkeeps
  -- the turn that lowers the cap, and the read before it that was larger
  have hrun : ∃ p ∈ history (hundredBlocks scratchedBridge).turn (hundredBlocks scratchedBridge).start 5,
      (hundredBlocks scratchedBridge).LowersTo p.2 8192
        ∧ ∃ x ∈ negotiation (p.2 :: p.1), (hundredBlocks scratchedBridge).Succeeds x
          ∧ 8192 < (hundredBlocks scratchedBridge).bytes x := by
    decide +kernel
  obtain ⟨⟨ts, t⟩, hts, hlow, x, hx, hok, hlarge⟩ := hrun
  have hsmall := hkeeps ts t 8192 (.of_history hts) hlow x hx hok
  exact absurd hsmall (Nat.not_le_of_lt hlarge)

end ReadCall

end Liblaser
