import Liblaser.Disc.Iso
import Mathlib.Data.List.Forall2

/-!
# `Disc.Directory` — a directory search finds the first record that is wanted

A sector of a directory is a chain of records, each as long as its first byte says; `RecordChain` is the
chain, and `Wanted` a record of the kind and the name looked for. `iso_find_child()` is to return the first
such record of the first sectors of the extent (`ChildSearch`), whatever the bytes of the disc are.

It does, but for the number of sectors: the length is rounded up in 32 bits, so that a length within 2047
bytes of the end of them comes to none. **`isoFindChild_iff`** has this condition. The bytes of a sector are
asked for one at a time in `isoScanBytes`, so that the question whether one is outside of it can be put.
-/

namespace Liblaser

open Bytes

/-! ## Names -/

/-- The same letter, or the same byte, without regard to case. -/
def SameLetter (a b : UInt8) : Prop :=
  a = b ∨ (0x41 ≤ a ∧ a ≤ 0x5A ∧ b = a + 0x20) ∨ (0x41 ≤ b ∧ b ≤ 0x5A ∧ a = b + 0x20)

/-- The name is the wanted one, without regard to case and to anything from its first `;` on. -/
def SameName (name want : List UInt8) : Prop :=
  List.Forall₂ SameLetter (name.takeWhile (· != 0x3B)) want

theorem isoUpper_eq_iff (a b : UInt8) : isoUpper a = isoUpper b ↔ SameLetter a b := by
  have ha := a.toNat_lt
  have hb := b.toNat_lt
  unfold isoUpper SameLetter
  simp only [← UInt8.toNat_inj, UInt8.le_iff_toNat_le, UInt8.toNat_add, UInt8.reduceToNat]
  split <;> split <;> simp_all [UInt8.toNat_sub] <;> omega

theorem isoNameMatches_iff (name want : List UInt8) :
    isoNameMatches name want = true ↔ SameName name want := by
  unfold isoNameMatches SameName
  dsimp only
  rw [Bool.and_eq_true, beq_iff_eq, List.all_eq_true, List.forall₂_iff_zip]
  constructor
  · rintro ⟨hlen, hall⟩
    refine ⟨hlen, fun {a b} hab => ?_⟩
    exact (isoUpper_eq_iff a b).mp (beq_iff_eq.mp (hall (a, b) hab))
  · rintro ⟨hlen, hall⟩
    refine ⟨hlen, fun ⟨a, b⟩ hab => ?_⟩
    exact beq_iff_eq.mpr ((isoUpper_eq_iff a b).mpr (hall hab))

/-! ## Extents -/

/-- Bytes above others are added to them. -/
theorem or_shiftLeft_of_lt {a b i : Nat} (h : a < 2 ^ i) : a ||| b <<< i = a + 2 ^ i * b := by
  rw [Nat.shiftLeft_eq, Nat.mul_comm, Nat.or_comm, ← Nat.two_pow_add_eq_or_of_lt h, Nat.add_comm]

/-- A byte shifted within 32 bits loses nothing. -/
theorem toNat_toUInt32_shiftLeft (b : UInt8) {k : UInt32} (hk : k.toNat ≤ 24) :
    (b.toUInt32 <<< k).toNat = b.toNat <<< k.toNat := by
  have hfit : b.toNat * 2 ^ k.toNat < 2 ^ 32 := by
    calc b.toNat * 2 ^ k.toNat < 2 ^ 8 * 2 ^ k.toNat :=
          Nat.mul_lt_mul_of_pos_right b.toNat_lt (Nat.two_pow_pos _)
      _ = 2 ^ (8 + k.toNat) := (Nat.pow_add 2 8 _).symm
      _ ≤ 2 ^ 32 := Nat.pow_le_pow_right (by decide) (by omega)
  have hmod : k.toNat % 32 = k.toNat := Nat.mod_eq_of_lt (by omega)
  rw [UInt32.toNat_shiftLeft, UInt8.toNat_toUInt32, hmod, Nat.shiftLeft_eq]
  exact Nat.mod_eq_of_lt hfit

/-- `iso_le32()` is the little-endian number. -/
theorem isoLe32_toNat (p : Nat → UInt8) (off : Nat) :
    (isoLe32 p off).toNat = leNat (bytesAt p off 4) := by
  have h0 := (p off).toNat_lt
  have h1 := (p (off + 1)).toNat_lt
  have h2 := (p (off + 2)).toNat_lt
  have hle : leNat (bytesAt p off 4) = (p off).toNat + 2 ^ 8 * (p (off + 1)).toNat
      + 2 ^ 16 * (p (off + 2)).toNat + 2 ^ 24 * (p (off + 3)).toNat := by
    show leNat [p (off + 0), p (off + 1), p (off + 2), p (off + 3)] = _
    simp only [leNat, Nat.add_zero]
    omega
  have h01 : (p off).toNat + 2 ^ 8 * (p (off + 1)).toNat < 2 ^ 16 := by omega
  have h012 : (p off).toNat + 2 ^ 8 * (p (off + 1)).toNat + 2 ^ 16 * (p (off + 2)).toNat < 2 ^ 24 := by
    omega
  unfold isoLe32
  rw [UInt32.toNat_or, UInt32.toNat_or, UInt32.toNat_or, UInt8.toNat_toUInt32,
    toNat_toUInt32_shiftLeft _ (by decide), toNat_toUInt32_shiftLeft _ (by decide),
    toNat_toUInt32_shiftLeft _ (by decide)]
  simp only [UInt32.reduceToNat]
  rw [or_shiftLeft_of_lt h0, or_shiftLeft_of_lt h01, or_shiftLeft_of_lt h012, hle]

/-! ## The record chain of a sector -/

/-- A record is at `off`: it is long enough for the fixed part, and ends inside the sector. -/
structure RecordAt (sector : Nat → UInt8) (off : Nat) : Prop where
  fixedPart : isoDrName ≤ (sector off).toNat
  inside : off + (sector off).toNat ≤ isoSectorSize

/-- `RecordChain sector off o`: record after record, the one at `off` leads to offset `o`. -/
inductive RecordChain (sector : Nat → UInt8) : Nat → Nat → Prop where
  | here {off : Nat} : RecordChain sector off off
  | next {off o : Nat} : RecordAt sector off → RecordChain sector (off + (sector off).toNat) o →
      RecordChain sector off o

/-- The name of the record at `off`, unless it is empty or runs past the record. -/
def recordName (sector : Nat → UInt8) (off : Nat) : Option (List UInt8) :=
  let nameLen := (sector (off + 32)).toNat
  if nameLen = 0 ∨ (sector off).toNat < isoDrName + nameLen then none
  else some (bytesAt sector (off + isoDrName) nameLen)

/-- The record at `off` is a wanted one: of the kind and the name. -/
structure Wanted (sector : Nat → UInt8) (want : List UInt8) (wantDir : Bool) (off : Nat) : Prop where
  record : RecordAt sector off
  flag : sector (off + 25) &&& 0x02 ≠ 0 ↔ wantDir = true
  name : ∃ name, recordName sector off = some name ∧ SameName name want

/-- The extent is that of the first wanted record on the chain from `off`. -/
def FirstWanted (sector : Nat → UInt8) (want : List UInt8) (wantDir : Bool) (off : Nat)
    (extent : Extent) : Prop :=
  ∃ o, RecordChain sector off o ∧ Wanted sector want wantDir o
    ∧ (∀ o' < o, RecordChain sector off o' → ¬ Wanted sector want wantDir o')
    ∧ extent.lba.toNat = leNat (bytesAt sector (o + 2) 4)
    ∧ extent.len.toNat = leNat (bytesAt sector (o + 10) 4)

variable {sector : Nat → UInt8} {want : List UInt8} {wantDir : Bool} {off o : Nat} {extent : Extent}

theorem RecordChain.le (h : RecordChain sector off o) : off ≤ o := by
  induction h with
  | here => exact Nat.le_refl _
  | next _ _ ih => omega

/-- The chain ends where no record is. -/
theorem RecordChain.stop (h : RecordChain sector off o) (hno : ¬ RecordAt sector off) : o = off := by
  cases h with
  | here => rfl
  | next hrec _ => exact absurd hrec hno

theorem RecordChain.cases (h : RecordChain sector off o) :
    o = off ∨ RecordChain sector (off + (sector off).toNat) o := by
  cases h with
  | here => exact .inl rfl
  | next _ hrest => exact .inr hrest

/-- What the scan of a sector comes to. -/
inductive ScanSpec (sector : Nat → UInt8) (want : List UInt8) (wantDir : Bool) (off : Nat) :
    Option Extent → Prop where
  | found (extent : Extent) : FirstWanted sector want wantDir off extent →
      ScanSpec sector want wantDir off (some extent)
  | missed : (∀ o, RecordChain sector off o → ¬ Wanted sector want wantDir o) →
      ScanSpec sector want wantDir off none

/-- No record at `off`: nothing is found. -/
theorem ScanSpec.of_no_record (hno : ¬ RecordAt sector off) :
    ScanSpec sector want wantDir off none := by
  apply ScanSpec.missed
  intro o hchain hwanted
  obtain rfl := hchain.stop hno
  exact hno hwanted.record

/-- The record at `off` is not wanted: what the rest of the chain comes to. -/
theorem ScanSpec.of_rest {r : Option Extent} (hrec : RecordAt sector off)
    (hnot : ¬ Wanted sector want wantDir off)
    (hrest : ScanSpec sector want wantDir (off + (sector off).toNat) r) :
    ScanSpec sector want wantDir off r := by
  cases hrest with
  | found extent hfirst =>
      obtain ⟨o, hchain, hwanted, hbefore, hextent⟩ := hfirst
      refine .found extent ⟨o, .next hrec hchain, hwanted, ?_, hextent⟩
      intro o' hlt hchain'
      rcases hchain'.cases with rfl | hrest
      · exact hnot
      · exact hbefore o' hlt hrest
  | missed hnone =>
      apply ScanSpec.missed
      intro o hchain
      rcases hchain.cases with rfl | hrest
      · exact hnot
      · exact hnone o hrest

theorem recordAt_of_good
    (hgood : ¬ ((sector off).toNat < isoDrName ∨ isoSectorSize < off + (sector off).toNat)) :
    RecordAt sector off := ⟨by omega, by omega⟩

/-- `is_dir == want_dir`. -/
theorem flag_eq_iff : (sector (off + 25) &&& 0x02 != 0) == wantDir
    ↔ (sector (off + 25) &&& 0x02 ≠ 0 ↔ wantDir = true) := by
  rw [beq_iff_eq, ← bne_iff_ne (b := (0 : UInt8)), Bool.eq_iff_iff]

/-- **The scan of a sector** finds the first wanted record of its chain. -/
theorem isoScanSector_spec (sector : Nat → UInt8) (want : List UInt8) (wantDir : Bool) (off : Nat) :
    ScanSpec sector want wantDir off (isoScanSector sector want wantDir off) := by
  fun_induction isoScanSector sector want wantDir off with
  | case1 off _ recLen hzero =>
      apply ScanSpec.of_no_record
      intro hrec
      have hlen : (sector off).toNat = 0 := hzero
      have hfixed := hrec.fixedPart
      unfold isoDrName at hfixed
      omega
  | case2 off _ recLen _ hbad =>
      apply ScanSpec.of_no_record
      intro hrec
      have hbad : (sector off).toNat < isoDrName ∨ isoSectorSize < off + (sector off).toNat := hbad
      have hfixed := hrec.fixedPart
      have hinside := hrec.inside
      omega
  | case3 off _ recLen _ hgood nameLen hname ih =>
      refine ScanSpec.of_rest (recordAt_of_good hgood) ?_ ih
      rintro ⟨-, -, name, hrecord, -⟩
      unfold recordName at hrecord
      rw [if_pos hname] at hrecord
      cases hrecord
  | case4 off _ recLen _ hgood nameLen hname isDir hmatch =>
      obtain ⟨hdir, hnamed⟩ := Bool.and_eq_true_iff.mp hmatch
      have hwanted : Wanted sector want wantDir off :=
        ⟨recordAt_of_good hgood, flag_eq_iff.mp hdir, _, if_neg hname, (isoNameMatches_iff _ _).mp hnamed⟩
      refine .found _ ⟨off, .here, hwanted, ?_, isoLe32_toNat _ _, isoLe32_toNat _ _⟩
      intro o' hlt hchain
      exact absurd hchain.le (Nat.not_le_of_lt hlt)
  | case5 off _ recLen _ hgood nameLen hname isDir hmatch ih =>
      refine ScanSpec.of_rest (recordAt_of_good hgood) ?_ ih
      rintro ⟨-, hflag, name, hrecord, hsame⟩
      unfold recordName at hrecord
      rw [if_neg hname] at hrecord
      cases hrecord
      apply hmatch
      exact Bool.and_eq_true_iff.mpr ⟨flag_eq_iff.mpr hflag, (isoNameMatches_iff _ _).mpr hsame⟩
  | case6 off hend =>
      apply ScanSpec.of_no_record
      intro hrec
      have hfixed := hrec.fixedPart
      have hinside := hrec.inside
      unfold isoDrName at hfixed
      omega

/-! ## The bytes of a sector -/

/-- A function of a sector that reads it byte by byte. -/
abbrev SectorProgram (α : Type) := Dialog Nat UInt8 α

/-- The `n` bytes from `off` on. -/
def readBytes (off : Nat) : Nat → SectorProgram (List UInt8)
  | 0 => pure []
  | n + 1 => do
    let b ← Dialog.query off
    let bs ← readBytes (off + 1) n
    pure (b :: bs)

/-- `iso_le32()`, its four reads. -/
def isoLe32Bytes (off : Nat) : SectorProgram UInt32 := do
  let b0 ← Dialog.query off
  let b1 ← Dialog.query (off + 1)
  let b2 ← Dialog.query (off + 2)
  let b3 ← Dialog.query (off + 3)
  pure (b0.toUInt32 ||| b1.toUInt32 <<< 8 ||| b2.toUInt32 <<< 16 ||| b3.toUInt32 <<< 24)

/-- The extent of the record at `off`. -/
def isoExtentBytes (off : Nat) : SectorProgram Extent := do
  let lba ← isoLe32Bytes (off + 2)
  let len ← isoLe32Bytes (off + 10)
  pure ⟨lba, len⟩

/-- The test of the record at `off`; the name is read of a record of the wanted kind only. -/
def isoWantedBytes (want : List UInt8) (wantDir : Bool) (off nameLen : Nat) : SectorProgram Bool := do
  let flags ← Dialog.query (off + 25)
  let isDir := flags &&& 0x02 != 0
  if isDir == wantDir then do
    let name ← readBytes (off + isoDrName) nameLen
    pure (isoNameMatches name want)
  else pure false

/-- The inner loop of `iso_find_child()` again, with its reads of the sector. -/
def isoScanBytes (want : List UInt8) (wantDir : Bool) (off : Nat) : SectorProgram (Option Extent) :=
  if off < isoSectorSize then do
    let recLen ← Dialog.query off
    if recLen.toNat = 0 then pure none
    else if recLen.toNat < isoDrName ∨ isoSectorSize < off + recLen.toNat then pure none
    else do
      let nameLen ← Dialog.query (off + 32)
      if nameLen.toNat = 0 ∨ recLen.toNat < isoDrName + nameLen.toNat then
        isoScanBytes want wantDir (off + recLen.toNat)
      else do
        let wanted ← isoWantedBytes want wantDir off nameLen.toNat
        if wanted then do
          let extent ← isoExtentBytes off
          pure (some extent)
        else isoScanBytes want wantDir (off + recLen.toNat)
  else pure none
termination_by isoSectorSize - off

theorem readBytes_eval (sector : Nat → UInt8) (off n : Nat) :
    (readBytes off n).eval sector = bytesAt sector off n := by
  induction n generalizing off with
  | zero => rfl
  | succ n ih =>
      unfold readBytes
      simp only [Dialog.eval_bind, Dialog.eval_query, Dialog.eval_pure, ih]
      unfold bytesAt
      rw [List.range_succ_eq_map, List.map_cons, List.map_map, Nat.add_zero]
      congr 1
      apply List.map_congr_left
      intro i _
      show sector (off + 1 + i) = sector (off + (i + 1))
      rw [Nat.add_assoc, Nat.add_comm 1 i]

theorem readBytes_asks {off n : Nat} (h : off + n ≤ isoSectorSize) :
    (readBytes off n).Asks (· < isoSectorSize) := by
  induction n generalizing off with
  | zero => exact trivial
  | succ n ih =>
      unfold readBytes
      apply Dialog.Asks.bind (Dialog.asks_query (by omega))
      intro b
      exact (ih (by omega)).bind fun bs => trivial

theorem isoLe32Bytes_asks {off : Nat} (h : off + 4 ≤ isoSectorSize) :
    (isoLe32Bytes off).Asks (· < isoSectorSize) := by
  unfold isoLe32Bytes
  apply (Dialog.asks_query (by omega)).bind
  intro b0
  apply (Dialog.asks_query (by omega)).bind
  intro b1
  apply (Dialog.asks_query (by omega)).bind
  intro b2
  apply (Dialog.asks_query (by omega)).bind
  intro b3
  exact trivial

theorem isoExtentBytes_asks {off : Nat} (h : off + isoDrName ≤ isoSectorSize) :
    (isoExtentBytes off).Asks (· < isoSectorSize) := by
  unfold isoDrName at h
  unfold isoExtentBytes
  apply (isoLe32Bytes_asks (by omega)).bind
  intro lba
  apply (isoLe32Bytes_asks (by omega)).bind
  intro len
  exact trivial

theorem isoWantedBytes_asks {off nameLen : Nat} (h : off + isoDrName + nameLen ≤ isoSectorSize) :
    (isoWantedBytes want wantDir off nameLen).Asks (· < isoSectorSize) := by
  unfold isoWantedBytes
  apply (Dialog.asks_query (by unfold isoDrName at h; omega)).bind
  intro flags
  dsimp only
  split
  · exact (readBytes_asks h).bind fun name => trivial
  · exact trivial

theorem isoWantedBytes_eval (sector : Nat → UInt8) (off nameLen : Nat) :
    (isoWantedBytes want wantDir off nameLen).eval sector
      = ((sector (off + 25) &&& 0x02 != 0) == wantDir
        && isoNameMatches (bytesAt sector (off + isoDrName) nameLen) want) := by
  unfold isoWantedBytes
  rw [Dialog.eval_bind, Dialog.eval_query]
  dsimp only
  split
  · next hdir =>
      rw [hdir, Bool.true_and, Dialog.eval_bind, readBytes_eval]
      rfl
  · next hdir =>
      rw [Bool.eq_false_iff.mpr hdir, Bool.false_and]
      rfl

/-- It is the same loop. -/
theorem isoScanBytes_eval (sector : Nat → UInt8) (want : List UInt8) (wantDir : Bool) (off : Nat) :
    (isoScanBytes want wantDir off).eval sector = isoScanSector sector want wantDir off := by
  fun_induction isoScanSector sector want wantDir off with
  | case1 off hin recLen hzero =>
      unfold isoScanBytes
      rw [if_pos hin, Dialog.eval_bind, Dialog.eval_query, if_pos hzero]
      rfl
  | case2 off hin recLen hzero hbad =>
      unfold isoScanBytes
      rw [if_pos hin, Dialog.eval_bind, Dialog.eval_query, if_neg hzero, if_pos hbad]
      rfl
  | case3 off hin recLen hzero hgood nameLen hname ih =>
      unfold isoScanBytes
      rw [if_pos hin, Dialog.eval_bind, Dialog.eval_query, if_neg hzero, if_neg hgood, Dialog.eval_bind,
        Dialog.eval_query, if_pos hname]
      exact ih
  | case4 off hin recLen hzero hgood nameLen hname isDir hmatch =>
      unfold isoScanBytes
      rw [if_pos hin, Dialog.eval_bind, Dialog.eval_query, if_neg hzero, if_neg hgood, Dialog.eval_bind,
        Dialog.eval_query, if_neg hname, Dialog.eval_bind, isoWantedBytes_eval, if_pos hmatch]
      rfl
  | case5 off hin recLen hzero hgood nameLen hname isDir hmatch ih =>
      unfold isoScanBytes
      rw [if_pos hin, Dialog.eval_bind, Dialog.eval_query, if_neg hzero, if_neg hgood, Dialog.eval_bind,
        Dialog.eval_query, if_neg hname, Dialog.eval_bind, isoWantedBytes_eval, if_neg hmatch]
      exact ih
  | case6 off hend =>
      unfold isoScanBytes
      rw [if_neg hend]
      rfl

/-- **No byte outside the sector is read**, whatever the bytes that are read hold. -/
theorem isoScanBytes_asks (want : List UInt8) (wantDir : Bool) (off : Nat) :
    (isoScanBytes want wantDir off).Asks (· < isoSectorSize) := by
  fun_induction isoScanBytes want wantDir off with
  | case1 off hin ihname ihrest =>
      refine Dialog.Asks.bind (R := (· < isoSectorSize)) (Dialog.asks_query hin) ?_
      intro recLen
      split
      · exact trivial
      next hzero =>
      split
      · exact trivial
      next hgood =>
      -- the record is inside the sector, and its fixed part and name are inside the record
      have hfixed : off + isoDrName ≤ isoSectorSize := by omega
      apply (Dialog.asks_query (by unfold isoDrName at hfixed; omega)).bind
      intro nameLen
      split
      · next hname => exact ihname recLen hzero hgood nameLen hname
      next hname =>
      apply (isoWantedBytes_asks (by omega)).bind
      intro wanted
      split
      · exact (isoExtentBytes_asks hfixed).bind fun extent => trivial
      · exact ihrest recLen hgood nameLen hname
  | case2 => exact trivial

/-! ## The sectors of a directory -/

/-- What is on the disc: the sectors that can be read. -/
abbrev IsoDisc := UInt32 → Option (Nat → UInt8)

/-- The sector has a wanted record on its chain. -/
def HasRecord (sector : Nat → UInt8) (want : List UInt8) (wantDir : Bool) : Prop :=
  ∃ off, RecordChain sector 0 off ∧ Wanted sector want wantDir off

/-- Among so many sectors from `lba` on, one has a wanted record, and all are readable up to it. -/
def HasChild (disc : IsoDisc) (lba : UInt32) (sectors : Nat) (want : List UInt8) (wantDir : Bool) : Prop :=
  ∃ n < sectors, (∀ j ≤ n, (disc (lba + UInt32.ofNat j)).isSome = true)
    ∧ ∃ sector, disc (lba + UInt32.ofNat n) = some sector ∧ HasRecord sector want wantDir

/-- The extent is that of the first wanted record in them. -/
def FirstChild (disc : IsoDisc) (lba : UInt32) (sectors : Nat) (want : List UInt8) (wantDir : Bool)
    (extent : Extent) : Prop :=
  ∃ n < sectors,
    (∀ j < n, ∃ sector, disc (lba + UInt32.ofNat j) = some sector ∧ ¬ HasRecord sector want wantDir)
    ∧ ∃ sector, disc (lba + UInt32.ofNat n) = some sector ∧ FirstWanted sector want wantDir 0 extent

/-- The sectors of a directory that are searched: its length in whole sectors, up to the ceiling. -/
def declaredSectors (dir : Extent) : Nat :=
  min ((dir.len.toNat + (isoSectorSize - 1)) / isoSectorSize) isoMaxDirSectors.toNat

/-- **The directory search** as it is meant. -/
structure ChildSearch (disc : IsoDisc) (dir : Extent) (want : String) (wantDir : Bool) : Prop where
  /-- Something is found exactly when it is there, -/
  found : ((isoFindChild dir want wantDir).eval disc).isSome = true
    ↔ HasChild disc dir.lba (declaredSectors dir) (ascii want) wantDir
  /-- and then it is the first that is. -/
  first : ∀ extent, (isoFindChild dir want wantDir).eval disc = some extent →
    FirstChild disc dir.lba (declaredSectors dir) (ascii want) wantDir extent
  /-- A sector is read inside its bounds, -/
  bounds : (∀ sector, (isoScanBytes (ascii want) wantDir 0).eval sector
      = isoScanSector sector (ascii want) wantDir 0)
    ∧ (isoScanBytes (ascii want) wantDir 0).Asks (· < isoSectorSize)
  /-- and no more sectors than the ceiling. -/
  ends : (isoFindChild dir want wantDir).AtMost isoMaxDirSectors.toNat

section Sectors

variable {disc : IsoDisc} {lba : UInt32} {left : Nat}

/-- Sector `j + 1` from here is sector `j` from the next one. -/
theorem add_ofNat_succ (lba : UInt32) (j : Nat) :
    lba + UInt32.ofNat (j + 1) = lba + 1 + UInt32.ofNat j := by
  rw [Nat.add_comm, UInt32.ofNat_add, UInt32.add_assoc]
  rfl

theorem add_ofNat_zero (lba : UInt32) : lba + UInt32.ofNat 0 = lba := UInt32.add_zero lba

theorem not_hasChild_zero : ¬ HasChild disc lba 0 want wantDir := by
  rintro ⟨n, hn, -⟩
  exact Nat.not_lt_zero n hn

/-- The first sector has the record, or it is in the others. -/
theorem hasChild_succ : HasChild disc lba (left + 1) want wantDir
    ↔ ∃ sector, disc lba = some sector
        ∧ (HasRecord sector want wantDir ∨ HasChild disc (lba + 1) left want wantDir) := by
  constructor
  · rintro ⟨n, hn, hreadable, sector, hsector, hrecord⟩
    cases n with
    | zero =>
        rw [add_ofNat_zero] at hsector
        exact ⟨sector, hsector, .inl hrecord⟩
    | succ n =>
        have hfirst := hreadable 0 (Nat.zero_le _)
        rw [add_ofNat_zero] at hfirst
        obtain ⟨first, hfirst⟩ := Option.isSome_iff_exists.mp hfirst
        refine ⟨first, hfirst, .inr ⟨n, by omega, ?_, sector, ?_, hrecord⟩⟩
        · intro j hj
          rw [← add_ofNat_succ]
          exact hreadable (j + 1) (by omega)
        · rwa [add_ofNat_succ] at hsector
  · rintro ⟨first, hfirst, hrecord | ⟨n, hn, hreadable, sector, hsector, hrecord⟩⟩
    · refine ⟨0, Nat.succ_pos _, ?_, first, by rwa [add_ofNat_zero], hrecord⟩
      intro j hj
      obtain rfl : j = 0 := Nat.le_zero.mp hj
      rw [add_ofNat_zero, hfirst]
      rfl
    · refine ⟨n + 1, by omega, ?_, sector, by rwa [add_ofNat_succ], hrecord⟩
      intro j hj
      cases j with
      | zero =>
          rw [add_ofNat_zero, hfirst]
          rfl
      | succ j =>
          rw [add_ofNat_succ]
          exact hreadable j (by omega)

/-- A sector without the record before those that have it. -/
theorem FirstChild.next {sector : Nat → UInt8} (hsector : disc lba = some sector)
    (hnone : ¬ HasRecord sector want wantDir)
    (h : FirstChild disc (lba + 1) left want wantDir extent) :
    FirstChild disc lba (left + 1) want wantDir extent := by
  obtain ⟨n, hn, hbefore, hfound⟩ := h
  refine ⟨n + 1, by omega, ?_, by rwa [add_ofNat_succ]⟩
  intro j hj
  cases j with
  | zero =>
      rw [add_ofNat_zero]
      exact ⟨sector, hsector, hnone⟩
  | succ j =>
      rw [add_ofNat_succ]
      exact hbefore j (by omega)

/-- What is first is there. -/
theorem FirstChild.hasChild (h : FirstChild disc lba left want wantDir extent) :
    HasChild disc lba left want wantDir := by
  obtain ⟨n, hn, hbefore, sector, hsector, o, hchain, hwanted, -⟩ := h
  refine ⟨n, hn, ?_, sector, hsector, o, hchain, hwanted⟩
  intro j hj
  rcases Nat.lt_or_eq_of_le hj with hlt | rfl
  · obtain ⟨s, hs, -⟩ := hbefore j hlt
    rw [hs]
    rfl
  · rw [hsector]
    rfl

/-- What the search of some sectors comes to. -/
inductive FindSpec (disc : IsoDisc) (lba : UInt32) (left : Nat) (want : List UInt8) (wantDir : Bool) :
    Option Extent → Prop where
  | found (extent : Extent) : FirstChild disc lba left want wantDir extent →
      FindSpec disc lba left want wantDir (some extent)
  | missed : ¬ HasChild disc lba left want wantDir → FindSpec disc lba left want wantDir none

/-- **The outer loop** finds the first wanted record of the sectors it has left. -/
theorem isoFindFrom_spec (disc : IsoDisc) (dirLba : UInt32) (want : List UInt8) (wantDir : Bool)
    (left i : Nat) :
    FindSpec disc (dirLba + UInt32.ofNat i) left want wantDir
      ((isoFindFrom dirLba want wantDir left i).eval disc) := by
  induction left generalizing i with
  | zero => exact .missed not_hasChild_zero
  | succ left ih =>
      have hrest := ih (i + 1)
      rw [show dirLba + UInt32.ofNat (i + 1) = dirLba + UInt32.ofNat i + 1 by
        rw [UInt32.ofNat_add, UInt32.add_assoc]; rfl] at hrest
      unfold isoFindFrom
      rw [Dialog.eval_bind, Dialog.eval_query]
      generalize dirLba + UInt32.ofNat i = lba at hrest
      cases hsector : disc lba with
      | none =>
          apply FindSpec.missed
          rw [hasChild_succ, hsector]
          rintro ⟨sector, hsome, -⟩
          cases hsome
      | some sector =>
          dsimp only
          have hscan := isoScanSector_spec sector want wantDir 0
          generalize isoScanSector sector want wantDir 0 = r at hscan
          cases hscan with
          | found extent hfirst =>
              refine .found extent ⟨0, Nat.succ_pos _, ?_, sector, ?_, hfirst⟩
              · intro j hj
                exact absurd hj (Nat.not_lt_zero j)
              · rwa [add_ofNat_zero]
          | missed hnone =>
              have hnone : ¬ HasRecord sector want wantDir :=
                fun ⟨o, hchain, hwanted⟩ => hnone o hchain hwanted
              dsimp only
              generalize Dialog.eval disc _ = r at hrest ⊢
              cases hrest with
              | found extent hfirst => exact .found extent (hfirst.next hsector hnone)
              | missed hmissed =>
                  apply FindSpec.missed
                  rw [hasChild_succ, hsector]
                  rintro ⟨s, hs, hrecord | hrest⟩
                  · cases hs
                    exact hnone hrecord
                  · exact hmissed hrest

theorem isoFindFrom_atMost (dirLba : UInt32) (want : List UInt8) (wantDir : Bool) (left i : Nat) :
    (isoFindFrom dirLba want wantDir left i).AtMost left := by
  induction left generalizing i with
  | zero => exact trivial
  | succ left ih =>
      unfold isoFindFrom
      rw [Nat.add_comm left 1]
      apply (Dialog.atMost_query _).bind
      intro answer
      cases answer with
      | none => exact Dialog.atMost_pure _ _
      | some sector =>
          dsimp only
          split
          · exact Dialog.atMost_pure _ _
          · exact ih (i + 1)

end Sectors

/-! ## The number of sectors -/

/-- The sectors that `iso_find_child()` walks. -/
def walkedSectors (dir : Extent) : Nat :=
  (if isoMaxDirSectors < (dir.len + 2048 - 1) / 2048 then isoMaxDirSectors
    else (dir.len + 2048 - 1) / 2048).toNat

/-- A length is rounded up as it should be, until the rounding overflows; then it comes to none. -/
theorem walkedSectors_eq (dir : Extent) :
    walkedSectors dir = if dir.len.toNat ≤ 2 ^ 32 - 2048 then declaredSectors dir else 0 := by
  have hlen := dir.len.toNat_lt
  unfold walkedSectors declaredSectors isoMaxDirSectors isoSectorSize
  simp only [UInt32.lt_iff_toNat_lt, UInt32.toNat_div, UInt32.toNat_sub, UInt32.toNat_add,
    UInt32.reduceToNat]
  split <;> split <;> simp [UInt32.toNat_div, UInt32.toNat_sub, UInt32.toNat_add] <;> omega

theorem walkedSectors_le (dir : Extent) : walkedSectors dir ≤ isoMaxDirSectors.toNat := by
  rw [walkedSectors_eq]
  split
  · exact Nat.min_le_right _ _
  · exact Nat.zero_le _

/-- A length that overflows is longer than the ceiling. -/
theorem declaredSectors_of_gt {dir : Extent} (h : ¬ dir.len.toNat ≤ 2 ^ 32 - 2048) :
    declaredSectors dir = isoMaxDirSectors.toNat := by
  have hmax : isoMaxDirSectors.toNat = 4 := rfl
  unfold declaredSectors isoSectorSize
  omega

/-- The search of the sectors that are walked. -/
theorem isoFindChild_spec (disc : IsoDisc) (dir : Extent) (want : String) (wantDir : Bool) :
    FindSpec disc dir.lba (walkedSectors dir) (ascii want) wantDir
      ((isoFindChild dir want wantDir).eval disc) := by
  have hspec := isoFindFrom_spec disc dir.lba (ascii want) wantDir (walkedSectors dir) 0
  rwa [add_ofNat_zero] at hspec

/-- **The directory search is sound and complete** exactly when the length of the directory does not
    overflow as it is rounded up, or when the sectors that were to be searched have no such record
    anyway. -/
theorem isoFindChild_iff (disc : IsoDisc) (dir : Extent) (want : String) (wantDir : Bool) :
    ChildSearch disc dir want wantDir
      ↔ dir.len.toNat ≤ 2 ^ 32 - 2048
        ∨ ¬ HasChild disc dir.lba isoMaxDirSectors.toNat (ascii want) wantDir := by
  have hspec := isoFindChild_spec disc dir want wantDir
  have hbounds : (∀ sector, (isoScanBytes (ascii want) wantDir 0).eval sector
      = isoScanSector sector (ascii want) wantDir 0)
      ∧ (isoScanBytes (ascii want) wantDir 0).Asks (· < isoSectorSize) :=
    ⟨fun sector => isoScanBytes_eval sector _ _ _, isoScanBytes_asks _ _ _⟩
  have hends : (isoFindChild dir want wantDir).AtMost isoMaxDirSectors.toNat :=
    (isoFindFrom_atMost dir.lba (ascii want) wantDir _ 0).mono (walkedSectors_le dir)
  by_cases hlen : dir.len.toNat ≤ 2 ^ 32 - 2048
  · have hwalked : walkedSectors dir = declaredSectors dir := (walkedSectors_eq dir).trans (if_pos hlen)
    rw [hwalked] at hspec
    refine ⟨fun _ => .inl hlen, fun _ => ⟨?_, ?_, hbounds, hends⟩⟩
    · generalize (isoFindChild dir want wantDir).eval disc = r at hspec
      cases hspec with
      | found extent hfirst => exact ⟨fun _ => hfirst.hasChild, fun _ => rfl⟩
      | missed hnone => exact ⟨fun h => (by cases h), fun h => absurd h hnone⟩
    · intro extent hextent
      rw [hextent] at hspec
      cases hspec with
      | found _ hfirst => exact hfirst
  · -- the length overflows, and nothing is searched
    have hwalked : walkedSectors dir = 0 := (walkedSectors_eq dir).trans (if_neg hlen)
    have hdeclared := declaredSectors_of_gt hlen
    have hnone : (isoFindChild dir want wantDir).eval disc = none := by
      rw [hwalked] at hspec
      generalize (isoFindChild dir want wantDir).eval disc = r at hspec
      cases hspec with
      | found extent hfirst => exact absurd (hfirst.hasChild) not_hasChild_zero
      | missed _ => rfl
    constructor
    · intro hsearch
      right
      intro hchild
      have hsome := hsearch.found.mpr (hdeclared ▸ hchild)
      rw [hnone] at hsome
      cases hsome
    · rintro (hle | hmissed)
      · exact absurd hle hlen
      · refine ⟨?_, ?_, hbounds, hends⟩
        · rw [hnone, hdeclared]
          exact ⟨fun h => (by cases h), fun h => absurd h hmissed⟩
        · intro extent hextent
          rw [hnone] at hextent
          cases hextent

/-- A sector that begins with the record of a directory named VCD. -/
def vcdSector (i : Nat) : UInt8 :=
  match i with
  | 0 => 36
  | 25 => 0x02
  | 32 => 3
  | 33 => 0x56
  | 34 => 0x43
  | 35 => 0x44
  | _ => 0

/-- **A length of all ones finds nothing**, in a directory whose sectors all begin with the record. -/
theorem overflowing_length_finds_nothing :
    ¬ ChildSearch (fun _ => some vcdSector) ⟨16, 0xFFFFFFFF⟩ "VCD" true := by
  intro hsearch
  have hrecord : RecordAt vcdSector 0 := ⟨by decide, by decide⟩
  have hname : SameName (bytesAt vcdSector (0 + isoDrName) 3) (ascii "VCD") :=
    (isoNameMatches_iff _ _).mp (by decide +kernel)
  have hwanted : Wanted vcdSector (ascii "VCD") true 0 := ⟨hrecord, by decide, _, rfl, hname⟩
  have hchild : HasChild (fun _ => some vcdSector) 16 (declaredSectors ⟨16, 0xFFFFFFFF⟩) (ascii "VCD")
      true := ⟨0, by decide, fun _ _ => rfl, vcdSector, rfl, 0, .here, hwanted⟩
  have hsome := hsearch.found.mpr hchild
  have hnone : ((isoFindChild ⟨16, 0xFFFFFFFF⟩ "VCD" true).eval fun _ => some vcdSector).isSome = false := by
    decide +kernel
  rw [hnone] at hsome
  cases hsome

end Liblaser
