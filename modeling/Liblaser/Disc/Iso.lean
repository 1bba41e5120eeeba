import Liblaser.Blocks.Contract
import Liblaser.Disc.Label
import Liblaser.Lib.Dialog

/-!
# `Disc.Iso` — Video CD and Super Video CD detection

`detect_iso_video()`, the walk of the root directory and of one below it. What it asks of the drive is one
sector at a time, so it is a `Dialog` that asks for sectors; `isoReadSector` answers it by
`laser_read_blocks()`. A sector is the memory its buffer is in.

**`detectIsoVideo_found`**: whatever the sectors hold, either no Video CD was recognised and the label is
as it was, or one was written and is printable ASCII.
-/

namespace Liblaser

open Bytes Utf8

variable {W : Type}

/-! ## Sectors -/

/-- A probe that reads sectors; `none` is one that could not be read. -/
abbrev IsoProgram (α : Type) := Dialog UInt32 (Option (Nat → UInt8)) α

/-- `iso_read_sector()`, into a buffer that holds `stack`. -/
def isoReadSector (port : ScsiPort W) (stack : Sys W → Nat → UInt8) (lba : UInt32) (s : Sys W) :
    Option (Nat → UInt8) × Sys W :=
  let r := readChunkedToEnd port .read10 lba 1 (stack s) s
  (if r.ret = 1 then some r.memory else none, r.sys)

/-- `ISO_SECTOR_SIZE`. -/
def isoSectorSize : Nat := 2048

/-- `ISO_PVD_LBA`. -/
def isoPvdLba : UInt32 := 16

/-- `ISO_MAX_DIR_SECTORS`. -/
def isoMaxDirSectors : UInt32 := 4

/-- `ISO_DR_NAME`, the length of the fixed part of a directory record. -/
def isoDrName : Nat := 33

/-- `iso_le32()`. -/
def isoLe32 (p : Nat → UInt8) (off : Nat) : UInt32 :=
  (p off).toUInt32 ||| (p (off + 1)).toUInt32 <<< 8 ||| (p (off + 2)).toUInt32 <<< 16
    ||| (p (off + 3)).toUInt32 <<< 24

/-! ## Directories -/

/-- The letter in upper case. -/
def isoUpper (b : UInt8) : UInt8 := if 0x61 ≤ b ∧ b ≤ 0x7A then b - 0x20 else b

/-- `iso_name_matches()`. -/
def isoNameMatches (name want : List UInt8) : Bool :=
  -- the name ends at its ';'
  let name := name.takeWhile (· != 0x3B)
  name.length == want.length && (name.zip want).all fun (a, b) => isoUpper a == isoUpper b

/-- Where a file or a directory is: `*out_lba` and `*out_len`. -/
structure Extent where
  lba : UInt32
  len : UInt32
deriving DecidableEq, Repr

/-- `ISO_DR_EXTENT_LE` and `ISO_DR_DATA_LEN_LE` of the record at `off`. -/
def isoExtent (sector : Nat → UInt8) (off : Nat) : Extent :=
  ⟨isoLe32 sector (off + 2), isoLe32 sector (off + 10)⟩

/-- The inner loop of `iso_find_child()`: the records of one sector, from offset `off` on. -/
def isoScanSector (sector : Nat → UInt8) (want : List UInt8) (wantDir : Bool) (off : Nat) :
    Option Extent :=
  if off < isoSectorSize then
    let recLen := (sector off).toNat
    if recLen = 0 then none
    else if recLen < isoDrName ∨ isoSectorSize < off + recLen then none
    else
      let nameLen := (sector (off + 32)).toNat
      if nameLen = 0 ∨ recLen < isoDrName + nameLen then isoScanSector sector want wantDir (off + recLen)
      else
        let isDir := sector (off + 25) &&& 0x02 != 0
        if isDir == wantDir && isoNameMatches (bytesAt sector (off + isoDrName) nameLen) want then
          some (isoExtent sector off)
        else isoScanSector sector want wantDir (off + recLen)
  else none
termination_by isoSectorSize - off

/-- The outer loop: `left` sectors of the directory at `dirLba`, from number `i` on. -/
def isoFindFrom (dirLba : UInt32) (want : List UInt8) (wantDir : Bool) :
    Nat → Nat → IsoProgram (Option Extent)
  | 0, _ => pure none
  | left + 1, i => do
    match ← Dialog.query (dirLba + UInt32.ofNat i) with
    | none => pure none
    | some sector =>
        match isoScanSector sector want wantDir 0 with
        | some extent => pure (some extent)
        | none => isoFindFrom dirLba want wantDir left (i + 1)

/-- `iso_find_child()`. -/
def isoFindChild (dir : Extent) (want : String) (wantDir : Bool) : IsoProgram (Option Extent) :=
  let sectors := (dir.len + 2048 - 1) / 2048
  let sectors := if isoMaxDirSectors < sectors then isoMaxDirSectors else sectors
  isoFindFrom dir.lba (ascii want) wantDir sectors.toNat 0

/-- `iso_info_magic_is()`. -/
def isoInfoMagicIs (lba : UInt32) (magic : String) : IsoProgram Bool := do
  match ← Dialog.query lba with
  | none => pure false
  | some sector => pure (bytesAt sector 0 8 == ascii magic)

/-! ## `detect_iso_video()` -/

/-- `iso_video_t`. -/
inductive IsoVideo where
  | none
  | vcd
  | svcd
deriving DecidableEq, Repr

/-- An entry of `probes`. -/
structure IsoProbe where
  dir : String
  info : String
  magic : String
  kind : IsoVideo

/-- `probes`. -/
def isoProbes : List IsoProbe :=
  [⟨"VCD", "INFO.VCD", "VIDEO_CD", .vcd⟩, ⟨"SVCD", "INFO.SVD", "SUPERVCD", .svcd⟩]

/-- One turn of the loop over `probes`. -/
def isoProbe (root : Extent) (probe : IsoProbe) : IsoProgram Bool := do
  match ← isoFindChild root probe.dir true with
  | none => pure false
  | some dir =>
      match ← isoFindChild dir probe.info false with
      | none => pure false
      | some info => if info.len < 8 then pure false else isoInfoMagicIs info.lba probe.magic

/-- The loop over `probes`: the kind of the first that hits. -/
def isoFirstProbe (root : Extent) : List IsoProbe → IsoProgram IsoVideo
  | [] => pure .none
  | probe :: probes => do
    if ← isoProbe root probe then pure probe.kind else isoFirstProbe root probes

/-- `detect_iso_video()`, and memory from `volume_id` on. -/
def detectIsoVideo (base : UInt32) (volumeId : Nat → UInt8) :
    IsoProgram (IsoVideo × (Nat → UInt8)) := do
  match ← Dialog.query (base + isoPvdLba) with
  | none => pure (.none, volumeId)
  | some pvd =>
      if pvd 0 ≠ 1 ∨ bytesAt pvd 1 5 ≠ ascii "CD001" then pure (.none, volumeId)
      else
        -- the root directory record is at offset 156
        let root := isoExtent pvd 156
        if root.len = 0 then pure (.none, volumeId)
        else
          let kind ← isoFirstProbe root isoProbes
          if kind = .none then pure (.none, volumeId)
          else pure (kind, isoStoreVolumeId volumeId fun i => pvd (40 + i))

/-! ## What it leaves -/

/-- **The ISO9660 detector** writes a label only when it recognises something, and then a trimmed one. -/
theorem detectIsoVideo_found (base : UInt32) (dst : Nat → UInt8) :
    (detectIsoVideo base dst).All fun r => Found (r.1 ≠ .none) TrimmedAscii dst r.2 := by
  have hmissed : Found (IsoVideo.none ≠ .none) TrimmedAscii dst dst := .missed (not_not_intro rfl) rfl
  unfold detectIsoVideo
  rw [Dialog.all_bind, Dialog.all_query]
  intro sector
  cases sector with
  | none => exact hmissed
  | some pvd =>
      dsimp only
      split
      · exact hmissed
      split
      · exact hmissed
      rw [Dialog.all_bind]
      apply Dialog.all_of_forall
      intro kind
      split
      next => exact hmissed
      next hkind => exact .found hkind (isoStoreVolumeId_labelled dst _)

end Liblaser
