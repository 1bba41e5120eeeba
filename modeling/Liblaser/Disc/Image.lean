import Liblaser.Disc.Sectors

/-!
# `Disc.Image` — a volume as it is mastered

The other side of the walk: what a mastering program writes. A directory is a row of sectors, each with whole
records and zeros after them (`DirSector`); a record is laid out by `DirEntry.record`, the Primary Volume
Descriptor by `Volume.pvd`. Nothing of this is in the library, which only reads.

**`Mastered.find`**: in a mastered directory, `iso_find_child()` finds the first entry of that name and kind
in the first four sectors, and reads back the extent that was written. With it, what `detect_iso_video()`
comes to is a matter of the volume alone: **`volume_detected`**.
-/

namespace Liblaser

open Bytes

/-! ## A record -/

/-- An entry of a directory. -/
structure DirEntry where
  name : List UInt8
  isDir : Bool
  extent : Extent
  named : name ≠ []
  short : name.length ≤ 221

namespace DirEntry

/-- The length of its record, which is even. -/
def size (e : DirEntry) : Nat := isoDrName + e.name.length + (e.name.length + 1) % 2

/-- Its record: the numbers in both byte orders, a date of zeros, and a byte of padding after an even name. -/
def record (e : DirEntry) : List UInt8 :=
  UInt8.ofNat e.size :: 0 ::
    (leBytes 4 e.extent.lba.toNat ++ beBytes 4 e.extent.lba.toNat
      ++ leBytes 4 e.extent.len.toNat ++ beBytes 4 e.extent.len.toNat
      ++ List.replicate 7 0 ++ [if e.isDir then 0x02 else 0x00, 0, 0, 1, 0, 0, 1, UInt8.ofNat e.name.length]
      ++ e.name ++ List.replicate ((e.name.length + 1) % 2) 0)

/-- It is what the search is for. -/
def isWanted (e : DirEntry) (want : List UInt8) (wantDir : Bool) : Bool :=
  e.isDir == wantDir && isoNameMatches e.name want

theorem size_lt (e : DirEntry) : e.size < 256 := by
  have hshort := e.short
  unfold size isoDrName
  omega

theorem le_size (e : DirEntry) : isoDrName + e.name.length ≤ e.size := by
  unfold size
  omega

@[simp] theorem length_record (e : DirEntry) : e.record.length = e.size := by
  simp [record, size, isoDrName]
  omega

end DirEntry

/-! ## Reading it back -/

section Record

variable {sector : Nat → UInt8} {off : Nat} {e : DirEntry} {want : List UInt8} {wantDir : Bool}

/-- A little-endian number is read back. -/
theorem isoLe32_of_holdsAt {n : UInt32} (h : HoldsAt sector off (leBytes 4 n.toNat)) :
    isoLe32 sector off = n := by
  apply UInt32.toNat_inj.mp
  unfold HoldsAt at h
  rw [length_leBytes] at h
  rw [isoLe32_toNat, h, leNat_leBytes_of_lt n.toNat_lt]

/-- The fields of a record, as the walk reads them. -/
structure DirEntry.ReadBack (sector : Nat → UInt8) (off : Nat) (e : DirEntry) : Prop where
  recLen : (sector off).toNat = e.size
  extent : isoExtent sector off = e.extent
  isDir : (sector (off + 25) &&& 0x02 != 0) = e.isDir
  nameLen : (sector (off + 32)).toNat = e.name.length
  name : bytesAt sector (off + isoDrName) e.name.length = e.name

theorem DirEntry.readBack (h : HoldsAt sector off e.record) : e.ReadBack sector off := by
  have hsize := e.size_lt
  have hshort := e.short
  simp only [record, holdsAt_append, holdsAt_cons, List.length_append, length_leBytes, length_beBytes,
    List.length_replicate, List.length_cons, List.length_nil, Nat.add_assoc, Nat.reduceAdd] at h
  obtain ⟨hrecLen, -, ⟨⟨⟨⟨⟨⟨⟨hlba, -⟩, hlen⟩, -⟩, -⟩, hflags, -, -, -, -, -, -, hnameLen, -⟩, hname⟩, -⟩⟩ := h
  refine ⟨?_, ?_, ?_, ?_, hname⟩
  · rw [hrecLen, UInt8.toNat_ofNat', Nat.mod_eq_of_lt hsize]
  · unfold isoExtent
    rw [isoLe32_of_holdsAt hlba, isoLe32_of_holdsAt hlen]
  · rw [hflags]
    cases e.isDir <;> rfl
  · rw [hnameLen, UInt8.toNat_ofNat', Nat.mod_eq_of_lt (by omega)]

/-- **One record of the scan**: it is the one, or the scan goes on after it. -/
theorem isoScanSector_record (h : HoldsAt sector off e.record) (hfit : off + e.size ≤ isoSectorSize) :
    isoScanSector sector want wantDir off = if e.isWanted want wantDir then some e.extent
      else isoScanSector sector want wantDir (off + e.size) := by
  obtain ⟨hrecLen, hextent, hisDir, hnameLen, hname⟩ := DirEntry.readBack h
  have hle := e.le_size
  have hnamed := List.length_pos_iff.mpr e.named
  have hdr : 0 < isoDrName := by decide
  rw [isoScanSector]
  dsimp only
  rw [if_pos (by omega), hrecLen, if_neg (by omega), if_neg (by omega), hnameLen, if_neg (by omega), hisDir,
    hname, hextent]
  rfl

end Record

/-! ## A sector of a directory -/

/-- Whole records, as many as fit. -/
structure DirSector where
  entries : List DirEntry
  fits : (entries.flatMap DirEntry.record).length ≤ isoSectorSize

/-- The sector: the records, and zeros after them. -/
def DirSector.bytes (d : DirSector) : Nat → UInt8 := bufferOf (d.entries.flatMap DirEntry.record)

/-- The scan of records one after another, up to the end of the sector or to a zero. -/
theorem isoScanSector_records {sector : Nat → UInt8} {want : List UInt8} {wantDir : Bool}
    {entries : List DirEntry} {off : Nat} (hholds : HoldsAt sector off (entries.flatMap DirEntry.record))
    (hfit : off + (entries.flatMap DirEntry.record).length ≤ isoSectorSize)
    (hend : off + (entries.flatMap DirEntry.record).length < isoSectorSize →
      sector (off + (entries.flatMap DirEntry.record).length) = 0) :
    isoScanSector sector want wantDir off
      = (entries.find? fun e => e.isWanted want wantDir).map DirEntry.extent := by
  induction entries generalizing off with
  | nil =>
      rw [isoScanSector]
      split
      · next hlt =>
          have hzero : sector off = 0 := hend hlt
          simp [hzero]
      · rfl
  | cons e entries ih =>
      simp only [List.flatMap_cons, holdsAt_append, List.length_append, DirEntry.length_record,
        ← Nat.add_assoc] at hholds hfit hend
      have hrest := ih hholds.2 hfit hend
      rw [isoScanSector_record hholds.1 (by omega), hrest, List.find?_cons]
      cases e.isWanted want wantDir <;> rfl

/-- **A mastered sector is searched entry by entry.** -/
theorem DirSector.scan {d : DirSector} {sector : Nat → UInt8} (hsame : SameSector sector d.bytes)
    (want : List UInt8) (wantDir : Bool) :
    isoScanSector sector want wantDir 0
      = (d.entries.find? fun e => e.isWanted want wantDir).map DirEntry.extent := by
  rw [hsame.isoScanSector]
  refine isoScanSector_records (holdsAt_bufferOf _) ?_ fun _ => bufferOf_of_le (by omega)
  rw [Nat.zero_add]
  exact d.fits

/-! ## A directory -/

/-- The entries that are looked at: those of the first four sectors. -/
def visible (sectors : List DirSector) : List DirEntry :=
  (sectors.take isoMaxDirSectors.toNat).flatMap DirSector.entries

/-- The first entry of that name and kind, of those that are looked at. -/
def lookup (sectors : List DirSector) (want : String) (wantDir : Bool) : Option Extent :=
  ((visible sectors).find? fun e => e.isWanted (ascii want) wantDir).map DirEntry.extent

/-- The sectors of the directory are on the disc, and its length says so. -/
structure Mastered (disc : IsoDisc) (dir : Extent) (sectors : List DirSector) : Prop where
  len : dir.len.toNat = isoSectorSize * sectors.length
  there : ∀ i (hi : i < sectors.length), ∃ sector, disc (dir.lba + UInt32.ofNat i) = some sector
    ∧ SameSector sector sectors[i].bytes

section Mastered

variable {disc : IsoDisc} {dir : Extent} {sectors : List DirSector}

/-- The sectors that are walked are those there are, up to four. -/
theorem Mastered.walked (h : Mastered disc dir sectors) :
    walkedSectors dir = min isoMaxDirSectors.toNat sectors.length := by
  have hlen := h.len
  have hlt := dir.len.toNat_lt
  have hmax : isoMaxDirSectors.toNat = 4 := rfl
  unfold isoSectorSize at hlen
  rw [walkedSectors_eq, if_pos (by omega)]
  unfold declaredSectors isoSectorSize
  omega

theorem Mastered.find_from (h : Mastered disc dir sectors) (want : List UInt8) (wantDir : Bool)
    (left i : Nat) (hle : i + left ≤ sectors.length) :
    (isoFindFrom dir.lba want wantDir left i).eval disc
      = ((((sectors.drop i).take left).flatMap DirSector.entries).find? fun e => e.isWanted want wantDir).map
        DirEntry.extent := by
  induction left generalizing i with
  | zero => simp [isoFindFrom]
  | succ left ih =>
      have hi : i < sectors.length := by omega
      obtain ⟨sector, hsector, hsame⟩ := h.there i hi
      have hrest := ih (i + 1) (by omega)
      unfold isoFindFrom
      rw [Dialog.eval_bind, Dialog.eval_query, hsector]
      dsimp only
      rw [DirSector.scan hsame, List.drop_eq_getElem_cons hi, List.take_succ_cons, List.flatMap_cons,
        List.find?_append]
      cases hfound : sectors[i].entries.find? fun e => e.isWanted want wantDir with
      | some e => rfl
      | none => exact hrest

/-- **A mastered directory is searched as it was written.** -/
theorem Mastered.find (h : Mastered disc dir sectors) (want : String) (wantDir : Bool) :
    (isoFindChild dir want wantDir).eval disc = lookup sectors want wantDir := by
  have hwalked := h.walked
  have hfound := h.find_from (ascii want) wantDir (walkedSectors dir) 0 (by omega)
  rw [List.drop_zero, hwalked] at hfound
  have htake : sectors.take (min isoMaxDirSectors.toNat sectors.length)
      = sectors.take isoMaxDirSectors.toNat := by
    rw [← List.take_take, List.take_length]
  rw [htake] at hfound
  rw [← hwalked] at hfound
  exact hfound

end Mastered

/-- What is found is an entry that is looked at, of that kind. -/
theorem lookup_some {sectors : List DirSector} {want : String} {wantDir : Bool} {extent : Extent}
    (h : lookup sectors want wantDir = some extent) :
    ∃ e ∈ visible sectors, e.isDir = wantDir ∧ e.extent = extent := by
  obtain ⟨e, hfound, hextent⟩ := Option.map_eq_some_iff.mp h
  have hwanted := List.find?_some hfound
  unfold DirEntry.isWanted at hwanted
  simp only [Bool.and_eq_true, beq_iff_eq] at hwanted
  exact ⟨e, List.mem_of_find?_eq_some hfound, hwanted.1, hextent⟩

/-! ## A volume -/

/-- A volume: its label, where its root directory is, the sectors of each directory, and what each file
    begins with. -/
structure Volume where
  label : List UInt8
  root : Extent
  sectors : Extent → List DirSector
  file : Extent → Nat → UInt8
  printable : ∀ b ∈ label, 0x20 ≤ b ∧ b ≤ 0x7E
  trimmed : ∀ h : label ≠ [], label.getLast h ≠ 0x20
  fits : label.length ≤ 32

namespace Volume

variable (v : Volume)

/-- The record of the root directory, whose name is a zero. -/
def rootEntry : DirEntry := ⟨[0], true, v.root, by simp, by simp⟩

/-- The Primary Volume Descriptor: the system identifier is blank, and the label is padded with blanks. -/
def pvd : List UInt8 :=
  1 :: (ascii "CD001" ++ [1, 0] ++ List.replicate 32 0x20
    ++ (v.label ++ List.replicate (32 - v.label.length) 0x20) ++ List.replicate 84 0 ++ v.rootEntry.record)

/-- A video directory with its info file: both are looked at, and the file begins with the signature. -/
def HasInfo (probe : IsoProbe) : Prop :=
  ∃ dir info, lookup (v.sectors v.root) probe.dir true = some dir
    ∧ lookup (v.sectors dir) probe.info false = some info ∧ 8 ≤ info.len.toNat
    ∧ bytesAt (v.file info) 0 8 = ascii probe.magic

/-- The volume is on the disc: its descriptor, the directories that can be looked at, and the first sector
    of the files in them. -/
structure OnDisc (disc : IsoDisc) (base : UInt32) : Prop where
  descriptor : ∃ sector, disc (base + isoPvdLba) = some sector ∧ SameSector sector (bufferOf v.pvd)
  root : Mastered disc v.root (v.sectors v.root)
  dirs : ∀ e ∈ visible (v.sectors v.root), e.isDir = true → Mastered disc e.extent (v.sectors e.extent)
  files : ∀ e ∈ visible (v.sectors v.root), e.isDir = true →
    ∀ f ∈ visible (v.sectors e.extent), f.isDir = false →
    ∃ sector, disc f.extent.lba = some sector ∧ SameSector sector (v.file f.extent)

variable {v}

/-- The padding is taken off the label again. -/
theorem rdropWhile_label (n : Nat) : (v.label ++ List.replicate n 0x20).rdropWhile isPadding = v.label := by
  induction n with
  | zero =>
      rw [List.replicate_zero, List.append_nil, List.rdropWhile_eq_self_iff]
      intro hne hpadding
      have hlast := v.trimmed hne
      have hprintable := (v.printable _ (List.getLast_mem hne)).1
      unfold isPadding at hpadding
      simp only [Bool.or_eq_true, beq_iff_eq] at hpadding
      rcases hpadding with hblank | hzero
      · exact hlast hblank
      · rw [hzero] at hprintable
        exact absurd hprintable (by decide)
  | succ n ih => rw [List.replicate_succ', ← List.append_assoc, List.rdropWhile_concat_pos _ _ _ rfl, ih]

/-- The descriptor, as the probe reads it. -/
structure ReadBack (v : Volume) (sector : Nat → UInt8) : Prop where
  type : sector 0 = 1
  identifier : bytesAt sector 1 5 = ascii "CD001"
  root : isoExtent sector 156 = v.root
  label : isoVolumeLabel sector = v.label

/-- **The descriptor is read back.** -/
theorem readBack {sector : Nat → UInt8} (hsame : SameSector sector (bufferOf v.pvd)) : v.ReadBack sector := by
  have hidentifier : (ascii "CD001").length = 5 := by decide +kernel
  have hpadded : (v.label ++ List.replicate (32 - v.label.length) (0x20 : UInt8)).length = 32 := by
    have hfits := v.fits
    simp
    omega
  have hunpadded := @rdropWhile_label v (32 - v.label.length)
  have hlen : v.pvd.length ≤ isoSectorSize := by
    have hroot := v.rootEntry.size_lt
    simp only [pvd, List.length_cons, List.length_append, hidentifier, hpadded, List.length_replicate,
      DirEntry.length_record, List.length_nil]
    unfold isoSectorSize
    omega
  have hholds := hsame.holdsAt (by omega) (holdsAt_bufferOf v.pvd)
  unfold pvd at hholds
  generalize v.label ++ List.replicate (32 - v.label.length) (0x20 : UInt8) = padded
    at hholds hpadded hunpadded
  simp only [holdsAt_cons, holdsAt_append, hidentifier, hpadded, List.length_append, List.length_cons,
    List.length_nil, List.length_replicate, Nat.zero_add, Nat.reduceAdd] at hholds
  obtain ⟨htype, ⟨⟨⟨⟨hid, -⟩, -⟩, hlabel⟩, -⟩, hroot⟩ := hholds
  unfold HoldsAt at hid hlabel
  rw [hidentifier] at hid
  rw [hpadded] at hlabel
  refine ⟨htype, hid, (DirEntry.readBack hroot).extent, ?_⟩
  have hprintable : (v.label.all fun b => decide (0x20 ≤ b ∧ b ≤ 0x7E)) = true := by
    rw [List.all_eq_true]
    intro b hb
    exact decide_eq_true (v.printable b hb)
  unfold isoVolumeLabel
  dsimp only
  rw [hlabel, hunpadded, if_pos hprintable]

/-- A mastered volume has a video directory with its info file where it was written. -/
theorem OnDisc.hasVideo_iff {disc : IsoDisc} {base : UInt32} (h : v.OnDisc disc base) (probe : IsoProbe) :
    HasVideo disc base probe ↔ v.HasInfo probe := by
  obtain ⟨pvd, hsector, hsame⟩ := h.descriptor
  obtain ⟨htype, hidentifier, hroot, -⟩ := readBack hsame
  have hpvd : HasPvd disc base pvd := ⟨hsector, htype, hidentifier⟩
  rw [Liblaser.hasVideo_iff hpvd, hroot]
  unfold ProbeHits
  simp only [h.root.find]
  constructor
  · rintro ⟨-, dir, info, sector, hdir, hinfo, hlong, hread, hmagic⟩
    obtain ⟨e, hmem, hisDir, rfl⟩ := lookup_some hdir
    rw [(h.dirs e hmem hisDir).find] at hinfo
    obtain ⟨f, hfile, hisFile, rfl⟩ := lookup_some hinfo
    obtain ⟨sector', hread', hsame'⟩ := h.files e hmem hisDir f hfile hisFile
    obtain rfl : sector = sector' := Option.some.inj (hread.symm.trans hread')
    rw [hsame'.bytesAt (by decide)] at hmagic
    exact ⟨_, _, hdir, hinfo, hlong, hmagic⟩
  · rintro ⟨dir, info, hdir, hinfo, hlong, hmagic⟩
    have hsome : v.root.len ≠ 0 := by
      intro hzero
      have hlen := h.root.len
      rw [hzero] at hlen
      have hempty : v.sectors v.root = [] := by
        apply List.length_eq_zero_iff.mp
        unfold isoSectorSize at hlen
        simp only [UInt32.toNat_zero] at hlen
        omega
      rw [hempty] at hdir
      cases hdir
    obtain ⟨e, hmem, hisDir, rfl⟩ := lookup_some hdir
    obtain ⟨f, hfile, hisFile, hextent⟩ := lookup_some hinfo
    obtain ⟨sector, hread, hsame'⟩ := h.files e hmem hisDir f hfile hisFile
    rw [hextent] at hread hsame'
    refine ⟨hsome, _, info, sector, hdir, ?_, hlong, hread, ?_⟩
    · rw [(h.dirs e hmem hisDir).find, hinfo]
    · rw [hsame'.bytesAt (by decide), hmagic]

end Volume

/-- A directory of one sector. -/
theorem Mastered.one {disc : IsoDisc} {lba : UInt32} {d : DirSector} {sector : Nat → UInt8}
    (hsector : disc lba = some sector) (hsame : SameSector sector d.bytes) :
    Mastered disc ⟨lba, 2048⟩ [d] := by
  refine ⟨rfl, ?_⟩
  intro i hi
  obtain rfl : i = 0 := by simpa using hi
  exact ⟨sector, hsector ▸ congrArg disc (UInt32.add_zero lba), hsame⟩

theorem visible_one (d : DirSector) : visible [d] = d.entries := List.append_nil _

/-- An entry in one sector. -/
def sectorEntry (name : String) (isDir : Bool) (lba : UInt32) (hnamed : ascii name ≠ [])
    (hshort : (ascii name).length ≤ 221) : DirEntry := ⟨ascii name, isDir, ⟨lba, 2048⟩, hnamed, hshort⟩

/-- The root directory: CDI, which no probe is for, and VCD. -/
def videoCdRoot : DirSector where
  entries := [sectorEntry "CDI" true 23 (by decide +kernel) (by decide +kernel),
    sectorEntry "VCD" true 21 (by decide +kernel) (by decide +kernel)]
  fits := by decide +kernel

/-- The directory of the info file. -/
def videoCdInfo : DirSector where
  entries := [sectorEntry "ENTRIES.VCD;1" false 24 (by decide +kernel) (by decide +kernel),
    sectorEntry "INFO.VCD;1" false 22 (by decide +kernel) (by decide +kernel)]
  fits := by decide +kernel

/-- A Video CD. -/
def videoCd : Volume where
  label := ascii "HOLIDAYS"
  root := ⟨20, 2048⟩
  sectors extent := if extent = ⟨20, 2048⟩ then [videoCdRoot]
    else if extent = ⟨21, 2048⟩ then [videoCdInfo] else [⟨[], by decide⟩]
  file extent := if extent = ⟨22, 2048⟩ then bufferOf (ascii "VIDEO_CD") else fun _ => 0
  printable := by decide +kernel
  trimmed := by decide +kernel
  fits := by decide +kernel

/-- The drive it is in. -/
def videoCdDrive : Drive where
  capacity := 100
  capacity_lt := by decide
  byte _ block := if block = 16 then bufferOf videoCd.pvd else if block = 20 then videoCdRoot.bytes
    else if block = 21 then videoCdInfo.bytes else if block = 22 then bufferOf (ascii "VIDEO_CD")
    else fun _ => 0

theorem videoCd_onDisc : videoCd.OnDisc videoCdDrive.isoDisc 0 where
  descriptor := ⟨_, rfl, fun _ _ => rfl⟩
  root := .one rfl fun _ _ => rfl
  dirs := by
    show ∀ e ∈ visible [videoCdRoot], _
    rw [visible_one]
    intro e he _
    rcases List.mem_pair.mp he with rfl | rfl
    · exact .one rfl fun _ _ => rfl
    · exact .one rfl fun _ _ => rfl
  files := by
    show ∀ e ∈ visible [videoCdRoot], _
    rw [visible_one]
    intro e he _
    rcases List.mem_pair.mp he with rfl | rfl
    · show ∀ f ∈ visible [⟨[], _⟩], _
      rw [visible_one]
      intro f hf
      cases hf
    · show ∀ f ∈ visible [videoCdInfo], _
      rw [visible_one]
      intro f hf _
      rcases List.mem_pair.mp hf with rfl | rfl <;> exact ⟨_, rfl, fun _ _ => rfl⟩

theorem videoCd_hasInfo : videoCd.HasInfo vcdProbe :=
  ⟨⟨21, 2048⟩, ⟨22, 2048⟩, by decide +kernel, by decide +kernel, by decide, by decide +kernel⟩

end Liblaser
