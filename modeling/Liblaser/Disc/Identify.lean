import Liblaser.Disc.Iso
import Liblaser.Disc.Udf

/-!
# `Disc.Identify` — `laser_disc_identify()`

What the medium is, from GET CONFIGURATION and READ TOC, and the public entry point: the two looks at
`not_ready` around `laser_token_settle()`, and then the probes, in an order that depends on the medium.
They share one `laser_disc_t`, which is zeroed at the start and never again.
-/

namespace Liblaser

open Bytes

variable {W : Type}

/-- What identification runs on besides `laser_scsi_cdb()`: `laser_token_settle()`, which may leave the entry
    in any state, and what is in memory where a buffer is declared and not filled. -/
structure DiscPort (W : Type) extends ScsiPort W where
  settle : Sys W → Sys W
  stack : Sys W → Nat → UInt8

/-- `laser_token_not_ready()`; 0 for a token without an entry. -/
def laserTokenNotReady (s : Sys W) : Bool := s.entry.inUse && s.entry.notReady

/-! ## `read_medium()` -/

/-- `medium_t`. -/
inductive Medium where
  | unknown
  | cd
  | dvd
  | bd
deriving DecidableEq, Repr

/-- GET CONFIGURATION, every feature, 32 bytes. -/
def getConfigurationCall : CdbCall where
  cdb := [0x46, 0x00, 0, 0, 0, 0, 0, 0, 32, 0]
  data := some []
  dataLen := 32
  dataIn := true
  wantActualLen := true
  dataLen_lt := by decide

/-- The family of a profile. -/
def mediumOfProfile (profile : Nat) : Medium :=
  if 0x0008 ≤ profile ∧ profile ≤ 0x000A then .cd
  else if 0x0010 ≤ profile ∧ profile ≤ 0x002F then .dvd
  else if 0x0040 ≤ profile ∧ profile ≤ 0x004F then .bd
  else .unknown

/-- `read_medium()`. -/
def readMedium (port : ScsiPort W) (s : Sys W) : Medium × Sys W :=
  let (r, s) := port.scsiCdb getConfigurationCall s
  let buf := storeAt (fun _ => 0) 0 r.data
  if r.status ≠ .ok ∨ r.actualLen.getD 0 < 8 then (.unknown, s)
  else (mediumOfProfile (beNat (bytesAt buf 6 2)), s)

/-! ## `read_cd_toc()` -/

/-- `cd_toc_t`. -/
inductive CdToc where
  | none
  | data
  | audio
deriving DecidableEq, Repr

/-- READ TOC, format 0, 128 bytes. -/
def readTocCall : CdbCall where
  cdb := [0x43, 0x00, 0x00, 0, 0, 0, 0x00, 0x00, 0x80, 0]
  data := some []
  dataLen := 128
  dataIn := true
  wantActualLen := true
  dataLen_lt := by decide

/-- The loop over the descriptors: the start of the first data track that is none of the lead-out. -/
def firstDataLba (toc : Nat → UInt8) : Nat → Nat → UInt32
  | 0, _ => 0
  | left + 1, i =>
      let d := 4 + i * 8
      if toc (d + 1) &&& 0x04 = 0 then firstDataLba toc left (i + 1)
      else if toc (d + 2) = 0xAA then firstDataLba toc left (i + 1)
      else UInt32.ofNat (beNat (bytesAt toc (d + 4) 4))

/-- What a TOC says of which so many bytes arrived. -/
def parseCdToc (toc : Nat → UInt8) (actualLen : Nat) : CdToc × UInt32 :=
  let tocDataLen := beNat (bytesAt toc 0 2)
  if tocDataLen + 2 < 4 + 8 then (.none, 0)
  else
    let avail := tocDataLen + 2
    let avail := if actualLen < avail then actualLen else avail
    let avail := if 128 < avail then 128 else avail
    let control := toc 5 &&& 0x0F
    (if control &&& 0x04 = 0 then .audio else .data, firstDataLba toc ((avail - 4) / 8) 0)

/-- `read_cd_toc()`, and `*first_data_lba`. -/
def readCdToc (port : ScsiPort W) (s : Sys W) : CdToc × UInt32 × Sys W :=
  let (r, s) := port.scsiCdb readTocCall s
  let toc := storeAt (fun _ => 0) 0 r.data
  if r.status ≠ .ok ∨ r.actualLen.getD 0 < 4 + 8 then (.none, 0, s)
  else
    let (kind, lba) := parseCdToc toc (r.actualLen.getD 0)
    (kind, lba, s)

/-! ## The probes -/

/-- `identify_udf()`. -/
def identifyUdf (port : DiscPort W) (lib : UdfRead) (out : LaserDisc) (s : Sys W) :
    Bool × LaserDisc × Sys W :=
  let ((found, volumeId), sbi) :=
    (detectUdfDisc lib out.volumeId).run (udfReadCb port.toScsiPort) ⟨false, s⟩
  match found with
  | .dvdVideo => (true, ⟨.dvdVideo, volumeId⟩, sbi.sys)
  | .dvdAudio => (true, ⟨.dvdAudio, volumeId⟩, sbi.sys)
  | .dvdUniversal => (true, ⟨.dvdUniversal, volumeId⟩, sbi.sys)
  | .bd => (true, ⟨.bdVideo, volumeId⟩, sbi.sys)
  | .none => (false, ⟨out.kind, volumeId⟩, sbi.sys)

/-- `identify_iso()`. -/
def identifyIso (port : DiscPort W) (trackLba : UInt32) (out : LaserDisc) (s : Sys W) :
    Bool × LaserDisc × Sys W :=
  let ((found, volumeId), s) :=
    (detectIsoVideo trackLba out.volumeId).run (isoReadSector port.toScsiPort port.stack) s
  match found with
  | .vcd => (true, ⟨.vcd, volumeId⟩, s)
  | .svcd => (true, ⟨.svcd, volumeId⟩, s)
  | .none => (false, ⟨out.kind, volumeId⟩, s)

/-- The probes of `laser_disc_identify()` from the UDF mount on. -/
def identifyFromUdf (port : DiscPort W) (lib : UdfRead) (medium : Medium) (toc : CdToc)
    (trackLba : UInt32) (out : LaserDisc) (s : Sys W) : LaserDisc × Sys W :=
  let (found, out, s) := identifyUdf port lib out s
  if found then (out, s)
  else if medium = .unknown ∧ toc = .data then (identifyIso port trackLba out s).2
  else (out, s)

/-- All its probes, on a disc that is no audio CD. -/
def identifyVideo (port : DiscPort W) (lib : UdfRead) (medium : Medium) (toc : CdToc) (trackLba : UInt32)
    (out : LaserDisc) (s : Sys W) : LaserDisc × Sys W :=
  -- on a known CD the ISO9660 walk comes first
  if medium = .cd ∧ toc = .data then
    let (found, out, s) := identifyIso port trackLba out s
    if found then (out, s) else identifyFromUdf port lib medium toc trackLba out s
  else identifyFromUdf port lib medium toc trackLba out s

/-- `laser_disc_identify()`. -/
def laserDiscIdentify (port : DiscPort W) (lib : UdfRead) (out : LaserDisc) (s : Sys W) :
    LaserDisc × Sys W :=
  let out := out.zeroed
  let s := port.otherThreads s
  if laserTokenNotReady s then (out, s)
  else
    let s := port.otherThreads (port.settle s)
    if laserTokenNotReady s then (out, s)
    else
      let (medium, s) := readMedium port.toScsiPort s
      if medium = .cd ∨ medium = .unknown then
        let (toc, trackLba, s) := readCdToc port.toScsiPort s
        if toc = .audio then ({ out with kind := .cdAudio }, s)
        else identifyVideo port lib medium toc trackLba out s
      else identifyVideo port lib medium .none 0 out s

end Liblaser
