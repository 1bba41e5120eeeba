import Liblaser.Blocks.Contract
import Liblaser.Disc.Label
import Liblaser.Lib.Dialog

/-!
# `Disc.Udf` — DVD and BD-Video detection

`detect_udf_disc()` over `libudfread`, which is not in the repository. All that can be said of the library
is how it is called and that it reaches the drive by `udf_read_cb()` alone, so it is a parameter: each of
its functions is a `Dialog`, a program that asks for blocks until it returns. `UdfRead.Utf8VolumeIds` is
the one thing the code relies on besides.

**`detectUdfDisc_found`**: whatever the library does, either nothing was recognised and the label is as it
was, or one was written and is UTF-8.
-/

namespace Liblaser

open Bytes Utf8

variable {W : Type}

/-! ## `udf_read_cb()` -/

/-- What the library passes to `read`: the blocks, and memory from its buffer on. -/
structure BlockRequest where
  lba : UInt32
  nblocks : UInt32
  memory : Nat → UInt8

/-- What it gets: the value returned, and memory. -/
structure BlockAnswer where
  ret : Int
  memory : Nat → UInt8

/-- `struct scsi_block_input`, and what the token stands for. -/
structure ScsiBlockInput (W : Type) where
  gone : Bool
  sys : Sys W

/-- `udf_read_cb()`. -/
def udfReadCb (port : ScsiPort W) (req : BlockRequest) (sbi : ScsiBlockInput W) :
    BlockAnswer × ScsiBlockInput W :=
  if sbi.gone then (⟨-1, req.memory⟩, sbi)
  else
    let nblocks := cInt req.nblocks.toNat
    let r := readChunkedToEnd port .read10 req.lba nblocks req.memory sbi.sys
    let gone := r.ret == LaserStatus.errMediaGone.code || r.ret == LaserStatus.errNoDevice.code
    -- a short read is a failure
    (⟨if r.ret ≠ nblocks then -1 else r.ret, r.memory⟩, ⟨gone, r.sys⟩)

/-! ## `libudfread` -/

/-- A function of the library. -/
abbrev UdfProgram (α : Type) := Dialog BlockRequest BlockAnswer α

/-- The library as `disc.c` calls it. A handle carries all that the library remembers; `fileRead` returns
    the bytes read and what the buffer then holds. `udf_size_cb()` answers 0 always, so asking it tells the
    library nothing. -/
structure UdfRead where
  Handle : Type
  File : Type
  init : Option Handle
  openInput : Handle → UdfProgram (Int × Handle)
  fileOpen : Handle → String → UdfProgram (Option File × Handle)
  fileRead : Handle → File → Nat → UdfProgram (Int × (Nat → UInt8) × Handle)
  fileClose : Handle → File → UdfProgram Handle
  getVolumeId : Handle → UdfProgram (Option CString × Handle)
  close : Handle → UdfProgram Unit

/-- A volume id is UTF-8, when there is one. -/
def UdfRead.Utf8VolumeIds (lib : UdfRead) : Prop :=
  ∀ udf, (lib.getVolumeId udf).All fun r => ∀ id, r.1 = some id → IsUtf8 id.bytes

/-! ## `detect_udf_disc()` -/

/-- `udf_disc_t`. -/
inductive UdfDisc where
  | none
  | dvdVideo
  | dvdAudio
  | dvdUniversal
  | bd
deriving DecidableEq, Repr

/-- `UDF_ZONE_MAGIC_LEN`. -/
def udfZoneMagicLen : Nat := 12

/-- `udf_zone_present()`. -/
def udfZonePresent (lib : UdfRead) (udf : lib.Handle) (path magic : String) :
    UdfProgram (Bool × lib.Handle) := do
  match ← lib.fileOpen udf path with
  | (none, udf) => pure (false, udf)
  | (some f, udf) =>
      let (got, buf, udf) ← lib.fileRead udf f udfZoneMagicLen
      let udf ← lib.fileClose udf f
      pure (got == udfZoneMagicLen && bytesAt buf 0 udfZoneMagicLen == ascii magic, udf)

def udfVideoZone (lib : UdfRead) (udf : lib.Handle) : UdfProgram (Bool × lib.Handle) :=
  udfZonePresent lib udf "/VIDEO_TS/VIDEO_TS.IFO" "DVDVIDEO-VMG"

def udfAudioZone (lib : UdfRead) (udf : lib.Handle) : UdfProgram (Bool × lib.Handle) :=
  udfZonePresent lib udf "/AUDIO_TS/AUDIO_TS.IFO" "DVDAUDIO-AMG"

/-- The probes of a volume that opened. -/
def udfProbe (lib : UdfRead) (udf : lib.Handle) : UdfProgram (UdfDisc × lib.Handle) := do
  let (hasVideo, udf) ← udfVideoZone lib udf
  if hasVideo then
    let (hasAudio, udf) ← udfAudioZone lib udf
    pure (if hasAudio then .dvdUniversal else .dvdVideo, udf)
  else
    match ← lib.fileOpen udf "/BDMV/index.bdmv" with
    | (some f, udf) =>
        let udf ← lib.fileClose udf f
        pure (.bd, udf)
    | (none, udf) =>
        let (hasAudio, udf) ← udfAudioZone lib udf
        pure (if hasAudio then .dvdAudio else .none, udf)

/-- The label of a disc that was recognised. -/
def udfStoreVolumeId (volumeId : Nat → UInt8) : Option CString → Nat → UInt8
  | some id => copyVolumeId volumeId id
  | none => storeAt volumeId 0 [0]

/-- The questions put to a volume that opened, and memory from `volume_id` on. -/
def udfVolume (lib : UdfRead) (udf : lib.Handle) (volumeId : Nat → UInt8) :
    UdfProgram (UdfDisc × (Nat → UInt8) × lib.Handle) := do
  let (kind, udf) ← udfProbe lib udf
  if kind ≠ .none then
    let (id, udf) ← lib.getVolumeId udf
    pure (kind, udfStoreVolumeId volumeId id, udf)
  else pure (kind, volumeId, udf)

/-- `detect_udf_disc()`. -/
def detectUdfDisc (lib : UdfRead) (volumeId : Nat → UInt8) : UdfProgram (UdfDisc × (Nat → UInt8)) := do
  match lib.init with
  | none => pure (.none, volumeId)
  | some udf =>
      let (udfRet, udf) ← lib.openInput udf
      let (kind, volumeId, udf) ←
        if udfRet ≠ 0 then pure (.none, volumeId, udf) else udfVolume lib udf volumeId
      lib.close udf
      pure (kind, volumeId)

/-! ## What it leaves -/

theorem udfStoreVolumeId_labelled (dst : Nat → UInt8) {id : Option CString}
    (hid : ∀ c, id = some c → IsUtf8 c.bytes) :
    ∃ label, Labelled dst (udfStoreVolumeId dst id) label ∧ IsUtf8 label := by
  cases id with
  | none => exact ⟨[], labelled_nil dst, .nil⟩
  | some c => exact ⟨_, copyVolumeId_labelled dst c, isUtf8_take_volumeIdLength (hid c rfl)⟩

theorem udfVolume_found {lib : UdfRead} (hids : lib.Utf8VolumeIds) (udf : lib.Handle)
    (dst : Nat → UInt8) :
    (udfVolume lib udf dst).All fun r => Found (r.1 ≠ .none) IsUtf8 dst r.2.1 := by
  unfold udfVolume
  rw [Dialog.all_bind]
  apply Dialog.all_of_forall
  rintro ⟨kind, udf⟩
  dsimp only
  split
  next hkind =>
    rw [Dialog.all_bind]
    apply (hids udf).mono
    rintro ⟨id, udf⟩ hid
    exact .found hkind (udfStoreVolumeId_labelled dst hid)
  next hkind => exact .missed hkind rfl

/-- **The UDF detector** writes a label only when it recognises something, and then one in UTF-8. -/
theorem detectUdfDisc_found {lib : UdfRead} (hids : lib.Utf8VolumeIds) (dst : Nat → UInt8) :
    (detectUdfDisc lib dst).All fun r => Found (r.1 ≠ .none) IsUtf8 dst r.2 := by
  have hmissed : Found (UdfDisc.none ≠ .none) IsUtf8 dst dst := .missed (not_not_intro rfl) rfl
  unfold detectUdfDisc
  split
  next => exact hmissed
  next udf =>
    rw [Dialog.all_bind]
    apply Dialog.all_of_forall
    rintro ⟨udfRet, udf⟩
    have hclose : ∀ r : UdfDisc × (Nat → UInt8) × lib.Handle, Found (r.1 ≠ .none) IsUtf8 dst r.2.1 →
        Dialog.All (fun r => Found (r.1 ≠ .none) IsUtf8 dst r.2)
          (do lib.close r.2.2; pure (r.1, r.2.1) : UdfProgram (UdfDisc × (Nat → UInt8))) := by
      intro r hr
      rw [Dialog.all_bind]
      exact Dialog.all_of_forall (fun _ => hr) _
    dsimp only
    split
    · exact hclose (.none, dst, udf) hmissed
    · rw [Dialog.all_bind]
      exact (udfVolume_found hids udf dst).mono hclose

end Liblaser
