import Liblaser.CString
import Liblaser.Lib.Bytes
import Liblaser.Lib.Utf8

/-!
# `Disc.Label` — what `laser_disc.h` declares, and writing a label

`laser_disc_t` and the two ways its `volume_id` is filled: a copy of the string the UDF library returns,
cut between characters when it is too long, and the 32 bytes of an ISO9660 Volume Identifier with their
padding trimmed. `volume_id` is memory, so a label too long for it would be seen to go past its end.

`Labelled` is what both come to: memory with one string stored at its front, NUL and all, inside the 33
bytes.
-/

namespace Liblaser

open Bytes Utf8

/-- `LASER_DISC_VOLUME_ID_MAX`. -/
def laserDiscVolumeIdMax : Nat := 33

/-- `laser_disc_kind_t`. -/
inductive LaserDiscKind where
  | unknown
  | cdAudio
  | dvdVideo
  | dvdAudio
  | dvdUniversal
  | bdVideo
  | vcd
  | svcd
deriving DecidableEq, Repr

/-- The kinds `identify_udf()` reports. -/
def LaserDiscKind.ofUdf : LaserDiscKind → Bool
  | .dvdVideo | .dvdAudio | .dvdUniversal | .bdVideo => true
  | _ => false

/-- The kinds `identify_iso()` reports. -/
def LaserDiscKind.ofIso : LaserDiscKind → Bool
  | .vcd | .svcd => true
  | _ => false

/-- `laser_disc_t`; `volumeId` is memory from `volume_id` on. -/
structure LaserDisc where
  kind : LaserDiscKind
  volumeId : Nat → UInt8

/-- The label: the string in `volume_id`. -/
def LaserDisc.label (d : LaserDisc) : List UInt8 := cStringAt d.volumeId laserDiscVolumeIdMax

/-- `memset(out, 0, sizeof(*out))`. -/
def LaserDisc.zeroed (out : LaserDisc) : LaserDisc where
  kind := .unknown
  volumeId := storeAt out.volumeId 0 (List.replicate laserDiscVolumeIdMax 0)

/-! ## A written label -/

/-- The bytes are a label, stored at the front of memory inside `volume_id`. -/
structure Labelled (dst dst' : Nat → UInt8) (label : List UInt8) : Prop where
  noNul : 0 ∉ label
  length_lt : label.length < laserDiscVolumeIdMax
  stored : dst' = storeAt dst 0 (label ++ [0])

variable {dst dst' : Nat → UInt8} {label : List UInt8}

/-- The label is what is read. -/
theorem Labelled.label_eq (h : Labelled dst dst' label) : cStringAt dst' laserDiscVolumeIdMax = label := by
  rw [h.stored]
  exact cStringAt_storeAt h.noNul h.length_lt

theorem Labelled.terminated (h : Labelled dst dst' label) : ∃ i < laserDiscVolumeIdMax, dst' i = 0 := by
  refine ⟨label.length, h.length_lt, ?_⟩
  rw [h.stored, ← Nat.zero_add label.length]
  exact storeAt_of_getElem? (by simp)

/-- Nothing is written past `volume_id`. -/
theorem Labelled.outside (h : Labelled dst dst' label) {i : Nat} (hi : laserDiscVolumeIdMax ≤ i) :
    dst' i = dst i := by
  have hlen := h.length_lt
  rw [h.stored]
  apply storeAt_outside
  right
  rw [List.length_append, List.length_singleton]
  omega

/-- The empty label. -/
theorem labelled_nil (dst : Nat → UInt8) : Labelled dst (storeAt dst 0 [0]) [] where
  noNul := List.not_mem_nil
  length_lt := by decide
  stored := rfl

/-- A label stored in two steps, its bytes and then the NUL. -/
theorem labelled_of_steps (hnul : 0 ∉ label) (hlen : label.length < laserDiscVolumeIdMax) :
    Labelled dst (storeAt (storeAt dst 0 label) label.length [0]) label where
  noNul := hnul
  length_lt := hlen
  stored := by
    funext i
    unfold storeAt
    rcases Nat.lt_trichotomy i label.length with h | h | h
    · simp [List.getElem?_append_left h, Nat.not_le.mpr h]
    · simp [h]
    · have hne : i - label.length ≠ 0 := by omega
      have hle : label.length ≤ i := Nat.le_of_lt h
      simp [List.getElem?_append_right hle, hne, hle]

/-- What a detector leaves: a label in `P` when it recognised something, and else the one there was. -/
inductive Found (recognised : Prop) (P : List UInt8 → Prop) (dst dst' : Nat → UInt8) : Prop where
  | found : recognised → (∃ label, Labelled dst dst' label ∧ P label) → Found recognised P dst dst'
  | missed : ¬ recognised → dst' = dst → Found recognised P dst dst'

/-! ## `copy_volume_id()` -/

/-- The bytes of a string that fit: all of them, or cut at 32 and from there moved left to a character's
    first byte. -/
def volumeIdLength (src : CString) : Nat :=
  let len := src.bytes.length
  if laserDiscVolumeIdMax - 1 < len then cutLeft src.bytes (laserDiscVolumeIdMax - 1) else len

/-- `copy_volume_id()`. -/
def copyVolumeId (dst : Nat → UInt8) (src : CString) : Nat → UInt8 :=
  let len := volumeIdLength src
  storeAt (storeAt dst 0 (src.bytes.take len)) len [0]

theorem volumeIdLength_le (src : CString) :
    volumeIdLength src ≤ src.bytes.length ∧ volumeIdLength src < laserDiscVolumeIdMax := by
  have hcut := cutLeft_le src.bytes (laserDiscVolumeIdMax - 1)
  unfold volumeIdLength
  dsimp only
  unfold laserDiscVolumeIdMax at hcut ⊢
  split <;> omega

theorem copyVolumeId_labelled (dst : Nat → UInt8) (src : CString) :
    Labelled dst (copyVolumeId dst src) (src.bytes.take (volumeIdLength src)) := by
  obtain ⟨hle, hlt⟩ := volumeIdLength_le src
  have hlen : (src.bytes.take (volumeIdLength src)).length = volumeIdLength src := by
    rw [List.length_take]
    omega
  have hnul : 0 ∉ src.bytes.take (volumeIdLength src) := fun h => src.noNul (List.mem_of_mem_take h)
  have hsteps := @labelled_of_steps dst _ hnul (by
    rw [hlen]
    exact hlt)
  rw [hlen] at hsteps
  exact hsteps

theorem volumeIdLength_of_le {src : CString} (hlen : src.bytes.length ≤ laserDiscVolumeIdMax - 1) :
    volumeIdLength src = src.bytes.length := if_neg (Nat.not_lt.mpr hlen)

/-- What is copied of UTF-8 is as many of its characters as fit. -/
theorem longestWhole_take_volumeIdLength {src : CString} (h : IsUtf8 src.bytes) :
    LongestWhole (laserDiscVolumeIdMax - 1) src.bytes (src.bytes.take (volumeIdLength src)) := by
  by_cases hlen : src.bytes.length ≤ laserDiscVolumeIdMax - 1
  · rw [volumeIdLength_of_le hlen, List.take_length]
    exact h.longestWhole_self hlen
  · rw [show volumeIdLength src = cutLeft src.bytes _ from if_pos (Nat.lt_of_not_le hlen)]
    exact h.longestWhole _

/-- **A label copied from UTF-8 is UTF-8.** -/
theorem isUtf8_take_volumeIdLength {src : CString} (h : IsUtf8 src.bytes) :
    IsUtf8 (src.bytes.take (volumeIdLength src)) :=
  ((h.whole_iff).mp (longestWhole_take_volumeIdLength h).whole).2

/-- **The copy of a label** is its longest part that ends between two characters and fits, followed by its
    NUL: UTF-8 again, the whole label when that fits, and nothing else is written. -/
theorem copyVolumeId_longest (dst : Nat → UInt8) (src : CString) (h : IsUtf8 src.bytes) :
    ∃ label, Labelled dst (copyVolumeId dst src) label
      ∧ LongestWhole (laserDiscVolumeIdMax - 1) src.bytes label
      ∧ IsUtf8 label
      ∧ (src.bytes.length ≤ laserDiscVolumeIdMax - 1 → label = src.bytes) := by
  refine ⟨_, copyVolumeId_labelled dst src, longestWhole_take_volumeIdLength h,
    isUtf8_take_volumeIdLength h, ?_⟩
  intro hlen
  rw [volumeIdLength_of_le hlen, List.take_length]

/-- 31 letters and an é, which is two bytes: the 32 that fit end inside it. -/
def longVolumeId : CString where
  bytes := List.replicate 31 0x41 ++ [0xC3, 0xA9]
  noNul := by decide

theorem isUtf8_longVolumeId : IsUtf8 longVolumeId.bytes :=
  isUtf8_iff.mpr ⟨List.replicate 31 'A' ++ ['é'], by decide⟩

/-- It is cut before the é. -/
theorem copyVolumeId_longVolumeId :
    ∃ label, Labelled (fun _ => 0xFF) (copyVolumeId (fun _ => 0xFF) longVolumeId) label
      ∧ LongestWhole (laserDiscVolumeIdMax - 1) longVolumeId.bytes label
      ∧ IsUtf8 label
      ∧ (longVolumeId.bytes.length ≤ laserDiscVolumeIdMax - 1 → label = longVolumeId.bytes) :=
  copyVolumeId_longest (fun _ => 0xFF) longVolumeId isUtf8_longVolumeId

/-! ## The Volume Identifier of ISO9660 -/

/-- `iso_volume_id_is_printable_ascii()`. -/
def isoVolumeIdIsPrintableAscii (p : List UInt8) : Bool := p.all fun b => !(b < 0x20 || 0x7E < b)

/-- The bytes before the padding: the `while` loop, from `len` on leftwards. -/
def isoVolumeIdLength (p : Nat → UInt8) : Nat → Nat
  | 0 => 0
  | len + 1 => if p len == 0x20 || p len == 0 then isoVolumeIdLength p len else len + 1

/-- The end of `detect_iso_video()`: the 32 bytes at `p`, trimmed, or no label when they are not printable. -/
def isoStoreVolumeId (dst p : Nat → UInt8) : Nat → UInt8 :=
  let len := isoVolumeIdLength p 32
  if !isoVolumeIdIsPrintableAscii (bytesAt p 0 len) then storeAt dst 0 [0]
  else storeAt (storeAt dst 0 (bytesAt p 0 len)) len [0]

/-- Printable ASCII without a space at its end. -/
structure TrimmedAscii (label : List UInt8) : Prop where
  printable : ∀ b ∈ label, 0x20 ≤ b ∧ b ≤ 0x7E
  trimmed : label.getLast? ≠ some 0x20

theorem TrimmedAscii.nil : TrimmedAscii [] where
  printable b hb := by cases hb
  trimmed := by simp

theorem isoVolumeIdLength_le (p : Nat → UInt8) (n : Nat) : isoVolumeIdLength p n ≤ n := by
  induction n with
  | zero => exact Nat.le_refl 0
  | succ n ih =>
      unfold isoVolumeIdLength
      split
      · exact Nat.le_succ_of_le ih
      · exact Nat.le_refl _

/-- The loop stops behind a byte that is no padding. -/
theorem isoVolumeIdLength_last {p : Nat → UInt8} {n len : Nat} (h : isoVolumeIdLength p n = len + 1) :
    p len ≠ 0x20 := by
  induction n with
  | zero => cases h
  | succ n ih =>
      unfold isoVolumeIdLength at h
      split at h
      next => exact ih h
      next hpad =>
        injection h with h
        subst h
        intro hspace
        simp [hspace] at hpad

theorem isoVolumeIdIsPrintableAscii_iff (p : List UInt8) :
    isoVolumeIdIsPrintableAscii p = true ↔ ∀ b ∈ p, 0x20 ≤ b ∧ b ≤ 0x7E := by
  simp [isoVolumeIdIsPrintableAscii]

/-- What is left of the 32 bytes is stored when it is printable, and else nothing is. -/
theorem isoStoreVolumeId_stored (dst p : Nat → UInt8) :
    Labelled dst (isoStoreVolumeId dst p)
      (if isoVolumeIdIsPrintableAscii (bytesAt p 0 (isoVolumeIdLength p 32)) = true then
        bytesAt p 0 (isoVolumeIdLength p 32) else []) := by
  have hle := isoVolumeIdLength_le p 32
  unfold isoStoreVolumeId
  dsimp only
  generalize isoVolumeIdLength p 32 = len at hle
  cases hprint : isoVolumeIdIsPrintableAscii (bytesAt p 0 len) with
  | true =>
      have hall := (isoVolumeIdIsPrintableAscii_iff _).mp hprint
      have hnul : 0 ∉ bytesAt p 0 len := by
        intro hmem
        have hlow := (hall 0 hmem).1
        exact absurd hlow (by decide)
      have hsteps := @labelled_of_steps dst _ hnul (by
        rw [length_bytesAt]
        unfold laserDiscVolumeIdMax
        omega)
      rw [length_bytesAt] at hsteps
      exact hsteps
  | false => exact labelled_nil dst

/-- **The label of an ISO9660 disc** is printable ASCII, its padding trimmed. -/
theorem isoStoreVolumeId_labelled (dst p : Nat → UInt8) :
    ∃ label, Labelled dst (isoStoreVolumeId dst p) label ∧ TrimmedAscii label := by
  refine ⟨_, isoStoreVolumeId_stored dst p, ?_⟩
  split
  · next hprint =>
      refine ⟨(isoVolumeIdIsPrintableAscii_iff _).mp hprint, ?_⟩
      intro hlast
      cases hlen : isoVolumeIdLength p 32 with
      | zero => simp [hlen, bytesAt] at hlast
      | succ len =>
          rw [hlen] at hlast
          simp only [bytesAt, List.range_succ, List.map_append, List.map_singleton, Nat.zero_add,
            List.getLast?_concat, Option.some.injEq] at hlast
          exact isoVolumeIdLength_last hlen hlast
  · exact .nil

end Liblaser
