import Liblaser.Disc.Directory
import Mathlib.Data.List.DropRight

/-!
# `Disc.VideoCd` — Video CD detection is the walk of two paths

What `detect_iso_video()` comes to on a disc that answers the same whenever it is asked: `HasVideo` is a path
from the Primary Volume Descriptor to the info file with the signature, and the kind of the first path there
is. The directories on the way are searched by `iso_find_child()`, so what `Disc.Directory` says of it holds
of each step.

**`detectIsoVideo_spec`** is the result, with the label and the number of sectors that are read.
-/

namespace Liblaser

open Bytes Utf8

/-! ## The label -/

/-- Spaces and NULs. -/
def isPadding (b : UInt8) : Bool := b == 0x20 || b == 0

/-- The 32 bytes of the Volume Identifier without the padding at their end, or nothing when there is a byte
    in them that is not printable ASCII. -/
def isoVolumeLabel (pvd : Nat → UInt8) : List UInt8 :=
  let label := (bytesAt pvd 40 32).rdropWhile isPadding
  if label.all fun b => decide (0x20 ≤ b ∧ b ≤ 0x7E) then label else []

theorem bytesAt_succ (p : Nat → UInt8) (off n : Nat) :
    bytesAt p off (n + 1) = bytesAt p off n ++ [p (off + n)] := by
  unfold bytesAt
  rw [List.range_succ, List.map_append, List.map_singleton]

/-- The loop from the end leaves what has no padding at its end. -/
theorem bytesAt_isoVolumeIdLength (p : Nat → UInt8) (n : Nat) :
    bytesAt p 0 (isoVolumeIdLength p n) = (bytesAt p 0 n).rdropWhile isPadding := by
  induction n with
  | zero => rfl
  | succ n ih =>
      rw [bytesAt_succ, Nat.zero_add]
      unfold isoVolumeIdLength
      by_cases hpad : isPadding (p n) = true
      · rw [List.rdropWhile_concat_pos _ _ _ hpad, ← ih]
        exact congrArg (bytesAt p 0) (if_pos hpad)
      · rw [List.rdropWhile_concat_neg _ _ _ hpad,
          if_neg (show ¬ (p n == 0x20 || p n == 0) = true from hpad), bytesAt_succ, Nat.zero_add]

/-- The label is stored, or none is when it is not printable. -/
theorem isoStoreVolumeId_label (dst pvd : Nat → UInt8) :
    Labelled dst (isoStoreVolumeId dst fun i => pvd (40 + i)) (isoVolumeLabel pvd) := by
  have hstored := isoStoreVolumeId_stored dst fun i => pvd (40 + i)
  have hbytes : bytesAt (fun i => pvd (40 + i)) 0 32 = bytesAt pvd 40 32 := by
    unfold bytesAt
    simp only [Nat.zero_add]
  rw [bytesAt_isoVolumeIdLength, hbytes] at hstored
  unfold isoVolumeLabel
  dsimp only
  generalize (bytesAt pvd 40 32).rdropWhile isPadding = label at hstored ⊢
  have hprint : isoVolumeIdIsPrintableAscii label = true
      ↔ (label.all fun b => decide (0x20 ≤ b ∧ b ≤ 0x7E)) = true := by
    rw [isoVolumeIdIsPrintableAscii_iff]
    simp
  rwa [if_congr hprint rfl rfl] at hstored

/-! ## The paths -/

/-- Sector `base + 16` is the Primary Volume Descriptor. -/
def HasPvd (disc : IsoDisc) (base : UInt32) (pvd : Nat → UInt8) : Prop :=
  disc (base + isoPvdLba) = some pvd ∧ pvd 0 = 1 ∧ bytesAt pvd 1 5 = ascii "CD001"

/-- A path from the root: the directory, the file in it, and the signature the file begins with. -/
def ProbeHits (disc : IsoDisc) (root : Extent) (probe : IsoProbe) : Prop :=
  ∃ dir info sector, (isoFindChild root probe.dir true).eval disc = some dir
    ∧ (isoFindChild dir probe.info false).eval disc = some info ∧ 8 ≤ info.len.toNat
    ∧ disc info.lba = some sector ∧ bytesAt sector 0 8 = ascii probe.magic

/-- The disc has a root directory that is not empty, and the path from it. -/
def HasVideo (disc : IsoDisc) (base : UInt32) (probe : IsoProbe) : Prop :=
  ∃ pvd, HasPvd disc base pvd ∧ (isoExtent pvd 156).len ≠ 0
    ∧ ProbeHits disc (isoExtent pvd 156) probe

/-- `/VCD/INFO.VCD`. -/
def vcdProbe : IsoProbe := ⟨"VCD", "INFO.VCD", "VIDEO_CD", .vcd⟩

/-- `/SVCD/INFO.SVD`. -/
def svcdProbe : IsoProbe := ⟨"SVCD", "INFO.SVD", "SUPERVCD", .svcd⟩

variable {disc : IsoDisc} {base : UInt32} {dst pvd : Nat → UInt8} {root : Extent} {probe : IsoProbe}

theorem isoInfoMagicIs_eval (disc : IsoDisc) (lba : UInt32) (magic : String) :
    (isoInfoMagicIs lba magic).eval disc = true
      ↔ ∃ sector, disc lba = some sector ∧ bytesAt sector 0 8 = ascii magic := by
  unfold isoInfoMagicIs
  rw [Dialog.eval_bind, Dialog.eval_query]
  cases hsector : disc lba with
  | none =>
      constructor
      · intro h
        cases h
      · rintro ⟨sector, h, -⟩
        cases h
  | some sector =>
      constructor
      · intro h
        exact ⟨sector, rfl, beq_iff_eq.mp h⟩
      · rintro ⟨s, h, hmagic⟩
        cases h
        exact beq_iff_eq.mpr hmagic

/-- **One probe** hits exactly when its path is there. -/
theorem isoProbe_eval (disc : IsoDisc) (root : Extent) (probe : IsoProbe) :
    (isoProbe root probe).eval disc = true ↔ ProbeHits disc root probe := by
  unfold isoProbe ProbeHits
  rw [Dialog.eval_bind]
  cases hdir : (isoFindChild root probe.dir true).eval disc with
  | none =>
      constructor
      · intro h
        cases h
      · rintro ⟨dir, info, sector, h, -⟩
        cases h
  | some dir =>
      dsimp only
      rw [Dialog.eval_bind]
      cases hinfo : (isoFindChild dir probe.info false).eval disc with
      | none =>
          constructor
          · intro h
            cases h
          · rintro ⟨dir', info, sector, h, hinfo', -⟩
            cases h
            rw [hinfo] at hinfo'
            cases hinfo'
      | some info =>
          have hlen : info.len < 8 ↔ ¬ 8 ≤ info.len.toNat := by
            rw [UInt32.lt_iff_toNat_lt]
            exact Nat.not_le.symm
          dsimp only
          constructor
          · intro h
            split at h
            · cases h
            · next hlong =>
                obtain ⟨sector, hsector, hmagic⟩ := (isoInfoMagicIs_eval _ _ _).mp h
                have hlong : 8 ≤ info.len.toNat := Decidable.not_not.mp fun hno => hlong (hlen.mpr hno)
                exact ⟨dir, info, sector, rfl, hinfo, hlong, hsector, hmagic⟩
          · rintro ⟨dir', info', sector, h, hinfo', hlong, hsector, hmagic⟩
            cases h
            rw [hinfo] at hinfo'
            cases hinfo'
            rw [if_neg fun hshort => hlen.mp hshort hlong]
            exact (isoInfoMagicIs_eval _ _ _).mpr ⟨sector, hsector, hmagic⟩

/-- **The loop over the probes**: Video CD first, then Super Video CD. -/
theorem isoFirstProbe_eval (disc : IsoDisc) (root : Extent) :
    ((isoFirstProbe root isoProbes).eval disc = .vcd ∧ ProbeHits disc root vcdProbe)
      ∨ ((isoFirstProbe root isoProbes).eval disc = .svcd ∧ ¬ ProbeHits disc root vcdProbe
          ∧ ProbeHits disc root svcdProbe)
      ∨ ((isoFirstProbe root isoProbes).eval disc = .none ∧ ¬ ProbeHits disc root vcdProbe
          ∧ ¬ ProbeHits disc root svcdProbe) := by
  have hvcd := isoProbe_eval disc root vcdProbe
  have hsvcd := isoProbe_eval disc root svcdProbe
  rw [show isoProbes = [vcdProbe, svcdProbe] from rfl]
  simp only [isoFirstProbe, Dialog.eval_bind]
  by_cases h₁ : (isoProbe root vcdProbe).eval disc = true
  · rw [if_pos h₁]
    exact .inl ⟨rfl, hvcd.mp h₁⟩
  right
  rw [if_neg h₁, Dialog.eval_bind]
  by_cases h₂ : (isoProbe root svcdProbe).eval disc = true
  · rw [if_pos h₂]
    exact .inl ⟨rfl, mt hvcd.mpr h₁, hsvcd.mp h₂⟩
  · rw [if_neg h₂]
    exact .inr ⟨rfl, mt hvcd.mpr h₁, mt hsvcd.mpr h₂⟩

/-! ## How often the disc is read -/

theorem isoFindChild_atMost (dir : Extent) (want : String) (wantDir : Bool) :
    (isoFindChild dir want wantDir).AtMost 4 :=
  (isoFindFrom_atMost dir.lba (ascii want) wantDir _ 0).mono (walkedSectors_le dir)

theorem isoInfoMagicIs_atMost (lba : UInt32) (magic : String) : (isoInfoMagicIs lba magic).AtMost 1 := by
  unfold isoInfoMagicIs
  apply (Dialog.atMost_query lba).bind (m := 0)
  intro answer
  cases answer <;> exact Dialog.atMost_pure _ _

/-- A path takes no more than nine sectors: four for each directory, and one of the file. -/
theorem isoProbe_atMost (root : Extent) (probe : IsoProbe) : (isoProbe root probe).AtMost 9 := by
  unfold isoProbe
  apply (isoFindChild_atMost root probe.dir true).bind (m := 5)
  intro dir
  cases dir with
  | none => exact Dialog.atMost_pure _ _
  | some dir =>
      apply (isoFindChild_atMost dir probe.info false).bind (m := 1)
      intro info
      cases info with
      | none => exact Dialog.atMost_pure _ _
      | some info =>
          dsimp only
          split
          · exact Dialog.atMost_pure _ _
          · exact isoInfoMagicIs_atMost _ _

theorem isoFirstProbe_atMost (root : Extent) (probes : List IsoProbe) :
    (isoFirstProbe root probes).AtMost (9 * probes.length) := by
  induction probes with
  | nil => exact Dialog.atMost_pure _ _
  | cons probe probes ih =>
      unfold isoFirstProbe
      rw [List.length_cons, Nat.mul_add, Nat.mul_one, Nat.add_comm]
      apply (isoProbe_atMost root probe).bind
      intro hit
      split
      · exact Dialog.atMost_pure _ _
      · exact ih

theorem detectIsoVideo_atMost (base : UInt32) (dst : Nat → UInt8) :
    (detectIsoVideo base dst).AtMost 19 := by
  unfold detectIsoVideo
  apply (Dialog.atMost_query _).bind (m := 18)
  intro answer
  cases answer with
  | none => exact Dialog.atMost_pure _ _
  | some pvd =>
      dsimp only
      split
      · exact Dialog.atMost_pure _ _
      split
      · exact Dialog.atMost_pure _ _
      apply (isoFirstProbe_atMost _ isoProbes).bind (m := 0)
      intro kind
      split <;> exact Dialog.atMost_pure _ _

/-! ## The detector -/

/-- **Video CD detection** as it is specified. -/
structure VideoSearch (disc : IsoDisc) (base : UInt32) (dst : Nat → UInt8)
    (r : IsoVideo × (Nat → UInt8)) : Prop where
  vcd : r.1 = .vcd ↔ HasVideo disc base vcdProbe
  svcd : r.1 = .svcd ↔ ¬ HasVideo disc base vcdProbe ∧ HasVideo disc base svcdProbe
  none : r.1 = .none ↔ ¬ HasVideo disc base vcdProbe ∧ ¬ HasVideo disc base svcdProbe
  /-- A match writes the label of the descriptor, -/
  label : r.1 ≠ .none → ∃ pvd, HasPvd disc base pvd ∧ Labelled dst r.2 (isoVolumeLabel pvd)
  /-- anything else writes nothing, -/
  untouched : r.1 = .none → r.2 = dst
  /-- and nothing is written past the end. -/
  outside : ∀ i, laserDiscVolumeIdMax ≤ i → r.2 i = dst i

/-- There is one descriptor. -/
theorem hasVideo_iff (hpvd : HasPvd disc base pvd) :
    HasVideo disc base probe
      ↔ (isoExtent pvd 156).len ≠ 0 ∧ ProbeHits disc (isoExtent pvd 156) probe := by
  constructor
  · rintro ⟨pvd', hpvd', hroot, hhits⟩
    obtain rfl : pvd' = pvd := Option.some.inj (hpvd'.1.symm.trans hpvd.1)
    exact ⟨hroot, hhits⟩
  · rintro ⟨hroot, hhits⟩
    exact ⟨pvd, hpvd, hroot, hhits⟩

/-- Nothing was recognised, and nothing is there. -/
theorem VideoSearch.missed (hnone : ∀ probe, ¬ HasVideo disc base probe) :
    VideoSearch disc base dst (.none, dst) where
  vcd := ⟨fun h => (by cases h), fun h => absurd h (hnone _)⟩
  svcd := ⟨fun h => (by cases h), fun h => absurd h.2 (hnone _)⟩
  none := ⟨fun _ => ⟨hnone _, hnone _⟩, fun _ => rfl⟩
  label h := absurd rfl h
  untouched _ := rfl
  outside _ _ := rfl

/-- What the loop over the probes recognised is what is there. -/
theorem VideoSearch.of_probes (hpvd : HasPvd disc base pvd) (hroot : (isoExtent pvd 156).len ≠ 0) :
    VideoSearch disc base dst
      (if (isoFirstProbe (isoExtent pvd 156) isoProbes).eval disc = .none then (.none, dst)
        else ((isoFirstProbe (isoExtent pvd 156) isoProbes).eval disc,
          isoStoreVolumeId dst fun i => pvd (40 + i))) := by
  have hiff : ∀ probe, HasVideo disc base probe ↔ ProbeHits disc (isoExtent pvd 156) probe := by
    intro probe
    rw [hasVideo_iff hpvd]
    exact ⟨And.right, fun h => ⟨hroot, h⟩⟩
  have hlabel := isoStoreVolumeId_label dst pvd
  rcases isoFirstProbe_eval disc (isoExtent pvd 156) with ⟨hkind, h₁⟩ | ⟨hkind, h₁, h₂⟩ | ⟨hkind, h₁, h₂⟩
    <;> rw [hkind]
  · have h₁ := (hiff _).mpr h₁
    rw [if_neg (by decide)]
    refine ⟨⟨fun _ => h₁, fun _ => rfl⟩, ⟨fun h => (by cases h), fun h => absurd h₁ h.1⟩,
      ⟨fun h => (by cases h), fun h => absurd h₁ h.1⟩, fun _ => ⟨pvd, hpvd, hlabel⟩,
      fun h => (by cases h), fun i hi => hlabel.outside hi⟩
  · have h₁ := mt (hiff _).mp h₁
    have h₂ := (hiff _).mpr h₂
    rw [if_neg (by decide)]
    refine ⟨⟨fun h => (by cases h), fun h => absurd h h₁⟩, ⟨fun _ => ⟨h₁, h₂⟩, fun _ => rfl⟩,
      ⟨fun h => (by cases h), fun h => absurd h₂ h.2⟩, fun _ => ⟨pvd, hpvd, hlabel⟩,
      fun h => (by cases h), fun i hi => hlabel.outside hi⟩
  · have h₁ := mt (hiff _).mp h₁
    have h₂ := mt (hiff _).mp h₂
    rw [if_pos rfl]
    exact ⟨⟨fun h => (by cases h), fun h => absurd h h₁⟩, ⟨fun h => (by cases h), fun h => absurd h.2 h₂⟩,
      ⟨fun _ => ⟨h₁, h₂⟩, fun _ => rfl⟩, fun h => absurd rfl h, fun _ => rfl, fun _ _ => rfl⟩

/-- **On a disc that answers for itself, detection is exact.** -/
theorem detectIsoVideo_search (disc : IsoDisc) (base : UInt32) (dst : Nat → UInt8) :
    VideoSearch disc base dst ((detectIsoVideo base dst).eval disc) := by
  unfold detectIsoVideo
  rw [Dialog.eval_bind, Dialog.eval_query]
  cases hsector : disc (base + isoPvdLba) with
  | none =>
      apply VideoSearch.missed
      rintro probe ⟨pvd, ⟨hsome, -⟩, -⟩
      rw [hsector] at hsome
      cases hsome
  | some pvd =>
      dsimp only
      split
      · next hnot =>
          apply VideoSearch.missed
          rintro probe ⟨pvd', ⟨hsome, htype, hid⟩, -⟩
          rw [hsector] at hsome
          cases hsome
          rcases hnot with hnot | hnot
          · exact hnot htype
          · exact hnot hid
      · next hisPvd =>
          have hpvd : HasPvd disc base pvd :=
            ⟨hsector, Decidable.not_not.mp fun h => hisPvd (.inl h),
              Decidable.not_not.mp fun h => hisPvd (.inr h)⟩
          split
          · next hempty =>
              apply VideoSearch.missed
              intro probe hvideo
              exact ((hasVideo_iff hpvd).mp hvideo).1 hempty
          · next hroot =>
              rw [Dialog.eval_bind]
              have hsearch : VideoSearch disc base dst _ := .of_probes hpvd hroot
              split
              · next hkind => rwa [if_pos hkind] at hsearch
              · next hkind => rwa [if_neg hkind] at hsearch

/-- **Video CD detection agrees with its paths**, on every disc and for every start of the track, and it
    reads no more than 19 sectors. -/
theorem detectIsoVideo_spec (disc : IsoDisc) (base : UInt32) (dst : Nat → UInt8) :
    VideoSearch disc base dst ((detectIsoVideo base dst).eval disc)
      ∧ (detectIsoVideo base dst).AtMost 19 :=
  ⟨detectIsoVideo_search disc base dst, detectIsoVideo_atMost base dst⟩

end Liblaser
