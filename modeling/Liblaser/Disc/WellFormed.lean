import Liblaser.Disc.Identify

/-!
# `Disc.WellFormed` — what identification leaves in `laser_disc_t`

Four probes share one `laser_disc_t`. `Probed` is what each leaves: its kind and its label when it
recognises something, and the record as it was when it does not. From that, `WellFormed` says what any
consumer may rely on, and `DecisionOrder` which answers make the kind; **`laserDiscIdentify_spec`** is both,
for every drive, every token state and every UDF library.
-/

namespace Liblaser

open Bytes Utf8

variable {W : Type} {port : DiscPort W} {lib : UdfRead} {out d : LaserDisc} {s : Sys W}

/-! ## What a probe leaves -/

/-- A probe that recognised something wrote a kind in `kinds` and a label in `P`; one that did not changed
    nothing. -/
inductive Probed (kinds : LaserDiscKind → Bool) (P : List UInt8 → Prop) (out : LaserDisc) :
    Bool → LaserDisc → Prop where
  | hit {d : LaserDisc} {label : List UInt8} : kinds d.kind = true →
      Labelled out.volumeId d.volumeId label → P label → Probed kinds P out true d
  | miss : Probed kinds P out false out

theorem identifyUdf_probed (hids : lib.Utf8VolumeIds) (out : LaserDisc) (s : Sys W) :
    Probed LaserDiscKind.ofUdf IsUtf8 out (identifyUdf port lib out s).1
      (identifyUdf port lib out s).2.1 := by
  have hfound := @Dialog.All.run _ _ _ _ _ _ (udfReadCb port.toScsiPort) ⟨false, s⟩
    (detectUdfDisc_found hids out.volumeId)
  unfold identifyUdf
  generalize (detectUdfDisc lib out.volumeId).run (udfReadCb port.toScsiPort) ⟨false, s⟩ = r at hfound ⊢
  obtain ⟨⟨found, volumeId⟩, sbi⟩ := r
  cases hfound with
  | found hne hlabel =>
      obtain ⟨label, hlabelled, hutf8⟩ := hlabel
      cases found with
      | none => exact absurd rfl hne
      | dvdVideo => exact .hit rfl hlabelled hutf8
      | dvdAudio => exact .hit rfl hlabelled hutf8
      | dvdUniversal => exact .hit rfl hlabelled hutf8
      | bd => exact .hit rfl hlabelled hutf8
  | missed hnone hsame =>
      obtain rfl := Decidable.not_not.mp hnone
      obtain rfl : volumeId = out.volumeId := hsame
      exact .miss

theorem identifyIso_probed (trackLba : UInt32) (out : LaserDisc) (s : Sys W) :
    Probed LaserDiscKind.ofIso TrimmedAscii out (identifyIso port trackLba out s).1
      (identifyIso port trackLba out s).2.1 := by
  have hfound := @Dialog.All.run _ _ _ _ _ _ (isoReadSector port.toScsiPort port.stack) s
    (detectIsoVideo_found trackLba out.volumeId)
  unfold identifyIso
  generalize (detectIsoVideo trackLba out.volumeId).run (isoReadSector port.toScsiPort port.stack) s = r
    at hfound ⊢
  obtain ⟨⟨found, volumeId⟩, s'⟩ := r
  cases hfound with
  | found hne hlabel =>
      obtain ⟨label, hlabelled, hascii⟩ := hlabel
      cases found with
      | none => exact absurd rfl hne
      | vcd => exact .hit rfl hlabelled hascii
      | svcd => exact .hit rfl hlabelled hascii
  | missed hnone hsame =>
      obtain rfl := Decidable.not_not.mp hnone
      obtain rfl : volumeId = out.volumeId := hsame
      exact .miss

/-! ## The outcome -/

/-- What a consumer may rely on; `out` is the record before the call. -/
structure LaserDisc.WellFormed (out d : LaserDisc) : Prop where
  terminated : ∃ i < laserDiscVolumeIdMax, d.volumeId i = 0
  outside : ∀ i, laserDiscVolumeIdMax ≤ i → d.volumeId i = out.volumeId i
  empty : d.kind = .unknown ∨ d.kind = .cdAudio → d.label = []
  utf8 : d.kind.ofUdf = true → IsUtf8 d.label
  ascii : d.kind.ofIso = true → TrimmedAscii d.label

/-- The record as `memset()` leaves it holds the empty label. -/
theorem LaserDisc.zeroed_labelled (out : LaserDisc) :
    Labelled out.zeroed.volumeId out.zeroed.volumeId [] where
  noNul := List.not_mem_nil
  length_lt := by decide
  stored := by
    funext i
    show out.zeroed.volumeId i = storeAt out.zeroed.volumeId 0 [0] i
    match i with
    | 0 => rfl
    | i + 1 =>
        rw [storeAt_outside (Or.inr (by simp))]

/-- A record whose label was stored after the `memset()`, and is one its kind may have. -/
theorem wellFormed_of_labelled {label : List UInt8}
    (hlabelled : Labelled out.zeroed.volumeId d.volumeId label)
    (hempty : d.kind = .unknown ∨ d.kind = .cdAudio → label = [])
    (hutf8 : d.kind.ofUdf = true → IsUtf8 label) (hascii : d.kind.ofIso = true → TrimmedAscii label) :
    LaserDisc.WellFormed out d := by
  have hread : d.label = label := hlabelled.label_eq
  refine ⟨hlabelled.terminated, ?_, ?_, ?_, ?_⟩
  · intro i hi
    rw [hlabelled.outside hi]
    show storeAt out.volumeId 0 _ i = _
    apply storeAt_outside
    right
    rw [List.length_replicate]
    omega
  · rw [hread]
    exact hempty
  · rw [hread]
    exact hutf8
  · rw [hread]
    exact hascii

/-- Nothing recognised, or an audio CD. -/
theorem LaserDisc.zeroed_wellFormed (out : LaserDisc) {kind : LaserDiscKind}
    (hkind : kind = .unknown ∨ kind = .cdAudio) :
    WellFormed out { out.zeroed with kind := kind } := by
  apply @wellFormed_of_labelled out { out.zeroed with kind := kind } _ out.zeroed_labelled (fun _ => rfl)
  · intro h
    rcases hkind with rfl | rfl <;> cases h
  · intro h
    rcases hkind with rfl | rfl <;> cases h

/-! ## The probes in their order -/

/-- What the probes together leave. -/
structure VideoOutcome (medium : Medium) (toc : CdToc) (out d : LaserDisc) : Prop where
  wellFormed : LaserDisc.WellFormed out d
  notAudio : d.kind ≠ .cdAudio
  videoCd : d.kind.ofIso = true → (medium = .cd ∨ medium = .unknown) ∧ toc = .data

variable {medium : Medium} {toc : CdToc} {trackLba : UInt32}

theorem videoOutcome_missed : VideoOutcome medium toc out out.zeroed where
  wellFormed := out.zeroed_wellFormed (Or.inl rfl)
  notAudio h := by cases h
  videoCd h := by cases h

/-- A UDF match. -/
theorem videoOutcome_udf {label : List UInt8} (hkind : d.kind.ofUdf = true)
    (hlabelled : Labelled out.zeroed.volumeId d.volumeId label) (hutf8 : IsUtf8 label) :
    VideoOutcome medium toc out d := by
  have hnone : ¬ (d.kind = .unknown ∨ d.kind = .cdAudio) := by
    rintro (h | h) <;> rw [h] at hkind <;> cases hkind
  have hiso : d.kind.ofIso = false := by
    cases hk : d.kind <;> rw [hk] at hkind <;> first | rfl | cases hkind
  refine ⟨wellFormed_of_labelled hlabelled (fun h => absurd h hnone) (fun _ => hutf8) ?_, ?_, ?_⟩
  · rw [hiso]
    exact nofun
  · exact fun h => hnone (Or.inr h)
  · rw [hiso]
    exact nofun

/-- An ISO9660 match, which is only looked for on a data track. -/
theorem videoOutcome_iso {label : List UInt8} (hkind : d.kind.ofIso = true)
    (hlabelled : Labelled out.zeroed.volumeId d.volumeId label) (hascii : TrimmedAscii label)
    (hasked : (medium = .cd ∨ medium = .unknown) ∧ toc = .data) : VideoOutcome medium toc out d := by
  have hnone : ¬ (d.kind = .unknown ∨ d.kind = .cdAudio) := by
    rintro (h | h) <;> rw [h] at hkind <;> cases hkind
  have hudf : d.kind.ofUdf = false := by
    cases hk : d.kind <;> rw [hk] at hkind <;> first | rfl | cases hkind
  refine ⟨wellFormed_of_labelled hlabelled (fun h => absurd h hnone) ?_ (fun _ => hascii), ?_, ?_⟩
  · rw [hudf]
    exact nofun
  · exact fun h => hnone (Or.inr h)
  · exact fun _ => hasked

theorem identifyFromUdf_outcome (hids : lib.Utf8VolumeIds) (s : Sys W) :
    VideoOutcome medium toc out (identifyFromUdf port lib medium toc trackLba out.zeroed s).1 := by
  have hudf := @identifyUdf_probed _ port _ hids out.zeroed s
  unfold identifyFromUdf
  generalize identifyUdf port lib out.zeroed s = r at hudf ⊢
  obtain ⟨found, d, s'⟩ := r
  cases hudf with
  | hit hkind hlabelled hutf8 => exact videoOutcome_udf hkind hlabelled hutf8
  | miss =>
      show VideoOutcome medium toc out
        (if medium = .unknown ∧ toc = .data then (identifyIso port trackLba out.zeroed s').2
         else (out.zeroed, s')).1
      split
      next hasked =>
        have hiso := @identifyIso_probed _ port trackLba out.zeroed s'
        generalize identifyIso port trackLba out.zeroed s' = r at hiso ⊢
        obtain ⟨found, d, s''⟩ := r
        cases hiso with
        | hit hkind hlabelled hascii =>
            exact videoOutcome_iso hkind hlabelled hascii ⟨Or.inr hasked.1, hasked.2⟩
        | miss => exact videoOutcome_missed
      next => exact videoOutcome_missed

theorem identifyVideo_outcome (hids : lib.Utf8VolumeIds) (s : Sys W) :
    VideoOutcome medium toc out (identifyVideo port lib medium toc trackLba out.zeroed s).1 := by
  unfold identifyVideo
  split
  next hasked =>
    have hiso := @identifyIso_probed _ port trackLba out.zeroed s
    generalize identifyIso port trackLba out.zeroed s = r at hiso ⊢
    obtain ⟨found, d, s'⟩ := r
    cases hiso with
    | hit hkind hlabelled hascii =>
        exact videoOutcome_iso hkind hlabelled hascii ⟨Or.inl hasked.1, hasked.2⟩
    | miss => exact identifyFromUdf_outcome hids s'
  next => exact identifyFromUdf_outcome hids s

/-- **On a known CD an ISO9660 match wins**, whatever the UDF library would say. -/
theorem identifyVideo_iso (hhit : (identifyIso port trackLba out s).1 = true) :
    (identifyVideo port lib .cd .data trackLba out s).1 = (identifyIso port trackLba out s).2.1 := by
  unfold identifyVideo
  rw [if_pos ⟨rfl, rfl⟩]
  dsimp only
  rw [if_pos hhit]

/-- **On an unknown medium a UDF match wins**, whatever the ISO9660 walk would say. -/
theorem identifyVideo_udf (hhit : (identifyUdf port lib out s).1 = true) :
    (identifyVideo port lib .unknown toc trackLba out s).1 = (identifyUdf port lib out s).2.1 := by
  have hcd : ¬ (Medium.unknown = .cd ∧ toc = .data) := by
    rintro ⟨h, -⟩
    cases h
  unfold identifyVideo identifyFromUdf
  rw [if_neg hcd]
  dsimp only
  rw [if_pos hhit]

/-! ## The decision -/

/-- What the call is told before it probes the disc: the two looks at `not_ready`, the medium, the TOC,
    and the state that leaves. -/
structure Answers (W : Type) where
  notReadyBefore : Bool
  notReadyAfter : Bool
  medium : Medium
  toc : CdToc
  trackLba : UInt32
  sys : Sys W

/-- They are asked for in this order, each in the state the one before it leaves. -/
def DiscPort.answers (port : DiscPort W) (s : Sys W) : Answers W :=
  let before := port.otherThreads s
  let after := port.otherThreads (port.settle before)
  let (medium, s) := readMedium port.toScsiPort after
  let (toc, trackLba, s) := readCdToc port.toScsiPort s
  ⟨laserTokenNotReady before, laserTokenNotReady after, medium, toc, trackLba, s⟩

/-- Both looks answered 0, and the profile is not that of a DVD or a BD: READ TOC is asked. -/
def Answers.askToc (a : Answers W) : Prop :=
  a.notReadyBefore = false ∧ a.notReadyAfter = false ∧ a.medium ≠ .dvd ∧ a.medium ≠ .bd

/-- Which answers make the kind, and which probe goes first. -/
structure DecisionOrder (port : DiscPort W) (lib : UdfRead) (out : LaserDisc) (a : Answers W)
    (d : LaserDisc) : Prop where
  cdAudio : d.kind = .cdAudio ↔ a.askToc ∧ a.toc = .audio
  videoCd : d.kind.ofIso = true → a.askToc ∧ a.toc = .data
  isoFirst : a.askToc → a.medium = .cd → a.toc = .data →
    (identifyIso port a.trackLba out.zeroed a.sys).1 = true →
    d = (identifyIso port a.trackLba out.zeroed a.sys).2.1
  udfFirst : a.askToc → a.medium = .unknown → a.toc ≠ .audio →
    (identifyUdf port lib out.zeroed a.sys).1 = true →
    d = (identifyUdf port lib out.zeroed a.sys).2.1

/-- The ways through `laser_disc_identify()`. -/
inductive Decided (port : DiscPort W) (lib : UdfRead) (out : LaserDisc) (a : Answers W) :
    LaserDisc → Prop where
  | notReady : a.notReadyBefore = true ∨ a.notReadyAfter = true → Decided port lib out a out.zeroed
  | noToc (s : Sys W) : a.medium = .dvd ∨ a.medium = .bd →
      Decided port lib out a (identifyVideo port lib a.medium .none 0 out.zeroed s).1
  | audio : a.askToc → a.toc = .audio → Decided port lib out a { out.zeroed with kind := .cdAudio }
  | video : a.askToc → a.toc ≠ .audio →
      Decided port lib out a (identifyVideo port lib a.medium a.toc a.trackLba out.zeroed a.sys).1

theorem laserDiscIdentify_decided (out : LaserDisc) (s : Sys W) :
    Decided port lib out (port.answers s) (laserDiscIdentify port lib out s).1 := by
  unfold laserDiscIdentify
  dsimp only
  split
  next hbefore => exact .notReady (Or.inl hbefore)
  next hbefore =>
    split
    next hafter => exact .notReady (Or.inr hafter)
    next hafter =>
      split
      next hmedium =>
        have hask : (port.answers s).askToc := by
          refine ⟨Bool.eq_false_iff.mpr hbefore, Bool.eq_false_iff.mpr hafter, ?_, ?_⟩
          · intro h
            have hdvd : (readMedium port.toScsiPort _).1 = Medium.dvd := h
            rw [hdvd] at hmedium
            rcases hmedium with h | h <;> cases h
          · intro h
            have hbd : (readMedium port.toScsiPort _).1 = Medium.bd := h
            rw [hbd] at hmedium
            rcases hmedium with h | h <;> cases h
        split
        next haudio => exact .audio hask haudio
        next haudio => exact .video hask haudio
      next hmedium =>
        have hdisc : (port.answers s).medium = .dvd ∨ (port.answers s).medium = .bd := by
          show (readMedium port.toScsiPort _).1 = .dvd ∨ (readMedium port.toScsiPort _).1 = .bd
          cases hread : (readMedium port.toScsiPort (port.otherThreads (port.settle (port.otherThreads s)))).1 with
          | unknown => exact absurd (Or.inr hread) hmedium
          | cd => exact absurd (Or.inl hread) hmedium
          | dvd => exact Or.inl rfl
          | bd => exact Or.inr rfl
        exact .noToc _ hdisc

/-- **Identification is well formed and follows its order.** Whatever the drive, the token and the UDF
    library do, the record is one a consumer may rely on, and its kind is the one the answers call for. -/
theorem laserDiscIdentify_spec (hids : lib.Utf8VolumeIds) (out : LaserDisc) (s : Sys W) :
    LaserDisc.WellFormed out (laserDiscIdentify port lib out s).1
      ∧ DecisionOrder port lib out (port.answers s) (laserDiscIdentify port lib out s).1 := by
  have hdecided := @laserDiscIdentify_decided _ port lib out s
  generalize port.answers s = a at hdecided ⊢
  generalize (laserDiscIdentify port lib out s).1 = d at hdecided ⊢
  cases hdecided with
  | notReady hnot =>
      have hnone : ¬ a.askToc := by
        rintro ⟨hbefore, hafter, -⟩
        rw [hbefore, hafter] at hnot
        rcases hnot with h | h <;> cases h
      refine ⟨out.zeroed_wellFormed (Or.inl rfl), ?_, ?_, ?_, ?_⟩
      · constructor
        · intro h
          cases h
        · exact fun h => absurd h.1 hnone
      · intro h
        cases h
      · exact fun h => absurd h hnone
      · exact fun h => absurd h hnone
  | noToc s' hmedium =>
      have hnone : ¬ a.askToc := by
        rintro ⟨-, -, hdvd, hbd⟩
        exact hmedium.elim hdvd hbd
      have hvideo := @identifyVideo_outcome _ port _ out a.medium .none 0 hids s'
      refine ⟨hvideo.wellFormed, ?_, ?_, ?_, ?_⟩
      · exact ⟨fun h => absurd h hvideo.notAudio, fun h => absurd h.1 hnone⟩
      · intro h
        cases (hvideo.videoCd h).2
      · exact fun h => absurd h hnone
      · exact fun h => absurd h hnone
  | audio hask haudio =>
      refine ⟨out.zeroed_wellFormed (Or.inr rfl), ?_, ?_, ?_, ?_⟩
      · exact ⟨fun _ => ⟨hask, haudio⟩, fun _ => rfl⟩
      · intro h
        cases h
      · intro _ _ hdata
        rw [haudio] at hdata
        cases hdata
      · exact fun _ _ h => absurd haudio h
  | video hask haudio =>
      have hvideo := @identifyVideo_outcome _ port _ out a.medium a.toc a.trackLba hids a.sys
      refine ⟨hvideo.wellFormed, ?_, ?_, ?_, ?_⟩
      · exact ⟨fun h => absurd h hvideo.notAudio, fun h => absurd h.2 haudio⟩
      · exact fun h => ⟨hask, (hvideo.videoCd h).2⟩
      · intro _ hcd hdata hhit
        rw [hcd, hdata]
        exact identifyVideo_iso hhit
      · intro _ hunknown _ hhit
        rw [hunknown]
        exact identifyVideo_udf hhit

/-- The first bytes of a DVD-Video's blocks: the anchor at 256, the file entry of `VIDEO_TS.IFO` at 319, and
    the file behind it. -/
def dvdVideoBlock (lba : Nat) : List UInt8 :=
  if lba = 256 then [0x02, 0x00]
  else if lba = 319 then [0x05, 0x01]
  else if lba = 320 then ascii "DVDVIDEO-VMG"
  else []

/-- A drive with that DVD-ROM in it. -/
def dvdPort : DiscPort Unit where
  scsiCdb call s :=
    if call.cdb.getD 0 0 = 0x46 then (⟨.ok, some 8, [0, 0, 0, 4, 0, 0, 0x00, 0x10]⟩, s)
    else
      let block := dvdVideoBlock (beNat ((call.cdb.drop 2).take 4))
      (⟨.ok, some call.dataLen.toNat, block ++ List.replicate (call.dataLen.toNat - block.length) 0⟩, s)
  otherThreads s := s
  settle s := s
  stack _ _ := 0

/-- Read a block of a volume. -/
def readVolumeBlock (lba : UInt32) : UdfProgram (Option (Nat → UInt8)) := do
  let block ← Dialog.query ⟨lba, 1, fun _ => 0⟩
  pure (if block.ret = 1 then some block.memory else none)

/-- Does the block begin with this descriptor tag? -/
def readTag (lba : UInt32) (tag : List UInt8) : UdfProgram Bool := do
  match ← readVolumeBlock lba with
  | none => pure false
  | some memory => pure (bytesAt memory 0 tag.length == tag)

/-- A library that knows an anchor, and where one disc has its `VIDEO_TS.IFO` and its label. -/
def dvdVideoLibrary : UdfRead where
  Handle := Unit
  File := UInt32
  init := some ()
  openInput _ := do pure (if ← readTag 256 [0x02, 0x00] then 0 else -1, ())
  fileOpen _ path := do
    if path = "/VIDEO_TS/VIDEO_TS.IFO" then
      pure (if ← readTag 319 [0x05, 0x01] then some 320 else none, ())
    else pure (none, ())
  fileRead _ f n := do
    match ← readVolumeBlock f with
    | none => pure (-1, fun _ => 0, ())
    | some memory => pure (n, memory, ())
  fileClose _ _ := pure ()
  getVolumeId _ := pure (some longVolumeId, ())
  close _ := pure ()

theorem dvdVideoLibrary_utf8 : dvdVideoLibrary.Utf8VolumeIds := by
  intro _
  show ∀ id, some longVolumeId = some id → IsUtf8 id.bytes
  rintro id ⟨⟩
  exact isUtf8_longVolumeId

/-- The disc is a DVD-Video, its label the letters. -/
theorem laserDiscIdentify_dvdVideo :
    let out : LaserDisc := ⟨.vcd, fun _ => 0xFF⟩
    let s : Sys Unit := ⟨{ inUse := true, maxTransferBytes := laserMaxBytesPerTransfer }, (), []⟩
    let d := (laserDiscIdentify dvdPort dvdVideoLibrary out s).1
    d.kind = .dvdVideo ∧ d.label = List.replicate 31 0x41 ∧ LaserDisc.WellFormed out d
      ∧ DecisionOrder dvdPort dvdVideoLibrary out (dvdPort.answers s) d := by
  refine ⟨by decide, by decide, ?_⟩
  exact laserDiscIdentify_spec dvdVideoLibrary_utf8 _ _

end Liblaser
