import Liblaser.Disc.Image
import Liblaser.Disc.OverBus

/-!
# `Disc.Recognised` — what is in the drive is identified

`Disc.OverBus` says that what is identified is in the drive, and would say so of a library that identifies
nothing. Here the bus adds no failure of its own, nobody cancels, and the drive is ready, has its medium and
says what it is of it (`Target.OfCd`): then each command returns, each question is answered, each sector
comes, and **`discIdentify_recognises`** is that the CD is identified as what it is.
-/

namespace Liblaser

open Bytes Loop Service Transition

/-! ## What a drive says -/

section Toc

variable {toc toc' : Nat → UInt8} {n : Nat} {kind kind' : CdToc} {lba lba' : UInt32}

theorem FirstDataTrack.unique {i j : Nat} (hi : FirstDataTrack toc n i) (hj : FirstDataTrack toc n j) :
    i = j := by
  rcases Nat.lt_trichotomy i j with hlt | heq | hgt
  · exact absurd hi.data (hj.before i hlt hi.track)
  · exact heq
  · exact absurd hj.data (hi.before j hgt hj.track)

/-- A table of contents says one thing. -/
theorem TocSays.unique (h : TocSays toc n kind lba) (h' : TocSays toc n kind' lba') :
    kind = kind' ∧ lba = lba' := by
  refine ⟨h.kind.trans h'.kind.symm, ?_⟩
  rcases h.start with ⟨i, hi, hlba⟩ | ⟨rfl, hnone⟩ <;> rcases h'.start with ⟨j, hj, hlba'⟩ | ⟨rfl, hnone'⟩
  · obtain rfl := hi.unique hj
    exact UInt32.toNat_inj.mp (hlba.trans hlba'.symm)
  · exact absurd hi.data (hnone' i hi.arrived hi.track)
  · exact absurd hj.data (hnone j hj.arrived hj.track)
  · rfl

/-- And it is what the parser gets of it. -/
theorem TocSays.parse_eq (htoc : TocSays toc n kind lba) : parseCdToc toc n = (kind, lba) := by
  have hparsed : TocSays toc n (parseCdToc toc n).1 (parseCdToc toc n).2 := .of_parse htoc.arrived rfl
  obtain ⟨hkind, hlba⟩ := hparsed.unique htoc
  exact Prod.ext hkind hlba

end Toc

section Bus

variable {σ U : Type} {usb : UsbHost U} {clock : U → Timespec × U} {poll : U → Bool × U} {T : Target σ}
  {view : U → BotDevice σ} {epOut epIn lun : UInt8} {drive : Drive} {port : DiscPort U}
  {lib : UdfRead} {out : LaserDisc} {s t : Sys U} {features toc : List UInt8}

/-- The unit answers the command with these data, whatever it has done before. -/
def Target.Sends (T : Target σ) (lun : UInt8) (req : BotRequest) (data : List UInt8) : Prop :=
  ∀ s t c a, T.Serves lun s (req, (c, a)) t →
    a.status = usbBotStatusPass ∧ a.sent.take (a.count c) = data

/-- The unit is ready, and answers the two questions about the medium. -/
structure Target.OfCd (T : Target σ) (lun : UInt8) (features toc : List UInt8) : Prop where
  ready : T.Passes lun testUnitReadyRequest
  features : T.Sends lun getConfigurationCall.request features
  toc : T.Sends lun readTocCall.request toc

/-- What came of a question that was answered with these data. -/
structure Answered (r : CdbResult) (data : List UInt8) : Prop where
  ok : r.status = .ok
  count : r.actualLen.getD 0 = data.length
  bytes : ∀ k < data.length, storeAt (fun _ => 0) 0 r.data k = bufferOf data k

/-- **A question that the unit answers is answered**, on a bus without failures. -/
theorem Sys.Up.answered (hwired : Wired usb T epOut epIn lun view) (hunseen : Unseen clock poll view)
    (hcalm : Calm usb poll epOut epIn view) {call : CdbCall} {data : List UInt8} {r : CdbResult}
    (hsends : T.Sends lun call.request data)
    (hvalid : call.valid = true) (hdir : call.dataIn = true) (hwant : call.wantActualLen = true)
    (hcss : laserCdbChangesCssState call.cdb = false) (hup : s.Up epOut epIn lun view)
    (hgiven : ReturnsOrHangs (Host.ofUsb usb clock poll) call s r t) :
    Answered r data ∧ t.Up epOut epIn lun view := by
  have hbuffer : call.Buffered := by
    intro hout
    rw [hdir] at hout
    cases hout
  obtain ⟨r', t', hret, hok⟩ := hup.passed hwired hunseen hcalm
    (fun _ _ _ _ hserved => (hsends _ _ _ _ hserved).1) hvalid hbuffer hcss
  obtain ⟨rfl, rfl⟩ := hgiven.unique hret
  obtain ⟨c, a, earlier, hrun, -, hreports⟩ := hret.truthful_ok hwired hunseen hbuffer hup.at hok
  refine ⟨?_, (hret.keeps_up hwired hunseen hcalm.untroubled hbuffer hup).1⟩
  cases hrun with
  | step _ hserved =>
      obtain ⟨-, hdata⟩ := hsends _ _ _ _ hserved
      obtain ⟨⟨received, -, hcommand⟩, hstep⟩ := hserved
      have hin : c.dataIn = true := by
        have hcommand : c = call.request.command lun received := hcommand
        rw [hcommand]
        exact hdir
      have hle := (T.meaningful hstep).count_le_sent hin
      have hcount : data.length = a.count c := by rw [← hdata, List.length_take, Nat.min_eq_left hle]
      refine ⟨hok, ?_, ?_⟩
      · rw [hreports.count hwant, hcount, Option.getD_some]
      · intro k hk
        rw [hreports.buffer hdir k (by omega), ← hdata]
        simp [bufferOf, List.getD_eq_getElem?_getD, show k < a.count c by omega]

/-! ## The two questions -/

theorem readMedium_of_answered {W : Type} {port : ScsiPort W} {s : Sys W} (hlong : 8 ≤ features.length)
    (hanswered : Answered (port.scsiCdb getConfigurationCall s).1 features) :
    readMedium port s = (mediumOfProfile (beNat (bytesAt (bufferOf features) 6 2)),
      (port.scsiCdb getConfigurationCall s).2) := by
  have hbytes : bytesAt (storeAt (fun _ => 0) 0 (port.scsiCdb getConfigurationCall s).1.data) 6 2
      = bytesAt (bufferOf features) 6 2 :=
    bytesAt_congr fun i hi => hanswered.bytes (6 + i) (by omega)
  unfold readMedium
  dsimp only
  rw [if_neg, hbytes]
  rintro (hno | hshort)
  · exact hno hanswered.ok
  · rw [hanswered.count] at hshort
    omega

theorem readCdToc_of_answered {W : Type} {port : ScsiPort W} {s : Sys W} {kind : CdToc} {lba : UInt32}
    (htoc : TocSays (bufferOf toc) toc.length kind lba)
    (hanswered : Answered (port.scsiCdb readTocCall s).1 toc) :
    readCdToc port s = (kind, lba, (port.scsiCdb readTocCall s).2) := by
  have hlong := htoc.arrived.received
  have hparse : parseCdToc (storeAt (fun _ => 0) 0 (port.scsiCdb readTocCall s).1.data) toc.length
      = (kind, lba) := by
    rw [parseCdToc_congr hlong hanswered.bytes]
    exact htoc.parse_eq
  unfold readCdToc
  dsimp only
  rw [if_neg, hanswered.count, hparse]
  rintro (hno | hshort)
  · exact hno hanswered.ok
  · rw [hanswered.count] at hshort
    omega

/-- A unit that is ready needs no wait, and `not_ready` stays as it was. -/
theorem Sys.Up.settle_ready (hwired : Wired usb T epOut epIn lun view) (hunseen : Unseen clock poll view)
    (hcalm : Calm usb poll epOut epIn view) (hready : T.Passes lun testUnitReadyRequest)
    (hup : s.Up epOut epIn lun view) (fuel : Nat) :
    ∃ t, laserTokenSettle (Host.ofUsb usb clock poll) fuel s = some t
      ∧ t.entry.notReady = s.entry.notReady := by
  unfold laserTokenSettle
  split
  · exact ⟨_, rfl, rfl⟩
  dsimp only
  split
  · exact ⟨_, rfl, rfl⟩
  rw [if_pos]
  · exact ⟨_, rfl, rfl⟩
  · left
    refine hready.outcome hwired hcalm.untroubled (WaitSends.sendable _ _ .poll) hup.on ?_
    show (view (poll s.world).2).Idle
    rw [hunseen.poll]
    exact hup.idle

theorem Sys.Up.settled (hwired : Wired usb T epOut epIn lun view) (hunseen : Unseen clock poll view)
    (hcalm : Calm usb poll epOut epIn view) (hready : T.Passes lun testUnitReadyRequest)
    (hup : s.Up epOut epIn lun view) (hgiven : SettlesOrHangs (Host.ofUsb usb clock poll) s t) :
    t.Up epOut epIn lun view ∧ t.entry.notReady = s.entry.notReady := by
  cases hgiven with
  | @settles fuel _ hret =>
      obtain ⟨t', hret', hsame⟩ := hup.settle_ready hwired hunseen hcalm hready fuel
      rw [hret] at hret'
      cases hret'
      exact ⟨hup.settle hwired hunseen hcalm.untroubled hret, hsame⟩
  | hangs hnever =>
      obtain ⟨t', hret, -⟩ := hup.settle_ready hwired hunseen hcalm hready 0
      rw [hnever 0] at hret
      cases hret

end Bus

/-! ## The detector on a source that delivers -/

/-- **Video CD detection is exact** on a source that delivers the disc. -/
theorem detectIsoVideo_delivering {W : Type} {answer : UInt32 → W → Option (Nat → UInt8) × W}
    {I : W → Prop} {disc : IsoDisc} {w : W}
    (hdelivering : Dialog.Delivering answer I SameSector disc) (hw : I w) (base : UInt32)
    (dst : Nat → UInt8) : VideoSearch disc base dst ((detectIsoVideo base dst).run answer w).1 := by
  rw [(detectIsoVideo_respects base dst).run_delivering hdelivering hw]
  exact detectIsoVideo_search disc base dst

/-- A Video CD or a Super Video CD is reported when it is there, and not else; with its label. -/
structure VideoRecognised (disc : IsoDisc) (base : UInt32) (d : LaserDisc) : Prop where
  vcd : d.kind = .vcd ↔ HasVideo disc base vcdProbe
  svcd : d.kind = .svcd ↔ ¬ HasVideo disc base vcdProbe ∧ HasVideo disc base svcdProbe
  label : d.kind.ofIso = true → ∃ pvd, HasPvd disc base pvd ∧ d.label = isoVolumeLabel pvd

/-- It is not, and a record says nothing of it. -/
theorem VideoRecognised.of_other {disc : IsoDisc} {base : UInt32} {d : LaserDisc}
    (hnone : ∀ probe ∈ [vcdProbe, svcdProbe], ¬ HasVideo disc base probe) (hkind : d.kind.ofIso = false) :
    VideoRecognised disc base d := by
  have hvcd := hnone vcdProbe (by simp)
  have hsvcd := hnone svcdProbe (by simp)
  refine ⟨⟨?_, fun h => absurd h hvcd⟩, ⟨?_, fun h => absurd h.2 hsvcd⟩, ?_⟩
  · intro h
    simp [h, LaserDiscKind.ofIso] at hkind
  · intro h
    simp [h, LaserDiscKind.ofIso] at hkind
  · intro h
    rw [h] at hkind
    cases hkind

/-- **The ISO9660 probe recognises what is on the disc**, or leaves the kind when neither path is there. -/
theorem identifyIso_recognises {U : Type} {port : DiscPort U} {disc : IsoDisc} {I : Sys U → Prop}
    {out : LaserDisc} {s : Sys U}
    (hdelivering : Dialog.Delivering (isoReadSector port.toScsiPort port.stack) I SameSector disc) (hs : I s)
    (base : UInt32) :
    ((identifyIso port base out s).1 = true ∧ VideoRecognised disc base (identifyIso port base out s).2.1)
      ∨ ((identifyIso port base out s).1 = false ∧ (identifyIso port base out s).2.1.kind = out.kind
        ∧ ∀ probe ∈ [vcdProbe, svcdProbe], ¬ HasVideo disc base probe) := by
  have hsearch := detectIsoVideo_delivering hdelivering hs base out.volumeId
  unfold identifyIso
  generalize (detectIsoVideo base out.volumeId).run (isoReadSector port.toScsiPort port.stack) s = r
    at hsearch ⊢
  obtain ⟨⟨found, volumeId⟩, s'⟩ := r
  have hlabel : found ≠ .none → ∃ pvd, HasPvd disc base pvd
      ∧ cStringAt volumeId laserDiscVolumeIdMax = isoVolumeLabel pvd := by
    intro hkind
    obtain ⟨pvd, hpvd, hlabelled⟩ := hsearch.label hkind
    exact ⟨pvd, hpvd, hlabelled.label_eq⟩
  cases found with
  | none =>
      right
      obtain ⟨hvcd, hsvcd⟩ := hsearch.none.mp rfl
      exact ⟨rfl, rfl, by simp [hvcd, hsvcd]⟩
  | vcd =>
      left
      have hvcd := hsearch.vcd.mp rfl
      refine ⟨rfl, ⟨fun _ => hvcd, fun _ => rfl⟩, ⟨fun h => (by cases h), fun h => absurd hvcd h.1⟩, ?_⟩
      exact fun _ => hlabel (by decide)
  | svcd =>
      left
      have hsvcd := hsearch.svcd.mp rfl
      refine ⟨rfl, ⟨fun h => (by cases h), fun h => absurd h hsvcd.1⟩, ⟨fun _ => hsvcd, fun _ => rfl⟩, ?_⟩
      exact fun _ => hlabel (by decide)

/-- On a known CD with a data track, the record is of what the ISO9660 probe recognised: what the UDF
    library finds instead is no Video CD. -/
theorem identifyVideo_recognises {U : Type} {port : DiscPort U} {lib : UdfRead} {disc : IsoDisc}
    {I : Sys U → Prop} {out : LaserDisc} {s : Sys U}
    (hdelivering : Dialog.Delivering (isoReadSector port.toScsiPort port.stack) I SameSector disc) (hs : I s)
    (hout : out.kind = .unknown) (base : UInt32) :
    VideoRecognised disc base (identifyVideo port lib .cd .data base out s).1 := by
  have hiso := @identifyIso_recognises _ port _ _ out s hdelivering hs base
  unfold identifyVideo
  rw [if_pos ⟨rfl, rfl⟩]
  generalize identifyIso port base out s = r at hiso ⊢
  obtain ⟨found, d, s'⟩ := r
  rcases hiso with ⟨hfound, hrecognised⟩ | ⟨hfound, hkind, hnone⟩
  · obtain rfl : found = true := hfound
    exact hrecognised
  · obtain rfl : found = false := hfound
    obtain ⟨hother, -⟩ := @identifyUdf_kind _ port lib d s' (hkind.trans hout)
    refine .of_other hnone ?_
    show (identifyFromUdf port lib .cd .data base d s').1.kind.ofIso = false
    unfold identifyFromUdf
    generalize identifyUdf port lib d s' = r at hother ⊢
    obtain ⟨found, d', s''⟩ := r
    cases found <;> exact hother

/-- **What is in the drive is identified.** On a bus that adds no failure of its own, with nobody
    cancelling, `not_ready` down, and a unit that is ready, passes every read of its medium, and answers GET
    CONFIGURATION with the profile of a CD and READ TOC with a table of contents: an audio CD by its first
    descriptor is reported as one, and on any other a Video CD or a Super Video CD is reported exactly when
    `iso_find_child()` leads to it on the medium, in the first four sectors of each directory, with its
    label, whatever the UDF library does. -/
theorem discIdentify_recognises {σ U : Type} {usb : UsbHost U} {clock : U → Timespec × U}
    {poll : U → Bool × U} {T : Target σ} {view : U → BotDevice σ} {epOut epIn lun : UInt8} {drive : Drive}
    {port : DiscPort U} {features toc : List UInt8} {kind : CdToc} {base : UInt32}
    (hwired : Wired usb T epOut epIn lun view) (hunseen : Unseen clock poll view)
    (hcalm : Calm usb poll epOut epIn view) (hholds : T.Holds lun drive) (hserves : T.ServesAll lun drive)
    (hcd : T.OfCd lun features toc) (hlong : 8 ≤ features.length)
    (hprofile : mediumOfProfile (beNat (bytesAt (bufferOf features) 6 2)) = .cd)
    (htoc : TocSays (bufferOf toc) toc.length kind base)
    (hbus : port.OverBus (Host.ofUsb usb clock poll) epOut epIn lun view)
    (hothers : ∀ s, s.Up epOut epIn lun view → (port.otherThreads s).Up epOut epIn lun view
      ∧ (port.otherThreads s).entry.notReady = s.entry.notReady)
    (lib : UdfRead) (out : LaserDisc) (s : Sys U) (hup : s.Up epOut epIn lun view)
    (hready : s.entry.notReady = false) :
    (kind = .audio → (laserDiscIdentify port lib out s).1.kind = .cdAudio)
      ∧ (kind = .data → VideoRecognised drive.isoDisc base (laserDiscIdentify port lib out s).1) := by
  -- what is asked before the probes
  obtain ⟨hup₁, hready₁⟩ := hothers s hup
  obtain ⟨hup₂, hready₂⟩ := hup₁.settled hwired hunseen hcalm hcd.ready (hbus.settles _ hup₁.at)
  obtain ⟨hup₃, hready₃⟩ := hothers _ hup₂
  obtain ⟨hmedium, hup₄⟩ := hup₃.answered hwired hunseen hcalm hcd.features (by decide) rfl rfl (by decide)
    (hbus.runs _ _ (.inl rfl) hup₃.at)
  obtain ⟨hanswered, hup₅⟩ := hup₄.answered hwired hunseen hcalm hcd.toc (by decide) rfl rfl (by decide)
    (hbus.runs _ _ (.inr rfl) hup₄.at)
  have hsettled : (port.otherThreads (port.settle (port.otherThreads s))).entry.notReady = false := by
    rw [hready₃, hready₂, hready₁, hready]
  have hmedium := readMedium_of_answered hlong hmedium
  rw [hprofile] at hmedium
  have hread := readCdToc_of_answered htoc hanswered
  obtain ⟨t, hup', hanswers⟩ : ∃ t : Sys U, t.Up epOut epIn lun view
      ∧ port.answers s = ⟨false, false, .cd, kind, base, t⟩ := by
    refine ⟨_, hup₅, ?_⟩
    unfold DiscPort.answers laserTokenNotReady
    simp only [hmedium, hread, hsettled, hready₁, hready, Bool.and_false]
  have hdecided : Decided port lib out (port.answers s) (laserDiscIdentify port lib out s).1 :=
    laserDiscIdentify_decided out s
  rw [hanswers] at hdecided
  have hdelivering : Dialog.Delivering (isoReadSector port.toScsiPort port.stack) _ SameSector drive.isoDisc :=
    isoReadSector_delivering hwired hunseen hcalm hholds hserves hbus.blocks fun s hup => (hothers s hup).1
  generalize (laserDiscIdentify port lib out s).1 = d at hdecided ⊢
  cases hdecided with
  | notReady hnot => rcases hnot with h | h <;> cases h
  | noToc s' hmedium => rcases hmedium with h | h <;> cases h
  | audio _ haudio =>
      refine ⟨fun _ => rfl, ?_⟩
      rintro rfl
      cases haudio
  | video _ hother =>
      refine ⟨fun haudio => absurd haudio hother, ?_⟩
      rintro rfl
      exact identifyVideo_recognises hdelivering hup' rfl base

/-! ## A Video CD in its drive -/

/-- A part of the data is what is sent. -/
theorem CdDrive.ofCd (drive : CdDrive) (lun : UInt8) :
    drive.target.OfCd lun drive.features drive.toc where
  ready := drive.ready lun
  features := by
    rintro s t c a ⟨⟨received, -, hcommand⟩, -, heq⟩
    obtain rfl : c = getConfigurationCall.request.command lun received := hcommand
    obtain rfl : drive.answer (getConfigurationCall.request.command lun received) = a := congrArg Prod.fst heq
    rw [drive.answer_features, Response.part_count]
    exact ⟨rfl, List.take_length⟩
  toc := by
    rintro s t c a ⟨⟨received, -, hcommand⟩, -, heq⟩
    obtain rfl : c = readTocCall.request.command lun received := hcommand
    obtain rfl : drive.answer (readTocCall.request.command lun received) = a := congrArg Prod.fst heq
    rw [drive.answer_toc, Response.part_count]
    exact ⟨rfl, List.take_length⟩

theorem videoCdInDrive_toc :
    TocSays (bufferOf videoCdInDrive.toc) videoCdInDrive.toc.length .data 0 where
  arrived := ⟨by decide, by decide, by decide⟩
  kind := by decide
  start := .inl ⟨0, ⟨⟨by decide, by decide, by decide⟩, by decide, by decide,
    fun j hj => absurd hj (Nat.not_lt_zero j)⟩, by decide⟩

/-- It is identified as one. -/
theorem discIdentify_recognises_videoCd :
    let s : Sys (BotDevice Unit) :=
      ⟨{ inUse := true, epIn := 0x81, epOut := 0x02, maxTransferBytes := laserMaxBytesPerTransfer },
        ⟨(), .ready, false, false, false⟩, []⟩
    (laserDiscIdentify (.ideal videoCdInDrive.exec 0x02 0x81) dvdVideoLibrary ⟨.unknown, fun _ => 0⟩ s).1.kind
        = .vcd := by
  intro s
  have hon : s.entry.On 0x02 0x81 0 := ⟨rfl, rfl, rfl⟩
  have hwired := Wired.ideal videoCdInDrive.exec_meaningful hon (by decide) (by decide)
  have hrecognised := discIdentify_recognises hwired ⟨fun _ => rfl, fun _ => rfl⟩
    (BotDevice.ideal_calm _ _ _) (videoCdInDrive.servedBy.holds 0) (videoCdInDrive.servedBy.servesAll 0)
    (videoCdInDrive.ofCd 0) (by decide) (by decide) videoCdInDrive_toc (videoCdInDrive.overBus 0 hwired)
    (fun _ hup => ⟨hup, rfl⟩) dvdVideoLibrary ⟨.unknown, fun _ => 0⟩ s
    ⟨hon, ⟨rfl, rfl, rfl, rfl⟩, rfl, rfl, by decide⟩ rfl
  exact (hrecognised.2 rfl).vcd.mpr ((videoCd_onDisc.hasVideo_iff vcdProbe).mpr videoCd_hasInfo)

end Liblaser
