import Liblaser.Disc.Image
import Liblaser.Disc.Toc
import Liblaser.Disc.WellFormed
import Liblaser.Scsi.Truthful

/-!
# `Disc.OverBus` — what is identified is what is in the drive

`laser_disc_identify()` is many commands, and any of them may fail for reasons that are no business of the
disc's. Its answer must not be made of failures: **`discIdentify_truthful`** is that what it says of a CD it
says on the drive's word, a table of contents the drive passed and sent, and blocks of the medium. On a table
without a data track, which is one of audio or has the lead-out first, there is nothing to start from but
block 0 (`TocSays.start`).
-/

namespace Liblaser

open Bytes Loop Service Transition

/-! ## What a table of contents says -/

/-- The kind is that of the first descriptor, and the start that of the first data track; of the answer
    nothing is looked at but what arrived. -/
structure TocSays (toc : Nat → UInt8) (transferred : Nat) (kind : CdToc) (lba : UInt32) : Prop where
  arrived : Arrived toc transferred 0
  kind : kind = if IsData toc 0 then .data else .audio
  start : (∃ i, FirstDataTrack toc transferred i ∧ lba.toNat = beNat (bytesAt toc (4 + i * 8 + 4) 4))
    ∨ (lba = 0 ∧ ∀ i, Arrived toc transferred i → IsTrack toc i → ¬ IsData toc i)

section Toc

variable {toc toc' : Nat → UInt8} {n : Nat}

theorem TocSays.of_parse {kind : CdToc} {lba : UInt32} (harrived : Arrived toc n 0)
    (hparse : parseCdToc toc n = (kind, lba)) : TocSays toc n kind lba := by
  rw [parseCdToc_of_arrived harrived, Prod.mk.injEq] at hparse
  obtain ⟨rfl, rfl⟩ := hparse
  exact ⟨harrived, rfl, start_exact toc n⟩

theorem firstDataLba_congr {left i : Nat}
    (hsame : ∀ k < 4 + (i + left) * 8, toc k = toc' k) :
    firstDataLba toc left i = firstDataLba toc' left i := by
  induction left generalizing i with
  | zero => rfl
  | succ left ih =>
      have hrest : firstDataLba toc left (i + 1) = firstDataLba toc' left (i + 1) :=
        ih fun k hk => hsame k (by omega)
      have hlba : bytesAt toc (4 + i * 8 + 4) 4 = bytesAt toc' (4 + i * 8 + 4) 4 :=
        bytesAt_congr fun j hj => hsame _ (by omega)
      unfold firstDataLba
      dsimp only
      rw [hsame (4 + i * 8 + 1) (by omega), hsame (4 + i * 8 + 2) (by omega), hlba, hrest]

/-- What did not arrive makes no difference. -/
theorem parseCdToc_congr (hlong : 12 ≤ n) (hsame : ∀ k < n, toc k = toc' k) :
    parseCdToc toc n = parseCdToc toc' n := by
  have hlen : bytesAt toc 0 2 = bytesAt toc' 0 2 := bytesAt_congr fun j hj => hsame _ (by omega)
  unfold parseCdToc
  dsimp only
  rw [hlen, hsame 5 (by omega)]
  split
  · rfl
  next hannounced =>
  generalize beNat (bytesAt toc' 0 2) + 2 = announced at hannounced ⊢
  have havail : (if 128 < (if n < announced then n else announced) then 128
      else (if n < announced then n else announced)) ≤ n
      ∧ 12 ≤ (if 128 < (if n < announced then n else announced) then 128
        else (if n < announced then n else announced)) := by
    repeat' split
    all_goals omega
  generalize (if 128 < (if n < announced then n else announced) then 128
      else (if n < announced then n else announced)) = avail at havail ⊢
  rw [@firstDataLba_congr toc toc' _ _ fun k hk => hsame k (by omega)]

theorem Arrived.congr (hsame : ∀ k < n, toc k = toc' k) (harrived : Arrived toc n 0) :
    Arrived toc' n 0 := by
  obtain ⟨hannounced, hreceived, hbuffered⟩ := harrived
  have hlen : bytesAt toc 0 2 = bytesAt toc' 0 2 := bytesAt_congr fun j hj => hsame _ (by omega)
  exact ⟨hlen ▸ hannounced, hreceived, hbuffered⟩

end Toc

/-! ## What a UDF library is given -/

section Callback

variable {W : Type} {port : ScsiPort W} {req : BlockRequest} {sbi : ScsiBlockInput W}

theorem udfReadCb_gone (hgone : sbi.gone = true) :
    udfReadCb port req sbi = (⟨-1, req.memory⟩, sbi) := by
  unfold udfReadCb
  rw [if_pos hgone]

/-- What the callback leaves when it reads. -/
theorem udfReadCb_input (hlive : sbi.gone = false) :
    (udfReadCb port req sbi).2 =
      ⟨(readChunkedToEnd port .read10 req.lba (cInt req.nblocks.toNat) req.memory sbi.sys).ret
          == LaserStatus.errMediaGone.code
        || (readChunkedToEnd port .read10 req.lba (cInt req.nblocks.toNat) req.memory sbi.sys).ret
          == LaserStatus.errNoDevice.code,
        (readChunkedToEnd port .read10 req.lba (cInt req.nblocks.toNat) req.memory sbi.sys).sys⟩ := by
  unfold udfReadCb
  rw [hlive]
  rfl

/-- It stays where the reads stay. -/
theorem ScsiPort.StaysIn.udfReadCb {I : Sys W → Prop} (hstays : port.StaysIn I) (req : BlockRequest)
    (sbi : ScsiBlockInput W) (hs : I sbi.sys) : I (udfReadCb port req sbi).2.sys := by
  cases hgone : sbi.gone with
  | true =>
      rw [udfReadCb_gone hgone]
      exact hs
  | false =>
      obtain ⟨n, hn⟩ : ∃ n, n = cInt req.nblocks.toNat := ⟨_, rfl⟩
      have hrun := readChunkedToEnd_spec port .read10 req.lba n req.memory sbi.sys
      rw [udfReadCb_input hgone, ← hn]
      generalize readChunkedToEnd port .read10 req.lba n req.memory sbi.sys = r at hrun ⊢
      exact hstays.readChunked hs hrun

end Callback

/-! ## On a bus -/

/-- The bytes that count are in the buffer. -/
theorem CdbResult.Reports.buffer {call : CdbCall} {r : CdbResult} {c : Command} {a : Response}
    (hreports : r.Reports call c a) (hdir : call.dataIn = true) :
    ∀ k < a.count c, storeAt (fun _ => 0) 0 r.data k = a.sent.getD k 0 := by
  intro k hk
  have hmine : (r.data.take (a.count c)).getD k 0 = (a.sent.take (a.count c)).getD k 0 := by
    rw [hreports.bytes hdir]
  simp only [List.getD_eq_getElem?_getD, List.getElem?_take, if_pos hk] at hmine ⊢
  rw [← hmine]
  simp [storeAt]

section Bus

variable {σ U : Type} {usb : UsbHost U} {clock : U → Timespec × U} {poll : U → Bool × U} {T : Target σ}
  {view : U → BotDevice σ} {epOut epIn lun : UInt8} {drive : Drive} {port : DiscPort U}
  {lib : UdfRead} {out : LaserDisc} {s s' : Sys U}

/-- What a port does for `laser_token_settle()` on this host. A wait that never ends would keep its caller
    for ever; nothing done stands in for it. -/
inductive SettlesOrHangs {W : Type} (h : Host W) (s : Sys W) : Sys W → Prop where
  | settles {fuel : Nat} {t : Sys W} (hret : laserTokenSettle h fuel s = some t) : SettlesOrHangs h s t
  | hangs (hnever : ∀ fuel, laserTokenSettle h fuel s = none) : SettlesOrHangs h s s

/-- The port is the library on this host: `laser_scsi_cdb()`, for reads and for the two questions about the
    medium, and `laser_token_settle()`; other threads leave the device in step. -/
structure DiscPort.OverBus (port : DiscPort U) (h : Host U) (epOut epIn lun : UInt8)
    (view : U → BotDevice σ) : Prop where
  blocks : port.toScsiPort.OverBus h epOut epIn lun view
  runs : ∀ call s, call = getConfigurationCall ∨ call = readTocCall → s.At epOut epIn lun view →
    ReturnsOrHangs h call s (port.scsiCdb call s).1 (port.scsiCdb call s).2
  settles : ∀ s, s.At epOut epIn lun view → SettlesOrHangs h s (port.settle s)

/-- A table of contents of the drive's: the last thing the unit did was to pass a READ TOC, and what it
    sent says so. -/
def TocSent (T : Target σ) (lun : UInt8) (view : U → BotDevice σ) (before after : Sys U) (kind : CdToc)
    (lba : UInt32) : Prop :=
  ∃ c a earlier, Run (T.Serves lun) (view before.world).target ((readTocCall.request, (c, a)) :: earlier)
      (view after.world).target
    ∧ a.status = usbBotStatusPass ∧ TocSays (fun i => a.sent.getD i 0) (a.count c) kind lba

/-- What `read_cd_toc()` says is what the drive sent. -/
theorem readCdToc_truthful (hwired : Wired usb T epOut epIn lun view)
    (hunseen : Unseen clock poll view) (hat : s.At epOut epIn lun view)
    (hgiven : ReturnsOrHangs (Host.ofUsb usb clock poll) readTocCall s (port.scsiCdb readTocCall s).1
      (port.scsiCdb readTocCall s).2)
    (hsome : (readCdToc port.toScsiPort s).1 ≠ .none) :
    TocSent T lun view s (port.scsiCdb readTocCall s).2 (readCdToc port.toScsiPort s).1
      (readCdToc port.toScsiPort s).2.1 := by
  obtain ⟨r, s', hreply⟩ : ∃ r s', port.scsiCdb readTocCall s = (r, s') := ⟨_, _, rfl⟩
  rw [hreply] at hgiven ⊢
  have hok : r.status = .ok := by
    by_contra hno
    refine hsome ?_
    unfold readCdToc
    rw [hreply]
    dsimp only
    rw [if_pos (.inl hno)]
  have hret := hgiven.returned (by rw [hok]; decide)
  have hparse := readCdToc_of_ok hreply hok
  have harrived : Arrived (tocAnswer r) (r.actualLen.getD 0) 0 := by
    by_contra hno
    have hnone := readCdToc_of_none_arrived hreply hok hno
    exact hsome (Prod.mk.inj hnone).1
  rw [if_neg (Nat.not_lt_of_le harrived.received)] at hparse
  obtain ⟨c, a, earlier, hrun, hstatus, hreports⟩ :=
    hret.truthful_ok hwired hunseen (fun hout => by cases hout) hat hok
  have hcount : r.actualLen.getD 0 = a.count c := by rw [hreports.count rfl, Option.getD_some]
  rw [hcount] at harrived hparse
  have hsame : ∀ k < a.count c, tocAnswer r k = a.sent.getD k 0 := hreports.buffer rfl
  refine ⟨c, a, earlier, hrun, hstatus, .of_parse (harrived.congr hsame) ?_⟩
  rw [← parseCdToc_congr harrived.received hsame, ← hparse]

/-- The state at the READ TOC. -/
def DiscPort.beforeToc (port : DiscPort U) (s : Sys U) : Sys U :=
  (readMedium port.toScsiPort (port.otherThreads (port.settle (port.otherThreads s)))).2

/-- What comes before the probes leaves the device in step, and the transfer cap where it is. -/
theorem DiscPort.OverBus.settle_reads (hwired : Wired usb T epOut epIn lun view)
    (hunseen : Unseen clock poll view)
    (hbus : port.OverBus (Host.ofUsb usb clock poll) epOut epIn lun view)
    (hs : s.Reads epOut epIn lun view) : (port.settle s).Reads epOut epIn lun view := by
  have hgiven := hbus.settles s hs.at_
  generalize port.settle s = t at hgiven ⊢
  cases hgiven with
  | hangs _ => exact hs
  | settles hret =>
      have hat := ((laserTokenSettle_steps hret).served hwired hunseen
        (fun sender req hsends => (WaitSends.sendable sender req hsends).1) hs.at_).1
      have hkept := (kept_preserved (Host.ofUsb usb clock poll) (fun _ => True) s.entry).laserTokenSettle
        (fun _ _ => trivial) rfl hret
      have hcap := congrArg LaserEntry.maxTransferBytes hkept
      exact ⟨hat, Nat.le_trans (Nat.le_of_eq hcap) hs.capped⟩

theorem DiscPort.OverBus.asked_reads (hwired : Wired usb T epOut epIn lun view)
    (hunseen : Unseen clock poll view)
    (hbus : port.OverBus (Host.ofUsb usb clock poll) epOut epIn lun view) {call : CdbCall}
    (hcall : call = getConfigurationCall ∨ call = readTocCall) (hs : s.Reads epOut epIn lun view) :
    (port.scsiCdb call s).2.Reads epOut epIn lun view := by
  have hret := hbus.runs call s hcall hs.at_
  have hbuffer : call.Buffered := by
    rcases hcall with rfl | rfl <;> exact fun hout => by cases hout
  exact ⟨hret.at_end hwired hunseen hbuffer hs.at_, Nat.le_trans (Nat.le_of_eq hret.cap) hs.capped⟩

theorem identifyUdf_reads (hwired : Wired usb T epOut epIn lun view) (hunseen : Unseen clock poll view)
    (hbus : port.toScsiPort.OverBus (Host.ofUsb usb clock poll) epOut epIn lun view)
    (hs : s.Reads epOut epIn lun view) :
    (identifyUdf port lib out s).2.2.Reads epOut epIn lun view := by
  have hkept := Dialog.run_keeps (I := fun sbi : ScsiBlockInput U => sbi.sys.Reads epOut epIn lun view)
    (hbus.reads hwired hunseen).udfReadCb (detectUdfDisc lib out.volumeId) (s := ⟨false, s⟩) hs
  unfold identifyUdf
  generalize (detectUdfDisc lib out.volumeId).run (udfReadCb port.toScsiPort) ⟨false, s⟩ = r at hkept ⊢
  obtain ⟨⟨found, volumeId⟩, sbi⟩ := r
  cases found <;> exact hkept

/-! ## What the probes say -/

/-- What is said of a Video CD is on the disc, with the label. -/
structure VideoOnDisc (disc : IsoDisc) (base : UInt32) (d : LaserDisc) : Prop where
  vcd : d.kind = .vcd → HasVideo disc base vcdProbe
  svcd : d.kind = .svcd → HasVideo disc base svcdProbe
  label : d.kind.ofIso = true → ∃ pvd, HasPvd disc base pvd ∧ d.label = isoVolumeLabel pvd

/-- A record whose kind says nothing of a Video CD. -/
theorem VideoOnDisc.of_other {disc : IsoDisc} {base : UInt32} {d : LaserDisc} (hkind : d.kind.ofIso = false) :
    VideoOnDisc disc base d := by
  refine ⟨?_, ?_, fun h => absurd h (by simp [hkind])⟩ <;>
    · intro h
      rw [h] at hkind
      cases hkind

/-- A UDF match is none, and without a match the kind is left. -/
theorem identifyUdf_kind (hout : out.kind = .unknown) :
    (identifyUdf port lib out s).2.1.kind.ofIso = false
      ∧ (identifyUdf port lib out s).2.1.kind ≠ .cdAudio
      ∧ ((identifyUdf port lib out s).1 = false → (identifyUdf port lib out s).2.1.kind = .unknown) := by
  unfold identifyUdf
  generalize (detectUdfDisc lib out.volumeId).run (udfReadCb port.toScsiPort) ⟨false, s⟩ = r
  obtain ⟨⟨found, volumeId⟩, sbi⟩ := r
  cases found <;> simp [hout, LaserDiscKind.ofIso]

/-- The ISO9660 probe does not report an audio CD. -/
theorem identifyIso_kind {base : UInt32} (hout : out.kind = .unknown) :
    (identifyIso port base out s).2.1.kind ≠ .cdAudio
      ∧ ((identifyIso port base out s).1 = false → (identifyIso port base out s).2.1.kind = .unknown) := by
  unfold identifyIso
  generalize (detectIsoVideo base out.volumeId).run (isoReadSector port.toScsiPort port.stack) s = r
  obtain ⟨⟨found, volumeId⟩, s'⟩ := r
  cases found <;> simp [hout]

/-- **The ISO9660 probe says what is on the disc.** -/
theorem identifyIso_truthful {disc : IsoDisc} {I : Sys U → Prop}
    (hlossy : Dialog.Lossy (isoReadSector port.toScsiPort port.stack) I SameSector disc) (hs : I s)
    (hout : out.kind = .unknown) (base : UInt32) :
    VideoOnDisc disc base (identifyIso port base out s).2.1 := by
  have hfound := detectIsoVideo_lossy hlossy hs base out.volumeId
  unfold identifyIso
  generalize (detectIsoVideo base out.volumeId).run (isoReadSector port.toScsiPort port.stack) s = r
    at hfound ⊢
  obtain ⟨⟨found, volumeId⟩, s'⟩ := r
  have hlabel : found ≠ .none → ∃ pvd, HasPvd disc base pvd
      ∧ cStringAt volumeId laserDiscVolumeIdMax = isoVolumeLabel pvd := by
    intro hkind
    obtain ⟨pvd, hpvd, hlabelled⟩ := hfound.label hkind
    exact ⟨pvd, hpvd, hlabelled.label_eq⟩
  cases found with
  | none => exact .of_other (by rw [hout]; rfl)
  | vcd => exact ⟨fun _ => hfound.vcd rfl, fun h => (by cases h), fun _ => hlabel (by decide)⟩
  | svcd => exact ⟨fun h => (by cases h), fun _ => hfound.svcd rfl, fun _ => hlabel (by decide)⟩

/-- What all the probes together say: nothing of an audio CD, and of a Video CD only with a data track. -/
structure VideoSaid (toc : CdToc) (d : LaserDisc) : Prop where
  notAudio : d.kind ≠ .cdAudio
  asked : d.kind.ofIso = true → toc = .data

theorem identifyFromUdf_said {medium : Medium} {toc : CdToc} {base : UInt32} (hout : out.kind = .unknown) :
    VideoSaid toc (identifyFromUdf port lib medium toc base out s).1 := by
  obtain ⟨hiso, haudio, hleft⟩ := @identifyUdf_kind _ port lib out s hout
  unfold identifyFromUdf
  generalize identifyUdf port lib out s = r at hiso haudio hleft ⊢
  obtain ⟨found, d, s'⟩ := r
  have hother : VideoSaid toc d := ⟨haudio, fun h => absurd h (by simp [hiso])⟩
  cases found with
  | true => exact hother
  | false =>
      show VideoSaid toc (if medium = .unknown ∧ toc = .data then (identifyIso port base d s').2
        else (d, s')).1
      split
      · next hasked => exact ⟨(identifyIso_kind (hleft rfl)).1, fun _ => hasked.2⟩
      · exact hother

theorem identifyVideo_said {medium : Medium} {toc : CdToc} {base : UInt32} (hout : out.kind = .unknown) :
    VideoSaid toc (identifyVideo port lib medium toc base out s).1 := by
  unfold identifyVideo
  split
  · next hasked =>
      obtain ⟨haudio, hleft⟩ := @identifyIso_kind _ port out s base hout
      generalize identifyIso port base out s = r at haudio hleft ⊢
      obtain ⟨found, d, s'⟩ := r
      cases found with
      | true => exact ⟨haudio, fun _ => hasked.2⟩
      | false => exact identifyFromUdf_said (hleft rfl)
  · exact identifyFromUdf_said hout

section Truthful

variable (hwired : Wired usb T epOut epIn lun view) (hunseen : Unseen clock poll view)
  (hholds : T.Holds lun drive)
  (hbus : port.toScsiPort.OverBus (Host.ofUsb usb clock poll) epOut epIn lun view)

include hwired hunseen hholds hbus

theorem identifyFromUdf_truthful {medium : Medium} {toc : CdToc} {base : UInt32}
    (hs : s.Reads epOut epIn lun view) (hout : out.kind = .unknown) :
    VideoOnDisc drive.isoDisc base (identifyFromUdf port lib medium toc base out s).1 := by
  obtain ⟨hiso, -, hleft⟩ := @identifyUdf_kind _ port lib out s hout
  have hreads := @identifyUdf_reads _ _ _ _ _ _ _ _ _ _ port lib out s hwired hunseen hbus hs
  unfold identifyFromUdf
  generalize identifyUdf port lib out s = r at hiso hleft hreads ⊢
  obtain ⟨found, d, s'⟩ := r
  cases found with
  | true => exact .of_other hiso
  | false =>
      show VideoOnDisc drive.isoDisc base (if medium = .unknown ∧ toc = .data then
        (identifyIso port base d s').2 else (d, s')).1
      split
      · exact identifyIso_truthful (isoReadSector_lossy hwired hunseen hholds hbus) hreads (hleft rfl) base
      · exact .of_other hiso

theorem identifyVideo_truthful {medium : Medium} {toc : CdToc} {base : UInt32}
    (hs : s.Reads epOut epIn lun view) (hout : out.kind = .unknown) :
    VideoOnDisc drive.isoDisc base (identifyVideo port lib medium toc base out s).1 := by
  have hlossy := @isoReadSector_lossy _ _ _ _ _ _ _ _ _ _ _ port.toScsiPort port.stack hwired hunseen hholds
    hbus
  unfold identifyVideo
  split
  · have htruth : VideoOnDisc drive.isoDisc base (identifyIso port base out s).2.1 :=
      identifyIso_truthful hlossy hs hout base
    have hreads := Dialog.run_keeps hlossy.keeps (detectIsoVideo base out.volumeId) hs
    obtain ⟨-, hleft⟩ := @identifyIso_kind _ port out s base hout
    have hend : (identifyIso port base out s).2.2
        = ((detectIsoVideo base out.volumeId).run (isoReadSector port.toScsiPort port.stack) s).2 := by
      unfold identifyIso
      generalize (detectIsoVideo base out.volumeId).run (isoReadSector port.toScsiPort port.stack) s = r
      obtain ⟨⟨found, volumeId⟩, s'⟩ := r
      cases found <;> rfl
    rw [← hend] at hreads
    generalize identifyIso port base out s = r at htruth hreads hleft ⊢
    obtain ⟨found, d, s'⟩ := r
    cases found with
    | true => exact htruth
    | false => exact identifyFromUdf_truthful hwired hunseen hholds hbus hreads (hleft rfl)
  · exact identifyFromUdf_truthful hwired hunseen hholds hbus hs hout

end Truthful

/-- **What is identified is what is in the drive.** With a conforming device whose unit holds a medium, on
    a bus where a Reset Recovery takes effect, whatever fails, is retried, is refused or times out on the
    way, and whatever the UDF library does: an audio CD is reported on a table of contents that the drive
    passed and sent, whose first descriptor is one of audio; a Video CD or a Super Video CD on one whose
    first descriptor is one of data, and it is there, from the descriptor in the first data track to the
    signature of its info file, each in blocks of the medium, with the label that is reported. -/
theorem discIdentify_truthful (hwired : Wired usb T epOut epIn lun view)
    (hunseen : Unseen clock poll view) (hholds : T.Holds lun drive)
    (hbus : port.OverBus (Host.ofUsb usb clock poll) epOut epIn lun view) (lib : UdfRead)
    (out : LaserDisc) (s : Sys U) (hs : s.Reads epOut epIn lun view) :
    ((laserDiscIdentify port lib out s).1.kind = .cdAudio →
        TocSent T lun view (port.beforeToc s) (port.answers s).sys .audio (port.answers s).trackLba)
      ∧ ((laserDiscIdentify port lib out s).1.kind.ofIso = true →
        TocSent T lun view (port.beforeToc s) (port.answers s).sys .data (port.answers s).trackLba
          ∧ VideoOnDisc drive.isoDisc (port.answers s).trackLba (laserDiscIdentify port lib out s).1) := by
  have hstays := hbus.blocks.reads hwired hunseen
  have hsettled := hstays.others _ (hbus.settle_reads hwired hunseen (hstays.others s hs))
  have hbefore : (port.beforeToc s).Reads epOut epIn lun view := by
    have hasked := hbus.asked_reads hwired hunseen (.inl rfl) hsettled
    unfold DiscPort.beforeToc readMedium
    dsimp only
    split <;> exact hasked
  have hafter := hbus.asked_reads hwired hunseen (.inr rfl) hbefore
  have hsys : (port.answers s).sys = (port.scsiCdb readTocCall (port.beforeToc s)).2 := by
    show (readCdToc port.toScsiPort (port.beforeToc s)).2.2 = _
    unfold readCdToc
    dsimp only
    split <;> rfl
  have htoc : (port.answers s).toc ≠ .none → TocSent T lun view (port.beforeToc s) (port.answers s).sys
      (port.answers s).toc (port.answers s).trackLba := by
    intro hsome
    rw [hsys]
    exact readCdToc_truthful hwired hunseen hbefore.at_ (hbus.runs _ _ (.inr rfl) hbefore.at_) hsome
  have hdecided : Decided port lib out (port.answers s) (laserDiscIdentify port lib out s).1 :=
    laserDiscIdentify_decided out s
  rw [← hsys] at hafter
  generalize (laserDiscIdentify port lib out s).1 = d at hdecided ⊢
  generalize port.answers s = a at hsys htoc hafter hdecided ⊢
  cases hdecided with
  | notReady _ => exact ⟨fun h => (by cases h), fun h => (by cases h)⟩
  | noToc s' _ =>
      have hsaid := @identifyVideo_said _ port lib out.zeroed s' a.medium .none 0 rfl
      exact ⟨fun h => absurd h hsaid.notAudio, fun h => absurd (hsaid.asked h) (by decide)⟩
  | audio _ haudio =>
      refine ⟨fun _ => ?_, fun h => (by cases h)⟩
      have hsent := htoc (by rw [haudio]; decide)
      rwa [haudio] at hsent
  | video _ _ =>
      have hsaid := @identifyVideo_said _ port lib out.zeroed a.sys a.medium a.toc a.trackLba rfl
      refine ⟨fun h => absurd h hsaid.notAudio, fun h => ?_⟩
      have hdata := hsaid.asked h
      have hsent := htoc (by rw [hdata]; decide)
      rw [hdata] at hsent
      exact ⟨hsent, identifyVideo_truthful hwired hunseen hholds hbus.blocks hafter rfl⟩

end Bus

/-! ## A drive with a CD in it -/

/-- Pass, with as much data as there is. -/
def Response.part (data : List UInt8) (c : Command) : Response :=
  ⟨data.length, data, c.length - data.length, usbBotStatusPass⟩

section Part

variable {data : List UInt8} {c : Command}

theorem Response.part_meaningful (hin : c.dataIn = true) (hle : data.length ≤ c.length) :
    (Response.part data c).Meaningful c :=
  ⟨by simp [part, hin], hle, Nat.sub_le _ _, fun _ => Nat.le_refl _⟩

theorem Response.part_count : (Response.part data c).count c = data.length := by
  unfold count part
  dsimp only
  split <;> omega

end Part

/-- A drive with a CD in it: the medium, and what the drive says of it when asked. -/
structure CdDrive extends Drive where
  features : List UInt8
  toc : List UInt8
  features_le : features.length ≤ 32
  toc_le : toc.length ≤ 128

namespace CdDrive

variable (drive : CdDrive)

/-- It is ready, answers the two questions, and for the rest is a drive with that medium. -/
def answer (c : Command) : Response :=
  if c.cb = testUnitReadyRequest.cdb ∧ c.length = 0 then ⟨0, [], 0, usbBotStatusPass⟩
  else if c.cb = getConfigurationCall.cdb ∧ c.dataIn ∧ c.length = 32 then .part drive.features c
  else if c.cb = readTocCall.cdb ∧ c.dataIn ∧ c.length = 128 then .part drive.toc c
  else drive.toDrive.answer c

def exec (c : Command) (u : Unit) : Response × Unit := (drive.answer c, u)

theorem exec_meaningful (c : Command) (u : Unit) (hlen : c.received.length ≤ c.length) :
    (drive.exec c u).1.Meaningful c := by
  show (drive.answer c).Meaningful c
  unfold answer
  split
  · next hready =>
      obtain ⟨-, hzero⟩ := hready
      rw [hzero] at hlen
      exact ⟨by simp [Nat.le_zero.mp hlen], Nat.zero_le _, Nat.zero_le _, by simp [hzero]⟩
  split
  · next hasked => exact Response.part_meaningful hasked.2.1 (hasked.2.2 ▸ drive.features_le)
  split
  · next hasked => exact Response.part_meaningful hasked.2.1 (hasked.2.2 ▸ drive.toc_le)
  · exact drive.answer_meaningful c hlen

/-- The target of the drive. -/
def target : Target Unit := .ofFun drive.exec drive.exec_meaningful

theorem servedBy : drive.toDrive.ServedBy drive.exec := by
  rintro c u (hread | hsense)
  · have hother : ∀ cb, decodeRead cb = none → c.cb ≠ cb := by
      rintro cb hnone rfl
      rw [hnone] at hread
      cases hread
    show drive.answer c = _
    unfold answer
    rw [if_neg fun h => hother _ (by decide) h.1, if_neg fun h => hother _ (by decide) h.1,
      if_neg fun h => hother _ (by decide) h.1]
  · show drive.answer c = _
    unfold answer
    rw [if_neg, if_neg, if_neg] <;>
      · rintro ⟨h, -⟩
        rw [hsense] at h
        exact absurd h (by decide)

end CdDrive

section Ideal

variable {σ : Type} {exec : Command → σ → Response × σ} {epOut epIn lun : UInt8}
  {hmeaning : ∀ c s, c.received.length ≤ c.length → (exec c s).1.Meaningful c} {s : Sys (BotDevice σ)}

/-- Identification on an ideal device. -/
def DiscPort.ideal (exec : Command → σ → Response × σ) (epOut epIn : UInt8) : DiscPort (BotDevice σ) where
  toScsiPort := .ideal exec epOut epIn
  settle s := (laserTokenSettle (Host.ideal exec epOut epIn) 0 s).getD s
  stack _ _ := 0

/-- A unit that is ready needs no wait. -/
theorem Host.ideal_settles
    (hwired : Wired (BotDevice.ideal exec epOut epIn) (.ofFun exec hmeaning) epOut epIn lun id)
    (hready : (Target.ofFun exec hmeaning).Passes lun testUnitReadyRequest)
    (hat : s.At epOut epIn lun id) :
    laserTokenSettle (Host.ideal exec epOut epIn) 0 s
      = some ((DiscPort.ideal exec epOut epIn).settle s) := by
  have houtcome : (laserBotSendLocked (BotDevice.ideal exec epOut epIn) s.entry testUnitReadyRequest
      s.world).1.outcome = .pass
      ∨ (laserBotSendLocked (BotDevice.ideal exec epOut epIn) s.entry testUnitReadyRequest
        s.world).1.outcome = .noDevice := by
    rcases hat.inStep with hgone | hidle
    · obtain ⟨rfl, rfl, rfl⟩ := hat.on
      exact .inr (laserBotSendLocked_gone hwired.conforms (by decide) hgone)
    · exact .inl (hready.outcome hwired (BotDevice.ideal_untroubled _ _ _)
        (WaitSends.sendable _ _ .poll) hat.on hidle)
  have hreturns : ∃ t, laserTokenSettle (Host.ideal exec epOut epIn) 0 s = some t := by
    unfold laserTokenSettle
    split
    · exact ⟨_, rfl⟩
    · exact ⟨_, if_pos houtcome⟩
  obtain ⟨t, ht⟩ := hreturns
  simp [DiscPort.ideal, ht]

/-- **Such a port is the library on its device**, when the device passes the two questions. -/
theorem DiscPort.ideal_overBus {drive : Drive}
    (hwired : Wired (BotDevice.ideal exec epOut epIn) (.ofFun exec hmeaning) epOut epIn lun id)
    (hserved : drive.ServedBy exec)
    (hready : (Target.ofFun exec hmeaning).Passes lun testUnitReadyRequest)
    (hanswers : ∀ call s, call = getConfigurationCall ∨ call = readTocCall →
      (exec (call.request.command lun []) s).1.status = usbBotStatusPass) :
    (DiscPort.ideal exec epOut epIn).OverBus (Host.ideal exec epOut epIn) epOut epIn lun id where
  blocks := hserved.overBus hwired
  runs := by
    rintro call s (rfl | rfl) hat
    all_goals
      refine .returns (ScsiPort.ideal_runs hat fun t hvalid hat => ?_)
      have hwell := CdbCall.wellFormed hvalid fun hout => by cases hout
      exact Host.ideal_turn_done hwired hwell hvalid rfl rfl hat fun _ => hanswers _ _ (by simp)
  settles s hat := .settles (Host.ideal_settles hwired hready hat)

end Ideal

section CdDrive

variable (drive : CdDrive) (lun : UInt8)

theorem CdDrive.answer_features (received : List UInt8) :
    drive.answer (getConfigurationCall.request.command lun received)
      = .part drive.features (getConfigurationCall.request.command lun received) := by
  unfold answer
  rw [if_neg fun h => absurd h.1 (show getConfigurationCall.cdb ≠ testUnitReadyRequest.cdb by decide),
    if_pos ⟨rfl, rfl, rfl⟩]

theorem CdDrive.answer_toc (received : List UInt8) :
    drive.answer (readTocCall.request.command lun received)
      = .part drive.toc (readTocCall.request.command lun received) := by
  unfold answer
  rw [if_neg fun h => absurd h.1 (show readTocCall.cdb ≠ testUnitReadyRequest.cdb by decide),
    if_neg fun h => absurd h.1 (show readTocCall.cdb ≠ getConfigurationCall.cdb by decide),
    if_pos ⟨rfl, rfl, rfl⟩]

theorem CdDrive.ready : drive.target.Passes lun testUnitReadyRequest := by
  rintro s t c a ⟨⟨received, -, hcommand⟩, -, heq⟩
  have hcommand : c = testUnitReadyRequest.command lun received := hcommand
  subst hcommand
  obtain rfl : drive.answer (testUnitReadyRequest.command lun received) = a := congrArg Prod.fst heq
  unfold answer
  rw [if_pos ⟨rfl, rfl⟩]

/-- Identification on the drive. -/
theorem CdDrive.overBus {epOut epIn : UInt8}
    (hwired : Wired (BotDevice.ideal drive.exec epOut epIn) drive.target epOut epIn lun id) :
    (DiscPort.ideal drive.exec epOut epIn).OverBus (Host.ideal drive.exec epOut epIn) epOut epIn lun id := by
  refine DiscPort.ideal_overBus hwired drive.servedBy (drive.ready lun) ?_
  rintro call s (rfl | rfl)
  · exact congrArg Response.status (drive.answer_features lun [])
  · exact congrArg Response.status (drive.answer_toc lun [])

end CdDrive

/-- A CD with one track, which is audio. -/
def audioCd : CdDrive where
  capacity := 300
  capacity_lt := by decide
  byte _ _ _ := 0
  features := [0, 0, 0, 4, 0, 0, 0x00, 0x09]
  toc := [0x00, 0x12, 1, 1, 0, 0x10, 1, 0, 0, 0, 0, 0, 0, 0x10, 0xAA, 0, 0, 0, 0x40, 0]
  features_le := by decide
  toc_le := by decide

/-- The drive with the Video CD: two tracks, both data, and the first at block 0. -/
def videoCdInDrive : CdDrive where
  toDrive := videoCdDrive
  features := [0, 0, 0, 4, 0, 0, 0x00, 0x08]
  toc := [0x00, 0x1A, 1, 2, 0, 0x14, 1, 0, 0, 0, 0, 0, 0, 0x14, 2, 0, 0, 0, 0, 50,
    0, 0x14, 0xAA, 0, 0, 0, 0, 100]
  features_le := by decide
  toc_le := by decide

/-- The one is an audio CD, on what the drive sent; the other a Video CD, on that and on what is on the
    disc. -/
theorem discIdentify_truthful_discs :
    let s : Sys (BotDevice Unit) :=
      ⟨{ inUse := true, epIn := 0x81, epOut := 0x02, maxTransferBytes := laserMaxBytesPerTransfer },
        ⟨(), .ready, false, false, false⟩, []⟩
    let d (drive : CdDrive) :=
      (laserDiscIdentify (.ideal drive.exec 0x02 0x81) dvdVideoLibrary ⟨.unknown, fun _ => 0⟩ s).1
    ((d audioCd).kind = .cdAudio ∧ ∃ before after lba, TocSent audioCd.target 0 id before after .audio lba)
      ∧ (d videoCdInDrive).kind = .vcd ∧ ∃ before after lba,
        TocSent videoCdInDrive.target 0 id before after .data lba
          ∧ VideoOnDisc videoCdInDrive.isoDisc lba (d videoCdInDrive) := by
  intro s d
  have hon : s.entry.On 0x02 0x81 0 := ⟨rfl, rfl, rfl⟩
  have hwired (drive : CdDrive) := Wired.ideal drive.exec_meaningful hon (by decide) (by decide)
  have htruth (drive : CdDrive) := discIdentify_truthful (hwired drive) ⟨fun _ => rfl, fun _ => rfl⟩
    (drive.servedBy.holds 0) (drive.overBus 0 (hwired drive)) dvdVideoLibrary ⟨.unknown, fun _ => 0⟩ s
    ⟨⟨hon, .inr ⟨rfl, rfl, rfl, rfl⟩⟩, by decide⟩
  have haudio : (d audioCd).kind = .cdAudio := by decide +kernel
  have hvideo : (d videoCdInDrive).kind = .vcd := by decide +kernel
  have hiso : (d videoCdInDrive).kind.ofIso = true := by rw [hvideo]; rfl
  exact ⟨⟨haudio, _, _, _, (htruth audioCd).1 haudio⟩, hvideo, _, _, _, (htruth videoCdInDrive).2 hiso⟩

end Liblaser
