import Liblaser.Blocks.Complete
import Liblaser.Disc.VideoCd
import Liblaser.Lib.Lossy

/-!
# `Disc.Sectors` — the sectors a probe gets from a drive on a bus

A probe asks for one sector at a time and gets a buffer or nothing. On a bus, what is in the buffer is the
block of the medium (`isoReadSector_lossy`), and on one without failures the block comes whenever the medium
has it (`isoReadSector_delivering`), so a probe runs on a source as `Lib.Lossy` has it.

The rest is what the probes of `detect_iso_video()` are as programs: each looks at no more of a buffer than
the 2048 bytes of the sector (`detectIsoVideo_respects`), and each gives up at a sector that cannot be read.
**`detectIsoVideo_lossy`**: what is recognised on a lossy source is on the disc.
-/

namespace Liblaser

open Bytes Loop Service Transition

/-! ## A block read stays on the medium -/

section OnMedium

variable {W : Type} {port : ScsiPort W} {drive : Drive} {kind : ReadKind} {registered : Bool} {lba : UInt32}
  {before : Nat → UInt8}

/-- The blocks a turn says were read are blocks of the medium. -/
theorem readTurn_onMedium {numBlocks : Nat} {t : ReadState W} {r : ReadResult W}
    (hserves : port.Serves drive) (hI : Progress drive kind lba numBlocks before t)
    (hdone : readTurn port kind registered lba numBlocks t = .done r) (hpos : 0 < r.ret) :
    lba.toNat + r.ret.toNat ≤ drive.capacity := by
  have hrange := hI.inRange
  by_cases hleft : t.vars.blocksDone < numBlocks
  · obtain ⟨s, chunk, res, s', rfl, hchunk, hres, hturn⟩ :=
      @readTurn_of_lt _ port kind registered lba numBlocks t hleft
    have hcap := Nat.le_trans (hserves.otherThreads_cap t.sys) hI.cap_le
    have hle := (@nextChunk_spec kind.blockSize (currentCap registered t.vars (port.otherThreads t.sys))
      (numBlocks - t.vars.blocksDone) (by omega)).2.1
    have hsize := @nextChunk_size kind _ (numBlocks - t.vars.blocksDone) (by omega)
      (@currentCap_le _ registered t.vars _ hcap).1
    rw [← hchunk] at hle hsize
    have hspec := @Progress.chunk _ port drive kind lba numBlocks before t hserves hI
      (port.otherThreads t.sys) chunk (by omega) hsize
    rw [hres] at hspec
    rw [hturn] at hdone
    dsimp only at hdone hspec
    split at hdone
    · next hst =>
        have hneg := LaserStatus.code_neg hst
        unfold chunkFailed at hdone
        dsimp only at hdone
        split at hdone
        · cases hdone
          dsimp only at hpos
          omega
        split at hdone
        · cases hdone
        · cases hdone
          dsimp only at hpos ⊢
          split at hpos
          · next hsome =>
              rw [if_pos hsome]
              exact hrange hsome
          · omega
    · next hst =>
        obtain ⟨hfits, hactual, -⟩ := hspec.passed (Decidable.not_not.mp hst)
        have hwhole : res.actualLen.getD 0 / kind.blockSize ≤ chunk :=
          Nat.div_le_of_le_mul (by rwa [Nat.mul_comm] at hactual)
        unfold chunkRead at hdone
        dsimp only at hdone
        split at hdone
        · cases hdone
          dsimp only at hpos ⊢
          split at hpos
          · cases hpos
          · next hsome =>
              rw [if_neg hsome]
              omega
        split at hdone <;> cases hdone
  · unfold readTurn at hdone
    rw [if_neg hleft] at hdone
    cases hdone
    dsimp only at hpos ⊢
    exact hrange (by omega)

/-- An exact read, on the medium. -/
theorem readChunked_onMedium {fuel : Nat} {numBlocks : Int} {memory : Nat → UInt8} {s : Sys W}
    {r : ReadResult W} (hserves : port.Serves drive)
    (hcap : s.entry.maxTransferBytes ≤ laserMaxBytesPerTransfer)
    (hrun : readChunked port kind fuel lba numBlocks memory s = some r) :
    ExactRead drive kind lba numBlocks memory r.ret r.memory
      ∧ (0 < r.ret → lba.toNat + r.ret.toNat ≤ drive.capacity) := by
  obtain ⟨fuel', r', hrun', hexact⟩ := readChunked_exact hserves kind lba numBlocks memory s hcap
  unfold readChunked at hrun hrun'
  split at hrun
  · next hnone =>
      rw [if_pos hnone, hrun] at hrun'
      cases hrun'
      refine ⟨hexact, ?_⟩
      cases hrun
      intro hpos
      cases hpos
  · next hsome =>
      rw [if_neg hsome] at hrun'
      have hsame := iterate_mono hrun (Nat.le_max_left fuel fuel')
      rw [iterate_mono hrun' (Nat.le_max_right fuel fuel')] at hsame
      cases hsame
      refine ⟨hexact, ?_⟩
      have hstart : Progress drive kind lba numBlocks.toNat memory ⟨{}, memory, s⟩ :=
        ⟨Nat.zero_le _, hcap, Nat.zero_le _, fun hpos => absurd hpos (Nat.lt_irrefl 0),
          fun i hi => absurd hi (Nat.not_lt_zero i), fun _ _ => rfl⟩
      refine iterate_all (I := Progress drive kind lba numBlocks.toNat memory)
        (Q := fun r : ReadResult W => 0 < r.ret → lba.toNat + r.ret.toNat ≤ drive.capacity) ?_ hstart hrun
      intro t hI
      have hturn := @readTurn_exact _ port drive kind s.entry.inUse lba _ memory t hserves hI
      cases hb : readTurn port kind s.entry.inUse lba numBlocks.toNat t with
      | again u =>
          rw [hb] at hturn
          exact hturn.1
      | done r => exact readTurn_onMedium hserves hI hb

end OnMedium

/-! ## Sectors -/

/-- The sectors of a medium. -/
def Drive.isoDisc (drive : Drive) : IsoDisc := fun lba =>
  if lba.toNat < drive.capacity then some (drive.byte .read10 lba.toNat) else none

/-- Two buffers with the same sector in them. -/
def SameSector (a b : Nat → UInt8) : Prop := ∀ i < isoSectorSize, a i = b i

section Bus

variable {σ U : Type} {usb : UsbHost U} {clock : U → Timespec × U} {poll : U → Bool × U} {T : Target σ}
  {view : U → BotDevice σ} {epOut epIn lun : UInt8} {drive : Drive} {port : ScsiPort U}
  {stack : Sys U → Nat → UInt8} {s : Sys U}

/-- The entry is of the unit, the device is in step, and no transfer is longer than the largest. -/
structure Sys.Reads (s : Sys U) (epOut epIn lun : UInt8) (view : U → BotDevice σ) : Prop where
  at_ : s.At epOut epIn lun view
  capped : s.entry.maxTransferBytes ≤ laserMaxBytesPerTransfer

theorem Sys.Up.reads (hup : s.Up epOut epIn lun view) : s.Reads epOut epIn lun view := ⟨hup.at, hup.capped⟩

theorem ScsiPort.OverBus.reads (hwired : Wired usb T epOut epIn lun view)
    (hunseen : Unseen clock poll view)
    (hbus : port.OverBus (Host.ofUsb usb clock poll) epOut epIn lun view) :
    port.StaysIn fun s => s.Reads epOut epIn lun view := by
  have hstays := hbus.staysBelow hwired hunseen laserMaxBytesPerTransfer
  refine ⟨fun kind lba n s hs => ?_, fun s hs => ?_, fun bytes s hs => ?_⟩
  · obtain ⟨hat, hcap⟩ := hstays.chunk kind lba n s ⟨hs.at_, hs.capped⟩
    exact ⟨hat, hcap⟩
  · obtain ⟨hat, hcap⟩ := hstays.others s ⟨hs.at_, hs.capped⟩
    exact ⟨hat, hcap⟩
  · obtain ⟨hat, hcap⟩ := hstays.lowered bytes s ⟨hs.at_, hs.capped⟩
    exact ⟨hat, hcap⟩

/-- A sector that was read is the block of the medium. -/
theorem isoReadSector_onMedium (hwired : Wired usb T epOut epIn lun view)
    (hunseen : Unseen clock poll view) (hholds : T.Holds lun drive)
    (hbus : port.OverBus (Host.ofUsb usb clock poll) epOut epIn lun view) (lba : UInt32)
    (hs : s.Reads epOut epIn lun view) {sector : Nat → UInt8}
    (hread : (isoReadSector port stack lba s).1 = some sector) :
    ∃ block, drive.isoDisc lba = some block ∧ SameSector sector block := by
  have hrun := readChunkedToEnd_spec port .read10 lba 1 (stack s) s
  unfold isoReadSector at hread
  dsimp only at hread
  split at hread
  · next hret =>
      cases hread
      generalize readChunkedToEnd port .read10 lba 1 (stack s) s = r at hrun hret
      rw [← (hbus.staysIn hwired hunseen).readChunked_within .read10 _ lba 1 (stack s) s hs.at_] at hrun
      obtain ⟨hexact, hrange⟩ := readChunked_onMedium (hbus.serves hwired hunseen hholds) hs.capped hrun
      rw [hret] at hrange
      have hlt : lba.toNat < drive.capacity := hrange Int.one_pos
      have hblocks := hexact.blocks
      rw [hret] at hblocks
      refine ⟨_, if_pos hlt, ?_⟩
      intro i hi
      have hbyte := hblocks 0 (Nat.lt_succ_self 0) i hi
      rwa [Nat.zero_mul, Nat.zero_add, Nat.add_zero] at hbyte
  · cases hread

/-- **Over a bus, the sectors come from the medium or not at all.** -/
theorem isoReadSector_lossy (hwired : Wired usb T epOut epIn lun view)
    (hunseen : Unseen clock poll view) (hholds : T.Holds lun drive)
    (hbus : port.OverBus (Host.ofUsb usb clock poll) epOut epIn lun view) :
    Dialog.Lossy (isoReadSector port stack) (fun s => s.Reads epOut epIn lun view) SameSector
      drive.isoDisc where
  keeps lba s hs := (hbus.reads hwired hunseen).readChunked hs
    (readChunkedToEnd_spec port .read10 lba 1 (stack s) s)
  truthful _ _ _ hs hread := isoReadSector_onMedium hwired hunseen hholds hbus _ hs hread

/-- A command leaves the device there. -/
theorem ReturnsOrHangs.keeps_up (hwired : Wired usb T epOut epIn lun view)
    (hunseen : Unseen clock poll view) (hquiet : usb.Untroubled epOut epIn view) {call : CdbCall}
    {r : CdbResult} {t : Sys U} (hbuffer : call.Buffered) (hup : s.Up epOut epIn lun view)
    (hgiven : ReturnsOrHangs (Host.ofUsb usb clock poll) call s r t) : t.Up epOut epIn lun view := by
  cases hgiven with
  | returns hret => exact (hret.keeps_up hwired hunseen hquiet hbuffer hup).1
  | hangs _ => exact hup

/-- The reads of the loop, and other threads as long as they leave it there, leave a device that is there. -/
theorem ScsiPort.OverBus.keeps_up (hwired : Wired usb T epOut epIn lun view)
    (hunseen : Unseen clock poll view) (hquiet : usb.Untroubled epOut epIn view)
    (hbus : port.OverBus (Host.ofUsb usb clock poll) epOut epIn lun view)
    (hothers : ∀ s, s.Up epOut epIn lun view → (port.otherThreads s).Up epOut epIn lun view) :
    port.StaysIn fun s => s.Up epOut epIn lun view where
  chunk kind lba n s hup :=
    (hbus.runs kind lba n s hup.at).keeps_up hwired hunseen hquiet (fun hout => by cases hout) hup
  others := hothers
  lowered bytes s hup := ((LibStep.lowered bytes).keeps_up hwired hunseen hquiet hup).1

/-- **On a bus without failures every sector of the medium comes.** -/
theorem isoReadSector_delivering (hwired : Wired usb T epOut epIn lun view)
    (hunseen : Unseen clock poll view) (hcalm : Calm usb poll epOut epIn view)
    (hholds : T.Holds lun drive) (hserves : T.ServesAll lun drive)
    (hbus : port.OverBus (Host.ofUsb usb clock poll) epOut epIn lun view)
    (hothers : ∀ s, s.Up epOut epIn lun view → (port.otherThreads s).Up epOut epIn lun view) :
    Dialog.Delivering (isoReadSector port stack) (fun s => s.Up epOut epIn lun view) SameSector
      drive.isoDisc where
  keeps lba s hup := (hbus.keeps_up hwired hunseen hcalm.untroubled hothers).readChunked hup
    (readChunkedToEnd_spec port .read10 lba 1 (stack s) s)
  truthful _ _ _ hup hread := isoReadSector_onMedium hwired hunseen hholds hbus _ hup.reads hread
  delivers lba s block hup hblock := by
    have hlt : lba.toNat < drive.capacity := by
      unfold Drive.isoDisc at hblock
      split at hblock
      · assumption
      · cases hblock
    have hdelivers := hbus.delivers hwired hunseen hcalm hserves hothers
    have hret : (readChunkedToEnd port .read10 lba (1 : Nat) (stack s) s).ret = (1 : Nat) :=
      hdelivers.readChunked hup hlt (readChunkedToEnd_spec port .read10 lba (1 : Nat) (stack s) s)
    exact ⟨_, if_pos hret⟩

end Bus

/-! ## What a probe looks at -/

variable {a b : Nat → UInt8}

theorem bytesAt_congr {off n : Nat} (hsame : ∀ i < n, a (off + i) = b (off + i)) :
    bytesAt a off n = bytesAt b off n := by
  unfold bytesAt
  apply List.map_congr_left
  intro i hi
  exact hsame i (List.mem_range.mp hi)

theorem SameSector.bytesAt (hsame : SameSector a b) {off n : Nat} (hle : off + n ≤ isoSectorSize) :
    bytesAt a off n = bytesAt b off n :=
  bytesAt_congr fun i hi => hsame (off + i) (by omega)

theorem SameSector.holdsAt (hsame : SameSector a b) {off : Nat} {bs : List UInt8}
    (hle : off + bs.length ≤ isoSectorSize) (h : HoldsAt b off bs) : HoldsAt a off bs :=
  (hsame.bytesAt hle).trans h

theorem SameSector.isoExtent (hsame : SameSector a b) {off : Nat} (hle : off + 14 ≤ isoSectorSize) :
    isoExtent a off = isoExtent b off := by
  unfold Liblaser.isoExtent isoLe32
  simp only [hsame (off + 2) (by omega), hsame (off + 2 + 1) (by omega), hsame (off + 2 + 2) (by omega),
    hsame (off + 2 + 3) (by omega), hsame (off + 10) (by omega), hsame (off + 10 + 1) (by omega),
    hsame (off + 10 + 2) (by omega), hsame (off + 10 + 3) (by omega)]

/-- The label is made of 32 bytes. -/
theorem isoVolumeIdLength_congr {n : Nat} (hsame : ∀ i < n, a i = b i) :
    isoVolumeIdLength a n = isoVolumeIdLength b n := by
  induction n with
  | zero => rfl
  | succ n ih =>
      unfold isoVolumeIdLength
      rw [hsame n (Nat.lt_succ_self n), ih fun i hi => hsame i (Nat.lt_succ_of_lt hi)]

theorem isoStoreVolumeId_congr {dst : Nat → UInt8} (hsame : ∀ i < 32, a i = b i) :
    isoStoreVolumeId dst a = isoStoreVolumeId dst b := by
  have hlen := isoVolumeIdLength_congr hsame
  have hle := isoVolumeIdLength_le b 32
  have hbytes : bytesAt a 0 (isoVolumeIdLength b 32) = bytesAt b 0 (isoVolumeIdLength b 32) := by
    refine bytesAt_congr fun i hi => ?_
    rw [Nat.zero_add]
    exact hsame i (by omega)
  unfold isoStoreVolumeId
  dsimp only
  rw [hlen, hbytes]

/-- The scan of a sector reads no byte outside of it. -/
theorem SameSector.isoScanSector (hsame : SameSector a b) (want : List UInt8) (wantDir : Bool) :
    isoScanSector a want wantDir 0 = isoScanSector b want wantDir 0 := by
  rw [← isoScanBytes_eval, ← isoScanBytes_eval]
  exact (isoScanBytes_asks want wantDir 0).eval_congr hsame

theorem isoFindFrom_respects (dirLba : UInt32) (want : List UInt8) (wantDir : Bool) (left i : Nat) :
    (isoFindFrom dirLba want wantDir left i).Respects SameSector := by
  induction left generalizing i with
  | zero => exact Dialog.respects_pure _ _
  | succ left ih =>
      unfold isoFindFrom
      refine Dialog.respects_query_bind ?_ ?_
      · intro a b hsame
        dsimp only
        rw [hsame.isoScanSector]
      · intro answer
        cases answer with
        | none => exact Dialog.respects_pure _ _
        | some sector =>
            dsimp only
            split
            · exact Dialog.respects_pure _ _
            · exact ih (i + 1)

/-- A search gives up at a sector that cannot be read. -/
theorem isoFindFrom_cautious (dirLba : UInt32) (want : List UInt8) (wantDir : Bool) (left i : Nat) :
    (isoFindFrom dirLba want wantDir left i).Cautious none := by
  induction left generalizing i with
  | zero => exact Dialog.cautious_pure _ _
  | succ left ih =>
      unfold isoFindFrom
      refine Dialog.cautious_query_bind rfl ?_
      intro sector
      dsimp only
      split
      · exact Dialog.cautious_pure _ _
      · exact ih (i + 1)

theorem isoInfoMagicIs_respects (lba : UInt32) (magic : String) :
    (isoInfoMagicIs lba magic).Respects SameSector := by
  unfold isoInfoMagicIs
  refine Dialog.respects_query_bind ?_ ?_
  · intro a b hsame
    dsimp only
    rw [hsame.bytesAt (show 0 + 8 ≤ isoSectorSize by decide)]
  · intro answer
    cases answer <;> exact Dialog.respects_pure _ _

theorem isoInfoMagicIs_cautious (lba : UInt32) (magic : String) :
    (isoInfoMagicIs lba magic).Cautious false := by
  unfold isoInfoMagicIs
  exact Dialog.cautious_query_bind rfl fun _ => Dialog.cautious_pure _ _

theorem isoProbe_respects (root : Extent) (probe : IsoProbe) :
    (isoProbe root probe).Respects SameSector := by
  unfold isoProbe
  refine (isoFindFrom_respects _ _ _ _ _).bind ?_
  intro dir
  cases dir with
  | none => exact Dialog.respects_pure _ _
  | some dir =>
      refine (isoFindFrom_respects _ _ _ _ _).bind ?_
      intro info
      cases info with
      | none => exact Dialog.respects_pure _ _
      | some info =>
          dsimp only
          split
          · exact Dialog.respects_pure _ _
          · exact isoInfoMagicIs_respects _ _

/-- And so does a probe. -/
theorem isoProbe_cautious (root : Extent) (probe : IsoProbe) : (isoProbe root probe).Cautious false := by
  unfold isoProbe
  refine (isoFindFrom_cautious _ _ _ _ _).bind rfl ?_
  intro dir
  cases dir with
  | none => exact Dialog.cautious_pure _ _
  | some dir =>
      refine (isoFindFrom_cautious _ _ _ _ _).bind rfl ?_
      intro info
      cases info with
      | none => exact Dialog.cautious_pure _ _
      | some info =>
          dsimp only
          split
          · exact Dialog.cautious_pure _ _
          · exact isoInfoMagicIs_cautious _ _

theorem isoFirstProbe_respects (root : Extent) (probes : List IsoProbe) :
    (isoFirstProbe root probes).Respects SameSector := by
  induction probes with
  | nil => exact Dialog.respects_pure _ _
  | cons probe probes ih =>
      unfold isoFirstProbe
      refine (isoProbe_respects root probe).bind ?_
      intro hit
      split
      · exact Dialog.respects_pure _ _
      · exact ih

/-- What `detect_iso_video()` takes from the descriptor. -/
structure SamePvd (dst a b : Nat → UInt8) : Prop where
  type : a 0 = b 0
  identifier : bytesAt a 1 5 = bytesAt b 1 5
  root : isoExtent a 156 = isoExtent b 156
  label : isoStoreVolumeId dst (fun i => a (40 + i)) = isoStoreVolumeId dst fun i => b (40 + i)

theorem SameSector.pvd (hsame : SameSector a b) (dst : Nat → UInt8) : SamePvd dst a b where
  type := hsame 0 (by decide)
  identifier := hsame.bytesAt (by decide)
  root := hsame.isoExtent (by decide)
  label := isoStoreVolumeId_congr fun i hi => hsame (40 + i) (by unfold isoSectorSize; omega)

theorem detectIsoVideo_respects (base : UInt32) (dst : Nat → UInt8) :
    (detectIsoVideo base dst).Respects SameSector := by
  unfold detectIsoVideo
  refine Dialog.respects_query_bind ?_ ?_
  · intro a b hsame
    obtain ⟨htype, hidentifier, hroot, hlabel⟩ := hsame.pvd dst
    dsimp only
    rw [htype, hidentifier, hroot, hlabel]
  · intro answer
    cases answer with
    | none => exact Dialog.respects_pure _ _
    | some pvd =>
        dsimp only
        split
        · exact Dialog.respects_pure _ _
        split
        · exact Dialog.respects_pure _ _
        refine (isoFirstProbe_respects _ _).bind ?_
        intro kind
        split <;> exact Dialog.respects_pure _ _

/-! ## The detector on a lossy source -/

section Lossy

variable {W : Type} {answer : UInt32 → W → Option (Nat → UInt8) × W} {I : W → Prop} {disc : IsoDisc}
  {w : W}

/-- A probe that hits has its path on the disc. -/
theorem isoProbe_lossy (hlossy : Dialog.Lossy answer I SameSector disc) (hw : I w) {root : Extent}
    {probe : IsoProbe} (hhit : ((isoProbe root probe).run answer w).1 = true) :
    ProbeHits disc root probe := by
  rcases (isoProbe_cautious root probe).run_lossy hlossy (isoProbe_respects root probe) hw with hno | heval
  · rw [hhit] at hno
    cases hno
  · rw [hhit] at heval
    exact (isoProbe_eval disc root probe).mp heval.symm

/-- So what the loop over the probes comes to is the kind of one of them that has. -/
theorem isoFirstProbe_lossy (hlossy : Dialog.Lossy answer I SameSector disc) {root : Extent}
    {probes : List IsoProbe} (hw : I w) (hkind : ((isoFirstProbe root probes).run answer w).1 ≠ .none) :
    ∃ probe ∈ probes, ((isoFirstProbe root probes).run answer w).1 = probe.kind
      ∧ ProbeHits disc root probe := by
  induction probes generalizing w with
  | nil => exact absurd rfl hkind
  | cons probe probes ih =>
      unfold isoFirstProbe at hkind ⊢
      rw [Dialog.run_bind] at hkind ⊢
      have hnext := Dialog.run_keeps hlossy.keeps (isoProbe root probe) hw
      cases hhit : ((isoProbe root probe).run answer w).1 with
      | true => exact ⟨probe, List.mem_cons_self, rfl, isoProbe_lossy hlossy hw hhit⟩
      | false =>
          rw [hhit] at hkind
          obtain ⟨probe', hmem, hsame, hpath⟩ := ih hnext hkind
          exact ⟨probe', List.mem_cons_of_mem _ hmem, hsame, hpath⟩

/-- What was recognised is on the disc, and the label with it; else nothing is written. -/
structure VideoFound (disc : IsoDisc) (base : UInt32) (dst : Nat → UInt8) (r : IsoVideo × (Nat → UInt8)) :
    Prop where
  vcd : r.1 = .vcd → HasVideo disc base vcdProbe
  svcd : r.1 = .svcd → HasVideo disc base svcdProbe
  label : r.1 ≠ .none → ∃ pvd, HasPvd disc base pvd ∧ Labelled dst r.2 (isoVolumeLabel pvd)
  untouched : r.1 = .none → r.2 = dst

theorem VideoFound.none (disc : IsoDisc) (base : UInt32) (dst : Nat → UInt8) :
    VideoFound disc base dst (.none, dst) where
  vcd h := by cases h
  svcd h := by cases h
  label h := absurd rfl h
  untouched _ := rfl

/-- **Nothing is recognised that is not on the disc**, whichever sectors fail to come and when. -/
theorem detectIsoVideo_lossy (hlossy : Dialog.Lossy answer I SameSector disc) (hw : I w) (base : UInt32)
    (dst : Nat → UInt8) : VideoFound disc base dst ((detectIsoVideo base dst).run answer w).1 := by
  unfold detectIsoVideo
  rw [Dialog.run_bind, Dialog.run_query]
  have hnext := hlossy.keeps (base + isoPvdLba) w hw
  cases hread : (answer (base + isoPvdLba) w).1 with
  | none => exact .none disc base dst
  | some sector =>
      obtain ⟨pvd, hpvd, hsame⟩ := hlossy.truthful _ _ _ hw hread
      obtain ⟨htype, hidentifier, hroot, hlabel⟩ := hsame.pvd dst
      dsimp only
      rw [htype, hidentifier, hroot, hlabel]
      split
      · exact .none disc base dst
      next hnot =>
      have hthere : HasPvd disc base pvd :=
        ⟨hpvd, Decidable.not_not.mp fun h => hnot (.inl h), Decidable.not_not.mp fun h => hnot (.inr h)⟩
      split
      · exact .none disc base dst
      next hsome =>
      rw [Dialog.run_bind]
      have hfirst := @isoFirstProbe_lossy _ _ _ _ _ hlossy (isoExtent pvd 156) isoProbes hnext
      generalize (isoFirstProbe (isoExtent pvd 156) isoProbes).run answer _ = found at hfirst ⊢
      obtain ⟨kind, w'⟩ := found
      dsimp only at hfirst ⊢
      split
      · exact .none disc base dst
      next hkind =>
      obtain ⟨probe, hmem, rfl, hpath⟩ := hfirst hkind
      have hvideo : HasVideo disc base probe := ⟨pvd, hthere, hsome, hpath⟩
      refine ⟨?_, ?_, fun _ => ⟨pvd, hthere, isoStoreVolumeId_label dst pvd⟩, fun h => absurd h hkind⟩
      · intro hvcd
        rcases List.mem_pair.mp hmem with rfl | rfl
        · exact hvideo
        · cases hvcd
      · intro hsvcd
        rcases List.mem_pair.mp hmem with rfl | rfl
        · cases hsvcd
        · exact hvideo

end Lossy

end Liblaser
