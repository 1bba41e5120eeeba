import Liblaser.Disc.Identify

/-!
# `Disc.Toc` — what a table of contents says

The descriptors of a READ TOC answer that count are the whole ones inside the length the answer announces,
inside what was transferred and inside the buffer (`Arrived`); those of the lead-out are no tracks. Of the
rest the first decides between audio and data, and the first data track says where the filesystem is
(`TocExact`).

The code agrees on the filesystem always, but takes CONTROL from the first descriptor, be it the lead-out's.
**`readCdToc_iff`** says when that is the same.
-/

namespace Liblaser

open Bytes

variable {W : Type}

/-! ## The descriptors -/

/-- The whole of descriptor `i` is inside all three lengths. -/
structure Arrived (toc : Nat → UInt8) (transferred i : Nat) : Prop where
  announced : 4 + 8 * (i + 1) ≤ beNat (bytesAt toc 0 2) + 2
  received : 4 + 8 * (i + 1) ≤ transferred
  buffered : 4 + 8 * (i + 1) ≤ 128

/-- Descriptor `i` is of a track, and not of the lead-out. -/
def IsTrack (toc : Nat → UInt8) (i : Nat) : Prop := toc (4 + i * 8 + 2) ≠ 0xAA

/-- Its CONTROL field says data. -/
def IsData (toc : Nat → UInt8) (i : Nat) : Prop := toc (4 + i * 8 + 1) &&& 0x04 ≠ 0

instance (toc : Nat → UInt8) (i : Nat) : Decidable (IsTrack toc i) := inferInstanceAs (Decidable (_ ≠ _))

instance (toc : Nat → UInt8) (i : Nat) : Decidable (IsData toc i) := inferInstanceAs (Decidable (_ ≠ _))

/-- Descriptor `i` is the first of a track. -/
structure FirstTrack (toc : Nat → UInt8) (transferred i : Nat) : Prop where
  arrived : Arrived toc transferred i
  track : IsTrack toc i
  before : ∀ j < i, ¬ IsTrack toc j

/-- Descriptor `i` is the first of a data track. -/
structure FirstDataTrack (toc : Nat → UInt8) (transferred i : Nat) : Prop where
  arrived : Arrived toc transferred i
  track : IsTrack toc i
  data : IsData toc i
  before : ∀ j < i, IsTrack toc j → ¬ IsData toc j

/-- **What a TOC says**: the kind of the first track, and where the first data track starts. -/
structure TocExact (toc : Nat → UInt8) (transferred : Nat) (kind : CdToc) (lba : UInt32) : Prop where
  none : kind = .none ↔ ∀ i, Arrived toc transferred i → ¬ IsTrack toc i
  data : kind = .data ↔ ∃ i, FirstTrack toc transferred i ∧ IsData toc i
  audio : kind = .audio ↔ ∃ i, FirstTrack toc transferred i ∧ ¬ IsData toc i
  start : (∃ i, FirstDataTrack toc transferred i ∧ lba.toNat = beNat (bytesAt toc (4 + i * 8 + 4) 4))
    ∨ (lba = 0 ∧ ∀ i, Arrived toc transferred i → IsTrack toc i → ¬ IsData toc i)

variable {toc : Nat → UInt8} {transferred i : Nat}

/-- What is before a descriptor that arrived has arrived. -/
theorem Arrived.earlier {j : Nat} (h : Arrived toc transferred i) (hj : j ≤ i) :
    Arrived toc transferred j := by
  obtain ⟨ha, hr, hb⟩ := h
  exact ⟨by omega, by omega, by omega⟩

theorem FirstTrack.unique {j : Nat} (h : FirstTrack toc transferred i)
    (h' : FirstTrack toc transferred j) : i = j := by
  rcases Nat.lt_trichotomy i j with hlt | heq | hgt
  · exact absurd h.track (h'.before i hlt)
  · exact heq
  · exact absurd h'.track (h.before j hgt)

/-! ## The loop -/

/-- One turn: a data track of its own ends the loop, and anything else is passed over. -/
theorem firstDataLba_succ (toc : Nat → UInt8) (left i : Nat) :
    firstDataLba toc (left + 1) i = if IsTrack toc i ∧ IsData toc i then
        UInt32.ofNat (beNat (bytesAt toc (4 + i * 8 + 4) 4))
      else firstDataLba toc left (i + 1) := by
  have hunfold : firstDataLba toc (left + 1) i = if ¬ IsData toc i then firstDataLba toc left (i + 1)
      else if ¬ IsTrack toc i then firstDataLba toc left (i + 1)
      else UInt32.ofNat (beNat (bytesAt toc (4 + i * 8 + 4) 4)) := by
    unfold IsData IsTrack
    simp only [ne_eq, Decidable.not_not]
    rfl
  rw [hunfold]
  by_cases hdata : IsData toc i <;> by_cases htrack : IsTrack toc i <;> simp [hdata, htrack]

/-- What the loop over the descriptors finds, from number `i` on. -/
theorem firstDataLba_spec (toc : Nat → UInt8) (left i : Nat) :
    (∃ j, i ≤ j ∧ j < i + left ∧ IsTrack toc j ∧ IsData toc j
        ∧ (∀ k, i ≤ k → k < j → IsTrack toc k → ¬ IsData toc k)
        ∧ (firstDataLba toc left i).toNat = beNat (bytesAt toc (4 + j * 8 + 4) 4))
      ∨ (firstDataLba toc left i = 0 ∧ ∀ j, i ≤ j → j < i + left → IsTrack toc j → ¬ IsData toc j) := by
  induction left generalizing i with
  | zero =>
      right
      refine ⟨rfl, ?_⟩
      intro j hfrom hto
      omega
  | succ left ih =>
      rw [firstDataLba_succ]
      by_cases hfound : IsTrack toc i ∧ IsData toc i
      · left
        rw [if_pos hfound]
        refine ⟨i, Nat.le_refl i, by omega, hfound.1, hfound.2, ?_, ?_⟩
        · intro k hk hki
          omega
        · have hlt := beNat_lt (bytesAt toc (4 + i * 8 + 4) 4)
          rw [length_bytesAt] at hlt
          rw [UInt32.toNat_ofNat']
          exact Nat.mod_eq_of_lt hlt
      · -- the descriptor is passed over, and no earlier one is left
        have hpassed : IsTrack toc i → ¬ IsData toc i := fun ht hdata => hfound ⟨ht, hdata⟩
        rw [if_neg hfound]
        rcases ih (i + 1) with ⟨j, hfrom, hto, htrack, hdata, hbefore, hlba⟩ | ⟨hzero, hnone⟩
        · refine .inl ⟨j, by omega, by omega, htrack, hdata, ?_, hlba⟩
          intro k hk hkj
          rcases Nat.lt_or_eq_of_le hk with hlt | rfl
          · exact hbefore k hlt hkj
          · exact hpassed
        · refine .inr ⟨hzero, ?_⟩
          intro j hj hjto
          rcases Nat.lt_or_eq_of_le hj with hlt | rfl
          · exact hnone j hlt (by omega)
          · exact hpassed

/-! ## The answer -/

/-- The whole descriptors inside the three lengths. -/
def descriptors (toc : Nat → UInt8) (transferred : Nat) : Nat :=
  let avail := beNat (bytesAt toc 0 2) + 2
  let avail := if transferred < avail then transferred else avail
  let avail := if 128 < avail then 128 else avail
  (avail - 4) / 8

theorem arrived_iff : Arrived toc transferred i ↔ i < descriptors toc transferred := by
  unfold descriptors
  dsimp only
  constructor
  · rintro ⟨ha, hr, hb⟩
    split <;> split <;> omega
  · intro hi
    constructor <;> split at hi <;> split at hi <;> omega

/-- The kind is that of the first descriptor. -/
theorem parseCdToc_of_arrived (h : Arrived toc transferred 0) :
    parseCdToc toc transferred
      = (if IsData toc 0 then .data else .audio, firstDataLba toc (descriptors toc transferred) 0) := by
  have hlong : ¬ beNat (bytesAt toc 0 2) + 2 < 4 + 8 := by
    have ha := h.announced
    omega
  have hcontrol : toc 5 &&& 0x0F &&& 0x04 = toc 5 &&& 0x04 := by
    rw [UInt8.and_assoc]
    rfl
  unfold parseCdToc
  rw [if_neg hlong]
  dsimp only
  rw [hcontrol]
  by_cases hdata : IsData toc 0
  · rw [if_pos hdata, if_neg (show ¬ toc 5 &&& 0x04 = 0 from hdata)]
    rfl
  · rw [if_neg hdata, if_pos (show toc 5 &&& 0x04 = 0 from Decidable.not_not.mp hdata)]
    rfl

/-- What READ TOC left in the buffer. -/
def tocAnswer (r : CdbResult) : Nat → UInt8 := storeAt (fun _ => 0) 0 r.data

/-- `read_cd_toc()` on a READ TOC that passed. -/
theorem readCdToc_of_ok {port : ScsiPort W} {s s' : Sys W} {r : CdbResult}
    (hreply : port.scsiCdb readTocCall s = (r, s')) (hok : r.status = .ok) :
    ((readCdToc port s).1, (readCdToc port s).2.1)
      = if r.actualLen.getD 0 < 4 + 8 then (.none, 0)
        else parseCdToc (tocAnswer r) (r.actualLen.getD 0) := by
  unfold readCdToc
  rw [hreply]
  dsimp only
  by_cases hshort : r.actualLen.getD 0 < 4 + 8
  · rw [if_pos hshort, if_pos (.inr hshort)]
  · rw [if_neg hshort, if_neg (fun h => h.elim (fun hne => hne hok) hshort)]
    rfl

/-- Where the first data track starts is exact always. -/
theorem start_exact (toc : Nat → UInt8) (transferred : Nat) :
    (∃ i, FirstDataTrack toc transferred i
        ∧ (firstDataLba toc (descriptors toc transferred) 0).toNat
          = beNat (bytesAt toc (4 + i * 8 + 4) 4))
      ∨ (firstDataLba toc (descriptors toc transferred) 0 = 0
        ∧ ∀ i, Arrived toc transferred i → IsTrack toc i → ¬ IsData toc i) := by
  rcases firstDataLba_spec toc (descriptors toc transferred) 0 with
    ⟨j, -, hto, htrack, hdata, hbefore, hlba⟩ | ⟨hzero, hnone⟩
  · left
    refine ⟨j, ⟨arrived_iff.mpr (by omega), htrack, hdata, ?_⟩, hlba⟩
    intro k hk
    exact hbefore k (Nat.zero_le k) hk
  · right
    refine ⟨hzero, ?_⟩
    intro i hi
    have hlt := arrived_iff.mp hi
    exact hnone i (Nat.zero_le i) (by omega)

/-- No descriptor arrived: no answer, and none is meant. -/
theorem TocExact.of_none_arrived (h : ¬ Arrived toc transferred 0) : TocExact toc transferred .none 0 := by
  have hnone : ∀ i, ¬ Arrived toc transferred i := fun i hi => h (hi.earlier (Nat.zero_le i))
  refine ⟨⟨fun _ i hi => absurd hi (hnone i), fun _ => rfl⟩, ⟨fun h => (by cases h), ?_⟩,
    ⟨fun h => (by cases h), ?_⟩, .inr ⟨rfl, fun i hi => absurd hi (hnone i)⟩⟩
  · rintro ⟨i, hfirst, -⟩
    exact absurd hfirst.arrived (hnone i)
  · rintro ⟨i, hfirst, -⟩
    exact absurd hfirst.arrived (hnone i)

/-- Some did: the kind of the first descriptor is that of the first track exactly when there is one, and it
    is of the same kind. -/
theorem tocExact_iff_of_arrived (h : Arrived toc transferred 0) :
    TocExact toc transferred (parseCdToc toc transferred).1 (parseCdToc toc transferred).2
      ↔ ∃ i, FirstTrack toc transferred i ∧ (IsData toc i ↔ IsData toc 0) := by
  rw [parseCdToc_of_arrived h]
  dsimp only
  constructor
  · intro hexact
    by_cases hdata : IsData toc 0
    · rw [if_pos hdata] at hexact
      obtain ⟨i, hfirst, hi⟩ := hexact.data.mp rfl
      exact ⟨i, hfirst, fun _ => hdata, fun _ => hi⟩
    · rw [if_neg hdata] at hexact
      obtain ⟨i, hfirst, hi⟩ := hexact.audio.mp rfl
      exact ⟨i, hfirst, fun hdata' => absurd hdata' hi, fun hdata' => absurd hdata' hdata⟩
  · rintro ⟨i, hfirst, hsame⟩
    have htrack : ¬ ∀ j, Arrived toc transferred j → ¬ IsTrack toc j :=
      fun hall => hall i hfirst.arrived hfirst.track
    by_cases hdata : IsData toc 0
    · rw [if_pos hdata]
      refine ⟨⟨fun h => (by cases h), fun h => absurd h htrack⟩,
        ⟨fun _ => ⟨i, hfirst, hsame.mpr hdata⟩, fun _ => rfl⟩, ⟨fun h => (by cases h), ?_⟩,
        start_exact toc transferred⟩
      rintro ⟨j, hj, hnot⟩
      rw [← hfirst.unique hj] at hnot
      exact absurd (hsame.mpr hdata) hnot
    · rw [if_neg hdata]
      refine ⟨⟨fun h => (by cases h), fun h => absurd h htrack⟩, ⟨fun h => (by cases h), ?_⟩,
        ⟨fun _ => ⟨i, hfirst, mt hsame.mp hdata⟩, fun _ => rfl⟩, start_exact toc transferred⟩
      rintro ⟨j, hj, hyes⟩
      rw [← hfirst.unique hj] at hyes
      exact absurd (hsame.mp hyes) hdata

/-- Without a descriptor that arrived, `read_cd_toc()` has no answer. -/
theorem readCdToc_of_none_arrived {port : ScsiPort W} {s s' : Sys W} {r : CdbResult}
    (hreply : port.scsiCdb readTocCall s = (r, s')) (hok : r.status = .ok)
    (h : ¬ Arrived (tocAnswer r) (r.actualLen.getD 0) 0) :
    ((readCdToc port s).1, (readCdToc port s).2.1) = (.none, 0) := by
  rw [readCdToc_of_ok hreply hok]
  split
  · rfl
  · next hlong =>
      have hshort : beNat (bytesAt (tocAnswer r) 0 2) + 2 < 4 + 8 := by
        apply Nat.lt_of_not_le
        intro hannounced
        exact h ⟨by omega, by omega, by omega⟩
      unfold parseCdToc
      rw [if_pos hshort]

/-- **TOC parsing is exact** when no whole descriptor arrived, and when the first track has the kind of the
    first descriptor: always, unless the lead-out comes first. -/
theorem readCdToc_iff (port : ScsiPort W) (s s' : Sys W) (r : CdbResult)
    (hreply : port.scsiCdb readTocCall s = (r, s')) (hok : r.status = .ok) :
    TocExact (tocAnswer r) (r.actualLen.getD 0) (readCdToc port s).1 (readCdToc port s).2.1
      ↔ ¬ Arrived (tocAnswer r) (r.actualLen.getD 0) 0
        ∨ ∃ i, FirstTrack (tocAnswer r) (r.actualLen.getD 0) i
          ∧ (IsData (tocAnswer r) i ↔ IsData (tocAnswer r) 0) := by
  by_cases harrived : Arrived (tocAnswer r) (r.actualLen.getD 0) 0
  · have hlong : ¬ r.actualLen.getD 0 < 4 + 8 := by
      have hr := harrived.received
      omega
    have hanswer := readCdToc_of_ok hreply hok
    rw [if_neg hlong] at hanswer
    have hkind : (readCdToc port s).1 = (parseCdToc (tocAnswer r) (r.actualLen.getD 0)).1 :=
      congrArg Prod.fst hanswer
    have hlba : (readCdToc port s).2.1 = (parseCdToc (tocAnswer r) (r.actualLen.getD 0)).2 :=
      congrArg Prod.snd hanswer
    rw [hkind, hlba, tocExact_iff_of_arrived harrived]
    exact ⟨.inr, fun h => h.elim (absurd harrived) id⟩
  · obtain ⟨hkind, hlba⟩ := Prod.mk.inj (readCdToc_of_none_arrived hreply hok harrived)
    rw [hkind, hlba]
    exact ⟨fun _ => .inl harrived, fun _ => .of_none_arrived harrived⟩

/-- A drive that answers READ TOC with these bytes. -/
def tocPort (data : List UInt8) : ScsiPort Unit where
  scsiCdb _ s := (⟨.ok, some data.length, data⟩, s)
  otherThreads s := s

/-- One data track and the lead-out. -/
def dataDiscToc : List UInt8 :=
  [0x00, 0x12, 1, 1, 0, 0x14, 1, 0, 0, 0, 0, 0x96, 0, 0x14, 0xAA, 0, 0, 0, 0x40, 0]

/-- The TOC of a disc with one track is read exactly. -/
theorem dataDiscToc_exact : TocExact (tocAnswer ⟨.ok, some 20, dataDiscToc⟩) 20
    (readCdToc (tocPort dataDiscToc) ⟨{}, (), []⟩).1 (readCdToc (tocPort dataDiscToc) ⟨{}, (), []⟩).2.1 := by
  apply (readCdToc_iff (tocPort dataDiscToc) ⟨{}, (), []⟩ ⟨{}, (), []⟩ _ rfl rfl).mpr
  right
  refine ⟨0, ⟨⟨by decide +kernel, by decide, by decide⟩, by decide +kernel, ?_⟩, Iff.rfl⟩
  intro j hj
  exact absurd hj (Nat.not_lt_zero j)

/-- The lead-out alone, marked as data. -/
def leadOutToc : List UInt8 := [0x00, 0x0A, 1, 1, 0, 0x14, 0xAA, 0, 0, 0, 0x40, 0]

/-- **The lead-out is taken for a data track** when it is the only descriptor. -/
theorem leadOut_taken_for_data : ¬ TocExact (tocAnswer ⟨.ok, some 12, leadOutToc⟩) 12
    (readCdToc (tocPort leadOutToc) ⟨{}, (), []⟩).1 (readCdToc (tocPort leadOutToc) ⟨{}, (), []⟩).2.1 := by
  intro hexact
  have hdata : (readCdToc (tocPort leadOutToc) ⟨{}, (), []⟩).1 = .data := by decide +kernel
  obtain ⟨i, hfirst, -⟩ := hexact.data.mp hdata
  -- one descriptor arrived, and it is no track
  have hreceived := hfirst.arrived.received
  obtain rfl : i = 0 := by omega
  exact absurd hfirst.track (by decide +kernel)

end Liblaser
