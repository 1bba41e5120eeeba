import Mathlib.Logic.Function.Basic
import Liblaser.Registry.Units

/-!
# `Registry.Answers` — which devices a probe is wrong about

A device, as far as `laser_probe_lun()` is concerned, is what it answers to GET MAX LUN and to each attempt at
an INQUIRY of each of its units. Which of these attempts are made depends on the answers;
`inquiries_unitsAsked` says which, and with it the condition of `Registry.Units` becomes one on the device.

**`laserProbeLun_contract_iff`** is that the probe keeps its contract with every device but those of one kind.
-/

namespace Liblaser

/-- What a device answers; attempts are counted from 0. -/
structure ProbeAnswers where
  maxLun : Option UInt8
  inquiry : (lun : UInt8) → (attempt : Nat) → BotReply

/-- A host with that device behind it: its world is how many INQUIRYs each unit has had. -/
def ProbeAnswers.host (d : ProbeAnswers) : SetupHost (UInt8 → Nat) where
  send entry _ asked :=
    (d.inquiry entry.lun (asked entry.lun), Function.update asked entry.lun (asked entry.lun + 1))
  clockGettime asked := (⟨0, 0⟩, asked)
  usleep _ asked := asked
  isCancelled asked := (false, asked)
  massStorageReset _ asked := asked
  getMaxLun _ asked := (d.maxLun, asked)

/-- `max_lun`: the last unit that is probed. -/
def ProbeAnswers.lastUnit (d : ProbeAnswers) : Nat := min (d.maxLun.elim 0 UInt8.toNat) laserMaxLunProbed

/-- One of the INQUIRYs a unit may be sent, with the answer. -/
def ProbeAnswers.inquired (d : ProbeAnswers) (lun attempt : Nat) : Inquired :=
  ⟨UInt8.ofNat lun, d.inquiry (UInt8.ofNat lun) attempt⟩

/-- **The kind**: unit 0 leaves every attempt unanswered, another unit that is probed answers, and none of the
    others is optical or sees the device leave. -/
structure ProbeAnswers.HidesAnswer (d : ProbeAnswers) : Prop where
  unit0 : ∀ k < laserInquiryMaxAttempts, (d.inquired 0 k).Silent
  answered : ∃ lun, 1 ≤ lun ∧ lun ≤ d.lastUnit ∧ (d.inquired lun 0).Answered
  others : ∀ lun, 1 ≤ lun → lun ≤ d.lastUnit →
    ¬ (d.inquired lun 0).Optical ∧ ¬ (d.inquired lun 0).Gone

section Told

variable {d : ProbeAnswers} {s s' : Sys ((UInt8 → Nat) × List Inquired)}

/-- A unit was sent this many INQUIRYs and one more. -/
structure Attempted (d : ProbeAnswers) (lun : UInt8) (more : Nat)
    (s s' : Sys ((UInt8 → Nat) × List Inquired)) : Prop where
  log : ∀ i, i ∈ s'.world.2
    ↔ (∃ k ≤ more, i = ⟨lun, d.inquiry lun (s.world.1 lun + k)⟩) ∨ i ∈ s.world.2
  others : ∀ u ≠ lun, s'.world.1 u = s.world.1 u

theorem inquiryOnce_attempted : Attempted d s.entry.lun 0 s (inquiryOnce d.host.logged.toHost s).2 where
  log i := by
    show i ∈ (⟨s.entry.lun, d.inquiry s.entry.lun (s.world.1 s.entry.lun)⟩ : Inquired) :: s.world.2 ↔ _
    simp [List.mem_cons]
  others u hu := Function.update_of_ne hu _ _

/-- After one more, the attempts before it stand where they stood. -/
theorem Attempted.after {lun : UInt8} {more : Nat} {t : Sys ((UInt8 → Nat) × List Inquired)}
    (hfirst : Attempted d lun 0 s t) (hasked : t.world.1 lun = s.world.1 lun + 1)
    (hrest : Attempted d lun more t s') : Attempted d lun (more + 1) s s' where
  log i := by
    rw [hrest.log, hfirst.log, hasked]
    constructor
    · rintro (⟨k, hk, rfl⟩ | ⟨k, hk, rfl⟩ | hi)
      · exact .inl ⟨k + 1, by omega, by rw [Nat.add_assoc, Nat.add_comm 1 k]⟩
      · exact .inl ⟨k, by omega, rfl⟩
      · exact .inr hi
    · rintro (⟨k, hk, rfl⟩ | hi)
      · cases k with
        | zero => exact .inr (.inl ⟨0, Nat.le_refl 0, rfl⟩)
        | succ k => exact .inl ⟨k, by omega, by rw [Nat.add_assoc, Nat.add_comm 1 k]⟩
      · exact .inr (.inr hi)
  others u hu := (hrest.others u hu).trans (hfirst.others u hu)

/-- **The attempts at one unit**: the first, and all of them when it is given up. -/
theorem inquiryPdt_attempted (left attempt : Nat) (s : Sys ((UInt8 → Nat) × List Inquired)) :
    ∃ more ≤ left, Attempted d s.entry.lun more s (inquiryPdt d.host.logged.toHost (left + 1) attempt s).2
      ∧ ((inquiryPdt d.host.logged.toHost (left + 1) attempt s).1 = .unanswered → more = left) := by
  refine inquiryPdt_induction (h := d.host) (motive := fun left s r =>
    ∃ more ≤ left, Attempted d s.entry.lun more s r.2 ∧ (r.1 = .unanswered → more = left))
    ?_ ?_ ?_ ?_ left attempt s
  · exact fun _ s _ => ⟨0, Nat.zero_le _, inquiryOnce_attempted, fun h => (by cases h)⟩
  · exact fun _ s _ => ⟨0, Nat.zero_le _, inquiryOnce_attempted, fun h => (by cases h)⟩
  · exact fun s _ => ⟨0, Nat.le_refl 0, inquiryOnce_attempted, fun _ => rfl⟩
  · rintro _ s us r _ ⟨more, hle, hrest, hall⟩
    refine ⟨more + 1, Nat.succ_le_succ hle, ?_, fun h => congrArg Nat.succ (hall h)⟩
    -- the wait before the next attempt is no attempt
    exact inquiryOnce_attempted.after (Function.update_self _ _ _) ⟨hrest.log, hrest.others⟩

/-! ### The log of the units -/

/-- Nobody left, and nobody was optical: the loop goes on. -/
def NoneYet (log : List Inquired) : Prop := ∀ i ∈ log, ¬ i.Gone ∧ ¬ i.Optical

/-- What the units from `lun` on, `left` of them, add to the log: nothing but their attempts; where the loop
    goes on, the first attempt at each, and all of them where none was answered. -/
structure UnitsAsked (d : ProbeAnswers) (left lun : Nat) (before log : List Inquired) : Prop where
  kept : ∀ i ∈ before, i ∈ log
  only : ∀ i ∈ log, i ∈ before
    ∨ ∃ u k, lun ≤ u ∧ u < lun + left ∧ k < inquiryAttempts u ∧ i = d.inquired u k
  first : NoneYet log → ∀ u, lun ≤ u → u < lun + left → d.inquired u 0 ∈ log
  all : NoneYet log → ∀ u, lun ≤ u → u < lun + left →
    (∀ i ∈ log, i.lun = UInt8.ofNat u → ¬ i.Answered) →
    ∀ k < inquiryAttempts u, d.inquired u k ∈ log

theorem UnitsAsked.none (lun : Nat) (log : List Inquired) : UnitsAsked d 0 lun log log where
  kept _ hi := hi
  only _ hi := .inl hi
  first _ _ hle hlt := absurd hlt (Nat.not_lt.mpr hle)
  all _ _ hle hlt := absurd hlt (Nat.not_lt.mpr hle)

/-- A unit and those after it. -/
theorem UnitsAsked.append {left lun : Nat} {before mid log : List Inquired}
    (hone : UnitsAsked d 1 lun before mid) (hrest : UnitsAsked d left (lun + 1) mid log) :
    UnitsAsked d (left + 1) lun before log := by
  have hyet : NoneYet log → NoneYet mid := fun hyet i hi => hyet i (hrest.kept i hi)
  refine ⟨fun i hi => hrest.kept i (hone.kept i hi), ?_, ?_, ?_⟩
  · intro i hi
    rcases hrest.only i hi with hmid | ⟨u, k, hle, hlt, hk, rfl⟩
    · rcases hone.only i hmid with hbefore | ⟨u, k, hle, hlt, hk, rfl⟩
      · exact .inl hbefore
      · exact .inr ⟨u, k, hle, by omega, hk, rfl⟩
    · exact .inr ⟨u, k, by omega, by omega, hk, rfl⟩
  · intro hq u hle hlt
    by_cases hu : u = lun
    · subst hu
      exact hrest.kept _ (hone.first (hyet hq) u hle (by omega))
    · exact hrest.first hq u (by omega) (by omega)
  · intro hq u hle hlt hnone k hk
    by_cases hu : u = lun
    · subst hu
      have hmid := hone.all (hyet hq) u hle (by omega) fun i hi => hnone i (hrest.kept i hi)
      exact hrest.kept _ (hmid k hk)
    · exact hrest.all hq u (by omega) (by omega) hnone k hk

/-- A log that says more ends the loop, and the units after it are not asked. -/
theorem UnitsAsked.ends {left lun : Nat} {before log : List Inquired} (hone : UnitsAsked d 1 lun before log)
    (hends : ¬ NoneYet log) : UnitsAsked d (left + 1) lun before log where
  kept := hone.kept
  only i hi := by
    rcases hone.only i hi with hbefore | ⟨u, k, hle, hlt, hk, rfl⟩
    · exact .inl hbefore
    · exact .inr ⟨u, k, hle, by omega, hk, rfl⟩
  first hyet := absurd hyet hends
  all hyet := absurd hyet hends

/-- The attempts at one unit, as they are logged. -/
theorem inquiryPdt_unitsAsked {lun n : Nat} (hattempts : inquiryAttempts lun = n + 1)
    (hlun : s.entry.lun = UInt8.ofNat lun) (hfresh : s.world.1 (UInt8.ofNat lun) = 0) :
    UnitsAsked d 1 lun s.world.2 (inquiryPdt d.host.logged.toHost (n + 1) 1 s).2.world.2 := by
  obtain ⟨more, hle, hattempted, hgivenUp⟩ := @inquiryPdt_attempted d n 1 s
  obtain ⟨new, hspec, hasked⟩ := @inquiryPdt_spec _ d.host n 1 s
  generalize inquiryPdt d.host.logged.toHost (n + 1) 1 s = r at hattempted hgivenUp hspec hasked ⊢
  obtain ⟨a, t⟩ := r
  have hmem := hattempted.log
  rw [hlun, hfresh] at hmem
  simp only [Nat.zero_add] at hmem
  have hlog : t.world.2 = new ++ s.world.2 := hasked.log
  refine ⟨fun i hi => (hmem i).mpr (.inr hi), ?_, ?_, ?_⟩
  · intro i hi
    rcases (hmem i).mp hi with ⟨k, hk, rfl⟩ | hbefore
    · exact .inr ⟨lun, k, Nat.le_refl _, by omega, by omega, rfl⟩
    · exact .inl hbefore
  · intro _ u hule hult
    obtain rfl : u = lun := by omega
    exact (hmem _).mpr (.inl ⟨0, Nat.zero_le _, rfl⟩)
  · intro hyet u hule hult hnone k hk
    obtain rfl : u = lun := by omega
    cases hspec with
    | @pdt i silent hunit hanswered _ =>
        have hi : i ∈ t.world.2 := hlog ▸ List.mem_append_left _ List.mem_cons_self
        exact absurd hanswered (hnone i hi (hunit.trans hlun))
    | @gone i silent hgone =>
        have hi : i ∈ t.world.2 := hlog ▸ List.mem_append_left _ List.mem_cons_self
        exact absurd hgone (hyet i hi).1
    | unanswered _ =>
        have hmore := hgivenUp rfl
        exact (hmem _).mpr (.inl ⟨k, by omega, rfl⟩)

theorem ofNat_inj_of_lt {m n : Nat} (hm : m < 256) (hn : n < 256) (heq : UInt8.ofNat m = UInt8.ofNat n) :
    m = n := by
  have hnat := congrArg UInt8.toNat heq
  rw [UInt8.toNat_ofNat', UInt8.toNat_ofNat'] at hnat
  omega

/-- **The loop over the units.** -/
theorem probeUnits_unitsAsked (left lun : Nat) (lun0Pdt : Option UInt8)
    (s : Sys ((UInt8 → Nat) × List Inquired)) (hsmall : lun + left ≤ 256)
    (hfresh : ∀ u, lun ≤ u → u < 256 → s.world.1 (UInt8.ofNat u) = 0) :
    UnitsAsked d left lun s.world.2 (probeUnits d.host.logged.toHost left lun lun0Pdt s).2.2.world.2 := by
  induction left generalizing lun lun0Pdt s with
  | zero => exact .none lun _
  | succ left ih =>
      obtain ⟨n, hattempts⟩ := exists_inquiryAttempts lun
      have hone : UnitsAsked d 1 lun s.world.2 _ :=
        inquiryPdt_unitsAsked (s := s.setLun lun) hattempts rfl (hfresh lun (Nat.le_refl _) (by omega))
      obtain ⟨more, -, hattempted, -⟩ := @inquiryPdt_attempted d n 1 (s.setLun lun)
      obtain ⟨new, hspec, hasked⟩ := @inquiryPdt_spec _ d.host n 1 (s.setLun lun)
      unfold probeUnits
      rw [show (if lun = 0 then laserInquiryMaxAttempts else 1) = n + 1 from hattempts]
      generalize inquiryPdt d.host.logged.toHost (n + 1) 1 (s.setLun lun) = r
        at hone hattempted hspec hasked ⊢
      obtain ⟨a, t⟩ := r
      have hlog : t.world.2 = new ++ s.world.2 := hasked.log
      have hlater : ∀ u, lun + 1 ≤ u → u < 256 → t.world.1 (UInt8.ofNat u) = 0 := by
        intro u hle hlt
        have hne : UInt8.ofNat u ≠ UInt8.ofNat lun := by
          intro heq
          have hsame := ofNat_inj_of_lt hlt (by omega) heq
          omega
        exact (hattempted.others _ hne).trans (hfresh u (by omega) hlt)
      cases hspec with
      | @gone i silent hgone =>
          have hi : i ∈ t.world.2 := hlog ▸ List.mem_append_left _ List.mem_cons_self
          exact hone.ends fun hyet => (hyet i hi).1 hgone
      | unanswered _ => exact hone.append (ih (lun + 1) lun0Pdt t (by omega) hlater)
      | @pdt i silent _ hanswered _ =>
          dsimp only
          split
          next hcd =>
            have hi : i ∈ t.world.2 := hlog ▸ List.mem_append_left _ List.mem_cons_self
            exact hone.ends fun hyet => (hyet i hi).2 ⟨hanswered, hcd⟩
          next => exact hone.append (ih (lun + 1) _ t (by omega) hlater)

/-- The verdict is drawn without asking anything more. -/
theorem laserProbeLun_world {W : Type} (h : SetupHost W) (s : Sys W) :
    let begun := (s.setLun 0).getMaxLun h
    (laserProbeLun h s).2.world
      = (probeUnits h.toHost (min (begun.1.elim 0 UInt8.toNat) laserMaxLunProbed + 1) 0 none
          begun.2).2.2.world := by
  unfold laserProbeLun
  dsimp only
  generalize probeUnits h.toHost _ 0 none _ = r
  obtain ⟨_ | optical, _ | type, t⟩ := r
  · rfl
  · dsimp only
    split <;> rfl
  · rfl
  · rfl

/-- **Which attempts are made.** -/
theorem inquiries_unitsAsked (d : ProbeAnswers) (entry : LaserEntry) (trace : List ScsiEvent) :
    UnitsAsked d (d.lastUnit + 1) 0 [] (inquiries d.host ⟨entry, fun _ => 0, trace⟩) := by
  let begun := (Sys.setLun 0 ⟨entry, (fun _ => 0, []), trace⟩).getMaxLun d.host.logged
  have hlast : d.lastUnit ≤ 3 := Nat.min_le_right _ _
  have hloop : UnitsAsked d (d.lastUnit + 1) 0 [] _ :=
    probeUnits_unitsAsked (d.lastUnit + 1) 0 none begun.2 (by omega) (fun _ _ _ => rfl)
  unfold inquiries
  rw [laserProbeLun_world]
  exact hloop

/-! ### The condition -/

variable {log : List Inquired}

theorem UnitsAsked.mem (hasked : UnitsAsked d (d.lastUnit + 1) 0 [] log) {i : Inquired} (hi : i ∈ log) :
    ∃ u k, u ≤ d.lastUnit ∧ u < 256 ∧ k < inquiryAttempts u ∧ i = d.inquired u k := by
  have hlast : d.lastUnit ≤ 3 := Nat.min_le_right _ _
  rcases hasked.only i hi with hbefore | ⟨u, k, -, hlt, hk, heq⟩
  · cases hbefore
  · exact ⟨u, k, by omega, by omega, hk, heq⟩

/-- The units after the first are asked once. -/
theorem eq_zero_of_lt_inquiryAttempts {u k : Nat} (hu : u ≠ 0) (hk : k < inquiryAttempts u) : k = 0 := by
  rw [inquiryAttempts, if_neg hu] at hk
  omega

/-- A device of the kind is asked to the end. -/
theorem ProbeAnswers.HidesAnswer.noneYet (hhides : d.HidesAnswer)
    (hasked : UnitsAsked d (d.lastUnit + 1) 0 [] log) : NoneYet log := by
  intro i hi
  obtain ⟨u, k, hu, -, hk, rfl⟩ := hasked.mem hi
  by_cases hzero : u = 0
  · subst hzero
    exact ⟨(hhides.unit0 k hk).2, (hhides.unit0 k hk).not_optical⟩
  · obtain rfl := eq_zero_of_lt_inquiryAttempts hzero hk
    exact (hhides.others u (Nat.one_le_iff_ne_zero.mpr hzero) hu).symm

theorem ProbeAnswers.HidesAnswer.not_unit0Speaks (hhides : d.HidesAnswer)
    (hasked : UnitsAsked d (d.lastUnit + 1) 0 [] log) : ¬ Unit0Speaks log := by
  have hyet := hhides.noneYet hasked
  rintro (⟨i, hi, hgone⟩ | ⟨i, hi, hoptical⟩ | ⟨i, hi, hunit0, hanswered⟩ | hnobody)
  · exact (hyet i hi).1 hgone
  · exact (hyet i hi).2 hoptical
  · obtain ⟨u, k, -, hsmall, hk, rfl⟩ := hasked.mem hi
    obtain rfl : u = 0 := ofNat_inj_of_lt hsmall (by decide) hunit0
    exact (hhides.unit0 k hk).1 hanswered
  · obtain ⟨lun, -, hle, hanswered⟩ := hhides.answered
    exact hnobody ⟨_, hasked.first hyet lun (Nat.zero_le _) (by omega), hanswered⟩

theorem hidesAnswer_of_not_unit0Speaks (hasked : UnitsAsked d (d.lastUnit + 1) 0 [] log)
    (hsilent : ¬ Unit0Speaks log) : d.HidesAnswer := by
  simp only [Unit0Speaks, not_or, not_not] at hsilent
  obtain ⟨hgone, hoptical, hunit0, hheard⟩ := hsilent
  have hyet : NoneYet log := fun i hi => ⟨fun h => hgone ⟨i, hi, h⟩, fun h => hoptical ⟨i, hi, h⟩⟩
  have hnone : ∀ i ∈ log, i.lun = UInt8.ofNat 0 → ¬ i.Answered :=
    fun i hi hlun hanswered => hunit0 ⟨i, hi, hlun, hanswered⟩
  refine ⟨?_, ?_, ?_⟩
  · intro k hk
    have hmem := hasked.all hyet 0 (Nat.le_refl 0) (by omega) hnone k hk
    exact ⟨hnone _ hmem rfl, (hyet _ hmem).1⟩
  · obtain ⟨i, hi, hanswered⟩ := hheard
    obtain ⟨u, k, hu, -, hk, rfl⟩ := hasked.mem hi
    have hzero : u ≠ 0 := by
      rintro rfl
      exact hnone _ hi rfl hanswered
    obtain rfl := eq_zero_of_lt_inquiryAttempts hzero hk
    exact ⟨u, Nat.one_le_iff_ne_zero.mpr hzero, hu, hanswered⟩
  · intro lun _ hle
    exact (hyet _ (hasked.first hyet lun (Nat.zero_le _) (by omega))).symm

/-- With this device, the condition is the kind it is not of. -/
theorem unit0Speaks_iff (d : ProbeAnswers) (entry : LaserEntry) (trace : List ScsiEvent) :
    Unit0Speaks (inquiries d.host ⟨entry, fun _ => 0, trace⟩) ↔ ¬ d.HidesAnswer := by
  have hasked := inquiries_unitsAsked d entry trace
  constructor
  · exact fun hspeaks hhides => hhides.not_unit0Speaks hasked hspeaks
  · intro hno
    by_contra hsilent
    exact hno (hidesAnswer_of_not_unit0Speaks hasked hsilent)

end Told

/-- **A probe keeps its contract with every device but those where unit 0 hides the answer of another.** -/
theorem laserProbeLun_contract_iff (d : ProbeAnswers) (entry : LaserEntry) (trace : List ScsiEvent) :
    ProbeContract (laserProbeLun d.host ⟨entry, fun _ => 0, trace⟩).1
        (laserProbeLun d.host ⟨entry, fun _ => 0, trace⟩).2.entry
        (inquiries d.host ⟨entry, fun _ => 0, trace⟩)
      ↔ ¬ d.HidesAnswer :=
  (probeContract_iff_unit0Speaks d.host _).trans (unit0Speaks_iff d entry trace)

/-- Two units: the first never answers, the second is a card reader. -/
def silentReader : ProbeAnswers where
  maxLun := some 1
  inquiry
    | 0, _ => { outcome := .phaseError false, actualLen := none, data := [], bot := {} }
    | _, _ => { outcome := .pass, actualLen := some 36, data := List.replicate 36 0, bot := {} }

/-- Unit 1 answers, and the verdict is that none has. -/
theorem silent_unit0_hides_answer :
    ¬ ProbeContract (laserProbeLun silentReader.host ⟨{}, fun _ => 0, []⟩).1
      (laserProbeLun silentReader.host ⟨{}, fun _ => 0, []⟩).2.entry
      (inquiries silentReader.host ⟨{}, fun _ => 0, []⟩) := by
  intro hcontract
  have hverdict : (laserProbeLun silentReader.host ⟨{}, fun _ => 0, []⟩).1 = .noAnswer := by decide
  have hother : ¬ ∃ i ∈ inquiries silentReader.host ⟨{}, fun _ => 0, []⟩, i.Optical := by decide
  have hheard : ∃ i ∈ inquiries silentReader.host ⟨{}, fun _ => 0, []⟩, i.Answered := by decide
  exact (hcontract.falls_back (hverdict ▸ by decide) hother).2.1.mp hverdict hheard

end Liblaser
