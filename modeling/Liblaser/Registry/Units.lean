import Liblaser.Registry.Probe

/-!
# `Registry.Units` — which logical unit a probe selects

`laser_probe_lun()` against its contract, for every device: the contract speaks of all the units that were
probed and of every INQUIRY they were sent, so these are kept in a log beside the world. `SetupHost.logged`
keeps it, and `laserProbeLun_logged` is that nothing else comes of that.

The verdict is drawn from what unit 0 answered alone. **`probeContract_iff_unit0Speaks`** is what follows, on
any host: the contract is met unless unit 0 is silent where another unit answers.
-/

namespace Liblaser

open Bytes

variable {W : Type}

/-! ## The log -/

/-- One INQUIRY: the unit it was for, and the answer. -/
structure Inquired where
  lun : UInt8
  reply : BotReply
deriving DecidableEq, Repr

/-- It was answered. -/
def Inquired.Answered (i : Inquired) : Prop := i.reply.outcome = .pass ∧ 1 ≤ i.reply.actualLen.getD 0

/-- The peripheral device type answered. -/
def Inquired.type (i : Inquired) : UInt8 :=
  (overwrite (List.replicate 36 0) i.reply.data).getD 0 0 &&& scsiPdtMask

/-- It was answered by an optical unit. -/
def Inquired.Optical (i : Inquired) : Prop := i.Answered ∧ i.type = scsiPdtCdDvd

/-- The device left the bus during it. -/
def Inquired.Gone (i : Inquired) : Prop := i.reply.outcome = .noDevice

instance (i : Inquired) : Decidable i.Answered := inferInstanceAs (Decidable (_ ∧ _))

instance (i : Inquired) : Decidable i.Optical := inferInstanceAs (Decidable (_ ∧ _))

instance (i : Inquired) : Decidable i.Gone := inferInstanceAs (Decidable (_ = _))

/-- The host, with every transaction kept beside its world, newest first; a probe makes no other than
    INQUIRYs. -/
def SetupHost.logged (h : SetupHost W) : SetupHost (W × List Inquired) where
  send entry req w :=
    let (reply, w') := h.send entry req w.1
    (reply, (w', ⟨entry.lun, reply⟩ :: w.2))
  clockGettime w :=
    let (t, w') := h.clockGettime w.1
    (t, (w', w.2))
  usleep us w := (h.usleep us w.1, w.2)
  isCancelled w :=
    let (c, w') := h.isCancelled w.1
    (c, (w', w.2))
  massStorageReset entry w := (h.massStorageReset entry w.1, w.2)
  getMaxLun entry w :=
    let (buf, w') := h.getMaxLun entry w.1
    (buf, (w', w.2))

/-- The INQUIRYs of a probe with their answers, newest first. -/
def inquiries (h : SetupHost W) (s : Sys W) : List Inquired :=
  (laserProbeLun h.logged ⟨s.entry, (s.world, []), s.trace⟩).2.world.2

/-- Without the log. -/
def Sys.plain (s : Sys (W × List Inquired)) : Sys W := ⟨s.entry, s.world.1, s.trace⟩

section Logged

variable {h : SetupHost W}

theorem inquiryOnce_logged (s : Sys (W × List Inquired)) :
    (inquiryOnce h.logged.toHost s).1 = (inquiryOnce h.toHost s.plain).1
      ∧ (inquiryOnce h.logged.toHost s).2.plain = (inquiryOnce h.toHost s.plain).2 :=
  ⟨rfl, rfl⟩

theorem inquiryPdt_logged (left attempt : Nat) (s : Sys (W × List Inquired)) :
    (inquiryPdt h.logged.toHost left attempt s).1 = (inquiryPdt h.toHost left attempt s.plain).1
      ∧ (inquiryPdt h.logged.toHost left attempt s).2.plain
        = (inquiryPdt h.toHost left attempt s.plain).2 := by
  induction left generalizing attempt s with
  | zero => exact ⟨rfl, rfl⟩
  | succ left ih =>
      obtain ⟨hreply, hsys⟩ := inquiryOnce_logged (h := h) s
      unfold inquiryPdt
      dsimp only
      rw [← hreply, ← hsys]
      split
      · exact ⟨rfl, rfl⟩
      split
      · exact ⟨rfl, rfl⟩
      split
      · exact ⟨rfl, rfl⟩
      · exact ih _ _

theorem probeUnits_logged (left lun : Nat) (lun0Pdt : Option UInt8) (s : Sys (W × List Inquired)) :
    (probeUnits h.logged.toHost left lun lun0Pdt s).1 = (probeUnits h.toHost left lun lun0Pdt s.plain).1
      ∧ (probeUnits h.logged.toHost left lun lun0Pdt s).2.1
        = (probeUnits h.toHost left lun lun0Pdt s.plain).2.1
      ∧ (probeUnits h.logged.toHost left lun lun0Pdt s).2.2.plain
        = (probeUnits h.toHost left lun lun0Pdt s.plain).2.2 := by
  induction left generalizing lun lun0Pdt s with
  | zero => exact ⟨rfl, rfl, rfl⟩
  | succ left ih =>
      obtain ⟨hpdt, hsys⟩ := inquiryPdt_logged (h := h) (if lun = 0 then laserInquiryMaxAttempts else 1) 1
        (s.setLun lun)
      unfold probeUnits
      rw [show s.plain.setLun lun = (s.setLun lun).plain from rfl]
      generalize inquiryPdt h.logged.toHost _ 1 (s.setLun lun) = r at hpdt hsys ⊢
      generalize inquiryPdt h.toHost _ 1 (s.setLun lun).plain = r' at hpdt hsys ⊢
      obtain ⟨a, t⟩ := r
      obtain ⟨a', t'⟩ := r'
      obtain rfl : a = a' := hpdt
      obtain rfl : t.plain = t' := hsys
      cases a with
      | gone => exact ⟨rfl, rfl, rfl⟩
      | unanswered => exact ih _ _ _
      | pdt type =>
          dsimp only
          split
          · exact ⟨rfl, rfl, rfl⟩
          · exact ih _ _ _

/-- **Keeping the log changes nothing.** -/
theorem laserProbeLun_logged (s : Sys (W × List Inquired)) :
    (laserProbeLun h.logged s).1 = (laserProbeLun h s.plain).1
      ∧ (laserProbeLun h.logged s).2.plain = (laserProbeLun h s.plain).2 := by
  obtain ⟨hanswer, hpdt, hsys⟩ := probeUnits_logged (h := h)
    (min ((((s.setLun 0).getMaxLun h.logged).1).elim 0 UInt8.toNat) laserMaxLunProbed + 1) 0 none
    ((s.setLun 0).getMaxLun h.logged).2
  unfold laserProbeLun
  rw [show s.plain.setLun 0 = (s.setLun 0).plain from rfl]
  dsimp only
  rw [show (((s.setLun 0).plain).getMaxLun h).1 = ((s.setLun 0).getMaxLun h.logged).1 from rfl,
    show (((s.setLun 0).plain).getMaxLun h).2 = ((s.setLun 0).getMaxLun h.logged).2.plain from rfl]
  generalize probeUnits h.logged.toHost _ 0 none _ = r at hanswer hpdt hsys ⊢
  generalize probeUnits h.toHost _ 0 none _ = r' at hanswer hpdt hsys ⊢
  obtain ⟨a, lun0Pdt, t⟩ := r
  obtain ⟨a', lun0Pdt', t'⟩ := r'
  obtain rfl : a = a' := hanswer
  obtain rfl : lun0Pdt = lun0Pdt' := hpdt
  obtain rfl : t.plain = t' := hsys
  cases a with
  | some optical => exact ⟨rfl, rfl⟩
  | none =>
      cases lun0Pdt with
      | none => exact ⟨rfl, rfl⟩
      | some type =>
          dsimp only
          split <;> exact ⟨rfl, rfl⟩

end Logged

/-! ## What a probe was told -/

section Spec

variable {h : SetupHost W} {s s' : Sys (W × List Inquired)}

/-- Nobody answered, and the device stayed. -/
def Inquired.Silent (i : Inquired) : Prop := ¬ i.Answered ∧ ¬ i.Gone

/-- The INQUIRYs of one unit, by what came of them: all but the last were left unanswered. -/
inductive UnitSpec (lun : UInt8) : Inquiry → List Inquired → Prop where
  | pdt {i : Inquired} {silent : List Inquired} (hlun : i.lun = lun) (hanswered : i.Answered)
      (hsilent : ∀ j ∈ silent, j.Silent) : UnitSpec lun (.pdt i.type) (i :: silent)
  | gone {i : Inquired} {silent : List Inquired} (hgone : i.Gone) : UnitSpec lun .gone (i :: silent)
  | unanswered {silent : List Inquired} (hsilent : ∀ j ∈ silent, j.Silent) :
      UnitSpec lun .unanswered silent

theorem UnitSpec.after {lun : UInt8} {r : Inquiry} {new : List Inquired} {i : Inquired}
    (hsilent : i.Silent) (hspec : UnitSpec lun r new) : UnitSpec lun r (new ++ [i]) := by
  have hmore : ∀ {silent : List Inquired}, (∀ j ∈ silent, j.Silent) →
      ∀ j ∈ silent ++ [i], j.Silent := by
    intro silent hall j hj
    rcases List.mem_append.mp hj with hj | hj
    · exact hall j hj
    · exact List.mem_singleton.mp hj ▸ hsilent
  cases hspec with
  | pdt hlun hanswered hall => exact .pdt hlun hanswered (hmore hall)
  | gone hgone => exact .gone hgone
  | unanswered hall => exact .unanswered (hmore hall)

/-- What the loop of `inquiry_pdt()` leaves behind: its INQUIRYs in the log, the unit selected, and the
    probe timeouts off. -/
structure UnitAsked (s s' : Sys (W × List Inquired)) (new : List Inquired) : Prop where
  log : s'.world.2 = new ++ s.world.2
  lun : s'.entry.lun = s.entry.lun
  probeTimeouts : s'.entry.probeTimeouts = false

/-- An INQUIRY as it is logged. -/
def inquiryLogged (h : SetupHost W) (s : Sys (W × List Inquired)) : Inquired :=
  ⟨s.entry.lun, (inquiryOnce h.logged.toHost s).1⟩

theorem inquiryOnce_asked : UnitAsked s (inquiryOnce h.logged.toHost s).2 [inquiryLogged h s] :=
  ⟨rfl, rfl, rfl⟩

/-- **The rule of `inquiry_pdt()`**: what holds of each turn that ends it, and goes from the rest of its turns
    to one more, holds of it. -/
theorem inquiryPdt_induction
    {motive : Nat → Sys (W × List Inquired) → Inquiry × Sys (W × List Inquired) → Prop}
    (answered : ∀ left s, (inquiryLogged h s).Answered →
      motive left s (.pdt (inquiryLogged h s).type, (inquiryOnce h.logged.toHost s).2))
    (gone : ∀ left s, (inquiryLogged h s).Gone → motive left s (.gone, (inquiryOnce h.logged.toHost s).2))
    (last : ∀ s, (inquiryLogged h s).Silent →
      motive 0 s (.unanswered, (inquiryOnce h.logged.toHost s).2))
    (again : ∀ left s us r, (inquiryLogged h s).Silent →
      motive left ((inquiryOnce h.logged.toHost s).2.usleep h.logged.toHost us) r → motive (left + 1) s r)
    (left attempt : Nat) (s : Sys (W × List Inquired)) :
    motive left s (inquiryPdt h.logged.toHost (left + 1) attempt s) := by
  induction left generalizing attempt s with
  | zero =>
      unfold inquiryPdt
      dsimp only
      split
      next hpass => exact answered 0 s hpass
      next hpass =>
        split
        next hgone => exact gone 0 s hgone
        next hgone => exact last s ⟨hpass, hgone⟩
  | succ left ih =>
      unfold inquiryPdt
      dsimp only
      split
      next hpass => exact answered (left + 1) s hpass
      next hpass =>
        split
        next hgone => exact gone (left + 1) s hgone
        next hgone => exact again left s _ _ ⟨hpass, hgone⟩ (ih _ _)

/-- **The INQUIRYs of one unit.** -/
theorem inquiryPdt_spec (left attempt : Nat) (s : Sys (W × List Inquired)) :
    ∃ new, UnitSpec s.entry.lun (inquiryPdt h.logged.toHost (left + 1) attempt s).1 new
      ∧ UnitAsked s (inquiryPdt h.logged.toHost (left + 1) attempt s).2 new := by
  refine inquiryPdt_induction (h := h)
    (motive := fun _ s r => ∃ new, UnitSpec s.entry.lun r.1 new ∧ UnitAsked s r.2 new)
    ?_ ?_ ?_ ?_ left attempt s
  · exact fun _ s hanswered => ⟨_, .pdt rfl hanswered (by simp), inquiryOnce_asked⟩
  · exact fun _ s hgone => ⟨_, .gone hgone, inquiryOnce_asked⟩
  · exact fun s hsilent => ⟨_, .unanswered (by simp [hsilent]), inquiryOnce_asked⟩
  · rintro _ s us r hsilent ⟨new, hspec, hasked⟩
    refine ⟨new ++ [inquiryLogged h s], hspec.after hsilent, ?_, hasked.lun, hasked.probeTimeouts⟩
    rw [hasked.log, List.append_assoc]
    rfl

/-! ## The loop over the units -/

/-- The INQUIRYs a unit may be sent. -/
def inquiryAttempts (lun : Nat) : Nat := if lun = 0 then laserInquiryMaxAttempts else 1

theorem exists_inquiryAttempts (lun : Nat) : ∃ n, inquiryAttempts lun = n + 1 := by
  unfold inquiryAttempts
  split
  · exact ⟨6, rfl⟩
  · exact ⟨0, rfl⟩

/-- What the loop knows while it goes on: no unit has been optical, and what unit 0 answered. -/
structure ProbedSoFar (lun0Pdt : Option UInt8) (log : List Inquired) : Prop where
  stayed : ∀ i ∈ log, ¬ i.Gone
  notOptical : ∀ i ∈ log, ¬ i.Optical
  remembered : ∀ type, lun0Pdt = some type → ∃ i ∈ log, i.lun = 0 ∧ i.Answered ∧ i.type = type
  silent : lun0Pdt = none → ∀ i ∈ log, i.lun = 0 → ¬ i.Answered

theorem ProbedSoFar.nil : ProbedSoFar none [] where
  stayed := by simp
  notOptical := by simp
  remembered _ h := by cases h
  silent := by simp

theorem Inquired.Silent.not_optical {i : Inquired} (hsilent : i.Silent) : ¬ i.Optical :=
  fun hoptical => hsilent.1 hoptical.1

theorem Inquired.Answered.not_gone {i : Inquired} (hanswered : i.Answered) : ¬ i.Gone := by
  intro hgone
  rw [Inquired.Gone, hanswered.1] at hgone
  cases hgone

/-- A unit that does not answer changes nothing of it. -/
theorem ProbedSoFar.unanswered {lun0Pdt : Option UInt8} {log new : List Inquired}
    (hprobed : ProbedSoFar lun0Pdt log) (hsilent : ∀ j ∈ new, j.Silent) :
    ProbedSoFar lun0Pdt (new ++ log) where
  stayed i hi := (List.mem_append.mp hi).elim (fun hi => (hsilent i hi).2) (hprobed.stayed i)
  notOptical i hi :=
    (List.mem_append.mp hi).elim (fun hi => (hsilent i hi).not_optical) (hprobed.notOptical i)
  remembered type htype := by
    obtain ⟨i, hi, hrest⟩ := hprobed.remembered type htype
    exact ⟨i, List.mem_append_right new hi, hrest⟩
  silent hnone i hi hlun :=
    (List.mem_append.mp hi).elim (fun hi => (hsilent i hi).1) fun hi => hprobed.silent hnone i hi hlun

/-- A unit that answers, but not as an optical one, is remembered if it is unit 0. -/
theorem ProbedSoFar.answered {lun : Nat} {lun0Pdt : Option UInt8} {log silent : List Inquired} {i : Inquired}
    (hprobed : ProbedSoFar lun0Pdt log) (hsmall : lun < 256) (hlun : i.lun = UInt8.ofNat lun)
    (hanswered : i.Answered) (hother : i.type ≠ scsiPdtCdDvd) (hsilent : ∀ j ∈ silent, j.Silent) :
    ProbedSoFar (if lun = 0 then some i.type else lun0Pdt) (i :: silent ++ log) where
  stayed := by
    intro j hj
    rcases List.mem_cons.mp hj with rfl | hj
    · exact hanswered.not_gone
    · exact (hprobed.unanswered hsilent).stayed j hj
  notOptical := by
    intro j hj
    rcases List.mem_cons.mp hj with rfl | hj
    · exact fun hoptical => hother hoptical.2
    · exact (hprobed.unanswered hsilent).notOptical j hj
  remembered := by
    intro type htype
    split at htype
    next hzero =>
      refine ⟨i, List.mem_cons_self, ?_, hanswered, Option.some.inj htype⟩
      rw [hlun, hzero]
      rfl
    next =>
      obtain ⟨j, hj, hrest⟩ := (hprobed.unanswered hsilent).remembered type htype
      exact ⟨j, List.mem_cons_of_mem i hj, hrest⟩
  silent := by
    intro hnone j hj hzero
    split at hnone
    next => cases hnone
    next hne =>
      rcases List.mem_cons.mp hj with rfl | hj
      · rw [hlun, UInt8.ofNat_eq_iff_mod_eq_toNat, Nat.mod_eq_of_lt hsmall] at hzero
        exact absurd hzero hne
      · exact (hprobed.unanswered hsilent).silent hnone j hj hzero

/-- How the loop ends, and the unit it leaves selected. -/
inductive ProbeSpec (log : List Inquired) : Option LaserOptical → Option UInt8 → UInt8 → Prop where
  | gone {lun0Pdt : Option UInt8} {i : Inquired} (hmem : i ∈ log) (hgone : i.Gone) :
      ProbeSpec log (some .gone) lun0Pdt 0
  | optical {lun0Pdt : Option UInt8} {i : Inquired} (hstayed : ∀ j ∈ log, ¬ j.Gone) (hmem : i ∈ log)
      (hoptical : i.Optical) (hfirst : ∀ j ∈ log, j.Optical → i.lun ≤ j.lun) :
      ProbeSpec log (some .yes) lun0Pdt i.lun
  | finished {lun0Pdt : Option UInt8} {lun : UInt8} (hprobed : ProbedSoFar lun0Pdt log) :
      ProbeSpec log none lun0Pdt lun

/-- A unit that answers as an optical one is the first that does. -/
theorem ProbedSoFar.optical {lun0Pdt pdt : Option UInt8} {log silent : List Inquired} {i : Inquired}
    (hprobed : ProbedSoFar lun0Pdt log) (hoptical : i.Optical) (hsilent : ∀ j ∈ silent, j.Silent) :
    ProbeSpec (i :: silent ++ log) (some .yes) pdt i.lun := by
  have hrest := hprobed.unanswered hsilent
  refine .optical ?_ List.mem_cons_self hoptical ?_
  · intro j hj
    rcases List.mem_cons.mp hj with rfl | hj
    · exact hoptical.1.not_gone
    · exact hrest.stayed j hj
  · intro j hj hother
    rcases List.mem_cons.mp hj with rfl | hj
    · exact UInt8.le_refl _
    · exact absurd hother (hrest.notOptical j hj)

/-- **The loop over the units.** -/
theorem probeUnits_spec (left lun : Nat) (lun0Pdt : Option UInt8) (s : Sys (W × List Inquired))
    (hsmall : lun + left ≤ 256) (hprobed : ProbedSoFar lun0Pdt s.world.2)
    (hoff : 0 < left ∨ s.entry.probeTimeouts = false) :
    let r := probeUnits h.logged.toHost left lun lun0Pdt s
    ProbeSpec r.2.2.world.2 r.1 r.2.1 r.2.2.entry.lun ∧ r.2.2.entry.probeTimeouts = false := by
  induction left generalizing lun lun0Pdt s with
  | zero => exact ⟨.finished hprobed, hoff.resolve_left (Nat.lt_irrefl 0)⟩
  | succ left ih =>
      obtain ⟨attempts, hattempts⟩ := exists_inquiryAttempts lun
      obtain ⟨new, hunit, hasked⟩ := inquiryPdt_spec (h := h) attempts 1 (s.setLun lun)
      unfold probeUnits
      rw [show (if lun = 0 then laserInquiryMaxAttempts else 1) = attempts + 1 from hattempts]
      generalize inquiryPdt h.logged.toHost (attempts + 1) 1 (s.setLun lun) = r at hunit hasked ⊢
      obtain ⟨a, t⟩ := r
      have hlog : t.world.2 = new ++ s.world.2 := hasked.log
      have hlun : t.entry.lun = UInt8.ofNat lun := hasked.lun
      have htimeouts : t.entry.probeTimeouts = false := hasked.probeTimeouts
      cases hunit with
      | gone hgone => exact ⟨.gone (hlog ▸ List.mem_append_left _ List.mem_cons_self) hgone, htimeouts⟩
      | unanswered hsilent =>
          exact ih _ _ _ (by omega) (hlog ▸ hprobed.unanswered hsilent) (.inr htimeouts)
      | @pdt i silent hlun' hanswered hsilent =>
          dsimp only
          split
          next hcd =>
            have hselected : t.entry.lun = i.lun := hlun.trans hlun'.symm
            refine ⟨?_, htimeouts⟩
            rw [hselected, hlog]
            exact hprobed.optical ⟨hanswered, hcd⟩ hsilent
          next hother =>
            refine ih _ _ _ (by omega) ?_ (.inr htimeouts)
            rw [hlog]
            exact hprobed.answered (by omega) hlun' hanswered hother hsilent

/-- What a probe returns, and the unit it selects, by what it was told. -/
inductive VerdictSpec (log : List Inquired) : LaserOptical → UInt8 → Prop where
  | gone {i : Inquired} (hmem : i ∈ log) (hgone : i.Gone) : VerdictSpec log .gone 0
  | optical {i : Inquired} (hstayed : ∀ j ∈ log, ¬ j.Gone) (hmem : i ∈ log) (hoptical : i.Optical)
      (hfirst : ∀ j ∈ log, j.Optical → i.lun ≤ j.lun) : VerdictSpec log .yes i.lun
  | noAnswer (hstayed : ∀ j ∈ log, ¬ j.Gone) (hother : ∀ j ∈ log, ¬ j.Optical)
      (hsilent : ∀ j ∈ log, j.lun = 0 → ¬ j.Answered) : VerdictSpec log .noAnswer 0
  | answered {i : Inquired} {optical : LaserOptical} (hstayed : ∀ j ∈ log, ¬ j.Gone)
      (hother : ∀ j ∈ log, ¬ j.Optical) (hmem : i ∈ log) (hlun : i.lun = 0) (hanswered : i.Answered)
      (hoptical : optical = if i.type = scsiPdtDirectAccess then .no else .yes) : VerdictSpec log optical 0

/-- **The whole probe.** -/
theorem laserProbeLun_spec (h : SetupHost W) (s : Sys W) :
    VerdictSpec (inquiries h s) (laserProbeLun h s).1 (laserProbeLun h s).2.entry.lun
      ∧ (laserProbeLun h s).2.entry.probeTimeouts = false := by
  have hlogged := laserProbeLun_logged (h := h) ⟨s.entry, (s.world, []), s.trace⟩
  obtain ⟨hanswer, hsys⟩ := hlogged
  have hentry : (laserProbeLun h.logged ⟨s.entry, (s.world, []), s.trace⟩).2.entry
      = (laserProbeLun h s).2.entry := congrArg Sys.entry hsys
  rw [show (laserProbeLun h s).1 = _ from hanswer.symm, ← hentry]
  unfold inquiries laserProbeLun
  dsimp only
  generalize hbegun : (Sys.getMaxLun h.logged (Sys.setLun 0 ⟨s.entry, (s.world, []), s.trace⟩)) = begun
  have hlog : begun.2.world.2 = [] := by
    rw [← hbegun]
    rfl
  have hmax : min (begun.1.elim 0 UInt8.toNat) laserMaxLunProbed ≤ 3 := Nat.min_le_right _ _
  generalize min (begun.1.elim 0 UInt8.toNat) laserMaxLunProbed = maxLun at hmax
  obtain ⟨hspec, htimeouts⟩ := probeUnits_spec (h := h) (maxLun + 1) 0 none begun.2 (by omega)
    (hlog ▸ .nil) (.inl (Nat.succ_pos _))
  generalize probeUnits h.logged.toHost (maxLun + 1) 0 none begun.2 = r at hspec htimeouts ⊢
  obtain ⟨a, lun0Pdt, t⟩ := r
  dsimp only at hspec htimeouts ⊢
  generalize hlun : t.entry.lun = lun at hspec
  cases hspec with
  | gone hmem hgone =>
      refine ⟨?_, htimeouts⟩
      rw [hlun]
      exact .gone hmem hgone
  | optical hstayed hmem hoptical hfirst =>
      refine ⟨?_, htimeouts⟩
      rw [hlun]
      exact .optical hstayed hmem hoptical hfirst
  | finished hprobed =>
      cases lun0Pdt with
      | none => exact ⟨.noAnswer hprobed.stayed hprobed.notOptical (hprobed.silent rfl), htimeouts⟩
      | some type =>
          obtain ⟨i, hmem, hunit0, hanswered, htype⟩ := hprobed.remembered type rfl
          have hverdict : ∀ optical, optical = (if i.type = scsiPdtDirectAccess then .no else .yes) →
              VerdictSpec t.world.2 optical 0 :=
            fun _ => .answered hprobed.stayed hprobed.notOptical hmem hunit0 hanswered
          rw [htype] at hverdict
          dsimp only
          split
          next hdirect => exact ⟨hverdict _ (if_pos hdirect).symm, htimeouts⟩
          next hdirect => exact ⟨hverdict _ (if_neg hdirect).symm, htimeouts⟩

end Spec

/-! ## The contract -/

/-- The contract of `laser_probe_lun()`, on all it was told. -/
structure ProbeContract (optical : LaserOptical) (entry : LaserEntry) (log : List Inquired) : Prop where
  gone_iff : optical = .gone ↔ ∃ i ∈ log, i.Gone
  selects : optical ≠ .gone → (∃ i ∈ log, i.Optical) →
    optical = .yes ∧ (∃ i ∈ log, i.Optical ∧ entry.lun = i.lun)
      ∧ ∀ i ∈ log, i.Optical → entry.lun ≤ i.lun
  falls_back : optical ≠ .gone → (¬ ∃ i ∈ log, i.Optical) →
    entry.lun = 0 ∧ (optical = .noAnswer ↔ ¬ ∃ i ∈ log, i.Answered)
      ∧ (optical = .no → ∃ i ∈ log, i.lun = 0 ∧ i.Answered ∧ i.type = scsiPdtDirectAccess)
  probeTimeouts : entry.probeTimeouts = false

/-- **The condition**: unit 0 answers, or none does; or the device leaves, or a unit is optical. -/
def Unit0Speaks (log : List Inquired) : Prop :=
  (∃ i ∈ log, i.Gone) ∨ (∃ i ∈ log, i.Optical) ∨ (∃ i ∈ log, i.lun = 0 ∧ i.Answered)
    ∨ ¬ ∃ i ∈ log, i.Answered

section Contract

variable {optical : LaserOptical} {entry : LaserEntry} {log : List Inquired} {i : Inquired}

theorem ProbeContract.of_gone (hmem : i ∈ log) (hgone : i.Gone) (htimeouts : entry.probeTimeouts = false) :
    ProbeContract .gone entry log where
  gone_iff := ⟨fun _ => ⟨i, hmem, hgone⟩, fun _ => rfl⟩
  selects hne := absurd rfl hne
  falls_back hne := absurd rfl hne
  probeTimeouts := htimeouts

theorem ProbeContract.of_optical (hstayed : ∀ j ∈ log, ¬ j.Gone) (hmem : i ∈ log) (hoptical : i.Optical)
    (hfirst : ∀ j ∈ log, j.Optical → i.lun ≤ j.lun) (hlun : entry.lun = i.lun)
    (htimeouts : entry.probeTimeouts = false) : ProbeContract .yes entry log where
  gone_iff := ⟨fun h => (by cases h), fun ⟨j, hj, hgone⟩ => absurd hgone (hstayed j hj)⟩
  selects _ _ := ⟨rfl, ⟨i, hmem, hoptical, hlun⟩, hlun ▸ hfirst⟩
  falls_back _ hnone := absurd ⟨i, hmem, hoptical⟩ hnone
  probeTimeouts := htimeouts

/-- Where no unit was optical, the contract is about the verdict alone. -/
theorem ProbeContract.of_fallback (hstayed : ∀ j ∈ log, ¬ j.Gone) (hother : ∀ j ∈ log, ¬ j.Optical)
    (hlun : entry.lun = 0) (htimeouts : entry.probeTimeouts = false) (hgone : optical ≠ .gone)
    (hnoAnswer : optical = .noAnswer ↔ ¬ ∃ i ∈ log, i.Answered)
    (hno : optical = .no → ∃ i ∈ log, i.lun = 0 ∧ i.Answered ∧ i.type = scsiPdtDirectAccess) :
    ProbeContract optical entry log where
  gone_iff := ⟨fun h => absurd h hgone, fun ⟨j, hj, hleft⟩ => absurd hleft (hstayed j hj)⟩
  selects _ := fun ⟨j, hj, hoptical⟩ => absurd hoptical (hother j hj)
  falls_back _ _ := ⟨hlun, hnoAnswer, hno⟩
  probeTimeouts := htimeouts

/-- Unit 0 has been silent, and the verdict is right only if every unit has. -/
theorem ProbeContract.noAnswer_iff (hstayed : ∀ j ∈ log, ¬ j.Gone) (hother : ∀ j ∈ log, ¬ j.Optical)
    (hsilent : ∀ j ∈ log, j.lun = 0 → ¬ j.Answered) (hlun : entry.lun = 0)
    (htimeouts : entry.probeTimeouts = false) :
    ProbeContract .noAnswer entry log ↔ Unit0Speaks log := by
  constructor
  · intro hcontract
    have hoptical : ¬ ∃ i ∈ log, i.Optical := fun ⟨i, hi, h⟩ => hother i hi h
    obtain ⟨_, hnoAnswer, _⟩ := hcontract.falls_back (by decide) hoptical
    exact .inr (.inr (.inr (hnoAnswer.mp rfl)))
  · rintro (⟨i, hi, hgone⟩ | ⟨i, hi, hoptical⟩ | ⟨i, hi, hzero, hanswered⟩ | hnobody)
    · exact absurd hgone (hstayed i hi)
    · exact absurd hoptical (hother i hi)
    · exact absurd hanswered (hsilent i hi hzero)
    · exact .of_fallback hstayed hother hlun htimeouts (by decide) ⟨fun _ => hnobody, fun _ => rfl⟩
        (fun h => (by cases h))

/-- Unit 0 has answered, and the verdict is right whatever the others did. -/
theorem ProbeContract.of_answered (hstayed : ∀ j ∈ log, ¬ j.Gone) (hother : ∀ j ∈ log, ¬ j.Optical)
    (hmem : i ∈ log) (hunit0 : i.lun = 0) (hanswered : i.Answered)
    (hoptical : optical = if i.type = scsiPdtDirectAccess then .no else .yes) (hlun : entry.lun = 0)
    (htimeouts : entry.probeTimeouts = false) : ProbeContract optical entry log := by
  have hheard : ∃ j ∈ log, j.Answered := ⟨i, hmem, hanswered⟩
  by_cases hdirect : i.type = scsiPdtDirectAccess
  · rw [if_pos hdirect] at hoptical
    subst hoptical
    exact .of_fallback hstayed hother hlun htimeouts (by decide)
      ⟨fun h => (by cases h), fun h => absurd hheard h⟩ fun _ => ⟨i, hmem, hunit0, hanswered, hdirect⟩
  · rw [if_neg hdirect] at hoptical
    subst hoptical
    exact .of_fallback hstayed hother hlun htimeouts (by decide)
      ⟨fun h => (by cases h), fun h => absurd hheard h⟩ fun h => (by cases h)

end Contract

/-- **When the contract is met**, by what was answered. -/
theorem probeContract_iff_unit0Speaks (h : SetupHost W) (s : Sys W) :
    ProbeContract (laserProbeLun h s).1 (laserProbeLun h s).2.entry (inquiries h s)
      ↔ Unit0Speaks (inquiries h s) := by
  obtain ⟨hspec, htimeouts⟩ := laserProbeLun_spec h s
  generalize (laserProbeLun h s).2.entry = entry at hspec htimeouts ⊢
  generalize (laserProbeLun h s).1 = optical at hspec ⊢
  generalize inquiries h s = log at hspec ⊢
  generalize hlun : entry.lun = lun at hspec
  cases hspec with
  | @gone i hmem hgone => exact ⟨fun _ => .inl ⟨i, hmem, hgone⟩, fun _ => .of_gone hmem hgone htimeouts⟩
  | @optical i hstayed hmem hoptical hfirst =>
      exact ⟨fun _ => .inr (.inl ⟨i, hmem, hoptical⟩),
        fun _ => .of_optical hstayed hmem hoptical hfirst hlun htimeouts⟩
  | noAnswer hstayed hother hsilent => exact ProbeContract.noAnswer_iff hstayed hother hsilent hlun htimeouts
  | @answered i _ hstayed hother hmem hunit0 hanswered hoptical =>
      exact ⟨fun _ => .inr (.inr (.inl ⟨i, hmem, hunit0, hanswered⟩)),
        fun _ => .of_answered hstayed hother hmem hunit0 hanswered hoptical hlun htimeouts⟩

end Liblaser
