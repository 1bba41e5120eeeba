import Liblaser.Scsi.Classified

/-!
# `Scsi.NeverSent` — the verdict on a device that takes no CBW

After the loop `laser_scsi_cdb()` compares two counters: the attempts made, and those whose CBW was not
taken. When they are equal the device is declared gone. The second counts transactions; the first does
not count the attempts that were given back, and an attempt is given back for an answer of the device.

So the verdict can be given to a device that has answered (`neverSent_after_answer`).
**`neverSent_silent_iff`** is exactly when: the call met one of the two spin-up answers, and yet six of
its transactions were not sent.
-/

namespace Liblaser

open Loop

variable {W : Type} {h : Host W} {call : CdbCall} {v v' : CdbVars} {s s' t u : Sys W}
  {o : BotOutcome} {sense : Sense} {n : Nat}

/-- What the verdict says of the device: it took none of the CBWs of the call, and there were
    `LASER_MAX_RETRIES` of them. -/
structure Silent (trace : List ScsiEvent) : Prop where
  notSent : ∀ o ∈ cdbOutcomes trace, o = .notSent
  attempts : (cdbOutcomes trace).length = laserMaxRetries

/-- The transactions of the CDB that were not sent. -/
def notSentCount (trace : List ScsiEvent) : Nat := (cdbOutcomes trace).count .notSent

/-- No transaction of the trace found the device gone. -/
def NoneGone (trace : List ScsiEvent) : Prop := ∀ e ∈ trace, e.outcome ≠ some .noDevice

instance (trace : List ScsiEvent) : Decidable (NoneGone trace) :=
  inferInstanceAs (Decidable (∀ e ∈ trace, _))

instance (trace : List ScsiEvent) : Decidable (Silent trace) :=
  decidable_of_iff ((∀ o ∈ cdbOutcomes trace, o = .notSent)
    ∧ (cdbOutcomes trace).length = laserMaxRetries)
    ⟨fun hboth => ⟨hboth.1, hboth.2⟩, fun hsilent => ⟨hsilent.notSent, hsilent.attempts⟩⟩

/-! ## The two counters -/

/-- **The invariant of the loop**: what the counters count. -/
structure Counters (v : CdbVars) (t : Sys W) : Prop where
  neverSent : v.cbwNeverSent = notSentCount t.trace
  made_le : v.attemptsMade ≤ laserMaxRetries
  attempt_le : v.attempt ≤ v.attemptsMade + 1
  /-- With none of the spin-up answers, every transaction has spent an attempt. -/
  spent : spinUpAnswers t.trace = [] → (cdbOutcomes t.trace).length + 1 = v.attempt
  /-- Such an answer is one of a device that took a CBW. -/
  answered : spinUpAnswers t.trace ≠ [] → ∃ o ∈ cdbOutcomes t.trace, o ≠ .notSent

/-- What a failed transaction adds. -/
theorem Failed.counters (hfailed : Failed h call v s o sense v' t) (hI : Counters v s) :
    v'.cbwNeverSent = notSentCount t.trace ∧ v'.attemptsMade = v.attempt
      ∧ v'.attempt = v.attempt ∧ v.attempt ≤ laserMaxRetries
      ∧ (sense.spinUp ≠ none → o ≠ .notSent) := by
  obtain ⟨hattempt, -, -, hle, -⟩ := hfailed.vars
  obtain ⟨hmade, hcount⟩ := hfailed.counts
  refine ⟨?_, hmade, hattempt, hle, ?_⟩
  · rw [hcount, hI.neverSent, notSentCount, notSentCount, hfailed.cdbOutcomes, List.count_cons]
    simp only [beq_iff_eq]
  · rintro hspin rfl
    apply hspin
    rw [hfailed.sense_of_notSent]
    rfl

/-- A turn that goes round again: a failed transaction, and an attempt spent or, after one of the two
    answers, given back. -/
theorem AgainSpec.counted (hspec : AgainSpec h call v s v' u) :
    ∃ o sense v₁ t₁, Failed h call v s o sense v₁ t₁
      ∧ v'.cbwNeverSent = v₁.cbwNeverSent ∧ v'.attemptsMade = v₁.attemptsMade
      ∧ Liblaser.cdbOutcomes u.trace = Liblaser.cdbOutcomes t₁.trace
      ∧ spinUpAnswers u.trace = spinUpAnswers t₁.trace
      ∧ ((v'.attempt = v₁.attempt ∧ sense.spinUp ≠ none) ∨ v'.attempt = v₁.attempt + 1) := by
  cases hspec with
  | @mediumReady o sense v₁ t₁ hfailed hchanged _ =>
      refine ⟨o, sense, v₁, t₁, hfailed, rfl, rfl, rfl, rfl, .inl ⟨rfl, ?_⟩⟩
      simp [spinUp_of_changed hchanged]
  | @free o sense v₁ t₁ t₂ since now w hfailed hready _ hwait _ _ =>
      refine ⟨o, sense, v₁, t₁, hfailed, rfl, rfl, hwait.cdbOutcomes, hwait.answers,
        .inl ⟨rfl, ?_⟩⟩
      simp [spinUp_of_becomingReady hready]
  | @late o sense v₁ t₁ t₂ u since now w hfailed _ _ hwait _ _ hspent =>
      exact ⟨o, sense, v₁, t₁, hfailed, rfl, rfl, hspent.cdbOutcomes.trans hwait.cdbOutcomes,
        hspent.answers.trans hwait.answers, .inr rfl⟩
  | @retried o sense v₁ t₁ u hfailed _ _ _ hspent =>
      exact ⟨o, sense, v₁, t₁, hfailed, rfl, rfl, hspent.cdbOutcomes, hspent.answers, .inr rfl⟩

theorem AgainSpec.counters (hspec : AgainSpec h call v s v' u) (hI : Counters v s) :
    Counters v' u := by
  obtain ⟨o, sense, v₁, t₁, hfailed, hcount, hmade, hsent, hanswers, hattempt⟩ := hspec.counted
  obtain ⟨hcount₁, hmade₁, hattempt₁, hle, hspin⟩ := hfailed.counters hI
  have hanswers₁ := hanswers.trans hfailed.spinUpAnswers
  have hsent₁ := hsent.trans hfailed.cdbOutcomes
  constructor
  case neverSent =>
    rw [hcount, hcount₁, notSentCount, notSentCount, hsent]
  case made_le =>
    rw [hmade, hmade₁]
    exact hle
  case attempt_le =>
    rw [hmade, hmade₁]
    rcases hattempt with ⟨heq, -⟩ | heq <;> omega
  case spent =>
    intro hnone
    rw [hanswers₁, List.append_eq_nil_iff] at hnone
    have hspent := hI.spent hnone.2
    rcases hattempt with ⟨-, hback⟩ | heq
    · exact absurd (Option.toList_eq_nil_iff.mp hnone.1) hback
    · rw [hsent₁, List.length_cons]
      omega
  case answered =>
    intro hsome
    rw [hanswers₁] at hsome
    rw [hsent₁]
    by_cases hnow : sense.spinUp = none
    · rw [hnow] at hsome
      obtain ⟨o', hmem, ho'⟩ := hI.answered hsome
      exact ⟨o', List.mem_cons_of_mem o hmem, ho'⟩
    · exact ⟨o, List.mem_cons_self, hspin hnow⟩

theorem InLoop.counters (hs : s.trace = []) (hin : InLoop h call s n v t) : Counters v t := by
  apply hin.invariant (I := fun _ v t => Counters v t)
  · intro k v t v' u _ hI hspec
    exact hspec.counters hI
  · have hempty : ∀ trace : List ScsiEvent, trace = [] ∨ (∃ c, trace = [.polled c]) →
        Counters {} ⟨s.entry, s.world, trace⟩ := by
      rintro trace (rfl | ⟨c, rfl⟩)
      · exact ⟨rfl, by decide, by decide, fun _ => rfl, fun hsome => absurd rfl hsome⟩
      · exact ⟨rfl, by decide, by decide, fun _ => rfl, fun hsome => absurd rfl hsome⟩
    have htrace := precheck_trace h call s
    rw [hs] at htrace
    obtain ⟨hcount, hmade, hattempt, hspent, hanswered⟩ := hempty _ htrace
    exact ⟨hcount, hmade, hattempt, hspent, hanswered⟩

/-! ## The verdict -/

/-- A transaction that was not sent explains nothing, so it does not end the call. -/
theorem DoneSpec.notSentCount (hspec : DoneSpec h call v s v' u) :
    notSentCount u.trace = notSentCount s.trace := by
  have hother : ∀ {o : BotOutcome}, o ≠ .notSent →
      Liblaser.cdbOutcomes u.trace = o :: Liblaser.cdbOutcomes s.trace →
      Liblaser.notSentCount u.trace = Liblaser.notSentCount s.trace := by
    intro o ho heq
    rw [Liblaser.notSentCount, heq, List.count_cons_of_ne ho]
    rfl
  cases hspec with
  | exhausted _ => rfl
  | cancelled _ _ => rfl
  | passed hasked =>
      apply hother (o := .pass) (by decide)
      rw [sampleThroughputLocked_trace]
      exact hasked.cdbOutcomes
  | gone hasked => exact hother (o := .noDevice) (by decide) hasked.cdbOutcomes
  | final hfailed hclass => exact hother (hfailed.sent_of_final hclass) hfailed.cdbOutcomes

/-- Six transactions that were not sent have spent all the attempts: the loop ends on its bound, with
    the two counters equal. -/
theorem exhausted_of_notSent (hs : s.trace = []) (hin : InLoop h call s n v t)
    (hdone : cdbTurn h call (v, t) = .done (v', u))
    (hsix : laserMaxRetries ≤ notSentCount u.trace) :
    v' = v ∧ u = t ∧ v.attempt = laserMaxRetries + 1 ∧ v.attemptsMade = laserMaxRetries
      ∧ v.cbwNeverSent = laserMaxRetries := by
  have hI := hin.counters hs
  have hlt := hin.neverSent_lt
  have hmade := hI.made_le
  have hattempt := hI.attempt_le
  have hspec := cdbTurn_done hdone
  rw [hspec.notSentCount, ← hI.neverSent] at hsix
  cases hspec with
  | exhausted _ => exact ⟨rfl, rfl, by omega, by omega, by omega⟩
  | cancelled hle _ => omega
  | passed hasked | gone hasked =>
      have hle := hasked.attempt_le
      omega
  | final hfailed _ =>
      have hle := hfailed.vars.2.2.2.1
      omega

/-- Without a transaction that found the device gone, `LASER_ERR_NO_DEVICE` is the verdict. -/
theorem notSent_of_verdict (hs : s.trace = []) (hin : InLoop h call s n v t)
    (hdone : cdbTurn h call (v, t) = .done (v', u)) (hgone : NoneGone u.trace)
    (hst : (conclude v' u).1.status = .errNoDevice) : laserMaxRetries ≤ notSentCount u.trace := by
  have hI := hin.counters hs
  have hlt := hin.neverSent_lt
  have hattempt := hI.attempt_le
  have hverdict : v'.result ≠ .errNoDevice → v'.cbwNeverSent = v'.attemptsMade ∧ v'.result ≠ .ok
      ∧ v'.result ≠ .errCancelled := by
    intro hne
    unfold conclude neverSentVerdict at hst
    dsimp only at hst
    split at hst
    · next hcond => exact ⟨hcond.2.2.2, hcond.1, hcond.2.1⟩
    · exact absurd hst (normalise_ne_noDevice _ hne)
  cases cdbTurn_done hdone with
  | exhausted hmax =>
      have heq := (hverdict (by rw [hin.result]; decide)).1
      rw [← hI.neverSent]
      omega
  | cancelled _ _ => exact absurd rfl (hverdict fun hne => nomatch hne).2.2
  | passed _ => exact absurd rfl (hverdict fun hne => nomatch hne).2.1
  | gone hasked =>
      refine absurd rfl (hgone (.sent .scsiCdb call.request .noDevice) ?_)
      show _ ∈ Sys.trace _
      rw [Sys.markGone, hasked.trace]
      exact List.mem_cons_self
  | @final o sense v₁ t₁ st hfailed hclass =>
      have hne := hclass.ne_noDevice
      have hsent := hfailed.sent_of_final hclass
      obtain ⟨hmade, hcount⟩ := hfailed.counts
      have heq : v₁.cbwNeverSent = v₁.attemptsMade := (hverdict hne).1
      rw [if_neg hsent] at hcount
      omega

/-- A call in its loop found the device there. -/
theorem InLoop.present (hin : InLoop h call s n v t) : s.entry.deviceGone = false := by
  have hcheck := hin.1
  unfold precheck at hcheck
  dsimp only at hcheck
  split at hcheck
  · cases hcheck
  split at hcheck
  · cases hcheck
  split at hcheck
  · cases hcheck
  split at hcheck
  · cases hcheck
  split at hcheck
  · cases hcheck
  · next hgone => exact eq_false_of_ne_true hgone

/-- **When the never-sent verdict is right.** Of a call none of whose transactions found the device gone:
    if it declares the device gone then every transaction of its CDB was not sent and there were
    `LASER_MAX_RETRIES` of them, exactly when no answer of the call was 02h/04h or 28h/00h, or fewer than
    that many of its transactions were not sent. -/
theorem neverSent_silent_iff (h : Host W) (call : CdbCall) (s s' : Sys W) (r : CdbResult)
    (hs : s.trace = []) (hret : Returns h call s r s') (hgone : NoneGone s'.trace) :
    (s.entry.deviceGone = false ∧ s'.entry.deviceGone = true ∧ r.status = .errNoDevice →
        Silent s'.trace)
      ↔ (spinUpAnswers s'.trace = [] ∨ notSentCount s'.trace < laserMaxRetries) := by
  rcases hret.cases with ⟨st, hcheck, rfl, rfl⟩ | ⟨n, v, t, v', u, hin, hdone, rfl, rfl⟩
  · -- nothing was sent, and nothing latched
    have htrace : notSentCount (precheck h call s).2.trace < laserMaxRetries := by
      have hnothing : laserMaxRetries > 0 := by decide
      rcases precheck_trace h call s with heq | ⟨c, heq⟩ <;> rw [heq, hs] <;> exact hnothing
    refine ⟨fun _ => .inr htrace, ?_⟩
    rintro - ⟨hbefore, hafter, -⟩
    rw [precheck_entry, hbefore] at hafter
    cases hafter
  · have hI := hin.counters hs
    rw [conclude_trace] at hgone ⊢
    constructor
    · intro hsilent
      apply Decidable.byContradiction
      intro hcond
      rw [not_or, Nat.not_lt] at hcond
      obtain ⟨hanswers, hsix⟩ := hcond
      obtain ⟨rfl, rfl, hattempt, hmade, hcount⟩ := exhausted_of_notSent hs hin hdone hsix
      have hverdict : conclude v' u = (⟨.errNoDevice, v'.actualLen, v'.data⟩, u.markGone) := by
        unfold conclude neverSentVerdict
        rw [if_pos ⟨by rw [hin.result]; decide, by rw [hin.result]; decide, by rw [hmade]; decide,
          by rw [hcount, hmade]⟩]
        rfl
      rw [hverdict] at hsilent
      obtain ⟨hall, -⟩ := hsilent ⟨hin.present, rfl, rfl⟩
      obtain ⟨o, ho, hne⟩ := hI.answered hanswers
      exact hne (hall o ho)
    · rintro hcond ⟨-, -, hst⟩
      have hsix := notSent_of_verdict hs hin hdone hgone hst
      obtain ⟨rfl, rfl, hattempt, -, hcount⟩ := exhausted_of_notSent hs hin hdone hsix
      have hnone : spinUpAnswers u.trace = [] := by
        rcases hcond with hnone | hlt
        · exact hnone
        · exact absurd hsix (Nat.not_le_of_lt hlt)
      have hlength := hI.spent hnone
      have hsame : (cdbOutcomes u.trace).count .notSent = (cdbOutcomes u.trace).length := by
        show notSentCount u.trace = _
        rw [← hI.neverSent]
        omega
      refine ⟨?_, by omega⟩
      intro o ho
      exact (List.count_eq_length.mp hsame o ho).symm

/-- A device that takes no CBW at all. -/
theorem neverSent_silent :
    let script := Script.ofList (List.replicate 6 { outcome := .notSent })
    let s : Sys Script := ⟨{ inUse := true }, script, []⟩
    ∃ s', Returns .scripted readBlock16 s ⟨.errNoDevice, none, []⟩ s' ∧ Silent s'.trace := by
  intro script s
  have hcall : ∃ r s', Returns .scripted readBlock16 s r s' ∧ (r = ⟨.errNoDevice, none, []⟩
      ∧ s'.entry.deviceGone = true ∧ NoneGone s'.trace ∧ spinUpAnswers s'.trace = []) :=
    Returns.of_run 7 (by decide +kernel)
  obtain ⟨r, s', hret, rfl, hlatched, hgone, hnone⟩ := hcall
  exact ⟨s', hret, (neverSent_silent_iff .scripted readBlock16 s s' _ rfl hret hgone).mpr (.inl hnone)
    ⟨rfl, hlatched, rfl⟩⟩

/-- **A device that answered is declared silent.** It is becoming ready when the first CBW reaches it, an
    attempt that is given back, and takes none of the six after that. -/
theorem neverSent_after_answer :
    let script := Script.ofList ([{ outcome := .failed 0x01 }, .sense 0x02 0x04 0x01]
      ++ List.replicate 6 { outcome := .notSent })
    ∃ r s', Returns .scripted readBlock16 ⟨{ inUse := true }, script, []⟩ r s'
      ∧ r.status = .errNoDevice ∧ s'.entry.deviceGone = true ∧ NoneGone s'.trace
      ∧ ¬ Silent s'.trace := by
  intro script
  exact Returns.of_run 8 (by decide +kernel)

end Liblaser
