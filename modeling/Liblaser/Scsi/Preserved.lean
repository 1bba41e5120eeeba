import Liblaser.Scsi.SpinUp
import Liblaser.Scsi.CdbSpec

/-!
# `Scsi.Preserved` — what every function of `scsi.c` preserves

`Preserved h S I` says that `I` is kept by each thing a function of `scsi.c` does to its state under
`io_lock`: a transaction made by one of the senders `S`, a reading of the clock or of the cancelled flag,
a sleep, a write to the fields of the entry that are its own. Each function is made of these, so it keeps
`I`; there is one lemma for each, in the order of the calls, and nothing else about a function is used.

`laser_scsi_cdb()` does one thing more, it latches `device_gone`: **`Preserved.returns`**.
-/

namespace Liblaser

open Loop

variable {W : Type}

/-- The entry without the fields `scsi.c` writes under `io_lock`. -/
def LaserEntry.kept (entry : LaserEntry) : LaserEntry :=
  { entry.frame with lun := 0, probeTimeouts := false }

/-- `I` is kept by whatever `scsi.c` does, its transactions being made by `S`. -/
structure Preserved (h : Host W) (S : Sender → Prop) (I : Sys W → Prop) : Prop where
  send : ∀ {s} sender req, S sender → I s → I (s.send h sender req).2
  clockGettime : ∀ {s}, I s → I (s.clockGettime h).2
  usleep : ∀ {s} us, I s → I (s.usleep h us)
  isCancelled : ∀ {s}, I s → I (s.isCancelled h).2
  record : ∀ {s e}, e.outcome = none → I s → I (s.record e)
  entry : ∀ {s : Sys W} e, e.kept = s.entry.kept → I s → I { s with entry := e }

/-- Does the readiness wait make transactions as this sender? -/
def Sender.waits : Sender → Bool
  | .testUnitReady | .startStopUnit | .requestSense | .mediaStatus => true
  | _ => false

/-- The rest of the entry is as it was. -/
theorem kept_preserved (h : Host W) (S : Sender → Prop) (entry : LaserEntry) :
    Preserved h S fun s => s.entry.kept = entry.kept where
  send _ _ _ hs := hs
  clockGettime hs := hs
  usleep _ hs := hs
  isCancelled hs := hs
  record _ hs := hs
  entry _ he hs := he.trans hs

section

variable {h : Host W} {S : Sender → Prop} {I : Sys W → Prop} {s s' : Sys W}

theorem Preserved.requestSenseLocked (hI : Preserved h S I) (hS : S .requestSense) (hs : I s) :
    I (requestSenseLocked h s).2 := by
  have hsent := hI.send .requestSense requestSenseRequest hS hs
  unfold Liblaser.requestSenseLocked
  dsimp only
  split
  · exact hsent
  · split
    · exact hsent
    · exact hI.record rfl hsent

theorem Preserved.senseOf (hI : Preserved h S I) (hS : S .requestSense) (o : BotOutcome) (hs : I s) :
    I (senseOf h o s).2 := by
  unfold Liblaser.senseOf
  split
  · split
    · exact hI.requestSenseLocked hS hs
    · exact hs
  · exact hs

/-! ## START STOP UNIT -/

section Ladder

variable (hI : Preserved h S I) (hstart : S .startStopUnit) (hsense : S .requestSense)

include hI hstart hsense

theorem Preserved.startStopUnitLocked (immed byte4 : UInt8) (hs : I s) :
    I (startStopUnitLocked h immed byte4 s).2 :=
  hI.senseOf hsense _ (hI.send _ _ hstart hs)

theorem Preserved.startRungs (hs : I s) : I (startRungs h s).2 := by
  have hfirst := hI.startStopUnitLocked hstart hsense 1 0x01 hs
  unfold Liblaser.startRungs
  dsimp only
  split
  · exact hI.startStopUnitLocked hstart hsense 1 0x01 hfirst
  · exact hfirst

theorem Preserved.spinUpLocked (hs : I s) : I (spinUpLocked h s) := by
  have hrungs := hI.startRungs hstart hsense hs
  unfold Liblaser.spinUpLocked
  dsimp only
  split
  · exact hrungs
  split
  · exact hrungs
  split
  · exact hrungs
  split
  · exact hI.startStopUnitLocked hstart hsense 0 0x01 hrungs
  · exact hI.startStopUnitLocked hstart hsense 1 0x03 hrungs

theorem Preserved.waitBegin (hs : I s) : I (waitBegin h s).2.2 := by
  have hbegun : I (s.record .waitBegun) := hI.record rfl hs
  have hspun := hI.spinUpLocked hstart hsense (hI.clockGettime hbegun)
  exact hI.entry _ rfl (hI.clockGettime hspun)

end Ladder

/-! ## The readiness wait -/

section Wait

variable (hI : Preserved h S I) (hS : ∀ x, Sender.waits x = true → S x)

include hI hS

theorem Preserved.testUnitReadyLocked (hs : I s) : I (testUnitReadyLocked h s).2 :=
  hI.send _ _ (hS .testUnitReady rfl) hs

theorem Preserved.noMediumRound (since : Timespec) (v : WaitVars) (sense : Sense) (hs : I s) :
    (noMediumRound h since v sense s).All (fun p => I p.2) I := by
  have hlogged : ∀ {t : Sys W}, I t → I (logMediaStatusLocked h t) :=
    fun ht => hI.send _ _ (hS .mediaStatus rfl) ht
  have hread := hI.clockGettime hs
  unfold Liblaser.noMediumRound
  split
  · exact hlogged hs
  · dsimp only
    split
    · exact hlogged hread
    · exact hI.usleep _ hread

omit hS in
theorem Preserved.busyRound (started : Timespec) (v : WaitVars) (sense : Sense) (hs : I s) :
    (busyRound h started v sense s).All (fun p => I p.2) I := by
  have hread := hI.clockGettime hs
  unfold Liblaser.busyRound
  split
  · exact hs
  · dsimp only
    generalize (if v.becomingReady = true then laserBecomingReadyMaxWallMs
      else laserSpinupMaxWallMs) = ceiling
    split
    · exact hread
    · exact hI.usleep _ hread

theorem Preserved.waitTurn (started since : Timespec) (v : WaitVars) (hs : I s) :
    (waitTurn h started since (v, s)).All (fun p => I p.2) I := by
  have hpoll := hI.testUnitReadyLocked hS hs
  unfold Liblaser.waitTurn
  dsimp only
  split
  · exact hI.entry _ rfl hpoll
  · exact hpoll
  · have hsense := hI.requestSenseLocked (hS .requestSense rfl) hpoll
    split
    · exact hI.noMediumRound hS since _ _ hsense
    · exact hI.busyRound started _ _ hsense

theorem Preserved.laserWaitUntilReady {fuel : Nat} (hs : I s)
    (hret : laserWaitUntilReady h fuel s = some s') : I s' := by
  rw [laserWaitUntilReady_eq] at hret
  apply iterate_all (I := fun p : WaitVars × Sys W => I p.2) ?_ ?_ hret
  · rintro ⟨v, t⟩ ht
    exact hI.waitTurn hS _ _ v ht
  · exact hI.waitBegin (hS .startStopUnit rfl) (hS .requestSense rfl) hs

theorem Preserved.laserTokenSettle {fuel : Nat} (hs : I s)
    (hret : laserTokenSettle h fuel s = some s') : I s' := by
  have hpoll := hI.isCancelled hs
  unfold Liblaser.laserTokenSettle at hret
  have htest := hI.testUnitReadyLocked hS hpoll
  dsimp only at hret
  split at hret
  · exact Option.some.inj hret ▸ hs
  split at hret
  · exact Option.some.inj hret ▸ hpoll
  split at hret
  · exact Option.some.inj hret ▸ htest
  · exact hI.laserWaitUntilReady hS htest hret

end Wait

/-! ## The retrying command -/

section Command

variable (hI : Preserved h S I) (hcdb : S .scsiCdb) (hsense : S .requestSense)

include hI

theorem Preserved.sampleThroughputLocked (n : Nat) (started : Timespec) (hs : I s) :
    I (sampleThroughputLocked h n started s) := by
  unfold Liblaser.sampleThroughputLocked
  split
  · exact hs
  · exact hI.entry _ rfl (hI.clockGettime hs)

theorem Preserved.delayedRetry (v : CdbVars) (hs : I s) :
    (delayedRetry h v s).All (fun p => I p.2) (fun p => I p.2) := by
  have hcounted : I (s.record (.retried .counted)) := hI.record rfl hs
  show I (if v.attempt < laserMaxRetries then _ else _)
  split
  · exact hI.usleep _ hcounted
  · exact hcounted

theorem Preserved.becomingReadyRound (v : CdbVars) (hs : I s) :
    (becomingReadyRound h v s).All (fun p => I p.2) (fun p => I p.2) := by
  have hsince : I (waitSince h v s).2 := by
    unfold waitSince
    split
    · exact hs
    · exact hI.clockGettime (hI.record rfl hs)
  unfold Liblaser.becomingReadyRound
  have hread := hI.clockGettime hsince
  dsimp only
  split
  · exact hI.usleep _ (hI.record rfl hread)
  · exact hI.delayedRetry _ hread

theorem Preserved.followVerdict (v : CdbVars) (verdict : Verdict) (hs : I s) :
    (followVerdict h v s verdict).All (fun p => I p.2) (fun p => I p.2) := by
  cases verdict with
  | final st => exact hs
  | mediumReady => exact hI.record rfl (hI.entry _ rfl hs)
  | becomingReady => exact hI.becomingReadyRound v hs
  | unitAttention => exact hI.record rfl hs
  | delayed => exact hI.delayedRetry v hs

include hcdb hsense

/-- A turn keeps `I`, but for the latch of one that found the device gone. -/
theorem Preserved.cdbTurn (call : CdbCall) (v : CdbVars) (hs : I s) :
    (cdbTurn h call (v, s)).All (fun p => I p.2) (fun p => I p.2 ∨ ∃ t, I t ∧ p.2 = t.markGone) := by
  have hall : ∀ {turn : Turn (CdbVars × Sys W) (CdbVars × Sys W)},
      turn.All (fun p => I p.2) (fun p => I p.2) →
      turn.All (fun p => I p.2) (fun p => I p.2 ∨ ∃ t, I t ∧ p.2 = t.markGone) := by
    intro turn hturn
    cases turn with
    | again p => exact hturn
    | done p => exact .inl hturn
  have hpoll := hI.isCancelled hs
  have hread := hI.clockGettime hpoll
  have hsent := hI.send .scsiCdb call.request hcdb hread
  unfold Liblaser.cdbTurn
  dsimp only
  split
  · exact .inl hs
  split
  · exact .inl hpoll
  split
  · exact .inl (hI.sampleThroughputLocked _ _ hsent)
  · exact .inr ⟨_, hsent, rfl⟩
  · exact hall (hI.followVerdict _ _ (hI.senseOf hsense _ hsent))

/-- **The whole command** keeps `I`, but for the latch. -/
theorem Preserved.returns {call : CdbCall} {r : CdbResult} (hs : I s) (hret : Returns h call s r s') :
    I s' ∨ ∃ t, I t ∧ s' = t.markGone := by
  have hcheck : I (precheck h call s).2 := by
    rcases precheck_spec h call s with heq | heq <;> rw [heq]
    · exact hs
    · exact hI.isCancelled hs
  rcases hret.cases with ⟨st, -, -, rfl⟩ | ⟨n, v, t, v', u, hin, hdone, -, rfl⟩
  · exact .inl hcheck
  · have hkeep : ∀ p q : CdbVars × Sys W, I p.2 → Liblaser.cdbTurn h call p = .again q → I q.2 := by
      rintro ⟨v₁, t₁⟩ q hp hb
      have hturn := hI.cdbTurn hcdb hsense call v₁ hp
      rwa [hb] at hturn
    have hlast := hI.cdbTurn hcdb hsense call v (hin.2.invariant (I := fun p => I p.2) hkeep hcheck)
    rw [hdone] at hlast
    -- the verdict after the loop may latch it too, and again
    unfold conclude neverSentVerdict
    dsimp only
    rcases hlast with hu | ⟨t', ht', rfl⟩
    · split
      · exact .inr ⟨u, hu, rfl⟩
      · exact .inl hu
    · split <;> exact .inr ⟨t', ht', rfl⟩

end Command

end

end Liblaser
