import Mathlib.Data.Fintype.EquivFin
import Mathlib.Order.Fin.Basic
import Liblaser.Locking.Functions

/-!
# `Locking.Discipline` — every lock is released, and nobody waits in a circle

Each function leaves the locks as it finds them (`Keeps`), its callers' `g_registry_lock` included, and takes
its own in the order of `registry.c`. One lemma for each, from those of the functions it calls, which it
knows nothing else of (`Keeps.hide`): evaluating a function does not evaluate what it calls.
**`lock_discipline`** puts the public operations on the threads of `Lib.Locks`.
-/

namespace Liblaser.Locking

open Locks Locks.Code Transition

/-- Entered with these locks, the function keeps to the order, and returns with the same. -/
abbrev Keeps (held : List Mutex) (function : Code Mutex) : Prop :=
  (call function).outcomes Mutex.rank held = some [⟨.next, held⟩]

theorem keeps_iff {held : List Mutex} {function : Code Mutex} :
    Keeps held function
      ↔ (function.outcomes Mutex.rank held).map resume = some [⟨.next, held⟩] := Iff.rfl

/-- No lock, or `g_registry_lock`: what a function of the library is entered with. -/
def Outermost (held : List Mutex) : Prop := held = [] ∨ held = [.gRegistryLock]

@[simp] theorem laserMaxDevices_ne : laserMaxDevices ≠ 0 := by decide

variable {held : List Mutex}

/-! ## The functions -/

/-- A function of which no more is known. -/
theorem Keeps.hide {function : Code Mutex} (hkeeps : Keeps held function) :
    ∃ f, function = f ∧ Keeps held f := ⟨function, rfl, hkeeps⟩

theorem hide_all {function : Slot → Code Mutex} (hkeeps : ∀ entry, Keeps held (function entry)) :
    ∃ f, function = f ∧ ∀ entry, Keeps held (f entry) := ⟨function, rfl, hkeeps⟩

theorem laserLookup_keeps (hout : Outermost held) : Keeps held laserLookup := by
  rw [keeps_iff, laserLookup]
  rcases hout with rfl | rfl <;> simp

theorem laserTokenNotReady_keeps : Keeps [] laserTokenNotReady := by
  obtain ⟨lookup, hlookupEq, hlookup⟩ := Keeps.hide (laserLookup_keeps (.inl rfl))
  rw [keeps_iff, laserTokenNotReady, hlookupEq]
  simp [hlookup]

theorem laserSetCancelled_keeps : Keeps [.gRegistryLock] laserSetCancelled := by
  rw [keeps_iff, laserSetCancelled]
  simp

theorem reserveSlot_keeps : Keeps [.gRegistryLock] reserveSlot := by
  rw [keeps_iff, reserveSlot]
  simp

theorem releaseSlot_keeps : Keeps [.gRegistryLock] releaseSlot := by
  rw [keeps_iff, releaseSlot]
  simp

theorem laserAllowMediumRemoval_keeps (entry : Slot) :
    Keeps [.gRegistryLock] (laserAllowMediumRemoval entry) := by
  rw [keeps_iff, laserAllowMediumRemoval]
  simp

theorem laserWaitUntilReady_keeps (hout : Outermost held) (entry : Slot) :
    Keeps held (laserWaitUntilReady entry) := by
  rw [keeps_iff, laserWaitUntilReady]
  rcases hout with rfl | rfl <;> simp

theorem laserTokenSettle_keeps : Keeps [] laserTokenSettle := by
  obtain ⟨lookup, hlookupEq, hlookup⟩ := Keeps.hide (laserLookup_keeps (.inl rfl))
  obtain ⟨wait, hwaitEq, hwait⟩ := hide_all (laserWaitUntilReady_keeps (.inl rfl))
  rw [keeps_iff, laserTokenSettle, hlookupEq, hwaitEq]
  simp [hlookup, hwait]

theorem inquiryPdt_keeps (entry : Slot) : Keeps [.gRegistryLock] (inquiryPdt entry) := by
  rw [keeps_iff, inquiryPdt]
  simp

theorem laserProbeLun_keeps (entry : Slot) : Keeps [.gRegistryLock] (laserProbeLun entry) := by
  obtain ⟨inquiry, hinquiryEq, hinquiry⟩ := Keeps.hide (inquiryPdt_keeps entry)
  rw [keeps_iff, laserProbeLun, hinquiryEq]
  simp [hinquiry]

theorem laserRegister_keeps : Keeps [.gRegistryLock] laserRegister := by
  obtain ⟨reserve, hreserveEq, hreserve⟩ := Keeps.hide reserveSlot_keeps
  obtain ⟨release, hreleaseEq, hrelease⟩ := Keeps.hide releaseSlot_keeps
  obtain ⟨probe, hprobeEq, hprobe⟩ := hide_all laserProbeLun_keeps
  obtain ⟨allow, hallowEq, hallow⟩ := hide_all laserAllowMediumRemoval_keeps
  obtain ⟨wait, hwaitEq, hwait⟩ := hide_all (laserWaitUntilReady_keeps (.inr rfl))
  rw [keeps_iff, laserRegister, errSlot, hreserveEq, hreleaseEq, hprobeEq, hallowEq, hwaitEq]
  simp [hreserve, hrelease, hprobe, hallow, hwait]

theorem laserCssSessionIsOpen_keeps (hout : Outermost held) (entry : Slot) :
    Keeps held (laserCssSessionIsOpen entry) := by
  rw [keeps_iff, laserCssSessionIsOpen]
  rcases hout with rfl | rfl <;> simp

theorem teardownEntryLocked_keeps (entry : Slot) :
    Keeps [.gRegistryLock] (teardownEntryLocked entry) := by
  obtain ⟨isOpen, hopenEq, hopen⟩ := Keeps.hide (laserCssSessionIsOpen_keeps (.inr rfl) entry)
  obtain ⟨release, hreleaseEq, hrelease⟩ := Keeps.hide releaseSlot_keeps
  rw [keeps_iff, teardownEntryLocked, hopenEq, hreleaseEq]
  simp [hopen, hrelease]

theorem laserAcquire_keeps : Keeps [] laserAcquire := by
  obtain ⟨lookup, hlookupEq, hlookup⟩ := Keeps.hide (laserLookup_keeps (.inr rfl))
  obtain ⟨register, hregisterEq, hregister⟩ := Keeps.hide laserRegister_keeps
  rw [keeps_iff, laserAcquire, hlookupEq, hregisterEq]
  simp [hlookup, hregister]

theorem laserRelease_keeps : Keeps [] laserRelease := by
  obtain ⟨lookup, hlookupEq, hlookup⟩ := Keeps.hide (laserLookup_keeps (.inr rfl))
  obtain ⟨cancel, hcancelEq, hcancel⟩ := Keeps.hide laserSetCancelled_keeps
  obtain ⟨teardown, hteardownEq, hteardown⟩ := hide_all teardownEntryLocked_keeps
  rw [keeps_iff, laserRelease, hlookupEq, hcancelEq, hteardownEq]
  simp [hlookup, hcancel, hteardown]

theorem laserCssSessionBegin_keeps : Keeps [] laserCssSessionBegin := by
  obtain ⟨lookup, hlookupEq, hlookup⟩ := Keeps.hide (laserLookup_keeps (.inl rfl))
  rw [keeps_iff, laserCssSessionBegin, hlookupEq]
  simp [hlookup, condWait]

theorem laserCssSessionEnd_keeps : Keeps [] laserCssSessionEnd := by
  obtain ⟨lookup, hlookupEq, hlookup⟩ := Keeps.hide (laserLookup_keeps (.inl rfl))
  rw [keeps_iff, laserCssSessionEnd, hlookupEq]
  simp [hlookup]

theorem laserScsiCdb_keeps : Keeps [] laserScsiCdb := by
  obtain ⟨lookup, hlookupEq, hlookup⟩ := Keeps.hide (laserLookup_keeps (.inl rfl))
  obtain ⟨isOpen, hopenEq, hopen⟩ := hide_all (laserCssSessionIsOpen_keeps (.inl rfl))
  rw [keeps_iff, laserScsiCdb, hlookupEq, hopenEq]
  simp [hlookup, hopen]

theorem lowerTransferCap_keeps (entry : Slot) : Keeps [] (lowerTransferCap entry) := by
  rw [keeps_iff, lowerTransferCap]
  simp

theorem readChunked_keeps : Keeps [] readChunked := by
  obtain ⟨lookup, hlookupEq, hlookup⟩ := Keeps.hide (laserLookup_keeps (.inl rfl))
  obtain ⟨cdb, hcdbEq, hcdb⟩ := Keeps.hide laserScsiCdb_keeps
  obtain ⟨lower, hlowerEq, hlower⟩ := hide_all lowerTransferCap_keeps
  rw [keeps_iff, readChunked, hlookupEq, hcdbEq, hlowerEq]
  simp [hlookup, hcdb, hlower]

theorem laserReadBlocks_keeps : Keeps [] laserReadBlocks := by
  obtain ⟨read, hreadEq, hread⟩ := Keeps.hide readChunked_keeps
  rw [keeps_iff, laserReadBlocks, hreadEq]
  simp [hread]

theorem laserReadCdBlocks_keeps : Keeps [] laserReadCdBlocks := by
  obtain ⟨read, hreadEq, hread⟩ := Keeps.hide readChunked_keeps
  rw [keeps_iff, laserReadCdBlocks, hreadEq]
  simp [hread]

theorem laserRegionMismatch_keeps : Keeps [] laserRegionMismatch := by
  obtain ⟨cdb, hcdbEq, hcdb⟩ := Keeps.hide laserScsiCdb_keeps
  rw [keeps_iff, laserRegionMismatch, hcdbEq]
  simp [hcdb]

theorem udfReadCb_keeps : Keeps [] udfReadCb := by
  obtain ⟨read, hreadEq, hread⟩ := Keeps.hide laserReadBlocks_keeps
  rw [keeps_iff, udfReadCb, hreadEq]
  simp [hread]

theorem udfread_keeps : Keeps [] udfread := by
  obtain ⟨callback, hcallbackEq, hcallback⟩ := Keeps.hide udfReadCb_keeps
  rw [keeps_iff, udfread, hcallbackEq]
  simp [hcallback]

theorem udfZonePresent_keeps : Keeps [] udfZonePresent := by
  obtain ⟨udf, hudfEq, hudf⟩ := Keeps.hide udfread_keeps
  rw [keeps_iff, udfZonePresent, hudfEq]
  simp [hudf]

theorem detectUdfDisc_keeps : Keeps [] detectUdfDisc := by
  obtain ⟨udf, hudfEq, hudf⟩ := Keeps.hide udfread_keeps
  obtain ⟨zone, hzoneEq, hzone⟩ := Keeps.hide udfZonePresent_keeps
  rw [keeps_iff, detectUdfDisc, hzoneEq, hudfEq]
  simp [hudf, hzone]

theorem isoReadSector_keeps : Keeps [] isoReadSector := by
  obtain ⟨read, hreadEq, hread⟩ := Keeps.hide laserReadBlocks_keeps
  rw [keeps_iff, isoReadSector, hreadEq]
  simp [hread]

theorem isoFindChild_keeps : Keeps [] isoFindChild := by
  obtain ⟨sector, hsectorEq, hsector⟩ := Keeps.hide isoReadSector_keeps
  rw [keeps_iff, isoFindChild, hsectorEq]
  simp [hsector]

theorem isoInfoMagicIs_keeps : Keeps [] isoInfoMagicIs := by
  obtain ⟨sector, hsectorEq, hsector⟩ := Keeps.hide isoReadSector_keeps
  rw [keeps_iff, isoInfoMagicIs, hsectorEq]
  simp [hsector]

theorem detectIsoVideo_keeps : Keeps [] detectIsoVideo := by
  obtain ⟨sector, hsectorEq, hsector⟩ := Keeps.hide isoReadSector_keeps
  obtain ⟨child, hchildEq, hchild⟩ := Keeps.hide isoFindChild_keeps
  obtain ⟨magic, hmagicEq, hmagic⟩ := Keeps.hide isoInfoMagicIs_keeps
  rw [keeps_iff, detectIsoVideo, hchildEq, hmagicEq, hsectorEq]
  simp [hsector, hchild, hmagic]

theorem readMedium_keeps : Keeps [] readMedium := by
  obtain ⟨cdb, hcdbEq, hcdb⟩ := Keeps.hide laserScsiCdb_keeps
  rw [keeps_iff, readMedium, hcdbEq]
  simp [hcdb]

theorem readCdToc_keeps : Keeps [] readCdToc := by
  obtain ⟨cdb, hcdbEq, hcdb⟩ := Keeps.hide laserScsiCdb_keeps
  rw [keeps_iff, readCdToc, hcdbEq]
  simp [hcdb]

theorem laserDiscIdentify_keeps : Keeps [] laserDiscIdentify := by
  obtain ⟨ready, hreadyEq, hready⟩ := Keeps.hide laserTokenNotReady_keeps
  obtain ⟨settle, hsettleEq, hsettle⟩ := Keeps.hide laserTokenSettle_keeps
  obtain ⟨medium, hmediumEq, hmedium⟩ := Keeps.hide readMedium_keeps
  obtain ⟨toc, htocEq, htoc⟩ := Keeps.hide readCdToc_keeps
  obtain ⟨iso, hisoEq, hiso⟩ := Keeps.hide detectIsoVideo_keeps
  obtain ⟨udf, hudfEq, hudf⟩ := Keeps.hide detectUdfDisc_keeps
  rw [keeps_iff, laserDiscIdentify, hreadyEq, hsettleEq, hmediumEq, htocEq, hisoEq, hudfEq]
  simp [hready, hsettle, hmedium, htoc, hiso, hudf]

/-! ## The operations -/

/-- Every public operation has released, on every return path, every lock it took. -/
theorem Operation.balanced (op : Operation) : Balanced Mutex.rank op.function := by
  cases op with
  | acquire => exact laserAcquire_keeps
  | release => exact laserRelease_keeps
  | scsiCdb => exact laserScsiCdb_keeps
  | readBlocks => exact laserReadBlocks_keeps
  | readCdBlocks => exact laserReadCdBlocks_keeps
  | regionMismatch => exact laserRegionMismatch_keeps
  | cssSessionBegin => exact laserCssSessionBegin_keeps
  | cssSessionEnd => exact laserCssSessionEnd_keeps
  | discIdentify => exact laserDiscIdentify_keeps

/-- A path of one of the operations, from its call to its return. -/
def OperationPath (path : Path Mutex) : Prop :=
  ∃ op : Operation, (call op.function).Runs path .next

theorem OperationPath.walk {path : Path Mutex} (hpath : OperationPath path) :
    walk Mutex.rank [] path = some [] := by
  obtain ⟨op, hruns⟩ := hpath
  exact op.balanced.walk hruns

/-- **The lock discipline.** On every path of every public operation, each lock released is one held and at
    the return none is. On every run of any threads, each in any operations one after the other, a thread
    between two operations holds no lock, and there are no threads of which each waits for a lock held
    by one of them. -/
theorem lock_discipline {τ : Type} [DecidableEq τ] :
    (∀ (op : Operation) (path : Path Mutex), (call op.function).Runs path .next →
      walk Mutex.rank [] path = some [])
    ∧ ∀ (labels : List τ) (s : Threads τ Mutex), Run (Step OperationPath) Threads.start labels s →
      (∀ t, s.rest t = [] → ∀ mutex, s.holder mutex ≠ some t)
      ∧ ∀ T : τ → Prop, (∃ t, T t) →
          ¬ ∀ t, T t → ∃ mutex owner, T owner ∧ s.Waits t mutex owner := by
  refine ⟨fun op path hruns => op.balanced.walk hruns, ?_⟩
  intro labels s hrun
  have hkept : Kept Mutex.rank s := .run (fun _ hpath => hpath.walk) hrun
  refine ⟨fun t hidle => hkept.idle hidle, ?_⟩
  rintro T ⟨t, ht⟩
  exact hkept.no_circular_wait ht

/-- The path of a `laser_scsi_cdb()` that sends its command once. -/
theorem laserScsiCdb_path (entry : Slot) : OperationPath
    [.acquire .gTableLock, .release .gTableLock, .acquire (.ioLock entry), .release (.ioLock entry)] := by
  have hlookup : (call laserLookup).Runs [.acquire .gTableLock, .release .gTableLock] .next := by
    apply Runs.call _ (.inr rfl)
    exact .cons (.lock _) (.cons .ends (.cons (.unlock _) (.out (.leave .ret) (by decide))))
  refine ⟨.scsiCdb, Runs.call ?_ (.inr rfl)⟩
  apply Runs.past
  apply Runs.past
  apply Runs.cons hlookup
  apply Runs.past
  apply Runs.out _ (by decide)
  apply Runs.any entry
  apply Runs.past
  apply Runs.past
  apply Runs.past
  apply Runs.cons (.lock _)
  refine @Runs.cons _ _ _ [] _ _ ?_ ?_
  · exact .broken (.out (.yes (.leave .brk)) (by decide))
  · exact .cons (.unlock _) (.out (.leave .ret) (by decide))

/-- Two commands on one entry: the second waits for the first, which waits for nobody. -/
theorem lock_discipline_two_commands : ∃ (labels : List Bool) (s : Threads Bool Mutex),
    Run (Step OperationPath) Threads.start labels s
      ∧ s.Waits true (.ioLock ⟨0, by decide⟩) false
      ∧ ¬ ∀ t, True → ∃ mutex owner, True ∧ s.Waits t mutex owner := by
  have hpath := laserScsiCdb_path ⟨0, by decide⟩
  have hrun : Run (Step OperationPath) (Threads.start : Threads Bool Mutex) [] _ := .refl
  have hrun := hrun.step (Step.starts (t := false) rfl hpath)
  have hrun := hrun.step (Step.acquires (t := false) rfl rfl)
  have hrun := hrun.step (Step.releases (t := false) rfl)
  have hrun := hrun.step (Step.acquires (t := false) rfl rfl)
  have hrun := hrun.step (Step.starts (t := true) rfl hpath)
  have hrun := hrun.step (Step.acquires (t := true) rfl rfl)
  have hrun := hrun.step (Step.releases (t := true) rfl)
  exact ⟨_, _, hrun, ⟨⟨_, rfl⟩, rfl⟩, (lock_discipline.2 _ _ hrun).2 (fun _ => True) ⟨true, trivial⟩⟩

end Liblaser.Locking
