import Liblaser.Registry.Probe

/-!
# `Registry.Latched` — a disconnection that was seen

A bulk transfer that returns `LIBUSB_ERROR_NO_DEVICE` is noticed by whoever made the transaction; whether
anybody remembers it is another matter. `laser_scsi_cdb()` remembers it for its own CDB, `laser_register()`
for the INQUIRYs of its probe. A REQUEST SENSE, a TEST UNIT READY, a START STOP UNIT make a plain failure of
it, and the entry goes on as if the device were there.

**`disconnection_latched_iff`** is exactly which disconnections are remembered, for a command, for an
operation of many calls, and for a registration.
-/

namespace Liblaser

variable {W : Type}

/-! ## A registration's traffic -/

/-- What is built up to the claim of the interface has `device_gone` down. -/
theorem setupClaimed_present {o : Setup} {fd : Int} {b : Build} (hb : setupClaimed o fd = .ok b) :
    b.entry.deviceGone = false := by
  have hlocks : ∀ {b b' : Build}, initLocks o b = .ok b' → b'.entry = b.entry := by
    intro b b' heq
    unfold initLocks initCssCond at heq
    repeat' split at heq
    all_goals cases heq <;> rfl
  have hopen : ∀ {b b' : Build}, openDevice o b = .ok b' →
      b'.entry.deviceGone = b.entry.deviceGone := by
    intro b b' heq
    unfold openDevice readDescriptor at heq
    dsimp only at heq
    repeat' split at heq
    all_goals cases heq <;> rfl
  have hclaim : ∀ {b b' : Build}, claimInterface o b = .ok b' →
      b'.entry.deviceGone = b.entry.deviceGone := by
    intro b b' heq
    unfold claimInterface at heq
    dsimp only at heq
    repeat' split at heq
    all_goals cases heq <;> rfl
  have hfresh : (identify o fd).entry.deviceGone = false := by
    unfold identify
    dsimp only
    split <;> rfl
  unfold setupClaimed at hb
  cases hb₁ : initLocks o (identify o fd) with
  | error e =>
      rw [hb₁] at hb
      cases hb
  | ok b₁ =>
      rw [hb₁] at hb
      cases hb₂ : openDevice o b₁ with
      | error e =>
          have hb : (openDevice o b₁ >>= claimInterface o) = .ok b := hb
          rw [hb₂] at hb
          cases hb
      | ok b₂ =>
          have hb : (openDevice o b₁ >>= claimInterface o) = .ok b := hb
          rw [hb₂] at hb
          rw [hclaim hb, hopen hb₂, hlocks hb₁, hfresh]

/-- **What the traffic leaves**: when the probe says no, only INQUIRYs have found the device gone; when it
    says yes, none has. Either way the entry's flag is where it was. -/
theorem registerTraffic_spec {h : SetupHost W} {I : Sys W → Prop} {fuel : Nat} {optical : LaserOptical}
    {s s' : Sys W} (hI : SetupPreserved h (fun _ => True) I) (hs : I s) (htrace : s.trace = [])
    (hret : registerTraffic h fuel s = some (optical, s')) :
    I s' ∧ (optical ≠ .yes → ProbeOnly s'.trace) ∧ (optical = .yes → ProbeQuiet s'.trace) := by
  have hnone : ∀ S, GoneSeenBy S (s.massStorageReset h).trace := by
    intro S sender req hmem
    rw [show (s.massStorageReset h).trace = s.trace from rfl, htrace] at hmem
    cases hmem
  have hprobed := hI.laserProbeLun trivial (hI.massStorageReset hs)
  have honly : ProbeOnly (laserProbeLun h (s.massStorageReset h)).2.trace :=
    SetupPreserved.laserProbeLun ⟨goneSeenBy_preserved h.toHost _, id, id⟩ rfl (hnone _)
  have hquiet := laserProbeLun_quiet (h := h) (hnone (· ≠ .inquiry))
  unfold registerTraffic at hret
  generalize laserProbeLun h (s.massStorageReset h) = res at hprobed honly hquiet hret
  obtain ⟨answer, t⟩ := res
  dsimp only at hprobed honly hquiet hret
  by_cases hyes : answer = .yes
  · subst hyes
    rw [if_neg (by simp)] at hret
    obtain ⟨u, hwait, heq⟩ := Option.map_eq_some_iff.mp hret
    injection heq with hoptical hu
    subst hoptical hu
    have hall := hI.toPreserved
    have hstill := goneSeenBy_preserved h.toHost (· ≠ .inquiry)
    have hsenders : ∀ x : Sender, x.waits = true → x ≠ .inquiry := by
      rintro x hx rfl
      cases hx
    refine ⟨hall.laserWaitUntilReady (fun _ _ => trivial) ?_ hwait, fun hno => absurd rfl hno,
      fun _ => hstill.laserWaitUntilReady hsenders ?_ hwait⟩
    · split
      · exact hall.laserAllowMediumRemoval trivial trivial hprobed
      · exact hprobed
    · split
      · exact hstill.laserAllowMediumRemoval (by decide) (by decide) (hquiet (by decide))
      · exact hquiet (by decide)
  · rw [if_pos hyes] at hret
    injection hret with hret
    injection hret with hoptical ht
    subst hoptical ht
    exact ⟨hprobed, fun _ => honly, fun heq => absurd heq hyes⟩

/-- What the traffic of a registration keeps of its entry. -/
theorem deviceGone_setupPreserved (h : SetupHost W) (gone : Bool) :
    SetupPreserved h (fun _ => True) fun s => s.entry.deviceGone = gone :=
  ⟨deviceGone_preserved h.toHost _ gone, id, id⟩

section

variable {U : Type} {usb : UsbHost U} {clockGettime : U → Timespec × U} {isCancelled : U → Bool × U}

theorem told_setupPreserved :
    SetupPreserved (.onBus usb clockGettime isCancelled) (fun _ => True) Told where
  toPreserved := told_preserved usb clockGettime isCancelled _
  massStorageReset {s} hs := by
    show Disconnected (laserMassStorageReset usb s.entry s.world).log ↔ _
    rw [disconnected_reset]
    exact hs
  getMaxLun {s} hs := by
    show Disconnected (.control _ _ :: s.world.log) ↔ ¬ NoneGone s.trace
    rw [disconnected_cons]
    have hs : Disconnected s.world.log ↔ ¬ NoneGone s.trace := hs
    simpa [UsbEvent.isDisconnect] using hs

theorem SetupPreserved.and {h : SetupHost W} {S : Sender → Prop} {I J : Sys W → Prop}
    (hI : SetupPreserved h S I) (hJ : SetupPreserved h S J) : SetupPreserved h S fun s => I s ∧ J s :=
  ⟨hI.toPreserved.and hJ.toPreserved, fun hs => ⟨hI.massStorageReset hs.1, hJ.massStorageReset hs.2⟩,
    fun hs => ⟨hI.getMaxLun hs.1, hJ.getMaxLun hs.2⟩⟩

/-- **When a registration remembers what it saw**: it declines the device, or leaves it marked gone, for
    every disconnection exactly when only INQUIRYs saw one. -/
theorem Setup.Answered.latched_iff {o : Setup} {fd : Int} {fuel : Nat} {u : U} {b : Build}
    {s : Sys (Bus U)} (hb : setupClaimed o fd = .ok b)
    (ho : o.Answered (.onBus usb clockGettime isCancelled) fuel ⟨b.entry, ⟨u, []⟩, []⟩ s) :
    (Disconnected s.world.log → (∃ b', setupEntry o fd = .error b')
        ∨ ∃ b', setupEntry o fd = .ok b' ∧ b'.entry.deviceGone = true)
      ↔ ProbeOnly s.trace := by
  have hempty : Told (⟨b.entry, ⟨u, []⟩, []⟩ : Sys (Bus U)) := by
    show Disconnected [] ↔ ¬ NoneGone []
    simp [not_disconnected_nil, NoneGone]
  obtain ⟨⟨htold, hgone⟩, honly, hquiet⟩ := registerTraffic_spec
    (told_setupPreserved.and (deviceGone_setupPreserved _ false))
    ⟨hempty, setupClaimed_present hb⟩ rfl ho.traffic
  have htold : Disconnected s.world.log ↔ ¬ NoneGone s.trace := htold
  have hsetup : setupEntry o fd = acceptDevice o b := by
    rw [setupEntry_eq, hb]
    rfl
  rw [hsetup]
  unfold acceptDevice
  dsimp only
  by_cases hyes : o.probe = .yes
  · rw [if_neg (by rw [hyes]; decide)]
    -- the entry is published, and its flag is down
    have hpresent := setupClaimed_present hb
    constructor
    · intro hlatched sender req hmem
      have hdis : Disconnected s.world.log := by
        rw [htold]
        exact fun hnone => hnone _ hmem rfl
      rcases hlatched hdis with ⟨b', hb'⟩ | ⟨b', hb', hlatch⟩
      · cases hb'
      · injection hb' with hb'
        subst hb'
        have hlatch : b.entry.deviceGone = true := hlatch
        rw [hpresent] at hlatch
        cases hlatch
    · intro hall hdis
      refine absurd ?_ (htold.mp hdis)
      rintro e hmem hout
      cases e with
      | sent sender req o' =>
          injection hout with ho'
          subst ho'
          exact hquiet hyes sender req hmem (hall sender req hmem)
      | sense _ | polled _ | slept _ | retried _ | waitBegun => cases hout
  · have hdeclined : o.probe = .no ∨ o.probe = .gone ∨ o.probe = .noAnswer := by
      revert hyes
      cases o.probe <;> decide
    rw [if_pos hdeclined]
    exact ⟨fun _ => honly hyes, fun _ _ => .inl ⟨_, rfl⟩⟩

end

/-! ## Which disconnections are remembered -/

/-- **When a disconnection that was seen is latched.** Of a command, of an operation of any number of calls,
    and of a registration: if one of its bulk transfers returned `LIBUSB_ERROR_NO_DEVICE` then the entry is
    marked gone (and the command says so, and the registration may decline instead), exactly when none did,
    or a transaction of a caller's CDB did, or a call gave the never-sent verdict; for the registration,
    exactly when none did but INQUIRYs. -/
theorem disconnection_latched_iff {U : Type} (usb : UsbHost U) (clockGettime : U → Timespec × U)
    (isCancelled : U → Bool × U) :
    (∀ call entry u r s,
      Returns (.onBus usb clockGettime isCancelled) call ⟨entry, ⟨u, []⟩, []⟩ r s →
      ((Disconnected s.world.log → s.entry.deviceGone = true ∧ r.status = .errNoDevice)
        ↔ ¬ Disconnected s.world.log ∨ Latches s.trace))
    ∧ (∀ entry records entry',
      Operation (.onBus usb clockGettime isCancelled) entry records entry' →
      (((∃ record ∈ records, Disconnected record.log) → entry'.deviceGone = true)
        ↔ (∀ record ∈ records, ¬ Disconnected record.log)
          ∨ ∃ record ∈ records, Latches record.trace))
    ∧ (∀ o fd fuel u b s, setupClaimed o fd = .ok b →
      o.Answered (.onBus usb clockGettime isCancelled) fuel ⟨b.entry, ⟨u, []⟩, []⟩ s →
      ((Disconnected s.world.log → (∃ b', setupEntry o fd = .error b')
          ∨ ∃ b', setupEntry o fd = .ok b' ∧ b'.entry.deviceGone = true)
        ↔ ProbeOnly s.trace)) :=
  ⟨fun _ _ _ _ _ hret => hret.latched_iff, fun _ _ _ hop => hop.latched_iff,
    fun _ _ _ _ _ _ hb ho => ho.latched_iff hb⟩

/-- The bus of a script, on a clock that stands still. -/
def Host.onScript : Host (Bus (List BulkReply)) :=
  .onBus .scripted (fun u => (⟨0, 0⟩, u)) (fun u => (false, u))

/-- A setup all of whose steps succeed, on a device that is gone when it is probed. -/
def Setup.leaving : Setup where
  fstat := some (1, 2)
  ioLockInit := true
  cssMtxInit := true
  cssClockMonotonic := true
  condattrInit := true
  condattrSetclock := true
  condInit := true
  initContext := true
  wrapSysDevice := true
  descriptor := none
  endpoints := some ⟨0, 0x81, 0x02, 512⟩
  kernelDriverActive := 0
  detachKernelDriver := false
  claimInterface := true
  probe := .gone
  lun := 0
  bot := { tag := 1 }
  notReady := false

/-- A device that leaves before the first CBW: of a READ, of an operation of one, of a registration. -/
theorem disconnection_latched_first :
    (∃ r s, Returns .onScript readBlock16 ⟨{ inUse := true }, ⟨[.gone], []⟩, []⟩ r s
      ∧ Disconnected s.world.log ∧ s.entry.deviceGone = true ∧ r.status = .errNoDevice)
    ∧ (∃ records entry', Operation .onScript { inUse := true } records entry'
      ∧ (∃ record ∈ records, Disconnected record.log) ∧ entry'.deviceGone = true)
    ∧ ∃ b s, setupClaimed .leaving 3 = .ok b
      ∧ Setup.leaving.Answered (.onBus .scripted (fun u => (⟨0, 0⟩, u)) fun u => (false, u)) 1
        ⟨b.entry, ⟨[.gone], []⟩, []⟩ s
      ∧ Disconnected s.world.log
      ∧ ((∃ b', setupEntry .leaving 3 = .error b')
        ∨ ∃ b', setupEntry .leaving 3 = .ok b' ∧ b'.entry.deviceGone = true) := by
  obtain ⟨hcommand, hoperation, hsetup⟩ := disconnection_latched_iff UsbHost.scripted
    (fun u => (⟨0, 0⟩, u)) (fun u => (false, u))
  have hread : ∃ r s, Returns .onScript readBlock16 ⟨{ inUse := true }, ⟨[.gone], []⟩, []⟩ r s
      ∧ (Disconnected s.world.log ∧ Latches s.trace) := Returns.of_run 1 (by decide +kernel)
  obtain ⟨r, s, hret, hdis, hlatches⟩ := hread
  have hop : Operation .onScript { inUse := true }
      [⟨.scsiCdb readBlock16, some r.status, s.trace, s.world.log⟩] s.entry :=
    .call .nil rfl (.scsiCdb hret)
  refine ⟨⟨r, s, hret, hdis, (hcommand _ _ _ _ _ hret).mpr (.inr hlatches) hdis⟩,
    ⟨_, _, hop, ⟨_, List.mem_singleton_self _, hdis⟩, ?_⟩, ?_⟩
  · exact (hoperation _ _ _ hop).mpr (.inr ⟨_, List.mem_singleton_self _, hlatches⟩)
      ⟨_, List.mem_singleton_self _, hdis⟩
  · have hanswered : ∃ b s, setupClaimed .leaving 3 = .ok b
        ∧ Setup.leaving.Answered (.onBus .scripted (fun u => (⟨0, 0⟩, u)) fun u => (false, u)) 1
          ⟨b.entry, ⟨[.gone], []⟩, []⟩ s
        ∧ s.trace = [.sent .inquiry inquiryRequest .noDevice] ∧ Disconnected s.world.log :=
      ⟨_, _, rfl, ⟨rfl, rfl, rfl, rfl⟩, rfl, by decide⟩
    obtain ⟨b, s, hb, ho, htrace, hdis⟩ := hanswered
    refine ⟨b, s, hb, ho, hdis, (hsetup _ _ _ _ _ _ hb ho).mpr ?_ hdis⟩
    intro sender req hmem
    rw [htrace, List.mem_singleton] at hmem
    injection hmem

/-- **Two disconnections that are forgotten.** A SEND KEY ends in CSW FAIL, and its REQUEST SENSE finds the
    device gone: the call says I/O error. And a `laser_token_settle()` whose TEST UNIT READY finds it gone.
    Neither marks the entry. -/
theorem disconnection_forgotten :
    (∃ r s, Returns .onScript sendKey2 ⟨{ inUse := true, cssOpen := true }, ⟨[.moved .success 31 [],
        .moved .success 12 [],
        .moved .success 13 [0x55, 0x53, 0x42, 0x53, 1, 0, 0, 0, 0, 0, 0, 0, 1], .gone], []⟩, []⟩ r s
      ∧ Disconnected s.world.log ∧ s.entry.deviceGone = false ∧ r.status = .errIo)
    ∧ ∃ record entry', Operation .onScript { inUse := true } [record] entry'
      ∧ record.call = .settle ∧ Disconnected record.log ∧ entry'.deviceGone = false := by
  constructor
  · exact Returns.of_run 1 (by decide +kernel)
  · have hsettle : ∃ s, laserTokenSettle .onScript 1 ⟨{ inUse := true }, ⟨[.gone], []⟩, []⟩ = some s
        ∧ Disconnected s.world.log ∧ s.entry.deviceGone = false := ⟨_, rfl, by decide, rfl⟩
    obtain ⟨s, hret, hdis, hpresent⟩ := hsettle
    exact ⟨_, _, .call .nil rfl (.settle hret), rfl, hdis, hpresent⟩

end Liblaser
