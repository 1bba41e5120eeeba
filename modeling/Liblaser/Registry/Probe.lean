import Liblaser.Registry.Register
import Liblaser.Scsi.Latched

/-!
# `Registry.Probe` — the traffic of a registration

What `laser_register()` says to the device between the claim of its interface and the publication of its
entry: the Mass Storage Reset, `laser_probe_lun()` with its INQUIRYs, the tray unlocked if a kernel driver
may have locked it, and the readiness wait. `Setup` keeps what this traffic leaves; here is what it does.

Disconnections are reported by the INQUIRYs alone. **`registerTraffic_spec`**: a registration that goes
past the probe has seen none there, and whatever it sees after it leaves `device_gone` down.
-/

namespace Liblaser

open Bytes

variable {W : Type}

/-! ## The control transfers -/

/-- `USB_BOT_GETMAXLUN_bREQUEST`. -/
def usbBotGetMaxLunRequest : UInt8 := 0xFE

/-- `USB_BOT_GETMAXLUN_bmREQUESTTYPE`: Class, Interface, Device-to-Host. -/
def usbBotGetMaxLunRequestType : UInt8 := 0xA1

/-- GET MAX LUN on the entry's interface. -/
def getMaxLunRequest (entry : LaserEntry) : ControlRequest where
  bmRequestType := usbBotGetMaxLunRequestType
  bRequest := usbBotGetMaxLunRequest
  wValue := 0
  wIndex := entry.ifaceNum.toUInt16
  length := 1
  timeoutMs := 3000

/-- What a registration calls beyond what `scsi.c` always does: the Mass Storage Reset, and GET MAX LUN,
    which returns its byte or nothing. -/
structure SetupHost (W : Type) extends Host W where
  massStorageReset : LaserEntry → W → W
  getMaxLun : LaserEntry → W → Option UInt8 × W

/-- The one the library runs on, with the bus log in its world. -/
def SetupHost.onBus {U : Type} (usb : UsbHost U) (clockGettime : U → Timespec × U)
    (isCancelled : U → Bool × U) : SetupHost (Bus U) where
  toHost := .onBus usb clockGettime isCancelled
  massStorageReset entry b := laserMassStorageReset usb entry b
  getMaxLun entry b :=
    let (r, b) := b.controlTransfer usb (getMaxLunRequest entry)
    (if r.ret = 1 then some (r.bytes.getD 0 0) else none, b)

def Sys.massStorageReset (h : SetupHost W) (s : Sys W) : Sys W :=
  { s with world := h.massStorageReset s.entry s.world }

def Sys.getMaxLun (h : SetupHost W) (s : Sys W) : Option UInt8 × Sys W :=
  let (buf, w) := h.getMaxLun s.entry s.world
  (buf, { s with world := w })

/-! ## `laser_probe_lun()` -/

/-- `LASER_MAX_LUN_PROBED`. -/
def laserMaxLunProbed : Nat := 3

/-- `SCSI_PDT_MASK`. -/
def scsiPdtMask : UInt8 := 0x1f

/-- `SCSI_PDT_DIRECT_ACCESS`. -/
def scsiPdtDirectAccess : UInt8 := 0x00

/-- `SCSI_PDT_CD_DVD`. -/
def scsiPdtCdDvd : UInt8 := 0x05

/-- `LASER_INQUIRY_MAX_ATTEMPTS`. -/
def laserInquiryMaxAttempts : Nat := 7

/-- `LASER_INQUIRY_RETRY_MS`. -/
def laserInquiryRetryMs : Nat := 100

/-- INQUIRY, `SCSI_INQUIRY_ALLOC_LEN` bytes into a zeroed buffer. -/
def inquiryRequest : BotRequest where
  cdb := [0x12, 0x00, 0x00, 0x00, 36, 0x00]
  data := some (List.replicate 36 0)
  dataLen := 36
  dataIn := true
  wantActualLen := true
  dataLen_lt := by decide

/-- What `inquiry_pdt()` comes back with. -/
inductive Inquiry where
  /-- The peripheral device type. -/
  | pdt (type : UInt8)
  /-- `BOT_FAIL_NO_DEVICE`. -/
  | gone
  /-- The unit did not answer. -/
  | unanswered
deriving DecidableEq, Repr

/-- `entry->probe_timeouts = flag`. -/
def Sys.setProbeTimeouts (flag : Bool) (s : Sys W) : Sys W :=
  { s with entry := { s.entry with probeTimeouts := flag } }

/-- `entry->lun = lun`. -/
def Sys.setLun (lun : Nat) (s : Sys W) : Sys W :=
  { s with entry := { s.entry with lun := UInt8.ofNat lun } }

/-- One INQUIRY, under the probe timeouts. -/
def inquiryOnce (h : Host W) (s : Sys W) : BotReply × Sys W :=
  let (reply, s) := (s.setProbeTimeouts true).send h .inquiry inquiryRequest
  (reply, s.setProbeTimeouts false)

/-- `inquiry_pdt()`: attempt number `attempt`, with `left` of them to make. -/
def inquiryPdt (h : Host W) : (left attempt : Nat) → Sys W → Inquiry × Sys W
  | 0, _, s => (.unanswered, s)
  | left + 1, attempt, s =>
    let (reply, s) := inquiryOnce h s
    if reply.outcome = .pass ∧ 1 ≤ reply.actualLen.getD 0 then
      (.pdt ((overwrite (List.replicate 36 0) reply.data).getD 0 0 &&& scsiPdtMask), s)
    else if reply.outcome = .noDevice then (.gone, s)
    else if left = 0 then (.unanswered, s)
    else
      inquiryPdt h left (attempt + 1) (s.usleep h ((laserInquiryRetryMs <<< (attempt - 1)) * 1000))

/-- The loop over the units, `left` of them from `lun` on: the answer it returns with, if it does, and
    `lun0_pdt`. -/
def probeUnits (h : Host W) : (left lun : Nat) → Option UInt8 → Sys W →
    Option LaserOptical × Option UInt8 × Sys W
  | 0, _, lun0Pdt, s => (none, lun0Pdt, s)
  | left + 1, lun, lun0Pdt, s =>
    -- the other units are usually absent, and asking them again would cost
    match inquiryPdt h (if lun = 0 then laserInquiryMaxAttempts else 1) 1 (s.setLun lun) with
    | (.gone, s) => (some .gone, lun0Pdt, s.setLun 0)
    | (.unanswered, s) => probeUnits h left (lun + 1) lun0Pdt s
    | (.pdt type, s) =>
      let lun0Pdt := if lun = 0 then some type else lun0Pdt
      if type = scsiPdtCdDvd then (some .yes, lun0Pdt, s)
      else probeUnits h left (lun + 1) lun0Pdt s

/-- `laser_probe_lun()`. -/
def laserProbeLun (h : SetupHost W) (s : Sys W) : LaserOptical × Sys W :=
  let (maxLunBuf, s) := (s.setLun 0).getMaxLun h
  let maxLun := min (maxLunBuf.elim 0 UInt8.toNat) laserMaxLunProbed
  match probeUnits h.toHost (maxLun + 1) 0 none s with
  | (some optical, _, s) => (optical, s)
  | (none, lun0Pdt, s) =>
    let s := s.setLun 0
    match lun0Pdt with
    | none => (.noAnswer, s)
    -- any type but this one is taken for a drive with a wrong descriptor
    | some type => if type = scsiPdtDirectAccess then (.no, s) else (.yes, s)

/-! ## The whole traffic -/

/-- PREVENT ALLOW MEDIUM REMOVAL, allow. -/
def allowRemovalRequest : BotRequest := plainRequest [0x1e, 0, 0, 0, 0, 0]

/-- `laser_allow_medium_removal()`; what comes back is only logged. -/
def laserAllowMediumRemoval (h : Host W) (s : Sys W) : Sys W :=
  let (reply, s) := s.send h .mediumRemoval allowRemovalRequest
  (senseOf h reply.outcome s).2

/-- The traffic of `laser_register()`, from the reset to the wait: the answer of the probe, and the entry
    as it is published or declined. `none` when the wait has not returned within `fuel` polls. -/
def registerTraffic (h : SetupHost W) (fuel : Nat) (s : Sys W) : Option (LaserOptical × Sys W) :=
  let (optical, s) := laserProbeLun h (s.massStorageReset h)
  if optical ≠ .yes then some (optical, s)
  else
    let s := if s.entry.kernelDriverDetached then laserAllowMediumRemoval h.toHost s else s
    (laserWaitUntilReady h.toHost fuel s).map fun s => (optical, s)

/-- A `Setup` whose device answers as this traffic went. -/
structure Setup.Answered (o : Setup) (h : SetupHost W) (fuel : Nat) (s s' : Sys W) : Prop where
  traffic : registerTraffic h fuel s = some (o.probe, s')
  lun : o.lun = s'.entry.lun
  bot : o.bot = s'.entry.bot
  notReady : o.notReady = s'.entry.notReady

/-- `laser_register()` up to its traffic: the interface is claimed. -/
def setupClaimed (o : Setup) (fd : Int) : Except Build Build := do
  let b ← initLocks o (identify o fd)
  let b ← openDevice o b
  claimInterface o b

theorem setupEntry_eq (o : Setup) (fd : Int) :
    setupEntry o fd = setupClaimed o fd >>= acceptDevice o := by
  unfold setupEntry setupClaimed
  simp only [bind_assoc]

/-! ## What the traffic keeps -/

/-- `I` is kept by the traffic of a registration too. -/
structure SetupPreserved (h : SetupHost W) (S : Sender → Prop) (I : Sys W → Prop) : Prop
    extends Preserved h.toHost S I where
  massStorageReset : ∀ {s}, I s → I (s.massStorageReset h)
  getMaxLun : ∀ {s}, I s → I (s.getMaxLun h).2

section

variable {h : Host W} {S : Sender → Prop} {I : Sys W → Prop} {s s' : Sys W}

theorem Preserved.inquiryOnce (hI : Preserved h S I) (hS : S .inquiry) (hs : I s) :
    I (inquiryOnce h s).2 := by
  have hraised : I (s.setProbeTimeouts true) := hI.entry _ rfl hs
  exact hI.entry _ rfl (hI.send .inquiry inquiryRequest hS hraised)

theorem Preserved.inquiryPdt (hI : Preserved h S I) (hS : S .inquiry) (left attempt : Nat)
    (hs : I s) : I (inquiryPdt h left attempt s).2 := by
  induction left generalizing attempt s with
  | zero => exact hs
  | succ left ih =>
      have hasked := hI.inquiryOnce hS hs
      unfold Liblaser.inquiryPdt
      dsimp only
      split
      · exact hasked
      split
      · exact hasked
      split
      · exact hasked
      · exact ih _ (hI.usleep _ hasked)

theorem Preserved.probeUnits (hI : Preserved h S I) (hS : S .inquiry) (left lun : Nat)
    (lun0Pdt : Option UInt8) (hs : I s) : I (probeUnits h left lun lun0Pdt s).2.2 := by
  induction left generalizing lun lun0Pdt s with
  | zero => exact hs
  | succ left ih =>
      have hset : I (s.setLun lun) := hI.entry _ rfl hs
      have hasked := hI.inquiryPdt hS (if lun = 0 then laserInquiryMaxAttempts else 1) 1 hset
      unfold Liblaser.probeUnits
      generalize Liblaser.inquiryPdt h (if lun = 0 then laserInquiryMaxAttempts else 1) 1
        (s.setLun lun) = res at hasked ⊢
      obtain ⟨_ | _ | _, t⟩ := res
      · dsimp only
        split
        · exact hasked
        · exact ih _ _ hasked
      · exact hI.entry _ rfl hasked
      · exact ih _ _ hasked

theorem SetupPreserved.laserProbeLun {h : SetupHost W} (hI : SetupPreserved h S I)
    (hS : S .inquiry) (hs : I s) : I (laserProbeLun h s).2 := by
  have hbegun : I (s.setLun 0) := hI.entry _ rfl hs
  have hprobed := hI.probeUnits hS (min (((s.setLun 0).getMaxLun h).1.elim 0 UInt8.toNat)
    laserMaxLunProbed + 1) 0 none (hI.getMaxLun hbegun)
  unfold Liblaser.laserProbeLun
  dsimp only
  generalize Liblaser.probeUnits _ _ _ _ _ = res at hprobed ⊢
  obtain ⟨_ | optical, lun0Pdt, t⟩ := res
  · dsimp only
    have hback : I (t.setLun 0) := hI.entry _ rfl hprobed
    split
    · exact hback
    · split <;> exact hback
  · exact hprobed

theorem Preserved.laserAllowMediumRemoval (hI : Preserved h S I) (hS : S .mediumRemoval)
    (hsense : S .requestSense) (hs : I s) : I (laserAllowMediumRemoval h s) :=
  hI.senseOf hsense _ (hI.send .mediumRemoval allowRemovalRequest hS hs)

end

/-! ## Who saw the device go -/

/-- Only transactions of these senders have found the device gone. -/
def GoneSeenBy (S : Sender → Prop) (trace : List ScsiEvent) : Prop :=
  ∀ sender req, .sent sender req .noDevice ∈ trace → S sender

theorem goneSeenBy_preserved (h : Host W) (S : Sender → Prop) :
    Preserved h S fun s => GoneSeenBy S s.trace where
  send sender req hS hs := by
    intro sender' req' hmem
    rcases List.mem_cons.mp hmem with heq | hmem
    · injection heq with heq
      exact heq ▸ hS
    · exact hs sender' req' hmem
  clockGettime hs := hs
  usleep us hs := by
    intro sender req hmem
    exact hs sender req (List.mem_of_ne_of_mem (by simp) hmem)
  isCancelled hs := by
    intro sender req hmem
    exact hs sender req (List.mem_of_ne_of_mem (by simp) hmem)
  record {s e} he hs := by
    intro sender req hmem
    refine hs sender req (List.mem_of_ne_of_mem ?_ hmem)
    rintro rfl
    cases he
  entry e he hs := hs

/-- An INQUIRY has found the device gone, and nothing else. -/
abbrev ProbeOnly (trace : List ScsiEvent) : Prop := GoneSeenBy (· = .inquiry) trace

/-- No INQUIRY has. -/
abbrev ProbeQuiet (trace : List ScsiEvent) : Prop := GoneSeenBy (· ≠ .inquiry) trace

section

variable {h : Host W} {s s' : Sys W}

/-- An INQUIRY that found the device gone ends `inquiry_pdt()`. -/
theorem inquiryPdt_quiet (left attempt : Nat) (hs : ProbeQuiet s.trace)
    (hres : (inquiryPdt h left attempt s).1 ≠ .gone) :
    ProbeQuiet (inquiryPdt h left attempt s).2.trace := by
  induction left generalizing attempt s with
  | zero => exact hs
  | succ left ih =>
      have hasked : (inquiryOnce h s).1.outcome ≠ .noDevice →
          ProbeQuiet (inquiryOnce h s).2.trace := by
        intro ho sender req hmem
        rcases List.mem_cons.mp hmem with heq | hmem
        · injection heq with _ _ heq
          exact absurd heq.symm ho
        · exact hs sender req hmem
      unfold inquiryPdt at hres ⊢
      dsimp only at hres ⊢
      split
      · next hpass => exact hasked fun heq => by rw [hpass.1] at heq; cases heq
      · next hpass =>
          rw [if_neg hpass] at hres
          split
          · next hgone =>
              rw [if_pos hgone] at hres
              exact absurd rfl hres
          · next hgone =>
              rw [if_neg hgone] at hres
              have hasked := hasked hgone
              split
              · exact hasked
              · next hleft =>
                  rw [if_neg hleft] at hres
                  exact ih _ ((goneSeenBy_preserved h _).usleep _ hasked) hres

/-- It ends the loop over the units. -/
theorem probeUnits_quiet (left lun : Nat) (lun0Pdt : Option UInt8) (hs : ProbeQuiet s.trace)
    (hres : (probeUnits h left lun lun0Pdt s).1 ≠ some .gone) :
    ProbeQuiet (probeUnits h left lun lun0Pdt s).2.2.trace := by
  induction left generalizing lun lun0Pdt s with
  | zero => exact hs
  | succ left ih =>
      have hset : ProbeQuiet (s.setLun lun).trace := hs
      have hasked := inquiryPdt_quiet (h := h) (if lun = 0 then laserInquiryMaxAttempts else 1) 1 hset
      unfold probeUnits at hres ⊢
      generalize inquiryPdt h (if lun = 0 then laserInquiryMaxAttempts else 1) 1 (s.setLun lun) = res
        at hasked hres ⊢
      obtain ⟨type | _ | _, t⟩ := res
      · have hasked := hasked (by simp)
        dsimp only at hres ⊢
        split
        · exact hasked
        · next hother =>
            rw [if_neg hother] at hres
            exact ih _ _ hasked hres
      · exact absurd rfl hres
      · exact ih _ _ (hasked (by simp)) hres

/-- And the probe. -/
theorem laserProbeLun_quiet {h : SetupHost W} (hs : ProbeQuiet s.trace)
    (hres : (laserProbeLun h s).1 ≠ .gone) : ProbeQuiet (laserProbeLun h s).2.trace := by
  have hbegun : ProbeQuiet ((s.setLun 0).getMaxLun h).2.trace := hs
  have hprobed := probeUnits_quiet (h := h.toHost)
    (min (((s.setLun 0).getMaxLun h).1.elim 0 UInt8.toNat) laserMaxLunProbed + 1) 0 none hbegun
  unfold laserProbeLun at hres ⊢
  dsimp only at hres ⊢
  generalize probeUnits _ _ _ _ _ = res at hprobed hres ⊢
  obtain ⟨_ | optical, lun0Pdt, t⟩ := res
  · have hprobed := hprobed (by simp)
    dsimp only
    split
    · exact hprobed
    · split <;> exact hprobed
  · exact hprobed fun heq => hres (Option.some.inj heq)

end

end Liblaser
