import Mathlib.Algebra.Group.Nat.Defs
import Liblaser.Registry.Register

/-!
# `Registry.Endpoints` — the interface a registration claims

`laser_find_bulk_endpoints()` of `usb.c`: a search over the interfaces of the active configuration, and
within one over its endpoints, with zero for an endpoint not found. The descriptor is whatever the device
says of itself. It is libusb's, and lent: what is obtained and given back is on a ledger.

**`laserFindBulkEndpoints_spec`** is that all four fields come from the first interface that has all it
takes, and that a search that ends without one leaves the entry alone. `openDevice_finds` is that this is the
step `Setup.endpoints` stands for.
-/

namespace Liblaser

open Ledger

/-! ## Descriptors, as far as they are read -/

/-- `struct libusb_endpoint_descriptor`. -/
structure EndpointDescriptor where
  bEndpointAddress : UInt8
  bmAttributes : UInt8
  wMaxPacketSize : UInt16
deriving DecidableEq, Repr

/-- `struct libusb_interface_descriptor`; its subclass is only logged. -/
structure InterfaceDescriptor where
  bInterfaceNumber : UInt8
  bInterfaceClass : UInt8
  bInterfaceProtocol : UInt8
  endpoint : List EndpointDescriptor
deriving DecidableEq, Repr

/-- `struct libusb_interface`: its alternate settings, possibly none. -/
structure UsbInterface where
  altsetting : List InterfaceDescriptor
deriving DecidableEq, Repr

/-- `struct libusb_config_descriptor`. -/
structure ConfigDescriptor where
  interface : List UsbInterface
deriving DecidableEq, Repr

/-- `USB_CLASS_MASS_STORAGE`. -/
def usbClassMassStorage : UInt8 := 0x08

/-- `USB_MS_PROTOCOL_BULK_ONLY`. -/
def usbMsProtocolBulkOnly : UInt8 := 0x50

/-- `(ep->bmAttributes & LIBUSB_TRANSFER_TYPE_MASK) == LIBUSB_TRANSFER_TYPE_BULK`. -/
def EndpointDescriptor.isBulk (ep : EndpointDescriptor) : Bool := ep.bmAttributes &&& 0x03 == 0x02

/-- `ep->bEndpointAddress & LIBUSB_ENDPOINT_IN`. -/
def EndpointDescriptor.isIn (ep : EndpointDescriptor) : Bool := ep.bEndpointAddress &&& 0x80 != 0

/-- Bits 10:0 of the packet size. -/
def EndpointDescriptor.mps (ep : EndpointDescriptor) : UInt16 := ep.wMaxPacketSize &&& 0x07ff

/-! ## The search -/

/-- `ep_in`, `ep_out` and their packet sizes. -/
structure EndpointPair where
  epIn : UInt8 := 0
  epOut : UInt8 := 0
  epInMps : UInt16 := 0
  epOutMps : UInt16 := 0

/-- One turn of the loop over the endpoints. -/
def EndpointPair.pick (p : EndpointPair) (ep : EndpointDescriptor) : EndpointPair :=
  if !ep.isBulk then p
  else if ep.isIn ∧ p.epIn = 0 then { p with epIn := ep.bEndpointAddress, epInMps := ep.mps }
  else if !ep.isIn ∧ p.epOut = 0 then { p with epOut := ep.bEndpointAddress, epOutMps := ep.mps }
  else p

/-- The loop over the endpoints of an interface. -/
def endpointPair (iface : InterfaceDescriptor) : EndpointPair := iface.endpoint.foldl .pick {}

/-- What is stored of a pair that was found. -/
def EndpointPair.endpoints (p : EndpointPair) (iface : InterfaceDescriptor) : Endpoints where
  ifaceNum := iface.bInterfaceNumber
  epIn := p.epIn
  epOut := p.epOut
  epMaxPacket := if p.epInMps < p.epOutMps then p.epInMps else p.epOutMps

/-- The loop over the interfaces. -/
def findInterface : List UsbInterface → Option Endpoints
  | [] => none
  | i :: is =>
    match i.altsetting with
    | [] => findInterface is
    | iface :: _ =>
      if iface.bInterfaceClass ≠ usbClassMassStorage
          ∨ iface.bInterfaceProtocol ≠ usbMsProtocolBulkOnly then
        findInterface is
      else
        let p := endpointPair iface
        -- a Bulk-Only interface without a bulk pair is malformed: keep looking
        if p.epIn = 0 ∨ p.epOut = 0 then findInterface is else some (p.endpoints iface)

/-- `entry->iface_num`, `entry->ep_in`, `entry->ep_out` and `entry->ep_max_packet` are set. -/
def Endpoints.store (e : Endpoints) (entry : LaserEntry) : LaserEntry :=
  { entry with ifaceNum := e.ifaceNum, epIn := e.epIn, epOut := e.epOut, epMaxPacket := e.epMaxPacket }

/-! ## `laser_find_bulk_endpoints()` -/

/-- The two libusb calls about the active configuration; `none` is an error. -/
structure ConfigHost (U : Type) where
  getActiveConfigDescriptor : U → Option ConfigDescriptor × U
  freeConfigDescriptor : ConfigDescriptor → U → U

/-- The entry, the world, and the descriptors that were lent, newest first. -/
structure Discovery (U : Type) where
  entry : LaserEntry
  usb : U
  ledger : List (Ledger.Entry ConfigDescriptor Empty)

variable {U : Type}

def Discovery.free (h : ConfigHost U) (cfg : ConfigDescriptor) (d : Discovery U) : Discovery U :=
  { d with usb := h.freeConfigDescriptor cfg d.usb, ledger := .gave cfg :: d.ledger }

/-- `laser_find_bulk_endpoints()`. -/
def laserFindBulkEndpoints (h : ConfigHost U) (d : Discovery U) : Int × Discovery U :=
  let (cfg, usb) := h.getActiveConfigDescriptor d.usb
  match cfg with
  | none => (-1, { d with usb := usb })
  | some cfg =>
    let d := { d with usb := usb, ledger := .got cfg :: d.ledger }
    match findInterface cfg.interface with
    | some e => (0, { d with entry := e.store d.entry }.free h cfg)
    | none => (-1, d.free h cfg)

/-! ## What it looks for -/

/-- A bulk endpoint of this direction and of non-zero address. -/
def isPipe (dirIn : Bool) (ep : EndpointDescriptor) : Bool :=
  ep.isBulk && ep.isIn == dirIn && ep.bEndpointAddress != 0

/-- An interface with a setting 0 that is Bulk-Only mass storage and has a pipe each way. -/
def UsbInterface.isUsable (i : UsbInterface) : Bool :=
  i.altsetting.head?.any fun iface =>
    iface.bInterfaceClass == usbClassMassStorage && iface.bInterfaceProtocol == usbMsProtocolBulkOnly
      && iface.endpoint.any (isPipe true) && iface.endpoint.any (isPipe false)

/-- The four fields as an interface has them: its number, its first pipe each way, and the smaller of their
    packet sizes. -/
structure Endpoints.From (e : Endpoints) (iface : InterfaceDescriptor) (pipeIn pipeOut : EndpointDescriptor) :
    Prop where
  first_in : iface.endpoint.find? (isPipe true) = some pipeIn
  first_out : iface.endpoint.find? (isPipe false) = some pipeOut
  ifaceNum : e.ifaceNum = iface.bInterfaceNumber
  epIn : e.epIn = pipeIn.bEndpointAddress
  epOut : e.epOut = pipeOut.bEndpointAddress
  epMaxPacket : e.epMaxPacket.toNat
    = min (pipeIn.wMaxPacketSize.toNat % 2 ^ 11) (pipeOut.wMaxPacketSize.toNat % 2 ^ 11)

/-- The four fields are those of the first usable interface. -/
def ConfigDescriptor.Selects (cfg : ConfigDescriptor) (e : Endpoints) : Prop :=
  ∃ i iface rest pipeIn pipeOut, cfg.interface.find? UsbInterface.isUsable = some i
    ∧ i.altsetting = iface :: rest ∧ e.From iface pipeIn pipeOut

/-! ## One interface -/

/-- One half of a pair. -/
def EndpointPair.half (p : EndpointPair) (dirIn : Bool) : UInt8 × UInt16 :=
  if dirIn then (p.epIn, p.epInMps) else (p.epOut, p.epOutMps)

/-- A half that was found stays. -/
theorem EndpointPair.pick_of_found {p : EndpointPair} {ep : EndpointDescriptor} {dirIn : Bool}
    (hfound : (p.half dirIn).1 ≠ 0) : (p.pick ep).half dirIn = p.half dirIn := by
  unfold pick
  cases dirIn with
  | false =>
      have hout : p.epOut ≠ 0 := hfound
      split
      · rfl
      split
      · rfl
      · rw [if_neg fun hpick => hout hpick.2]
  | true =>
      have hin : p.epIn ≠ 0 := hfound
      split
      · rfl
      · rw [if_neg fun hpick => hin hpick.2]
        split <;> rfl

/-- A half that is missing is filled by a pipe of its direction, -/
theorem EndpointPair.pick_of_pipe {p : EndpointPair} {ep : EndpointDescriptor} {dirIn : Bool}
    (hmissing : (p.half dirIn).1 = 0) (hpipe : isPipe dirIn ep = true) :
    (p.pick ep).half dirIn = (ep.bEndpointAddress, ep.mps) := by
  simp only [isPipe, Bool.and_eq_true, beq_iff_eq] at hpipe
  obtain ⟨⟨hbulk, hdir⟩, -⟩ := hpipe
  unfold pick
  rw [hbulk, hdir, if_neg (by decide)]
  cases dirIn with
  | false => rw [if_neg (by simp), if_pos ⟨rfl, hmissing⟩]; rfl
  | true => rw [if_pos ⟨rfl, hmissing⟩]; rfl

/-- and by nothing else. -/
theorem EndpointPair.pick_of_not_pipe {p : EndpointPair} {ep : EndpointDescriptor} {dirIn : Bool}
    (hmissing : (p.half dirIn).1 = 0) (hpipe : ¬ isPipe dirIn ep = true) :
    ((p.pick ep).half dirIn).1 = 0 := by
  simp only [isPipe, Bool.and_eq_true, beq_iff_eq, bne_iff_ne] at hpipe
  unfold pick
  split
  · exact hmissing
  next hbulk =>
    have hbulk : ep.isBulk = true := by simpa using hbulk
    split
    next hin =>
      cases dirIn with
      | false => exact hmissing
      | true => exact Decidable.not_not.mp fun haddr => hpipe ⟨⟨hbulk, hin.1⟩, haddr⟩
    split
    next hout =>
      cases dirIn with
      | false => exact Decidable.not_not.mp fun haddr => hpipe ⟨⟨hbulk, by simpa using hout.1⟩, haddr⟩
      | true => exact hmissing
    next => exact hmissing

theorem isPipe_ne_zero {dirIn : Bool} {ep : EndpointDescriptor} (hpipe : isPipe dirIn ep = true) :
    ep.bEndpointAddress ≠ 0 := by
  simp only [isPipe, Bool.and_eq_true, bne_iff_ne] at hpipe
  exact hpipe.2

/-- What the loop leaves of a half that was missing: the first pipe of its direction, or nothing. -/
inductive HalfSpec (dirIn : Bool) (eps : List EndpointDescriptor) (half : UInt8 × UInt16) : Prop where
  | found {ep : EndpointDescriptor} (hfirst : eps.find? (isPipe dirIn) = some ep)
      (hhalf : half = (ep.bEndpointAddress, ep.mps)) : HalfSpec dirIn eps half
  | missed (hnone : eps.find? (isPipe dirIn) = none) (hhalf : half.1 = 0) : HalfSpec dirIn eps half

theorem foldl_pick_of_found {p : EndpointPair} {dirIn : Bool} (eps : List EndpointDescriptor)
    (hfound : (p.half dirIn).1 ≠ 0) : (eps.foldl .pick p).half dirIn = p.half dirIn := by
  induction eps generalizing p with
  | nil => rfl
  | cons ep eps ih =>
      have hkept := @EndpointPair.pick_of_found p ep dirIn hfound
      rw [List.foldl_cons, ih (hkept ▸ hfound), hkept]

/-- **The loop over the endpoints**, for either direction. -/
theorem foldl_pick_spec {p : EndpointPair} {dirIn : Bool} (eps : List EndpointDescriptor)
    (hmissing : (p.half dirIn).1 = 0) : HalfSpec dirIn eps ((eps.foldl .pick p).half dirIn) := by
  induction eps generalizing p with
  | nil => exact .missed rfl hmissing
  | cons ep eps ih =>
      rw [List.foldl_cons]
      by_cases hpipe : isPipe dirIn ep = true
      · have hfilled := EndpointPair.pick_of_pipe hmissing hpipe
        refine .found (List.find?_cons_of_pos hpipe) ?_
        rw [foldl_pick_of_found eps (by rw [hfilled]; exact isPipe_ne_zero hpipe), hfilled]
      · cases ih (EndpointPair.pick_of_not_pipe hmissing hpipe) with
        | found hfirst hhalf => exact .found ((List.find?_cons_of_neg hpipe).trans hfirst) hhalf
        | missed hnone hhalf => exact .missed ((List.find?_cons_of_neg hpipe).trans hnone) hhalf

theorem find?_isPipe_none_iff {eps : List EndpointDescriptor} {dirIn : Bool} :
    eps.find? (isPipe dirIn) = none ↔ ¬ eps.any (isPipe dirIn) = true := by
  simp

theorem EndpointDescriptor.toNat_mps (ep : EndpointDescriptor) :
    ep.mps.toNat = ep.wMaxPacketSize.toNat % 2 ^ 11 := by
  unfold mps
  rw [UInt16.toNat_and]
  exact Nat.and_two_pow_sub_one_eq_mod _ 11

/-- A pair is whole when the interface has a pipe each way, and then it is made of the first of each. -/
theorem endpointPair_spec (iface : InterfaceDescriptor) :
    ((endpointPair iface).epIn = 0 ∨ (endpointPair iface).epOut = 0)
        ∧ ¬ (iface.endpoint.any (isPipe true) = true ∧ iface.endpoint.any (isPipe false) = true)
      ∨ ¬ ((endpointPair iface).epIn = 0 ∨ (endpointPair iface).epOut = 0)
        ∧ (iface.endpoint.any (isPipe true) = true ∧ iface.endpoint.any (isPipe false) = true)
        ∧ ∃ pipeIn pipeOut, ((endpointPair iface).endpoints iface).From iface pipeIn pipeOut := by
  have hin := @foldl_pick_spec {} true iface.endpoint rfl
  have hout := @foldl_pick_spec {} false iface.endpoint rfl
  have hhalves : ∀ dirIn, (endpointPair iface).half dirIn
      = (iface.endpoint.foldl EndpointPair.pick {}).half dirIn := fun _ => rfl
  rw [← hhalves] at hin hout
  cases hin with
  | missed hnone hzero =>
      left
      exact ⟨.inl hzero, fun hboth => find?_isPipe_none_iff.mp hnone hboth.1⟩
  | @found pipeIn hfirstIn hhalfIn =>
      cases hout with
      | missed hnone hzero =>
          left
          exact ⟨.inr hzero, fun hboth => find?_isPipe_none_iff.mp hnone hboth.2⟩
      | @found pipeOut hfirstOut hhalfOut =>
          right
          obtain ⟨hin, hinMps⟩ := Prod.mk.inj hhalfIn
          obtain ⟨hout, houtMps⟩ := Prod.mk.inj hhalfOut
          refine ⟨?_, ⟨?_, ?_⟩, pipeIn, pipeOut, hfirstIn, hfirstOut, rfl, hin, hout, ?_⟩
          · rw [hin, hout]
            exact fun hzero => hzero.elim (isPipe_ne_zero (List.find?_some hfirstIn))
              (isPipe_ne_zero (List.find?_some hfirstOut))
          · exact List.any_eq_true.mpr ⟨_, List.mem_of_find?_eq_some hfirstIn, List.find?_some hfirstIn⟩
          · exact List.any_eq_true.mpr ⟨_, List.mem_of_find?_eq_some hfirstOut, List.find?_some hfirstOut⟩
          · rw [← pipeIn.toNat_mps, ← pipeOut.toNat_mps, ← hinMps, ← houtMps]
            show (if _ then _ else _ : UInt16).toNat = _
            split
            next hlt => exact (Nat.min_eq_left (Nat.le_of_lt (UInt16.lt_iff_toNat_lt.mp hlt))).symm
            next hge => exact (Nat.min_eq_right (UInt16.le_iff_toNat_le.mp (UInt16.not_lt.mp hge))).symm

/-- How the loop over the interfaces ends. -/
inductive InterfaceSpec (is : List UsbInterface) : Option Endpoints → Prop where
  | found {e : Endpoints} (hselects : ConfigDescriptor.Selects ⟨is⟩ e) : InterfaceSpec is (some e)
  | missed (hnone : is.find? UsbInterface.isUsable = none) : InterfaceSpec is none

theorem InterfaceSpec.skip {i : UsbInterface} {is : List UsbInterface} {r : Option Endpoints}
    (hno : ¬ i.isUsable = true) (hspec : InterfaceSpec is r) : InterfaceSpec (i :: is) r := by
  cases hspec with
  | found hselects =>
      obtain ⟨i, iface, rest, pipeIn, pipeOut, hfirst, hfrom⟩ := hselects
      exact .found ⟨i, iface, rest, pipeIn, pipeOut, (List.find?_cons_of_neg hno).trans hfirst, hfrom⟩
  | missed hnone => exact .missed ((List.find?_cons_of_neg hno).trans hnone)

/-- **The loop over the interfaces** takes the first usable one. -/
theorem findInterface_spec (is : List UsbInterface) : InterfaceSpec is (findInterface is) := by
  induction is with
  | nil => exact .missed rfl
  | cons i is ih =>
      unfold findInterface
      cases hsettings : i.altsetting with
      | nil =>
          refine ih.skip ?_
          unfold UsbInterface.isUsable
          rw [hsettings]
          exact Bool.false_ne_true
      | cons iface rest =>
          have husable : i.isUsable = true ↔
              (iface.bInterfaceClass = usbClassMassStorage ∧ iface.bInterfaceProtocol = usbMsProtocolBulkOnly)
                ∧ iface.endpoint.any (isPipe true) = true ∧ iface.endpoint.any (isPipe false) = true := by
            unfold UsbInterface.isUsable
            rw [hsettings]
            simp only [List.head?_cons, Option.any_some, Bool.and_eq_true, beq_iff_eq, and_assoc]
          dsimp only
          split
          next hother =>
            refine ih.skip fun h => ?_
            obtain ⟨⟨hclass, hprotocol⟩, -⟩ := husable.mp h
            exact hother.elim (fun hne => hne hclass) fun hne => hne hprotocol
          next hbulkOnly =>
            rw [not_or, Decidable.not_not, Decidable.not_not] at hbulkOnly
            rcases endpointPair_spec iface with ⟨hhalf, hno⟩ | ⟨hwhole, hpipes, pipeIn, pipeOut, hfrom⟩
            · rw [if_pos hhalf]
              exact ih.skip fun h => hno (husable.mp h).2
            · rw [if_neg hwhole]
              exact .found ⟨i, iface, rest, pipeIn, pipeOut,
                List.find?_cons_of_pos (husable.mpr ⟨hbulkOnly, hpipes⟩), hsettings, hfrom⟩

/-! ## The function -/

theorem find?_isUsable_none_iff {is : List UsbInterface} :
    is.find? UsbInterface.isUsable = none ↔ ¬ ∃ i ∈ is, i.isUsable = true := by
  simp

/-- **The interface is coherent.** On a descriptor that is obtained the search succeeds exactly when some
    interface is usable, the four fields are then those of the first such interface, and the descriptor is
    given back once; a search that fails leaves the entry as it was. -/
theorem laserFindBulkEndpoints_spec (h : ConfigHost U) (d : Discovery U) :
    (∀ cfg, (h.getActiveConfigDescriptor d.usb).1 = some cfg →
        ((laserFindBulkEndpoints h d).1 = 0 ↔ ∃ i ∈ cfg.interface, i.isUsable = true)
          ∧ ((laserFindBulkEndpoints h d).1 = 0 →
              ∃ e, cfg.Selects e ∧ (laserFindBulkEndpoints h d).2.entry = e.store d.entry)
          ∧ (laserFindBulkEndpoints h d).2.ledger = .gave cfg :: .got cfg :: d.ledger)
      ∧ ((h.getActiveConfigDescriptor d.usb).1 = none →
          (laserFindBulkEndpoints h d).1 = -1 ∧ (laserFindBulkEndpoints h d).2.ledger = d.ledger)
      ∧ ((laserFindBulkEndpoints h d).1 = 0
        ∨ (laserFindBulkEndpoints h d).1 = -1 ∧ (laserFindBulkEndpoints h d).2.entry = d.entry) := by
  unfold laserFindBulkEndpoints
  generalize h.getActiveConfigDescriptor d.usb = lent
  obtain ⟨cfg | cfg, usb⟩ := lent
  · refine ⟨fun cfg hcfg => (by cases hcfg), fun _ => ⟨rfl, rfl⟩, .inr ⟨rfl, rfl⟩⟩
  · have hspec := findInterface_spec cfg.interface
    dsimp only
    generalize findInterface cfg.interface = found at hspec
    refine ⟨?_, fun hnone => (by cases hnone), ?_⟩
    · intro _ hcfg
      cases hcfg
      cases hspec with
      | found hselects =>
          obtain ⟨i, iface, rest, pipeIn, pipeOut, hfirst, hfrom⟩ := id hselects
          refine ⟨⟨fun _ => ?_, fun _ => rfl⟩, fun _ => ⟨_, hselects, rfl⟩, rfl⟩
          exact ⟨i, List.mem_of_find?_eq_some hfirst, List.find?_some hfirst⟩
      | missed hnone =>
          refine ⟨⟨fun hzero => (by cases hzero), fun husable => ?_⟩, fun hzero => (by cases hzero),
            rfl⟩
          exact absurd husable (find?_isUsable_none_iff.mp hnone)
    · cases hspec with
      | found _ => exact .inl rfl
      | missed _ => exact .inr ⟨rfl, rfl⟩

/-- What the search finds is what `Setup.endpoints` says it does: the same entry goes on to be claimed, or
    the registration ends there. -/
theorem openDevice_finds {o : Setup} {b : Build} (h : ConfigHost U) (usb : U)
    (hctx : o.initContext = true) (hwrap : o.wrapSysDevice = true)
    (hfinds : o.endpoints
      = (h.getActiveConfigDescriptor usb).1.bind fun cfg => findInterface cfg.interface) :
    let opened := readDescriptor o ((b.got .ctx).got .handle)
    let r := laserFindBulkEndpoints h ⟨opened.entry, usb, []⟩
    openDevice o b = if r.1 = 0 then .ok { opened with entry := r.2.entry } else .error (errHandle opened) := by
  intro opened r
  unfold openDevice
  rw [hctx, hwrap, hfinds]
  rcases hlent : h.getActiveConfigDescriptor usb with ⟨cfg | cfg, usb'⟩
  · have hr : r = (-1, ⟨opened.entry, usb', []⟩) := by
      unfold r laserFindBulkEndpoints
      rw [hlent]
    rw [hr]
    rfl
  · dsimp only [Option.bind_some]
    cases hfound : findInterface cfg.interface with
    | none =>
        have hr : r = (-1, Discovery.free h cfg ⟨opened.entry, usb', [.got cfg]⟩) := by
          unfold r laserFindBulkEndpoints
          simp only [hlent, hfound]
        rw [hr]
        rfl
    | some e =>
        have hr : r = (0, Discovery.free h cfg ⟨e.store opened.entry, usb', [.got cfg]⟩) := by
          unfold r laserFindBulkEndpoints
          simp only [hlent, hfound]
        rw [hr]
        rfl

end Liblaser
