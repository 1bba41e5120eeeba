import Liblaser.Lib.Bytes

/-!
# `Bot.Wire` — the CBW and the CSW as bytes

The two packed structures of `bot.c`, which serializes them by struct layout on a little-endian host:
`Cbw.encode` is the 31 bytes `libusb_bulk_transfer` is handed, `Csw.ofBytes` the `memcpy` out of the
13-byte buffer. `Cbw.parse` is the other side of the wire, the field layout the Bulk-Only
specification gives; **`Cbw.parse_encode`** is that the two agree on every CBW.
-/

namespace Liblaser

open Bytes

/-- `USB_BOT_CBW_SIGNATURE`, "USBC". -/
def usbBotCbwSignature : UInt32 := 0x43425355

/-- `USB_BOT_CSW_SIGNATURE`, "USBS". -/
def usbBotCswSignature : UInt32 := 0x53425355

/-- `USB_BOT_CBW_SIZE`. -/
def usbBotCbwSize : Nat := 31

/-- `USB_BOT_CSW_SIZE`. -/
def usbBotCswSize : Nat := 13

/-- `sizeof(cbw.CBWCB)`. -/
def cbwcbSize : Nat := 16

/-! ## `uint32_t` fields -/

/-- The four little-endian bytes of a `uint32_t` field. -/
def u32Bytes (n : UInt32) : List UInt8 := leBytes 4 n.toNat

/-- The `uint32_t` four little-endian bytes spell. -/
def u32OfBytes (bs : List UInt8) : UInt32 := UInt32.ofNat (leNat bs)

@[simp] theorem length_u32Bytes (n : UInt32) : (u32Bytes n).length = 4 := length_leBytes ..

@[simp] theorem u32OfBytes_u32Bytes (n : UInt32) : u32OfBytes (u32Bytes n) = n := by
  have hn : n.toNat < 256 ^ 4 := n.toNat_lt
  rw [u32OfBytes, u32Bytes, leNat_leBytes_of_lt hn, UInt32.ofNat_toNat]

/-- Three `uint32_t` fields at the front of a struct are found at offsets 0, 4 and 8, and what comes
    after them at offset 12. Both structs begin so. -/
theorem u32Fields (a b c : UInt32) (rest : List UInt8) :
    let bs := u32Bytes a ++ u32Bytes b ++ u32Bytes c ++ rest
    u32OfBytes (bs.take 4) = a ∧ u32OfBytes ((bs.drop 4).take 4) = b
      ∧ u32OfBytes ((bs.drop 8).take 4) = c ∧ bs.drop 12 = rest := by
  intro bs
  have ha := length_u32Bytes a
  have hb := length_u32Bytes b
  have hc := length_u32Bytes c
  refine ⟨?_, ?_, ?_, ?_⟩
  · simp only [bs, List.append_assoc]
    rw [List.take_left' ha, u32OfBytes_u32Bytes]
  · simp only [bs, List.append_assoc]
    rw [List.drop_left' ha, List.take_left' hb, u32OfBytes_u32Bytes]
  · simp only [bs, List.append_assoc]
    rw [← List.append_assoc, List.drop_left' (by simp [ha, hb]), List.take_left' hc,
      u32OfBytes_u32Bytes]
  · exact List.drop_left' (by simp [ha, hb, hc])

/-- A byte past the three words is a byte of what comes after them. -/
theorem getD_of_drop {bs rest : List UInt8} (h : bs.drop 12 = rest) (i : Nat) :
    bs.getD (12 + i) 0 = rest.getD i 0 := by
  rw [← h, List.getD_eq_getElem?_getD, List.getD_eq_getElem?_getD, List.getElem?_drop]

/-! ## The CBW -/

/-- `bot_cbw_t`. -/
structure Cbw where
  dCBWSignature : UInt32
  dCBWTag : UInt32
  dCBWDataTransferLength : UInt32
  bmCBWFlags : UInt8
  bCBWLUN : UInt8
  bCBWCBLength : UInt8
  cbwcb : List UInt8
  length_cbwcb : cbwcb.length = cbwcbSize
deriving DecidableEq, Repr

/-- The struct's bytes, in layout order. -/
def Cbw.encode (c : Cbw) : List UInt8 :=
  u32Bytes c.dCBWSignature ++ u32Bytes c.dCBWTag ++ u32Bytes c.dCBWDataTransferLength
    ++ [c.bmCBWFlags, c.bCBWLUN, c.bCBWCBLength] ++ c.cbwcb

/-- `_Static_assert(sizeof(bot_cbw_t) == USB_BOT_CBW_SIZE)`. -/
theorem Cbw.length_encode (c : Cbw) : c.encode.length = usbBotCbwSize := by
  simp [Cbw.encode, c.length_cbwcb, cbwcbSize, usbBotCbwSize]

/-- The device's reading of a CBW: 31 bytes, the fields at the offsets of the specification. -/
def Cbw.parse (bs : List UInt8) : Option Cbw :=
  if h : bs.length = usbBotCbwSize then
    some {
      dCBWSignature := u32OfBytes (bs.take 4)
      dCBWTag := u32OfBytes ((bs.drop 4).take 4)
      dCBWDataTransferLength := u32OfBytes ((bs.drop 8).take 4)
      bmCBWFlags := bs.getD 12 0
      bCBWLUN := bs.getD 13 0
      bCBWCBLength := bs.getD 14 0
      cbwcb := bs.drop 15
      length_cbwcb := by simp [h, usbBotCbwSize, cbwcbSize] }
  else none

/-- **What is sent is what was meant**: a CBW's bytes decode to its own fields. -/
theorem Cbw.parse_encode (c : Cbw) : Cbw.parse c.encode = some c := by
  rw [Cbw.parse, dif_pos c.length_encode]
  obtain ⟨sig, tag, len, flags, lun, cbl, cb, hcb⟩ := c
  simp only [Cbw.encode, List.append_assoc]
  obtain ⟨hsig, htag, hlen, hrest⟩ := u32Fields sig tag len ([flags, lun, cbl] ++ cb)
  simp only [List.append_assoc] at hsig htag hlen hrest
  have hcb' := congrArg (List.drop 3) hrest
  rw [List.drop_drop] at hcb'
  simp only [hsig, htag, hlen, getD_of_drop hrest 0, getD_of_drop hrest 1, getD_of_drop hrest 2,
    Option.some.injEq, Cbw.mk.injEq]
  exact ⟨trivial, trivial, trivial, rfl, rfl, rfl, by simpa using hcb'⟩

/-! ## The CSW -/

/-- `bot_csw_t`. -/
structure Csw where
  dCSWSignature : UInt32
  dCSWTag : UInt32
  dCSWDataResidue : UInt32
  bCSWStatus : UInt8
deriving DecidableEq, Repr

/-- `memcpy(&csw, csw_buf, USB_BOT_CSW_SIZE)`. -/
def Csw.ofBytes (bs : List UInt8) : Csw where
  dCSWSignature := u32OfBytes (bs.take 4)
  dCSWTag := u32OfBytes ((bs.drop 4).take 4)
  dCSWDataResidue := u32OfBytes ((bs.drop 8).take 4)
  bCSWStatus := bs.getD 12 0

/-- The bytes a device sends for a CSW. -/
def Csw.encode (c : Csw) : List UInt8 :=
  u32Bytes c.dCSWSignature ++ u32Bytes c.dCSWTag ++ u32Bytes c.dCSWDataResidue ++ [c.bCSWStatus]

/-- **The CSW read is the CSW sent**, when all of it arrived. -/
theorem Csw.ofBytes_encode (c : Csw) : Csw.ofBytes c.encode = c := by
  obtain ⟨sig, tag, residue, status⟩ := c
  obtain ⟨hsig, htag, hres, hrest⟩ := u32Fields sig tag residue [status]
  simp only [Csw.ofBytes, Csw.encode, hsig, htag, hres, Csw.mk.injEq]
  exact ⟨trivial, trivial, trivial, getD_of_drop hrest 0⟩

end Liblaser
