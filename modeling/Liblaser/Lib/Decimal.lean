/-!
# `Lib.Decimal` — numbers as ASCII digits

Digits are bytes, `value` is the number a row of them spells, `render` the row that spells a number without
leading zeros. **`value_render`** is the round trip.
-/

namespace Decimal

/-- `'0'` to `'9'`. -/
def isDigit (b : UInt8) : Bool := 0x30 ≤ b && b ≤ 0x39

/-- The number that digits spell, most significant first. -/
def value (bs : List UInt8) : Nat := bs.foldl (fun n b => 10 * n + (b.toNat - 0x30)) 0

/-- The digits that spell a number. -/
def render (n : Nat) : List UInt8 := (toString n).toByteArray.data.toList

/-- The byte of an ASCII character. -/
def byteOf (c : Char) : UInt8 := c.val.toUInt8

theorem toNat_byteOf {c : Char} (hc : c.isDigit = true) : (byteOf c).toNat = c.toNat := by
  have hle := (Char.isDigit_iff_toNat.mp hc).2
  have hnine : '9'.toNat = 57 := rfl
  show c.val.toUInt8.toNat = c.val.toNat
  rw [UInt32.toNat_toUInt8]
  exact Nat.mod_eq_of_lt (show c.toNat < 256 by omega)

theorem isDigit_byteOf {c : Char} (hc : c.isDigit = true) : isDigit (byteOf c) = true := by
  obtain ⟨hlow, hhigh⟩ := Char.isDigit_iff_toNat.mp hc
  unfold isDigit
  rw [Bool.and_eq_true, decide_eq_true_iff, decide_eq_true_iff, UInt8.le_iff_toNat_le,
    UInt8.le_iff_toNat_le, toNat_byteOf hc]
  exact ⟨hlow, hhigh⟩

/-- A digit is encoded by its own byte. -/
theorem utf8EncodeChar_digit {c : Char} (hc : c.isDigit = true) : String.utf8EncodeChar c = [byteOf c] := by
  have hle := (Char.isDigit_iff_toNat.mp hc).2
  have hnine : '9'.toNat = 57 := rfl
  apply String.utf8EncodeChar_eq_singleton
  rw [Char.utf8Size_eq_one_iff, UInt32.le_iff_toNat_le]
  show c.toNat ≤ 127
  omega

theorem flatMap_utf8EncodeChar {cs : List Char} (hcs : ∀ c ∈ cs, c.isDigit = true) :
    cs.flatMap String.utf8EncodeChar = cs.map byteOf := by
  induction cs with
  | nil => rfl
  | cons c cs ih =>
      rw [List.flatMap_cons, utf8EncodeChar_digit (hcs c List.mem_cons_self),
        ih fun c hc => hcs c (List.mem_cons_of_mem _ hc)]
      rfl

theorem isDigit_of_mem_toDigits {n : Nat} {c : Char} (hc : c ∈ Nat.toDigits 10 n) : c.isDigit = true :=
  Nat.isDigit_of_mem_toDigits (by decide) (by decide) hc

/-- A number is spelled by the digits of its base-ten expansion. -/
theorem render_eq (n : Nat) : render n = (Nat.toDigits 10 n).map byteOf := by
  have hdigits := @flatMap_utf8EncodeChar (Nat.toDigits 10 n) fun _ => isDigit_of_mem_toDigits
  unfold render
  rw [Nat.toString_eq_ofList_toDigits, String.toByteArray_ofList, List.utf8Encode, hdigits]
  simp

theorem foldl_map_byteOf {cs : List Char} (hcs : ∀ c ∈ cs, c.isDigit = true) (init : Nat) :
    (cs.map byteOf).foldl (fun n b => 10 * n + (b.toNat - 0x30)) init = Nat.ofDigitChars 10 cs init := by
  induction cs generalizing init with
  | nil => rfl
  | cons c cs ih =>
      rw [List.map_cons, List.foldl_cons, toNat_byteOf (hcs c List.mem_cons_self), Nat.ofDigitChars_cons]
      exact ih (fun c hc => hcs c (List.mem_cons_of_mem _ hc)) _

/-- **Round trip**: the digits of a number spell it. -/
theorem value_render (n : Nat) : value (render n) = n := by
  unfold value
  rw [render_eq, foldl_map_byteOf (fun _ => isDigit_of_mem_toDigits), Nat.ofDigitChars_ten_toDigits]

theorem isDigit_of_mem_render {n : Nat} {b : UInt8} (hb : b ∈ render n) : isDigit b = true := by
  rw [render_eq] at hb
  obtain ⟨c, hc, rfl⟩ := List.mem_map.mp hb
  exact isDigit_byteOf (isDigit_of_mem_toDigits hc)

theorem render_ne_nil (n : Nat) : render n ≠ [] := by
  rw [render_eq, ne_eq, List.map_eq_nil_iff]
  exact Nat.toDigits_ne_nil

end Decimal
