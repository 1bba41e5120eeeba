import Mathlib.Algebra.Group.Nat.Defs
import Liblaser.Lib.Decimal

/-!
# `CString` — strings as C has them, and `strtol()`

A string that comes from outside is its bytes, none of them NUL; the NUL stands behind them, where it can be
read as well.

`strtol` is the C library's, in base ten and in its "C" locale: blanks, a sign, digits, and a value that
saturates at the ends of `long`.
-/

namespace Liblaser

open Decimal

/-- The bytes of a string literal. -/
def ascii (s : String) : List UInt8 := s.toByteArray.data.toList

/-- A string: the bytes before its NUL. -/
structure CString where
  bytes : List UInt8
  noNul : 0 ∉ bytes

/-- `str[i]`, up to the NUL. -/
def CString.at (str : CString) (i : Nat) : UInt8 := str.bytes.getD i 0

/-- A string whose first byte is not its NUL begins with that byte. -/
theorem CString.eq_cons {str : CString} (hne : str.at 0 ≠ 0) : ∃ bs, str.bytes = str.at 0 :: bs := by
  unfold CString.at at hne ⊢
  cases hbytes : str.bytes with
  | nil =>
      rw [hbytes] at hne
      exact absurd rfl hne
  | cons b bs => exact ⟨bs, rfl⟩

/-- The byte behind the digits a string begins with is the NUL when it has nothing else. -/
theorem CString.at_takeWhile_eq_zero_iff (str : CString) (p : UInt8 → Bool) :
    str.at (str.bytes.takeWhile p).length = 0 ↔ ∀ b ∈ str.bytes, p b = true := by
  obtain ⟨bytes, hnul⟩ := str
  show bytes.getD (bytes.takeWhile p).length 0 = 0 ↔ ∀ b ∈ bytes, p b = true
  induction bytes with
  | nil => simp
  | cons b bytes ih =>
      simp only [List.mem_cons, not_or] at hnul
      cases hb : p b with
      | true => simpa [List.takeWhile_cons, hb] using ih hnul.2
      | false =>
          rw [List.takeWhile_cons, hb]
          constructor
          · intro hzero
            exact absurd hzero.symm hnul.1
          · intro hall
            rw [hall b List.mem_cons_self] at hb
            cases hb

/-! ## `strtol()` -/

/-- The width of `long`: 32 bits on some targets, 64 on others. -/
inductive LongWidth where
  | bits32
  | bits64
deriving DecidableEq, Repr

/-- `LONG_MAX`. -/
def LongWidth.max : LongWidth → Nat
  | .bits32 => 2 ^ 31 - 1
  | .bits64 => 2 ^ 63 - 1

/-- `isspace()`. -/
def isSpace (b : UInt8) : Bool := b == 0x20 || (0x09 ≤ b && b ≤ 0x0D)

/-- What `strtol()` comes back with. -/
structure Strtol where
  value : Int
  /-- `end - str`. -/
  stop : Nat
  /-- It has set `errno` to `ERANGE`. -/
  erange : Bool
deriving DecidableEq, Repr

/-- `strtol(str, &end, 10)`. -/
def strtol (long : LongWidth) (str : CString) : Strtol :=
  let blanks := (str.bytes.takeWhile isSpace).length
  let sign := str.at blanks
  let start := if sign = 0x2D ∨ sign = 0x2B then blanks + 1 else blanks
  let digits := (str.bytes.drop start).takeWhile isDigit
  if digits.isEmpty then ⟨0, 0, false⟩
  else
    let stop := start + digits.length
    if sign = 0x2D then
      if long.max + 1 < value digits then ⟨-(long.max + 1), stop, true⟩
      else ⟨-value digits, stop, false⟩
    else if long.max < value digits then ⟨long.max, stop, true⟩
    else ⟨value digits, stop, false⟩

theorem not_blank_of_isDigit {b : UInt8} (hb : isDigit b = true) :
    isSpace b = false ∧ ¬ (b = 0x2D ∨ b = 0x2B) := by
  unfold isDigit at hb
  rw [Bool.and_eq_true, decide_eq_true_iff, decide_eq_true_iff] at hb
  have hlow : ∀ c : UInt8, c < 0x30 → b ≠ c := by
    rintro c hc rfl
    exact absurd (UInt8.lt_of_lt_of_le hc hb.1) (UInt8.lt_irrefl b)
  have hnot : ¬ b ≤ 0x0D := by
    intro hle
    exact absurd (UInt8.le_trans hb.1 hle) (by decide)
  refine ⟨?_, ?_⟩
  · simp [isSpace, hlow 0x20 (by decide), hnot]
  · rintro (heq | heq)
    · exact hlow 0x2D (by decide) heq
    · exact hlow 0x2B (by decide) heq

/-- A string that begins with a digit is read from there. -/
theorem strtol_of_digit {long : LongWidth} {str : CString} (hdigit : isDigit (str.at 0) = true) :
    strtol long str =
      let digits := str.bytes.takeWhile isDigit
      if long.max < value digits then ⟨long.max, digits.length, true⟩
      else ⟨value digits, digits.length, false⟩ := by
  obtain ⟨hspace, hsign⟩ := not_blank_of_isDigit hdigit
  obtain ⟨bs, hbytes⟩ := str.eq_cons fun hnul => absurd (hnul ▸ hdigit) (by decide)
  have hblanks : str.bytes.takeWhile isSpace = [] := by
    rw [hbytes, List.takeWhile_cons, hspace]
    rfl
  have hdigits : (str.bytes.takeWhile isDigit).isEmpty = false := by
    rw [hbytes, List.takeWhile_cons, hdigit]
    rfl
  unfold strtol
  rw [hblanks]
  dsimp only [List.length_nil]
  rw [if_neg hsign, List.drop_zero, hdigits, if_neg (by decide), if_neg fun heq => hsign (.inl heq),
    Nat.zero_add]

end Liblaser
