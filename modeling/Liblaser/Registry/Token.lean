import Mathlib.Data.List.TakeWhile
import Liblaser.CString

/-!
# `Registry.Token` — the text of a token

`laser_parse_token()`, by which a consumer gets a token back out of an MRL or a device name. What it rejects
by itself, what `strtol()` stops at and where that saturates come to one grammar, whatever the width of
`long`: **`laserParseToken_iff`**.
-/

namespace Liblaser

open Decimal

/-- `INT_MAX`. -/
def intMax : Nat := 2 ^ 31 - 1

/-- `laser_parse_token()`: what it returns, and `*token` after it, which was `token`; `none` is `NULL`. -/
def laserParseToken (long : LongWidth) (str : Option CString) (token : Int) : Int × Int :=
  match str with
  | none => (0, token)
  | some str =>
    if str.at 0 < 0x30 ∨ 0x39 < str.at 0 then (0, token)
    else
      let r := strtol long str
      if str.at r.stop ≠ 0 ∨ r.erange = true ∨ intMax < r.value then (0, token) else (1, r.value)

/-- The text of a token: one or more digits, and a value that fits in an `int`. -/
structure IsToken (bs : List UInt8) : Prop where
  nonempty : bs ≠ []
  digits : ∀ b ∈ bs, isDigit b = true
  value_le : value bs ≤ intMax

/-- The decimal text of a number. -/
def CString.decimal (n : Nat) : CString where
  bytes := render n
  noNul hmem := absurd (isDigit_of_mem_render hmem) (by decide)

theorem isToken_render {n : Nat} (hn : n ≤ intMax) : IsToken (render n) where
  nonempty := render_ne_nil n
  digits _ hb := isDigit_of_mem_render hb
  value_le := by rwa [value_render]

/-- The check on the first byte keeps out what `strtol()` would have skipped. -/
theorem first_iff {str : CString} :
    (str.at 0 < 0x30 ∨ 0x39 < str.at 0) ↔ ¬ isDigit (str.at 0) = true := by
  unfold isDigit
  rw [Bool.and_eq_true, decide_eq_true_iff, decide_eq_true_iff, Decidable.not_and_iff_or_not,
    UInt8.not_le, UInt8.not_le]

/-- A string is a token's text and is parsed, or it is not and `*token` is left alone. -/
theorem laserParseToken_spec (long : LongWidth) (str : CString) (token : Int) :
    (IsToken str.bytes ∧ laserParseToken long (some str) token = (1, (value str.bytes : Int)))
      ∨ (¬ IsToken str.bytes ∧ laserParseToken long (some str) token = (0, token)) := by
  have hint : intMax ≤ long.max := by cases long <;> decide
  have hend := str.at_takeWhile_eq_zero_iff isDigit
  unfold laserParseToken
  dsimp only
  by_cases hdigit : isDigit (str.at 0) = true
  · obtain ⟨bs, hbytes⟩ := str.eq_cons fun hnul => absurd (hnul ▸ hdigit) (by decide)
    rw [if_neg fun hfirst => first_iff.mp hfirst hdigit, strtol_of_digit hdigit]
    dsimp only
    by_cases hall : ∀ b ∈ str.bytes, isDigit b = true
    · rw [List.takeWhile_eq_self_iff.mpr hall] at hend ⊢
      have hstop := hend.mpr hall
      by_cases hover : long.max < value str.bytes
      · -- past the end of `long`: where that is `int` too, only `errno` tells
        right
        refine ⟨fun htoken => ?_, ?_⟩
        · have hle := htoken.value_le
          omega
        · rw [if_pos hover, if_pos (.inr (.inl rfl))]
      · rw [if_neg hover]
        by_cases hfits : value str.bytes ≤ intMax
        · left
          refine ⟨⟨by simp [hbytes], hall, hfits⟩, if_neg ?_⟩
          rintro (hmore | herange | hbig)
          · exact hmore hstop
          · cases herange
          · have hbig : (intMax : Int) < (value str.bytes : Int) := hbig
            omega
        · right
          refine ⟨fun htoken => hfits htoken.value_le, if_pos (.inr (.inr ?_))⟩
          show (intMax : Int) < (value str.bytes : Int)
          omega
    · right
      refine ⟨fun htoken => hall htoken.digits, ?_⟩
      have hmore := fun hzero => hall (hend.mp hzero)
      split
      · exact if_pos (.inl hmore)
      · exact if_pos (.inl hmore)
  · right
    refine ⟨fun htoken => hdigit ?_, if_pos (first_iff.mpr hdigit)⟩
    obtain ⟨b, bs, hbytes⟩ := List.exists_cons_of_ne_nil htoken.nonempty
    unfold CString.at
    rw [hbytes]
    exact htoken.digits b (by simp [hbytes])

/-- **What a token is.** -/
theorem laserParseToken_iff (long : LongWidth) (token : Int) :
    (∀ str : CString, ((laserParseToken long (some str) token).1 = 1 ↔ IsToken str.bytes)
        ∧ (IsToken str.bytes → laserParseToken long (some str) token = (1, (value str.bytes : Int)))
        ∧ (¬ IsToken str.bytes → laserParseToken long (some str) token = (0, token)))
      ∧ ∀ n ≤ intMax, laserParseToken long (some (.decimal n)) token = (1, (n : Int)) := by
  constructor
  · intro str
    rcases laserParseToken_spec long str token with ⟨htoken, heq⟩ | ⟨hno, heq⟩
    · refine ⟨?_, fun _ => heq, fun hno => absurd htoken hno⟩
      rw [heq]
      exact ⟨fun _ => htoken, fun _ => rfl⟩
    · refine ⟨?_, fun htoken => absurd htoken hno, fun _ => heq⟩
      rw [heq]
      exact ⟨fun hone => (by cases hone), fun htoken => absurd htoken hno⟩
  · intro n hn
    have htoken := isToken_render hn
    rcases laserParseToken_spec long (.decimal n) token with ⟨-, heq⟩ | ⟨hno, -⟩
    · rw [heq]
      show (1, (value (render n) : Int)) = _
      rw [value_render]
    · exact absurd htoken hno

end Liblaser
