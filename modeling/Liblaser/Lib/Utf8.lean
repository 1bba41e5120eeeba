/-!
# `Lib.Utf8` — UTF-8 byte strings, cut between characters

`IsUtf8` says that bytes are an encoded string. A string may be cut exactly where the next byte is no
continuation byte, whatever it holds (`IsUtf8.take_iff`); `cutLeft` moves a cut left to such a place, and
**`IsUtf8.longestWhole`** is that it loses no character that would have fitted.
-/

namespace Utf8

/-- The bytes of a string. -/
def IsUtf8 (bs : List UInt8) : Prop := bs.toByteArray.IsValidUTF8

/-- A byte that goes on with a character: 10xxxxxx. -/
def isContinuation (b : UInt8) : Bool := b &&& 0xC0 == 0x80

/-- The bytes of a string are the encodings of its characters, one after the other. -/
theorem isUtf8_iff {bs : List UInt8} :
    IsUtf8 bs ↔ ∃ cs : List Char, bs = cs.flatMap String.utf8EncodeChar := by
  constructor
  · rintro ⟨cs, hcs⟩
    have hdata := congrArg (fun b : ByteArray => b.data.toList) hcs
    refine ⟨cs, ?_⟩
    simpa [List.utf8Encode] using hdata
  · rintro ⟨cs, rfl⟩
    exact ⟨cs, rfl⟩

theorem IsUtf8.nil : IsUtf8 [] := isUtf8_iff.mpr ⟨[], rfl⟩

theorem isContinuation_low (b : UInt8) : isContinuation (b &&& 0x3f ||| 0x80) = true := by
  have h : (b &&& 0x3f ||| 0x80) &&& 0xC0 = 0x80 := by
    apply UInt8.toBitVec_inj.mp
    simp only [UInt8.toBitVec_and, UInt8.toBitVec_or]
    rw [BitVec.and_or_distrib_right, BitVec.and_assoc]
    simp
  unfold isContinuation
  rw [h]
  rfl

/-- Every byte of a character after its first is a continuation byte. -/
theorem isContinuation_of_mem_tail {c : Char} {b : UInt8} (hb : b ∈ (String.utf8EncodeChar c).tail) :
    isContinuation b = true := by
  rcases c.utf8Size_eq with h | h | h | h
  · rw [String.utf8EncodeChar_eq_singleton h] at hb
    cases hb
  · rw [String.utf8EncodeChar_eq_cons_cons h] at hb
    simp only [List.tail_cons, List.mem_singleton] at hb
    rw [hb]
    exact isContinuation_low _
  · rw [String.utf8EncodeChar_eq_cons_cons_cons h] at hb
    simp only [List.tail_cons, List.mem_cons, List.not_mem_nil, or_false] at hb
    rcases hb with rfl | rfl <;> exact isContinuation_low _
  · rw [String.utf8EncodeChar_eq_cons_cons_cons_cons h] at hb
    simp only [List.tail_cons, List.mem_cons, List.not_mem_nil, or_false] at hb
    rcases hb with rfl | rfl | rfl <;> exact isContinuation_low _

/-- **Where a string may be cut**: at its end, or before a byte that goes on with no character. -/
theorem IsUtf8.take {bs : List UInt8} {n : Nat} (h : IsUtf8 bs)
    (hn : ∀ b, bs[n]? = some b → isContinuation b = false) : IsUtf8 (bs.take n) := by
  obtain ⟨cs, rfl⟩ := isUtf8_iff.mp h
  clear h
  induction cs generalizing n with
  | nil =>
      rw [List.flatMap_nil, List.take_nil]
      exact .nil
  | cons c cs ih =>
      rw [List.flatMap_cons] at hn ⊢
      rcases Nat.lt_or_ge n (String.utf8EncodeChar c).length with hlt | hge
      · -- inside the first character only its start is no continuation
        match n with
        | 0 =>
            rw [List.take_zero]
            exact .nil
        | n + 1 =>
            have hlt' : n < (String.utf8EncodeChar c).tail.length := by
              rw [List.length_tail]
              omega
            have hcont := isContinuation_of_mem_tail (List.getElem_mem hlt')
            have hfalse := hn ((String.utf8EncodeChar c).tail[n]) (by
              rw [List.getElem?_append_left hlt, List.getElem?_eq_getElem hlt, List.getElem_tail])
            rw [hcont] at hfalse
            cases hfalse
      · rw [List.getElem?_append_right hge] at hn
        obtain ⟨cs', hcs'⟩ := isUtf8_iff.mp (ih hn)
        refine isUtf8_iff.mpr ⟨c :: cs', ?_⟩
        rw [List.take_append, List.take_of_length_le hge, hcs', List.flatMap_cons]

/-- The place to cut at, from `n` on leftwards: before no continuation byte, or at the front. -/
def cutLeft (bs : List UInt8) : Nat → Nat
  | 0 => 0
  | n + 1 => if isContinuation (bs.getD (n + 1) 0) then cutLeft bs n else n + 1

theorem cutLeft_le (bs : List UInt8) (n : Nat) : cutLeft bs n ≤ n := by
  induction n with
  | zero => exact Nat.le_refl 0
  | succ n ih =>
      unfold cutLeft
      split
      · exact Nat.le_succ_of_le ih
      · exact Nat.le_refl _

/-- **A cut string is a string.** -/
theorem IsUtf8.take_cutLeft {bs : List UInt8} (h : IsUtf8 bs) (n : Nat) : IsUtf8 (bs.take (cutLeft bs n)) := by
  induction n with
  | zero =>
      show IsUtf8 (bs.take 0)
      rw [List.take_zero]
      exact .nil
  | succ n ih =>
      unfold cutLeft
      split
      next => exact ih
      next hcont =>
        apply h.take
        intro b hb
        rw [List.getD_eq_getElem?_getD, hb] at hcont
        exact Bool.eq_false_iff.mpr hcont

/-! ## What a cut loses -/

/-- A character's first byte does not go on with another. -/
theorem not_isContinuation_of_first {b : UInt8} (hb : b.IsUTF8FirstByte) : isContinuation b = false := by
  rw [Bool.eq_false_iff]
  intro hcont
  have hcont : b &&& 0xC0 = 0x80 := beq_iff_eq.mp hcont
  -- each form of a first byte asks for a bit of these two that is not as in a continuation byte
  have hbits : ∀ mask : UInt8, b &&& mask &&& 0xC0 = mask &&& 0x80 := by
    intro mask
    rw [UInt8.and_assoc, UInt8.and_comm mask, ← UInt8.and_assoc, hcont, UInt8.and_comm]
  rcases hb with h | h | h | h
  · have hmask := hbits 0x80
    rw [h] at hmask
    exact absurd hmask (by decide)
  · have hmask := hbits 0xe0
    rw [h] at hmask
    exact absurd hmask (by decide)
  · have hmask := hbits 0xf0
    rw [h] at hmask
    exact absurd hmask (by decide)
  · have hmask := hbits 0xf8
    rw [h] at hmask
    exact absurd hmask (by decide)

theorem IsUtf8.head {b : UInt8} {bs : List UInt8} (h : IsUtf8 (b :: bs)) : isContinuation b = false := by
  have hfirst := ByteArray.IsValidUTF8.isUTF8FirstByte_getElem_zero h (by simp)
  rw [List.getElem_toByteArray] at hfirst
  exact not_isContinuation_of_first hfirst

/-- Behind some of its characters a string goes on as a string. -/
theorem IsUtf8.of_append {p rest : List UInt8} (hp : IsUtf8 p) (h : IsUtf8 (p ++ rest)) : IsUtf8 rest := by
  obtain ⟨cs, rfl⟩ := isUtf8_iff.mp hp
  clear hp
  induction cs with
  | nil => exact h
  | cons c cs ih =>
      apply ih
      rw [List.flatMap_cons, List.append_assoc] at h
      apply (ByteArray.isValidUTF8_utf8Encode_singleton_append_iff (c := c)).mp
      rw [List.utf8Encode_singleton, ← List.toByteArray_append]
      exact h

/-- **Where a string may be cut**, and nowhere else. -/
theorem IsUtf8.take_iff {bs : List UInt8} {n : Nat} (h : IsUtf8 bs) :
    IsUtf8 (bs.take n) ↔ ∀ b, bs[n]? = some b → isContinuation b = false := by
  constructor
  · intro hfront b hb
    obtain ⟨hlt, rfl⟩ := List.getElem?_eq_some_iff.mp hb
    have hrest : IsUtf8 (bs.drop n) := hfront.of_append (by rwa [List.take_append_drop])
    rw [List.drop_eq_getElem_cons hlt] at hrest
    exact hrest.head
  · exact h.take

/-- The cut stops at the first place it comes to. -/
theorem le_cutLeft {bs : List UInt8} {m n : Nat} (hle : m ≤ n)
    (hm : ∀ b, bs[m]? = some b → isContinuation b = false) : m ≤ cutLeft bs n := by
  induction n with
  | zero => exact hle
  | succ n ih =>
      unfold cutLeft
      split
      next hcont =>
        rcases Nat.le_succ_iff.mp hle with hle | rfl
        · exact ih hle
        · -- behind the end there is no byte to go on with
          rw [List.getD_eq_getElem?_getD] at hcont
          cases hb : bs[n + 1]? with
          | none =>
              rw [hb] at hcont
              exact absurd hcont (by decide)
          | some b =>
              rw [hb, Option.getD_some, hm b hb] at hcont
              cases hcont
      next => exact hle

/-- `p` is some of the characters of a string, from its first on. -/
def Whole (bs p : List UInt8) : Prop := ∃ rest, bs = p ++ rest ∧ IsUtf8 p ∧ IsUtf8 rest

/-- Of a string, that is what begins it and is a string. -/
theorem IsUtf8.whole_iff {bs p : List UInt8} (h : IsUtf8 bs) : Whole bs p ↔ p <+: bs ∧ IsUtf8 p := by
  constructor
  · rintro ⟨rest, rfl, hp, -⟩
    exact ⟨List.prefix_append p rest, hp⟩
  · rintro ⟨⟨rest, rfl⟩, hp⟩
    exact ⟨rest, rfl, hp, hp.of_append h⟩

/-- As many of the characters of a string, from its first on, as `max` bytes hold. -/
structure LongestWhole (max : Nat) (bs p : List UInt8) : Prop where
  whole : Whole bs p
  length_le : p.length ≤ max
  longest : ∀ q, Whole bs q → q.length ≤ max → q <+: p

/-- **A cut keeps all the characters that fit.** -/
theorem IsUtf8.longestWhole {bs : List UInt8} (h : IsUtf8 bs) (n : Nat) :
    LongestWhole n bs (bs.take (cutLeft bs n)) where
  whole := h.whole_iff.mpr ⟨List.take_prefix _ _, h.take_cutLeft n⟩
  length_le := Nat.le_trans (List.length_take_le _ _) (cutLeft_le bs n)
  longest q hq hlen := by
    obtain ⟨hfront, hutf8⟩ := h.whole_iff.mp hq
    rw [List.prefix_iff_eq_take.mp hfront] at hutf8 ⊢
    exact List.take_prefix_take_left (le_cutLeft hlen (h.take_iff.mp hutf8))

/-- A string that fits is kept. -/
theorem IsUtf8.longestWhole_self {bs : List UInt8} {n : Nat} (h : IsUtf8 bs) (hlen : bs.length ≤ n) :
    LongestWhole n bs bs where
  whole := h.whole_iff.mpr ⟨List.prefix_rfl, h⟩
  length_le := hlen
  longest _ hq _ := (h.whole_iff.mp hq).1

end Utf8
