import Mathlib.Algebra.Group.Nat.Defs
import Mathlib.Algebra.Group.Int.Defs

/-!
# `Lib.Bytes` — fixed-width integers as bytes, and buffers written at the front

Byte strings are `List UInt8`. A number is laid out little-endian by `leBytes`, in a given number of
bytes, and read back by `leNat`; the big-endian form is the reverse. The laws are the length of an
encoding and the round trip, which reduces the number to the width.

`overwrite` is what a transfer does to a caller's buffer: the bytes that arrived replace its front,
never reaching past its end, and the rest of it stays. `storeAt` is the same in memory, which has no
end: nothing stops a store that is too long, so that it does not happen can be stated. `cStringAt` is what
memory holds as a string, and **`cStringAt_storeAt`** that a string stored there is read back. `HoldsAt` is
that a byte string is in memory; one laid out in parts is there part by part (`holdsAt_append`).
-/

namespace Bytes

/-! ## Little- and big-endian -/

/-- The low `w` bytes of `n`, least significant first. -/
def leBytes : Nat → Nat → List UInt8
  | 0, _ => []
  | w + 1, n => UInt8.ofNat n :: leBytes w (n / 256)

/-- The number little-endian bytes spell. -/
def leNat : List UInt8 → Nat
  | [] => 0
  | b :: bs => b.toNat + 256 * leNat bs

/-- The low `w` bytes of `n`, most significant first. -/
def beBytes (w n : Nat) : List UInt8 := (leBytes w n).reverse

/-- The number big-endian bytes spell. -/
def beNat (bs : List UInt8) : Nat := leNat bs.reverse

@[simp] theorem length_leBytes (w n : Nat) : (leBytes w n).length = w := by
  induction w generalizing n with
  | zero => rfl
  | succ w ih => simp [leBytes, ih]

/-- **Little-endian round trip**: what is read back is the number, reduced to the width. -/
theorem leNat_leBytes (w n : Nat) : leNat (leBytes w n) = n % 256 ^ w := by
  induction w generalizing n with
  | zero => simp [leBytes, leNat, Nat.mod_one]
  | succ w ih =>
      have hb : (UInt8.ofNat n).toNat = n % 256 := by simp
      rw [leBytes, leNat, ih, hb, Nat.pow_succ, Nat.mul_comm (256 ^ w) 256, Nat.mod_mul]

/-- The round trip of a number that fits its width. -/
theorem leNat_leBytes_of_lt {w n : Nat} (h : n < 256 ^ w) : leNat (leBytes w n) = n := by
  rw [leNat_leBytes, Nat.mod_eq_of_lt h]

@[simp] theorem length_beBytes (w n : Nat) : (beBytes w n).length = w := by simp [beBytes]

/-- **Big-endian round trip** of a number that fits its width. -/
theorem beNat_beBytes_of_lt {w n : Nat} (h : n < 256 ^ w) : beNat (beBytes w n) = n := by
  rw [beNat, beBytes, List.reverse_reverse, leNat_leBytes_of_lt h]

theorem leNat_lt (bs : List UInt8) : leNat bs < 256 ^ bs.length := by
  induction bs with
  | nil => decide
  | cons b bs ih =>
      have hb := b.toNat_lt
      rw [leNat, List.length_cons, Nat.pow_succ]
      omega

theorem beNat_lt (bs : List UInt8) : beNat bs < 256 ^ bs.length := by
  rw [← List.length_reverse]
  exact leNat_lt bs.reverse

/-! ## Buffers -/

/-- Store `new` at the front of `buf`: as much of it as fits, the rest of `buf` unchanged. -/
def overwrite (buf new : List UInt8) : List UInt8 :=
  new.take buf.length ++ buf.drop new.length

@[simp] theorem length_overwrite (buf new : List UInt8) :
    (overwrite buf new).length = buf.length := by
  simp only [overwrite, List.length_append, List.length_take, List.length_drop]
  omega

/-- The front of the buffer is what was stored. -/
theorem getD_overwrite {buf new : List UInt8} {i : Nat} (hnew : i < new.length) (hbuf : i < buf.length)
    (d : UInt8) : (overwrite buf new).getD i d = new.getD i d := by
  have hin : i < (new.take buf.length).length := by
    rw [List.length_take]
    omega
  rw [List.getD_eq_getElem?_getD, overwrite, List.getElem?_append_left hin, List.getElem?_take,
    if_pos hbuf, List.getD_eq_getElem?_getD]

/-! ## Memory -/

/-- Memory with `bs` stored from address `off` on. -/
def storeAt (mem : Nat → UInt8) (off : Nat) (bs : List UInt8) : Nat → UInt8 :=
  fun i => if off ≤ i then bs[i - off]?.getD (mem i) else mem i

/-- A store changes nothing before it, and nothing after it. -/
theorem storeAt_outside {mem : Nat → UInt8} {off i : Nat} {bs : List UInt8}
    (h : i < off ∨ off + bs.length ≤ i) : storeAt mem off bs i = mem i := by
  unfold storeAt
  split
  · rw [List.getElem?_eq_none (by omega), Option.getD_none]
  · rfl

/-- The `n` bytes from address `off` on. -/
def bytesAt (mem : Nat → UInt8) (off n : Nat) : List UInt8 := (List.range n).map fun i => mem (off + i)

@[simp] theorem length_bytesAt (mem : Nat → UInt8) (off n : Nat) : (bytesAt mem off n).length = n := by
  simp [bytesAt]

/-- The string that begins at address 0: the bytes before the first NUL, of the first `n` bytes. -/
def cStringAt (mem : Nat → UInt8) (n : Nat) : List UInt8 := (bytesAt mem 0 n).takeWhile (· != 0)

theorem storeAt_of_getElem? {mem : Nat → UInt8} {off j : Nat} {bs : List UInt8} {b : UInt8}
    (h : bs[j]? = some b) : storeAt mem off bs (off + j) = b := by
  simp [storeAt, h]

/-- **A string stored with its NUL is read back.** -/
theorem cStringAt_storeAt {mem : Nat → UInt8} {bs : List UInt8} {n : Nat} (hnul : 0 ∉ bs)
    (hlen : bs.length < n) : cStringAt (storeAt mem 0 (bs ++ [0])) n = bs := by
  obtain ⟨k, rfl⟩ : ∃ k, n = bs.length + (k + 1) := ⟨n - bs.length - 1, by omega⟩
  have hfront : (List.range bs.length).map (fun i => storeAt mem 0 (bs ++ [0]) (0 + i)) = bs := by
    apply List.ext_getElem
    · simp
    · intro i _ hi
      rw [List.getElem_map, List.getElem_range]
      apply storeAt_of_getElem?
      rw [List.getElem?_append_left hi, List.getElem?_eq_getElem hi]
  have hend : storeAt mem 0 (bs ++ [0]) (0 + bs.length) = 0 := storeAt_of_getElem? (by simp)
  have hne : ∀ b ∈ bs, (b != 0) = true := by
    intro b hb
    rw [bne_iff_ne]
    rintro rfl
    exact hnul hb
  unfold cStringAt bytesAt
  rw [List.range_add, List.map_append, hfront, List.takeWhile_append_of_pos hne, List.map_map,
    List.range_succ_eq_map, List.map_cons]
  show bs ++ List.takeWhile _ (storeAt mem 0 (bs ++ [0]) (0 + bs.length) :: _) = bs
  rw [hend]
  exact List.append_nil bs

/-! ## What memory holds -/

/-- Memory with the bytes at its start, and zeros after them. -/
def bufferOf (bs : List UInt8) : Nat → UInt8 := fun i => bs.getD i 0

/-- The bytes are in memory, from address `off` on. -/
def HoldsAt (mem : Nat → UInt8) (off : Nat) (bs : List UInt8) : Prop := bytesAt mem off bs.length = bs

section Holds

variable {mem : Nat → UInt8} {off : Nat} {as bs : List UInt8} {b : UInt8}

theorem bytesAt_add (mem : Nat → UInt8) (off m n : Nat) :
    bytesAt mem off (m + n) = bytesAt mem off m ++ bytesAt mem (off + m) n := by
  simp [bytesAt, List.range_add, Nat.add_assoc]

@[simp] theorem holdsAt_nil (mem : Nat → UInt8) (off : Nat) : HoldsAt mem off [] := rfl

@[simp] theorem holdsAt_append :
    HoldsAt mem off (as ++ bs) ↔ HoldsAt mem off as ∧ HoldsAt mem (off + as.length) bs := by
  unfold HoldsAt
  rw [List.length_append, bytesAt_add]
  constructor
  · intro h
    exact List.append_inj h (length_bytesAt _ _ _)
  · rintro ⟨has, hbs⟩
    rw [has, hbs]

@[simp] theorem holdsAt_cons : HoldsAt mem off (b :: bs) ↔ mem off = b ∧ HoldsAt mem (off + 1) bs := by
  have hsplit := @holdsAt_append mem off [b] bs
  rw [List.singleton_append, List.length_singleton] at hsplit
  rw [hsplit]
  simp [HoldsAt, bytesAt]

/-- A buffer holds its bytes. -/
theorem holdsAt_bufferOf (bs : List UInt8) : HoldsAt (bufferOf bs) 0 bs := by
  apply List.ext_getElem
  · simp
  · intro i _ hi
    simp [bytesAt, bufferOf, List.getD_eq_getElem?_getD, List.getElem?_eq_getElem hi]

/-- And zeros. -/
theorem bufferOf_of_le {i : Nat} (h : bs.length ≤ i) : bufferOf bs i = 0 := by
  simp [bufferOf, List.getD_eq_getElem?_getD, List.getElem?_eq_none h]

end Holds

end Bytes
