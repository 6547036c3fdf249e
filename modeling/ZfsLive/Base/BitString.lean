/-
Bit strings kept in bytes, the first bit of a byte in its most significant position.

* `BitString.zeros`, `BitString.mark`, `BitString.test` — a string of zero bytes, setting a bit and
  reading one;
* `BitString.test_mark`, `BitString.test_foldl_mark` — marking sets the marked bits and no other;
* `BitString.encode64`, `BitString.decode64` — the base64 text of a byte string and its reading, with
  `BitString.decode64_encode64`.
-/

import Mathlib.Data.List.GetD
import Mathlib.Data.Nat.Notation
import Mathlib.Tactic.Common

set_option relaxedAutoImplicit false
set_option autoImplicit false

namespace BitString

/-! ### Bits -/

/-- `n` zero bytes. -/
def zeros (n : ℕ) : List UInt8 := List.replicate n 0

/-- The byte with only bit `i` set, counted from the most significant one. -/
def mask (i : ℕ) : UInt8 := 0x80 >>> UInt8.ofNat i

/-- Set bit `b`. -/
def mark (bits : List UInt8) (b : ℕ) : List UInt8 := bits.modify (b / 8) (· ||| mask (b % 8))

/-- Bit `b`; there are no set bits past the end. -/
def test (bits : List UInt8) (b : ℕ) : Bool := bits.getD (b / 8) 0 &&& mask (b % 8) != 0

@[simp] theorem length_zeros (n : ℕ) : (zeros n).length = n := List.length_replicate

@[simp] theorem length_mark (bits : List UInt8) (b : ℕ) : (mark bits b).length = bits.length :=
  List.length_modify ..

@[simp] theorem test_zeros (n b : ℕ) : test (zeros n) b = false := by
  have hzero : (zeros n).getD (b / 8) 0 = 0 := by
    rw [List.getD_eq_getElem?_getD, zeros, List.getElem?_replicate]
    split <;> rfl
  rw [test, hzero, UInt8.zero_and]
  rfl

theorem mask_and_mask : ∀ i < 8, ∀ j < 8, (mask i &&& mask j != 0) = decide (i = j) := by
  decide

theorem UInt8.or_bne_zero (x y : UInt8) : (x ||| y != 0) = ((x != 0) || (y != 0)) := by
  rw [Bool.eq_iff_iff]
  simp only [bne_iff_ne, ne_eq, Bool.or_eq_true, UInt8.or_eq_zero_iff]
  tauto

theorem UInt8.or_and_distrib (x y z : UInt8) : (x ||| y) &&& z = (x &&& z) ||| (y &&& z) := by
  rw [← UInt8.toBitVec_inj]
  simp only [UInt8.toBitVec_and, UInt8.toBitVec_or]
  ext i hi
  simp only [BitVec.getElem_and, BitVec.getElem_or, Bool.and_or_distrib_right]

/-- **Marking a bit sets that bit and no other.** -/
theorem test_mark {bits : List UInt8} {b : ℕ} (hb : b < 8 * bits.length) (c : ℕ) :
    test (mark bits b) c = (test bits c || decide (c = b)) := by
  have hlt : b / 8 < bits.length := by omega
  by_cases hbyte : b / 8 = c / 8
  · have hget : (mark bits b).getD (c / 8) 0 = bits.getD (c / 8) 0 ||| mask (b % 8) := by
      rw [mark, ← hbyte, List.getD_eq_getElem?_getD, List.getD_eq_getElem?_getD,
        List.getElem?_modify, List.getElem?_eq_getElem hlt]
      simp
    have hbit : (mask (b % 8) &&& mask (c % 8) != 0) = decide (c = b) := by
      rw [mask_and_mask _ (by omega) _ (by omega)]
      exact decide_eq_decide.2 (by omega)
    rw [test, hget, UInt8.or_and_distrib, UInt8.or_bne_zero, hbit]
    rfl
  · have hget : (mark bits b).getD (c / 8) 0 = bits.getD (c / 8) 0 := by
      rw [mark, List.getD_eq_getElem?_getD, List.getD_eq_getElem?_getD, List.getElem?_modify]
      simp [hbyte]
    have hne : c ≠ b := fun h => hbyte (by rw [h])
    rw [test, hget, decide_eq_false hne, Bool.or_false]
    rfl

theorem length_foldl_mark (bs : List ℕ) (bits : List UInt8) :
    (bs.foldl mark bits).length = bits.length := by
  induction bs generalizing bits with
  | nil => rfl
  | cons b bs ih => rw [List.foldl_cons, ih, length_mark]

/-- Marking several bits. -/
theorem test_foldl_mark {bs : List ℕ} {bits : List UInt8} (h : ∀ b ∈ bs, b < 8 * bits.length)
    (c : ℕ) : test (bs.foldl mark bits) c = (test bits c || decide (c ∈ bs)) := by
  induction bs generalizing bits with
  | nil => simp
  | cons b bs ih =>
      have hb : b < 8 * bits.length := h b (List.mem_cons_self ..)
      rw [List.foldl_cons, ih fun a ha => by rw [length_mark]; exact h a (List.mem_cons_of_mem _ ha),
        test_mark hb, Bool.or_assoc]
      congr 1
      simp only [List.mem_cons, Bool.decide_or]

/-! ### Base64 -/

/-- The base64 alphabet. -/
def alphabet : List Char :=
  "ABCDEFGHIJKLMNOPQRSTUVWXYZabcdefghijklmnopqrstuvwxyz0123456789+/".toList

/-- The character of a six-bit group. -/
def letter (n : ℕ) : Char := alphabet.getD n 'A'

/-- The six-bit group of a character. -/
def sextet (c : Char) : ℕ := alphabet.idxOf c

/-- The base64 text of a byte string, padded to a multiple of four characters. -/
def encode64 : List UInt8 → List Char
  | [] => []
  | [a] => [letter (a.toNat / 4), letter (a.toNat % 4 * 16), '=', '=']
  | [a, b] => [letter (a.toNat / 4), letter (a.toNat % 4 * 16 + b.toNat / 16),
      letter (b.toNat % 16 * 4), '=']
  | a :: b :: c :: rest => letter (a.toNat / 4) :: letter (a.toNat % 4 * 16 + b.toNat / 16) ::
      letter (b.toNat % 16 * 4 + c.toNat / 64) :: letter (c.toNat % 64) :: encode64 rest

/-- The byte string of a padded base64 text. -/
def decode64 : List Char → List UInt8
  | w :: x :: y :: z :: rest =>
      let a := UInt8.ofNat (sextet w * 4 + sextet x / 16)
      let b := UInt8.ofNat (sextet x % 16 * 16 + sextet y / 4)
      let c := UInt8.ofNat (sextet y % 4 * 64 + sextet z)
      if y = '=' then [a] else if z = '=' then [a, b] else a :: b :: c :: decode64 rest
  | _ => []

theorem sextet_letter : ∀ n < 64, sextet (letter n) = n := by decide +kernel

theorem letter_ne_pad : ∀ n < 64, letter n ≠ '=' := by decide +kernel

theorem ofNat_eq_of_toNat {n : ℕ} {a : UInt8} (h : n = a.toNat) : UInt8.ofNat n = a := by
  rw [h, UInt8.ofNat_toNat]

/-- **Decoding a base64 text gives the bytes back.** -/
theorem decode64_encode64 (bs : List UInt8) : decode64 (encode64 bs) = bs := by
  induction bs using encode64.induct with
  | case1 => rfl
  | case2 a =>
      have ha := a.toNat_lt
      simp only [encode64, decode64, if_true]
      rw [sextet_letter _ (by omega), sextet_letter _ (by omega),
        ofNat_eq_of_toNat (a := a) (by omega)]
  | case3 a b =>
      have ha := a.toNat_lt
      have hb := b.toNat_lt
      simp only [encode64, decode64, if_true, if_neg (letter_ne_pad (b.toNat % 16 * 4) (by omega))]
      rw [sextet_letter _ (by omega), sextet_letter _ (by omega), sextet_letter _ (by omega),
        ofNat_eq_of_toNat (a := a) (by omega), ofNat_eq_of_toNat (a := b) (by omega)]
  | case4 a b c rest ih =>
      have ha := a.toNat_lt
      have hb := b.toNat_lt
      have hc := c.toNat_lt
      simp only [encode64, decode64, ih,
        if_neg (letter_ne_pad (b.toNat % 16 * 4 + c.toNat / 64) (by omega)),
        if_neg (letter_ne_pad (c.toNat % 64) (by omega))]
      rw [sextet_letter _ (by omega), sextet_letter _ (by omega), sextet_letter _ (by omega),
        sextet_letter _ (by omega), ofNat_eq_of_toNat (a := a) (by omega),
        ofNat_eq_of_toNat (a := b) (by omega), ofNat_eq_of_toNat (a := c) (by omega)]

end BitString
