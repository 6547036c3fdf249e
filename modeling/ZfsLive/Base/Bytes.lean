/-
Byte strings on a wire: big-endian integers.

A binary protocol writes its fixed-width integers most significant byte first.  This module has
the two directions of that encoding for an arbitrary width, together with the slicing of a record
into its fields.  Nothing here knows about a particular protocol.

* `Bytes.beNat` — the number a byte string denotes;
* `Bytes.beBytes` — the `w`-byte string of a number, reduced modulo `256 ^ w`;
* `Bytes.field` — a field of a fixed-layout record;
* `Bytes.beNat_beBytes` — reading what was written gives the number back.
-/

import Mathlib.Data.Nat.Notation
import Mathlib.Tactic.Ring

set_option relaxedAutoImplicit false
set_option autoImplicit false

namespace Bytes

/-- The number denoted by a byte string, most significant byte first. -/
def beNat (bs : List UInt8) : ℕ := bs.foldl (fun n b => n * 256 + b.toNat) 0

/-- The `w` bytes of `v`, most significant first; what does not fit is dropped. -/
def beBytes : ℕ → ℕ → List UInt8
  | 0, _ => []
  | w + 1, v => UInt8.ofNat (v / 256 ^ w) :: beBytes w v

/-- The number in the `n` bytes that start at byte `o`. -/
def field (o n : ℕ) (bs : List UInt8) : ℕ := beNat ((bs.drop o).take n)

@[simp] theorem beNat_nil : beNat [] = 0 := rfl

@[simp] theorem length_beBytes (w v : ℕ) : (beBytes w v).length = w := by
  induction w with
  | zero => rfl
  | succ w ih => simp [beBytes, ih]

theorem foldl_beNat (bs : List UInt8) (a : ℕ) :
    bs.foldl (fun n b => n * 256 + b.toNat) a = a * 256 ^ bs.length + beNat bs := by
  induction bs generalizing a with
  | nil => simp
  | cons b bs ih =>
      simp only [beNat, List.foldl_cons, List.length_cons]
      rw [ih, ih (0 * 256 + b.toNat)]
      ring

theorem beNat_cons (b : UInt8) (bs : List UInt8) :
    beNat (b :: bs) = b.toNat * 256 ^ bs.length + beNat bs := by
  rw [beNat, List.foldl_cons, foldl_beNat]
  simp

/-- Reading a written number gives it back, modulo the width. -/
theorem beNat_beBytes (w v : ℕ) : beNat (beBytes w v) = v % 256 ^ w := by
  induction w with
  | zero => simp [beBytes, Nat.mod_one]
  | succ w ih =>
      have hb : (UInt8.ofNat (v / 256 ^ w)).toNat = v / 256 ^ w % 256 := by simp
      rw [beBytes, beNat_cons, ih, length_beBytes, hb, pow_succ, Nat.mod_mul]
      ring

/-- A number that fits the width survives the round trip. -/
theorem beNat_beBytes_of_lt {w v : ℕ} (h : v < 256 ^ w) : beNat (beBytes w v) = v := by
  rw [beNat_beBytes, Nat.mod_eq_of_lt h]

/-! ### Fields of a record that was written -/

theorem field_append_left {as bs : List UInt8} {o n : ℕ} (h : o + n ≤ as.length) :
    field o n (as ++ bs) = field o n as := by
  rw [field, field, List.drop_append_of_le_length (by omega), List.take_append_of_le_length]
  rw [List.length_drop]
  omega

theorem field_append_right {as bs : List UInt8} {o n : ℕ} (h : as.length ≤ o) :
    field o n (as ++ bs) = field (o - as.length) n bs := by
  rw [field, field, List.drop_append, List.drop_eq_nil_of_le h, List.nil_append]

@[simp] theorem field_beBytes (w v : ℕ) : field 0 w (beBytes w v) = v % 256 ^ w := by
  rw [field, List.drop_zero, List.take_of_length_le (by rw [length_beBytes]), beNat_beBytes]

end Bytes
