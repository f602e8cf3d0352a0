import Mathlib.Algebra.Order.Ring.Nat
import AtomicEscrow.Bytes.Basic

set_option autoImplicit false

/-! # The values of byte strings

A byte string is a number in base 256. Its value is bounded by its length
(`littleEndianValue_lt`), and writing a number and reading it back loses what does not fit in
the width and nothing else (`value_littleEndian`). A word fits in its eight bytes, so it can be
told from them (`littleEndian_word_inj`).
-/

namespace AtomicEscrow

theorem byte_eq_ofNat_iff {b : UInt8} {n : Nat} (hn : n < 256) :
    b = UInt8.ofNat n ↔ b.toNat = n := by
  have hvalue : (UInt8.ofNat n).toNat = n := by
    rw [UInt8.toNat_ofNat']
    omega
  constructor
  · intro h
    rw [h, hvalue]
  · intro h
    apply UInt8.toNat_inj.1
    rw [h, hvalue]

theorem littleEndianValue_lt (bs : Bytes) : littleEndianValue bs < 256 ^ bs.length := by
  induction bs with
  | nil => simp [littleEndianValue]
  | cons b bs ih =>
      have hb : b.toNat < 256 := b.toNat_lt
      simp only [littleEndianValue, List.length_cons, Nat.pow_succ]
      omega

theorem value_littleEndian (width n : Nat) :
    littleEndianValue (littleEndian width n) = n % 256 ^ width := by
  induction width generalizing n with
  | zero => simp [littleEndian, littleEndianValue, Nat.mod_one]
  | succ width ih =>
      have hlow : (UInt8.ofNat (n % 256)).toNat = n % 256 := by
        simp only [UInt8.toNat_ofNat']
        omega
      rw [littleEndian, littleEndianValue, ih, hlow, Nat.pow_succ, Nat.mul_comm (256 ^ width),
        Nat.mod_mul]

theorem littleEndian_word_inj {a b : UInt64} :
    littleEndian 8 a.toNat = littleEndian 8 b.toNat ↔ a = b := by
  constructor
  · intro h
    have hvalue := congrArg littleEndianValue h
    rw [value_littleEndian, value_littleEndian] at hvalue
    have ha := a.toNat_lt
    have hb := b.toNat_lt
    refine UInt64.toNat_inj.1 ?_
    omega
  · rintro rfl
    rfl

end AtomicEscrow
