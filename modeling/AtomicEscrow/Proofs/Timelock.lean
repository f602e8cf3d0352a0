import AtomicEscrow.Terms.Timelock

set_option autoImplicit false

/-! # Nonces in time locks

A nonce is spread over the lock time and the sequences of a transaction by shifts and masks. On
numbers it is a division by 2²⁴: the quotient moves the lock time, the remainder is the low part
of the sequence. Both directions become equations of natural numbers here, and then a lock time
and a sequence carry a nonce iff they are the ones it is spread over (`toNonce_eq_some_iff`). They
carry none iff the lock time comes before the base or the sequence has no tag
(`toNonce_eq_none_iff`), so the split is one to one between all nonces and the pairs they are
spread over (`split_exact`).
-/

namespace AtomicEscrow.NoncedLock

/-! ## Shifts and masks as arithmetic -/

/-- The low 24 bits of a number. -/
theorem and_mask_eq_mod (n : Nat) : n &&& 0x00FFFFFF = n % 0x1000000 :=
  Nat.and_two_pow_sub_one_eq_mod n 24

/-- The high byte of a word, in place. -/
theorem and_high_eq_div_mul {n : Nat} (h : n < 0x100000000) :
    n &&& 0xFF000000 = n / 0x1000000 * 0x1000000 := by
  -- Bit by bit: the mask keeps the places from 24 on, and so do the division and the product.
  refine Nat.eq_of_testBit_eq fun i => ?_
  have hmask : (0xFF000000 : Nat) = (2 ^ 8 - 1) * 2 ^ 24 := rfl
  have hbase : (0x1000000 : Nat) = 2 ^ 24 := rfl
  rw [hmask, hbase, Nat.testBit_and, Nat.testBit_mul_two_pow, Nat.testBit_mul_two_pow,
    Nat.testBit_two_pow_sub_one, Nat.testBit_div_two_pow]
  by_cases hlow : 24 ≤ i
  · -- Above the high byte a word has no bits.
    by_cases hhigh : i < 32
    · have hin : i - 24 < 8 := by omega
      simp [hlow, hin, Nat.sub_add_cancel hlow]
    · have hzero : n.testBit i = false := Nat.testBit_lt_two_pow
        (Nat.lt_of_lt_of_le h (Nat.pow_le_pow_right (n := 2) (by decide) (by omega : 32 ≤ i)))
      simp [hlow, hzero, Nat.sub_add_cancel hlow]
  · simp [hlow]

/-- Bits above and bits below do not meet, so they add up. -/
theorem mul_or_eq_add {low : Nat} (h : low < 0x1000000) (high : Nat) :
    high * 0x1000000 ||| low = high * 0x1000000 + low := by
  have hsum := Nat.two_pow_add_eq_or_of_lt (i := 24) h high
  rw [Nat.mul_comm] at hsum
  exact hsum.symm

/-! ## The two time locks -/

/-- No nonce is so large that its lock time overflows. -/
theorem toNat_locktime_ofNonce (nonce : UInt64) :
    (ofNonce nonce).locktime.toNat = nonce.toNat / 0x1000000 + locktimeBase := by
  have hlt : nonce.toNat < 0x10000000000000000 := nonce.toNat_lt
  show ((nonce >>> 24) + UInt64.ofNat locktimeBase).toNat = _
  rw [UInt64.toNat_add, UInt64.toNat_shiftRight, Nat.shiftRight_eq_div_pow]
  show (nonce.toNat / 0x1000000 + 500000000) % 0x10000000000000000 = _ + 500000000
  omega

theorem toNat_sequence_ofNonce (nonce : UInt64) :
    (ofNonce nonce).sequence.toNat = 0xF0 * 0x1000000 + nonce.toNat % 0x1000000 := by
  show (sequenceTag ||| (nonce.toUInt32 &&& sequenceMask)).toNat = _
  rw [UInt32.toNat_or, UInt32.toNat_and, UInt64.toNat_toUInt32]
  show 0xF0 * 0x1000000 ||| (nonce.toNat % 0x100000000 &&& 0x00FFFFFF) = _
  rw [and_mask_eq_mod, mul_or_eq_add (Nat.mod_lt _ (by decide))]
  omega

theorem tagged_iff {sequence : UInt32} :
    sequence &&& ~~~sequenceMask = sequenceTag ↔ sequence.toNat / 0x1000000 = 0xF0 := by
  have hlt : sequence.toNat < 0x100000000 := sequence.toNat_lt
  rw [← UInt32.toNat_inj, UInt32.toNat_and]
  show sequence.toNat &&& 0xFF000000 = 0xF0000000 ↔ _
  rw [and_high_eq_div_mul hlt]
  omega

/-- The nonce that two time locks carry, as a number. -/
theorem toNat_joined {locktime : UInt32} (hbase : locktimeBase ≤ locktime.toNat)
    (sequence : UInt32) :
    ((locktime.toUInt64 - UInt64.ofNat locktimeBase) <<< 24 |||
        (sequence &&& sequenceMask).toUInt64).toNat =
      (locktime.toNat - locktimeBase) * 0x1000000 + sequence.toNat % 0x1000000 := by
  have hlt : locktime.toNat < 0x100000000 := locktime.toNat_lt
  have hle : UInt64.ofNat locktimeBase ≤ locktime.toUInt64 :=
    UInt64.le_iff_toNat_le.2 (by rw [UInt32.toNat_toUInt64]; exact hbase)
  rw [UInt64.toNat_or, UInt64.toNat_shiftLeft, UInt64.toNat_sub_of_le _ _ hle,
    UInt32.toNat_toUInt64, UInt32.toNat_toUInt64, UInt32.toNat_and]
  show (locktime.toNat - 500000000) <<< 24 % 0x10000000000000000 |||
    (sequence.toNat &&& 0x00FFFFFF) = _
  -- Shifted by 24 a locktime still fits into the word, so the shift drops no bit.
  have hfits : (locktime.toNat - 500000000) * 0x1000000 < 0x10000000000000000 := by omega
  rw [Nat.shiftLeft_eq, and_mask_eq_mod]
  show (locktime.toNat - 500000000) * 0x1000000 % 0x10000000000000000 ||| _ = _
  rw [Nat.mod_eq_of_lt hfits, mul_or_eq_add (Nat.mod_lt _ (by decide))]
  rfl

theorem ofNonce_eq_iff {nonce locktime : UInt64} {sequence : UInt32} :
    ofNonce nonce = ⟨locktime, sequence⟩ ↔
      nonce.toNat / 0x1000000 + locktimeBase = locktime.toNat ∧
        0xF0 * 0x1000000 + nonce.toNat % 0x1000000 = sequence.toNat := by
  rw [← toNat_locktime_ofNonce, ← toNat_sequence_ofNonce, UInt64.toNat_inj, UInt32.toNat_inj]
  constructor
  · intro h
    rw [h]
    exact ⟨rfl, rfl⟩
  · rintro ⟨rfl, rfl⟩
    rfl

/-- **A lock time and a sequence carry a nonce iff the nonce is spread over them.** -/
theorem toNonce_eq_some_iff {locktime sequence : UInt32} {nonce : UInt64} :
    toNonce locktime sequence = some nonce ↔ ofNonce nonce = ⟨locktime.toUInt64, sequence⟩ := by
  rw [ofNonce_eq_iff, UInt32.toNat_toUInt64]
  unfold toNonce
  by_cases hbase : locktime.toNat < locktimeBase
  · -- A lock time below the base is too early for every nonce.
    rw [if_pos hbase]
    constructor
    · intro h
      cases h
    · rintro ⟨hlocktime, -⟩
      omega
  · rw [if_neg hbase]
    -- The sequence is tagged as every sequence of a nonce is, or no nonce carries it.
    by_cases htag : sequence &&& ~~~sequenceMask = sequenceTag
    · have hhigh := tagged_iff.1 htag
      rw [if_neg (fun hne => hne htag), Option.some.injEq, ← UInt64.toNat_inj,
        toNat_joined (Nat.not_lt.1 hbase)]
      omega
    · have hhigh := mt tagged_iff.2 htag
      rw [if_pos htag]
      constructor
      · intro h
        cases h
      · rintro ⟨-, hsequence⟩
        omega

/-- **A lock time and a sequence carry no nonce iff the lock time is early or the tag is
missing.** -/
theorem toNonce_eq_none_iff {locktime sequence : UInt32} :
    toNonce locktime sequence = none ↔
      locktime.toNat < locktimeBase ∨ sequence.toNat / 0x1000000 ≠ 0xF0 := by
  rw [Ne, ← tagged_iff]
  unfold toNonce
  by_cases hbase : locktime.toNat < locktimeBase
  · simp [hbase]
  · by_cases htag : sequence &&& ~~~sequenceMask = sequenceTag <;> simp [hbase, htag]

theorem ofNonce_inj {nonce other : UInt64} : ofNonce nonce = ofNonce other ↔ nonce = other := by
  constructor
  · intro h
    have hquotient := congrArg (fun lock => lock.locktime.toNat) h
    have hremainder := congrArg (fun lock => lock.sequence.toNat) h
    simp only [toNat_locktime_ofNonce, toNat_sequence_ofNonce] at hquotient hremainder
    apply UInt64.toNat_inj.1
    omega
  · rintro rfl
    rfl

/-! ## The split -/

theorem shiftRight_eq_iff {sequence byte : UInt32} :
    sequence >>> 24 = byte ↔ sequence.toNat / 0x1000000 = byte.toNat := by
  rw [← UInt32.toNat_inj, UInt32.toNat_shiftRight, Nat.shiftRight_eq_div_pow]
  rfl

/-- **Splitting a nonce is one to one.** A lock time and a sequence carry a nonce iff they are the
ones it is spread over. The split of a nonce is exact: the sum that gives its lock time stays in a
word, the sequence is the tag above the low bits, and no two nonces share them. What carries no
nonce are the lock times below 500000000 and the sequences with another high byte than 0xF0. -/
theorem split_exact (locktime sequence : UInt32) (nonce other : UInt64) :
    (toNonce locktime sequence = some nonce ↔ ofNonce nonce = ⟨locktime.toUInt64, sequence⟩) ∧
      ((nonce >>> 24).toNat + 500000000 < UInt64.size ∧
        (ofNonce nonce).locktime.toNat = nonce.toNat / 0x1000000 + 500000000 ∧
        (ofNonce nonce).sequence.toNat = 0xF0 * 0x1000000 + nonce.toNat % 0x1000000) ∧
      (ofNonce nonce = ofNonce other ↔ nonce = other) ∧
      (toNonce locktime sequence = none ↔
        locktime.toNat < 500000000 ∨ sequence >>> 24 ≠ 0xF0) := by
  have hlocktime := toNat_locktime_ofNonce nonce
  refine ⟨toNonce_eq_some_iff, ⟨?fits, hlocktime, toNat_sequence_ofNonce nonce⟩, ofNonce_inj,
    ?none⟩
  case fits =>
    -- A sum that wrapped around would not be its own quotient plus the base.
    calc (nonce >>> 24).toNat + 500000000
        = nonce.toNat / 0x1000000 + 500000000 := by
          rw [UInt64.toNat_shiftRight, Nat.shiftRight_eq_div_pow]
          rfl
      _ = (ofNonce nonce).locktime.toNat := hlocktime.symm
      _ < UInt64.size := (ofNonce nonce).locktime.toNat_lt
  case none =>
    rw [Ne, shiftRight_eq_iff]
    exact toNonce_eq_none_iff

/-- The tag and the base are each needed. -/
example :
    toNonce 500001234 0xF0ABCDEF = some 0x4D2ABCDEF ∧
      toNonce 499999999 0xF0ABCDEF = none ∧ toNonce 500001234 0xE0ABCDEF = none := by
  decide

end AtomicEscrow.NoncedLock
