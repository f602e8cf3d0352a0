import Mathlib.Algebra.Order.Ring.Nat
import AtomicEscrow.Number.Decimal

set_option autoImplicit false

/-! # The decimal digits of a number

A number is written with digits and nothing else (`isDigit_of_mem_decimalDigits`), has no zero in
front unless it is zero itself (`decimalDigits_eq_cons`), and its digits spell it again
(`decimalValue_decimalDigits`).

The digits are put in front of others from the last one to the first. So every fact is stated for
digits in front of any text, and the induction is on the bound of how many there are.
-/

namespace AtomicEscrow

/-! ## One digit -/

theorem digitNumber_digitChar {n : Nat} (h : n < 10) : digitNumber (digitChar n) = n := by
  have key : ∀ m : Fin 10, digitNumber (digitChar m.val) = m.val := by decide
  exact key ⟨n, h⟩

theorem isDigit_digitChar {n : Nat} (h : n < 10) : isDigit (digitChar n) = true := by
  have key : ∀ m : Fin 10, isDigit (digitChar m.val) = true := by decide
  exact key ⟨n, h⟩

theorem digitChar_ne_zero {n : Nat} (h : n < 10) (hpos : 0 < n) : digitChar n ≠ '0' := by
  have key : ∀ m : Fin 10, 0 < m.val → digitChar m.val ≠ '0' := by decide
  exact key ⟨n, h⟩ hpos

/-! ## Digits in front of a text -/

/-- There are enough places for the digits of a number. -/
theorem lt_ten_pow_log2 (n : Nat) : n < 10 ^ (n.log2 + 1) :=
  calc n < 2 ^ (n.log2 + 1) := Nat.lt_log2_self
    _ ≤ 10 ^ (n.log2 + 1) := Nat.pow_le_pow_left (by decide) _

theorem div_ten_lt {fuel n : Nat} (h : n < 10 ^ (fuel + 1)) : n / 10 < 10 ^ fuel := by
  rw [Nat.pow_succ] at h
  omega

/-- Reading the digits of a number and a text after them is reading that text after the number. -/
theorem digitsValue_digitsBefore {fuel n : Nat} (h : n < 10 ^ fuel) (after : List Char) :
    digitsValue 10 digitNumber 0 (digitsBefore fuel n after) =
      digitsValue 10 digitNumber n after := by
  -- The induction is on the places. The text after the digits is left open, since every digit but
  -- the last is put in front of more of them.
  induction fuel generalizing n after with
  | zero =>
      have hzero : n = 0 := Nat.lt_one_iff.1 h
      rw [hzero]
      rfl
  | succ fuel ih =>
      rw [digitsBefore]
      split
      case isTrue hlast =>
        show digitsValue 10 digitNumber (10 * 0 + digitNumber (digitChar n)) after = _
        rw [digitNumber_digitChar hlast, Nat.mul_zero, Nat.zero_add]
      case isFalse =>
        have hdigit : digitNumber (digitChar (n % 10)) = n % 10 :=
          digitNumber_digitChar (Nat.mod_lt n (by decide))
        have hsum : 10 * (n / 10) + n % 10 = n := Nat.div_add_mod n 10
        rw [ih (div_ten_lt h)]
        show digitsValue 10 digitNumber (10 * (n / 10) + digitNumber (digitChar (n % 10))) after = _
        rw [hdigit, hsum]

theorem isDigit_of_mem_digitsBefore {fuel n : Nat} {after : List Char} {c : Char}
    (h : c ∈ digitsBefore fuel n after) : isDigit c = true ∨ c ∈ after := by
  induction fuel generalizing n after with
  | zero => exact .inr h
  | succ fuel ih =>
      rw [digitsBefore] at h
      split at h
      case isTrue hlast =>
        rcases List.mem_cons.1 h with rfl | hafter
        · exact .inl (isDigit_digitChar hlast)
        · exact .inr hafter
      case isFalse =>
        -- What comes later is a digit of the rest, or it was there already with the last digit in
        -- front.
        rcases ih h with hdigit | hmem
        · exact .inl hdigit
        rcases List.mem_cons.1 hmem with rfl | hafter
        · exact .inl (isDigit_digitChar (Nat.mod_lt n (by decide)))
        · exact .inr hafter

/-- A positive number starts with a digit that is not zero. -/
theorem digitsBefore_eq_cons {fuel n : Nat} (h : n < 10 ^ fuel) (hpos : 0 < n)
    (after : List Char) : ∃ d more, d < 10 ∧ 0 < d ∧
      digitsBefore fuel n after = digitChar d :: more := by
  induction fuel generalizing n after with
  | zero => exact absurd hpos (by rw [Nat.lt_one_iff.1 h]; decide)
  | succ fuel ih =>
      rw [digitsBefore]
      split
      case isTrue hlast => exact ⟨n, after, hlast, hpos, rfl⟩
      case isFalse hmore => exact ih (div_ten_lt h) (by omega) _

theorem length_digitsBefore_le {fuel n places : Nat} (h : n < 10 ^ (places + 1))
    (after : List Char) :
    (digitsBefore fuel n after).length ≤ places + 1 + after.length := by
  induction fuel generalizing n places after with
  | zero => exact Nat.le_add_left ..
  | succ fuel ih =>
      rw [digitsBefore]
      split
      case isTrue => rw [List.length_cons]; omega
      case isFalse hmore =>
        -- A number of two digits at least has two places at least.
        cases places with
        | zero => omega
        | succ places =>
            have hrest := ih (div_ten_lt h) (digitChar (n % 10) :: after)
            rw [List.length_cons] at hrest
            omega

/-! ## The digits of a number -/

theorem decimalValue_decimalDigits (n : Nat) : decimalValue (decimalDigits n) = n :=
  digitsValue_digitsBefore (lt_ten_pow_log2 n) []

theorem isDigit_of_mem_decimalDigits {n : Nat} {c : Char} (h : c ∈ decimalDigits n) :
    isDigit c = true := by
  rcases isDigit_of_mem_digitsBefore h with hdigit | hnil
  · exact hdigit
  · cases hnil

theorem decimalDigits_eq_cons {n : Nat} (hpos : 0 < n) :
    ∃ d more, d < 10 ∧ 0 < d ∧ decimalDigits n = digitChar d :: more :=
  digitsBefore_eq_cons (lt_ten_pow_log2 n) hpos []

theorem decimalDigits_ne_nil (n : Nat) : decimalDigits n ≠ [] := by
  rcases Nat.eq_zero_or_pos n with rfl | hpos
  · decide
  · obtain ⟨d, more, -, -, hcons⟩ := decimalDigits_eq_cons hpos
    rw [hcons]
    exact List.cons_ne_nil _ _

theorem length_decimalDigits_le {n places : Nat} (h : n < 10 ^ (places + 1)) :
    (decimalDigits n).length ≤ places + 1 :=
  length_digitsBefore_le h []

end AtomicEscrow
