set_option autoImplicit false

/-! # Amounts

Balances and volumes are 64-bit words. They are added in one of two ways: a balance refuses a
sum that does not fit (`add?`), a volume or a report stays at the largest word (`addCapped`).
Both are described by the exact sum of natural numbers.
-/

namespace AtomicEscrow.Amount

/-- The sum, if it fits in 64 bits. -/
def add? (a b : UInt64) : Option UInt64 :=
  if a.toNat + b.toNat < UInt64.size then some (a + b) else none

/-- The sum, or the largest word if it does not fit in 64 bits. -/
def addCapped (a b : UInt64) : UInt64 := (add? a b).getD (UInt64.ofNat (UInt64.size - 1))

theorem add?_eq_some_iff {a b c : UInt64} : add? a b = some c ↔ a.toNat + b.toNat = c.toNat := by
  unfold add?
  constructor
  · intro h
    split at h
    case isTrue hlt =>
      cases h
      rw [UInt64.toNat_add, Nat.mod_eq_of_lt hlt]
    case isFalse => cases h
  · intro h
    have hc : c.toNat < UInt64.size := c.toNat_lt_size
    have hlt : a.toNat + b.toNat < UInt64.size := by omega
    rw [if_pos hlt]
    congr 1
    rw [← UInt64.toNat_inj, UInt64.toNat_add, Nat.mod_eq_of_lt hlt, h]

/-- What is taken and what is left add up. -/
theorem toNat_sub_add {a b : UInt64} (h : b ≤ a) : (a - b).toNat + b.toNat = a.toNat := by
  rw [UInt64.toNat_sub_of_le _ _ h]
  exact Nat.sub_add_cancel (UInt64.le_iff_toNat_le.1 h)

theorem add?_eq_none_iff {a b : UInt64} : add? a b = none ↔ UInt64.size ≤ a.toNat + b.toNat := by
  unfold add?
  split <;> simp <;> omega

theorem toNat_addCapped (a b : UInt64) :
    (addCapped a b).toNat = min (a.toNat + b.toNat) (UInt64.size - 1) := by
  unfold addCapped
  cases h : add? a b with
  | none =>
      have := add?_eq_none_iff.1 h
      simp only [Option.getD_none, UInt64.toNat_ofNat', UInt64.size] at this ⊢
      omega
  | some c =>
      have := add?_eq_some_iff.1 h
      have hc : c.toNat < UInt64.size := c.toNat_lt_size
      simp only [Option.getD_some]
      omega

end AtomicEscrow.Amount
