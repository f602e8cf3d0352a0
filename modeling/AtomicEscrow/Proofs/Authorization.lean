import AtomicEscrow.Proofs.Consent
import AtomicEscrow.Proofs.Settleable

set_option autoImplicit false

/-! # When a refund is allowed

A refund has two ways in. The consent of the claimer is good strictly before it runs out; an
expiry that is a time is good strictly after it; one that is a height is good from the block of
that height on, by the word of the relay. Which of the last two an expiry is depends on a threshold
that the configuration may set to anything. The cap on it keeps every height within 32 bits, so
the height that the relay speaks of and the expiry are one number and not only equal in their low
bits (`Expiry.ofRaw_eq_blockHeight_iff`). With that, what is allowed is told without the checker
(`Escrow.authorizeRefund_exact`).
-/

namespace AtomicEscrow

/-! ## Heights and times as numbers -/

namespace Expiry

variable {expiry threshold : UInt64}

theorem toNat_min_expiryThreshold (threshold : UInt64) :
    (min threshold expiryThreshold).toNat = min threshold.toNat 1000000000 := by
  have hcap : expiryThreshold.toNat = 1000000000 := rfl
  show (if threshold ≤ expiryThreshold then threshold else expiryThreshold).toNat = _
  by_cases hle : threshold ≤ expiryThreshold
  · have hnat := UInt64.le_iff_toNat_le.1 hle
    rw [if_pos hle]
    omega
  · have hnat := UInt64.lt_iff_toNat_lt.1 (UInt64.not_le.1 hle)
    rw [if_neg hle]
    omega

theorem lt_min_expiryThreshold_iff :
    expiry < min threshold expiryThreshold ↔ expiry.toNat < min threshold.toNat 1000000000 := by
  rw [UInt64.lt_iff_toNat_lt, toNat_min_expiryThreshold]

/-- **No bit of a height is lost**: an expiry that counts blocks is below 10⁹, so it is the height
and not only its remainder by 2³². -/
theorem ofRaw_eq_blockHeight_iff {height : UInt32} :
    ofRaw expiry threshold = .blockHeight height ↔
      expiry.toNat < min threshold.toNat 1000000000 ∧ height.toNat = expiry.toNat := by
  have hnarrow : expiry.toUInt32.toNat = expiry.toNat % 4294967296 := expiry.toNat_toUInt32
  unfold ofRaw
  by_cases hlt : expiry < min threshold expiryThreshold
  · have hnat := lt_min_expiryThreshold_iff.1 hlt
    -- The narrowing keeps the remainder by 2^32, and a height in force is smaller than that.
    have hfits : expiry.toUInt32.toNat = expiry.toNat := by omega
    rw [if_pos hlt]
    constructor
    · intro h
      cases h
      exact ⟨hnat, hfits⟩
    · rintro ⟨-, hheight⟩
      have hsame : expiry.toUInt32 = height := UInt32.toNat_inj.1 (hfits.trans hheight.symm)
      rw [hsame]
  · rw [if_neg hlt]
    constructor
    · intro h
      cases h
    · rintro ⟨hnat, -⟩
      exact absurd (lt_min_expiryThreshold_iff.2 hnat) hlt

theorem ofRaw_eq_timestamp_iff {seconds : UInt64} :
    ofRaw expiry threshold = .timestamp seconds ↔
      min threshold.toNat 1000000000 ≤ expiry.toNat ∧ seconds = expiry := by
  unfold ofRaw
  by_cases hlt : expiry < min threshold expiryThreshold
  · have hnat := lt_min_expiryThreshold_iff.1 hlt
    rw [if_pos hlt]
    constructor
    · intro h
      cases h
    · rintro ⟨hle, -⟩
      omega
  · have hnat := mt lt_min_expiryThreshold_iff.2 hlt
    rw [if_neg hlt]
    constructor
    · intro h
      cases h
      exact ⟨by omega, rfl⟩
    · rintro ⟨-, rfl⟩
      rfl

/-- The first number that 32 bits do not hold is a time, wherever the threshold is put. -/
example : ofRaw 4294967296 18446744073709551615 = .timestamp 4294967296 := by decide

end Expiry

/-! ## The two ways -/

namespace Escrow

variable {escrow : Escrow} {config : Config} {now : UInt64} {auth : RefundAuth}
  {preamble : Preamble}

/-- Expired, in numbers: the time has passed, or the relay says that the tip is at the height that
the expiry is. -/
theorem expired_iff :
    escrow.Expired config now preamble ↔
      (min config.blockheightExpiryThreshold.toNat 1000000000 ≤ escrow.terms.expiry.toNat ∧
        escrow.terms.expiry < now) ∨
      (escrow.terms.expiry.toNat < min config.blockheightExpiryThreshold.toNat 1000000000 ∧
        ∃ height : UInt32, height.toNat = escrow.terms.expiry.toNat ∧
          preamble.first? = some ⟨config.relayProgramId, .blockHeight height .ge⟩) := by
  unfold Expired
  -- The raw expiry decides which of the two sides can hold, and the bound on it rules out the
  -- other.
  cases hraw : Expiry.ofRaw escrow.terms.expiry config.blockheightExpiryThreshold with
  | blockHeight height =>
      obtain ⟨hlt, hheight⟩ := Expiry.ofRaw_eq_blockHeight_iff.1 hraw
      constructor
      · intro hfirst
        exact .inr ⟨hlt, height, hheight, hfirst⟩
      · rintro (⟨hle, -⟩ | ⟨-, height', hheight', hfirst⟩)
        · omega
        · have hsame : height' = height := UInt32.toNat_inj.1 (hheight'.trans hheight.symm)
          rwa [hsame] at hfirst
  | timestamp seconds =>
      obtain ⟨hle, rfl⟩ := Expiry.ofRaw_eq_timestamp_iff.1 hraw
      constructor
      · intro hnow
        exact .inl ⟨hle, hnow⟩
      · rintro (⟨-, hnow⟩ | ⟨hlt, -⟩)
        · exact hnow
        · omega

theorem authorizeRefund_eq_ok_cooperative_iff :
    escrow.authorizeRefund config now auth preamble = .ok .cooperative ↔
      ∃ authExpiry, auth = .cooperative authExpiry ∧ now < authExpiry ∧
        preamble.first? = some ⟨config.ed25519ProgramId,
          .ed25519 escrow.claimer (Commitment.refund escrow.terms authExpiry).toList⟩ := by
  unfold authorizeRefund
  cases auth with
  | timeout =>
      rw [bind_eq_ok_iff]
      constructor
      · rintro ⟨_, -, ⟨⟩⟩
      · rintro ⟨_, ⟨⟩, -⟩
  | cooperative authExpiry =>
      rw [bind_eq_ok_iff]
      constructor
      · rintro ⟨_, hconsent, -⟩
        exact ⟨authExpiry, rfl, checkConsent_eq_ok_iff.1 hconsent⟩
      · rintro ⟨_, ⟨⟩, hconsent⟩
        exact ⟨(), checkConsent_eq_ok_iff.2 hconsent, rfl⟩

theorem authorizeRefund_eq_ok_timeout_iff :
    escrow.authorizeRefund config now auth preamble = .ok .timeout ↔
      auth = .timeout ∧ escrow.Expired config now preamble := by
  unfold authorizeRefund
  cases auth with
  | cooperative authExpiry =>
      rw [bind_eq_ok_iff]
      constructor
      · rintro ⟨_, -, ⟨⟩⟩
      · rintro ⟨⟨⟩, -⟩
  | timeout =>
      rw [bind_eq_ok_iff]
      constructor
      · rintro ⟨_, hexpired, -⟩
        exact ⟨rfl, checkExpiry_eq_ok_iff.1 hexpired⟩
      · rintro ⟨-, hexpired⟩
        exact ⟨(), checkExpiry_eq_ok_iff.2 hexpired, rfl⟩

/-- **A refund is allowed exactly when it should be**, whatever the configuration says: with the
claimer's signature over the terms as long as it is good, or after the expiry, which is a time
from the threshold in force on and a height, attested by the relay and equal to the expiry as a
number, below it. -/
theorem authorizeRefund_exact (escrow : Escrow) (config : Config) (now : UInt64)
    (auth : RefundAuth) (preamble : Preamble) :
    (escrow.authorizeRefund config now auth preamble = .ok .cooperative ↔
      ∃ authExpiry, auth = .cooperative authExpiry ∧ now < authExpiry ∧
        preamble.first? = some ⟨config.ed25519ProgramId,
          .ed25519 escrow.claimer (Commitment.refund escrow.terms authExpiry).toList⟩) ∧
    (escrow.authorizeRefund config now auth preamble = .ok .timeout ↔
      auth = .timeout ∧
        ((min config.blockheightExpiryThreshold.toNat 1000000000 ≤ escrow.terms.expiry.toNat ∧
            escrow.terms.expiry < now) ∨
          (escrow.terms.expiry.toNat < min config.blockheightExpiryThreshold.toNat 1000000000 ∧
            ∃ height : UInt32, height.toNat = escrow.terms.expiry.toNat ∧
              preamble.first? =
                some ⟨config.relayProgramId, .blockHeight height .ge⟩))) := by
  constructor
  · exact authorizeRefund_eq_ok_cooperative_iff
  · rw [authorizeRefund_eq_ok_timeout_iff, expired_iff]

end Escrow

end AtomicEscrow
