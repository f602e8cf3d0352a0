import AtomicEscrow.Proofs.Authorization
import AtomicEscrow.Proofs.Separation
import AtomicEscrow.Sample.Swap

set_option autoImplicit false

/-! # What a consent binds

A signature over a digest says no more than the digest. What the claimer agrees to is therefore what
can be read back from the bytes that are hashed: the hash, the amount, the expiry and the sequence
of the swap, and how long the consent is good for (`Commitment.refundPreimage_inj`). A consent that
is given for one escrow is good for another exactly if that has the same claimer and the same of
these five, unless two byte strings with one digest are at hand (`Escrow.consent_binds`).

What is not signed is not bound: the mint is not, nor are the kind of the swap and the destinations
(`Escrow.consent_of_otherMint`).
-/

namespace AtomicEscrow

/-- The bytes that commit to an output tell the output. The script comes last, so it may have any
length. -/
theorem Commitment.outputPreimage_inj {nonce nonce' value value' : UInt64}
    {script script' : Bytes} :
    outputPreimage nonce value script = outputPreimage nonce' value' script' ↔
      nonce = nonce' ∧ value = value' ∧ script = script' := by
  constructor
  · intro h
    obtain ⟨hwords, hscript⟩ := List.append_inj h (by simp)
    obtain ⟨hnonce, hvalue⟩ := List.append_inj hwords (by simp)
    exact ⟨littleEndian_word_inj.1 hnonce, littleEndian_word_inj.1 hvalue, hscript⟩
  · rintro ⟨rfl, rfl, rfl⟩
    rfl

/-- One digest is signed for the same five values, or there is a collision. -/
theorem Commitment.refund_eq_refund_iff {terms terms' : Terms} {authExpiry authExpiry' : UInt64} :
    refund terms authExpiry = refund terms' authExpiry' ↔
      (refundPreimage terms authExpiry = refundPreimage terms' authExpiry' ∧
        terms.amount = terms'.amount ∧ terms.expiry = terms'.expiry ∧
        terms.sequence = terms'.sequence ∧ terms.hash = terms'.hash ∧
        authExpiry = authExpiry') ∨
      Sha256.Collision (refundPreimage terms authExpiry) (refundPreimage terms' authExpiry') := by
  have hread (h : refundPreimage terms authExpiry = refundPreimage terms' authExpiry') :=
    refundPreimage_inj.1 h
  exact Sha256.digest_eq_digest_iff.trans (or_congr_left (iff_self_and.2 hread))

namespace Escrow

variable {escrow escrow' : Escrow} {config config' : Config}
  {now now' authExpiry authExpiry' : UInt64} {preamble : Preamble}

/-- Both escrows look at one instruction, and each wants its own program, claimer and digest
there. -/
theorem authorizeRefund_iff_of_consent
    (h : escrow.authorizeRefund config now (.cooperative authExpiry) preamble = .ok .cooperative) :
    escrow'.authorizeRefund config' now' (.cooperative authExpiry') preamble = .ok .cooperative ↔
      now' < authExpiry' ∧ config.ed25519ProgramId = config'.ed25519ProgramId ∧
        escrow.claimer = escrow'.claimer ∧
        Commitment.refund escrow.terms authExpiry =
          Commitment.refund escrow'.terms authExpiry' := by
  obtain ⟨_, ⟨⟩, -, hfirst⟩ := authorizeRefund_eq_ok_cooperative_iff.1 h
  constructor
  · intro h'
    obtain ⟨_, ⟨⟩, hnow, hfirst'⟩ := authorizeRefund_eq_ok_cooperative_iff.1 h'
    have hone := hfirst.symm.trans hfirst'
    simp only [Option.some.injEq, Instruction.mk.injEq, Attestation.ed25519.injEq] at hone
    obtain ⟨hprogram, hclaimer, hdigest⟩ := hone
    exact ⟨hnow, hprogram, hclaimer, Bytes32.ext hdigest⟩
  · rintro ⟨hnow, hprogram, hclaimer, hdigest⟩
    rw [hprogram, hclaimer, hdigest] at hfirst
    exact authorizeRefund_eq_ok_cooperative_iff.2 ⟨authExpiry', rfl, hnow, hfirst⟩

/-- **A consent binds the terms it was given for.** For another escrow, another time and another
configuration the same evidence is good exactly if it is not too late, the signature is checked by
the same program, the claimer is the same, and what the claimer agreed to is the same, or two byte
strings collide. The bytes that commit to an output bind the nonce, the value and the script. -/
theorem consent_binds :
    (∀ (escrow escrow' : Escrow) (config config' : Config)
        (now now' authExpiry authExpiry' : UInt64) (preamble : Preamble),
      escrow.authorizeRefund config now (.cooperative authExpiry) preamble = .ok .cooperative →
      (escrow'.authorizeRefund config' now' (.cooperative authExpiry') preamble =
          .ok .cooperative ↔
        now' < authExpiry' ∧ config.ed25519ProgramId = config'.ed25519ProgramId ∧
          escrow.claimer = escrow'.claimer ∧
          ((Commitment.refundPreimage escrow.terms authExpiry =
                Commitment.refundPreimage escrow'.terms authExpiry' ∧
              escrow.terms.amount = escrow'.terms.amount ∧
              escrow.terms.expiry = escrow'.terms.expiry ∧
              escrow.terms.sequence = escrow'.terms.sequence ∧
              escrow.terms.hash = escrow'.terms.hash ∧ authExpiry = authExpiry') ∨
            Sha256.Collision (Commitment.refundPreimage escrow.terms authExpiry)
              (Commitment.refundPreimage escrow'.terms authExpiry')))) ∧
    ∀ (nonce nonce' value value' : UInt64) (script script' : Bytes),
      Commitment.outputPreimage nonce value script =
          Commitment.outputPreimage nonce' value' script' ↔
        nonce = nonce' ∧ value = value' ∧ script = script' := by
  constructor
  · intro escrow escrow' config config' now now' authExpiry authExpiry' preamble h
    rw [authorizeRefund_iff_of_consent h, Commitment.refund_eq_refund_iff]
  · intro nonce nonce' value value' script script'
    exact Commitment.outputPreimage_inj

def sampleConsent : Preamble :=
  Preamble.empty.withSignature Config.standard.ed25519ProgramId Sample.claimer
    (Commitment.refund (Sample.terms .htlc (.replicate 1) 0) (Sample.now + 600)).toList

/-- The consent to a refund in one mint is good for a swap of the same terms in another. -/
theorem consent_of_otherMint :
    (Sample.escrow (Sample.terms .htlc (.replicate 1) 0)).authorizeRefund .standard Sample.now
        (.cooperative (Sample.now + 600)) sampleConsent = .ok .cooperative ∧
      { Sample.escrow (Sample.terms .htlc (.replicate 1) 0) with
          mint := .ofLabel "other-mint" }.authorizeRefund .standard Sample.now
        (.cooperative (Sample.now + 600)) sampleConsent = .ok .cooperative := by
  have hgiven : (Sample.escrow (Sample.terms .htlc (.replicate 1) 0)).authorizeRefund .standard
      Sample.now (.cooperative (Sample.now + 600)) sampleConsent = .ok .cooperative :=
    authorizeRefund_eq_ok_cooperative_iff.2 ⟨_, rfl, by decide, rfl⟩
  refine ⟨hgiven, (consent_binds.1 _ _ _ _ _ _ _ _ _ hgiven).2 ?_⟩
  exact ⟨by decide, rfl, rfl, .inl ⟨rfl, rfl, rfl, rfl, rfl, rfl⟩⟩

end Escrow

end AtomicEscrow
