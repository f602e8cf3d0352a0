import AtomicEscrow.Config.Basic
import AtomicEscrow.Evidence.Preamble
import AtomicEscrow.Failure.Escrow
import AtomicEscrow.Record.Escrow
import AtomicEscrow.Terms.Commitment

set_option autoImplicit false

/-! # What allows a refund

The offerer may take the tokens back with the consent of the claimer, or after the expiry. The
consent is the claimer's signature over the terms, valid for a while. An expiry that is a time
has to lie in the past; one that is a height has to be reached, by the word of the relay.
-/

namespace AtomicEscrow

/-- How the offerer asks for a refund. -/
inductive RefundAuth
  | timeout
  | cooperative (authExpiry : UInt64)
deriving DecidableEq

/-- How a refund was allowed. -/
inductive RefundKind
  | cooperative
  | timeout
deriving DecidableEq

def RefundKind.name : RefundKind → String
  | cooperative => "Cooperative"
  | timeout => "Timeout"

namespace Escrow

/-- How the tip has to compare with an expiry that is a height. -/
def expiryOperator : HeightOperator := .ge

/-- Whether the first instruction is the claimer's signature over the terms. -/
def checkConsent (escrow : Escrow) (config : Config) (now authExpiry : UInt64)
    (preamble : Preamble) : Except EscrowError Unit :=
  if authExpiry ≤ now then .error .authExpired
  else
    match preamble.first? with
    | none => .error .signatureVerificationFailedInvalidProgram
    | some instruction =>
        if instruction.programId ≠ config.ed25519ProgramId then
          .error .signatureVerificationFailedInvalidProgram
        else
          match instruction.attestation with
          | .ed25519 pubkey message =>
              if pubkey ≠ escrow.claimer ∨
                  message ≠ (Commitment.refund escrow.terms authExpiry).toList then
                .error .signatureVerificationFailedInvalidData
              else .ok ()
          | _ => .error .signatureVerificationFailedInvalidData

/-- Whether the first instruction is the word of the relay that a height is reached. -/
def checkHeight (config : Config) (height : UInt32) (preamble : Preamble) :
    Except EscrowError Unit :=
  match preamble.first? with
  | none => .error .invalidBlockheightVerifyProgramId
  | some instruction =>
      if instruction.programId ≠ config.relayProgramId then
        .error .invalidBlockheightVerifyProgramId
      else
        match instruction.attestation with
        | .blockHeight attested operator =>
            if attested ≠ height then .error .invalidBlockheightVerifyHeight
            else if operator ≠ expiryOperator then .error .invalidBlockheightVerifyOperation
            else .ok ()
        | _ => .error .invalidBlockheightVerifyIx

/-- Whether the escrow is expired. -/
def checkExpiry (escrow : Escrow) (config : Config) (now : UInt64) (preamble : Preamble) :
    Except EscrowError Unit :=
  match Expiry.ofRaw escrow.terms.expiry config.blockheightExpiryThreshold with
  | .blockHeight height => checkHeight config height preamble
  | .timestamp expiry => if now ≤ expiry then .error .notExpiredYet else .ok ()

/-- How a refund is allowed, if it is. -/
def authorizeRefund (escrow : Escrow) (config : Config) (now : UInt64) (auth : RefundAuth)
    (preamble : Preamble) : Except EscrowError RefundKind :=
  match auth with
  | .cooperative authExpiry => do
      escrow.checkConsent config now authExpiry preamble
      return .cooperative
  | .timeout => do
      escrow.checkExpiry config now preamble
      return .timeout

end Escrow

end AtomicEscrow
