import AtomicEscrow.Evidence.Preamble
import AtomicEscrow.Failure.Escrow
import AtomicEscrow.Terms.Commitment
import AtomicEscrow.Terms.Timelock
import AtomicEscrow.Transaction.Reader

set_option autoImplicit false

/-! # What proves a claim

Each kind of swap has its own proof. For a payment hash it is the preimage. For a payment on
the other chain it is the paying transaction, whose output has to be the one that the terms
commit to, and the word of the relay that the transaction is in the chain and deep enough; the
nonced kind also wants the nonce in the time locks. Where the terms name the transaction, the
relay's word is enough.

A proof that holds is summed up by 32 bytes that the claim makes public: the preimage, or the
id of the transaction.
-/

namespace AtomicEscrow.Terms

/-- Whether the first instruction is the word of the relay that the transaction is in the chain
and as deep as the terms want. -/
def checkInclusion (terms : Terms) (relayProgramId : Pubkey) (txid : Hash) (preamble : Preamble) :
    Except EscrowError Unit :=
  match preamble.first? with
  | none => .error .invalidTxVerifyProgramId
  | some instruction =>
      if instruction.programId ≠ relayProgramId then .error .invalidTxVerifyProgramId
      else
        match instruction.attestation with
        | .transactionVerified attested confirmations =>
            if attested ≠ txid then .error .invalidTxVerifyTxid
            else if confirmations < terms.confirmations then .error .invalidTxVerifyConfirmations
            else .ok ()
        | _ => .error .invalidTxVerifyIx

/-- The preimage that opens a payment hash: the first 32 bytes of the secret. -/
def openPayment (terms : Terms) (secret : Bytes) : Except EscrowError Hash :=
  match Bytes32.ofList? (secret.take 32) with
  | none => .error (.programFault s!"secret of {secret.length} bytes is shorter than 32")
  | some preimage =>
      if Commitment.payment preimage ≠ terms.hash then .error .invalidSecret else .ok preimage

/-- The transaction that a claim submits. -/
def submittedTransaction (raw : Bytes) : Except EscrowError SubmittedTransaction :=
  match SubmittedTransaction.read raw with
  | .error _ => .error .invalidTx
  | .ok tx => .ok tx

/-- The sequence that carries part of the nonce, for the nonced kind. -/
def noncedSequence (terms : Terms) (tx : SubmittedTransaction) :
    Except EscrowError (Option UInt32) :=
  if terms.kind ≠ .chainNonced then .ok none
  else
    match tx.uniformSequence with
    | .error _ => .error .invalidTx
    | .ok sequence => .ok (some sequence)

/-- The id of the transaction that pays: the secret is the place of the paying output, in four
bytes, and then the transaction. -/
def openOutput (terms : Terms) (secret : Bytes) : Except EscrowError Hash := do
  if secret.length < 4 then
    throw (.programFault s!"chain claim payload of {secret.length} bytes has no output index")
  let vout := UInt32.ofNat (littleEndianValue (secret.take 4))
  let tx ← submittedTransaction (secret.drop 4)
  let sequence ← terms.noncedSequence tx
  match tx.output? vout with
  | none => throw .invalidVout
  | some output =>
      if Commitment.output terms.nonce output.value output.script ≠ terms.hash then
        throw .invalidSecret
      match sequence with
      | none => return tx.txid
      | some sequence =>
          if NoncedLock.toNonce tx.transaction.locktime sequence ≠ some terms.nonce then
            throw .invalidNonce
          return tx.txid

/-- The bytes that a claim makes public, if its proof holds. -/
def verifyClaim (terms : Terms) (relayProgramId : Pubkey) (secret : Bytes) (preamble : Preamble) :
    Except EscrowError Hash :=
  match terms.kind with
  | .htlc => terms.openPayment secret
  | .chain | .chainNonced => do
      let txid ← terms.openOutput secret
      terms.checkInclusion relayProgramId txid preamble
      return txid
  | .chainTxhash => do
      terms.checkInclusion relayProgramId terms.hash preamble
      return terms.hash

end AtomicEscrow.Terms
