import AtomicEscrow.Evidence.Preamble
import AtomicEscrow.Record.Table

set_option autoImplicit false

/-! # The chain relay

A relay follows the headers of the other chain and attests to what it sees: that a transaction
is buried under a number of blocks, or how its tip compares with a height. This one keeps the
height of its tip and the heights of the transactions it was told about.

The depth of a transaction is `tip - height + 1`, counted in 32 bits; a depth above 16 bits is given
as the largest of those. The relay does not wrap: where the count does not fit in 32 bits it stops
without an answer, which is a failure of its own and no refusal.
-/

namespace AtomicEscrow

/-- A header that a proof of inclusion starts from. -/
structure CommittedHeader where
  height : UInt32
  blockHash : Hash
  merkleRoot : Hash
deriving DecidableEq

/-- A claim that a transaction is in the chain. -/
structure InclusionProof where
  reversedTxId : Hash
  minConfirmations : UInt16
  txIndex : UInt32
  merkleProof : List Hash
  header : CommittedHeader

/-- Why a relay does not attest. -/
inductive RelayError
  | unknownHeader (height : UInt32)
  | invalidMerkleProof
  | insufficientConfirmations (required actual : UInt16)
  | heightComparisonFailed (height : UInt32) (operator : HeightOperator) (tip : UInt32)
deriving DecidableEq

namespace RelayError

def name : RelayError → String
  | unknownHeader _ => "UnknownHeader"
  | invalidMerkleProof => "InvalidMerkleProof"
  | insufficientConfirmations .. => "InsufficientConfirmations"
  | heightComparisonFailed .. => "HeightComparisonFailed"

def message : RelayError → String
  | unknownHeader height => s!"Header {height.toNat} is not part of the relay's main chain"
  | invalidMerkleProof => "Merkle proof does not connect the transaction to the header"
  | insufficientConfirmations required actual =>
      s!"Insufficient confirmations: required {required.toNat}, have {actual.toNat}"
  | heightComparisonFailed height operator tip =>
      s!"Block height {height.toNat} does not satisfy {operator.name} against tip {tip.toNat}"

end RelayError

/-- How a relay comes to no depth: it refuses to attest, or it stops while it counts. -/
inductive RelayFailure
  | refused (cause : RelayError)
  /-- The number of blocks does not fit in 32 bits. -/
  | overflow
deriving DecidableEq

/-- What a relay has seen of the other chain. -/
structure Relay where
  /-- The program whose attestations carry the relay's word. -/
  programId : Pubkey
  tip : UInt32
  /-- The heights of the transactions in the chain. -/
  inclusions : Table Hash UInt32

namespace Relay

def new (programId : Pubkey) (tip : UInt32) : Relay := ⟨programId, tip, .empty⟩

def addInclusion (r : Relay) (reversedTxId : Hash) (height : UInt32) : Relay :=
  { r with inclusions := r.inclusions.insert reversedTxId height }

/-- The header that the relay has at a height. -/
def header (height : UInt32) : CommittedHeader where
  height
  blockHash := Sha256.double (littleEndian 4 height.toNat)
  merkleRoot := .replicate 0

/-- The largest depth that an attestation can name. -/
def maxDepth : Nat := 65535

/-- The number of blocks from a height to a tip, both ends counted. There is none where the difference
or its successor leaves the 32 bits. -/
def countBlocks? (tip height : UInt32) : Option UInt32 :=
  if tip < height ∨ tip - height = 0xFFFFFFFF then none else some (tip - height + 1)

def cutDepth (blocks : UInt32) : UInt16 :=
  if blocks.toNat ≤ maxDepth then blocks.toUInt16 else UInt16.ofNat maxDepth

/-- How deep a block is buried, its own block counted. -/
def depth? (tip height : UInt32) : Option UInt16 := (countBlocks? tip height).map cutDepth

/-- The depth of a transaction whose inclusion is proved. -/
def verifyTransaction (r : Relay) (proof : InclusionProof) : Except RelayFailure UInt16 :=
  if r.tip < proof.header.height then .error (.refused (.unknownHeader proof.header.height))
  else
    match r.inclusions.get? proof.reversedTxId with
    | none => .error (.refused .invalidMerkleProof)
    | some height =>
        if height ≠ proof.header.height then .error (.refused .invalidMerkleProof)
        else
          match depth? r.tip height with
          | none => .error .overflow
          | some confirmations =>
              if confirmations < proof.minConfirmations then
                .error (.refused (.insufficientConfirmations proof.minConfirmations confirmations))
              else .ok confirmations

/-- Whether the tip compares with a height as asked. -/
def verifyHeight (r : Relay) (height : UInt32) (operator : HeightOperator) :
    Except RelayError Unit :=
  if operator.holds r.tip height then .ok ()
  else .error (.heightComparisonFailed height operator r.tip)

end Relay

namespace Preamble

/-- The preamble with the relay's word on a transaction at its end. -/
def withTransactionProof (p : Preamble) (relay : Relay) (proof : InclusionProof) :
    Except RelayFailure Preamble := do
  let confirmations ← relay.verifyTransaction proof
  return p.push relay.programId (.transactionVerified proof.reversedTxId confirmations)

/-- The preamble with the relay's word on a height at its end. -/
def withHeightProof (p : Preamble) (relay : Relay) (height : UInt32) (operator : HeightOperator) :
    Except RelayError Preamble := do
  relay.verifyHeight height operator
  return p.push relay.programId (.blockHeight height operator)

end Preamble

end AtomicEscrow
