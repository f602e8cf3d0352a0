import AtomicEscrow.Bytes.Hex

set_option autoImplicit false

/-! # Malformed data

Why a byte string or a text is not the terms, the key or the transaction it should be.
Each cause has one name and one message.
-/

namespace AtomicEscrow

/-- A cause for refusing encoded data. -/
inductive DataError
  | invalidLength (expected actual : Nat)
  | unknownSwapKind (byte : UInt8)
  | invalidBool (byte : UInt8)
  | invalidPubkey (text : String)
  /-- A transaction as long as an inner node of a merkle tree could be passed off as one. -/
  | merkleNodeLength (length : Nat)
  | malformedTransaction (reason : String)
  | witnessNotStripped
  | nonUniformSequence
  | sequenceHasConsensusMeaning (sequence : UInt32)
deriving DecidableEq

namespace DataError

def name : DataError → String
  | invalidLength _ _ => "InvalidLength"
  | unknownSwapKind _ => "UnknownSwapType"
  | invalidBool _ => "InvalidBool"
  | invalidPubkey _ => "InvalidPubkey"
  | merkleNodeLength _ => "MerkleNodeLength"
  | malformedTransaction _ => "MalformedTransaction"
  | witnessNotStripped => "SegwitNotStripped"
  | nonUniformSequence => "NonUniformSequence"
  | sequenceHasConsensusMeaning _ => "SequenceHasConsensusMeaning"

def message : DataError → String
  | invalidLength expected actual =>
      s!"Invalid encoded length: expected {expected} bytes, got {actual}"
  | unknownSwapKind byte => s!"Unknown swap type: {byte.toNat}"
  | invalidBool byte => s!"Invalid boolean byte: {byte.toNat}"
  | invalidPubkey text => s!"Invalid public key: {text}"
  | merkleNodeLength length => s!"Transaction of {length} bytes could be spoofed as a merkle node"
  | malformedTransaction reason => s!"Malformed transaction: {reason}"
  | witnessNotStripped => "Transaction carries witness data, strip it before submitting"
  | nonUniformSequence => "Inputs use differing nSequence values"
  | sequenceHasConsensusMeaning sequence =>
      "nSequence 0x" ++ Hex.text (bigEndian 4 sequence.toNat) ++ " has consensus meaning"

end DataError

end AtomicEscrow
