import AtomicEscrow.Bytes.Sha256
import AtomicEscrow.Key.Address
import AtomicEscrow.Terms.Basic

set_option autoImplicit false

/-! # Commitments

Hashes that bind a party to something it shows later. For each the byte string that is hashed
has a name, so that "the same commitment" can be split into "the same bytes" and "two byte
strings with one digest".
-/

namespace AtomicEscrow.Commitment

/-- The payment hash of a secret. -/
def payment (preimage : Bytes32) : Hash := Sha256.digest preimage.toList

/-- The bytes that commit to an output: the nonce, the value and the script. -/
def outputPreimage (nonce value : UInt64) (script : Bytes) : Bytes :=
  littleEndian 8 nonce.toNat ++ littleEndian 8 value.toNat ++ script

/-- The commitment to an output of the paying transaction. -/
def output (nonce value : UInt64) (script : Bytes) : Hash :=
  Sha256.digest (outputPreimage nonce value script)

/-- The bytes a claimer signs to let the offerer take the tokens back before the expiry. -/
def refundPreimage (terms : Terms) (authExpiry : UInt64) : Bytes :=
  asciiBytes "refund" ++ littleEndian 8 terms.amount.toNat ++ littleEndian 8 terms.expiry.toNat ++
    littleEndian 8 terms.sequence.toNat ++ terms.hash.toList ++ littleEndian 8 authExpiry.toNat

/-- The digest a claimer signs to let the offerer take the tokens back before the expiry. -/
def refund (terms : Terms) (authExpiry : UInt64) : Hash :=
  Sha256.digest (refundPreimage terms authExpiry)

end AtomicEscrow.Commitment
