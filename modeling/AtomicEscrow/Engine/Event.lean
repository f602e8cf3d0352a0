import AtomicEscrow.Terms.Basic

set_option autoImplicit false

/-! # Events

What the outside learns about an accepted request: that tokens were locked in an escrow, that
they were claimed, or that they were refunded. The events of one escrow carry its hash and its
sequence.
-/

namespace AtomicEscrow

/-- Tokens were locked in an escrow. -/
structure LockEvent where
  hash : Hash
  /-- The commitment to the expected output, passed on unread. -/
  txoHash : Hash
  nonce : UInt64
  kind : SwapKind
  sequence : UInt64
deriving DecidableEq

/-- The tokens of an escrow were claimed. -/
structure ClaimEvent where
  hash : Hash
  /-- What the proof of the claim made public. -/
  secret : Hash
  sequence : UInt64
deriving DecidableEq

/-- The tokens of an escrow were refunded. -/
structure RefundEvent where
  hash : Hash
  sequence : UInt64
deriving DecidableEq

/-- An accepted request about an escrow. -/
inductive SwapEvent
  | locked (event : LockEvent)
  | claimed (event : ClaimEvent)
  | refunded (event : RefundEvent)
deriving DecidableEq

namespace SwapEvent

def hash : SwapEvent → Hash
  | locked e => e.hash
  | claimed e => e.hash
  | refunded e => e.hash

def sequence : SwapEvent → UInt64
  | locked e => e.sequence
  | claimed e => e.sequence
  | refunded e => e.sequence

def name : SwapEvent → String
  | locked _ => "Initialize"
  | claimed _ => "Claim"
  | refunded _ => "Refund"

end SwapEvent

end AtomicEscrow
