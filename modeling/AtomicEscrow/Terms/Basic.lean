import AtomicEscrow.Bytes.Basic

set_option autoImplicit false

/-! # Swap terms

What the two sides of a swap agree on. The offerer gives tokens, the claimer gets them
against a secret or against a payment on the other chain; which of the two is the *kind* of
the swap.
-/

namespace AtomicEscrow

/-- What releases the tokens of a swap. -/
inductive SwapKind
  /-- The preimage of a payment hash. -/
  | htlc
  /-- A transaction with an output that the terms commit to. -/
  | chain
  /-- Such a transaction that also carries the nonce of the terms in its time locks. -/
  | chainNonced
  /-- The transaction whose id the terms name. -/
  | chainTxhash
deriving DecidableEq

namespace SwapKind

def all : List SwapKind := [htlc, chain, chainNonced, chainTxhash]

def index : SwapKind → Nat
  | htlc => 0
  | chain => 1
  | chainNonced => 2
  | chainTxhash => 3

def ofIndex? : Nat → Option SwapKind
  | 0 => some htlc
  | 1 => some chain
  | 2 => some chainNonced
  | 3 => some chainTxhash
  | _ => none

theorem ofIndex?_index (k : SwapKind) : ofIndex? k.index = some k := by
  cases k <;> rfl

def name : SwapKind → String
  | htlc => "Htlc"
  | chain => "Chain"
  | chainNonced => "ChainNonced"
  | chainTxhash => "ChainTxhash"

/-- Whether the kind is settled by a payment on the other chain. -/
def isChain : SwapKind → Bool
  | htlc => false
  | _ => true

end SwapKind

/-- The terms of a swap. -/
structure Terms where
  kind : SwapKind
  /-- How deep the paying transaction has to be buried. -/
  confirmations : UInt16
  /-- The number that the paying transaction carries, for the nonced kind. -/
  nonce : UInt64
  /-- What the claimer has to open: a payment hash, an output commitment or a transaction id. -/
  hash : Hash
  /-- The tokens come from a token account of the offerer, not from its internal balance. -/
  payIn : Bool
  /-- The tokens go to a token account of the claimer, not to its internal balance. -/
  payOut : Bool
  amount : UInt64
  /-- When the offerer may take the tokens back: a block height or a time. -/
  expiry : UInt64
  sequence : UInt64
deriving DecidableEq

end AtomicEscrow
