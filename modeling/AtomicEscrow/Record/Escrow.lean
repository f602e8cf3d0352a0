import AtomicEscrow.Key.Pubkey
import AtomicEscrow.Terms.Basic

set_option autoImplicit false

/-! # Escrows

A live escrow: the terms, the two parties with the token accounts they gave, and two native
amounts the claimer put up. Only one of these two is ever paid out, so the pot at the address
of the escrow holds the larger of them.
-/

namespace AtomicEscrow

/-- A live escrow. -/
structure Escrow where
  terms : Terms
  /-- Who gives the tokens. -/
  offerer : Pubkey
  /-- The token account the tokens came from, for a pay-in. -/
  offererTokenAccount : Option Pubkey
  /-- Who gets the tokens once the terms are met. -/
  claimer : Pubkey
  /-- The token account the tokens go to, for a pay-out. -/
  claimerTokenAccount : Option Pubkey
  mint : Pubkey
  /-- The native reward for whoever submits the claim. -/
  claimerBounty : UInt64
  /-- The native compensation of the offerer after the expiry. -/
  securityDeposit : UInt64
deriving DecidableEq

namespace Escrow

/-- Who gets back what is left of the pot. -/
def funder (e : Escrow) : Pubkey := if e.terms.payIn then e.offerer else e.claimer

/-- The native amount at the address of the escrow. -/
def nativePot (e : Escrow) : UInt64 := max e.securityDeposit e.claimerBounty

end Escrow

/-- Where tokens come from or go to. -/
inductive BalanceAccount
  /-- A token account of the ledger. -/
  | token (address : Pubkey)
  /-- An internal balance. -/
  | internal (address : Pubkey)
deriving DecidableEq

/-- What the offerer gives. -/
inductive FundingSource
  /-- Tokens of a token account of the offerer. -/
  | payIn (offererTokenAccount : Pubkey)
  /-- Part of the internal balance of the offerer, while the claimer puts up the pot. -/
  | internal (offererUserAccount : Pubkey) (securityDeposit claimerBounty : UInt64)
deriving DecidableEq

/-- Whether the tokens come from a token account. -/
def FundingSource.isPayIn : FundingSource → Bool
  | payIn _ => true
  | internal .. => false

/-- Bytes staged ahead of a claim. -/
structure DataBuffer where
  owner : Pubkey
  data : Bytes
deriving DecidableEq

end AtomicEscrow
