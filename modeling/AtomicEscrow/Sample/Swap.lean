import AtomicEscrow.Record.Escrow
import AtomicEscrow.Terms.Commitment
import AtomicEscrow.Transaction.Basic

set_option autoImplicit false

/-! # Sample swaps

Small swaps to try the engine on: a secret with its payment hash, terms that expire in an hour,
the escrow over them, and a transaction that pays the claimer's counterparty in its first
output.
-/

namespace AtomicEscrow.Sample

def now : UInt64 := 1700000000

/-- The secret that is one byte over and over, with its payment hash. -/
def secretPair (seed : UInt8) : Bytes32 × Hash :=
  (.replicate seed, Commitment.payment (.replicate seed))

/-- Terms over 100 tokens that expire in an hour, between internal balances. -/
def terms (kind : SwapKind) (hash : Hash) (nonce : UInt64) : Terms where
  kind
  confirmations := 0
  nonce
  hash
  payIn := false
  payOut := false
  amount := 100
  expiry := now + 3600
  sequence := 1

def offerer : Pubkey := .ofLabel "offerer"

def claimer : Pubkey := .ofLabel "claimer"

def mint : Pubkey := .ofLabel "mint"

def escrow (terms : Terms) : Escrow where
  terms
  offerer
  offererTokenAccount := if terms.payIn then some (.ofLabel "offerer-ata") else none
  claimer
  claimerTokenAccount := if terms.payOut then some (.ofLabel "claimer-ata") else none
  mint
  claimerBounty := 0
  securityDeposit := 0

/-- The script that pays to a hash of 20 equal bytes. -/
def payScript (byte : UInt8) : Bytes := [0x00, 0x14] ++ List.replicate 20 byte

def input (index sequence : UInt32) : TxInput := ⟨.replicate 0, index, [], sequence⟩

/-- A transaction with one input for each sequence. Its first output pays `value`, its second
is the change. -/
def payment (sequences : List UInt32) (locktime : UInt32) (value : UInt64) : Transaction where
  version := 2
  inputs := sequences.mapIdx fun i sequence => input (UInt32.ofNat i) sequence
  outputs := [⟨value, payScript 0xAA⟩, ⟨1000, payScript 0xBB⟩]
  locktime

end AtomicEscrow.Sample
