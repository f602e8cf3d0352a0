import AtomicEscrow.Key.Pubkey

set_option autoImplicit false

/-! # Refused ledger operations

Why a ledger does not move what it is asked to move.
-/

namespace AtomicEscrow

/-- A cause for refusing a ledger operation. -/
inductive LedgerError
  | insufficientFunds (account : Pubkey) (needed available : UInt64)
  | accountNotFound (account : Pubkey)
  | mintMismatch (account expected actual : Pubkey)
  | accountExists (account : Pubkey)
  | overflow
deriving DecidableEq

namespace LedgerError

def name : LedgerError → String
  | insufficientFunds .. => "InsufficientFunds"
  | accountNotFound _ => "AccountNotFound"
  | mintMismatch .. => "MintMismatch"
  | accountExists _ => "AccountExists"
  | overflow => "Overflow"

def message : LedgerError → String
  | insufficientFunds account needed available =>
      s!"Insufficient funds in {account.text}: needed {needed.toNat}, available {available.toNat}"
  | accountNotFound account => s!"Token account {account.text} does not exist"
  | mintMismatch account expected actual =>
      s!"Token account {account.text} holds mint {actual.text}, expected {expected.text}"
  | accountExists account => s!"Token account {account.text} already exists"
  | overflow => "Balance overflow"

end LedgerError

end AtomicEscrow
