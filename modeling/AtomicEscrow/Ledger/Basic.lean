import AtomicEscrow.Failure.Ledger
import AtomicEscrow.Key.Address
import AtomicEscrow.Number.Amount
import AtomicEscrow.Record.Table

set_option autoImplicit false

/-! # The ledger

Who owns what outside the escrow program: token accounts, each of one mint and one owner, and
the balances of the native asset, one for each key. The program only ever moves amounts by
batches (`Ledger/Batch.lean`); opening accounts, minting and airdrops happen outside it.
-/

namespace AtomicEscrow

/-- An account that holds tokens of one mint. -/
structure TokenAccount where
  address : Pubkey
  owner : Pubkey
  mint : Pubkey
  amount : UInt64
deriving DecidableEq

/-- Token accounts and native balances. -/
structure Ledger where
  tokens : Table Pubkey TokenAccount
  natives : Table Pubkey UInt64
  /-- How many token accounts were created; it tells their addresses apart. -/
  created : UInt64

namespace Ledger

def empty : Ledger := ⟨.empty, .empty, 0⟩

def tokenAccount? (l : Ledger) (address : Pubkey) : Option TokenAccount := l.tokens.get? address

/-- The tokens at an address, none where there is no account. -/
def tokenBalance (l : Ledger) (address : Pubkey) : UInt64 :=
  ((l.tokenAccount? address).map TokenAccount.amount).getD 0

/-- The native balance of a key, none where nothing was ever paid. -/
def nativeBalance (l : Ledger) (owner : Pubkey) : UInt64 := (l.natives.get? owner).getD 0

def putToken (l : Ledger) (account : TokenAccount) : Ledger :=
  { l with tokens := l.tokens.insert account.address account }

def putNative (l : Ledger) (owner : Pubkey) (amount : UInt64) : Ledger :=
  { l with natives := l.natives.insert owner amount }

/-! ## What happens outside the program -/

/-- Creates an empty token account and gives its address. -/
def createTokenAccount (l : Ledger) (owner mint : Pubkey) : Pubkey × Ledger :=
  let serial := l.created + 1
  let address := (Derivation.tokenAccount owner mint serial).address
  (address, { l.putToken ⟨address, owner, mint, 0⟩ with created := serial })

def mintTo (l : Ledger) (address : Pubkey) (amount : UInt64) : Except LedgerError Ledger :=
  match l.tokens.get? address with
  | none => .error (.accountNotFound address)
  | some account =>
      match Amount.add? account.amount amount with
      | none => .error .overflow
      | some sum => .ok { l with tokens := l.tokens.insert address { account with amount := sum } }

def airdrop (l : Ledger) (owner : Pubkey) (amount : UInt64) : Except LedgerError Ledger :=
  match Amount.add? (l.nativeBalance owner) amount with
  | none => .error .overflow
  | some sum => .ok (l.putNative owner sum)

end Ledger

end AtomicEscrow
