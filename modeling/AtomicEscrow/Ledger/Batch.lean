import AtomicEscrow.Ledger.Basic

set_option autoImplicit false

/-! # Batches

The program moves value by batches: a list of operations that a ledger carries out one after
the other, or not at all. Transfers of nothing are left out when a batch is built, so they
cannot fail.
-/

namespace AtomicEscrow

/-- One operation of a batch. -/
inductive LedgerOp
  /-- Makes sure that an empty account exists; an account of the same owner and mint will do. -/
  | openTokenAccount (address owner mint : Pubkey)
  | tokenTransfer (source target mint : Pubkey) (amount : UInt64)
  | nativeTransfer (source target : Pubkey) (amount : UInt64)
deriving DecidableEq

/-- Operations to carry out together. -/
structure Batch where
  ops : List LedgerOp
deriving DecidableEq

namespace Batch

def empty : Batch := ⟨[]⟩

/-- The batch followed by the opening of an account. -/
def openTokenAccount (b : Batch) (address owner mint : Pubkey) : Batch :=
  ⟨b.ops ++ [.openTokenAccount address owner mint]⟩

/-- The batch followed by a transfer of tokens, unless it moves nothing. -/
def tokenTransfer (b : Batch) (source target mint : Pubkey) (amount : UInt64) : Batch :=
  if amount = 0 then b else ⟨b.ops ++ [.tokenTransfer source target mint amount]⟩

/-- The batch followed by a transfer of native funds, unless it moves nothing. -/
def nativeTransfer (b : Batch) (source target : Pubkey) (amount : UInt64) : Batch :=
  if amount = 0 then b else ⟨b.ops ++ [.nativeTransfer source target amount]⟩

end Batch

namespace Ledger

/-- The token account at an address, which has to hold a given mint. -/
def accountOfMint (l : Ledger) (address mint : Pubkey) : Except LedgerError TokenAccount :=
  match l.tokens.get? address with
  | none => .error (.accountNotFound address)
  | some account =>
      if account.mint = mint then .ok account
      else .error (.mintMismatch address mint account.mint)

def openAccount (l : Ledger) (address owner mint : Pubkey) : Except LedgerError Ledger :=
  match l.tokens.get? address with
  | some existing =>
      if existing.owner = owner ∧ existing.mint = mint then .ok l
      else .error (.accountExists address)
  | none => .ok (l.putToken ⟨address, owner, mint, 0⟩)

/-- Moves tokens. Both accounts are looked at before the first is charged, and the second is
looked up again after that: it may be the same account. -/
def moveTokens (l : Ledger) (source target mint : Pubkey) (amount : UInt64) :
    Except LedgerError Ledger := do
  let payer ← l.accountOfMint source mint
  let _ ← l.accountOfMint target mint
  if payer.amount < amount then
    throw (.insufficientFunds source amount payer.amount)
  let charged :=
    { l with tokens := l.tokens.insert source { payer with amount := payer.amount - amount } }
  match charged.tokens.get? target with
  | none => throw (.accountNotFound target)
  | some payee =>
      match Amount.add? payee.amount amount with
      | none => throw .overflow
      | some sum =>
          let paid := { payee with amount := sum }
          return { charged with tokens := charged.tokens.insert target paid }

def moveNative (l : Ledger) (source target : Pubkey) (amount : UInt64) :
    Except LedgerError Ledger :=
  let available := l.nativeBalance source
  if available < amount then .error (.insufficientFunds source amount available)
  else
    let charged := l.putNative source (available - amount)
    match Amount.add? (charged.nativeBalance target) amount with
    | none => .error .overflow
    | some sum => .ok (charged.putNative target sum)

def step (l : Ledger) : LedgerOp → Except LedgerError Ledger
  | .openTokenAccount address owner mint => l.openAccount address owner mint
  | .tokenTransfer source target mint amount => l.moveTokens source target mint amount
  | .nativeTransfer source target amount => l.moveNative source target amount

/-- Carries out operations one after the other, as far as the first that fails. -/
def steps : Ledger → List LedgerOp → Except LedgerError Ledger
  | l, [] => .ok l
  | l, op :: ops => do
      let l ← l.step op
      l.steps ops

/-- Carries out a batch. A batch that fails leaves the ledger as it was. -/
def apply (l : Ledger) (batch : Batch) : Except LedgerError Unit × Ledger :=
  match l.steps batch.ops with
  | .ok moved => (.ok (), moved)
  | .error e => (.error e, l)

end Ledger

end AtomicEscrow
