import AtomicEscrow.Operation.Basic

set_option autoImplicit false

/-! # Deposits, withdrawals and custody

An internal balance is a claim on tokens in the vault of its mint: a deposit moves tokens into
the vault and a withdrawal moves them out. The vault also holds the tokens of the live escrows,
and a custody report sets what it holds against what the program owes.
-/

namespace AtomicEscrow

/-- A request to move tokens between a token account and an internal balance of the signer. -/
structure BalanceRequest where
  signer : Pubkey
  mint : Pubkey
  signerTokenAccount : Pubkey
  /-- The address where the user account of the signer has to be. -/
  userAccount : Pubkey
  amount : UInt64
deriving DecidableEq

/-- What an admitted request will do. -/
structure BalancePlan where
  /-- The internal balance afterwards. -/
  balance : UInt64
  batch : Batch

namespace BalanceRequest

/-- What a deposit will do, if it is admitted. -/
def depositPlan (req : BalanceRequest) (s : State) : Except EscrowError BalancePlan := do
  s.registry.checkUserAddress req.userAccount req.signer req.mint
  let source ← s.ledger.tokenAccountFor req.signerTokenAccount req.mint
  require (source.owner = req.signer ∧ req.amount ≤ source.amount) .constraintRaw
  let balance ← creditedBalance (s.registry.internalBalance req.signer req.mint) req.amount
    "internal balance overflow"
  let vault := s.registry.vaultAddress req.mint
  let opened := Batch.empty.openTokenAccount vault s.registry.vaultAuthority req.mint
  return {
    balance
    batch := opened.tokenTransfer req.signerTokenAccount vault req.mint req.amount }

/-- What a withdrawal will do, if it is admitted. -/
def withdrawPlan (req : BalanceRequest) (s : State) : Except EscrowError BalancePlan := do
  let account ← s.registry.userAt req.userAccount req.signer req.mint
  require (req.amount ≤ account.amount) .constraintRaw
  let _ ← s.ledger.tokenAccountFor req.signerTokenAccount req.mint
  return {
    balance := account.amount - req.amount
    batch := Batch.empty.tokenTransfer (s.registry.vaultAddress req.mint) req.signerTokenAccount
      req.mint req.amount }

end BalanceRequest

namespace Operation

/-- Sets the internal balance of the user account of an owner and a mint, new if need be. -/
def setBalance (owner mint : Pubkey) (balance : UInt64) : Operation Unit :=
  record fun r =>
    r.putUser owner mint
      { (r.user? owner mint).getD (.fresh owner mint) with amount := balance }

/-- Moves tokens into the vault and answers with the internal balance. -/
def deposit (req : BalanceRequest) : Operation UInt64 := do
  let plan ← inspect req.depositPlan
  transfer plan.batch
  setBalance req.signer req.mint plan.balance
  return plan.balance

/-- Moves tokens out of the vault and answers with the internal balance that is left. -/
def withdraw (req : BalanceRequest) : Operation UInt64 := do
  let plan ← inspect req.withdrawPlan
  transfer plan.batch
  updateUser req.signer req.mint ({ · with amount := plan.balance })
  return plan.balance

end Operation

/-! ## Custody -/

/-- What the vault of a mint holds, and what the program owes in that mint. -/
structure CustodyReport where
  vaultBalance : UInt64
  internalBalances : UInt64
  escrowed : UInt64
deriving DecidableEq

/-- Whether every token in the vault belongs to an internal balance or a live escrow. -/
def CustodyReport.isBalanced (r : CustodyReport) : Bool :=
  Amount.add? r.internalBalances r.escrowed = some r.vaultBalance

def sumCapped (amounts : List UInt64) : UInt64 := amounts.foldl Amount.addCapped 0

namespace State

def vaultBalance (s : State) (mint : Pubkey) : UInt64 :=
  s.ledger.tokenBalance (s.registry.vaultAddress mint)

/-- The vault of a mint against what the program owes in that mint. -/
def custody (s : State) (mint : Pubkey) : CustodyReport where
  vaultBalance := s.vaultBalance mint
  internalBalances :=
    sumCapped ((s.registry.users.values.filter (·.mint = mint)).map UserAccount.amount)
  escrowed :=
    sumCapped ((s.registry.escrows.values.filter (·.mint = mint)).map (·.terms.amount))

end State

end AtomicEscrow
