import AtomicEscrow.Engine.Event
import AtomicEscrow.Operation.Basic

set_option autoImplicit false

/-! # Locking tokens in an escrow

The offerer locks tokens under terms. They come from a token account into the vault, or out of
the internal balance of the offerer, where they are in the vault already; in the second case
the claimer puts up the native pot. The account that a claim will pay to has to exist, so that
no tokens are locked for nobody.
-/

namespace AtomicEscrow

/-- A request to lock tokens under terms. -/
structure LockRequest where
  terms : Terms
  offerer : Pubkey
  claimer : Pubkey
  mint : Pubkey
  /-- The address where the escrow has to be. -/
  escrowAddress : Pubkey
  funding : FundingSource
  /-- Where a claim will pay to. -/
  claimerDestination : BalanceAccount
  /-- The commitment to the expected output, passed on unread. -/
  txoHash : Hash
  /-- How long the parties stand by these terms. -/
  authExpiry : UInt64
deriving DecidableEq

/-- What an admitted request will do. -/
structure LockPlan where
  escrow : Escrow
  batch : Batch

/-- What the funding of an escrow amounts to. -/
structure FundingPlan where
  offererTokenAccount : Option Pubkey
  securityDeposit : UInt64
  claimerBounty : UInt64
  batch : Batch

namespace LockRequest

/-- The terms and the address, before any account is looked at. -/
def checkTerms (req : LockRequest) (env : Env) (s : State) : Except EscrowError Unit := do
  require (env.now < req.authExpiry) .authExpired
  require (s.registry.escrowAddress req.terms.hash = req.escrowAddress) .constraintSeeds
  require (s.registry.escrow? req.terms.hash = none) .accountAlreadyInitialized
  require (req.terms.confirmations ≤ env.config.maxConfirmations) .tooManyConfirmations
  require (req.terms.kind = .chainNonced ∨ req.terms.nonce = 0) .invalidSwapDataNonce
  require (req.terms.payIn = req.funding.isPayIn) .invalidSwapDataPayIn

/-- The token account that a claim will pay to, if it will pay to one. -/
def checkDestination (req : LockRequest) (s : State) :
    Except EscrowError (Option Pubkey) :=
  match req.terms.payOut, req.claimerDestination with
  | true, .token address => do
      let _ ← s.ledger.tokenAccountFor address req.mint
      return some address
  | false, .internal address => do
      let _ ← s.registry.userAt address req.claimer req.mint
      return none
  | _, _ => throw .constraintRaw

/-- Where the tokens and the pot come from. -/
def checkFunding (req : LockRequest) (s : State) : Except EscrowError FundingPlan :=
  match req.funding with
  | .payIn source => do
      let account ← s.ledger.tokenAccountFor source req.mint
      require (account.owner = req.offerer ∧ req.terms.amount ≤ account.amount) .constraintRaw
      let vault := s.registry.vaultAddress req.mint
      let opened := Batch.empty.openTokenAccount vault s.registry.vaultAuthority req.mint
      return {
        offererTokenAccount := some source
        securityDeposit := 0
        claimerBounty := 0
        batch := opened.tokenTransfer source vault req.mint req.terms.amount }
  | .internal address securityDeposit claimerBounty => do
      let account ← s.registry.userAt address req.offerer req.mint
      require (req.terms.amount ≤ account.amount) .constraintRaw
      let pot := max securityDeposit claimerBounty
      require (pot ≤ s.ledger.nativeBalance req.claimer) .constraintRaw
      return {
        offererTokenAccount := none
        securityDeposit
        claimerBounty
        batch := Batch.empty.nativeTransfer req.claimer req.escrowAddress pot }

/-- What the request will do, if it is admitted. -/
def plan (req : LockRequest) (env : Env) (s : State) :
    Except EscrowError LockPlan := do
  req.checkTerms env s
  let claimerTokenAccount ← req.checkDestination s
  let funding ← req.checkFunding s
  return {
    escrow := {
      terms := req.terms
      offerer := req.offerer
      offererTokenAccount := funding.offererTokenAccount
      claimer := req.claimer
      claimerTokenAccount
      mint := req.mint
      claimerBounty := funding.claimerBounty
      securityDeposit := funding.securityDeposit }
    batch := funding.batch }

def event (req : LockRequest) : LockEvent where
  hash := req.terms.hash
  txoHash := req.txoHash
  nonce := req.terms.nonce
  kind := req.terms.kind
  sequence := req.terms.sequence

/-- Takes the tokens out of the internal balance of the offerer, unless they were paid in. -/
def debitOfferer (req : LockRequest) : Operation Unit :=
  if req.terms.payIn then pure ()
  else
    Operation.updateUser req.offerer req.mint fun account =>
      { account with amount := account.amount - req.terms.amount }

end LockRequest

def Operation.lock (env : Env) (req : LockRequest) : Operation LockEvent := do
  let plan ← inspect (req.plan env)
  transfer plan.batch
  req.debitOfferer
  record (·.putEscrow plan.escrow)
  return req.event

end AtomicEscrow
