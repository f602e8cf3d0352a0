import AtomicEscrow.Engine.Event
import AtomicEscrow.Operation.Basic
import AtomicEscrow.Settlement.RefundAuthority

set_option autoImplicit false

/-! # Refunding an escrow

The tokens go back to where the offerer took them from. After the expiry the offerer also gets
the security deposit; with the claimer's consent the whole pot goes back to its funder. The
accounts of the request are compared with the record before it is looked at whether the refund
is allowed.
-/

namespace AtomicEscrow

/-- A request to take the tokens of an escrow back. -/
structure RefundRequest where
  hash : Hash
  /-- The address where the escrow has to be. -/
  escrowAddress : Pubkey
  /-- Who submits the request: the offerer of the escrow. -/
  offerer : Pubkey
  claimer : Pubkey
  offererDestination : BalanceAccount
  /-- The user account of the claimer, needed unless the escrow pays out. -/
  claimerUserAccount : Option Pubkey
  auth : RefundAuth
  preamble : Preamble
deriving DecidableEq

/-- What an admitted request will do. -/
structure RefundPlan where
  escrow : Escrow
  /-- The internal balance of the offerer afterwards, unless the tokens were paid in. -/
  refunded : Option UInt64
  kind : RefundKind
  batch : Batch

namespace RefundRequest

/-- The internal balance of the offerer afterwards, unless the tokens were paid in. -/
def checkDestination (req : RefundRequest) (escrow : Escrow) (s : State) :
    Except EscrowError (Option UInt64) :=
  match escrow.terms.payIn, req.offererDestination with
  | true, .token address => do
      require (escrow.offererTokenAccount = some address) .constraintRaw
      let _ ← s.ledger.tokenAccountFor address escrow.mint
      return none
  | false, .internal address => do
      let offerer ← s.registry.userAt address escrow.offerer escrow.mint
      let balance ← creditedBalance offerer.amount escrow.terms.amount "offerer balance overflow"
      return some balance
  | _, _ => throw .constraintRaw

/-- The user account of the claimer, needed unless the escrow pays out. -/
def checkClaimer (req : RefundRequest) (escrow : Escrow) (s : State) : Except EscrowError Unit :=
  if escrow.terms.payOut then .ok ()
  else
    match req.claimerUserAccount with
    | none => .error .constraintRaw
    | some address => do
        let _ ← s.registry.userAt address escrow.claimer escrow.mint
        return ()

/-- The part of the pot that goes to the offerer. -/
def deposit (escrow : Escrow) : RefundKind → UInt64
  | .cooperative => 0
  | .timeout => min escrow.securityDeposit escrow.nativePot

/-- The tokens and the deposit to the offerer, the rest of the pot to its funder. -/
def batch (req : RefundRequest) (escrow : Escrow) (kind : RefundKind) (s : State) : Batch :=
  let deposit := deposit escrow kind
  let tokens :=
    match escrow.terms.payIn, escrow.offererTokenAccount with
    | true, some account =>
        Batch.empty.tokenTransfer (s.registry.vaultAddress escrow.mint) account escrow.mint
          escrow.terms.amount
    | _, _ => Batch.empty
  (tokens.nativeTransfer req.escrowAddress escrow.offerer deposit).nativeTransfer
    req.escrowAddress escrow.funder (escrow.nativePot - deposit)

/-- What the request will do, if it is admitted. -/
def plan (req : RefundRequest) (env : Env) (s : State) : Except EscrowError RefundPlan := do
  let escrow ← s.registry.escrowAt req.hash req.escrowAddress
  require (req.offerer = escrow.offerer ∧ req.claimer = escrow.claimer) .constraintRaw
  let refunded ← req.checkDestination escrow s
  req.checkClaimer escrow s
  req.preamble.checkSource
  let kind ← escrow.authorizeRefund env.config env.now req.auth req.preamble
  return { escrow, refunded, kind, batch := req.batch escrow kind s }

end RefundRequest

/-- How an escrow that is refunded ended, as its claimer sees it. -/
def RefundKind.resolution : RefundKind → Resolution
  | cooperative => .cooperativeClose
  | timeout => .failure

namespace RefundPlan

/-- Gives the tokens back to the internal balance of the offerer, unless they were paid in. -/
def creditOfferer (plan : RefundPlan) : Operation Unit :=
  match plan.refunded with
  | none => pure ()
  | some balance =>
      Operation.updateUser plan.escrow.offerer plan.escrow.mint fun account =>
        { account with amount := balance }

/-- Notes the end of the escrow in the reputation of the claimer, unless the escrow pays out. -/
def noteResolution (plan : RefundPlan) : Operation Unit :=
  if plan.escrow.terms.payOut then pure ()
  else
    Operation.updateUser plan.escrow.claimer plan.escrow.mint fun account =>
      account.resolve plan.escrow.terms plan.kind.resolution

def event (plan : RefundPlan) : RefundEvent where
  hash := plan.escrow.terms.hash
  sequence := plan.escrow.terms.sequence

end RefundPlan

def Operation.refund (env : Env) (req : RefundRequest) : Operation RefundEvent := do
  let plan ← inspect (req.plan env)
  transfer plan.batch
  record (·.removeEscrow req.hash)
  plan.creditOfferer
  plan.noteResolution
  return plan.event

end AtomicEscrow
