import AtomicEscrow.Engine.Event
import AtomicEscrow.Operation.Basic
import AtomicEscrow.Settlement.ClaimProof

set_option autoImplicit false

/-! # Claiming an escrow

Whoever shows the proof that the terms ask for makes the tokens go to the claimer, gets the
bounty, and lets the rest of the pot go back to its funder. The accounts of the request are
compared with the record before the proof is looked at. The proof is part of the request, or it
was staged in a data buffer of the signer, which the claim uses up.
-/

namespace AtomicEscrow

/-- Where the proof of a claim is. -/
inductive ClaimSecret
  | inline (secret : Bytes)
  /-- In a data buffer of the signer. -/
  | buffer (address : Pubkey)
deriving DecidableEq

/-- A request to settle an escrow by a proof. -/
structure ClaimRequest where
  hash : Hash
  /-- The address where the escrow has to be. -/
  escrowAddress : Pubkey
  /-- Who submits the claim and gets the bounty. -/
  signer : Pubkey
  /-- Who gets the rest of the pot: the funder of the escrow. -/
  funder : Pubkey
  claimerDestination : BalanceAccount
  secret : ClaimSecret
  preamble : Preamble
deriving DecidableEq

/-- What an admitted request will do. -/
structure ClaimPlan where
  escrow : Escrow
  /-- The internal balance of the claimer afterwards, unless the tokens are paid out. -/
  credited : Option UInt64
  /-- The data buffer that is used up. -/
  buffer : Option Pubkey
  /-- What the proof makes public. -/
  secret : Hash
  batch : Batch

namespace ClaimRequest

/-- The internal balance of the claimer afterwards, unless the tokens are paid out. -/
def checkDestination (req : ClaimRequest) (escrow : Escrow) (s : State) :
    Except EscrowError (Option UInt64) :=
  match escrow.terms.payOut, req.claimerDestination with
  | true, .token address => do
      require (escrow.claimerTokenAccount = some address) .constraintRaw
      let _ ← s.ledger.tokenAccountFor address escrow.mint
      return none
  | false, .internal address => do
      let claimer ← s.registry.userAt address escrow.claimer escrow.mint
      let balance ← creditedBalance claimer.amount escrow.terms.amount "claimer balance overflow"
      return some balance
  | _, _ => throw .constraintRaw

/-- The proof, and the data buffer it was staged in. -/
def readSecret (req : ClaimRequest) (s : State) : Except EscrowError (Bytes × Option Pubkey) :=
  match req.secret with
  | .inline secret => return (secret, none)
  | .buffer address => do
      let buffer ← s.registry.ownBuffer address req.signer
      return (buffer.data, some address)

/-- The tokens to the claimer, the bounty to the signer, the rest of the pot to its funder. -/
def batch (req : ClaimRequest) (escrow : Escrow) (s : State) : Batch :=
  let pot := escrow.nativePot
  let bounty := min escrow.claimerBounty pot
  let tokens :=
    match escrow.terms.payOut, escrow.claimerTokenAccount with
    | true, some account =>
        Batch.empty.tokenTransfer (s.registry.vaultAddress escrow.mint) account escrow.mint
          escrow.terms.amount
    | _, _ => Batch.empty
  (tokens.nativeTransfer req.escrowAddress req.signer bounty).nativeTransfer req.escrowAddress
    req.funder (pot - bounty)

/-- What the request will do, if it is admitted. -/
def plan (req : ClaimRequest) (env : Env) (s : State) : Except EscrowError ClaimPlan := do
  let escrow ← s.registry.escrowAt req.hash req.escrowAddress
  require (req.funder = escrow.funder) .constraintRaw
  let credited ← req.checkDestination escrow s
  req.preamble.checkSource
  let (secret, buffer) ← req.readSecret s
  let opened ← escrow.terms.verifyClaim env.config.relayProgramId secret req.preamble
  return { escrow, credited, buffer, secret := opened, batch := req.batch escrow s }

end ClaimRequest

namespace ClaimPlan

/-- Credits the claimer, unless the tokens are paid out. -/
def creditClaimer (plan : ClaimPlan) : Operation Unit :=
  match plan.credited with
  | none => pure ()
  | some balance =>
      Operation.updateUser plan.escrow.claimer plan.escrow.mint fun account =>
        { account with amount := balance }.resolve plan.escrow.terms .success

def dropBuffer (plan : ClaimPlan) : Operation Unit :=
  match plan.buffer with
  | none => pure ()
  | some address => Operation.record (·.removeBuffer address)

def event (plan : ClaimPlan) : ClaimEvent where
  hash := plan.escrow.terms.hash
  secret := plan.secret
  sequence := plan.escrow.terms.sequence

end ClaimPlan

def Operation.claim (env : Env) (req : ClaimRequest) : Operation ClaimEvent := do
  let plan ← inspect (req.plan env)
  transfer plan.batch
  record (·.removeEscrow req.hash)
  plan.creditClaimer
  plan.dropBuffer
  return plan.event

end AtomicEscrow
