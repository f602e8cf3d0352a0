import AtomicEscrow.Engine.EventLog
import AtomicEscrow.Operation.Balance
import AtomicEscrow.Operation.Claim
import AtomicEscrow.Operation.Lock
import AtomicEscrow.Operation.Refund
import AtomicEscrow.Operation.Staging

set_option autoImplicit false

/-! # The engine

The engine answers requests one at a time, at the time that its clock shows, and publishes what
it accepted. Two requests about one escrow can therefore not both succeed, however close they
come. Apart from requests there are things that happen around the engine: the clock moves, and
the ledger is funded. A history of the engine is a list of both (`Step`, `Engine.run`).
-/

namespace AtomicEscrow

/-- An engine with everything it keeps. -/
structure Engine where
  config : Config
  /-- The time, in seconds. -/
  now : UInt64
  state : State
  log : EventLog
  feed : Feed

/-- A request to the engine. -/
inductive Request
  | lock (req : LockRequest)
  | claim (req : ClaimRequest)
  | refund (req : RefundRequest)
  | deposit (req : BalanceRequest)
  | withdraw (req : BalanceRequest)
  | openBuffer (signer address : Pubkey)
  | writeBuffer (req : WriteRequest)
  | closeBuffer (signer address : Pubkey)
deriving DecidableEq

/-- What the engine answers to a request it accepts. -/
inductive Reply
  | event (event : SwapEvent)
  | balance (amount : UInt64)
  | length (bytes : Nat)
  | done
deriving DecidableEq

/-- The event that an answer tells of. -/
def Reply.event? : Reply → Option SwapEvent
  | event e => some e
  | _ => none

/-- The operation that answers a request. -/
def Request.operation (env : Env) : Request → Operation Reply
  | lock req => do
      let e ← Operation.lock env req
      return .event (.locked e)
  | claim req => do
      let e ← Operation.claim env req
      return .event (.claimed e)
  | refund req => do
      let e ← Operation.refund env req
      return .event (.refunded e)
  | deposit req => do
      let balance ← Operation.deposit req
      return .balance balance
  | withdraw req => do
      let balance ← Operation.withdraw req
      return .balance balance
  | openBuffer signer address => do
      Operation.openBuffer signer address
      return .done
  | writeBuffer req => do
      let length ← Operation.writeBuffer req
      return .length length
  | closeBuffer signer address => do
      Operation.closeBuffer signer address
      return .done

namespace Engine

/-- An engine that goes on from a given state. -/
def ofState (config : Config) (now : UInt64) (state : State) : Engine where
  config
  now
  state
  log := .empty config.eventLogCapacity.toNat
  feed := .empty

/-- An engine of a program without records. -/
def new (config : Config) (now : UInt64) (ledger : Ledger) : Engine :=
  ofState config now (.new config.programId ledger)

/-- What operations may look at. -/
def env (engine : Engine) : Env := ⟨engine.config, engine.now⟩

/-- The engine after an event was noted in the log and published. -/
def publish (engine : Engine) (event : SwapEvent) : Engine :=
  { engine with log := engine.log.push event, feed := engine.feed.publish event }

def perform (engine : Engine) (request : Request) : Except EscrowError Reply × Engine :=
  match (request.operation engine.env).run engine.state with
  | (.error e, state) => (.error e, { engine with state })
  | (.ok reply, state) =>
      let engine := { engine with state }
      match reply.event? with
      | none => (.ok reply, engine)
      | some event => (.ok reply, engine.publish event)

def performAll (engine : Engine) : List Request → List (Except EscrowError Reply) × Engine
  | [] => ([], engine)
  | request :: rest =>
      let (answer, engine) := engine.perform request
      let (answers, engine) := engine.performAll rest
      (answer :: answers, engine)

/-! ## Around the engine -/

def setTime (engine : Engine) (now : UInt64) : Engine := { engine with now }

/-- The engine some seconds later. The clock wraps. -/
def advance (engine : Engine) (seconds : UInt64) : Engine :=
  { engine with now := engine.now + seconds }

def withLedger (engine : Engine) (ledger : Ledger) : Engine :=
  { engine with state := { engine.state with ledger } }

/-- Creates a token account outside the program and gives its address. -/
def createTokenAccount (engine : Engine) (owner mint : Pubkey) : Pubkey × Engine :=
  let (address, ledger) := engine.state.ledger.createTokenAccount owner mint
  (address, engine.withLedger ledger)

/-- Mints tokens outside the program. -/
def mintTo (engine : Engine) (address : Pubkey) (amount : UInt64) :
    Except LedgerError Unit × Engine :=
  match engine.state.ledger.mintTo address amount with
  | .ok ledger => (.ok (), engine.withLedger ledger)
  | .error e => (.error e, engine)

/-- Funds a native balance outside the program. -/
def airdrop (engine : Engine) (owner : Pubkey) (amount : UInt64) :
    Except LedgerError Unit × Engine :=
  match engine.state.ledger.airdrop owner amount with
  | .ok ledger => (.ok (), engine.withLedger ledger)
  | .error e => (.error e, engine)

/-- Moves value outside the program. -/
def applyBatch (engine : Engine) (batch : Batch) : Except LedgerError Unit × Engine :=
  let (answer, ledger) := engine.state.ledger.apply batch
  (answer, engine.withLedger ledger)

end Engine

/-! ## Histories -/

/-- Something that happens to an engine. -/
inductive Step
  | request (request : Request)
  | setTime (now : UInt64)
  | advance (seconds : UInt64)
  | createTokenAccount (owner mint : Pubkey)
  | mintTo (address : Pubkey) (amount : UInt64)
  | airdrop (owner : Pubkey) (amount : UInt64)
  | applyBatch (batch : Batch)
deriving DecidableEq

namespace Engine

def step (engine : Engine) : Step → Engine
  | .request request => (engine.perform request).2
  | .setTime now => engine.setTime now
  | .advance seconds => engine.advance seconds
  | .createTokenAccount owner mint => (engine.createTokenAccount owner mint).2
  | .mintTo address amount => (engine.mintTo address amount).2
  | .airdrop owner amount => (engine.airdrop owner amount).2
  | .applyBatch batch => (engine.applyBatch batch).2

/-- The engine after a history. -/
def run (engine : Engine) (steps : List Step) : Engine := steps.foldl step engine

end Engine

end AtomicEscrow
