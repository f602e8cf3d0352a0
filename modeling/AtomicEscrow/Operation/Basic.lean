import AtomicEscrow.Config.Basic
import AtomicEscrow.Evidence.Preamble
import AtomicEscrow.Ledger.Batch
import AtomicEscrow.Record.Registry

set_option autoImplicit false

/-! # Operations

An operation answers a request and changes the state of the program. It has two parts. First it
looks at everything the request names and *admits* it or not, without touching the state; a
request that is admitted comes with a plan. Then it carries out the plan: one batch of the
ledger and the changes of the records.

An operation that fails leaves whatever state it reached. So it is a fact about the plans, and
not a matter of how operations are put together, that a refused request changes nothing.
-/

namespace AtomicEscrow

/-- Everything the program owns or moves. -/
structure State where
  registry : Registry
  ledger : Ledger

/-- The state of a program without records. -/
def State.new (programId : Pubkey) (ledger : Ledger) : State := ⟨.empty programId, ledger⟩

/-- What an operation may look at besides the state. -/
structure Env where
  config : Config
  now : UInt64

/-- A computation on the state that answers or fails, and leaves a state either way. -/
def Operation (α : Type) : Type := State → Except EscrowError α × State

namespace Operation

variable {α β : Type}

instance : Monad Operation where
  pure a := fun s => (.ok a, s)
  bind op next := fun s =>
    match op s with
    | (.ok a, s) => next a s
    | (.error e, s) => (.error e, s)

/-- What an operation answers and the state it leaves. -/
def run (op : Operation α) (s : State) : Except EscrowError α × State := op s

/-- A check of the state, which it leaves as it is. -/
def inspect (check : State → Except EscrowError α) : Operation α := fun s => (check s, s)

/-- Moves value by a batch. -/
def transfer (batch : Batch) : Operation Unit := fun s =>
  match s.ledger.apply batch with
  | (.ok (), ledger) => (.ok (), { s with ledger })
  | (.error e, ledger) => (.error (.ofLedger e), { s with ledger })

/-- Changes the records in a way that cannot fail. -/
def record (change : Registry → Registry) : Operation Unit := fun s =>
  (.ok (), { s with registry := change s.registry })

/-- Changes the user account of an owner and a mint, which has to exist. -/
def updateUser (owner mint : Pubkey) (change : UserAccount → UserAccount) : Operation Unit :=
  fun s =>
    match s.registry.user? owner mint with
    | none => (.error .accountNotInitialized, s)
    | some account =>
        (.ok (), { s with registry := s.registry.putUser owner mint (change account) })

@[simp] theorem run_pure (a : α) (s : State) : (pure a : Operation α).run s = (.ok a, s) := rfl

theorem run_bind (op : Operation α) (next : α → Operation β) (s : State) :
    (op >>= next).run s =
      match op.run s with
      | (.ok a, s) => (next a).run s
      | (.error e, s) => (.error e, s) := rfl

end Operation

/-! ## Checks that several operations share -/

/-- Goes on only if a condition holds. -/
def require (condition : Prop) [Decidable condition] (e : EscrowError) : Except EscrowError Unit :=
  if condition then .ok () else .error e

theorem require_eq_ok_iff {condition : Prop} [Decidable condition] {e : EscrowError} {u : Unit} :
    require condition e = .ok u ↔ condition := by
  unfold require
  split <;> simp [*]

/-- The token account at an address, which has to hold a given mint. -/
def Ledger.tokenAccountFor (l : Ledger) (address mint : Pubkey) :
    Except EscrowError TokenAccount :=
  match l.tokenAccount? address with
  | none => .error .accountNotInitialized
  | some account => if account.mint ≠ mint then .error .constraintTokenMint else .ok account

/-- Whether the instructions were read from the place where they have to be. -/
def Preamble.checkSource (p : Preamble) : Except EscrowError Unit :=
  require (p.source = trustedSource) .constraintAddress

/-- A balance after a credit, which has to fit in 64 bits. -/
def creditedBalance (balance amount : UInt64) (reason : String) : Except EscrowError UInt64 :=
  match Amount.add? balance amount with
  | none => .error (.programFault reason)
  | some sum => .ok sum

end AtomicEscrow
