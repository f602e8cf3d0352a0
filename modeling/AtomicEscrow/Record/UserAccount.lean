import AtomicEscrow.Key.Pubkey
import AtomicEscrow.Number.Amount
import AtomicEscrow.Terms.Basic

set_option autoImplicit false

/-! # User accounts and reputation

A user account holds the internal balance of one owner in one mint, and how the escrows in
which the owner was the claimer ended: for each way to end and each kind of swap, how many
there were and how much they were about. These numbers only grow, and stay at the largest word
rather than wrap.
-/

namespace AtomicEscrow

/-- A number for each kind of swap. -/
structure Tally where
  htlc : UInt64
  chain : UInt64
  chainNonced : UInt64
  chainTxhash : UInt64
deriving DecidableEq

namespace Tally

def zero : Tally := ⟨0, 0, 0, 0⟩

def get (t : Tally) : SwapKind → UInt64
  | .htlc => t.htlc
  | .chain => t.chain
  | .chainNonced => t.chainNonced
  | .chainTxhash => t.chainTxhash

/-- The tally with an amount added for one kind. -/
def add (t : Tally) (kind : SwapKind) (amount : UInt64) : Tally :=
  match kind with
  | .htlc => { t with htlc := Amount.addCapped t.htlc amount }
  | .chain => { t with chain := Amount.addCapped t.chain amount }
  | .chainNonced => { t with chainNonced := Amount.addCapped t.chainNonced amount }
  | .chainTxhash => { t with chainTxhash := Amount.addCapped t.chainTxhash amount }

theorem get_add (t : Tally) (kind kind' : SwapKind) (amount : UInt64) :
    (t.add kind amount).get kind' =
      if kind = kind' then Amount.addCapped (t.get kind') amount else t.get kind' := by
  cases kind <;> cases kind' <;> rfl

def toList (t : Tally) : List UInt64 := [t.htlc, t.chain, t.chainNonced, t.chainTxhash]

end Tally

/-- How many escrows ended one way, and how much they were about. -/
structure TrackRecord where
  count : Tally
  volume : Tally
deriving DecidableEq

namespace TrackRecord

def empty : TrackRecord := ⟨.zero, .zero⟩

/-- The record with one more escrow. -/
def add (r : TrackRecord) (kind : SwapKind) (amount : UInt64) : TrackRecord :=
  ⟨r.count.add kind 1, r.volume.add kind amount⟩

end TrackRecord

/-- How an escrow ended, as its claimer sees it. -/
inductive Resolution
  /-- It was claimed. -/
  | success
  /-- It was refunded with the consent of the claimer. -/
  | cooperativeClose
  /-- It was refunded after the claimer let it expire. -/
  | failure
deriving DecidableEq

/-- The internal balance and the reputation of an owner in one mint. -/
structure UserAccount where
  owner : Pubkey
  mint : Pubkey
  amount : UInt64
  success : TrackRecord
  failure : TrackRecord
  cooperativeClose : TrackRecord
deriving DecidableEq

namespace UserAccount

/-- The account of an owner who has done nothing yet. -/
def fresh (owner mint : Pubkey) : UserAccount := ⟨owner, mint, 0, .empty, .empty, .empty⟩

/-- The record of one way to end. -/
def trackRecord (a : UserAccount) : Resolution → TrackRecord
  | .success => a.success
  | .cooperativeClose => a.cooperativeClose
  | .failure => a.failure

/-- The account after an escrow over the given terms ended. -/
def resolve (a : UserAccount) (terms : Terms) (resolution : Resolution) : UserAccount :=
  match resolution with
  | .success => { a with success := a.success.add terms.kind terms.amount }
  | .cooperativeClose =>
      { a with cooperativeClose := a.cooperativeClose.add terms.kind terms.amount }
  | .failure => { a with failure := a.failure.add terms.kind terms.amount }

end UserAccount

/-- The reputation of an owner for one kind of swap. -/
structure ReputationSummary where
  kind : SwapKind
  successCount : UInt64
  successVolume : UInt64
  cooperativeCloseCount : UInt64
  cooperativeCloseVolume : UInt64
  failureCount : UInt64
  failureVolume : UInt64
deriving DecidableEq

/-- The reputation of an owner, kind by kind. -/
def UserAccount.reputation (a : UserAccount) : List ReputationSummary :=
  SwapKind.all.map fun kind =>
    { kind
      successCount := a.success.count.get kind
      successVolume := a.success.volume.get kind
      cooperativeCloseCount := a.cooperativeClose.count.get kind
      cooperativeCloseVolume := a.cooperativeClose.volume.get kind
      failureCount := a.failure.count.get kind
      failureVolume := a.failure.volume.get kind }

end AtomicEscrow
