import AtomicEscrow.Engine.Basic
import AtomicEscrow.Sample.Swap

set_option autoImplicit false

/-! # The testbed

A program with funded parties: the offerer holds tokens and an internal balance, the claimer an
empty user account, and both have native funds. A third party, the watchtower, has nothing.
-/

namespace AtomicEscrow

/-- A funded program and the keys of everything in it. -/
structure Testbed where
  state : State
  mint : Pubkey
  offerer : Pubkey
  claimer : Pubkey
  watchtower : Pubkey
  offererTokenAccount : Pubkey
  claimerTokenAccount : Pubkey
  /-- A token account of the offerer in another mint. -/
  otherMintAccount : Pubkey

namespace Testbed

def tokenBalance : UInt64 := 10000

/-- How many of them go to its internal balance. -/
def internalBalance : UInt64 := 1000

/-- The native funds that either party starts with. -/
def nativeBalance : UInt64 := 1000

def blank : Engine := .new .standard Sample.now .empty

def depositOf (engine : Engine) (owner account : Pubkey) (amount : UInt64) : Request :=
  .deposit {
    signer := owner
    mint := Sample.mint
    signerTokenAccount := account
    userAccount := engine.state.registry.userAddress owner Sample.mint
    amount }

def new : Testbed :=
  let (offererAccount, engine) := blank.createTokenAccount Sample.offerer Sample.mint
  let (_, engine) := engine.mintTo offererAccount tokenBalance
  let (claimerAccount, engine) := engine.createTokenAccount Sample.claimer Sample.mint
  let (otherAccount, engine) := engine.createTokenAccount Sample.offerer (.ofLabel "other-mint")
  let (_, engine) := engine.airdrop Sample.offerer nativeBalance
  let (_, engine) := engine.airdrop Sample.claimer nativeBalance
  let (_, engine) := engine.perform (depositOf engine Sample.offerer offererAccount internalBalance)
  let (_, engine) := engine.perform (depositOf engine Sample.claimer claimerAccount 0)
  { state := engine.state
    mint := Sample.mint
    offerer := Sample.offerer
    claimer := Sample.claimer
    watchtower := .ofLabel "watchtower"
    offererTokenAccount := offererAccount
    claimerTokenAccount := claimerAccount
    otherMintAccount := otherAccount }

end Testbed

end AtomicEscrow
