import AtomicEscrow.Failure.Escrow
import AtomicEscrow.Key.Address
import AtomicEscrow.Record.Escrow
import AtomicEscrow.Record.Table
import AtomicEscrow.Record.UserAccount

set_option autoImplicit false

/-! # The registry

The records that the program owns: escrows under their hash, user accounts under the address
derived from owner and mint, data buffers under the address their owner chose. A request names
the accounts it means; the registry compares each with the address where the account has to be
before it looks for it.
-/

namespace AtomicEscrow

/-- The records of a program. -/
structure Registry where
  programId : Pubkey
  escrows : Table Hash Escrow
  users : Table Pubkey UserAccount
  buffers : Table Pubkey DataBuffer

namespace Registry

def empty (programId : Pubkey) : Registry := ⟨programId, .empty, .empty, .empty⟩

/-! ## Addresses -/

def escrowAddress (r : Registry) (hash : Hash) : Pubkey :=
  (Derivation.escrow r.programId hash).address

def userAddress (r : Registry) (owner mint : Pubkey) : Pubkey :=
  (Derivation.userAccount r.programId owner mint).address

def vaultAddress (r : Registry) (mint : Pubkey) : Pubkey :=
  (Derivation.vault r.programId mint).address

/-- The owner of every vault. -/
def vaultAuthority (r : Registry) : Pubkey := (Derivation.vaultAuthority r.programId).address

/-! ## Escrows -/

def escrow? (r : Registry) (hash : Hash) : Option Escrow := r.escrows.get? hash

/-- The live escrow of a hash, at the address where it has to be. -/
def escrowAt (r : Registry) (hash : Hash) (address : Pubkey) : Except EscrowError Escrow :=
  if r.escrowAddress hash ≠ address then .error .constraintSeeds
  else
    match r.escrow? hash with
    | none => .error .accountNotInitialized
    | some escrow => .ok escrow

def putEscrow (r : Registry) (escrow : Escrow) : Registry :=
  { r with escrows := r.escrows.insert escrow.terms.hash escrow }

def removeEscrow (r : Registry) (hash : Hash) : Registry :=
  { r with escrows := r.escrows.erase hash }

/-! ## User accounts -/

def user? (r : Registry) (owner mint : Pubkey) : Option UserAccount :=
  r.users.get? (r.userAddress owner mint)

/-- The internal balance of an owner in a mint, nothing where there is no account. -/
def internalBalance (r : Registry) (owner mint : Pubkey) : UInt64 :=
  ((r.user? owner mint).map UserAccount.amount).getD 0

/-- Whether an address is that of the user account of an owner and a mint. -/
def checkUserAddress (r : Registry) (address owner mint : Pubkey) : Except EscrowError Unit :=
  if r.userAddress owner mint ≠ address then .error .constraintSeeds else .ok ()

/-- The user account of an owner and a mint, at the address where it has to be. -/
def userAt (r : Registry) (address owner mint : Pubkey) : Except EscrowError UserAccount := do
  r.checkUserAddress address owner mint
  match r.users.get? address with
  | none => throw .accountNotInitialized
  | some account => return account

/-- The registry with a user account at the address of an owner and a mint. -/
def putUser (r : Registry) (owner mint : Pubkey) (account : UserAccount) : Registry :=
  { r with users := r.users.insert (r.userAddress owner mint) account }

/-! ## Data buffers -/

def buffer? (r : Registry) (address : Pubkey) : Option DataBuffer := r.buffers.get? address

/-- The data buffer at an address, which has to be the signer's. -/
def ownBuffer (r : Registry) (address signer : Pubkey) : Except EscrowError DataBuffer :=
  match r.buffer? address with
  | none => .error .accountNotInitialized
  | some buffer => if buffer.owner ≠ signer then .error .invalidUserData else .ok buffer

def putBuffer (r : Registry) (address : Pubkey) (buffer : DataBuffer) : Registry :=
  { r with buffers := r.buffers.insert address buffer }

def removeBuffer (r : Registry) (address : Pubkey) : Registry :=
  { r with buffers := r.buffers.erase address }

end Registry

end AtomicEscrow
