import AtomicEscrow.Key.Pubkey

set_option autoImplicit false

/-! # Derived addresses

The escrow program owns accounts at addresses nobody holds a key for: each is the digest of
seeds, of a program's key and of a marker. A `Derivation` says which account is meant, its
`preimage` is the byte string that is hashed, and its `address` the resulting key. The seeds
have no separators: their lengths and leading words keep the five kinds apart.
-/

namespace AtomicEscrow

/-- The bytes of an ASCII word. -/
def asciiBytes (word : String) : Bytes := word.toList.map fun c => UInt8.ofNat c.toNat

/-- What ends the bytes hashed into every derived address. -/
def addressMarker : Bytes := asciiBytes "ProgramDerivedAddress"

/-- The bytes hashed into the address that `seeds` give under `program`. -/
def addressPreimage (seeds : List Bytes) (program : Pubkey) : Bytes :=
  seeds.flatten ++ program.toList ++ addressMarker

namespace Pubkey

def derive (seeds : List Bytes) (program : Pubkey) : Pubkey :=
  ⟨Sha256.digest (addressPreimage seeds program)⟩

end Pubkey

/-- The accounts that live at derived addresses. -/
inductive Derivation
  /-- The record and the native pot of the escrow of a hash. -/
  | escrow (program : Pubkey) (hash : Hash)
  /-- The internal balance of an owner in one mint. -/
  | userAccount (program owner mint : Pubkey)
  /-- The token account that holds everything the program keeps of a mint. -/
  | vault (program mint : Pubkey)
  /-- The owner of every vault. -/
  | vaultAuthority (program : Pubkey)
  /-- An ordinary token account, told apart from its owner's others by a serial number. -/
  | tokenAccount (owner mint : Pubkey) (serial : UInt64)
deriving DecidableEq

namespace Derivation

def seeds : Derivation → List Bytes
  | escrow _ hash => [asciiBytes "state", hash.toList]
  | userAccount _ owner mint => [asciiBytes "uservault", owner.toList, mint.toList]
  | vault _ mint => [asciiBytes "vault", mint.toList]
  | vaultAuthority _ => [asciiBytes "authority"]
  | tokenAccount owner mint serial =>
      [asciiBytes "token", owner.toList, mint.toList, littleEndian 8 serial.toNat]

/-- The program under which an account's address is derived; ordinary token accounts belong
to their mint. -/
def program : Derivation → Pubkey
  | escrow program _ => program
  | userAccount program _ _ => program
  | vault program _ => program
  | vaultAuthority program => program
  | tokenAccount _ mint _ => mint

/-- The byte string whose digest is the account's address. -/
def preimage (d : Derivation) : Bytes := addressPreimage d.seeds d.program

def address (d : Derivation) : Pubkey := Pubkey.derive d.seeds d.program

theorem address_eq (d : Derivation) : d.address = ⟨Sha256.digest d.preimage⟩ := rfl

end Derivation

end AtomicEscrow
