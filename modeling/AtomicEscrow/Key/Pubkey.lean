import AtomicEscrow.Bytes.Sha256
import AtomicEscrow.Failure.Data

set_option autoImplicit false

/-! # Public keys

A key names a party, a program, a mint or an account. It is 32 bytes, written as 64
hexadecimal digits in lower case and read in either case (`parse_text`). Keys are ordered as
their bytes are.
-/

namespace AtomicEscrow

/-- The key of a party, a program or an account. -/
structure Pubkey where
  bytes : Bytes32
deriving DecidableEq

namespace Pubkey

instance : Ord Pubkey := ⟨fun a b => compare a.bytes b.bytes⟩

def toList (key : Pubkey) : Bytes := key.bytes.toList

theorem length_toList (key : Pubkey) : key.toList.length = 32 := key.bytes.length_toList

/-- The key that a label names: the digest of its text. -/
def ofLabel (label : String) : Pubkey := ⟨Sha256.digest label.toUTF8.data.toList⟩

def text (key : Pubkey) : String := Hex.text key.toList

/-- The digits of a key with the name of the type around them. -/
def described (key : Pubkey) : String := s!"Pubkey({key.text})"

/-- Reads the 64 digits of a key. -/
def parse (s : String) : Except DataError Pubkey :=
  match Hex.bytes32? s with
  | some b => .ok ⟨b⟩
  | none => .error (.invalidPubkey s)

theorem parse_text (key : Pubkey) : parse key.text = .ok key := by
  simp [parse, text, toList, Hex.bytes32?_text]

end Pubkey

end AtomicEscrow
