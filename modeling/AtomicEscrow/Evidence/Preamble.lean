import AtomicEscrow.Key.Pubkey

set_option autoImplicit false

/-! # Evidence

The program cannot look at the other chain or check a signature by itself. Other programs do
so earlier in the same unit of work and leave *attestations*; the list of them is the
*preamble* of a request. The program believes an attestation only by the program that made it,
and it only ever looks at the first one.
-/

namespace AtomicEscrow

/-- How the tip of a chain is compared with a height. -/
inductive HeightOperator
  | lt
  | le
  | gt
  | ge
  | eq
deriving DecidableEq

namespace HeightOperator

/-- Every operator, in the order of their numbers. -/
def all : List HeightOperator := [lt, le, gt, ge, eq]

def number : HeightOperator → Nat
  | lt => 0
  | le => 1
  | gt => 2
  | ge => 3
  | eq => 4

def name : HeightOperator → String
  | lt => "Lt"
  | le => "Le"
  | gt => "Gt"
  | ge => "Ge"
  | eq => "Eq"

/-- Whether a tip compares with a height as the operator says. -/
def holds (op : HeightOperator) (tip height : UInt32) : Bool :=
  match op with
  | lt => tip < height
  | le => tip ≤ height
  | gt => height < tip
  | ge => height ≤ tip
  | eq => tip = height

end HeightOperator

/-- A fact that an earlier instruction established. -/
inductive Attestation
  /-- A transaction is in the chain, this deep. -/
  | transactionVerified (reversedTxId : Hash) (confirmations : UInt16)
  /-- The tip of the chain compares with the height as the operator says. -/
  | blockHeight (height : UInt32) (operator : HeightOperator)
  /-- The key signed the message. -/
  | ed25519 (pubkey : Pubkey) (message : Bytes)
deriving DecidableEq

/-- An earlier instruction: the program that ran and the fact it established. -/
structure Instruction where
  programId : Pubkey
  attestation : Attestation
deriving DecidableEq

/-- The instructions that ran before a request, and where they were read from. -/
structure Preamble where
  source : Pubkey
  instructions : List Instruction
deriving DecidableEq

namespace Preamble

/-- The only place that instructions may be read from. -/
def trustedSource : Pubkey :=
  ⟨⟨[0x06, 0xa7, 0xd5, 0x17, 0x18, 0x7b, 0xd1, 0x66,
     0x35, 0xda, 0xd4, 0x04, 0x55, 0xfd, 0xc2, 0xc0,
     0xc1, 0x24, 0xc6, 0x8f, 0x21, 0x56, 0x75, 0xa5,
     0xdb, 0xba, 0xcb, 0x5f, 0x08, 0x00, 0x00, 0x00],
    rfl⟩⟩

def empty : Preamble := ⟨trustedSource, []⟩

def push (p : Preamble) (programId : Pubkey) (attestation : Attestation) : Preamble :=
  { p with instructions := p.instructions ++ [⟨programId, attestation⟩] }

/-- The instruction that counts. -/
def first? (p : Preamble) : Option Instruction := p.instructions.head?

/-- The preamble with a signature checked at its end. -/
def withSignature (p : Preamble) (verifier signer : Pubkey) (message : Bytes) : Preamble :=
  p.push verifier (.ed25519 signer message)

end Preamble

end AtomicEscrow
