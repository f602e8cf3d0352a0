import AtomicEscrow.Failure.Data
import AtomicEscrow.Transaction.Basic

set_option autoImplicit false

/-! # Reading transactions

A submitted transaction is refused before any field of it is read if it is as long as an inner
node of a merkle tree, shorter than one, or marked as carrying witnesses. Then the fields are
read one after the other, each count in its shortest form, until nothing is left.
-/

namespace AtomicEscrow

/-- Why a byte string is not the legacy form of a transaction. -/
inductive Malformation
  | tooShort (length : Nat)
  | endOfData
  | longCount
  | witnessFlag (flag : Nat)
  | leftOver
  | noInputs
deriving DecidableEq

def Malformation.text : Malformation → String
  | tooShort length => s!"{length} bytes is below the minimum transaction size"
  | endOfData => "IO error"
  | longCount => "non-minimal varint"
  | witnessFlag flag => s!"unsupported segwit version: {flag}"
  | leftOver => "parse failed: data not consumed entirely when explicitly deserializing"
  | noInputs => "transaction has no inputs"

/-- A malformation as a cause for refusing data. -/
def DataError.ofMalformation (m : Malformation) : DataError := .malformedTransaction m.text

/-- A reader takes what it reads off the front of a byte string. -/
abbrev Reader (α : Type) := StateT Bytes (Except Malformation) α

namespace Reader

def bytes (count : Nat) : Reader Bytes := fun bs =>
  let taken := bs.take count
  if taken.length < count then .error .endOfData else .ok (taken, bs.drop count)

def number (width : Nat) : Reader Nat := do
  let bs ← bytes width
  return littleEndianValue bs

def hash : Reader Hash := do
  let bs ← bytes 32
  match Bytes32.ofList? bs with
  | some h => return h
  | none => throw .endOfData

/-- A number of `width` bytes that no shorter form could write. -/
def longNumber (width least : Nat) : Reader Nat := do
  let n ← number width
  if n < least then throw .longCount
  return n

def count : Reader Nat := do
  let first ← number 1
  if first < 0xfd then return first
  else if first = 0xfd then longNumber 2 0xfd
  else if first = 0xfe then longNumber 4 0x10000
  else longNumber 8 0x100000000

def sizedBytes : Reader Bytes := do
  let length ← count
  bytes length

def many {α : Type} (item : Reader α) : Nat → Reader (List α)
  | 0 => return []
  | n + 1 => do
      let first ← item
      let rest ← many item n
      return first :: rest

def input : Reader TxInput := do
  let spentId ← hash
  let spentIndex ← number 4
  let script ← sizedBytes
  let sequence ← number 4
  return ⟨spentId, UInt32.ofNat spentIndex, script, UInt32.ofNat sequence⟩

def output : Reader TxOutput := do
  let value ← number 8
  let script ← sizedBytes
  return ⟨UInt64.ofNat value, script⟩

/-- Takes the inputs of a transaction. No inputs at all mark another form, whose flag follows. -/
def inputs : Reader (List TxInput) := do
  let n ← count
  if n = 0 then
    let flag ← number 1
    throw (.witnessFlag flag)
  many input n

def transaction : Reader Transaction := do
  let version ← number 4
  let ins ← inputs
  let n ← count
  let outs ← many output n
  let locktime ← number 4
  return ⟨UInt32.ofNat version, ins, outs, UInt32.ofNat locktime⟩

/-- What a reader takes from a byte string, if it takes all of it. -/
def whole {α : Type} (reader : Reader α) (bs : Bytes) : Except Malformation α :=
  match reader.run bs with
  | .error e => .error e
  | .ok (a, []) => .ok a
  | .ok (_, _ :: _) => .error .leftOver

end Reader

/-! ## Submitted transactions -/

/-- A transaction as it was submitted, with the digest of the submitted bytes. -/
structure SubmittedTransaction where
  transaction : Transaction
  /-- The id of the transaction, in the byte order of merkle trees. -/
  txid : Hash
deriving DecidableEq

namespace SubmittedTransaction

/-- The length of an inner node of a merkle tree. -/
def merkleNodeLength : Nat := 64

def read (raw : Bytes) : Except DataError SubmittedTransaction :=
  if raw.length = merkleNodeLength then .error (.merkleNodeLength raw.length)
  else if raw.length < merkleNodeLength then .error (.ofMalformation (.tooShort raw.length))
  else if raw.getD 4 0 = 0 ∧ raw.getD 5 0 = 1 then .error .witnessNotStripped
  else
    match Reader.transaction.whole raw with
    | .error e => .error (.ofMalformation e)
    | .ok tx => .ok ⟨tx, Sha256.double raw⟩

def output? (tx : SubmittedTransaction) (vout : UInt32) : Option TxOutput :=
  tx.transaction.outputs[vout.toNat]?

/-- The high bits that free a sequence of any meaning to consensus. -/
def inertBits : UInt32 := 0xF0000000

/-- The sequence that all inputs share, required to have no meaning to consensus. -/
def uniformSequence (tx : SubmittedTransaction) : Except DataError UInt32 :=
  match tx.transaction.inputs with
  | [] => .error (.ofMalformation .noInputs)
  | first :: rest =>
      if first.sequence &&& inertBits ≠ inertBits then
        .error (.sequenceHasConsensusMeaning first.sequence)
      else if rest.any (·.sequence ≠ first.sequence) then .error .nonUniformSequence
      else .ok first.sequence

end SubmittedTransaction

end AtomicEscrow
