import AtomicEscrow.Bytes.Sha256

set_option autoImplicit false

/-! # Transactions of the other chain

A transaction spends outputs of earlier ones and makes new ones. Its *legacy* form, without
witnesses, is the one whose digest is its id, and the only one a claim may submit. Counts and
lengths are written in as few bytes as they need.

A legacy form cannot say "no inputs": its reader would take the zero count for the marker of the
form with witnesses. So a transaction without inputs goes over the wire with marker and flag
(`wireBytes`), although its id is still that of the legacy form.
-/

namespace AtomicEscrow

/-- The number `n` as a count: one byte below 0xfd, else a mark and two, four or eight bytes. -/
def countBytes (n : Nat) : Bytes :=
  if n < 0xfd then littleEndian 1 n
  else if n < 0x10000 then 0xfd :: littleEndian 2 n
  else if n < 0x100000000 then 0xfe :: littleEndian 4 n
  else 0xff :: littleEndian 8 n

/-- A byte string after its length. -/
def sizedBytes (bs : Bytes) : Bytes := countBytes bs.length ++ bs

/-- What a transaction spends. -/
structure TxInput where
  /-- The id of the transaction whose output is spent. -/
  spentId : Hash
  /-- The place of that output. -/
  spentIndex : UInt32
  script : Bytes
  sequence : UInt32
deriving DecidableEq

/-- What a transaction makes. -/
structure TxOutput where
  value : UInt64
  script : Bytes
deriving DecidableEq

/-- A transaction without witnesses. -/
structure Transaction where
  version : UInt32
  inputs : List TxInput
  outputs : List TxOutput
  locktime : UInt32
deriving DecidableEq

def TxInput.bytes (i : TxInput) : Bytes :=
  i.spentId.toList ++ littleEndian 4 i.spentIndex.toNat ++ sizedBytes i.script ++
    littleEndian 4 i.sequence.toNat

def TxOutput.bytes (o : TxOutput) : Bytes :=
  littleEndian 8 o.value.toNat ++ sizedBytes o.script

namespace Transaction

/-- The legacy form: version, inputs, outputs, lock time. -/
def legacyBytes (tx : Transaction) : Bytes :=
  littleEndian 4 tx.version.toNat ++ countBytes tx.inputs.length ++
    tx.inputs.flatMap TxInput.bytes ++ countBytes tx.outputs.length ++
    tx.outputs.flatMap TxOutput.bytes ++ littleEndian 4 tx.locktime.toNat

/-- The form sent to others: the legacy form, or marker and flag after the version where there
is no input. -/
def wireBytes (tx : Transaction) : Bytes :=
  if tx.inputs.isEmpty then
    littleEndian 4 tx.version.toNat ++ [0x00, 0x01] ++ countBytes 0 ++
      countBytes tx.outputs.length ++ tx.outputs.flatMap TxOutput.bytes ++
      littleEndian 4 tx.locktime.toNat
  else tx.legacyBytes

/-- The id of a transaction, in the byte order of merkle trees. -/
def id (tx : Transaction) : Hash := Sha256.double tx.legacyBytes

/-- What a claimer submits: the place of the paying output, then the transaction. -/
def claimPayload (tx : Transaction) (vout : UInt32) : Bytes :=
  littleEndian 4 vout.toNat ++ tx.wireBytes

end Transaction

end AtomicEscrow
