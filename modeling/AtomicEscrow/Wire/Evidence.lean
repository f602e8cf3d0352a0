import AtomicEscrow.Evidence.Relay
import AtomicEscrow.Wire.Basic

set_option autoImplicit false

/-! # Evidence as JSON -/

namespace AtomicEscrow

def HeightOperator.ofName? (name : String) : Option HeightOperator :=
  HeightOperator.all.find? fun op => op.name = name

instance : Wire HeightOperator where
  write op := .text op.name
  read j := do
    let name ← j.plainChoice?
    HeightOperator.ofName? name

def Json.requiredBytes (field : Option Json) : Option Bytes := do
  let j ← field
  j.bytes?

instance : Wire Attestation where
  write
    | .transactionVerified txid confirmations =>
        .choice "TransactionVerified" (.record [
          ("reversed_tx_id", write txid), ("confirmations", write confirmations)])
    | .blockHeight height operator =>
        .choice "BlockHeight" (.record [("height", write height), ("operator", write operator)])
    | .ed25519 pubkey message =>
        .choice "Ed25519" (.record [("pubkey", write pubkey), ("message", .ofBytes message)])
  read j := do
    match j.choice? with
    | some ("TransactionVerified", some content) =>
        let [txid, confirmations] ←
          content.fields? ["reversed_tx_id", "confirmations"] | none
        return .transactionVerified (← Json.required txid) (← Json.required confirmations)
    | some ("BlockHeight", some content) =>
        let [height, operator] ← content.fields? ["height", "operator"] | none
        return .blockHeight (← Json.required height) (← Json.required operator)
    | some ("Ed25519", some content) =>
        let [pubkey, message] ← content.fields? ["pubkey", "message"] | none
        return .ed25519 (← Json.required pubkey) (← Json.requiredBytes message)
    | _ => none

instance : Wire Instruction where
  write i := .record [("program_id", write i.programId), ("attestation", write i.attestation)]
  read j := do
    let [programId, attestation] ← j.fields? ["program_id", "attestation"] | none
    return { programId := ← Json.required programId, attestation := ← Json.required attestation }

instance : Wire Preamble where
  write p := .record [("source", write p.source), ("instructions", write p.instructions)]
  read j := do
    let [source, instructions] ← j.fields? ["source", "instructions"] | none
    return { source := ← Json.required source, instructions := ← Json.required instructions }

instance : Wire CommittedHeader where
  write h := .record [
    ("height", write h.height), ("block_hash", write h.blockHash),
    ("merkle_root", write h.merkleRoot)]
  read j := do
    let [height, blockHash, merkleRoot] ←
      j.fields? ["height", "block_hash", "merkle_root"] | none
    return {
      height := ← Json.required height
      blockHash := ← Json.required blockHash
      merkleRoot := ← Json.required merkleRoot }

end AtomicEscrow
