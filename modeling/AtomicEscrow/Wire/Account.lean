import AtomicEscrow.Config.Basic
import AtomicEscrow.Ledger.Basic
import AtomicEscrow.Operation.Balance
import AtomicEscrow.Wire.Basic

set_option autoImplicit false

/-! # Accounts, reports and configurations as JSON

A configuration may leave fields out: they are those of the standard configuration.
-/

namespace AtomicEscrow

instance : Wire TokenAccount where
  write a := .record [
    ("address", write a.address), ("owner", write a.owner), ("mint", write a.mint),
    ("amount", write a.amount)]
  read j := do
    let [address, owner, mint, amount] ← j.fields? ["address", "owner", "mint", "amount"] | none
    return {
      address := ← Json.required address
      owner := ← Json.required owner
      mint := ← Json.required mint
      amount := ← Json.required amount }

instance : Wire CustodyReport where
  write r := .record [
    ("vault_balance", write r.vaultBalance), ("internal_balances", write r.internalBalances),
    ("escrowed", write r.escrowed)]
  read j := do
    let [vault, internal, escrowed] ←
      j.fields? ["vault_balance", "internal_balances", "escrowed"] | none
    return {
      vaultBalance := ← Json.required vault
      internalBalances := ← Json.required internal
      escrowed := ← Json.required escrowed }

instance : Wire Config where
  write c := .record [
    ("program_id", write c.programId), ("relay_program_id", write c.relayProgramId),
    ("ed25519_program_id", write c.ed25519ProgramId),
    ("relay_pruning_factor", write c.relayPruningFactor),
    ("relay_safety_buffer", write c.relaySafetyBuffer),
    ("blockheight_expiry_threshold", write c.blockheightExpiryThreshold),
    ("event_log_capacity", write c.eventLogCapacity), ("log_level", write c.logLevel)]
  read j := do
    let [program, relay, ed25519, factor, buffer, threshold, capacity, level] ←
      j.leadingFields? ["program_id", "relay_program_id", "ed25519_program_id",
        "relay_pruning_factor", "relay_safety_buffer", "blockheight_expiry_threshold",
        "event_log_capacity", "log_level"] | none
    let standard := Config.standard
    return {
      programId := ← Json.defaulted program standard.programId
      relayProgramId := ← Json.defaulted relay standard.relayProgramId
      ed25519ProgramId := ← Json.defaulted ed25519 standard.ed25519ProgramId
      relayPruningFactor := ← Json.defaulted factor standard.relayPruningFactor
      relaySafetyBuffer := ← Json.defaulted buffer standard.relaySafetyBuffer
      blockheightExpiryThreshold := ← Json.defaulted threshold standard.blockheightExpiryThreshold
      eventLogCapacity := ← Json.defaulted capacity standard.eventLogCapacity
      logLevel := ← Json.defaulted level standard.logLevel }

end AtomicEscrow
