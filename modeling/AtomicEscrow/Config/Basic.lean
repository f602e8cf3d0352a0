import AtomicEscrow.Key.Pubkey
import AtomicEscrow.Terms.Timelock

set_option autoImplicit false

/-! # Configuration

Which programs the engine trusts, how deep a payment may have to be buried, where heights end
and times begin, and how many events are kept. A configuration is *valid* when every expiry
below its threshold fits in 32 bits and its event log has room.
-/

namespace AtomicEscrow

/-- The configuration of an engine. -/
structure Config where
  /-- The namespace of every derived address. -/
  programId : Pubkey
  /-- Only attestations of this program speak of the other chain. -/
  relayProgramId : Pubkey
  /-- Only attestations of this program speak of signatures. -/
  ed25519ProgramId : Pubkey
  /-- How many blocks the relay keeps. -/
  relayPruningFactor : UInt16
  /-- How many blocks of those are kept out of reach. -/
  relaySafetyBuffer : UInt16
  /-- Expiries below it are block heights. -/
  blockheightExpiryThreshold : UInt64
  /-- How many of the latest events are kept. -/
  eventLogCapacity : UInt64
  logLevel : String
deriving DecidableEq

/-- Why there is no configuration. -/
inductive ConfigError
  /-- The text of the configuration cannot be read. -/
  | unreadable
  /-- One of the sources of the configuration cannot be read. -/
  | unbuildable
  /-- A value does not fit its field. -/
  | invalid
  | thresholdTooHigh (threshold : UInt64)
  | noEventLog
deriving DecidableEq

def ConfigError.message : ConfigError → String
  | unreadable => "failed to parse engine configuration"
  | unbuildable => "failed to build engine configuration"
  | invalid => "invalid engine configuration"
  | thresholdTooHigh threshold =>
      s!"blockheight_expiry_threshold {threshold.toNat} exceeds {expiryThreshold.toNat}"
  | noEventLog => "event_log_capacity must be positive"

namespace Config

/-- The configuration where nothing is said. -/
def standard : Config where
  programId :=
    ⟨⟨[0x36, 0xfd, 0xce, 0x29, 0x41, 0x06, 0xa1, 0x24,
       0xdc, 0x96, 0xee, 0xe5, 0xdd, 0x86, 0x61, 0x93,
       0x48, 0x6c, 0x7b, 0x10, 0x09, 0x62, 0xda, 0x05,
       0xa6, 0xcb, 0x3e, 0xea, 0x20, 0x01, 0x0c, 0x42],
      rfl⟩⟩
  relayProgramId :=
    ⟨⟨[0x22, 0x66, 0x69, 0x9a, 0x3c, 0xc8, 0xb8, 0x3b,
       0x2e, 0x67, 0xc2, 0xdb, 0xf2, 0x4a, 0xc7, 0x34,
       0x1d, 0x5b, 0xb3, 0x49, 0xe8, 0x12, 0xfe, 0x08,
       0xbc, 0x03, 0x87, 0x98, 0x75, 0x59, 0xd4, 0xcd],
      rfl⟩⟩
  ed25519ProgramId :=
    ⟨⟨[0x03, 0x7d, 0x46, 0xd6, 0x7c, 0x93, 0xfb, 0xbe,
       0x12, 0xf9, 0x42, 0x8f, 0x83, 0x8d, 0x40, 0xff,
       0x05, 0x70, 0x74, 0x49, 0x27, 0xf4, 0x8a, 0x64,
       0xfc, 0xca, 0x70, 0x44, 0x80, 0x00, 0x00, 0x00],
      rfl⟩⟩
  relayPruningFactor := 250
  relaySafetyBuffer := 50
  blockheightExpiryThreshold := expiryThreshold
  eventLogCapacity := 10000
  logLevel := "info"

/-- The deepest payment that an escrow may ask for: a deeper one could start from a header the
relay no longer keeps. -/
def maxConfirmations (c : Config) : UInt16 :=
  if c.relaySafetyBuffer ≤ c.relayPruningFactor then c.relayPruningFactor - c.relaySafetyBuffer
  else 0

/-- Refuses values that the program cannot honour. -/
def validate (c : Config) : Except ConfigError Unit :=
  if expiryThreshold < c.blockheightExpiryThreshold then
    .error (.thresholdTooHigh c.blockheightExpiryThreshold)
  else if c.eventLogCapacity = 0 then .error .noEventLog
  else .ok ()

end Config

end AtomicEscrow
