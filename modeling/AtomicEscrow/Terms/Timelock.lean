import AtomicEscrow.Terms.Basic

set_option autoImplicit false

/-! # Time locks

Two numbers of the terms speak of time. The expiry is a block height below a threshold and a
time in seconds from there on (`Expiry`). The nonce of a nonced swap is spread over the two
time locks that a transaction has (`NoncedLock`): its upper 40 bits move the lock time past
the start of the range of times, its lower 24 bits are the low bits of every input's sequence,
whose high byte marks a sequence without meaning to consensus.
-/

namespace AtomicEscrow

/-- The first expiry that is a time whatever the configuration says. -/
def expiryThreshold : UInt64 := 1000000000

/-- When a swap expires. -/
inductive Expiry
  | blockHeight (height : UInt32)
  | timestamp (seconds : UInt64)
deriving DecidableEq

namespace Expiry

/-- Reads an expiry: a block height below `threshold`, which never counts above
`expiryThreshold`, and a time otherwise. -/
def ofRaw (expiry threshold : UInt64) : Expiry :=
  if expiry < min threshold expiryThreshold then .blockHeight expiry.toUInt32
  else .timestamp expiry

end Expiry

/-- The time locks of a transaction that carries a nonce. -/
structure NoncedLock where
  locktime : UInt64
  sequence : UInt32
deriving DecidableEq

namespace NoncedLock

/-- The lock time of the nonces below 2²⁴. -/
def locktimeBase : Nat := 500000000

/-- The high byte of a sequence that carries part of a nonce, in place. -/
def sequenceTag : UInt32 := 0xF0000000

/-- The bits of a sequence that carry part of a nonce. -/
def sequenceMask : UInt32 := 0x00FFFFFF

/-- The time locks that carry a nonce. -/
def ofNonce (nonce : UInt64) : NoncedLock where
  locktime := (nonce >>> 24) + UInt64.ofNat locktimeBase
  sequence := sequenceTag ||| (nonce.toUInt32 &&& sequenceMask)

/-- The nonce that a transaction's lock time and sequence carry, if they carry one. -/
def toNonce (locktime sequence : UInt32) : Option UInt64 :=
  if locktime.toNat < locktimeBase then none
  else if sequence &&& ~~~sequenceMask ≠ sequenceTag then none
  else
    some ((locktime.toUInt64 - UInt64.ofNat locktimeBase) <<< 24 |||
      (sequence &&& sequenceMask).toUInt64)

end NoncedLock

end AtomicEscrow
