import AtomicEscrow.Operation.Basic

set_option autoImplicit false

/-! # Staging a proof

A proof that does not fit in one request is written piece by piece into a data buffer. A buffer
belongs to whoever opened it: nobody else can write to it, close it or claim with it.
-/

namespace AtomicEscrow

/-- A request to write bytes into a buffer from a position on. -/
structure WriteRequest where
  signer : Pubkey
  address : Pubkey
  start : UInt64
  bytes : Bytes
deriving DecidableEq

/-- Bytes filled up with zeros to a length, unless they are as long. -/
def grow (data : Bytes) (length : Nat) : Bytes := data ++ List.replicate (length - data.length) 0

/-- The contents of a buffer after bytes were written from a position on, which lies in the
buffer or at its end: there is room for the bytes first, and then they take the place of what was
there. -/
def splice (data : Bytes) (start : Nat) (bytes : Bytes) : Bytes :=
  let room := grow data (start + bytes.length)
  room.take start ++ bytes ++ room.drop (start + bytes.length)

/-- What a buffer will be after a write, if it is admitted. -/
def WriteRequest.plan (req : WriteRequest) (s : State) : Except EscrowError DataBuffer := do
  let buffer ← s.registry.ownBuffer req.address req.signer
  require (req.start.toNat ≤ buffer.data.length)
    (.programFault
      s!"write at {req.start.toNat} past end of {buffer.data.length}-byte buffer")
  require (req.start.toNat + req.bytes.length < UInt64.size) (.programFault "write range overflow")
  return { buffer with data := splice buffer.data req.start.toNat req.bytes }

namespace Operation

def openBuffer (signer address : Pubkey) : Operation Unit := do
  inspect fun s => require (s.registry.buffer? address = none) .accountAlreadyInitialized
  record (·.putBuffer address ⟨signer, []⟩)

/-- Writes into a buffer and answers with its length. -/
def writeBuffer (req : WriteRequest) : Operation Nat := do
  let buffer ← inspect req.plan
  record (·.putBuffer req.address buffer)
  return buffer.data.length

def closeBuffer (signer address : Pubkey) : Operation Unit := do
  let _ ← inspect fun s => s.registry.ownBuffer address signer
  record (·.removeBuffer address)

end Operation

end AtomicEscrow
