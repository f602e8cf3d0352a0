import AtomicEscrow.Failure.Data
import AtomicEscrow.Terms.Basic

set_option autoImplicit false

/-! # The byte form of terms

Terms are written in 69 bytes, fields in order, numbers least significant byte first and flags
as one byte. Reading checks the length, then the kind, then the two flags.
-/

namespace AtomicEscrow.Terms

def encodedLength : Nat := 69

def flagByte (b : Bool) : UInt8 := if b then 1 else 0

def flagOfByte (b : UInt8) : Except DataError Bool :=
  if b = 0 then .ok false else if b = 1 then .ok true else .error (.invalidBool b)

def kindOfByte (b : UInt8) : Except DataError SwapKind :=
  match SwapKind.ofIndex? b.toNat with
  | some kind => .ok kind
  | none => .error (.unknownSwapKind b)

/-- The byte form of terms. -/
def encode (t : Terms) : Bytes :=
  UInt8.ofNat t.kind.index :: littleEndian 2 t.confirmations.toNat ++
    littleEndian 8 t.nonce.toNat ++ t.hash.toList ++ [flagByte t.payIn, flagByte t.payOut] ++
    littleEndian 8 t.amount.toNat ++ littleEndian 8 t.expiry.toNat ++
    littleEndian 8 t.sequence.toNat

theorem length_encode (t : Terms) : t.encode.length = encodedLength := by
  simp [encode, encodedLength, t.hash.length_toList]

/-- The `width` bytes from position `start` on. -/
def field (bs : Bytes) (start width : Nat) : Bytes := (bs.drop start).take width

theorem length_field {bs : Bytes} {start width : Nat} (h : start + width ≤ bs.length) :
    (field bs start width).length = width := by
  simp [field]
  omega

/-- The number in the `width` bytes from position `start` on. -/
def numberField (bs : Bytes) (start width : Nat) : Nat := littleEndianValue (field bs start width)

def decode (bs : Bytes) : Except DataError Terms :=
  if h : bs.length = encodedLength then do
    let kind ← kindOfByte (bs.getD 0 0)
    let payIn ← flagOfByte (bs.getD 43 0)
    let payOut ← flagOfByte (bs.getD 44 0)
    return {
      kind
      confirmations := UInt16.ofNat (numberField bs 1 2)
      nonce := UInt64.ofNat (numberField bs 3 8)
      hash := ⟨field bs 11 32, length_field (by simp [h, encodedLength])⟩
      payIn
      payOut
      amount := UInt64.ofNat (numberField bs 45 8)
      expiry := UInt64.ofNat (numberField bs 53 8)
      sequence := UInt64.ofNat (numberField bs 61 8) }
  else .error (.invalidLength encodedLength bs.length)

end AtomicEscrow.Terms
