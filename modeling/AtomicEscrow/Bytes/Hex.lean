import AtomicEscrow.Bytes.Basic

set_option autoImplicit false

/-! # Hexadecimal text

Each byte is written as two digits, high half first, in lower case. Reading accepts either
case and refuses an odd number of digits or any other character, so writing what was read
gives the text in lower case.
-/

namespace AtomicEscrow.Hex

def digit (n : Nat) : Char :=
  if n < 10 then Char.ofNat (48 + n) else Char.ofNat (87 + n)

/-- The number of a hexadecimal digit of either case. -/
def digitValue? (c : Char) : Option Nat :=
  if 48 ≤ c.toNat ∧ c.toNat ≤ 57 then some (c.toNat - 48)
  else if 97 ≤ c.toNat ∧ c.toNat ≤ 102 then some (c.toNat - 87)
  else if 65 ≤ c.toNat ∧ c.toNat ≤ 70 then some (c.toNat - 55)
  else none

def encode : Bytes → List Char
  | [] => []
  | b :: bs => digit (b.toNat / 16) :: digit (b.toNat % 16) :: encode bs

/-- The byte string that a text of digits spells. -/
def decode : List Char → Option Bytes
  | [] => some []
  | [_] => none
  | high :: low :: rest => do
      let h ← digitValue? high
      let l ← digitValue? low
      let bs ← decode rest
      return UInt8.ofNat (16 * h + l) :: bs

theorem digitValue?_digit {n : Nat} (h : n < 16) : digitValue? (digit n) = some n := by
  have key : ∀ m : Fin 16, digitValue? (digit m.val) = some m.val := by decide
  exact key ⟨n, h⟩

theorem decode_encode (bs : Bytes) : decode (encode bs) = some bs := by
  induction bs with
  | nil => rfl
  | cons b bs ih =>
      have hb : b.toNat < 256 := b.toNat_lt
      have hhalves : 16 * (b.toNat / 16) + b.toNat % 16 = b.toNat := by omega
      rw [encode, decode, digitValue?_digit (show b.toNat / 16 < 16 by omega),
        digitValue?_digit (show b.toNat % 16 < 16 by omega), ih]
      simp only [Option.bind_eq_bind, Option.bind_some, hhalves, UInt8.ofNat_toNat, Option.pure_def]

def text (bs : Bytes) : String := String.ofList (encode bs)

def bytes? (s : String) : Option Bytes := decode s.toList

theorem bytes?_text (bs : Bytes) : bytes? (text bs) = some bs := by
  simp [bytes?, text, decode_encode]

/-- The 32 bytes that a text of 64 digits spells. -/
def bytes32? (s : String) : Option Bytes32 := (bytes? s).bind Bytes32.ofList?

theorem bytes32?_text (b : Bytes32) : bytes32? (text b.toList) = some b := by
  simp [bytes32?, bytes?_text, Bytes32.ofList?_toList]

end AtomicEscrow.Hex
