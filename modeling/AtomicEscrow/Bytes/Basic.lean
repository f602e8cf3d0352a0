set_option autoImplicit false

/-! # Byte strings

Byte strings are lists of bytes. This file fixes the two things everything else writes
with them: numbers of a fixed width, least significant byte first, and strings of exactly
32 bytes, the size of hashes and keys.

Every byte string is the written form of its value (`littleEndian_value`), so no two byte
strings of one length stand for the same number.
-/

namespace AtomicEscrow

/-- A byte string. -/
abbrev Bytes := List UInt8

/-! ## Numbers of a fixed width -/

/-- The lowest `width` bytes of `n`, least significant first. -/
def littleEndian : Nat → Nat → Bytes
  | 0, _ => []
  | width + 1, n => UInt8.ofNat (n % 256) :: littleEndian width (n / 256)

/-- The number a byte string stands for, least significant byte first. -/
def littleEndianValue : Bytes → Nat
  | [] => 0
  | b :: bs => b.toNat + 256 * littleEndianValue bs

@[simp] theorem length_littleEndian (width n : Nat) : (littleEndian width n).length = width := by
  induction width generalizing n with
  | zero => rfl
  | succ width ih => simp [littleEndian, ih]

theorem littleEndian_value (bs : Bytes) :
    littleEndian bs.length (littleEndianValue bs) = bs := by
  induction bs with
  | nil => rfl
  | cons b bs ih =>
      have hb : b.toNat < 256 := b.toNat_lt
      have hlow : (b.toNat + 256 * littleEndianValue bs) % 256 = b.toNat := by omega
      have hhigh : (b.toNat + 256 * littleEndianValue bs) / 256 = littleEndianValue bs := by
        omega
      simp only [List.length_cons, littleEndian, littleEndianValue, hlow, hhigh, ih]
      simp

def bigEndian (width n : Nat) : Bytes := (littleEndian width n).reverse

@[simp] theorem length_bigEndian (width n : Nat) : (bigEndian width n).length = width := by
  simp [bigEndian]

/-! ## Strings of 32 bytes -/

/-- A string of exactly 32 bytes: a hash, a secret or the body of a key. -/
structure Bytes32 where
  toList : Bytes
  length_toList : toList.length = 32
deriving DecidableEq

namespace Bytes32

@[ext] theorem ext {a b : Bytes32} (h : a.toList = b.toList) : a = b := by
  cases a
  cases b
  simp_all

/-- The 32 bytes of a list, if it has that many. -/
def ofList? (bs : Bytes) : Option Bytes32 :=
  if h : bs.length = 32 then some ⟨bs, h⟩ else none

theorem ofList?_toList (b : Bytes32) : ofList? b.toList = some b := by
  simp [ofList?, b.length_toList]

theorem ofList?_eq_some_iff {bs : Bytes} {b : Bytes32} :
    ofList? bs = some b ↔ b.toList = bs := by
  constructor
  · intro h
    unfold ofList? at h
    split at h
    · cases h
      rfl
    · cases h
  · rintro rfl
    exact ofList?_toList b

def replicate (b : UInt8) : Bytes32 := ⟨List.replicate 32 b, List.length_replicate⟩

/-- Strings of 32 bytes are ordered as words are, by the first byte that differs. -/
instance : Ord Bytes32 := ⟨fun a b => compare a.toList b.toList⟩

end Bytes32

/-- A 32-byte hash value. -/
abbrev Hash := Bytes32

end AtomicEscrow
