set_option autoImplicit false

/-! # Decimal numbers

Numbers as people write them: decimal digits, a sign and a power of ten. This file has the
digits of natural numbers, and the reading of digits. A number that is not a natural number is
kept as it was written, so nothing is rounded until somebody asks for it.
-/

namespace AtomicEscrow

def digitChar (n : Nat) : Char := Char.ofNat (48 + n)

def isDigit (c : Char) : Bool := 48 ≤ c.toNat && c.toNat ≤ 57

def digitNumber (c : Char) : Nat := c.toNat - 48

/-- The digits of `n` in front of others; `fuel` is at least the number of digits of `n`. -/
def digitsBefore : Nat → Nat → List Char → List Char
  | 0, _, after => after
  | fuel + 1, n, after =>
      if n < 10 then digitChar n :: after
      else digitsBefore fuel (n / 10) (digitChar (n % 10) :: after)

def decimalDigits (n : Nat) : List Char := digitsBefore (n.log2 + 1) n []

/-- The number that digits of a base spell, after a number already read. -/
def digitsValue (base : Nat) (digit : Char → Nat) (start : Nat) (cs : List Char) : Nat :=
  cs.foldl (fun n c => base * n + digit c) start

def decimalValue (cs : List Char) : Nat := digitsValue 10 digitNumber 0 cs

/-- The number that a text of digits spells, where a plus may stand before them. -/
def naturalText? (cs : List Char) : Option Nat :=
  let ds := if cs.head? = some '+' then cs.drop 1 else cs
  if ds.isEmpty || !ds.all isDigit then none else some (decimalValue ds)

def fitsInteger (n : Int) : Bool := Int64.minValue.toInt ≤ n && n ≤ Int64.maxValue.toInt

def powerOfTen (k : Nat) : Nat := Nat.pow 10 k

/-- A signed number `± digits · 10 ^ exponent`. -/
structure Decimal where
  negative : Bool
  digits : Nat
  exponent : Int
deriving DecidableEq

namespace Decimal

/-- The power of ten at the end of a number. Negative integers go without. -/
def exponentText (d : Decimal) : List Char :=
  if d.negative && d.exponent = 0 then []
  else 'e' :: (if d.exponent < 0 then ['-'] else []) ++ decimalDigits d.exponent.natAbs

/-- The number written with its digits before the point and an exponent. -/
def text (d : Decimal) : List Char :=
  (if d.negative then ['-'] else []) ++ decimalDigits d.digits ++ d.exponentText

/-- The leading digits of a number as far as they fit in a word, and the power of ten that they
are to be multiplied with. -/
def leading (d : Decimal) : Nat × Int :=
  let ds := decimalDigits d.digits
  -- A word has 19 digits at least and 20 at most.
  let kept := if decimalValue (ds.take 20) < UInt64.size then 20 else 19
  (decimalValue (ds.take kept), d.exponent + (ds.length - kept : Nat))

end Decimal

end AtomicEscrow
