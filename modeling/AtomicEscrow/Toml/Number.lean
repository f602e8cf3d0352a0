import AtomicEscrow.Bytes.Hex
import AtomicEscrow.Number.Decimal
import AtomicEscrow.Toml.Value

set_option autoImplicit false

/-! # Numbers of TOML

Integers are decimal, hexadecimal, octal or binary, and have to fit in 64 bits with a sign.
Floating point numbers are decimal, and must not be too large, though they may be too small;
infinity and what is no number have names of their own. Single underscores may stand between
digits.
-/

namespace AtomicEscrow.Toml

/-! ## Digits -/

def moreDigits (isDigit : Char → Bool) : List Char → List Char × List Char
  | [] => ([], [])
  | '_' :: c :: rest =>
      if isDigit c then
        let (ds, rest) := moreDigits isDigit rest
        (c :: ds, rest)
      else ([], '_' :: c :: rest)
  | c :: rest =>
      if isDigit c then
        let (ds, rest) := moreDigits isDigit rest
        (c :: ds, rest)
      else ([], c :: rest)

def digitRun (isDigit : Char → Bool) : List Char → Option (List Char × List Char)
  | [] => none
  | c :: rest =>
      if isDigit c then
        let (ds, rest) := moreDigits isDigit rest
        some (c :: ds, rest)
      else none

def numberSign : List Char → Bool × List Char
  | '-' :: rest => (true, rest)
  | '+' :: rest => (false, rest)
  | cs => (false, cs)

/-- The digits before the point: a zero, or digits that do not start with one. -/
def wholeRun : List Char → Option (List Char × List Char)
  | '0' :: rest => some (['0'], rest)
  | cs => digitRun isDigit cs

/-! ## Integers -/

def isDigitOf (base : Nat) (c : Char) : Bool :=
  match Hex.digitValue? c with
  | some n => n < base
  | none => false

/-- An integer of a base after its mark. -/
def integerOf (base : Nat) (cs : List Char) : Option (Int × List Char) := do
  let (ds, rest) ← digitRun (isDigitOf base) cs
  return (digitsValue base (fun c => (Hex.digitValue? c).getD 0) 0 ds, rest)

def decimalInteger (cs : List Char) : Option (Int × List Char) := do
  let (negative, rest) := numberSign cs
  let (ds, rest) ← wholeRun rest
  let n : Int := decimalValue ds
  return (if negative then -n else n, rest)

def anyInteger : List Char → Option (Int × List Char)
  | '0' :: 'x' :: rest => integerOf 16 rest
  | '0' :: 'o' :: rest => integerOf 8 rest
  | '0' :: 'b' :: rest => integerOf 2 rest
  | cs => decimalInteger cs

def readInteger (cs : List Char) : Option (Toml × List Char) := do
  let (n, rest) ← anyInteger cs
  if fitsInteger n then some (.integer n, rest) else none

/-! ## Floating point numbers -/

def fractionRun : List Char → Option (Option (List Char) × List Char)
  | '.' :: rest => do
      let (ds, rest) ← digitRun isDigit rest
      return (some ds, rest)
  | cs => some (none, cs)

def exponentRun : List Char → Option (Option Int × List Char)
  | [] => some (none, [])
  | c :: rest =>
      if c = 'e' || c = 'E' then do
        let (negative, rest) := numberSign rest
        let (ds, rest) ← digitRun isDigit rest
        let n : Int := decimalValue ds
        return (some (if negative then -n else n), rest)
      else some (none, c :: rest)

def pointedDecimal (cs : List Char) : Option (Decimal × List Char) := do
  let (negative, rest) := numberSign cs
  let (whole, rest) ← wholeRun rest
  let (places, rest) ← fractionRun rest
  let (power, rest) ← exponentRun rest
  if places.isNone && power.isNone then none
  let fraction := places.getD []
  return (⟨negative, decimalValue (whole ++ fraction), power.getD 0 - fraction.length⟩, rest)

/-- Infinity or what is no number, by its name. -/
def namedFloat (cs : List Char) : Option (Binary64 × List Char) :=
  match numberSign cs with
  | (negative, 'i' :: 'n' :: 'f' :: rest) => some (.infinite negative, rest)
  | (_, 'n' :: 'a' :: 'n' :: rest) => some (.nan, rest)
  | _ => none

def readFloat (cs : List Char) : Option (Toml × List Char) :=
  match pointedDecimal cs with
  | none => (namedFloat cs).map fun (x, rest) => (.float x, rest)
  | some (d, rest) =>
      let x := Binary64.ofDecimal d
      if x = .infinite false then none else some (.float x, rest)

end AtomicEscrow.Toml
