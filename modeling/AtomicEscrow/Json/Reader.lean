import AtomicEscrow.Bytes.Hex
import AtomicEscrow.Json.Basic

set_option autoImplicit false

/-! # Reading JSON

A value with blanks around it, and nothing else. Each reader takes the value it is named for
off the front of the text and gives what is left. Values nest, so the readers of values take
`fuel`, a bound on how often they call each other; twice the length of the text is always
enough, since only every other call can fail to take a character.
-/

namespace AtomicEscrow.Json

/-- The blanks of JSON: space, tab, line feed and carriage return. -/
def isBlank (c : Char) : Bool := c = ' ' || c = '\t' || c = '\n' || c = '\r'

def skipBlanks (cs : List Char) : List Char := cs.dropWhile isBlank

/-! ## Strings -/

/-- A piece of a string: a character, or a code that an escape names. -/
inductive StringPiece
  | char (c : Char)
  | code (n : Nat)

/-- The code that four hexadecimal digits spell. -/
def escapeCode (a b c d : Char) : Option Nat := do
  let a ← Hex.digitValue? a
  let b ← Hex.digitValue? b
  let c ← Hex.digitValue? c
  let d ← Hex.digitValue? d
  return 4096 * a + 256 * b + 16 * c + d

def escapeChar? (c : Char) : Option Char :=
  if c = '"' ∨ c = '\\' ∨ c = '/' then some c
  else if c = 'b' then some '\x08'
  else if c = 'f' then some '\x0c'
  else if c = 'n' then some '\n'
  else if c = 'r' then some '\r'
  else if c = 't' then some '\t'
  else none

/-- The pieces of a string whose opening quote is taken, and the text after the closing one. -/
def pieces : List Char → Option (List StringPiece × List Char)
  | [] => none
  | '"' :: rest => some ([], rest)
  | '\\' :: 'u' :: a :: b :: c :: d :: rest => do
      let n ← escapeCode a b c d
      let (more, rest) ← pieces rest
      return (.code n :: more, rest)
  | '\\' :: c :: rest => do
      let c ← escapeChar? c
      let (more, rest) ← pieces rest
      return (.char c :: more, rest)
  | c :: rest =>
      if c.toNat < 32 then none
      else do
        let (more, rest) ← pieces rest
        return (.char c :: more, rest)

/-- Whether a code is the first half of a surrogate pair. -/
def isHighSurrogate (n : Nat) : Bool := 0xD800 ≤ n && n < 0xDC00

/-- Whether a code is the second half of a surrogate pair. -/
def isLowSurrogate (n : Nat) : Bool := 0xDC00 ≤ n && n < 0xE000

/-- The character of a surrogate pair. -/
def pairChar (high low : Nat) : Char :=
  Char.ofNat (0x10000 + 0x400 * (high - 0xD800) + (low - 0xDC00))

/-- The characters of a string, if every surrogate has its other half. -/
def joinPieces : List StringPiece → Option (List Char)
  | [] => some []
  | .char c :: rest => (joinPieces rest).map (c :: ·)
  | [.code n] =>
      if isHighSurrogate n || isLowSurrogate n then none else some [Char.ofNat n]
  | .code n :: .char c :: rest =>
      if isHighSurrogate n || isLowSurrogate n then none
      else (joinPieces rest).map (Char.ofNat n :: c :: ·)
  | .code n :: .code m :: rest =>
      if isHighSurrogate n then
        if isLowSurrogate m then (joinPieces rest).map (pairChar n m :: ·) else none
      else if isLowSurrogate n then none
      else (joinPieces (.code m :: rest)).map (Char.ofNat n :: ·)

/-- A string whose opening quote is taken. -/
def stringAfterQuote (cs : List Char) : Option (Option String × List Char) := do
  let (ps, rest) ← pieces cs
  return ((joinPieces ps).map String.ofList, rest)

/-! ## Numbers -/

def digits1 (cs : List Char) : Option (List Char × List Char) :=
  match cs.takeWhile isDigit with
  | [] => none
  | ds => some (ds, cs.dropWhile isDigit)

/-- The digits before the point: a zero, or digits that do not start with one. -/
def wholeDigits : List Char → Option (List Char × List Char)
  | '0' :: rest => some (['0'], rest)
  | cs => digits1 cs

/-- The digits after the point, if there is one. -/
def fractionDigits : List Char → Option (Option (List Char) × List Char)
  | '.' :: rest => do
      let (ds, rest) ← digits1 rest
      return (some ds, rest)
  | cs => some (none, cs)

/-- The sign of an exponent, where a plus may stand too. -/
def exponentSign : List Char → Bool × List Char
  | '-' :: rest => (true, rest)
  | '+' :: rest => (false, rest)
  | cs => (false, cs)

/-- The exponent after an `e`. -/
def exponentAfterMark (cs : List Char) : Option (Int × List Char) := do
  let (negative, rest) := exponentSign cs
  let (ds, rest) ← digits1 rest
  let n := decimalValue ds
  return (if negative then -n else n, rest)

/-- The exponent, if there is one. -/
def exponent : List Char → Option (Option Int × List Char)
  | 'e' :: rest => do
      let (n, rest) ← exponentAfterMark rest
      return (some n, rest)
  | 'E' :: rest => do
      let (n, rest) ← exponentAfterMark rest
      return (some n, rest)
  | cs => some (none, cs)

def unsignedNumber (negative : Bool) (cs : List Char) : Option (Json × List Char) := do
  let (whole, rest) ← wholeDigits cs
  let (fraction, rest) ← fractionDigits rest
  let (power, rest) ← exponent rest
  match negative, fraction, power with
  | false, none, none => return (.natural (decimalValue whole), rest)
  | _, _, _ =>
      let places := fraction.getD []
      return (.real ⟨negative, decimalValue (whole ++ places), power.getD 0 - places.length⟩, rest)

def number : List Char → Option (Json × List Char)
  | '-' :: rest => unsignedNumber true rest
  | cs => unsignedNumber false cs

/-! ## Values -/

mutual

/-- A value, with blanks before it. -/
def value : Nat → List Char → Option (Json × List Char)
  | 0, _ => none
  | fuel + 1, cs =>
      match skipBlanks cs with
      | 'n' :: 'u' :: 'l' :: 'l' :: rest => some (.null, rest)
      | 't' :: 'r' :: 'u' :: 'e' :: rest => some (.bool true, rest)
      | 'f' :: 'a' :: 'l' :: 's' :: 'e' :: rest => some (.bool false, rest)
      | '"' :: rest => do
          let (s, rest) ← stringAfterQuote rest
          return (.string s, rest)
      | '[' :: rest =>
          match skipBlanks rest with
          | ']' :: rest => some (.array [], rest)
          | rest => do
              let (items, rest) ← items fuel rest
              return (.array items, rest)
      | '{' :: rest =>
          match skipBlanks rest with
          | '}' :: rest => some (.object [], rest)
          | rest => do
              let (members, rest) ← members fuel rest
              return (.object members, rest)
      | rest => number rest

def items : Nat → List Char → Option (List Json × List Char)
  | 0, _ => none
  | fuel + 1, cs => do
      let (item, rest) ← value fuel cs
      match skipBlanks rest with
      | ',' :: rest => do
          let (more, rest) ← items fuel rest
          return (item :: more, rest)
      | ']' :: rest => return ([item], rest)
      | _ => none

/-- The members of an object, at least one, up to the closing brace. -/
def members : Nat → List Char → Option (List (Option String × Json) × List Char)
  | 0, _ => none
  | fuel + 1, cs => do
      let '"' :: rest := skipBlanks cs | none
      let (key, rest) ← stringAfterQuote rest
      let ':' :: rest := skipBlanks rest | none
      let (item, rest) ← value fuel rest
      match skipBlanks rest with
      | ',' :: rest => do
          let (more, rest) ← members fuel rest
          return ((key, item) :: more, rest)
      | '}' :: rest => return ([(key, item)], rest)
      | _ => none

end

/-- Enough fuel for a text. -/
def fuelFor (cs : List Char) : Nat := 2 * cs.length + 2

def parse (s : String) : Option Json :=
  match value (fuelFor s.toList) s.toList with
  | some (j, rest) => if (skipBlanks rest).isEmpty then some j else none
  | none => none

end AtomicEscrow.Json
