import AtomicEscrow.Number.Decimal

set_option autoImplicit false

/-! # Binary floating point numbers

Numbers with 53 significant bits, as configuration files and JSON texts understand numbers with
a point or an exponent. A decimal is read as the nearest of them, and of two nearest ones as the
one whose last bit is zero; from a certain size on it is infinite. A number is written with the
fewest digits that are read as the same number, and with the nearest of those, a half going up.

Everything is computed with exact natural numbers: `mantissa · 2 ^ exponent` on one side, the
quotient of two numbers on the other.
-/

namespace AtomicEscrow

/-- A floating point number. A finite one is `± mantissa · 2 ^ exponent`, with a mantissa of 53
bits or the least exponent. -/
inductive Binary64
  | finite (negative : Bool) (mantissa : Nat) (exponent : Int)
  | infinite (negative : Bool)
  | nan
deriving DecidableEq

namespace Binary64

/-- The least number of 53 bits. -/
def leastNormal : Nat := 1 <<< 52

def minExponent : Int := -1074

def maxExponent : Int := 971

def zero (negative : Bool) : Binary64 := .finite negative 0 minExponent

/-! ## From decimals -/

/-- The quotient rounded to the nearest natural number, a half to the even one. -/
def roundQuotient (num den : Nat) : Nat :=
  let q := num / den
  let r := num % den
  if 2 * r < den ∨ (2 * r = den ∧ q % 2 = 0) then q else q + 1

/-- The quotient `num / den / 2 ^ e`, rounded. -/
def scaledQuotient (num den : Nat) (e : Int) : Nat :=
  if e < 0 then roundQuotient (num <<< (-e).toNat) den
  else roundQuotient num (den <<< e.toNat)

/-- The exponent at which a quotient has 53 bits before the point, but not less than the least
exponent. -/
def exponentOf (num den : Nat) : Int :=
  let e : Int := (num.log2 : Int) - den.log2 - 52
  -- The quotient has 53 bits at `e`, or one bit less.
  let short : Bool :=
    if e < 0 then num <<< (-e).toNat < den * leastNormal
    else num < (den <<< e.toNat) * leastNormal
  max (if short then e - 1 else e) minExponent

/-- The floating point number nearest to a positive quotient. -/
def ofQuotient (negative : Bool) (num den : Nat) : Binary64 :=
  let e := exponentOf num den
  let m := scaledQuotient num den e
  let (m, e) := if m = 2 * leastNormal then (leastNormal, e + 1) else (m, e)
  if maxExponent < e then .infinite negative else .finite negative m e

/-- The floating point number nearest to a decimal. Decimals far outside the range are sorted
out first, so that no power of ten gets large. -/
def ofDecimal (d : Decimal) : Binary64 :=
  let magnitude : Int := d.exponent + (decimalDigits d.digits).length
  if d.digits = 0 ∨ magnitude < -400 then zero d.negative
  else if 400 < magnitude then .infinite d.negative
  else if d.exponent < 0 then ofQuotient d.negative d.digits (powerOfTen (-d.exponent).toNat)
  else ofQuotient d.negative (d.digits * powerOfTen d.exponent.toNat) 1

/-- The floating point number nearest to `mantissa · 2 ^ exponent`. -/
def ofScaled (negative : Bool) (mantissa : Nat) (exponent : Int) : Binary64 :=
  ofQuotient negative (mantissa <<< exponent.toNat) (1 <<< (-exponent).toNat)

/-- The product of two numbers, if both are finite and so is the product. -/
def product? : Binary64 → Binary64 → Option Binary64
  | .finite s m e, .finite t n f =>
      match ofScaled (s != t) (m * n) (e + f) with
      | .finite negative k g => some (.finite negative k g)
      | _ => none
  | _, _ => none

/-- Whether a decimal is too large for a reader that goes in steps: the leading digits that fit
in a word are rounded, and so are the power of ten and at last the product of both. Next to the
largest finite number this refuses some decimals that are not too large, and accepts some that
are. -/
def overflowsInSteps (d : Decimal) : Bool :=
  let (word, exponent) := d.leading
  if word = 0 || exponent < 0 then false
  else if 400 < exponent then true
  else
    (product? (ofQuotient false word 1)
      (ofQuotient false (powerOfTen exponent.toNat) 1)).isNone

/-! ## To words -/

/-- The nearest natural number, a half going up. -/
def roundHalfUp (mantissa : Nat) (exponent : Int) : Nat :=
  if exponent < 0 then
    let den := 1 <<< (-exponent).toNat
    (2 * mantissa + den) / (2 * den)
  else mantissa <<< exponent.toNat

/-- The nearest word: negative numbers and what is no number count as zero, and a number that
is too large as the largest word. -/
def toWord : Binary64 → UInt64
  | .finite false m e => UInt64.ofNat (min (roundHalfUp m e) (UInt64.size - 1))
  | .finite true _ _ => 0
  | .infinite false => UInt64.ofNat (UInt64.size - 1)
  | .infinite true => 0
  | .nan => 0

/-! ## To text -/

/-- The quotients `num / den` and `below / den`, `above / den` on both sides of it, between
which every number is read as the same floating point number. -/
structure ReadBack where
  num : Nat
  below : Nat
  above : Nat
  den : Nat
  /-- Whether the two ends are read as that number too. -/
  closed : Bool

/-- The numbers that are read as `mantissa · 2 ^ exponent`. The gap below a power of two is half
the gap above it. -/
def readBack (mantissa : Nat) (exponent : Int) : ReadBack :=
  let scale := if exponent < 0 then 1 else 1 <<< exponent.toNat
  let den := if exponent < 0 then 1 <<< (-exponent).toNat else 1
  let lower := if mantissa = leastNormal ∧ minExponent < exponent then 1 else 2
  { num := 4 * mantissa * scale
    below := (4 * mantissa - lower) * scale
    above := (4 * mantissa + 2) * scale
    den := 4 * den
    closed := mantissa % 2 = 0 }

/-- Whether `n · 10 ^ e` is read as the number in question. -/
def ReadBack.accepts (r : ReadBack) (n : Nat) (e : Int) : Bool :=
  let left := if e < 0 then n * r.den else n * powerOfTen e.toNat * r.den
  let unit := if e < 0 then powerOfTen (-e).toNat else 1
  if r.closed then r.below * unit ≤ left && left ≤ r.above * unit
  else r.below * unit < left && left < r.above * unit

/-- The number in question in units of `10 ^ e`, as a quotient. -/
def ReadBack.inUnits (r : ReadBack) (e : Int) : Nat × Nat :=
  if e < 0 then (r.num * powerOfTen (-e).toNat, r.den)
  else (r.num, r.den * powerOfTen e.toNat)

/-- The decimal on the grid of `10 ^ e` that is read as the number in question and nearest to
it; of two nearest ones the larger. -/
def ReadBack.onGrid (r : ReadBack) (e : Int) : Option Nat :=
  let (num, den) := r.inUnits e
  let low := num / den
  let high := low + 1
  match r.accepts low e, r.accepts high e with
  | true, true => if 2 * (num % den) < den then some low else some high
  | true, false => some low
  | false, true => some high
  | false, false => none

/-- The first grid with such a decimal, from `10 ^ e` on downwards. -/
def ReadBack.shortest (r : ReadBack) : Nat → Int → Nat × Int
  | 0, e => ((r.inUnits e).1 / (r.inUnits e).2, e)
  | fuel + 1, e =>
      match r.onGrid e with
      | some 0 => r.shortest fuel (e - 1)
      | some n => (n, e)
      | none => r.shortest fuel (e - 1)

/-- An exponent of ten above a positive number `mantissa · 2 ^ exponent`, by the number of
digits of the part before the point or of the zeros after it. -/
def topExponent (mantissa : Nat) (exponent : Int) : Int :=
  if exponent < 0 then
    ((decimalDigits mantissa).length : Int) - (3 * (-exponent) / 10) + 1
  else (decimalDigits (mantissa <<< exponent.toNat)).length

/-- Digits with a point so that they mean `n · 10 ^ e`, without any power of ten. -/
def positional (n : Nat) (e : Int) : List Char :=
  let ds := decimalDigits n
  if 0 ≤ e then ds ++ List.replicate e.toNat '0'
  else
    let places := (-e).toNat
    if places < ds.length then ds.take (ds.length - places) ++ '.' :: ds.drop (ds.length - places)
    else '0' :: '.' :: List.replicate (places - ds.length) '0' ++ ds

/-- The text of a floating point number: the fewest digits that are read as the same number,
without an exponent. -/
def text : Binary64 → List Char
  | .finite negative m e =>
      let sign := if negative then ['-'] else []
      if m = 0 then sign ++ ['0']
      else
        -- The number has at most 17 digits, and the first grid tried is above it.
        let (n, e) := (readBack m e).shortest 400 (topExponent m e)
        sign ++ positional n e
  | .infinite false => ['i', 'n', 'f']
  | .infinite true => ['-', 'i', 'n', 'f']
  | .nan => ['N', 'a', 'N']

end Binary64

end AtomicEscrow
