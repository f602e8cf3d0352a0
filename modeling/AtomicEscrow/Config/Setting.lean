import AtomicEscrow.Key.Pubkey
import AtomicEscrow.Number.Binary64
import AtomicEscrow.Toml.Value

set_option autoImplicit false

/-! # Settings

What a source of the configuration gives for a field, before anybody asks for a value of the
field's own type. A flag, a number or a text stands for a value of another type where that makes
sense: `on` for one, three for the text `3`, a number with a fraction for the nearest whole one.
An array or a table stands for nothing, and an empty table does not even replace another setting.
-/

namespace AtomicEscrow

/-- What a source gives for a field. -/
inductive Setting
  | flag (b : Bool)
  | integer (n : Int)
  | float (x : Binary64)
  | text (s : String)
  /-- An array, or a table with entries. -/
  | composite
  | emptyTable

namespace Setting

/-- What a TOML value gives. A date or time gives its text. -/
def ofToml : Toml → Setting
  | .string s => text s
  | .integer n => integer n
  | .float x => float x
  | .bool b => flag b
  | .datetime moment => text (String.ofList moment.text)
  | .array _ => composite
  | .table [] => emptyTable
  | .table (_ :: _) => composite

/-- Whether a setting replaces another one under its name. -/
def replaces : Setting → Bool
  | emptyTable => false
  | _ => true

/-- A character in lower case. Outside of ASCII this matters for one letter only: the sign of
the unit kelvin, whose lower case is an ASCII letter. -/
def lowerChar (c : Char) : Char := if c.toNat = 0x212A then 'k' else c.toLower

def lowerText (s : String) : String := String.ofList (s.toList.map lowerChar)

/-- A word that a text spells: a yes or no, or digits. -/
def wordOfText (s : String) : Option UInt64 :=
  match lowerText s with
  | "true" | "on" | "yes" => some 1
  | "false" | "off" | "no" => some 0
  | _ => do
      let n ← naturalText? s.toList
      if n < UInt64.size then some (UInt64.ofNat n) else none

/-- The word that a setting stands for. -/
def word? : Setting → Option UInt64
  | flag b => some (if b then 1 else 0)
  | integer n => if 0 ≤ n ∧ n < UInt64.size then some (UInt64.ofNat n.toNat) else none
  | float x => some x.toWord
  | text s => wordOfText s
  | composite => none
  | emptyTable => none

def shortWord? (s : Setting) : Option UInt16 := do
  let w ← s.word?
  if w.toNat < UInt16.size then some w.toUInt16 else none

def text? : Setting → Option String
  | flag b => some (if b then "true" else "false")
  | integer n =>
      some (String.ofList ((if n < 0 then ['-'] else []) ++ decimalDigits n.natAbs))
  | float x => some (String.ofList x.text)
  | text s => some s
  | composite => none
  | emptyTable => none

def pubkey? (s : Setting) : Option Pubkey := do
  let text ← s.text?
  (Pubkey.parse text).toOption

end Setting

end AtomicEscrow
