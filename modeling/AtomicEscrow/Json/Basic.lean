import AtomicEscrow.Number.Decimal

set_option autoImplicit false

/-! # JSON values

A JSON text as a tree. Natural numbers are the only numbers that records have; any other number
is kept as a decimal. An escape in a string can name half of a surrogate pair. Such a string is
well formed as text but has no characters, so it stands for `none`: a reader may skip it but
cannot use it. The same goes for the keys of an object, which are kept in order and may repeat.
-/

namespace AtomicEscrow

/-- A JSON value. -/
inductive Json
  | null
  | bool (value : Bool)
  /-- A number written as digits only. -/
  | natural (n : Nat)
  /-- Any other number. -/
  | real (d : Decimal)
  | string (text : Option String)
  | array (items : List Json)
  | object (members : List (Option String × Json))

namespace Json

/-- A string with characters. -/
def text (s : String) : Json := .string (some s)

def record (members : List (String × Json)) : Json :=
  .object (members.map fun m => (some m.1, m.2))

end Json

end AtomicEscrow
