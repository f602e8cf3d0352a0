import AtomicEscrow.Number.Binary64
import AtomicEscrow.Toml.Datetime

set_option autoImplicit false

/-! # TOML values

A configuration text as a tree. Integers have 64 bits with a sign, other numbers are floating
point numbers. No key of a table comes twice.
-/

namespace AtomicEscrow

/-- A TOML value. -/
inductive Toml
  | string (text : String)
  | integer (n : Int)
  | float (x : Binary64)
  | bool (value : Bool)
  | datetime (moment : Datetime)
  | array (items : List Toml)
  | table (members : List (String × Toml))

end AtomicEscrow
