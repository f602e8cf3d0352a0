import AtomicEscrow.Toml.Value

set_option autoImplicit false

/-! # Tables that are dates

There is a second way to write a date: as a table whose first key is `$__toml_private_datetime`,
with the text of the date under it. Whatever follows in such a table does not count. A table with
that key in the first place and anything but a date under it makes the whole document unreadable.
-/

namespace AtomicEscrow.Toml

/-- The key that makes a date of a table. -/
def dateKey : String := "$__toml_private_datetime"

/-- The date that a value under that key is. -/
def date? : Toml → Option Toml
  | .string s => (Datetime.ofText? s).map .datetime
  | _ => none

mutual

/-- A value with dates for the tables in it that are dates. -/
def withDates? : Toml → Option Toml
  | .array items => (itemsWithDates? items).map .array
  | .table [] => some (.table [])
  | .table ((key, first) :: rest) =>
      if key = dateKey then date? first
      else do
        let first ← withDates? first
        let rest ← membersWithDates? rest
        return .table ((key, first) :: rest)
  | v => some v

/-- Items with dates for the tables in them that are dates. -/
def itemsWithDates? : List Toml → Option (List Toml)
  | [] => some []
  | item :: rest => do
      let item ← withDates? item
      let rest ← itemsWithDates? rest
      return item :: rest

/-- Members with dates for the tables in them that are dates. -/
def membersWithDates? : List (String × Toml) → Option (List (String × Toml))
  | [] => some []
  | (key, value) :: rest => do
      let value ← withDates? value
      let rest ← membersWithDates? rest
      return (key, value) :: rest

end

end AtomicEscrow.Toml
