import AtomicEscrow.Toml.Text
import AtomicEscrow.Toml.Value

set_option autoImplicit false

/-! # Tables under construction

The lines of a text build a tree of tables, and no line may take back what another one said. So
each table remembers how it came about. One that a header named can get entries below that
header only. One that was merely on the way to a header can still get a header of its own. One
that dotted keys made can get entries by further dotted keys, but no header. A table in braces
is a value and cannot grow.

Where a path leads through an array of tables it goes on in the latest of them. Entries stay in
the order in which they were first named.
-/

namespace AtomicEscrow.Toml

/-- How a table came about. -/
inductive TableForm
  /-- A header named it. -/
  | header
  /-- It was on the way to a header. -/
  | implied
  /-- It was on the way of a dotted key. -/
  | dotted
deriving DecidableEq

/-- What stands under a key while a text is read. -/
inductive Entry
  | value (value : Toml)
  | table (form : TableForm) (members : List (String × Entry))
  /-- An array of tables. -/
  | tables (latest : List (String × Entry)) (earlier : List (List (String × Entry)))

/-- The entries of a table while a text is read. -/
abbrev Entries := List (String × Entry)

namespace Entries

def get? (entries : Entries) (key : String) : Option Entry :=
  (entries.find? fun e => e.1 = key).map Prod.snd

/-- The entries with one put under a key, in place of the one that was there or at the end. -/
def put : Entries → String → Entry → Entries
  | [], key, entry => [(key, entry)]
  | e :: rest, key, entry => if e.1 = key then (key, entry) :: rest else e :: put rest key entry

def erase (entries : Entries) (key : String) : Entries := entries.filter fun e => e.1 ≠ key

end Entries

/-- Changes the table at the end of a path, making the tables on the way that are missing. A
path of a dotted key cannot enter a table that a header named. -/
def within (dotted : Bool) (change : TableForm → Entries → Option Entries) :
    List String → TableForm → Entries → Option Entries
  | [], form, entries => change form entries
  | key :: path, _, entries =>
      match entries.get? key with
      | none => do
          let form := if dotted then .dotted else .implied
          let members ← within dotted change path form []
          return entries.put key (.table form members)
      | some (.value _) => none
      | some (.table form members) => do
          if dotted && form = .header then none
          let members ← within dotted change path form members
          return entries.put key (.table form members)
      | some (.tables latest earlier) => do
          let latest ← within dotted change path .header latest
          return entries.put key (.tables latest earlier)

/-- Puts a value under a dotted key in a table. The tables on the way have to be those of dotted
keys, and the key has to be new. -/
def putValue (path : DottedKey) (value : Toml) : TableForm → Entries → Option Entries :=
  within true
    (fun form entries =>
      if (form = .dotted) = path.tables.isEmpty then none
      else
        match entries.get? path.key with
        | some _ => none
        | none => some (entries.put path.key (.value value)))
    path.tables

/-- Starts the table of a header. A table that was on the way to a header before moves to the end
of the entries. -/
def startTable (path : DottedKey) : TableForm → Entries → Option Entries :=
  within false
    (fun _ entries =>
      match entries.get? path.key with
      | none => some (entries.put path.key (.table .header []))
      | some (.table .implied members) =>
          some ((entries.erase path.key).put path.key (.table .header members))
      | some _ => none)
    path.tables

/-- Starts the next table of an array of tables. -/
def startElement (path : DottedKey) : TableForm → Entries → Option Entries :=
  within false
    (fun _ entries =>
      match entries.get? path.key with
      | none => some (entries.put path.key (.tables [] []))
      | some (.tables latest earlier) =>
          some (entries.put path.key (.tables [] (earlier ++ [latest])))
      | some _ => none)
    path.tables

def DottedKey.path (key : DottedKey) : List String := key.tables ++ [key.key]

/-! ## Finished tables -/

mutual

def Entry.finish : Entry → Toml
  | .value v => v
  | .table _ members => .table (finishMembers members)
  | .tables latest earlier => .array (finishTables earlier ++ [.table (finishMembers latest)])

def finishMembers : List (String × Entry) → List (String × Toml)
  | [] => []
  | (key, entry) :: rest => (key, entry.finish) :: finishMembers rest

def finishTables : List (List (String × Entry)) → List Toml
  | [] => []
  | members :: rest => .table (finishMembers members) :: finishTables rest

end

end AtomicEscrow.Toml
