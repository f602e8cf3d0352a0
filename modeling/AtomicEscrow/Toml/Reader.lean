import AtomicEscrow.Toml.Number
import AtomicEscrow.Toml.Tables

set_option autoImplicit false

/-! # Reading TOML values

Each reader takes the value it is named for off the front of the text and gives what is left.
Arrays may run over several lines and hold comments, tables in braces may not. Values nest up to
a limit. The readers of values take `fuel`, a bound on how often they call each other; twice the
length of the text is always enough.
-/

namespace AtomicEscrow.Toml

/-- How many parts a dotted key may have, and how deep arrays and tables in braces may be inside
each other. -/
def nestingLimit : Nat := 79

def numberOrDate (cs : List Char) : Option (Toml × List Char) :=
  match Datetime.read cs with
  | some (moment, rest) => some (.datetime moment, rest)
  | none =>
      match readFloat cs with
      | some found => some found
      | none => readInteger cs

/-- A value that is neither an array nor a table. -/
def scalar : List Char → Option (Toml × List Char)
  | [] => none
  | 't' :: 'r' :: 'u' :: 'e' :: rest => some (.bool true, rest)
  | 'f' :: 'a' :: 'l' :: 's' :: 'e' :: rest => some (.bool false, rest)
  | c :: rest =>
      if c = '"' || c = '\'' then
        (anyString (c :: rest)).map fun (cs, rest) => (.string (String.ofList cs), rest)
      else numberOrDate (c :: rest)

mutual

/-- A value with at most `depth` arrays and tables inside each other. -/
def value : Nat → Nat → List Char → Option (Toml × List Char)
  | 0, _, _ => none
  | fuel + 1, depth, '[' :: rest => do
      if depth = 0 then none
      let (items, rest) ← items fuel (depth - 1) rest
      return (.array items, rest)
  | fuel + 1, depth, '{' :: rest => do
      if depth = 0 then none
      match skipSpaces rest with
      | '}' :: rest => return (.table [], rest)
      | rest =>
          let (entries, rest) ← pairs fuel (depth - 1) [] rest
          return (.table (finishMembers entries), rest)
  | _ + 1, _, cs => scalar cs

/-- The items of an array, up to the closing bracket. -/
def items : Nat → Nat → List Char → Option (List Toml × List Char)
  | 0, _, _ => none
  | fuel + 1, depth, cs => do
      match ← skipLines false cs with
      | ']' :: rest => return ([], rest)
      | rest =>
          let (item, rest) ← value fuel depth rest
          match ← skipLines false rest with
          | ',' :: rest =>
              let (more, rest) ← items fuel depth rest
              return (item :: more, rest)
          | ']' :: rest => return ([item], rest)
          | _ => none

/-- The entries of a table in braces after those already read, at least one, up to the closing
brace. -/
def pairs : Nat → Nat → Entries → List Char → Option (Entries × List Char)
  | 0, _, _, _ => none
  | fuel + 1, depth, entries, cs => do
      let (key, rest) ← dottedKey nestingLimit cs
      let '=' :: rest := rest | none
      let (item, rest) ← value fuel depth (skipSpaces rest)
      let entries ← putValue key item .header entries
      match skipSpaces rest with
      | ',' :: rest => pairs fuel depth entries rest
      | '}' :: rest => return (entries, rest)
      | _ => none

end

/-- Enough fuel for a text. -/
def fuelFor (cs : List Char) : Nat := 2 * cs.length + 2

end AtomicEscrow.Toml
