import AtomicEscrow.Toml.DateTable
import AtomicEscrow.Toml.Reader

set_option autoImplicit false

/-! # Reading TOML documents

A document is read in three steps: its text as lines, the lines as a table, and the tables in it
that are dates as those dates. A line names the table that the lines after it are about, starts
the next table of an array, or gives an entry.
-/

namespace AtomicEscrow.Toml

/-! ## Lines -/

/-- What a line says. -/
inductive Line
  /-- Nothing. -/
  | blank
  /-- The following lines are about this table. -/
  | header (key : DottedKey)
  /-- The following lines are about the next table of this array. -/
  | element (key : DottedKey)
  /-- An entry of the table that the lines are about. -/
  | entry (key : DottedKey) (value : Toml)

/-- What a line says before its comment, and the text after that. -/
def lineContent (cs : List Char) : Option (Line × List Char) :=
  match cs with
  | [] => some (.blank, [])
  | '#' :: _ => some (.blank, cs)
  | '\n' :: _ => some (.blank, cs)
  | '\r' :: _ => some (.blank, cs)
  | '[' :: '[' :: rest => do
      let (key, rest) ← dottedKey nestingLimit rest
      let ']' :: ']' :: rest := rest | none
      return (.element key, rest)
  | '[' :: rest => do
      let (key, rest) ← dottedKey nestingLimit rest
      let ']' :: rest := rest | none
      return (.header key, rest)
  | cs => do
      let (key, rest) ← dottedKey nestingLimit cs
      let '=' :: rest := rest | none
      let rest := skipSpaces rest
      let (item, rest) ← value (fuelFor rest) nestingLimit rest
      return (.entry key item, rest)

/-- The lines of a text; `fuel` is more than its length. -/
def lines : Nat → List Char → Option (List Line)
  | _, [] => some []
  | 0, _ => none
  | fuel + 1, cs => do
      let (line, rest) ← lineContent (skipSpaces cs)
      let rest ← restOfLine rest
      let more ← lines fuel rest
      return line :: more

/-! ## The table of the lines -/

/-- A document under construction: its entries, and the path of the table that the lines are
about. -/
structure Draft where
  entries : Entries
  path : List String

/-- The document with one line more. -/
def Draft.add (d : Draft) : Line → Option Draft
  | .blank => some d
  | .header key => do
      let entries ← startTable key .header d.entries
      return ⟨entries, key.path⟩
  | .element key => do
      let entries ← startElement key .header d.entries
      return ⟨entries, key.path⟩
  | .entry key item => do
      let entries ← within false (putValue key item) d.path .header d.entries
      return { d with entries }

/-- The text without a byte order mark. -/
def skipByteOrderMark : List Char → List Char
  | c :: rest => if c.toNat = 0xFEFF then rest else c :: rest
  | [] => []

/-- The members of the table that a text spells. The table must not be a date. -/
def parse (text : String) : Option (List (String × Toml)) := do
  let cs := skipByteOrderMark text.toList
  let ls ← lines (cs.length + 1) cs
  let draft ← ls.foldlM Draft.add ⟨[], []⟩
  match ← (table (finishMembers draft.entries)).withDates? with
  | .table members => some members
  | _ => none

end AtomicEscrow.Toml
