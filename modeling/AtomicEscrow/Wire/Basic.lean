import AtomicEscrow.Json.Basic
import AtomicEscrow.Key.Pubkey

set_option autoImplicit false

/-! # Values as JSON

How the values of this library are written as JSON, and which JSON is read as them. Writing is
one way; reading allows a little more. A record is an object whose members come in any order
and among others, or an array of all its fields; no field may come twice. A choice without
content is its name, or an object of its name and null; a choice with content is an object of
its name and the content. Numbers, flags and strings are never converted into each other.
-/

namespace AtomicEscrow

/-- Values that are written as JSON and read from it. -/
class Wire (α : Type) where
  write : α → Json
  read : Json → Option α

export Wire (write)

/-! ## Numbers, flags, strings -/

namespace Json

/-- The natural number of a value, if it is one below a bound. -/
def natural? (bound : Nat) : Json → Option Nat
  | .natural n => if n < bound then some n else none
  | _ => none

/-- The characters of a value, if it is a string with characters. -/
def text? : Json → Option String
  | .string s => s
  | _ => none

def items? : Json → Option (List Json)
  | .array items => some items
  | _ => none

def ofBytes (bs : Bytes) : Json := .text (Hex.text bs)

/-- The bytes that a value spells in hexadecimal digits. -/
def bytes? (j : Json) : Option Bytes := do
  let s ← j.text?
  Hex.bytes? s

end Json

instance : Wire Bool where
  write b := .bool b
  read
    | .bool b => some b
    | _ => none

instance : Wire UInt8 where
  write n := .natural n.toNat
  read j := (j.natural? UInt8.size).map UInt8.ofNat

instance : Wire UInt16 where
  write n := .natural n.toNat
  read j := (j.natural? UInt16.size).map UInt16.ofNat

instance : Wire UInt32 where
  write n := .natural n.toNat
  read j := (j.natural? UInt32.size).map UInt32.ofNat

instance : Wire UInt64 where
  write n := .natural n.toNat
  read j := (j.natural? UInt64.size).map UInt64.ofNat

instance : Wire String where
  write s := .text s
  read j := j.text?

instance : Wire Bytes32 where
  write b := .ofBytes b.toList
  read j := do
    let bs ← j.bytes?
    Bytes32.ofList? bs

instance : Wire Pubkey where
  write key := write key.bytes
  read j := (Wire.read j).map Pubkey.mk

/-- Reads every item of a list, or none. -/
def readAll {α : Type} [Wire α] : List Json → Option (List α)
  | [] => some []
  | j :: rest => do
      let a ← Wire.read j
      let more ← readAll rest
      return a :: more

instance {α : Type} [Wire α] : Wire (List α) where
  write as := .array (as.map write)
  read j := do
    let items ← j.items?
    readAll items

instance {α : Type} [Wire α] : Wire (Option α) where
  write
    | none => .null
    | some a => write a
  read
    | .null => some none
    | j => (Wire.read j).map some

/-! ## Records -/

namespace Json

/-- Members whose keys all have characters. -/
def namedMembers : List (Option String × Json) → Option (List (String × Json))
  | [] => some []
  | (key, value) :: rest => do
      let name ← key
      let more ← namedMembers rest
      return (name, value) :: more

/-- The member of a name, unless it comes twice. -/
def member (members : List (String × Json)) (name : String) : Option (Option Json) :=
  match members.filter fun m => m.1 = name with
  | [] => some none
  | [m] => some (some m.2)
  | _ => none

/-- The members of the given names, in their order. -/
def membersOf (members : List (String × Json)) : List String → Option (List (Option Json))
  | [] => some []
  | name :: rest => do
      let value ← member members name
      let more ← membersOf members rest
      return value :: more

/-- The fields of a record, in the order of their names. An array has to give all of them. -/
def fields? (names : List String) : Json → Option (List (Option Json))
  | .array items => if items.length = names.length then some (items.map some) else none
  | .object members => do
      let members ← namedMembers members
      membersOf members names
  | _ => none

/-- The fields of a record of which some may be missing; an array gives the first of them. -/
def leadingFields? (names : List String) : Json → Option (List (Option Json))
  | .array items =>
      if items.length ≤ names.length then
        some (items.map some ++ List.replicate (names.length - items.length) none)
      else none
  | j => j.fields? names

def required {α : Type} [Wire α] (field : Option Json) : Option α := do
  let j ← field
  Wire.read j

/-- A field that may be missing, for which null will do as well. -/
def optional {α : Type} [Wire α] (field : Option Json) : Option (Option α) :=
  match field with
  | none => some none
  | some j => Wire.read j

/-- A field that may be missing, with the value it then has. -/
def defaulted {α : Type} [Wire α] (field : Option Json) (otherwise : α) : Option α :=
  match field with
  | none => some otherwise
  | some j => Wire.read j

/-! ## Choices -/

/-- The name of a choice and its content, if it has one. -/
def choice? : Json → Option (String × Option Json)
  | .string (some name) => some (name, none)
  | .object [(some name, content)] => some (name, some content)
  | _ => none

/-- The name of a choice without content. -/
def plainChoice? (j : Json) : Option String :=
  match j.choice? with
  | some (name, none) => some name
  | some (name, some .null) => some name
  | _ => none

def choice (name : String) (content : Json) : Json := .record [(name, content)]

end Json

end AtomicEscrow
