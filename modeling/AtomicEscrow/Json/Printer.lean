import AtomicEscrow.Bytes.Hex
import AtomicEscrow.Json.Basic

set_option autoImplicit false

/-! # Writing JSON

Values are written without blanks, members in their order, and strings with as few escapes as
JSON allows: the quote, the backslash and the control characters below space.
-/

namespace AtomicEscrow.Json

/-- A character of a string. -/
def escaped (c : Char) : List Char :=
  if c = '"' then ['\\', '"']
  else if c = '\\' then ['\\', '\\']
  else if c.toNat = 8 then ['\\', 'b']
  else if c.toNat = 9 then ['\\', 't']
  else if c.toNat = 10 then ['\\', 'n']
  else if c.toNat = 12 then ['\\', 'f']
  else if c.toNat = 13 then ['\\', 'r']
  else if c.toNat < 32 then
    ['\\', 'u', '0', '0', Hex.digit (c.toNat / 16), Hex.digit (c.toNat % 16)]
  else [c]

/-- A string with its quotes. One without characters is written as half of a surrogate pair. -/
def quoted : Option String → List Char
  | some s => '"' :: s.toList.flatMap escaped ++ ['"']
  | none => ['"', '\\', 'u', 'd', '8', '0', '0', '"']

mutual

def chars : Json → List Char
  | .null => ['n', 'u', 'l', 'l']
  | .bool true => ['t', 'r', 'u', 'e']
  | .bool false => ['f', 'a', 'l', 's', 'e']
  | .natural n => decimalDigits n
  | .real d => d.text
  | .string s => quoted s
  | .array items => '[' :: itemsChars items
  | .object members => '{' :: membersChars members

/-- The text of the items of an array, up to the closing bracket. -/
def itemsChars : List Json → List Char
  | [] => [']']
  | item :: rest => chars item ++ moreItemsChars rest

/-- The text of the further items of an array, up to the closing bracket. -/
def moreItemsChars : List Json → List Char
  | [] => [']']
  | item :: rest => ',' :: chars item ++ moreItemsChars rest

/-- The text of the members of an object, up to the closing brace. -/
def membersChars : List (Option String × Json) → List Char
  | [] => ['}']
  | (key, value) :: rest => quoted key ++ ':' :: chars value ++ moreMembersChars rest

/-- The text of the further members of an object, up to the closing brace. -/
def moreMembersChars : List (Option String × Json) → List Char
  | [] => ['}']
  | (key, value) :: rest => ',' :: quoted key ++ ':' :: chars value ++ moreMembersChars rest

end

def render (j : Json) : String := String.ofList j.chars

end AtomicEscrow.Json
