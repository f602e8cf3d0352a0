import AtomicEscrow.Bytes.Hex

set_option autoImplicit false

/-! # The words of TOML

Blanks, comments, strings and keys. A string has double quotes and escapes or single quotes and
none, and with three quotes it may run over several lines. Control characters are nowhere
allowed but for the tab, and a carriage return stands only before a line feed.
-/

namespace AtomicEscrow.Toml

/-! ## Blanks, line ends, comments -/

/-- The blanks within a line. -/
def isSpace (c : Char) : Bool := c = ' ' || c = '\t'

def skipSpaces (cs : List Char) : List Char := cs.dropWhile isSpace

/-- Whether a character may stand in a comment, and in a string without an escape. -/
def isPlain (c : Char) : Bool := c = '\t' || (32 ≤ c.toNat && c.toNat ≠ 127)

/-- The text after a line feed, with or without a carriage return before it. -/
def afterNewline : List Char → Option (List Char)
  | '\n' :: rest => some rest
  | '\r' :: '\n' :: rest => some rest
  | _ => none

def skipComment : List Char → List Char
  | '#' :: rest => rest.dropWhile isPlain
  | cs => cs

/-- The text after blanks and a comment up to the end of a line or of the text. -/
def restOfLine (cs : List Char) : Option (List Char) :=
  match skipComment (skipSpaces cs) with
  | [] => some []
  | cs => afterNewline cs

/-- The text after blanks and line ends. -/
def skipBlankLines : List Char → List Char
  | [] => []
  | '\r' :: '\n' :: rest => skipBlankLines rest
  | c :: rest => if isSpace c || c = '\n' then skipBlankLines rest else c :: rest

/-- The text after blanks, line ends and comments; a comment may be open already. -/
def skipLines : Bool → List Char → Option (List Char)
  | _, [] => some []
  | _, '\r' :: '\n' :: rest => skipLines false rest
  | _, '\n' :: rest => skipLines false rest
  | true, c :: rest => if isPlain c then skipLines true rest else none
  | false, '#' :: rest => skipLines true rest
  | false, c :: rest => if isSpace c then skipLines false rest else some (c :: rest)

/-! ## Escapes -/

/-- The number that hexadecimal digits spell. -/
def hexValue? (cs : List Char) : Option Nat :=
  cs.foldlM (fun n c => (Hex.digitValue? c).map (16 * n + ·)) 0

/-- The character whose code the first `count` digits of a text spell. -/
def codeChar? (count : Nat) (cs : List Char) : Option Char := do
  let ds := cs.take count
  if ds.length ≠ count then none
  let n ← hexValue? ds
  if n.isValidChar then some (Char.ofNat n) else none

/-- The character that an escape stands for, and how many characters it takes after its
backslash. -/
def escape? : List Char → Option (Char × Nat)
  | 'b' :: _ => some ('\x08', 1)
  | 't' :: _ => some ('\t', 1)
  | 'n' :: _ => some ('\n', 1)
  | 'f' :: _ => some ('\x0c', 1)
  | 'r' :: _ => some ('\r', 1)
  | '"' :: _ => some ('"', 1)
  | '\\' :: _ => some ('\\', 1)
  | 'u' :: rest => (codeChar? 4 rest).map fun c => (c, 5)
  | 'U' :: rest => (codeChar? 8 rest).map fun c => (c, 9)
  | _ => none

/-- How many characters an escaped line end takes after its backslash: the line end itself and
all blanks and line ends around it. -/
def escapedLineEnd? (cs : List Char) : Option Nat := do
  let rest ← afterNewline (skipSpaces cs)
  return cs.length - (skipBlankLines rest).length

/-! ## Strings -/

/-- How a string is written. -/
structure Quoting where
  quote : Char
  /-- Whether a backslash starts an escape. -/
  escapes : Bool
  /-- Whether it runs over several lines, between three quotes each. -/
  multiline : Bool

/-- What follows three closing quotes: up to two quotes more belong to the string. -/
def lastQuotes (quote : Char) : List Char → List Char × List Char
  | a :: b :: rest =>
      if a = quote then if b = quote then ([a, b], rest) else ([a], b :: rest)
      else ([], a :: b :: rest)
  | [a] => if a = quote then ([a], []) else ([], [a])
  | [] => ([], [])

/-- The characters of a string up to its closing quotes, and the text after those. The first
`skip` characters are passed over. -/
def stringBody (q : Quoting) : Nat → List Char → Option (List Char × List Char)
  | _, [] => none
  | skip + 1, _ :: rest => stringBody q skip rest
  | 0, c :: rest =>
      let andMore (d : Char) (tail : Option (List Char × List Char)) :=
        tail.map fun (cs, rest) => (d :: cs, rest)
      if c = q.quote then
        if !q.multiline then some ([], rest)
        else if rest.take 2 = [c, c] then some (lastQuotes c (rest.drop 2))
        else andMore c (stringBody q 0 rest)
      else if q.escapes && c = '\\' then
        match if q.multiline then escapedLineEnd? rest else none with
        | some skip => stringBody q skip rest
        | none =>
            match escape? rest with
            | some (d, skip) => andMore d (stringBody q skip rest)
            | none => none
      else if isPlain c then andMore c (stringBody q 0 rest)
      else if q.multiline && c = '\n' then andMore c (stringBody q 0 rest)
      else if q.multiline && c = '\r' && rest.head? = some '\n' then stringBody q 0 rest
      else none

def skipNewline (cs : List Char) : List Char := (afterNewline cs).getD cs

def lineString : List Char → Option (List Char × List Char)
  | '"' :: rest => stringBody ⟨'"', true, false⟩ 0 rest
  | '\'' :: rest => stringBody ⟨'\'', false, false⟩ 0 rest
  | _ => none

def anyString : List Char → Option (List Char × List Char)
  | '"' :: '"' :: '"' :: rest => stringBody ⟨'"', true, true⟩ 0 (skipNewline rest)
  | '\'' :: '\'' :: '\'' :: rest => stringBody ⟨'\'', false, true⟩ 0 (skipNewline rest)
  | cs => lineString cs

/-! ## Keys -/

/-- Whether a character may stand in a key without quotes. -/
def isBareKeyChar (c : Char) : Bool := c.isAlphanum || c = '_' || c = '-'

def simpleKey (cs : List Char) : Option (String × List Char) :=
  match cs.takeWhile isBareKeyChar with
  | [] => (lineString cs).map fun (key, rest) => (String.ofList key, rest)
  | key => some (String.ofList key, cs.dropWhile isBareKeyChar)

/-- A key with dots: the tables that lead to an entry, and the key of the entry. -/
structure DottedKey where
  tables : List String
  key : String
deriving DecidableEq

/-- A dotted key of at most `parts` parts, with the blanks around it. -/
def dottedKey : Nat → List Char → Option (DottedKey × List Char)
  | 0, _ => none
  | parts + 1, cs => do
      let (key, rest) ← simpleKey (skipSpaces cs)
      match skipSpaces rest with
      | '.' :: rest =>
          let (path, rest) ← dottedKey parts rest
          return (⟨key :: path.tables, path.key⟩, rest)
      | rest => return (⟨[], key⟩, rest)

end AtomicEscrow.Toml
