import AtomicEscrow.Config.Setting

set_option autoImplicit false

/-! # Layers of settings

A layer is what one source of the configuration gives, under names without regard to case. A
name can also be a path like `a.b` or `a[0]`. It then is about a part of `a`, which makes `a` a
table or an array, whatever it was before. The environment gives texts only, under names that
start with `SWAP_`.

A layer is made by going through the settings of its source one after the other, and a later one
replaces an earlier one. In which order that happens is not for the source to say: the library that
reads it keeps what it reads under distinct labels and in no order. As long as no two labels are
about one field the order changes nothing. Where two are, as `a` and `A` in one file, every order is
as good as any other, and what is said about a layer has to be said about all of them.
-/

namespace AtomicEscrow

/-- Settings under names in lower case. Of several under one name the last counts that replaces
others. -/
structure Layer where
  settings : List (String × Setting)

namespace Layer

/-! ## Names -/

def isNameChar (c : Char) : Bool := c.isAlphanum || c = ' ' || c = '_' || c = '-'

def isBlank (c : Char) : Bool := c = ' ' || c = '\t'

/-- Digits after a sign as an integer. -/
def indexValue (negative : Bool) (ds : List Char) : Option Int :=
  if ds.isEmpty || !ds.all isDigit then none
  else some (if negative then -(decimalValue ds : Int) else decimalValue ds)

/-- Whether a text is the index of an item: an integer of 64 bits with blanks around it. -/
def isIndex (cs : List Char) : Bool :=
  let cs := ((cs.dropWhile isBlank).reverse.dropWhile isBlank).reverse
  let index :=
    match cs with
    | '-' :: ds => indexValue true ds
    | ds => indexValue false ds
  index.any fitsInteger

/-- Whether a text can follow the first part of a path; `fuel` is its length at least. -/
def isPathTail : Nat → List Char → Bool
  | _, [] => true
  | 0, _ :: _ => false
  | fuel + 1, '.' :: rest =>
      !(rest.takeWhile isNameChar).isEmpty && isPathTail fuel (rest.dropWhile isNameChar)
  | fuel + 1, '[' :: rest =>
      isIndex (rest.takeWhile (· ≠ ']')) &&
        match rest.dropWhile (· ≠ ']') with
        | [] => false
        | _ :: rest => isPathTail fuel rest
  | _ + 1, _ :: _ => false

/-- The field that a name is about, if it is about a part of it only. -/
def fieldOfPath (name : String) : Option String :=
  let first := name.toList.takeWhile isNameChar
  let tail := name.toList.dropWhile isNameChar
  if first.isEmpty || tail.isEmpty || !isPathTail tail.length tail then none
  else some (String.ofList first)

/-- The name of a field in lower case and what a setting under a name makes of it. Whether a name
is a path is seen from its lower case. -/
def entry (name : String) (setting : Setting) : String × Setting :=
  let name := Setting.lowerText name
  match fieldOfPath name with
  | none => (name, setting)
  | some field => (field, .composite)

/-! ## Sources -/

/-- The settings of a source under labels as they stand there, in the order in which they are gone
through. -/
abbrev Source := List (String × Setting)

def ofSource (source : Source) : Layer := ⟨source.map fun e => entry e.1 e.2⟩

/-- The members of a TOML table, in the order of the text. -/
def tableSource (members : List (String × Toml)) : Source := members.map fun m => (m.1, .ofToml m.2)

/-- What the names of the environment start with, in lower case. -/
def environmentMark : List Char := ['s', 'w', 'a', 'p', '_']

/-- The variables of an environment that are settings, under what their names go on with after
the mark, in lower case. -/
def environmentSource (environment : List (String × String)) : Source :=
  environment.filterMap fun v =>
    let name := (Setting.lowerText v.1).toList
    if environmentMark.isPrefixOf name then
      some (String.ofList (name.drop environmentMark.length), .text v.2)
    else none

/-- All settings under a name, the last of them first. -/
def given (layer : Layer) (name : String) : List Setting :=
  (layer.settings.reverse.filter fun s => s.1 = name).map Prod.snd

/-- The setting under a name. -/
def get? (layer : Layer) (name : String) : Option Setting :=
  ((layer.given name).find? Setting.replaces).or (layer.given name).head?

end Layer

end AtomicEscrow
