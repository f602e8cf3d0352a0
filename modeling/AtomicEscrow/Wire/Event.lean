import AtomicEscrow.Engine.Event
import AtomicEscrow.Json.Printer
import AtomicEscrow.Json.Reader
import AtomicEscrow.Number.Binary64
import AtomicEscrow.Wire.Swap

set_option autoImplicit false

/-! # Events as JSON

An event is one object: the member `event` says what happened, the others are the fields of the
event itself. As the tag may come last, a reader first has to keep the whole value. So nothing
in it may be unusable: no string without characters, no number too large for a floating point
number, and no more than 127 arrays and objects inside each other.
-/

namespace AtomicEscrow

namespace Json

mutual

/-- Whether a value can be kept in which at most `depth` arrays and objects are inside each
other. -/
def keepable (depth : Nat) : Json → Bool
  | .null => true
  | .bool _ => true
  | .natural n => !Binary64.overflowsInSteps ⟨false, n, 0⟩
  | .real d => !Binary64.overflowsInSteps d
  | .string s => s.isSome
  | .array items => 0 < depth && itemsKeepable (depth - 1) items
  | .object members => 0 < depth && membersKeepable (depth - 1) members

def itemsKeepable (depth : Nat) : List Json → Bool
  | [] => true
  | item :: rest => keepable depth item && itemsKeepable depth rest

def membersKeepable (depth : Nat) : List (Option String × Json) → Bool
  | [] => true
  | (key, value) :: rest => key.isSome && keepable depth value && membersKeepable depth rest

end

/-- How deep arrays and objects may be inside each other in an event. -/
def eventDepth : Nat := 127

/-- The tag of an event and the rest of it, which is a record of its own. -/
def tagged? : Json → Option (String × Json)
  | .array (tag :: rest) => do
      let name ← tag.text?
      return (name, .array rest)
  | .object members => do
      let [tag] := members.filter fun m => m.1 = some "event" | none
      let name ← tag.2.text?
      return (name, .object (members.filter fun m => m.1 ≠ some "event"))
  | _ => none

/-- The kind in a kept value, where an empty object will do for null. -/
def keptKind (field : Option Json) : Option SwapKind := do
  let j ← field
  match j with
  | .object [(some name, .object [])] => SwapKind.ofName? name
  | j => Wire.read j

end Json

namespace SwapEvent

def tag : SwapEvent → String
  | locked _ => "initialize"
  | claimed _ => "claim"
  | refunded _ => "refund"

def members : SwapEvent → List (String × Json)
  | locked e => [
      ("hash", write e.hash), ("txo_hash", write e.txoHash), ("nonce", write e.nonce),
      ("kind", write e.kind), ("sequence", write e.sequence)]
  | claimed e => [
      ("hash", write e.hash), ("secret", write e.secret), ("sequence", write e.sequence)]
  | refunded e => [("hash", write e.hash), ("sequence", write e.sequence)]

/-- The event with a given tag that a record gives the fields of. -/
def ofTagged (tag : String) (fields : Json) : Option SwapEvent := do
  match tag with
  | "initialize" =>
      let [hash, txoHash, nonce, kind, sequence] ←
        fields.fields? ["hash", "txo_hash", "nonce", "kind", "sequence"] | none
      return .locked {
        hash := ← Json.required hash
        txoHash := ← Json.required txoHash
        nonce := ← Json.required nonce
        kind := ← Json.keptKind kind
        sequence := ← Json.required sequence }
  | "claim" =>
      let [hash, secret, sequence] ← fields.fields? ["hash", "secret", "sequence"] | none
      return .claimed {
        hash := ← Json.required hash
        secret := ← Json.required secret
        sequence := ← Json.required sequence }
  | "refund" =>
      let [hash, sequence] ← fields.fields? ["hash", "sequence"] | none
      return .refunded { hash := ← Json.required hash, sequence := ← Json.required sequence }
  | _ => none

end SwapEvent

instance : Wire SwapEvent where
  write e := .record (("event", .text e.tag) :: e.members)
  read j := do
    if !j.keepable Json.eventDepth then none
    let (tag, fields) ← j.tagged?
    SwapEvent.ofTagged tag fields

namespace Wire

variable {α : Type} [Wire α]

def render (a : α) : String := (write a).render

def parse (s : String) : Option α := do
  let j ← Json.parse s
  Wire.read j

end Wire

end AtomicEscrow
