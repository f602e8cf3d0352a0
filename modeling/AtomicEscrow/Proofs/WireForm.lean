import AtomicEscrow.Proofs.JsonText
import AtomicEscrow.Wire.Account
import AtomicEscrow.Wire.Event
import AtomicEscrow.Wire.Evidence

set_option autoImplicit false

/-! # Records survive their wire format

A value of a stored record is written as JSON and read from it, and what is read is what was
written (`records_faithful`). Reading allows more than writing makes, such as members in another
order or none where there is a default. So a text that is read need not be the text that was
written, but what it is read as is written in one form only.

For each type there is an instance of `LawfulWire`: the JSON of a value has a text that is read as
that JSON again (`Json.Plain`), and the JSON is read as the value. A record has these from its
fields. All that is needed about the record itself is that no two of its members have one name
(`Json.fields?_record`).
-/

namespace AtomicEscrow

/-- Values that are read as they were written. -/
class LawfulWire (α : Type) [Wire α] : Prop where
  plain_write : ∀ a : α, (write a).Plain
  read_write : ∀ a : α, Wire.read (write a) = some a

attribute [simp] LawfulWire.plain_write LawfulWire.read_write

/-! ## Records and choices -/

namespace Json

theorem namedMembers_keyed (members : List (String × Json)) :
    namedMembers (keyed members) = some members := by
  induction members with
  | nil => rfl
  | cons m members ih =>
      show (namedMembers (keyed members)).bind _ = _
      rw [ih]
      rfl

/-- Only the member itself has its name. -/
theorem filter_name {members : List (String × Json)} (hnames : (members.map Prod.fst).Nodup)
    {m : String × Json} (hm : m ∈ members) : (members.filter fun x => x.1 = m.1) = [m] := by
  -- On the members: one that is not the first keeps its name apart from the first one's.
  induction members with
  | nil => cases hm
  | cons first members ih =>
      rw [List.map_cons, List.nodup_cons] at hnames
      obtain ⟨hfirst, hrest⟩ := hnames
      rcases List.mem_cons.1 hm with rfl | hmem
      · have hnone : (members.filter fun x => x.1 = m.1) = [] := by
          refine List.filter_eq_nil_iff.2 fun x hx => ?_
          rw [decide_eq_true_eq]
          intro heq
          exact hfirst (heq ▸ List.mem_map_of_mem hx)
        rw [List.filter_cons_of_pos (by simp), hnone]
      · have hne : first.1 ≠ m.1 := fun heq => hfirst (heq ▸ List.mem_map_of_mem hmem)
        rw [List.filter_cons_of_neg (by simpa using hne), ih hrest hmem]

theorem membersOf_map_fst {members chosen : List (String × Json)}
    (h : ∀ m ∈ chosen, member members m.1 = some (some m.2)) :
    membersOf members (chosen.map Prod.fst) = some (chosen.map fun m => some m.2) := by
  induction chosen with
  | nil => rfl
  | cons m chosen ih =>
      rw [List.map_cons, membersOf, h m List.mem_cons_self,
        ih fun x hx => h x (List.mem_cons_of_mem _ hx)]
      rfl

/-- A record gives all its fields when their names are different. -/
theorem fields?_record {members : List (String × Json)} {names : List String}
    (hnames : members.map Prod.fst = names) (hdistinct : names.Nodup) :
    (record members).fields? names = some (members.map fun m => some m.2) := by
  subst hnames
  have hmember : ∀ m ∈ members, member members m.1 = some (some m.2) := by
    intro m hm
    rw [member, filter_name hdistinct hm]
  show (namedMembers (keyed members)).bind _ = _
  rw [namedMembers_keyed]
  exact membersOf_map_fst hmember

section Fields

variable {α : Type} [Wire α]

@[simp]
theorem required_write [LawfulWire α] (a : α) : required (some (write a)) = some a :=
  LawfulWire.read_write a

@[simp]
theorem optional_write [LawfulWire (Option α)] (a : Option α) :
    optional (some (write a)) = some a :=
  LawfulWire.read_write a

@[simp]
theorem defaulted_write [LawfulWire α] (a otherwise : α) :
    defaulted (some (write a)) otherwise = some a :=
  LawfulWire.read_write a

end Fields

theorem plain_choice (name : String) {content : Json} (h : content.Plain) :
    (choice name content).Plain := by
  refine .record fun m hm => ?_
  rw [List.mem_singleton.1 hm]
  exact h

end Json

open Json

/-! ## Numbers, flags, strings -/

theorem Json.natural?_of_lt {bound n : Nat} (h : n < bound) :
    (Json.natural n).natural? bound = some n := if_pos h

instance : LawfulWire Bool where
  plain_write := .bool
  read_write _ := rfl

instance : LawfulWire UInt16 where
  plain_write n := .natural n.toNat
  read_write n := by
    show ((Json.natural n.toNat).natural? _).map _ = _
    rw [natural?_of_lt n.toNat_lt_size, Option.map_some, UInt16.ofNat_toNat]

instance : LawfulWire UInt32 where
  plain_write n := .natural n.toNat
  read_write n := by
    show ((Json.natural n.toNat).natural? _).map _ = _
    rw [natural?_of_lt n.toNat_lt_size, Option.map_some, UInt32.ofNat_toNat]

instance : LawfulWire UInt64 where
  plain_write n := .natural n.toNat
  read_write n := by
    show ((Json.natural n.toNat).natural? _).map _ = _
    rw [natural?_of_lt n.toNat_lt_size, Option.map_some, UInt64.ofNat_toNat]

instance : LawfulWire String where
  plain_write := .text
  read_write _ := rfl

theorem Json.plain_ofBytes (bs : Bytes) : (ofBytes bs).Plain := .text _

@[simp]
theorem Json.bytes?_ofBytes (bs : Bytes) : (ofBytes bs).bytes? = some bs := Hex.bytes?_text bs

instance : LawfulWire Bytes32 where
  plain_write b := plain_ofBytes b.toList
  read_write b := by
    show ((ofBytes b.toList).bytes?).bind Bytes32.ofList? = _
    rw [bytes?_ofBytes, Option.bind_some, Bytes32.ofList?_toList]

instance : LawfulWire Pubkey where
  plain_write key := LawfulWire.plain_write key.bytes
  read_write key := by
    show (Wire.read (write key.bytes)).map Pubkey.mk = _
    rw [LawfulWire.read_write]
    rfl

theorem readAll_map_write {α : Type} [Wire α] [LawfulWire α] (as : List α) :
    readAll (as.map write) = some as := by
  induction as with
  | nil => rfl
  | cons a as ih =>
      rw [List.map_cons, readAll, LawfulWire.read_write, ih]
      rfl

instance {α : Type} [Wire α] [LawfulWire α] : LawfulWire (List α) where
  plain_write as := by
    refine .array fun item hitem => ?_
    obtain ⟨a, -, rfl⟩ := List.mem_map.1 hitem
    exact LawfulWire.plain_write a
  read_write := readAll_map_write

/-- A key is never written as null, so it is told from a missing one. -/
instance : LawfulWire (Option Pubkey) where
  plain_write key := by
    cases key with
    | none => exact .null
    | some key => exact LawfulWire.plain_write key
  read_write key := by
    cases key with
    | none => rfl
    | some key =>
        show (Wire.read (write key)).map some = _
        rw [LawfulWire.read_write]
        rfl

/-! ## Terms and records -/

theorem SwapKind.ofName?_name (kind : SwapKind) : ofName? kind.name = some kind := by
  cases kind <;> decide

instance : LawfulWire SwapKind where
  plain_write kind := .text kind.name
  read_write := SwapKind.ofName?_name

instance : LawfulWire Terms where
  plain_write t := by
    show (record _).Plain
    exact .record (by simp)
  read_write t := by
    show (fields? _ (record _)).bind _ = _
    simp [fields?_record]

instance : LawfulWire Escrow where
  plain_write e := by
    show (record _).Plain
    exact .record (by simp)
  read_write e := by
    show (fields? _ (record _)).bind _ = _
    simp [fields?_record]

instance : LawfulWire BalanceAccount where
  plain_write account := by
    cases account with
    | token address => exact plain_choice _ (LawfulWire.plain_write address)
    | internal address => exact plain_choice _ (LawfulWire.plain_write address)
  read_write account := by
    cases account with
    | token address =>
        show (Wire.read (write address)).bind _ = _
        simp
    | internal address =>
        show (Wire.read (write address)).bind _ = _
        simp

instance : LawfulWire FundingSource where
  plain_write source := by
    cases source with
    | payIn account => exact plain_choice _ (.record (by simp))
    | internal account deposit bounty => exact plain_choice _ (.record (by simp))
  read_write source := by
    cases source with
    | payIn account =>
        show (fields? _ (record _)).bind _ = _
        simp [fields?_record]
    | internal account deposit bounty =>
        show (fields? _ (record _)).bind _ = _
        simp [fields?_record]

instance : LawfulWire Tally where
  plain_write t := LawfulWire.plain_write t.toList
  read_write t := by
    show (Wire.read (write t.toList) : Option (List UInt64)).bind _ = _
    rw [LawfulWire.read_write]
    rfl

instance : LawfulWire UserAccount where
  plain_write a := by
    show (record _).Plain
    exact .record (by simp)
  read_write a := by
    show (fields? _ (record _)).bind _ = _
    simp [fields?_record]

instance : LawfulWire ReputationSummary where
  plain_write s := by
    show (record _).Plain
    exact .record (by simp)
  read_write s := by
    show (fields? _ (record _)).bind _ = _
    simp [fields?_record]

/-! ## Accounts, reports and configurations -/

instance : LawfulWire TokenAccount where
  plain_write a := by
    show (record _).Plain
    exact .record (by simp)
  read_write a := by
    show (fields? _ (record _)).bind _ = _
    simp [fields?_record]

instance : LawfulWire CustodyReport where
  plain_write r := by
    show (record _).Plain
    exact .record (by simp)
  read_write r := by
    show (fields? _ (record _)).bind _ = _
    simp [fields?_record]

/-- Every field is written, so none is given its standard value. -/
instance : LawfulWire Config where
  plain_write c := by
    show (record _).Plain
    exact .record (by simp)
  read_write c := by
    show (fields? _ (record _)).bind _ = _
    simp [fields?_record]

/-! ## Evidence -/

theorem HeightOperator.ofName?_name (op : HeightOperator) : ofName? op.name = some op := by
  cases op <;> decide

instance : LawfulWire HeightOperator where
  plain_write op := .text op.name
  read_write := HeightOperator.ofName?_name

theorem Json.requiredBytes_ofBytes (bs : Bytes) : requiredBytes (some (ofBytes bs)) = some bs :=
  bytes?_ofBytes bs

instance : LawfulWire Attestation where
  plain_write attestation := by
    cases attestation with
    | transactionVerified txid confirmations => exact plain_choice _ (.record (by simp))
    | blockHeight height operator => exact plain_choice _ (.record (by simp))
    | ed25519 pubkey message =>
        exact plain_choice _ (.record (by simp [plain_ofBytes]))
  read_write attestation := by
    cases attestation with
    | transactionVerified txid confirmations =>
        show (fields? _ (record _)).bind _ = _
        simp [fields?_record]
    | blockHeight height operator =>
        show (fields? _ (record _)).bind _ = _
        simp [fields?_record]
    | ed25519 pubkey message =>
        show (fields? _ (record _)).bind _ = _
        simp [fields?_record, requiredBytes_ofBytes]

instance : LawfulWire Instruction where
  plain_write i := by
    show (record _).Plain
    exact .record (by simp)
  read_write i := by
    show (fields? _ (record _)).bind _ = _
    simp [fields?_record]

instance : LawfulWire Preamble where
  plain_write p := by
    show (record _).Plain
    exact .record (by simp)
  read_write p := by
    show (fields? _ (record _)).bind _ = _
    simp [fields?_record]

instance : LawfulWire CommittedHeader where
  plain_write h := by
    show (record _).Plain
    exact .record (by simp)
  read_write h := by
    show (fields? _ (record _)).bind _ = _
    simp [fields?_record]

/-! ## Texts -/

namespace Wire

variable {α : Type} [Wire α]

/-- Reading the text of a value gives the value back. -/
theorem parse_render [LawfulWire α] (a : α) : parse (render a) = some a := by
  unfold parse render
  rw [(LawfulWire.plain_write a).parse_render]
  exact LawfulWire.read_write a

theorem render_injective [LawfulWire α] : Function.Injective (render : α → String) := by
  intro a b h
  have hb : parse (render a) = some b := by rw [h, parse_render]
  rw [parse_render] at hb
  exact Option.some.inj hb

/-- What is written is read again as the same value, and what was read from whatever text has a
text of its own that stays the same. -/
structure Faithful (α : Type) [Wire α] : Prop where
  read_back : ∀ a : α, parse (render a) = some a
  settled : ∀ (text : String) (a : α), parse text = some a →
    ∃ again : α, parse (render a) = some again ∧ again = a ∧ render again = render a

theorem faithful [LawfulWire α] : Faithful α where
  read_back := parse_render
  settled _ a _ := ⟨a, parse_render a, rfl, rfl⟩

end Wire

/-- All stored records survive their wire format. -/
theorem records_faithful :
    Wire.Faithful Terms ∧ Wire.Faithful Escrow ∧ Wire.Faithful UserAccount ∧
      Wire.Faithful TokenAccount ∧ Wire.Faithful BalanceAccount ∧ Wire.Faithful FundingSource ∧
      Wire.Faithful Preamble ∧ Wire.Faithful CommittedHeader ∧ Wire.Faithful CustodyReport ∧
      Wire.Faithful ReputationSummary ∧ Wire.Faithful Config :=
  ⟨Wire.faithful, Wire.faithful, Wire.faithful, Wire.faithful, Wire.faithful, Wire.faithful,
    Wire.faithful, Wire.faithful, Wire.faithful, Wire.faithful, Wire.faithful⟩

end AtomicEscrow
