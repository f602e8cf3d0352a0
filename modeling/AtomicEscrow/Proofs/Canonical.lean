import AtomicEscrow.Bytes.Positional
import AtomicEscrow.Proofs.Reading
import AtomicEscrow.Sample.Swap

set_option autoImplicit false

/-! # One form for each transaction

The digest of the submitted bytes is an id of the transaction only if no other bytes stand for the
same transaction. This file proves that: the reader and the writer of a transaction are inverse to
each other.

For each part of a transaction there is one sentence, `Reader.Reads`: the reader takes a value off
the front of some bytes iff the value fits and the bytes start with what the writer makes of it.
A reader followed by another one is taken apart by `Reads.run_bind`, so the sentence about the
whole transaction is put together from those about its fields. In the end a byte string is
accepted iff it is the legacy form of a transaction with an input (`read_eq_ok_iff_legacyBytes`).

Bytes are read in either form before it is decided that only the legacy form will do. That
decision is made by looking at two bytes, and again at the witnesses that were read; the second
look never finds anything (`readEither_eq_read`).
-/

namespace AtomicEscrow

/-! ## What fits -/

/-- The script of the input has a length that a count can say. -/
def TxInput.Fits (i : TxInput) : Prop := i.script.length < UInt64.size

def TxOutput.Fits (o : TxOutput) : Prop := o.script.length < UInt64.size

instance (i : TxInput) : Decidable i.Fits :=
  inferInstanceAs (Decidable (i.script.length < UInt64.size))

instance (o : TxOutput) : Decidable o.Fits :=
  inferInstanceAs (Decidable (o.script.length < UInt64.size))

/-- All counts and lengths of the transaction are words. -/
structure Transaction.Fits (tx : Transaction) : Prop where
  inputs_lt : tx.inputs.length < UInt64.size
  outputs_lt : tx.outputs.length < UInt64.size
  input : ∀ i ∈ tx.inputs, i.Fits
  output : ∀ o ∈ tx.outputs, o.Fits

/-- A count says in its first byte that there is nothing, or does not start with zero. -/
theorem countBytes_eq_cons {n : Nat} (h : 0 < n) : ∃ b bs, countBytes n = b :: bs ∧ b ≠ 0 := by
  unfold countBytes
  by_cases hone : n < 0xfd
  · -- The number is its own first byte, and it is positive.
    rw [if_pos hone]
    refine ⟨UInt8.ofNat (n % 256), [], rfl, fun hzero => ?_⟩
    have hn : (UInt8.ofNat (n % 256)).toNat = n := by
      rw [UInt8.toNat_ofNat']
      omega
    rw [hzero] at hn
    exact absurd hn (Nat.ne_of_lt h)
  · rw [if_neg hone]
    -- The longer forms start with their mark.
    split
    · exact ⟨_, _, rfl, by decide⟩
    · split
      · exact ⟨_, _, rfl, by decide⟩
      · exact ⟨_, _, rfl, by decide⟩

namespace Reader

variable {α β : Type} {reader : Reader α} {fits : α → Prop} {write : α → Bytes}
  {bs rest : Bytes}

/-! ## Readers and writers -/

/-- The reader takes a value off the front of some bytes iff the value fits and the bytes start
with its written form. -/
def Reads (reader : Reader α) (fits : α → Prop) (write : α → Bytes) : Prop :=
  ∀ (bs rest : Bytes) (a : α),
    reader.run bs = .ok (a, rest) ↔ fits a ∧ bs = write a ++ rest

/-- What is read first is in front, and what is read next is behind it. -/
theorem Reads.run_bind (h : reader.Reads fits write) {next : α → Reader β} {b : β} :
    (reader >>= next).run bs = .ok (b, rest) ↔
      ∃ a behind, fits a ∧ bs = write a ++ behind ∧ (next a).run behind = .ok (b, rest) := by
  rw [run_bind_eq_ok_iff]
  constructor
  · rintro ⟨a, behind, hfirst, hnext⟩
    obtain ⟨hfits, hfront⟩ := (h ..).1 hfirst
    exact ⟨a, behind, hfits, hfront, hnext⟩
  · rintro ⟨a, behind, hfits, hfront, hnext⟩
    exact ⟨a, behind, (h ..).2 ⟨hfits, hfront⟩, hnext⟩

/-! ## Numbers and bytes -/

theorem run_bytes_eq_ok_iff {n : Nat} {taken : Bytes} :
    (bytes n).run bs = .ok (taken, rest) ↔ taken.length = n ∧ bs = taken ++ rest := by
  show (if (bs.take n).length < n then Except.error Malformation.endOfData
    else .ok (bs.take n, bs.drop n)) = _ ↔ _
  -- What is taken falls short exactly if the bytes end before.
  by_cases hshort : (bs.take n).length < n
  · rw [if_pos hshort]
    constructor
    · intro h
      cases h
    · rintro ⟨rfl, rfl⟩
      rw [List.take_left] at hshort
      exact absurd hshort (Nat.lt_irrefl _)
  · rw [if_neg hshort]
    constructor
    · intro h
      cases h
      have hle := List.length_take_le n bs
      exact ⟨by omega, (List.take_append_drop n bs).symm⟩
    · rintro ⟨rfl, rfl⟩
      rw [List.take_left, List.drop_left]

theorem number_reads (width : Nat) : (number width).Reads (· < 256 ^ width) (littleEndian width) := by
  intro bs rest n
  constructor
  · intro h
    obtain ⟨taken, behind, htaken, hdone⟩ := run_bind_eq_ok_iff.1 h
    obtain ⟨rfl, rfl⟩ := run_pure_eq_ok_iff.1 hdone
    obtain ⟨rfl, rfl⟩ := run_bytes_eq_ok_iff.1 htaken
    exact ⟨littleEndianValue_lt taken, by rw [littleEndian_value]⟩
  · rintro ⟨hlt, rfl⟩
    refine run_bind_eq_ok_iff.2 ⟨_, _, run_bytes_eq_ok_iff.2 ⟨length_littleEndian width n, rfl⟩,
      run_pure_eq_ok_iff.2 ⟨?_, rfl⟩⟩
    rw [value_littleEndian, Nat.mod_eq_of_lt hlt]

theorem hash_reads : hash.Reads (fun _ => True) Bytes32.toList := by
  intro bs rest h
  constructor
  · intro hread
    obtain ⟨taken, behind, htaken, hdone⟩ := run_bind_eq_ok_iff.1 hread
    obtain ⟨-, rfl⟩ := run_bytes_eq_ok_iff.1 htaken
    cases hlist : Bytes32.ofList? taken with
    | none =>
        rw [hlist] at hdone
        exact absurd hdone run_throw_ne_ok
    | some found =>
        rw [hlist] at hdone
        obtain ⟨rfl, rfl⟩ := run_pure_eq_ok_iff.1 hdone
        exact ⟨trivial, by rw [Bytes32.ofList?_eq_some_iff.1 hlist]⟩
  · rintro ⟨-, rfl⟩
    refine run_bind_eq_ok_iff.2 ⟨_, _, run_bytes_eq_ok_iff.2 ⟨h.length_toList, rfl⟩, ?_⟩
    simp only [Bytes32.ofList?_toList]
    exact run_pure_eq_ok_iff.2 ⟨rfl, rfl⟩

/-! ## Counts -/

theorem longNumber_reads (width least : Nat) :
    (longNumber width least).Reads (fun n => least ≤ n ∧ n < 256 ^ width)
      (littleEndian width) := by
  intro bs rest n
  constructor
  · intro h
    obtain ⟨read, behind, hlt, rfl, hdone⟩ := (number_reads width).run_bind.1 h
    by_cases hshort : read < least
    · rw [if_pos hshort] at hdone
      obtain ⟨_, _, hthrown, -⟩ := run_bind_eq_ok_iff.1 hdone
      exact absurd hthrown run_throw_ne_ok
    · rw [if_neg hshort] at hdone
      obtain ⟨rfl, rfl⟩ := run_pure_eq_ok_iff.1 hdone
      exact ⟨⟨Nat.not_lt.1 hshort, hlt⟩, rfl⟩
  · rintro ⟨⟨hle, hlt⟩, rfl⟩
    refine (number_reads width).run_bind.2 ⟨n, rest, hlt, rfl, ?_⟩
    rw [if_neg (Nat.not_lt.2 hle)]
    exact run_pure_eq_ok_iff.2 ⟨rfl, rfl⟩

/-- A count is read only in the shortest of its four forms, the one that is written. -/
theorem count_reads : count.Reads (· < UInt64.size) countBytes := by
  intro bs rest n
  constructor
  · intro h
    obtain ⟨first, behind, hfirst, rfl, hmore⟩ := (number_reads 1).run_bind.1 h
    -- Forwards the first byte tells the form, and each of the longer ones refuses a number for
    -- which there was a shorter one.
    by_cases hone : first < 0xfd
    · rw [if_pos hone] at hmore
      obtain ⟨rfl, rfl⟩ := run_pure_eq_ok_iff.1 hmore
      refine ⟨Nat.lt_trans hone (by decide), ?_⟩
      rw [countBytes, if_pos hone]
    · rw [if_neg hone] at hmore
      by_cases htwo : first = 0xfd
      · rw [if_pos htwo] at hmore
        obtain ⟨⟨hle, hlt⟩, rfl⟩ := (longNumber_reads 2 _ ..).1 hmore
        refine ⟨Nat.lt_trans hlt (by decide), ?_⟩
        have hform : n < 0x10000 := hlt
        rw [countBytes, if_neg (by omega), if_pos hform, htwo]
        rfl
      · rw [if_neg htwo] at hmore
        by_cases hfour : first = 0xfe
        · rw [if_pos hfour] at hmore
          obtain ⟨⟨hle, hlt⟩, rfl⟩ := (longNumber_reads 4 _ ..).1 hmore
          refine ⟨Nat.lt_trans hlt (by decide), ?_⟩
          have hform : n < 0x100000000 := hlt
          rw [countBytes, if_neg (by omega), if_neg (by omega), if_pos hform, hfour]
          rfl
        · rw [if_neg hfour] at hmore
          obtain ⟨⟨hle, hlt⟩, rfl⟩ := (longNumber_reads 8 _ ..).1 hmore
          have height : first = 0xff := by omega
          refine ⟨hlt, ?_⟩
          rw [countBytes, if_neg (by omega), if_neg (by omega), if_neg (by omega), height]
          rfl
  · rintro ⟨hlt, rfl⟩
    -- Backwards the number tells the form, and the forms before it are too short for it.
    unfold countBytes
    by_cases hone : n < 0xfd
    · rw [if_pos hone]
      refine (number_reads 1).run_bind.2 ⟨n, rest, Nat.lt_trans hone (by decide), rfl, ?_⟩
      rw [if_pos hone]
      exact run_pure_eq_ok_iff.2 ⟨rfl, rfl⟩
    · rw [if_neg hone]
      by_cases htwo : n < 0x10000
      · rw [if_pos htwo]
        exact (number_reads 1).run_bind.2 ⟨0xfd, littleEndian 2 n ++ rest, by decide, rfl,
          (longNumber_reads 2 _ ..).2 ⟨⟨Nat.not_lt.1 hone, htwo⟩, rfl⟩⟩
      · rw [if_neg htwo]
        by_cases hfour : n < 0x100000000
        · rw [if_pos hfour]
          exact (number_reads 1).run_bind.2 ⟨0xfe, littleEndian 4 n ++ rest, by decide, rfl,
            (longNumber_reads 4 _ ..).2 ⟨⟨Nat.not_lt.1 htwo, hfour⟩, rfl⟩⟩
        · rw [if_neg hfour]
          exact (number_reads 1).run_bind.2 ⟨0xff, littleEndian 8 n ++ rest, by decide, rfl,
            (longNumber_reads 8 _ ..).2 ⟨⟨Nat.not_lt.1 hfour, hlt⟩, rfl⟩⟩

theorem sizedBytes_reads :
    sizedBytes.Reads (·.length < UInt64.size) AtomicEscrow.sizedBytes := by
  intro bs rest taken
  constructor
  · intro h
    obtain ⟨n, behind, hlt, rfl, htaken⟩ := count_reads.run_bind.1 h
    obtain ⟨rfl, rfl⟩ := run_bytes_eq_ok_iff.1 htaken
    exact ⟨hlt, (List.append_assoc ..).symm⟩
  · rintro ⟨hlt, rfl⟩
    exact count_reads.run_bind.2 ⟨taken.length, taken ++ rest, hlt, List.append_assoc ..,
      run_bytes_eq_ok_iff.2 ⟨rfl, rfl⟩⟩

/-- Items are read one after the other as they are written one after the other. -/
theorem many_reads (h : reader.Reads fits write) (n : Nat) :
    (many reader n).Reads (fun items => items.length = n ∧ ∀ a ∈ items, fits a)
      (·.flatMap write) := by
  -- The reader takes as many items as it is told, so the induction is on that number and not on
  -- the items, which are only known afterwards.
  induction n with
  | zero =>
      intro bs rest items
      rw [many, run_pure_eq_ok_iff]
      constructor
      · rintro ⟨rfl, rfl⟩
        exact ⟨⟨rfl, fun _ hmem => by cases hmem⟩, rfl⟩
      · rintro ⟨⟨hlength, -⟩, rfl⟩
        rw [List.length_eq_zero_iff.1 hlength]
        exact ⟨rfl, rfl⟩
  | succ n ih =>
      intro bs rest items
      constructor
      · intro hread
        obtain ⟨first, behind, hfirst, rfl, hmore⟩ := h.run_bind.1 hread
        obtain ⟨others, behind', ⟨hlength, hothers⟩, rfl, hdone⟩ := ih.run_bind.1 hmore
        obtain ⟨rfl, rfl⟩ := run_pure_eq_ok_iff.1 hdone
        refine ⟨⟨congrArg (· + 1) hlength, ?_⟩, ?_⟩
        · intro a ha
          rcases List.mem_cons.1 ha with rfl | ha
          · exact hfirst
          · exact hothers a ha
        · show _ = (first :: others).flatMap write ++ rest
          rw [List.flatMap_cons, List.append_assoc]
      · rintro ⟨⟨hlength, hfits⟩, rfl⟩
        -- There is an item to write, since as many are written as were announced.
        cases items with
        | nil => cases hlength
        | cons first others =>
            have hothers : others.length = n ∧ ∀ a ∈ others, fits a :=
              ⟨Nat.succ.inj hlength, fun a ha => hfits a (List.mem_cons_of_mem _ ha)⟩
            have hfront : (first :: others).flatMap write ++ rest =
                write first ++ (others.flatMap write ++ rest) := by
              rw [List.flatMap_cons, List.append_assoc]
            exact h.run_bind.2 ⟨first, _, hfits first (List.mem_cons_self ..), hfront,
              ih.run_bind.2 ⟨others, rest, hothers, rfl, run_pure_eq_ok_iff.2 ⟨rfl, rfl⟩⟩⟩

/-! ## Transactions -/

theorem toNat_ofNat_of_lt {n : Nat} (h : n < 256 ^ 4) : (UInt32.ofNat n).toNat = n := by
  rw [UInt32.toNat_ofNat']
  exact Nat.mod_eq_of_lt h

theorem input_reads : input.Reads TxInput.Fits TxInput.bytes := by
  intro bs rest i
  constructor
  · intro h
    -- Every field takes its bytes off the front and leaves the rest to the next one.
    obtain ⟨spentId, _, -, rfl, h₁⟩ := hash_reads.run_bind.1 h
    obtain ⟨spentIndex, _, hindex, rfl, h₂⟩ := (number_reads 4).run_bind.1 h₁
    obtain ⟨script, _, hscript, rfl, h₃⟩ := sizedBytes_reads.run_bind.1 h₂
    obtain ⟨sequence, _, hsequence, rfl, h₄⟩ := (number_reads 4).run_bind.1 h₃
    obtain ⟨rfl, rfl⟩ := run_pure_eq_ok_iff.1 h₄
    refine ⟨hscript, ?_⟩
    simp only [TxInput.bytes, toNat_ofNat_of_lt hindex, toNat_ofNat_of_lt hsequence,
      List.append_assoc]
  · rintro ⟨hscript, rfl⟩
    simp only [TxInput.bytes, List.append_assoc]
    exact hash_reads.run_bind.2 ⟨_, _, trivial, rfl,
      (number_reads 4).run_bind.2 ⟨_, _, i.spentIndex.toNat_lt, rfl,
        sizedBytes_reads.run_bind.2 ⟨_, _, hscript, rfl,
          (number_reads 4).run_bind.2 ⟨_, _, i.sequence.toNat_lt, rfl,
            run_pure_eq_ok_iff.2 ⟨by rw [UInt32.ofNat_toNat, UInt32.ofNat_toNat], rfl⟩⟩⟩⟩⟩

theorem output_reads : output.Reads TxOutput.Fits TxOutput.bytes := by
  intro bs rest o
  constructor
  · intro h
    obtain ⟨value, _, hvalue, rfl, h₁⟩ := (number_reads 8).run_bind.1 h
    obtain ⟨script, _, hscript, rfl, h₂⟩ := sizedBytes_reads.run_bind.1 h₁
    obtain ⟨rfl, rfl⟩ := run_pure_eq_ok_iff.1 h₂
    have hword : (UInt64.ofNat value).toNat = value := by
      rw [UInt64.toNat_ofNat']
      exact Nat.mod_eq_of_lt hvalue
    refine ⟨hscript, ?_⟩
    simp only [TxOutput.bytes, hword, List.append_assoc]
  · rintro ⟨hscript, rfl⟩
    simp only [TxOutput.bytes, List.append_assoc]
    exact (number_reads 8).run_bind.2 ⟨_, _, o.value.toNat_lt, rfl,
      sizedBytes_reads.run_bind.2 ⟨_, _, hscript, rfl,
        run_pure_eq_ok_iff.2 ⟨by rw [UInt64.ofNat_toNat], rfl⟩⟩⟩

/-- Inputs are read after their count, which is never zero. -/
theorem inputs_reads :
    inputs.Reads (fun ins => ins ≠ [] ∧ ins.length < UInt64.size ∧ ∀ i ∈ ins, i.Fits)
      (fun ins => countBytes ins.length ++ ins.flatMap TxInput.bytes) := by
  intro bs rest ins
  constructor
  · intro h
    -- That there is an input is known before the count is looked at.
    have hsome := inputs_ne_nil h
    obtain ⟨n, _, hlt, rfl, hmore⟩ := count_reads.run_bind.1 h
    by_cases hzero : n = 0
    · -- After a count of zero the reader only looks at the flag, and fails.
      rw [if_pos hzero] at hmore
      obtain ⟨_, _, -, hflag⟩ := run_bind_eq_ok_iff.1 hmore
      obtain ⟨_, _, hthrown, -⟩ := run_bind_eq_ok_iff.1 hflag
      exact absurd hthrown run_throw_ne_ok
    · rw [if_neg hzero] at hmore
      obtain ⟨⟨rfl, hfits⟩, rfl⟩ := (many_reads input_reads n ..).1 hmore
      exact ⟨⟨hsome, hlt, hfits⟩, (List.append_assoc ..).symm⟩
  · rintro ⟨⟨hsome, hlt, hfits⟩, rfl⟩
    refine count_reads.run_bind.2 ⟨_, _, hlt, List.append_assoc .., ?_⟩
    rw [if_neg (fun hzero => hsome (List.length_eq_zero_iff.1 hzero))]
    exact (many_reads input_reads _ ..).2 ⟨⟨rfl, hfits⟩, rfl⟩

/-- **A transaction is read iff it is written**, unless it has no inputs. -/
theorem transaction_reads :
    transaction.Reads (fun tx => tx.Fits ∧ tx.inputs ≠ []) Transaction.legacyBytes := by
  intro bs rest tx
  constructor
  · intro h
    -- The five parts in their order, each with what it requires of the transaction.
    obtain ⟨version, _, hversion, rfl, h₁⟩ := (number_reads 4).run_bind.1 h
    obtain ⟨ins, _, ⟨hsome, hins, hinsFit⟩, rfl, h₂⟩ := inputs_reads.run_bind.1 h₁
    obtain ⟨n, _, hn, rfl, h₃⟩ := count_reads.run_bind.1 h₂
    obtain ⟨outs, _, ⟨rfl, houtsFit⟩, rfl, h₄⟩ := (many_reads output_reads n).run_bind.1 h₃
    obtain ⟨locktime, _, hlocktime, rfl, h₅⟩ := (number_reads 4).run_bind.1 h₄
    obtain ⟨rfl, rfl⟩ := run_pure_eq_ok_iff.1 h₅
    refine ⟨⟨⟨hins, hn, hinsFit, houtsFit⟩, hsome⟩, ?_⟩
    simp only [Transaction.legacyBytes, toNat_ofNat_of_lt hversion, toNat_ofNat_of_lt hlocktime,
      List.append_assoc]
  · rintro ⟨⟨⟨hins, houts, hinsFit, houtsFit⟩, hsome⟩, rfl⟩
    simp only [Transaction.legacyBytes, List.append_assoc]
    exact (number_reads 4).run_bind.2 ⟨_, _, tx.version.toNat_lt, rfl,
      inputs_reads.run_bind.2 ⟨_, _, ⟨hsome, hins, hinsFit⟩, (List.append_assoc ..).symm,
        count_reads.run_bind.2 ⟨_, _, houts, rfl,
          (many_reads output_reads _).run_bind.2 ⟨_, _, ⟨rfl, houtsFit⟩, rfl,
            (number_reads 4).run_bind.2 ⟨_, _, tx.locktime.toNat_lt, rfl,
              run_pure_eq_ok_iff.2 ⟨by rw [UInt32.ofNat_toNat, UInt32.ofNat_toNat], rfl⟩⟩⟩⟩⟩⟩

end Reader

/-! ## Submitted transactions -/

/-- The marker and the flag of the form with witnesses stand where the inputs are counted. -/
def Marked (raw : Bytes) : Prop := raw.getD 4 0 = 0 ∧ raw.getD 5 0 = 1

instance (raw : Bytes) : Decidable (Marked raw) :=
  inferInstanceAs (Decidable (raw.getD 4 0 = 0 ∧ raw.getD 5 0 = 1))

/-- The fifth byte of a transaction starts the count of its inputs. -/
theorem Transaction.not_marked {tx : Transaction} (h : tx.inputs ≠ []) :
    ¬Marked tx.legacyBytes := by
  rintro ⟨hmarker, -⟩
  obtain ⟨b, bs, hcount, hne⟩ := countBytes_eq_cons (List.length_pos_iff.2 h)
  rw [legacyBytes, hcount] at hmarker
  simp only [littleEndian, List.append_assoc, List.cons_append, List.nil_append] at hmarker
  exact hne hmarker

namespace SubmittedTransaction

variable {raw : Bytes} {tx : SubmittedTransaction}

/-- What is accepted is the legacy form of a transaction, and its id is that of the transaction. -/
theorem read_eq_ok_iff_legacyBytes :
    read raw = .ok tx ↔
      merkleNodeLength < raw.length ∧ tx.transaction.Fits ∧ tx.transaction.inputs ≠ [] ∧
        raw = tx.transaction.legacyBytes ∧ tx.txid = tx.transaction.id := by
  rw [read_eq_ok_iff, Reader.transaction_reads, List.append_nil]
  constructor
  · rintro ⟨hlong, -, ⟨⟨hfits, hsome⟩, rfl⟩, hid⟩
    exact ⟨hlong, hfits, hsome, rfl, hid⟩
  · rintro ⟨hlong, hfits, hsome, rfl, hid⟩
    exact ⟨hlong, Transaction.not_marked hsome, ⟨⟨hfits, hsome⟩, rfl⟩, hid⟩

theorem uniformSequence_ne_noInputs (h : tx.transaction.inputs ≠ []) :
    tx.uniformSequence ≠ .error (.ofMalformation .noInputs) := by
  unfold uniformSequence
  cases hinputs : tx.transaction.inputs with
  | nil => exact absurd hinputs h
  | cons first others =>
      intro herror
      dsimp only at herror
      split at herror
      · cases herror
      · split at herror <;> cases herror

end SubmittedTransaction

/-! ## Either form

The reader of transactions in general also knows the form with witnesses. What it makes of that
form does not matter here, so the part behind marker and flag is any reader whatever. -/

/-- A transaction with the witnesses of its inputs, a stack of byte strings for each. -/
structure WitnessedTransaction where
  transaction : Transaction
  witnesses : List (List Bytes)

namespace Reader

variable (marked : UInt32 → Reader WitnessedTransaction) {bs : Bytes}

/-- Takes a transaction in either form. Where no inputs are counted and the flag of the form with
witnesses follows, `marked` takes the rest. -/
def eitherForm : Reader WitnessedTransaction := do
  let version ← number 4
  let n ← count
  if n = 0 then
    let flag ← number 1
    if flag = 1 then marked (UInt32.ofNat version) else throw (.witnessFlag flag)
  else
    let ins ← many input n
    let m ← count
    let outs ← many output m
    let locktime ← number 4
    return ⟨⟨UInt32.ofNat version, ins, outs, UInt32.ofNat locktime⟩, ins.map fun _ => []⟩

def unwitnessed (tx : Transaction) : WitnessedTransaction := ⟨tx, tx.inputs.map fun _ => []⟩

theorem run_bind {α β : Type} (reader : Reader α) (next : α → Reader β) (bs : Bytes) :
    (reader >>= next).run bs =
      match reader.run bs with
      | .ok (a, behind) => (next a).run behind
      | .error e => .error e := by
  show (reader.run bs >>= fun read => (next read.1).run read.2) = _
  cases reader.run bs <;> rfl

/-- Without the marker both readers do the same, also where they fail. -/
theorem run_eitherForm (h : ¬Marked bs) :
    (eitherForm marked).run bs =
      (transaction.run bs).map fun read => (unwitnessed read.1, read.2) := by
  unfold eitherForm transaction inputs
  rw [run_bind, run_bind]
  -- A failure of a reader that both share is the same failure, so only what was read goes on.
  cases hversion : (number 4).run bs with
  | error e => rfl
  | ok version =>
      obtain ⟨version, behind⟩ := version
      obtain ⟨-, rfl⟩ := (number_reads 4 ..).1 hversion
      simp only [run_bind]
      cases hcount : count.run behind with
      | error e => rfl
      | ok n =>
          obtain ⟨n, behind⟩ := n
          obtain ⟨-, rfl⟩ := (count_reads ..).1 hcount
          by_cases hzero : n = 0
          · subst hzero
            simp only [if_true, run_bind]
            cases hflag : (number 1).run behind with
            | error e => rfl
            | ok flag =>
                obtain ⟨flag, behind⟩ := flag
                obtain ⟨-, rfl⟩ := (number_reads 1 ..).1 hflag
                -- The flag is the sixth byte, so it is not that of the other form.
                have hne : flag ≠ 1 := by
                  rintro rfl
                  exact h ⟨rfl, rfl⟩
                simp only [if_neg hne]
                rfl
          · -- From here on both read the same fields, one after the other.
            simp only [if_neg hzero, run_bind]
            rcases (many input n).run behind with e | ⟨ins, behind⟩
            · rfl
            dsimp only
            rcases count.run behind with e | ⟨m, behind⟩
            · rfl
            dsimp only
            rcases (many output m).run behind with e | ⟨outs, behind⟩
            · rfl
            dsimp only
            rcases (number 4).run behind with e | ⟨locktime, behind⟩
            · rfl
            · rfl

theorem whole_eitherForm (h : ¬Marked bs) :
    (eitherForm marked).whole bs = (transaction.whole bs).map unwitnessed := by
  unfold whole
  rw [run_eitherForm marked h]
  rcases transaction.run bs with e | ⟨tx, _ | ⟨b, more⟩⟩
  · rfl
  · rfl
  · rfl

end Reader

namespace SubmittedTransaction

/-- Reads a submitted transaction of which it is not taken for granted that it has no witnesses:
they are looked for once more in what was read. -/
def readEither (marked : UInt32 → Reader WitnessedTransaction) (raw : Bytes) :
    Except DataError SubmittedTransaction :=
  if raw.length = merkleNodeLength then .error (.merkleNodeLength raw.length)
  else if raw.length < merkleNodeLength then .error (.ofMalformation (.tooShort raw.length))
  else if Marked raw then .error .witnessNotStripped
  else
    match (Reader.eitherForm marked).whole raw with
    | .error e => .error (.ofMalformation e)
    | .ok read =>
        if read.witnesses.any (· ≠ []) then .error .witnessNotStripped
        else .ok ⟨read.transaction, Sha256.double raw⟩

theorem witness_eq_nil {marked : UInt32 → Reader WitnessedTransaction} {raw : Bytes}
    {read : WitnessedTransaction} (h : ¬Marked raw)
    (hread : (Reader.eitherForm marked).whole raw = .ok read) :
    ∀ witness ∈ read.witnesses, witness = [] := by
  rw [Reader.whole_eitherForm marked h] at hread
  cases hwhole : Reader.transaction.whole raw with
  | error e =>
      rw [hwhole] at hread
      cases hread
  | ok tx =>
      rw [hwhole] at hread
      cases hread
      intro witness hmem
      obtain ⟨_, -, rfl⟩ := List.mem_map.1 hmem
      rfl

theorem readEither_eq_read (marked : UInt32 → Reader WitnessedTransaction) (raw : Bytes) :
    readEither marked raw = read raw := by
  unfold readEither read
  by_cases h : Marked raw
  · have hbytes : raw.getD 4 0 = 0 ∧ raw.getD 5 0 = 1 := h
    rw [if_pos h, if_pos hbytes]
  · have hbytes : ¬(raw.getD 4 0 = 0 ∧ raw.getD 5 0 = 1) := h
    have heither := Reader.whole_eitherForm marked h
    rw [if_neg h, if_neg hbytes]
    -- Without the marker both readers have read the same transaction, or failed alike.
    cases hwhole : Reader.transaction.whole raw with
    | error e =>
        rw [hwhole] at heither
        rw [heither]
        rfl
    | ok tx =>
        rw [hwhole] at heither
        have hnone : (Reader.unwitnessed tx).witnesses.any (· ≠ []) = false := by
          rw [List.any_eq_false]
          intro witness hmem
          simp [witness_eq_nil h heither witness hmem]
        rw [heither]
        simp only [Except.map, hnone]
        rfl

/-! ## One form for each transaction -/

/-- **A transaction is accepted in one form only.** What is accepted is the legacy form of a
transaction with an input, of any that is longer than an inner node of a merkle tree. It is
written again as it was submitted, so the id of the bytes is the id of the transaction, and no
other bytes give it. It never lacks an input, and it never has a witness that was not noticed
before it was read. -/
theorem read_canonical (raw : Bytes) :
    ((∃ tx, read raw = .ok tx) ↔
      merkleNodeLength < raw.length ∧
        ∃ tx : Transaction, tx.Fits ∧ tx.inputs ≠ [] ∧ tx.legacyBytes = raw) ∧
    (∀ tx, read raw = .ok tx →
      tx.transaction.legacyBytes = raw ∧ tx.txid = tx.transaction.id ∧
        tx.transaction.inputs ≠ [] ∧
        tx.uniformSequence ≠ .error (.ofMalformation .noInputs) ∧
        ∀ raw' tx', read raw' = .ok tx' → tx'.transaction = tx.transaction → raw' = raw) ∧
    ∀ marked, readEither marked raw = read raw ∧
      ∀ either, ¬Marked raw → (Reader.eitherForm marked).whole raw = .ok either →
        ∀ witness ∈ either.witnesses, witness = [] := by
  refine ⟨⟨?_, ?_⟩, ?_, ?_⟩
  · rintro ⟨tx, hread⟩
    obtain ⟨hlong, hfits, hsome, hraw, -⟩ := read_eq_ok_iff_legacyBytes.1 hread
    exact ⟨hlong, tx.transaction, hfits, hsome, hraw.symm⟩
  · rintro ⟨hlong, tx, hfits, hsome, hraw⟩
    exact ⟨⟨tx, tx.id⟩, read_eq_ok_iff_legacyBytes.2 ⟨hlong, hfits, hsome, hraw.symm, rfl⟩⟩
  · intro tx hread
    obtain ⟨-, -, hsome, hraw, hid⟩ := read_eq_ok_iff_legacyBytes.1 hread
    refine ⟨hraw.symm, hid, hsome, uniformSequence_ne_noInputs hsome, ?_⟩
    -- Two submissions of one transaction are both its legacy form.
    intro raw' tx' hread' hsame
    obtain ⟨-, -, -, hraw', -⟩ := read_eq_ok_iff_legacyBytes.1 hread'
    calc raw' = tx'.transaction.legacyBytes := hraw'
      _ = tx.transaction.legacyBytes := by rw [hsame]
      _ = raw := hraw.symm
  · intro marked
    exact ⟨readEither_eq_read marked raw, fun either hunmarked => witness_eq_nil hunmarked⟩

theorem read_canonical_of_payment :
    let payment := Sample.payment [0xFFFFFFFF] 0 5000
    ∃ tx, read payment.legacyBytes = .ok tx ∧ tx.transaction.legacyBytes = payment.legacyBytes ∧
      tx.txid = tx.transaction.id ∧ tx.transaction.inputs ≠ [] := by
  intro payment
  have hlong : merkleNodeLength < payment.legacyBytes.length := by decide
  have hfits : payment.Fits :=
    { inputs_lt := by decide
      outputs_lt := by decide
      input := by decide
      output := by decide }
  obtain ⟨haccepted, hread, -⟩ := read_canonical payment.legacyBytes
  obtain ⟨tx, htx⟩ := haccepted.2 ⟨hlong, payment, hfits, by decide, rfl⟩
  obtain ⟨hraw, hid, hsome, -, -⟩ := hread tx htx
  exact ⟨tx, htx, hraw, hid, hsome⟩

end SubmittedTransaction

end AtomicEscrow
