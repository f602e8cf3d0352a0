import AtomicEscrow.Proofs.Admission
import AtomicEscrow.Transaction.Reader

set_option autoImplicit false

/-! # What a reader has read

A reader is followed like a sequence of checks, with the rest of the bytes handed on from one to
the next (`Reader.run_bind_eq_ok_iff`). So far this file says of a submitted transaction what a
claim relies on: its id is the double digest of the very bytes that were submitted, and it has an
input, since a reader takes the count of no inputs for the mark of another form.
-/

namespace AtomicEscrow

namespace Reader

variable {α β : Type} {bs rest : Bytes}

theorem run_bind_eq_ok_iff {reader : Reader α} {next : α → Reader β} {b : β} :
    (reader >>= next).run bs = .ok (b, rest) ↔
      ∃ a between, reader.run bs = .ok (a, between) ∧ (next a).run between = .ok (b, rest) := by
  have hrun : (reader >>= next).run bs =
      (reader.run bs >>= fun read => (next read.1).run read.2) := rfl
  rw [hrun, bind_eq_ok_iff]
  constructor
  · rintro ⟨⟨a, between⟩, hfirst, hnext⟩
    exact ⟨a, between, hfirst, hnext⟩
  · rintro ⟨a, between, hfirst, hnext⟩
    exact ⟨(a, between), hfirst, hnext⟩

theorem run_pure_eq_ok_iff {a b : α} :
    (pure a : Reader α).run bs = .ok (b, rest) ↔ b = a ∧ rest = bs := by
  show Except.ok (a, bs) = Except.ok (b, rest) ↔ _
  simp [eq_comm]

theorem run_throw_ne_ok {m : Malformation} {a : α} :
    (throw m : Reader α).run bs ≠ .ok (a, rest) := by
  intro h
  cases h

theorem length_many {item : Reader α} {n : Nat} {items : List α}
    (h : (many item n).run bs = .ok (items, rest)) : items.length = n := by
  induction n generalizing bs rest items with
  | zero =>
      obtain ⟨rfl, -⟩ := run_pure_eq_ok_iff.1 h
      rfl
  | succ n ih =>
      obtain ⟨first, _, -, hmore⟩ := run_bind_eq_ok_iff.1 h
      obtain ⟨others, _, hothers, hdone⟩ := run_bind_eq_ok_iff.1 hmore
      obtain ⟨rfl, -⟩ := run_pure_eq_ok_iff.1 hdone
      rw [List.length_cons, ih hothers]

theorem inputs_ne_nil {ins : List TxInput} (h : inputs.run bs = .ok (ins, rest)) : ins ≠ [] := by
  obtain ⟨n, between, -, hins⟩ := run_bind_eq_ok_iff.1 h
  by_cases hzero : n = 0
  · rw [if_pos hzero] at hins
    obtain ⟨_, _, -, hflag⟩ := run_bind_eq_ok_iff.1 hins
    obtain ⟨_, _, hthrown, -⟩ := run_bind_eq_ok_iff.1 hflag
    exact absurd hthrown run_throw_ne_ok
  · rw [if_neg hzero] at hins
    rintro rfl
    exact hzero (length_many hins).symm

theorem transaction_inputs_ne_nil {tx : Transaction} (h : transaction.run bs = .ok (tx, rest)) :
    tx.inputs ≠ [] := by
  obtain ⟨_, _, -, h⟩ := run_bind_eq_ok_iff.1 h
  obtain ⟨ins, _, hins, h⟩ := run_bind_eq_ok_iff.1 h
  obtain ⟨_, _, -, h⟩ := run_bind_eq_ok_iff.1 h
  obtain ⟨_, _, -, h⟩ := run_bind_eq_ok_iff.1 h
  obtain ⟨_, _, -, h⟩ := run_bind_eq_ok_iff.1 h
  obtain ⟨rfl, -⟩ := run_pure_eq_ok_iff.1 h
  exact inputs_ne_nil hins

theorem whole_eq_ok_iff {reader : Reader α} {a : α} :
    reader.whole bs = .ok a ↔ reader.run bs = .ok (a, []) := by
  unfold whole
  rcases reader.run bs with e | ⟨a', _ | ⟨b, more⟩⟩ <;> simp

end Reader

namespace SubmittedTransaction

variable {raw : Bytes} {tx : SubmittedTransaction}

theorem read_eq_ok_iff :
    read raw = .ok tx ↔
      merkleNodeLength < raw.length ∧ ¬(raw.getD 4 0 = 0 ∧ raw.getD 5 0 = 1) ∧
        Reader.transaction.run raw = .ok (tx.transaction, []) ∧ tx.txid = Sha256.double raw := by
  rw [← Reader.whole_eq_ok_iff]
  unfold read
  -- The three refusals come first, in this order; what passes them is read field by field.
  by_cases hnode : raw.length = merkleNodeLength
  · simp [hnode]
  · by_cases hshort : raw.length < merkleNodeLength
    · simp [hnode, hshort, Nat.lt_asymm hshort]
    · have hlong : merkleNodeLength < raw.length := by omega
      by_cases hwitness : raw.getD 4 0 = 0 ∧ raw.getD 5 0 = 1
      · rw [if_neg hnode, if_neg hshort, if_pos hwitness]
        constructor
        · intro h
          cases h
        · exact fun h => absurd hwitness h.2.1
      · rw [if_neg hnode, if_neg hshort, if_neg hwitness]
        obtain ⟨transaction, txid⟩ := tx
        cases Reader.transaction.whole raw with
        | error e => simp
        | ok read =>
            simp only [Except.ok.injEq, mk.injEq, hlong, hwitness, true_and, not_false_eq_true]
            rw [eq_comm (b := txid)]

/-- The id of a transaction is the double digest of the bytes it was read from. -/
theorem txid_eq (h : read raw = .ok tx) : tx.txid = Sha256.double raw := (read_eq_ok_iff.1 h).2.2.2

theorem inputs_ne_nil (h : read raw = .ok tx) : tx.transaction.inputs ≠ [] :=
  Reader.transaction_inputs_ne_nil (read_eq_ok_iff.1 h).2.2.1

end SubmittedTransaction

end AtomicEscrow
