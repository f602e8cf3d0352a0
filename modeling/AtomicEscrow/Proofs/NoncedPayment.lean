import AtomicEscrow.Proofs.Canonical
import AtomicEscrow.Proofs.Verification

set_option autoImplicit false

/-! # Payments that carry a nonce

The other proofs about nonced claims start from bytes that somebody submitted. This file starts
from the transaction that an honest party builds: it is written, and what was written is verified.
What becomes of it is known in advance. The reader gives the transaction back
(`SubmittedTransaction.read_wireBytes`), the output pays what the terms commit to, and so only the
time locks decide, and with them which of two causes a refusal has
(`Terms.openOutput_of_paidBy`). A party that puts the nonce of the terms into the lock time and
into every sequence is paid, and nobody else is (`Terms.verifyClaim_payment`).
-/

namespace AtomicEscrow

/-! ## Reading what was written -/

/-- Without inputs the count that is written is taken for the marker, and a flag follows it. -/
theorem Transaction.marked_wireBytes {tx : Transaction} (h : tx.inputs = []) :
    Marked tx.wireBytes := by
  unfold wireBytes Marked
  rw [h, if_pos List.isEmpty_nil]
  simp only [littleEndian, List.append_assoc, List.cons_append, List.nil_append]
  exact ⟨rfl, rfl⟩

theorem Transaction.wireBytes_eq_legacyBytes {tx : Transaction} (h : tx.inputs ≠ []) :
    tx.wireBytes = tx.legacyBytes := by
  unfold wireBytes
  rw [if_neg (fun hempty => h (List.isEmpty_iff.1 hempty))]

/-- **What was written is read back**, if there is an input. -/
theorem SubmittedTransaction.read_wireBytes {tx : Transaction} (hfits : tx.Fits)
    (hlong : merkleNodeLength < tx.wireBytes.length) :
    read tx.wireBytes =
      if tx.inputs = [] then .error .witnessNotStripped else .ok ⟨tx, tx.id⟩ := by
  by_cases hsome : tx.inputs = []
  · obtain ⟨hmarker, hflag⟩ := Transaction.marked_wireBytes hsome
    unfold read
    rw [if_neg (Nat.ne_of_gt hlong), if_neg (Nat.lt_asymm hlong), if_pos ⟨hmarker, hflag⟩,
      if_pos hsome]
  · have hlegacy := Transaction.wireBytes_eq_legacyBytes hsome
    rw [hlegacy] at hlong ⊢
    rw [if_neg hsome]
    exact read_eq_ok_iff_legacyBytes.2 ⟨hlong, hfits, hsome, rfl, rfl⟩

/-! ## What the time locks decide -/

namespace SubmittedTransaction

variable {tx : SubmittedTransaction}

/-- There is no sequence to go on with iff the first one has a meaning to consensus or another one
differs from it. -/
theorem uniformSequence_ne_ok_iff {first : TxInput} {rest : List TxInput}
    (hinputs : tx.transaction.inputs = first :: rest) :
    (∀ sequence, tx.uniformSequence ≠ .ok sequence) ↔
      first.sequence &&& inertBits ≠ inertBits ∨
        ∃ input ∈ rest, input.sequence ≠ first.sequence := by
  simp only [ne_eq, uniformSequence_eq_ok_iff, hinputs, List.cons_ne_nil, not_false_eq_true,
    true_and, List.forall_mem_cons, not_and]
  constructor
  · intro hnone
    by_contra hgood
    push Not at hgood
    exact hnone first.sequence ⟨rfl, hgood.2⟩ hgood.1
  · rintro hbad sequence ⟨rfl, hsame⟩ hinert
    rcases hbad with hmeaning | ⟨input, hmem, hdiffers⟩
    · exact hmeaning hinert
    · exact hdiffers (hsame input hmem)

end SubmittedTransaction

namespace Terms

variable {terms : Terms} {secret : Bytes} {tx : SubmittedTransaction}

/-- Once a transaction pays the output, its time locks decide: without a sequence to go on with it
is no proper transaction, and with one it carries the nonce or does not. -/
theorem openOutput_of_paidBy (hkind : terms.kind = .chainNonced) (hpaid : terms.PaidBy secret tx) :
    terms.openOutput secret =
      match tx.uniformSequence with
      | .error _ => .error .invalidTx
      | .ok sequence =>
          if NoncedLock.toNonce tx.transaction.locktime sequence = some terms.nonce then .ok tx.txid
          else .error .invalidNonce := by
  obtain ⟨hlong, hread, output, hfound, hhash⟩ := hpaid
  have htx : submittedTransaction (secret.drop 4) = .ok tx :=
    submittedTransaction_eq_ok_iff.2 hread
  have hcommitted : Commitment.output terms.nonce output.value output.script = terms.hash := hhash
  unfold openOutput noncedSequence
  simp only [htx, hkind, SubmittedTransaction.output?_ofNat, hfound, hcommitted, ne_eq,
    not_true_eq_false, if_false, Nat.not_lt.2 hlong, bind, Except.bind]
  -- What is left to check is one usable sequence, and then the nonce.
  cases tx.uniformSequence with
  | error e => rfl
  | ok sequence =>
      by_cases hnonce : NoncedLock.toNonce tx.transaction.locktime sequence = some terms.nonce
      · simp only [hnonce, not_true_eq_false, if_false, if_true]
        rfl
      · simp only [hnonce, not_false_eq_true, if_true, if_false]
        rfl

/-- Bytes that are no transaction are refused as such, whatever is wrong with them. -/
theorem openOutput_of_read_error {e : DataError} (hlong : 4 ≤ secret.length)
    (hread : SubmittedTransaction.read (secret.drop 4) = .error e) :
    terms.openOutput secret = .error .invalidTx := by
  have htx : submittedTransaction (secret.drop 4) = .error .invalidTx := by
    unfold submittedTransaction
    rw [hread]
  unfold openOutput
  simp only [htx, Nat.not_lt.2 hlong, if_false, bind, Except.bind]

/-- **What becomes of a claim with a transaction that pays and is in the chain**: it is good iff the
transaction carries the nonce, and otherwise what is wrong is the transaction, if it has no
sequence to go on with, or the nonce. -/
theorem verifyClaim_of_paidBy {relayProgramId : Pubkey} {preamble : Preamble}
    (hkind : terms.kind = .chainNonced) (hpaid : terms.PaidBy secret tx)
    (hincluded : terms.Included relayProgramId tx.txid preamble) :
    let answer := terms.verifyClaim relayProgramId secret preamble
    (answer = .ok tx.txid ↔ tx.transaction.CarriesNonce terms.nonce) ∧
      ((∀ sequence, tx.uniformSequence ≠ .ok sequence) → answer = .error .invalidTx) ∧
      (¬tx.transaction.CarriesNonce terms.nonce →
        ¬(∀ sequence, tx.uniformSequence ≠ .ok sequence) → answer = .error .invalidNonce) := by
  intro answer
  have hcheck : terms.checkInclusion relayProgramId tx.txid preamble = .ok () :=
    checkInclusion_eq_ok_iff.2 hincluded
  have hanswer : answer = terms.openOutput secret >>= fun txid => do
      terms.checkInclusion relayProgramId txid preamble
      return txid := by
    simp only [answer, verifyClaim, hkind]
  -- The output is opened before the attestation is read, so its error comes first.
  rw [openOutput_of_paidBy hkind hpaid] at hanswer
  rw [SubmittedTransaction.carriesNonce_iff_exists
    (SubmittedTransaction.inputs_ne_nil hpaid.read), hanswer]
  cases tx.uniformSequence with
  | error e => simp [bind, Except.bind]
  | ok sequence =>
      by_cases hnonce : NoncedLock.toNonce tx.transaction.locktime sequence = some terms.nonce
      · simp [hnonce, hcheck, bind, Except.bind, pure, Except.pure]
      · simp [hnonce, bind, Except.bind]

end Terms

theorem Transaction.drop_claimPayload (tx : Transaction) (vout : UInt32) :
    (tx.claimPayload vout).drop 4 = tx.wireBytes :=
  List.drop_left' (length_littleEndian ..)

theorem Transaction.take_claimPayload (tx : Transaction) (vout : UInt32) :
    (tx.claimPayload vout).take 4 = littleEndian 4 vout.toNat :=
  List.take_left' (length_littleEndian ..)

/-! ## The payment of the samples -/

namespace Sample

variable (sequences : List UInt32) (locktime : UInt32) (value : UInt64)

theorem map_sequence_payment :
    (payment sequences locktime value).inputs.map TxInput.sequence = sequences := by
  refine List.ext_getElem (by simp [payment]) fun i hi _ => ?_
  simp only [payment, List.getElem_map, List.getElem_mapIdx, input]

theorem forall_inputs_payment {p : UInt32 → Prop} :
    (∀ input ∈ (payment sequences locktime value).inputs, p input.sequence) ↔
      ∀ sequence ∈ sequences, p sequence := by
  rw [← List.forall_mem_map, map_sequence_payment]

theorem fits_payment (h : sequences.length < UInt64.size) :
    (payment sequences locktime value).Fits where
  inputs_lt := by
    show (sequences.mapIdx _).length < UInt64.size
    rw [List.length_mapIdx]
    exact h
  outputs_lt := show 2 < UInt64.size by decide
  input i hi := by
    obtain ⟨_, _, rfl⟩ := List.mem_mapIdx.1 hi
    exact (show 0 < UInt64.size by decide)
  output o ho := by
    rcases List.mem_cons.1 ho with rfl | hchange
    · exact (show (payScript 0xAA).length < UInt64.size by decide)
    · obtain rfl := List.mem_singleton.1 hchange
      exact (show (payScript 0xBB).length < UInt64.size by decide)

/-- The two outputs alone are as long as an inner node of a merkle tree. -/
theorem merkleNodeLength_lt_payment :
    SubmittedTransaction.merkleNodeLength <
      (payment sequences locktime value).wireBytes.length := by
  have houtputs : ((payment sequences locktime value).outputs.flatMap TxOutput.bytes).length =
      62 := by
    simp [payment, TxOutput.bytes, sizedBytes, payScript, countBytes]
  unfold Transaction.wireBytes Transaction.legacyBytes SubmittedTransaction.merkleNodeLength
  split
  · simp only [List.length_append, length_littleEndian, houtputs]
    omega
  · simp only [List.length_append, length_littleEndian, houtputs]
    omega

end Sample

/-- **A payment that was built for a nonce is paid for, and no other is.** Let the terms commit to
the first output of a payment, and the relay know it deep enough. The claim is good iff the lock
time and the sequence of every input are those of the nonce. If the first sequence has a meaning to
consensus, or another one differs from it, the transaction is no good; otherwise it is the nonce
that is wrong. A payment without inputs is no good either. (The count of the inputs is written as
a word, as is that of everything that a machine can hold.) -/
theorem Terms.verifyClaim_payment (terms : Terms) (relayProgramId : Pubkey) (preamble : Preamble)
    (sequences : List UInt32) (locktime : UInt32) (value : UInt64) (depth : UInt16)
    (hcount : sequences.length < UInt64.size) (hkind : terms.kind = .chainNonced)
    (hhash : terms.hash = Commitment.output terms.nonce value (Sample.payScript 0xAA))
    (hword : preamble.first? = some ⟨relayProgramId,
      .transactionVerified (Sample.payment sequences locktime value).id depth⟩)
    (hdepth : terms.confirmations ≤ depth) :
    let tx := Sample.payment sequences locktime value
    let lock := NoncedLock.ofNonce terms.nonce
    let answer := terms.verifyClaim relayProgramId (tx.claimPayload 0) preamble
    let carries := locktime.toUInt64 = lock.locktime ∧
      ∀ sequence ∈ sequences, sequence = lock.sequence
    (sequences = [] → answer = .error .invalidTx) ∧
      ∀ first rest, sequences = first :: rest →
        let unusable := first &&& 0xF0000000 ≠ 0xF0000000 ∨ ∃ sequence ∈ rest, sequence ≠ first
        (answer = .ok tx.id ↔ carries) ∧
          (unusable → answer = .error .invalidTx) ∧
          (¬carries → ¬unusable → answer = .error .invalidNonce) := by
  intro tx lock answer carries
  have hread := SubmittedTransaction.read_wireBytes
    (Sample.fits_payment sequences locktime value hcount)
    (Sample.merkleNodeLength_lt_payment sequences locktime value)
  rw [← Transaction.drop_claimPayload _ 0] at hread
  have hlong : 4 ≤ (tx.claimPayload 0).length := by
    show 4 ≤ (littleEndian 4 0 ++ tx.wireBytes).length
    rw [List.length_append, length_littleEndian]
    omega
  have hsequences := Sample.map_sequence_payment sequences locktime value
  constructor
  · -- Without inputs the bytes do not read back: their zero count is taken for a marker.
    rintro rfl
    have hinputs : tx.inputs = [] := List.map_eq_nil_iff.1 hsequences
    rw [if_pos hinputs] at hread
    show terms.verifyClaim _ _ _ = _
    unfold verifyClaim
    rw [hkind, openOutput_of_read_error hlong hread]
    rfl
  · rintro first rest rfl unusable
    obtain ⟨input, inputs, hinputs, rfl, rfl⟩ := List.map_eq_cons_iff.1 hsequences
    have hsome : tx.inputs ≠ [] := by
      rw [hinputs]
      exact List.cons_ne_nil _ _
    rw [if_neg hsome] at hread
    -- Both outputs are the sample's own, so the first one is the one the terms commit to.
    have hpaid : terms.PaidBy (tx.claimPayload 0) ⟨tx, tx.id⟩ := by
      refine ⟨hlong, hread, ⟨value, Sample.payScript 0xAA⟩, ?_, hhash.symm⟩
      rw [Transaction.take_claimPayload]
      rfl
    have hunusable : unusable ↔ ∀ sequence,
        (⟨tx, tx.id⟩ : SubmittedTransaction).uniformSequence ≠ .ok sequence := by
      rw [SubmittedTransaction.uniformSequence_ne_ok_iff hinputs]
      simp only [unusable, List.mem_map, exists_exists_and_eq_and]
      rfl
    have hcarries : carries ↔ tx.CarriesNonce terms.nonce := by
      rw [Transaction.carriesNonce_iff]
      exact and_congr eq_comm (Sample.forall_inputs_payment ..).symm
    rw [hcarries, hunusable]
    exact verifyClaim_of_paidBy hkind hpaid ⟨depth, hword, hdepth⟩

/-- With the nonce in both inputs a payment is good. Another sequence in one of them makes it no
proper transaction, and another lock time makes it one of another nonce. -/
theorem Terms.verifyClaim_payment_of_smallNonce :
    let terms := Sample.terms .chainNonced (Commitment.output 5 5000 (Sample.payScript 0xAA)) 5
    let relay : Pubkey := ⟨.replicate 9⟩
    let answer (tx : Transaction) := terms.verifyClaim relay (tx.claimPayload 0)
      (Preamble.empty.push relay (.transactionVerified tx.id 1))
    let carried := Sample.payment [0xF0000005, 0xF0000005] 500000000 5000
    let mixed := Sample.payment [0xF0000005, 0xF0000006] 500000000 5000
    let late := Sample.payment [0xF0000005] 500000001 5000
    answer carried = .ok carried.id ∧ answer mixed = .error .invalidTx ∧
      answer late = .error .invalidNonce := by
  intro terms relay answer carried mixed late
  have outcome (sequences : List UInt32) (locktime : UInt32)
      (hcount : sequences.length < UInt64.size) :=
    verifyClaim_payment terms relay
      (Preamble.empty.push relay
        (.transactionVerified (Sample.payment sequences locktime 5000).id 1))
      sequences locktime 5000 1 hcount rfl rfl rfl (by decide)
  refine ⟨?_, ?_, ?_⟩
  · exact ((outcome [0xF0000005, 0xF0000005] 500000000 (by decide)).2 _ _ rfl).1.2
      ⟨by decide, List.forall_mem_cons.2 ⟨by decide, List.forall_mem_singleton.2 (by decide)⟩⟩
  · exact ((outcome [0xF0000005, 0xF0000006] 500000000 (by decide)).2 _ _ rfl).2.1
      (.inr ⟨0xF0000006, List.mem_singleton.2 rfl, by decide⟩)
  · exact ((outcome [0xF0000005] 500000001 (by decide)).2 _ _ rfl).2.2
      (fun carries => absurd carries.1 (by decide)) (not_or.2 ⟨by decide, by simp⟩)

end AtomicEscrow
