import AtomicEscrow.Bytes.Positional
import AtomicEscrow.Proofs.Reading
import AtomicEscrow.Proofs.Timelock
import AtomicEscrow.Settlement.ClaimProof

set_option autoImplicit false

/-! # What proves a claim

The checks of a claim go through a parser, a scan of all inputs and the inverse of a bit packing.
What they accept is said here without any of them: a preimage (`openPayment_eq_ok_iff`), a
transaction that pays the committed output and carries the nonce (`Terms.PaidBy`,
`Transaction.CarriesNonce`), and the word of the relay that it is in the chain
(`Terms.Included`). Nothing else releases the tokens, and nothing of this kind is refused
(`Terms.verifyClaim_exact`).
-/

namespace AtomicEscrow

/-! ## Sequences that carry a nonce -/

/-- The time locks of a transaction carry a nonce: its upper bits in the lock time, its lower bits
in the sequence of every input. -/
structure Transaction.CarriesNonce (tx : Transaction) (nonce : UInt64) : Prop where
  locktime : tx.locktime.toUInt64 = (nonce >>> 24) + 500000000
  sequence : ∀ input ∈ tx.inputs, input.sequence = 0xF0000000 ||| (nonce &&& 0xFFFFFF).toUInt32

theorem Transaction.carriesNonce_iff {tx : Transaction} {nonce : UInt64} :
    tx.CarriesNonce nonce ↔
      (NoncedLock.ofNonce nonce).locktime = tx.locktime.toUInt64 ∧
        ∀ input ∈ tx.inputs, input.sequence = (NoncedLock.ofNonce nonce).sequence := by
  have hsequence : (NoncedLock.ofNonce nonce).sequence =
      0xF0000000 ||| (nonce &&& 0xFFFFFF).toUInt32 := by
    rw [UInt64.toUInt32_and]
    rfl
  rw [hsequence]
  exact ⟨fun h => ⟨h.locktime.symm, h.sequence⟩, fun h => ⟨h.1.symm, h.2⟩⟩

/-- The sequence of a nonce has no meaning to consensus. -/
theorem NoncedLock.sequence_inert (nonce : UInt64) :
    (ofNonce nonce).sequence &&& SubmittedTransaction.inertBits =
      SubmittedTransaction.inertBits := by
  show (sequenceTag ||| _) &&& sequenceTag = sequenceTag
  refine UInt32.toBitVec_inj.1 (BitVec.eq_of_getLsbD_eq fun i _ => ?_)
  rw [UInt32.toBitVec_and, UInt32.toBitVec_or, BitVec.getLsbD_and, BitVec.getLsbD_or]
  cases sequenceTag.toBitVec.getLsbD i <;> simp

namespace SubmittedTransaction

variable {tx : SubmittedTransaction}

theorem uniformSequence_eq_ok_iff {sequence : UInt32} :
    tx.uniformSequence = .ok sequence ↔
      tx.transaction.inputs ≠ [] ∧ (∀ input ∈ tx.transaction.inputs, input.sequence = sequence) ∧
        sequence &&& inertBits = inertBits := by
  unfold uniformSequence
  cases tx.transaction.inputs with
  | nil => simp
  | cons first rest =>
      have hany : rest.any (·.sequence ≠ first.sequence) = false ↔
          ∀ input ∈ rest, input.sequence = first.sequence := by simp
      dsimp only
      -- The sequence to share is that of the first input.
      by_cases hfirst : first.sequence = sequence
      · subst hfirst
        by_cases hinert : first.sequence &&& inertBits = inertBits <;>
          cases hsame : rest.any (·.sequence ≠ first.sequence) <;>
          simp_all
      · have hdiffer : ¬∀ input ∈ first :: rest, input.sequence = sequence := fun hall =>
          hfirst (hall first (List.mem_cons_self ..))
        grind

/-- The scan of the inputs and the inverse of the packing find the nonce that is carried. -/
theorem carriesNonce_iff_exists (hsome : tx.transaction.inputs ≠ []) {nonce : UInt64} :
    tx.transaction.CarriesNonce nonce ↔
      ∃ sequence, tx.uniformSequence = .ok sequence ∧
        NoncedLock.toNonce tx.transaction.locktime sequence = some nonce := by
  simp only [Transaction.carriesNonce_iff, uniformSequence_eq_ok_iff,
    NoncedLock.toNonce_eq_some_iff]
  constructor
  · rintro ⟨hlocktime, hall⟩
    refine ⟨_, ⟨hsome, hall, NoncedLock.sequence_inert nonce⟩, ?_⟩
    rw [← hlocktime]
  · rintro ⟨sequence, ⟨-, hall, -⟩, hnonce⟩
    rw [hnonce]
    exact ⟨rfl, hall⟩

theorem output?_ofNat (tx : SubmittedTransaction) (secret : Bytes) :
    tx.output? (UInt32.ofNat (littleEndianValue (secret.take 4))) =
      tx.transaction.outputs[littleEndianValue (secret.take 4)]? := by
  have hlt : littleEndianValue (secret.take 4) < 0x100000000 :=
    Nat.lt_of_lt_of_le (littleEndianValue_lt _)
      (Nat.pow_le_pow_right (by decide : 0 < 256) (List.length_take_le 4 secret))
  unfold output?
  rw [UInt32.toNat_ofNat', Nat.mod_eq_of_lt hlt]

end SubmittedTransaction

namespace Terms

variable {terms : Terms} {relayProgramId : Pubkey} {secret : Bytes} {preamble : Preamble}

/-! ## The word of the relay -/

/-- The first instruction is the word of the relay that a transaction is in the chain, as deep as
the terms want. -/
def Included (terms : Terms) (relayProgramId : Pubkey) (txid : Hash) (preamble : Preamble) :
    Prop :=
  ∃ confirmations,
    preamble.first? = some ⟨relayProgramId, .transactionVerified txid confirmations⟩ ∧
      terms.confirmations ≤ confirmations

theorem checkInclusion_eq_ok_iff {txid : Hash} {u : Unit} :
    terms.checkInclusion relayProgramId txid preamble = .ok u ↔
      terms.Included relayProgramId txid preamble := by
  unfold checkInclusion Included
  cases preamble.first? with
  | none => simp
  | some instruction =>
      obtain ⟨programId, attestation⟩ := instruction
      by_cases hprogram : programId = relayProgramId
      · cases attestation with
        | transactionVerified attested confirmations =>
            -- For the right program and the right id, only the depth is left to compare.
            by_cases htxid : attested = txid
            · simp [hprogram, htxid]
            · simp [hprogram, htxid]
        | blockHeight => simp [hprogram]
        | ed25519 => simp [hprogram]
      · simp [hprogram]

/-! ## Preimages -/

theorem openPayment_eq_ok_iff {opened : Hash} :
    terms.openPayment secret = .ok opened ↔
      32 ≤ secret.length ∧ Sha256.digest (secret.take 32) = terms.hash ∧
        opened.toList = secret.take 32 := by
  unfold openPayment
  cases hread : Bytes32.ofList? (secret.take 32) with
  | none =>
      -- Fewer than 32 bytes are no preimage.
      have hshort : ¬32 ≤ secret.length := by
        intro hlong
        unfold Bytes32.ofList? at hread
        rw [dif_pos (List.length_take_of_le hlong)] at hread
        cases hread
      simp [hshort]
  | some preimage =>
      have htake := Bytes32.ofList?_eq_some_iff.1 hread
      have hlong : 32 ≤ secret.length := by
        have hlength := preimage.length_toList
        rw [htake, List.length_take] at hlength
        omega
      have hopened : opened.toList = secret.take 32 ↔ opened = preimage := by
        rw [← htake]
        exact ⟨Bytes32.ext, congrArg _⟩
      rw [hopened, ← htake]
      show (if Commitment.payment preimage ≠ terms.hash then _ else _) = _ ↔
        _ ∧ Commitment.payment preimage = terms.hash ∧ _
      by_cases hhash : Commitment.payment preimage = terms.hash
      · simp [hhash, hlong, eq_comm]
      · simp [hhash]

/-! ## Transactions -/

/-- A transaction that a secret submits, and that pays the output which the terms commit to: the
secret is the place of that output in four bytes and then the transaction. -/
structure PaidBy (terms : Terms) (secret : Bytes) (tx : SubmittedTransaction) : Prop where
  long : 4 ≤ secret.length
  read : SubmittedTransaction.read (secret.drop 4) = .ok tx
  output : ∃ output, tx.transaction.outputs[littleEndianValue (secret.take 4)]? = some output ∧
    Sha256.digest (littleEndian 8 terms.nonce.toNat ++ littleEndian 8 output.value.toNat ++
      output.script) = terms.hash

theorem submittedTransaction_eq_ok_iff {raw : Bytes} {tx : SubmittedTransaction} :
    submittedTransaction raw = .ok tx ↔ SubmittedTransaction.read raw = .ok tx := by
  unfold submittedTransaction
  cases SubmittedTransaction.read raw <;> simp

theorem noncedSequence_eq_ok_iff {tx : SubmittedTransaction} {sequence : Option UInt32} :
    terms.noncedSequence tx = .ok sequence ↔
      (terms.kind ≠ .chainNonced ∧ sequence = none) ∨
      (terms.kind = .chainNonced ∧ ∃ shared, tx.uniformSequence = .ok shared ∧
        sequence = some shared) := by
  unfold noncedSequence
  by_cases hkind : terms.kind = .chainNonced
  · cases tx.uniformSequence <;> simp [hkind, eq_comm]
  · simp [hkind, eq_comm]

theorem openOutput_eq_ok_iff {opened : Hash} :
    terms.openOutput secret = .ok opened ↔
      ∃ tx, terms.PaidBy secret tx ∧
        (terms.kind = .chainNonced → tx.transaction.CarriesNonce terms.nonce) ∧
        opened = Sha256.double (secret.drop 4) := by
  simp only [openOutput, orThrow_eq_ok_iff, bind_eq_ok_iff, submittedTransaction_eq_ok_iff,
    noncedSequence_eq_ok_iff, SubmittedTransaction.output?_ofNat]
  constructor
  · rintro ⟨hlong, tx, hread, sequence, hsequence, h⟩
    cases hfound : tx.transaction.outputs[littleEndianValue (secret.take 4)]? with
    | none =>
        rw [hfound] at h
        exact absurd h throw_ne_ok
    | some output =>
        simp only [hfound, orThrow_eq_ok_iff, Decidable.not_not] at h
        obtain ⟨hhash, h⟩ := h
        have hpaid : terms.PaidBy secret tx :=
          ⟨Nat.not_lt.1 hlong, hread, output, hfound, hhash⟩
        rw [← SubmittedTransaction.txid_eq hread]
        -- The nonce is asked for in one of the two kinds that get here.
        rcases hsequence with ⟨hkind, rfl⟩ | ⟨hkind, shared, hshared, rfl⟩
        · exact ⟨tx, hpaid, fun hnonced => absurd hnonced hkind, pure_eq_ok_iff.1 h⟩
        · simp only [orThrow_eq_ok_iff, Decidable.not_not] at h
          have hcarries := (SubmittedTransaction.carriesNonce_iff_exists
            (SubmittedTransaction.inputs_ne_nil hread)).2 ⟨shared, hshared, h.1⟩
          exact ⟨tx, hpaid, fun _ => hcarries, pure_eq_ok_iff.1 h.2⟩
  · rintro ⟨tx, ⟨hlong, hread, output, hfound, hhash⟩, hnonce, rfl⟩
    have hout : Commitment.output terms.nonce output.value output.script = terms.hash := hhash
    refine ⟨Nat.not_lt.2 hlong, tx, hread, ?_⟩
    rw [← SubmittedTransaction.txid_eq hread]
    by_cases hkind : terms.kind = .chainNonced
    · obtain ⟨shared, hshared, hcarried⟩ := (SubmittedTransaction.carriesNonce_iff_exists
        (SubmittedTransaction.inputs_ne_nil hread)).1 (hnonce hkind)
      refine ⟨some shared, .inr ⟨hkind, shared, hshared, rfl⟩, ?_⟩
      simp only [hfound, orThrow_eq_ok_iff, Decidable.not_not]
      exact ⟨hout, hcarried, rfl⟩
    · refine ⟨none, .inl ⟨hkind, rfl⟩, ?_⟩
      simp only [hfound, orThrow_eq_ok_iff, Decidable.not_not]
      exact ⟨hout, rfl⟩

/-! ## Claims -/

/-- **Nothing valid is refused and nothing else is accepted.** -/
theorem verifyClaim_exact (terms : Terms) (relayProgramId : Pubkey) (secret : Bytes)
    (preamble : Preamble) (opened : Hash) :
    terms.verifyClaim relayProgramId secret preamble = .ok opened ↔
      match terms.kind with
      | .htlc =>
          32 ≤ secret.length ∧ Sha256.digest (secret.take 32) = terms.hash ∧
            opened.toList = secret.take 32
      | .chain =>
          (∃ tx, terms.PaidBy secret tx) ∧ terms.Included relayProgramId opened preamble ∧
            opened = Sha256.double (secret.drop 4)
      | .chainNonced =>
          (∃ tx, terms.PaidBy secret tx ∧ tx.transaction.CarriesNonce terms.nonce) ∧
            terms.Included relayProgramId opened preamble ∧
            opened = Sha256.double (secret.drop 4)
      | .chainTxhash =>
          terms.Included relayProgramId opened preamble ∧ opened = terms.hash := by
  unfold verifyClaim
  -- One case for each kind; the two kinds with an output differ in the nonce only.
  cases hkind : terms.kind with
  | htlc => exact openPayment_eq_ok_iff
  | chain =>
      simp only [bind_eq_ok_iff, pure_eq_ok_iff, openOutput_eq_ok_iff, checkInclusion_eq_ok_iff,
        hkind, reduceCtorEq, false_imp_iff, true_and, exists_const]
      constructor
      · rintro ⟨txid, ⟨tx, hpaid, rfl⟩, hincluded, rfl⟩
        exact ⟨⟨tx, hpaid⟩, hincluded, rfl⟩
      · rintro ⟨⟨tx, hpaid⟩, hincluded, rfl⟩
        exact ⟨_, ⟨tx, hpaid, rfl⟩, hincluded, rfl⟩
  | chainNonced =>
      simp only [bind_eq_ok_iff, pure_eq_ok_iff, openOutput_eq_ok_iff, checkInclusion_eq_ok_iff,
        hkind, true_imp_iff, exists_const]
      constructor
      · rintro ⟨txid, ⟨tx, hpaid, hcarries, rfl⟩, hincluded, rfl⟩
        exact ⟨⟨tx, hpaid, hcarries⟩, hincluded, rfl⟩
      · rintro ⟨⟨tx, hpaid, hcarries⟩, hincluded, rfl⟩
        exact ⟨_, ⟨tx, hpaid, hcarries, rfl⟩, hincluded, rfl⟩
  | chainTxhash =>
      simp only [bind_eq_ok_iff, pure_eq_ok_iff, checkInclusion_eq_ok_iff, exists_const]
      constructor
      · rintro ⟨hincluded, rfl⟩
        exact ⟨hincluded, rfl⟩
      · rintro ⟨hincluded, rfl⟩
        exact ⟨hincluded, rfl⟩

end Terms

end AtomicEscrow
