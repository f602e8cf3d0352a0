import AtomicEscrow.Evidence.Relay

set_option autoImplicit false

/-! # Depths

The relay counts the blocks from a height to its tip in words of 32 bits, and gives the count in 16,
as the largest of those where it is larger. The count fits in 32 bits for every tip and every height
but one pair: from the lowest height to the highest there are 2^32 blocks, and there the relay stops
(`Relay.depth?_eq_none_iff`). So it answers every proof of inclusion as if it had counted in natural
numbers (`Relay.exactAnswer`), but for the proof of a transaction in the lowest block of the highest
chain, which it does not answer at all (`Relay.verifyTransaction_exact_iff`).
-/

namespace AtomicEscrow.Relay

/-! ## Counting blocks -/

/-- The number of blocks from a height to a tip, both ends counted. -/
def blocks (tip height : UInt32) : Nat := tip.toNat - height.toNat + 1

variable {tip height : UInt32}

/-- Only from the lowest height to the highest there are more blocks than a word can count. -/
theorem blocks_lt_size_iff : blocks tip height < UInt32.size ↔ ¬(tip = 0xFFFFFFFF ∧ height = 0) := by
  have htip : tip.toNat < 4294967296 := tip.toNat_lt
  rw [← UInt32.toNat_inj, ← UInt32.toNat_inj]
  show tip.toNat - height.toNat + 1 < 4294967296 ↔ ¬(tip.toNat = 4294967295 ∧ height.toNat = 0)
  omega

theorem sub_eq_max_iff (h : height ≤ tip) :
    tip - height = 0xFFFFFFFF ↔ tip = 0xFFFFFFFF ∧ height = 0 := by
  have htip : tip.toNat < 4294967296 := tip.toNat_lt
  rw [← UInt32.toNat_inj, ← UInt32.toNat_inj, ← UInt32.toNat_inj, UInt32.toNat_sub_of_le _ _ h]
  show tip.toNat - height.toNat = 4294967295 ↔ tip.toNat = 4294967295 ∧ height.toNat = 0
  omega

/-- A count in words is the count itself as far as it fits. -/
theorem toNat_sub_add_one (h : height ≤ tip) (hfits : blocks tip height < UInt32.size) :
    (tip - height + 1).toNat = blocks tip height := by
  rw [UInt32.toNat_add, UInt32.toNat_sub_of_le _ _ h]
  exact Nat.mod_eq_of_lt hfits

/-- The narrowing to 16 bits gives the largest of these instead of a larger number. -/
theorem toNat_cutDepth (count : UInt32) : (cutDepth count).toNat = min count.toNat maxDepth := by
  unfold cutDepth
  by_cases hfits : count.toNat ≤ maxDepth
  · have hlt : count.toNat < 2 ^ 16 := Nat.lt_succ_of_le hfits
    rw [if_pos hfits, UInt32.toNat_toUInt16, Nat.mod_eq_of_lt hlt, Nat.min_eq_left hfits]
  · rw [if_neg hfits, Nat.min_eq_right (Nat.le_of_not_le hfits)]
    rfl

theorem depth?_eq_none_iff (h : height ≤ tip) :
    depth? tip height = none ↔ tip = 0xFFFFFFFF ∧ height = 0 := by
  unfold depth? countBlocks?
  rw [Option.map_eq_none_iff, ← sub_eq_max_iff h]
  simp [UInt32.not_lt.2 h]

theorem exists_depth?_eq_some (h : height ≤ tip) (hends : ¬(tip = 0xFFFFFFFF ∧ height = 0)) :
    ∃ depth, depth? tip height = some depth :=
  Option.ne_none_iff_exists'.1 (mt (depth?_eq_none_iff h).1 hends)

/-- **A depth is the number of blocks**, cut down to 16 bits. -/
theorem toNat_of_depth?_eq_some {depth : UInt16} (h : height ≤ tip)
    (hdepth : depth? tip height = some depth) : depth.toNat = min (blocks tip height) maxDepth := by
  have hfits : blocks tip height < UInt32.size := by
    refine blocks_lt_size_iff.2 fun hends => ?_
    rw [(depth?_eq_none_iff h).2 hends] at hdepth
    cases hdepth
  obtain ⟨count, hcount, rfl⟩ := Option.map_eq_some_iff.1 hdepth
  unfold countBlocks? at hcount
  split at hcount
  case isTrue => cases hcount
  case isFalse =>
    cases hcount
    rw [toNat_cutDepth, toNat_sub_add_one h hfits]

/-! ## Answering proofs -/

/-- What a relay should answer to a proof of inclusion: a header above the tip is unknown, a
transaction is in the chain at the height that was noted and at no other, and the number of blocks,
cut down to 16 bits, has to be as large as wanted. -/
def exactAnswer (relay : Relay) (proof : InclusionProof) : Except RelayError UInt16 :=
  let depth := min (blocks relay.tip proof.header.height) maxDepth
  if relay.tip.toNat < proof.header.height.toNat then .error (.unknownHeader proof.header.height)
  else if relay.inclusions.get? proof.reversedTxId ≠ some proof.header.height then
    .error .invalidMerkleProof
  else if depth < proof.minConfirmations.toNat then
    .error (.insufficientConfirmations proof.minConfirmations (.ofNat depth))
  else .ok (.ofNat depth)

/-- The proof is of a transaction in the lowest block of the highest chain. -/
def Overflows (relay : Relay) (proof : InclusionProof) : Prop :=
  relay.tip = 0xFFFFFFFF ∧ proof.header.height = 0 ∧
    relay.inclusions.get? proof.reversedTxId = some 0

instance (relay : Relay) (proof : InclusionProof) : Decidable (relay.Overflows proof) :=
  inferInstanceAs (Decidable (_ ∧ _ ∧ _))

variable {relay : Relay} {proof : InclusionProof}

/-- The relay's answer to a depth that was counted, or was not. -/
def answerOfDepth (wanted : UInt16) : Option UInt16 → Except RelayFailure UInt16
  | none => .error .overflow
  | some depth =>
      if depth < wanted then .error (.refused (.insufficientConfirmations wanted depth))
      else .ok depth

theorem verifyTransaction_eq (relay : Relay) (proof : InclusionProof) :
    relay.verifyTransaction proof =
      if relay.tip < proof.header.height then
        .error (.refused (.unknownHeader proof.header.height))
      else if relay.inclusions.get? proof.reversedTxId ≠ some proof.header.height then
        .error (.refused .invalidMerkleProof)
      else answerOfDepth proof.minConfirmations (depth? relay.tip proof.header.height) := by
  unfold verifyTransaction
  cases relay.inclusions.get? proof.reversedTxId with
  | none => simp
  | some height =>
      by_cases hheight : height = proof.header.height
      · subst hheight
        simp only [ne_eq, not_true_eq_false, if_false]
        cases depth? relay.tip proof.header.height <;> rfl
      · simp [hheight]

/-- Unless the count overflows the relay answers as it should. -/
theorem verifyTransaction_of_not_overflows (h : ¬relay.Overflows proof) :
    relay.verifyTransaction proof = (relay.exactAnswer proof).mapError .refused := by
  rw [verifyTransaction_eq]
  unfold exactAnswer
  by_cases hknown : relay.tip < proof.header.height
  · rw [if_pos hknown, if_pos (UInt32.lt_iff_toNat_lt.1 hknown)]
    rfl
  · rw [if_neg hknown, if_neg fun hlt => hknown (UInt32.lt_iff_toNat_lt.2 hlt)]
    by_cases hfound : relay.inclusions.get? proof.reversedTxId = some proof.header.height
    · have hle := UInt32.not_lt.1 hknown
      -- The count fails only where the tip is the last word, the height is zero and the
      -- transaction is there.
      obtain ⟨depth, hdepth⟩ := exists_depth?_eq_some hle fun ⟨htip, hheight⟩ =>
        h ⟨htip, hheight, hheight ▸ hfound⟩
      rw [if_neg (not_not_intro hfound), if_neg (not_not_intro hfound), hdepth,
        ← toNat_of_depth?_eq_some hle hdepth, UInt16.ofNat_toNat]
      -- What is left is one test of the depth, in words here and in numbers there.
      by_cases hdeep : depth < proof.minConfirmations
      · rw [if_pos (UInt16.lt_iff_toNat_lt.1 hdeep)]
        exact if_pos hdeep
      · rw [if_neg (mt UInt16.lt_iff_toNat_lt.2 hdeep)]
        exact if_neg hdeep
    · rw [if_pos hfound, if_pos hfound]
      rfl

/-- Where the count overflows the relay stops, whatever depth is wanted. -/
theorem verifyTransaction_of_overflows (h : relay.Overflows proof) :
    relay.verifyTransaction proof = .error .overflow := by
  obtain ⟨htip, hheight, hfound⟩ := h
  rw [verifyTransaction_eq, htip, hheight, hfound]
  rfl

/-- Where the count overflows the transaction is as deep as a proof can want. -/
theorem exactAnswer_of_overflows (h : relay.Overflows proof) :
    relay.exactAnswer proof = .ok 65535 := by
  obtain ⟨htip, hheight, hfound⟩ := h
  have hdeep : ¬65535 < proof.minConfirmations.toNat :=
    Nat.not_lt.2 (Nat.le_of_lt_succ proof.minConfirmations.toNat_lt)
  unfold exactAnswer
  rw [htip, hheight, hfound]
  exact if_neg hdeep

/-- **The relay's arithmetic is exact unless the count overflows.** Its answer is the one that
natural numbers give for every tip, all inclusions, every transaction and every wanted depth, but
for the proof of a transaction in the lowest block of the highest chain: that one is as deep as can
be, and the relay stops without an answer. -/
theorem verifyTransaction_exact_iff (relay : Relay) (proof : InclusionProof) :
    (relay.verifyTransaction proof = (relay.exactAnswer proof).mapError .refused ↔
        ¬relay.Overflows proof) ∧
      (relay.Overflows proof → relay.exactAnswer proof = .ok 65535 ∧
        relay.verifyTransaction proof = .error .overflow) := by
  refine ⟨⟨fun hexact hoverflows => ?_, verifyTransaction_of_not_overflows⟩, fun hoverflows =>
    ⟨exactAnswer_of_overflows hoverflows, verifyTransaction_of_overflows hoverflows⟩⟩
  rw [verifyTransaction_of_overflows hoverflows, exactAnswer_of_overflows hoverflows] at hexact
  cases hexact

/-- A transaction five blocks below the tip is six blocks deep, its own counted. From the lowest
block of the highest chain on the count overflows, even if no depth is asked for. -/
theorem verifyTransaction_exact_of_sample :
    let txid : Hash := .replicate 3
    let deep := (new ⟨.replicate 1⟩ 105).addInclusion txid 100
    let lowest := (new ⟨.replicate 1⟩ 0xFFFFFFFF).addInclusion txid 0
    deep.verifyTransaction ⟨txid, 6, 0, [], header 100⟩ = .ok 6 ∧
      deep.verifyTransaction ⟨txid, 7, 0, [], header 100⟩ =
        .error (.refused (.insufficientConfirmations 7 6)) ∧
      lowest.Overflows ⟨txid, 0, 0, [], header 0⟩ ∧
      lowest.verifyTransaction ⟨txid, 0, 0, [], header 0⟩ = .error .overflow := by
  intro txid deep lowest
  have hoverflows : lowest.Overflows ⟨txid, 0, 0, [], header 0⟩ := ⟨rfl, rfl, rfl⟩
  have hfits {wanted : UInt16} : ¬deep.Overflows ⟨txid, wanted, 0, [], header 100⟩ := by
    rintro ⟨htip, -⟩
    cases htip
  refine ⟨?_, ?_, hoverflows, ?_⟩
  · exact ((verifyTransaction_exact_iff deep _).1.2 hfits).trans rfl
  · exact ((verifyTransaction_exact_iff deep _).1.2 hfits).trans rfl
  · exact ((verifyTransaction_exact_iff lowest _).2 hoverflows).2

/-- In the lowest block of the highest chain a transaction should be as deep as can be, and gets no
answer although a single block is wanted. -/
theorem verifyTransaction_ne_exactAnswer_of_lowestBlock :
    let txid : Hash := .replicate 3
    let relay := (new ⟨.replicate 1⟩ 0xFFFFFFFF).addInclusion txid 0
    let proof : InclusionProof := ⟨txid, 1, 0, [], header 0⟩
    relay.exactAnswer proof = .ok 65535 ∧ relay.verifyTransaction proof = .error .overflow := by
  intro txid relay proof
  have hoverflows : relay.Overflows proof := ⟨rfl, rfl, rfl⟩
  exact ⟨exactAnswer_of_overflows hoverflows, verifyTransaction_of_overflows hoverflows⟩

end AtomicEscrow.Relay
