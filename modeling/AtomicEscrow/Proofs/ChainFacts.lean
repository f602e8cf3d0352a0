import AtomicEscrow.Proofs.Authorization
import AtomicEscrow.Proofs.Depth

set_option autoImplicit false

/-! # Facts of the other chain

The engine never sees the other chain. It sees the first instruction of a preamble, the relay made
that instruction from what it saw, and what it saw was the chain at that moment. Between the two
moments the tip moves and blocks are reorganized, a depth is cut down to 16 bits and an expiry to
32. This file puts the three layers together for histories in which the chain does what it wants
(`World.run`): as long as nobody but the relay speaks in the name of the relay
(`World.Genuine`), every fact that a claim or a refund stands on was one when the relay said so
(`World.facts_real`).
-/

namespace AtomicEscrow

/-! ## What the relay says -/

namespace Relay

variable {relay : Relay}

theorem toNat_depth_le {tip height : UInt32} {depth : UInt16} (h : height ≤ tip)
    (hdepth : depth? tip height = some depth) : depth.toNat ≤ tip.toNat - height.toNat + 1 := by
  rw [toNat_of_depth?_eq_some h hdepth]
  exact Nat.min_le_left _ _

theorem answerOfDepth_eq_ok_iff {wanted confirmations : UInt16} {depth : Option UInt16} :
    answerOfDepth wanted depth = .ok confirmations ↔
      depth = some confirmations ∧ wanted ≤ confirmations := by
  cases depth with
  | none => simp [answerOfDepth]
  | some depth =>
      unfold answerOfDepth
      by_cases hdeep : depth < wanted
      · simp only [hdeep, if_true, reduceCtorEq, Option.some.injEq, false_iff]
        rintro ⟨rfl, hle⟩
        exact UInt16.not_lt.2 hle hdeep
      · simp only [hdeep, if_false, Except.ok.injEq, Option.some.injEq]
        refine ⟨?_, And.left⟩
        rintro rfl
        exact ⟨rfl, UInt16.not_lt.1 hdeep⟩

theorem verifyTransaction_eq_ok_iff {proof : InclusionProof} {confirmations : UInt16} :
    relay.verifyTransaction proof = .ok confirmations ↔
      relay.inclusions.get? proof.reversedTxId = some proof.header.height ∧
        proof.header.height ≤ relay.tip ∧
        depth? relay.tip proof.header.height = some confirmations ∧
        proof.minConfirmations ≤ confirmations := by
  rw [verifyTransaction_eq]
  -- The cases follow the tests of the relay: the header, the inclusion, the depth.
  by_cases hknown : proof.header.height ≤ relay.tip
  · rw [if_neg (UInt32.not_lt.2 hknown)]
    by_cases hfound : relay.inclusions.get? proof.reversedTxId = some proof.header.height
    · rw [if_neg (not_not_intro hfound), answerOfDepth_eq_ok_iff]
      simp [hfound, hknown]
    · rw [if_pos hfound]
      simp [hfound]
  · rw [if_pos (UInt32.not_le.1 hknown)]
    simp [hknown]

theorem verifyHeight_eq_ok_iff {height : UInt32} {operator : HeightOperator} {u : Unit} :
    relay.verifyHeight height operator = .ok u ↔ operator.holds relay.tip height = true := by
  unfold verifyHeight
  cases operator.holds relay.tip height <;> simp

/-- An instruction that the relay's word on a transaction or on a height leaves at the end of some
preamble. -/
def Attests (relay : Relay) (instruction : Instruction) : Prop :=
  ∃ p p' : Preamble,
    ((∃ proof, p.withTransactionProof relay proof = .ok p') ∨
      ∃ height operator, p.withHeightProof relay height operator = .ok p') ∧
    p'.instructions = p.instructions ++ [instruction]

/-- **What the relay can say**: of a transaction its depth, if it is in the chain, and of a height
how the tip compares with it. -/
theorem attests_iff {instruction : Instruction} :
    relay.Attests instruction ↔
      instruction.programId = relay.programId ∧
      match instruction.attestation with
      | .transactionVerified txid confirmations =>
          ∃ height, relay.inclusions.get? txid = some height ∧ height ≤ relay.tip ∧
            depth? relay.tip height = some confirmations
      | .blockHeight height operator => operator.holds relay.tip height = true
      | .ed25519 .. => False := by
  constructor
  · rintro ⟨p, p', hword, hlast⟩
    rcases hword with ⟨proof, hproof⟩ | ⟨height, operator, hheight⟩
    · obtain ⟨confirmations, hverified, hpushed⟩ := bind_eq_ok_iff.1 hproof
      cases hpushed
      -- The preamble got one instruction more, which is the one in question.
      cases List.append_cancel_left hlast
      obtain ⟨hfound, hle, hdepth, -⟩ := verifyTransaction_eq_ok_iff.1 hverified
      exact ⟨rfl, proof.header.height, hfound, hle, hdepth⟩
    · obtain ⟨_, hverified, hpushed⟩ := bind_eq_ok_iff.1 hheight
      cases hpushed
      cases List.append_cancel_left hlast
      exact ⟨rfl, verifyHeight_eq_ok_iff.1 hverified⟩
  · obtain ⟨programId, attestation⟩ := instruction
    rintro ⟨rfl, hword⟩
    cases attestation with
    | transactionVerified txid confirmations =>
        obtain ⟨height, hfound, hle, hdepth⟩ := hword
        -- The proof that asks for no depth gets the word on every transaction in the chain.
        let proof : InclusionProof := ⟨txid, 0, 0, [], header height⟩
        have hverified : relay.verifyTransaction proof = .ok confirmations :=
          verifyTransaction_eq_ok_iff.2 ⟨hfound, hle, hdepth, UInt16.zero_le⟩
        exact ⟨.empty, _, .inl ⟨proof, bind_eq_ok_iff.2 ⟨_, hverified, rfl⟩⟩, rfl⟩
    | blockHeight height operator =>
        have hverified : relay.verifyHeight height operator = .ok () :=
          verifyHeight_eq_ok_iff.2 hword
        exact ⟨.empty, _, .inr ⟨height, operator, bind_eq_ok_iff.2 ⟨_, hverified, rfl⟩⟩, rfl⟩
    | ed25519 => exact hword.elim

/-- A transaction is in the chain, and the blocks from its own to the tip are as many as wanted. -/
def Buries (relay : Relay) (txid : Hash) (confirmations : UInt16) : Prop :=
  ∃ height, relay.inclusions.get? txid = some height ∧ height ≤ relay.tip ∧
    confirmations.toNat ≤ relay.tip.toNat - height.toNat + 1

theorem buries_of_attests {programId : Pubkey} {txid : Hash} {attested wanted : UInt16}
    (h : relay.Attests ⟨programId, .transactionVerified txid attested⟩) (hle : wanted ≤ attested) :
    relay.Buries txid wanted := by
  obtain ⟨-, height, hfound, hknown, hdepth⟩ := attests_iff.1 h
  refine ⟨height, hfound, hknown, ?_⟩
  calc wanted.toNat
      ≤ attested.toNat := UInt16.le_iff_toNat_le.1 hle
    _ ≤ relay.tip.toNat - height.toNat + 1 := toNat_depth_le hknown hdepth

theorem le_tip_of_attests {programId : Pubkey} {height : UInt32}
    (h : relay.Attests ⟨programId, .blockHeight height .ge⟩) : height ≤ relay.tip := by
  obtain ⟨-, hholds⟩ := attests_iff.1 h
  exact of_decide_eq_true hholds

end Relay

/-! ## What the engine asks for -/

/-- A proof of a payment on the other chain rests on the word of the relay. -/
theorem Terms.included_of_verifyClaim {terms : Terms} {relayProgramId : Pubkey} {secret : Bytes}
    {preamble : Preamble} {opened : Hash} (hkind : terms.kind ≠ .htlc)
    (h : terms.verifyClaim relayProgramId secret preamble = .ok opened) :
    terms.Included relayProgramId opened preamble := by
  unfold verifyClaim at h
  cases hterms : terms.kind with
  | htlc => exact absurd hterms hkind
  -- These two kinds look at the transaction first, the third has its id in the terms.
  | chain | chainNonced =>
      rw [hterms] at h
      obtain ⟨txid, -, h⟩ := bind_eq_ok_iff.1 h
      obtain ⟨_, hincluded, h⟩ := bind_eq_ok_iff.1 h
      cases h
      exact checkInclusion_eq_ok_iff.1 hincluded
  | chainTxhash =>
      rw [hterms] at h
      obtain ⟨_, hincluded, h⟩ := bind_eq_ok_iff.1 h
      cases h
      exact checkInclusion_eq_ok_iff.1 hincluded

namespace Engine

variable {engine : Engine} {reply : Reply}

theorem effect_of_perform {request : Request} (h : (engine.perform request).1 = .ok reply) :
    ∃ effect, request.effect engine.env engine.state = .ok effect ∧ effect.answer = reply := by
  rcases engine.perform_cases request with ⟨e, hperform⟩ |
    ⟨effect, ledger, heffect, -, hperform⟩
  · rw [hperform] at h
    cases h
  · rw [hperform] at h
    cases h
    exact ⟨effect, heffect, rfl⟩

/-- An accepted claim makes the proof of a live escrow public. -/
theorem proof_of_claim {req : ClaimRequest} (h : (engine.perform (.claim req)).1 = .ok reply) :
    ∃ escrow event secret, engine.state.registry.escrow? req.hash = some escrow ∧
      reply = .event (.claimed event) ∧
      escrow.terms.verifyClaim engine.config.relayProgramId secret req.preamble =
        .ok event.secret := by
  obtain ⟨effect, heffect, rfl⟩ := effect_of_perform h
  cases Request.admitted_of_effect heffect with
  | claim hplan =>
      obtain ⟨escrow, _, secret, _, opened, -, hlive, -, -, -, -, hproof, rfl⟩ :=
        ClaimRequest.plan_eq_ok_iff.1 hplan
      exact ⟨escrow, _, secret, hlive, rfl, hproof⟩

/-- A refund that is accepted without consent found a live escrow that is expired. -/
theorem expired_of_refund {req : RefundRequest} (hauth : req.auth = .timeout)
    (h : (engine.perform (.refund req)).1 = .ok reply) :
    ∃ escrow, engine.state.registry.escrow? req.hash = some escrow ∧
      escrow.Expired engine.config engine.now req.preamble := by
  obtain ⟨effect, heffect, rfl⟩ := effect_of_perform h
  cases Request.admitted_of_effect heffect with
  | refund hplan =>
      obtain ⟨escrow, _, kind, -, hlive, -, -, -, -, -, hallowed, rfl⟩ :=
        RefundRequest.plan_eq_ok_iff.1 hplan
      rw [hauth] at hallowed
      obtain ⟨_, hexpired, -⟩ := bind_eq_ok_iff.1 hallowed
      exact ⟨escrow, hlive, Escrow.checkExpiry_eq_ok_iff.1 hexpired⟩

end Engine

/-! ## Histories with a chain -/

/-- An engine, and the relay that its users turn to. -/
structure World where
  engine : Engine
  relay : Relay

/-- Something that happens to the engine or on the other chain. -/
inductive Happening
  | step (step : Step)
  /-- The relay follows the chain, to whatever tip and inclusions. -/
  | chain (tip : UInt32) (inclusions : Table Hash UInt32)

/-- The instructions that ran before a request. -/
def Request.preceding : Request → List Instruction
  | claim req => req.preamble.instructions
  | refund req => req.preamble.instructions
  | _ => []

namespace World

def next (world : World) : Happening → World
  | .step step => { world with engine := world.engine.step step }
  | .chain tip inclusions => { world with relay := { world.relay with tip, inclusions } }

def run (world : World) (happenings : List Happening) : World := happenings.foldl next world

/-- Nobody else speaks in the name of the relay: every instruction of the relay program that runs
before a request is the relay's word, given at some earlier moment of the history. -/
def Genuine (world : World) (happenings : List Happening) : Prop :=
  ∀ before request after, happenings = before ++ .step (.request request) :: after →
    ∀ instruction ∈ request.preceding,
      instruction.programId = world.engine.config.relayProgramId →
      ∃ earlier, earlier <+: before ∧ (world.run earlier).relay.Attests instruction

/-- What the first instruction of a preamble stands for: the relay said it at some earlier moment,
and whenever the relay can have said it, the fact held of the chain. -/
def HeldWhenSaid (world : World) (before : List Happening) (preamble : Preamble)
    (fact : Relay → Prop) : Prop :=
  ∃ instruction, preamble.first? = some instruction ∧
    (∃ earlier, earlier <+: before ∧ (world.run earlier).relay.Attests instruction) ∧
    ∀ earlier, earlier <+: before → (world.run earlier).relay.Attests instruction →
      fact (world.run earlier).relay

variable {world : World}

theorem config_run (world : World) (happenings : List Happening) :
    (world.run happenings).engine.config = world.engine.config := by
  induction happenings generalizing world with
  | nil => rfl
  | cons happening rest ih =>
      show ((world.next happening).run rest).engine.config = _
      rw [ih]
      cases happening with
      | step step => exact Engine.config_step ..
      | chain tip inclusions => rfl

/-- A first instruction of the relay program is the relay's word. -/
theorem Genuine.heldWhenSaid {happenings before after : List Happening} {request : Request}
    {preamble : Preamble} {attestation : Attestation} {fact : Relay → Prop}
    (h : world.Genuine happenings)
    (hsplit : happenings = before ++ .step (.request request) :: after)
    (hpreceding : request.preceding = preamble.instructions)
    (hfirst : preamble.first? =
      some ⟨world.engine.config.relayProgramId, attestation⟩)
    (hfact : ∀ relay : Relay,
      relay.Attests ⟨world.engine.config.relayProgramId, attestation⟩ → fact relay) :
    world.HeldWhenSaid before preamble fact := by
  have hmem : ⟨world.engine.config.relayProgramId, attestation⟩ ∈ request.preceding := by
    rw [hpreceding]
    exact List.mem_of_mem_head? hfirst
  exact ⟨_, hfirst, h before request after hsplit _ hmem rfl, fun earlier _ => hfact _⟩

/-- **The facts were facts.** In every history in which nobody else speaks in the name of the relay,
a claim of a payment on the other chain is accepted only if the transaction that it makes public
was in the chain, and as deep as the terms want, when the relay said so. A refund after an expiry
that is a height is accepted only if the tip was at that height when the relay said so. -/
theorem facts_real (world : World) (happenings before after : List Happening)
    (request : Request) (reply : Reply) (hgenuine : world.Genuine happenings)
    (hsplit : happenings = before ++ .step (.request request) :: after)
    (haccepted : ((world.run before).engine.perform request).1 = .ok reply) :
    (∀ req, request = .claim req →
      ∃ escrow event,
        (world.run before).engine.state.registry.escrow? req.hash = some escrow ∧
        reply = .event (.claimed event) ∧
        (escrow.terms.kind ≠ .htlc →
          world.HeldWhenSaid before req.preamble fun relay =>
            relay.Buries event.secret escrow.terms.confirmations)) ∧
    (∀ req, request = .refund req → req.auth = .timeout →
      ∃ escrow,
        (world.run before).engine.state.registry.escrow? req.hash = some escrow ∧
        ∀ height, Expiry.ofRaw escrow.terms.expiry
            world.engine.config.blockheightExpiryThreshold = .blockHeight height →
          world.HeldWhenSaid before req.preamble fun relay =>
            escrow.terms.expiry.toNat ≤ relay.tip.toNat) := by
  have hconfig := config_run world before
  constructor
  · rintro req rfl
    obtain ⟨escrow, event, secret, hlive, hreply, hproof⟩ := Engine.proof_of_claim haccepted
    refine ⟨escrow, event, hlive, hreply, fun hkind => ?_⟩
    rw [hconfig] at hproof
    obtain ⟨confirmations, hfirst, hdeep⟩ := Terms.included_of_verifyClaim hkind hproof
    exact hgenuine.heldWhenSaid hsplit rfl hfirst fun relay hattests =>
      Relay.buries_of_attests hattests hdeep
  · rintro req rfl hauth
    obtain ⟨escrow, hlive, hexpired⟩ := Engine.expired_of_refund hauth haccepted
    refine ⟨escrow, hlive, fun height hraw => ?_⟩
    rw [hconfig] at hexpired
    unfold Escrow.Expired at hexpired
    -- The height that the relay names has 32 bits, and the expiry is that height and not only its
    -- remainder.
    rw [hraw] at hexpired
    obtain ⟨-, hheight⟩ := Expiry.ofRaw_eq_blockHeight_iff.1 hraw
    refine hgenuine.heldWhenSaid hsplit rfl hexpired fun relay hattests => ?_
    calc escrow.terms.expiry.toNat
        = height.toNat := hheight.symm
      _ ≤ relay.tip.toNat := UInt32.le_iff_toNat_le.1 (Relay.le_tip_of_attests hattests)

/-! ## A transaction that is reorganized away -/

theorem run_append (world : World) (happenings happenings' : List Happening) :
    world.run (happenings ++ happenings') = (world.run happenings).run happenings' :=
  List.foldl_append ..

theorem run_map_step (world : World) (steps : List Step) :
    world.run (steps.map .step) = { world with engine := world.engine.run steps } := by
  induction steps generalizing world with
  | nil => rfl
  | cons step rest ih => exact ih _

theorem genuine_concat {happenings : List Happening} {request : Request}
    (hsilent : ∀ other, .step (.request other) ∈ happenings → other.preceding = [])
    (hword : ∀ instruction ∈ request.preceding,
      ∃ earlier, earlier <+: happenings ∧ (world.run earlier).relay.Attests instruction) :
    world.Genuine (happenings ++ [.step (.request request)]) := by
  intro before other after hsplit instruction hmem _
  rcases after.eq_nil_or_concat with rfl | ⟨middle, last, rfl⟩
  · -- The request is the last one.
    obtain ⟨rfl, hlast⟩ := List.append_inj' hsplit rfl
    cases hlast
    exact hword instruction hmem
  · have hbefore : happenings = before ++ .step (.request other) :: middle := by
      rw [List.concat_eq_append, ← List.cons_append, ← List.append_assoc] at hsplit
      exact (List.append_inj' hsplit rfl).1
    have hnone := hsilent other (hbefore ▸ List.mem_append_right _ (List.mem_cons_self ..))
    rw [hnone] at hmem
    cases hmem

open Engine

def buriedTerms : Terms := { someTerms with kind := .chainTxhash, confirmations := 3 }

/-- The history in which its owner locks the tokens. -/
def buriedLock : List Step :=
  fundedLock Config.standard.programId someOwner someMint buriedTerms

/-- An engine, and a relay at the start of the chain. -/
def someWorld : World := ⟨.new .standard 0 .empty, .new Config.standard.relayProgramId 0⟩

/-- The tokens are locked, the transaction is three blocks deep for a moment, and then the chain is
one without it. -/
def reorganized : List Happening :=
  buriedLock.map .step ++ [.chain 12 (Table.empty.insert buriedTerms.hash 10), .chain 11 .empty]

def buriedPreamble : Preamble :=
  Preamble.empty.push Config.standard.relayProgramId (.transactionVerified buriedTerms.hash 3)

theorem engine_run_reorganized :
    (someWorld.run reorganized).engine = (Engine.new .standard 0 .empty).run buriedLock := by
  unfold reorganized
  rw [run_append, run_map_step]
  rfl

theorem attests_buriedPreamble :
    ∀ instruction ∈ buriedPreamble.instructions,
      ∃ earlier, earlier <+: reorganized ∧ (someWorld.run earlier).relay.Attests instruction := by
  intro instruction hmem
  cases List.mem_singleton.1 hmem
  refine ⟨buriedLock.map .step ++ [.chain 12 (Table.empty.insert buriedTerms.hash 10)],
    ⟨[.chain 11 .empty], by simp [reorganized]⟩, ?_⟩
  rw [run_append, run_map_step]
  exact Relay.attests_iff.2 ⟨rfl, 10, Table.get?_insert_self .., by decide, by decide⟩

theorem funded_buriedLock :
    (escrowOfOwn someOwner someMint buriedTerms).Funded
      {d | d ∈ derivations Config.standard.programId 0 buriedLock}
      ((Engine.new .standard 0 .empty).run buriedLock).state buriedTerms.hash := by
  obtain ⟨-, hlive, hsupply, hnative⟩ := run_fundedLock .standard someOwner someMint
    buriedTerms rfl rfl (by decide) rfl someAccount_ne_vault
  have hdistinct : Set.InjOn Derivation.address
      {d | d ∈ derivations Config.standard.programId 0 buriedLock} :=
    injOn_of_nodup nodup_lockedDerivations (by
      simp [buriedLock, buriedTerms, fundedLock, lockOfOwn, derivations, Step.derivations,
        Request.derivations, someDerivations])
  refine funded_run (.new .standard 0 hdistinct (by simp [buriedLock, fundedLock])
    fun _ hd => hd) rfl ?_ ?_ hlive (hsupply ▸ UInt64.toNat_lt_size _)
    (hnative ▸ Nat.zero_lt_succ _)
  · -- Neither the owner of all vaults nor the address of the escrow plays a part in the history.
    simp only [buriedLock, fundedLock, lockOfOwn, Step.WithoutAuthority, List.forall_mem_cons,
      List.not_mem_nil, false_imp_iff, implies_true, and_true, true_and]
    exact fun _ => someOwner_ne_vaultAuthority
  · simp only [buriedLock, fundedLock, lockOfOwn, Step.WithoutClaimer, List.forall_mem_cons,
      List.not_mem_nil, false_imp_iff, implies_true, and_true, true_and]
    exact someOwner_ne_escrowAddress

/-- The tokens are claimed by what the relay said before the chain was reorganized. It was a fact
then. -/
theorem facts_real_of_reorganized :
    let engine := (someWorld.run reorganized).engine
    let claim := (escrowOfOwn someOwner someMint buriedTerms).inlineClaim engine.state.registry
      someMint [] buriedPreamble
    let event : ClaimEvent := ⟨buriedTerms.hash, buriedTerms.hash, 1⟩
    (engine.perform (.claim claim)).1 = .ok (.event (.claimed event)) ∧
      ∃ earlier, earlier <+: reorganized ∧
        (someWorld.run earlier).relay.Buries event.secret 3 := by
  intro engine claim event
  have hengine : engine = (Engine.new .standard 0 .empty).run buriedLock := engine_run_reorganized
  have hfunded := funded_buriedLock
  rw [← hengine] at hfunded
  have hproof : buriedTerms.verifyClaim engine.config.relayProgramId [] buriedPreamble =
      .ok buriedTerms.hash := by
    rw [World.config_run]
    refine bind_eq_ok_iff.2 ⟨(), Terms.checkInclusion_eq_ok_iff.2 ⟨3, rfl, ?_⟩, rfl⟩
    exact UInt16.le_refl 3
  have haccepted : (engine.perform (.claim claim)).1 = .ok (.event (.claimed event)) :=
    perform_inlineClaim hfunded someMint rfl hproof
  have hgenuine : someWorld.Genuine (reorganized ++ [.step (.request (.claim claim))]) :=
    genuine_concat (by simp [reorganized, buriedLock, fundedLock, Request.preceding])
      attests_buriedPreamble
  obtain ⟨escrow, event', hlive, hevent, hreal⟩ := (facts_real someWorld _ reorganized []
    (.claim claim) _ hgenuine rfl haccepted).1 claim rfl
  cases hevent
  -- The escrow of the statement is the one that was locked.
  cases hlive.symm.trans hfunded.live
  obtain ⟨instruction, -, ⟨earlier, hprefix, hattests⟩, hall⟩ :=
    hreal fun hkind => by cases hkind
  exact ⟨haccepted, earlier, hprefix, hall earlier hprefix hattests⟩

end World

end AtomicEscrow
