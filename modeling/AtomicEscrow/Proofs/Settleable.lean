import AtomicEscrow.Proofs.Settlement
import AtomicEscrow.Proofs.Verification

set_option autoImplicit false

/-! # No escrow is stuck

A settlement looks up the accounts that the record of the escrow names, credits or pays out the
tokens and splits the pot. Each of these could fail for good. None does: the accounts exist as
long as the escrow (`Escrow.WellFormed`), the vault covers the debt (`Engine.covered_run`), the
pot is at the address of the escrow (`Engine.backed_run`), and nobody can get more than there is
(`Ledger.supply`). So an escrow that is expired is refunded and one whose proof holds is claimed,
by the request that names what the record names (`Engine.escrow_settleable`).
-/

namespace AtomicEscrow

/-! ## The requests that settle -/

namespace Escrow

/-- The refund after the expiry that names what the record names. -/
def timeoutRefund (escrow : Escrow) (r : Registry) (preamble : Preamble) : RefundRequest where
  hash := escrow.terms.hash
  escrowAddress := r.escrowAddress escrow.terms.hash
  offerer := escrow.offerer
  claimer := escrow.claimer
  offererDestination :=
    match escrow.terms.payIn, escrow.offererTokenAccount with
    | true, some account => .token account
    | _, _ => .internal (r.userAddress escrow.offerer escrow.mint)
  claimerUserAccount := some (r.userAddress escrow.claimer escrow.mint)
  auth := .timeout
  preamble

/-- The claim with a secret of its own that names what the record names. -/
def inlineClaim (escrow : Escrow) (r : Registry) (signer : Pubkey) (secret : Bytes)
    (preamble : Preamble) : ClaimRequest where
  hash := escrow.terms.hash
  escrowAddress := r.escrowAddress escrow.terms.hash
  signer
  funder := escrow.funder
  claimerDestination :=
    match escrow.terms.payOut, escrow.claimerTokenAccount with
    | true, some account => .token account
    | _, _ => .internal (r.userAddress escrow.claimer escrow.mint)
  secret := .inline secret
  preamble

/-- Whether an escrow is expired: its time has passed, or the word of the relay that its height is
reached comes first in the preamble. -/
def Expired (escrow : Escrow) (config : Config) (now : UInt64) (preamble : Preamble) : Prop :=
  match Expiry.ofRaw escrow.terms.expiry config.blockheightExpiryThreshold with
  | .timestamp expiry => expiry < now
  | .blockHeight height =>
      preamble.first? = some ⟨config.relayProgramId, .blockHeight height .ge⟩

theorem checkHeight_eq_ok_iff {config : Config} {height : UInt32} {preamble : Preamble} {u : Unit} :
    checkHeight config height preamble = .ok u ↔
      preamble.first? = some ⟨config.relayProgramId, .blockHeight height .ge⟩ := by
  unfold checkHeight expiryOperator
  -- The check looks at the first instruction only: its program, its kind, its height, its
  -- operator.
  cases preamble.first? with
  | none => simp
  | some instruction =>
      obtain ⟨programId, attestation⟩ := instruction
      by_cases hprogram : programId = config.relayProgramId
      · cases attestation with
        | blockHeight attested operator =>
            by_cases hheight : attested = height <;> by_cases hoperator : operator = .ge <;>
              simp [hprogram, hheight, hoperator]
        | transactionVerified => simp [hprogram]
        | ed25519 => simp [hprogram]
      · simp [hprogram]

theorem checkExpiry_eq_ok_iff {escrow : Escrow} {config : Config} {now : UInt64}
    {preamble : Preamble} {u : Unit} :
    escrow.checkExpiry config now preamble = .ok u ↔ escrow.Expired config now preamble := by
  unfold checkExpiry Expired
  cases Expiry.ofRaw escrow.terms.expiry config.blockheightExpiryThreshold with
  | blockHeight height => exact checkHeight_eq_ok_iff
  | timestamp expiry =>
      by_cases hle : now ≤ expiry
      · simp [hle, UInt64.not_lt.2 hle]
      · simp [hle, UInt64.not_le.1 hle]

end Escrow

/-- The preimage of a payment hash is a proof whatever the relay says. -/
theorem Terms.verifyClaim_preimage {terms : Terms} {preimage : Bytes32}
    (hkind : terms.kind = .htlc) (hhash : terms.hash = Commitment.payment preimage)
    (relayProgramId : Pubkey) (preamble : Preamble) :
    terms.verifyClaim relayProgramId preimage.toList preamble = .ok preimage := by
  have htake : preimage.toList.take 32 = preimage.toList :=
    List.take_of_length_le (Nat.le_of_eq preimage.length_toList)
  unfold verifyClaim
  rw [hkind]
  refine openPayment_eq_ok_iff.2 ⟨Nat.le_of_eq preimage.length_toList.symm, ?_, htake.symm⟩
  rw [htake, hhash]
  rfl

/-! ## A settlement goes through -/

/-- A live escrow whose settlement is funded: the vault covers the debt, the pot is there, and
nobody can get more than fits in a word. -/
structure Escrow.Funded (D : Set Derivation) (s : State) (hash : Hash) (escrow : Escrow) :
    Prop where
  distinct : D.InjOn Derivation.address
  wellFormed : s.WellFormed D
  live : s.registry.escrow? hash = some escrow
  covered : s.registry.owed escrow.mint ≤ (s.vaultBalance escrow.mint).toNat
  pot : escrow.nativePot ≤ s.ledger.nativeBalance (s.registry.escrowAddress hash)
  supply : s.ledger.supply escrow.mint < UInt64.size
  nativeSupply : s.ledger.nativeSupply < UInt64.size

namespace Escrow.Funded

variable {D : Set Derivation} {s : State} {hash : Hash} {escrow : Escrow}

theorem hash_eq (h : escrow.Funded D s hash) : escrow.terms.hash = hash :=
  (h.wellFormed.escrow h.live).hash_eq

/-- The tokens of the escrow fit in an internal balance: both are owed, and what is owed fits in
the vault. -/
theorem exists_credit (h : escrow.Funded D s hash) {owner : Pubkey}
    (hmem : .userAccount s.registry.programId owner escrow.mint ∈ D)
    (huser : (s.registry.userHolder? (s.registry.userAddress owner escrow.mint)).isSome) :
    ∃ account, ∃ balance : UInt64, s.registry.user? owner escrow.mint = some account ∧
      account.amount.toNat + escrow.terms.amount.toNat = balance.toNat := by
  obtain ⟨account, haccount⟩ := Option.isSome_iff_exists.1 (Option.isSome_map.symm.trans huser)
  have hfound : s.registry.user? owner escrow.mint = some account := haccount
  have hfits := State.credit_fits h.wellFormed.keyed h.distinct h.live h.covered hmem hfound
  obtain ⟨balance, hsum⟩ := Ledger.exists_toNat_eq hfits
  exact ⟨account, balance, hfound, hsum⟩

theorem covers (h : escrow.Funded D s hash) : s.Covers escrow.mint where
  owed_le := h.covered
  mint_eq vault hvault := by
    obtain ⟨account, haccount, rfl⟩ := Ledger.holder?_eq_some_iff.1 hvault
    exact (h.wellFormed.vault h.distinct (h.wellFormed.escrow h.live).vault_mem haccount).1

theorem backed (h : escrow.Funded D s hash) : s.Backed hash := by
  intro found hfound
  cases h.live.symm.trans hfound
  exact h.pot

/-- What a settlement of the escrow pays is paid. -/
theorem exists_steps (h : escrow.Funded D s hash) {x : Settlement}
    (hadmitted : x.Admitted s escrow.terms.hash) (hx : x.escrow = escrow) :
    ∃ ledger, s.ledger.steps x.batch.ops = .ok ledger := by
  subst hx
  rw [h.hash_eq] at hadmitted
  exact hadmitted.exists_steps h.covers h.backed h.supply h.nativeSupply

theorem exists_refundPlan (h : escrow.Funded D s hash) (env : Env) {preamble : Preamble}
    (hsource : preamble.source = Preamble.trustedSource)
    (hexpired : escrow.Expired env.config env.now preamble) :
    ∃ refunded, (escrow.timeoutRefund s.registry preamble).plan env s =
      .ok ⟨escrow, refunded, .timeout,
        (escrow.timeoutRefund s.registry preamble).batch escrow .timeout s⟩ := by
  have hescrow := h.wellFormed.escrow h.live
  have hlive : s.registry.escrow? escrow.terms.hash = some escrow := h.hash_eq ▸ h.live
  have hauth : escrow.authorizeRefund env.config env.now .timeout preamble = .ok .timeout :=
    bind_eq_ok_iff.2 ⟨(), checkExpiry_eq_ok_iff.2 hexpired, rfl⟩
  -- The claimer's account is needed for its reputation, unless the swap would have paid out.
  have hclaimer : (escrow.timeoutRefund s.registry preamble).checkClaimer escrow s = .ok () := by
    refine RefundRequest.checkClaimer_eq_ok_iff.2 fun hpay => ⟨rfl, ?_⟩
    obtain ⟨account, _, hfound, -⟩ := h.exists_credit hescrow.claimer_mem (hescrow.credits hpay).2
    exact ⟨account, hfound⟩
  obtain ⟨refunded, hdestination⟩ : ∃ refunded,
      (escrow.timeoutRefund s.registry preamble).checkDestination escrow s = .ok refunded := by
    simp only [RefundRequest.checkDestination_eq_ok_iff, timeoutRefund]
    -- Back to the token account the escrow was funded from, or to the balance it was debited from.
    cases hpay : escrow.terms.payIn with
    | true =>
        obtain ⟨source, holder, hsource, hholder, hmint, -⟩ := hescrow.paidIn hpay
        obtain ⟨account, haccount, rfl⟩ := Ledger.holder?_eq_some_iff.1 hholder
        rw [hsource]
        exact ⟨none, .inl ⟨rfl, source, account, rfl, rfl, haccount, hmint, rfl⟩⟩
    | false =>
        obtain ⟨account, balance, hfound, hsum⟩ :=
          h.exists_credit hescrow.offerer_mem (hescrow.debited hpay).2
        exact ⟨some balance, .inr ⟨rfl, account, balance, rfl, hfound, hsum, rfl⟩⟩
  exact ⟨refunded, RefundRequest.plan_eq_ok_iff.2 ⟨escrow, refunded, .timeout, rfl, hlive, rfl, rfl,
    hdestination, hclaimer, hsource, hauth, rfl⟩⟩

theorem exists_claimPlan (h : escrow.Funded D s hash) (env : Env) (signer : Pubkey)
    {secret : Bytes} {preamble : Preamble} {opened : Hash}
    (hsource : preamble.source = Preamble.trustedSource)
    (hproof : escrow.terms.verifyClaim env.config.relayProgramId secret preamble = .ok opened) :
    ∃ credited, (escrow.inlineClaim s.registry signer secret preamble).plan env s =
      .ok ⟨escrow, credited, none, opened,
        (escrow.inlineClaim s.registry signer secret preamble).batch escrow s⟩ := by
  have hescrow := h.wellFormed.escrow h.live
  have hlive : s.registry.escrow? escrow.terms.hash = some escrow := h.hash_eq ▸ h.live
  have hsecret : (escrow.inlineClaim s.registry signer secret preamble).readSecret s =
      .ok (secret, none) := ClaimRequest.readSecret_eq_ok_iff.2 (.inl ⟨rfl, rfl⟩)
  obtain ⟨credited, hdestination⟩ : ∃ credited,
      (escrow.inlineClaim s.registry signer secret preamble).checkDestination escrow s =
        .ok credited := by
    simp only [ClaimRequest.checkDestination_eq_ok_iff, inlineClaim]
    -- Out to the recorded token account, or to the claimer's balance, where it fits because it was
    -- owed before.
    cases hpay : escrow.terms.payOut with
    | true =>
        obtain ⟨target, holder, htarget, hholder, hmint⟩ := hescrow.paysOut hpay
        obtain ⟨account, haccount, rfl⟩ := Ledger.holder?_eq_some_iff.1 hholder
        rw [htarget]
        exact ⟨none, .inl ⟨rfl, target, account, rfl, rfl, haccount, hmint, rfl⟩⟩
    | false =>
        obtain ⟨account, balance, hfound, hsum⟩ :=
          h.exists_credit hescrow.claimer_mem (hescrow.credits hpay).2
        exact ⟨some balance, .inr ⟨rfl, account, balance, rfl, hfound, hsum, rfl⟩⟩
  exact ⟨credited, ClaimRequest.plan_eq_ok_iff.2 ⟨escrow, credited, secret, none, opened, rfl,
    hlive, rfl, hdestination, hsource, hsecret, hproof, rfl⟩⟩

end Escrow.Funded

namespace Engine

section

variable {D : Set Derivation} {engine : Engine} {hash : Hash} {escrow : Escrow}
  {preamble : Preamble}

theorem perform_timeoutRefund (h : escrow.Funded D engine.state hash)
    (hsource : preamble.source = Preamble.trustedSource)
    (hexpired : escrow.Expired engine.config engine.now preamble) :
    (engine.perform (.refund (escrow.timeoutRefund engine.state.registry preamble))).1 =
      .ok (.event (.refunded ⟨hash, escrow.terms.sequence⟩)) := by
  obtain ⟨refunded, hplan⟩ := h.exists_refundPlan engine.env hsource hexpired
  obtain ⟨ledger, hsteps⟩ := h.exists_steps (RefundPlan.admitted hplan) rfl
  rw [perform_eq_of_effect (Request.effect_of_admitted (.refund hplan)) hsteps]
  show Except.ok (Reply.event (.refunded ⟨escrow.terms.hash, _⟩)) = _
  rw [h.hash_eq]

theorem perform_inlineClaim (h : escrow.Funded D engine.state hash) (signer : Pubkey)
    {secret : Bytes} {opened : Hash} (hsource : preamble.source = Preamble.trustedSource)
    (hproof : escrow.terms.verifyClaim engine.config.relayProgramId secret preamble = .ok opened) :
    (engine.perform (.claim
      (escrow.inlineClaim engine.state.registry signer secret preamble))).1 =
      .ok (.event (.claimed ⟨hash, opened, escrow.terms.sequence⟩)) := by
  obtain ⟨credited, hplan⟩ := h.exists_claimPlan engine.env signer hsource hproof
  obtain ⟨ledger, hsteps⟩ := h.exists_steps (ClaimPlan.admitted hplan) rfl
  rw [perform_eq_of_effect (Request.effect_of_admitted (.claim hplan)) hsteps]
  show Except.ok (Reply.event (.claimed ⟨escrow.terms.hash, _, _⟩)) = _
  rw [h.hash_eq]

end

/-! ## Histories -/

/-- After every history a live escrow is funded. -/
theorem funded_run {D : Set Derivation} {engine : Engine} {steps : List Step} {hash : Hash}
    {escrow : Escrow} (h : engine.Tame D steps)
    (hnew : engine.state.registry = .empty engine.state.registry.programId)
    (hauthority : ∀ step ∈ steps, step.WithoutAuthority engine.state.registry.vaultAuthority)
    (hclaimer : ∀ step ∈ steps,
      step.WithoutClaimer (engine.state.registry.escrowAddress hash))
    (hlive : (engine.run steps).state.registry.escrow? hash = some escrow)
    (hsupply : (engine.run steps).state.ledger.supply escrow.mint < UInt64.size)
    (hnative : (engine.run steps).state.ledger.nativeSupply < UInt64.size) :
    escrow.Funded D (engine.run steps).state hash := by
  have hnone (hash : Hash) : engine.state.registry.escrow? hash = none := by
    rw [hnew]
    rfl
  have hwf := h.wellFormed_run
  have hvault := (hwf.escrow hlive).vault_mem
  rw [programId_run] at hvault
  have hcovered := covered_run h hnew hauthority hvault
  have hbacked := backed_run h hclaimer
    fun escrow hfirst => by rw [hnone] at hfirst; cases hfirst
  exact ⟨h.distinct, hwf, hlive, hcovered, hbacked escrow hlive, hsupply, hnative⟩

/-- **No escrow is stuck.** After every history in which the authority of the vaults signs nothing
and the address of the escrow is nobody's claimer, and as long as what there is of the mint and of
native funds fits in a word: a live escrow that is expired is refunded, and one whose proof holds
is claimed by whoever shows the proof. -/
theorem escrow_settleable (config : Config) (now : UInt64) (steps : List Step) (hash : Hash)
    (escrow : Escrow)
    (hdistinct : Set.InjOn Derivation.address {d | d ∈ derivations config.programId 0 steps})
    (hbatch : ∀ batch, .applyBatch batch ∉ steps)
    (hauthority : ∀ step ∈ steps,
      step.WithoutAuthority (Derivation.vaultAuthority config.programId).address)
    (hclaimer : ∀ step ∈ steps,
      step.WithoutClaimer (Derivation.escrow config.programId hash).address) :
    let engine := (Engine.new config now .empty).run steps
    engine.state.registry.escrow? hash = some escrow →
    engine.state.ledger.supply escrow.mint < UInt64.size →
    engine.state.ledger.nativeSupply < UInt64.size →
    (∀ preamble, preamble.source = Preamble.trustedSource →
      escrow.Expired config engine.now preamble →
      (engine.perform (.refund (escrow.timeoutRefund engine.state.registry preamble))).1 =
        .ok (.event (.refunded ⟨hash, escrow.terms.sequence⟩))) ∧
    ∀ signer secret preamble opened, preamble.source = Preamble.trustedSource →
      escrow.terms.verifyClaim config.relayProgramId secret preamble = .ok opened →
      (engine.perform (.claim
        (escrow.inlineClaim engine.state.registry signer secret preamble))).1 =
        .ok (.event (.claimed ⟨hash, opened, escrow.terms.sequence⟩)) := by
  intro engine hlive hsupply hnative
  have hfunded : escrow.Funded {d | d ∈ derivations config.programId 0 steps} engine.state hash :=
    funded_run (.new config now hdistinct hbatch fun _ hd => hd) rfl hauthority hclaimer hlive
      hsupply hnative
  have hconfig : engine.config = config := config_run ..
  constructor
  · intro preamble hsource hexpired
    exact perform_timeoutRefund hfunded hsource (hconfig.symm ▸ hexpired)
  · intro signer secret preamble opened hsource hproof
    exact perform_inlineClaim hfunded signer hsource (hconfig.symm ▸ hproof)

/-! ## An escrow between one's own accounts -/

/-- The lock of tokens of a first token account that a claim gives back to it. -/
def lockOfOwn (program owner mint : Pubkey) (terms : Terms) : LockRequest where
  terms
  offerer := owner
  claimer := owner
  mint
  escrowAddress := (Derivation.escrow program terms.hash).address
  funding := .payIn (Derivation.tokenAccount owner mint 1).address
  claimerDestination := .token (Derivation.tokenAccount owner mint 1).address
  txoHash := .replicate 0
  authExpiry := 1

/-- The history of this lock: an owner opens a token account, gets the tokens, locks them and lets
the escrow expire. -/
def fundedLock (program owner mint : Pubkey) (terms : Terms) : List Step :=
  [.createTokenAccount owner mint,
    .mintTo (Derivation.tokenAccount owner mint 1).address terms.amount,
    .request (.lock (lockOfOwn program owner mint terms)), .setTime (terms.expiry + 1)]

def escrowOfOwn (owner mint : Pubkey) (terms : Terms) : Escrow where
  terms
  offerer := owner
  offererTokenAccount := some (Derivation.tokenAccount owner mint 1).address
  claimer := owner
  claimerTokenAccount := some (Derivation.tokenAccount owner mint 1).address
  mint
  claimerBounty := 0
  securityDeposit := 0

/-- The lock of all that a first token account was funded with is admitted, and the ledger moves its
batch. -/
theorem exists_plan_lockOfOwn (config : Config) (owner mint : Pubkey) (terms : Terms)
    (hin : terms.payIn = true) (hout : terms.payOut = true)
    (hconfirmations : terms.confirmations ≤ config.maxConfirmations)
    (hnonce : terms.kind = .chainNonced ∨ terms.nonce = 0)
    (hne : (Derivation.tokenAccount owner mint 1).address ≠
      (Derivation.vault config.programId mint).address) :
    ∃ funded plan ledger,
      (Ledger.empty.createTokenAccount owner mint).2.mintTo
          (Derivation.tokenAccount owner mint 1).address terms.amount = .ok funded ∧
      (lockOfOwn config.programId owner mint terms).plan ⟨config, 0⟩
          ⟨.empty config.programId, funded⟩ = .ok plan ∧
      plan.escrow = escrowOfOwn owner mint terms ∧
      funded.steps plan.batch.ops = .ok ledger := by
  obtain ⟨funded, ledger, hmint, hsource, hsteps, -⟩ :=
    Ledger.exists_firstDeposit .empty owner mint
      (Registry.empty config.programId).vaultAuthority terms.amount
      (show _ = (Derivation.tokenAccount owner mint 1).address from rfl) rfl hne
  refine ⟨funded, ⟨escrowOfOwn owner mint terms, _⟩, ledger, hmint, ?_, rfl, hsteps⟩
  exact LockRequest.plan_eq_ok_iff.2 ⟨_, ⟨_, 0, 0, _⟩,
    LockRequest.checkTerms_eq_ok_iff.2
      ⟨UInt64.zero_lt_one, rfl, rfl, hconfirmations, hnonce, hin⟩,
    LockRequest.checkDestination_eq_ok_iff.2
      (.inl ⟨hout, _, _, rfl, hsource, rfl, rfl⟩),
    LockRequest.checkFunding_eq_ok_iff.2
      (.inl ⟨_, _, rfl, hsource, rfl, rfl, UInt64.le_refl _, rfl⟩), rfl⟩

def fundedAccount (owner mint : Pubkey) (amount : UInt64) : List Step :=
  [.createTokenAccount owner mint, .mintTo (Derivation.tokenAccount owner mint 1).address amount]

theorem run_lockOfOwn (config : Config) (owner mint : Pubkey) (terms : Terms)
    (hin : terms.payIn = true) (hout : terms.payOut = true)
    (hconfirmations : terms.confirmations ≤ config.maxConfirmations)
    (hnonce : terms.kind = .chainNonced ∨ terms.nonce = 0)
    (hne : (Derivation.tokenAccount owner mint 1).address ≠
      (Derivation.vault config.programId mint).address) :
    ∃ s', (Operation.lock ⟨config, 0⟩ (lockOfOwn config.programId owner mint terms)).run
        ((Engine.new config 0 .empty).run (fundedAccount owner mint terms.amount)).state =
      (.ok (lockOfOwn config.programId owner mint terms).event, s') := by
  obtain ⟨funded, plan, ledger, hmint, hplan, -, hsteps⟩ :=
    exists_plan_lockOfOwn config owner mint terms hin hout hconfirmations hnonce hne
  have hstate : ((Engine.new config 0 .empty).run
      (fundedAccount owner mint terms.amount)).state = ⟨.empty config.programId, funded⟩ := by
    unfold fundedAccount
    rw [run_cons, run_cons, run_nil, step_mintTo hmint]
    rfl
  rw [hstate]
  exact ⟨_, Operation.run_lock_eq_ok_iff.2 ⟨plan, ledger, hplan, hsteps, rfl, rfl⟩⟩

theorem run_fundedLock (config : Config) (owner mint : Pubkey) (terms : Terms)
    (hin : terms.payIn = true) (hout : terms.payOut = true)
    (hconfirmations : terms.confirmations ≤ config.maxConfirmations) (hnonce : terms.nonce = 0)
    (hne : (Derivation.tokenAccount owner mint 1).address ≠
      (Derivation.vault config.programId mint).address) :
    let engine := (Engine.new config 0 .empty).run (fundedLock config.programId owner mint terms)
    engine.now = terms.expiry + 1 ∧
      engine.state.registry.escrow? terms.hash = some (escrowOfOwn owner mint terms) ∧
      engine.state.ledger.supply mint = terms.amount.toNat ∧
      engine.state.ledger.nativeSupply = 0 := by
  intro engine
  obtain ⟨funded, plan, ledger, hmint, hplan, hescrow, hsteps⟩ :=
    exists_plan_lockOfOwn config owner mint terms hin hout hconfirmations (.inr hnonce) hne
  let funding := (Engine.new config 0 .empty).withLedger funded
  -- The steps before the lock only mint, and the one after it only sets the time.
  have hrun : engine =
      (funding.perform (.lock (lockOfOwn config.programId owner mint terms))).2.setTime
        (terms.expiry + 1) := by
    show run _ _ = _
    unfold fundedLock
    rw [run_cons, run_cons, run_cons, run_cons, run_nil, step_mintTo hmint]
    rfl
  have hput := LockRequest.escrows_commit (lockOfOwn config.programId owner mint terms) plan
    funding.state.registry
  rw [hescrow] at hput
  have hlocked : funding.perform (.lock (lockOfOwn config.programId owner mint terms)) = _ :=
    perform_eq_of_effect (Request.effect_of_admitted (.lock hplan)) hsteps
  rw [hlocked] at hrun
  rw [hrun]
  refine ⟨rfl, ?_, ?_, ?_⟩
  · show (LockRequest.commit _ plan funding.state.registry).escrow? terms.hash = _
    rw [Registry.escrow?_of_insert hput]
    exact if_pos rfl
  · show ledger.supply mint = _
    obtain ⟨account, haccount, hminted⟩ := Ledger.supply_mintTo hmint
    rw [Ledger.tokenAccount?_createTokenAccount] at haccount
    have hopened : (Derivation.tokenAccount owner mint 1).holder? = some account :=
      (if_pos rfl).symm.trans haccount
    cases hopened
    rw [Ledger.supply_steps hsteps, hminted, Ledger.supply_createTokenAccount rfl, if_pos rfl]
    exact Nat.zero_add _
  · show ledger.nativeSupply = _
    rw [Ledger.nativeSupply_steps hsteps, Ledger.nativeSupply_mintTo hmint]
    rfl

def someSecret : Bytes32 := .replicate 3

def someTerms : Terms where
  kind := .htlc
  confirmations := 0
  nonce := 0
  hash := Commitment.payment someSecret
  payIn := true
  payOut := true
  amount := 5
  expiry := expiryThreshold
  sequence := 1

theorem nodup_lockedDerivations :
    ((.escrow Config.standard.programId someTerms.hash :: someDerivations).map
      Derivation.address).Nodup := by
  decide +kernel

theorem someOwner_ne_escrowAddress :
    someOwner ≠ (Derivation.escrow Config.standard.programId someTerms.hash).address := by
  decide +kernel

/-- After the expiry the owner gets the tokens back, and whoever knows the preimage can still
claim them. -/
theorem escrow_settleable_of_fundedLock :
    let engine := (Engine.new .standard 0 .empty).run
      (fundedLock Config.standard.programId someOwner someMint someTerms)
    let escrow := escrowOfOwn someOwner someMint someTerms
    (engine.perform (.refund (escrow.timeoutRefund engine.state.registry .empty))).1 =
        .ok (.event (.refunded ⟨someTerms.hash, 1⟩)) ∧
      (engine.perform (.claim
        (escrow.inlineClaim engine.state.registry someMint someSecret.toList .empty))).1 =
        .ok (.event (.claimed ⟨someTerms.hash, someSecret, 1⟩)) := by
  intro engine escrow
  obtain ⟨hnow, hlive, hsupply, hnative⟩ := run_fundedLock .standard someOwner someMint
    someTerms rfl rfl (by decide) rfl someAccount_ne_vault
  have hsettled := escrow_settleable .standard 0
    (fundedLock Config.standard.programId someOwner someMint someTerms) someTerms.hash escrow
    (injOn_of_nodup nodup_lockedDerivations (by
      simp [fundedLock, lockOfOwn, derivations, Step.derivations, Request.derivations,
        someDerivations]))
    (by simp [fundedLock])
    (by simp [fundedLock, lockOfOwn, Step.WithoutAuthority, someOwner_ne_vaultAuthority])
    (by simp [fundedLock, lockOfOwn, Step.WithoutClaimer, someOwner_ne_escrowAddress])
    hlive (hsupply ▸ UInt64.toNat_lt_size _) (hnative ▸ Nat.zero_lt_succ _)
  have hexpired : escrow.Expired .standard engine.now .empty := by
    rw [hnow]
    show expiryThreshold < expiryThreshold + 1
    decide
  exact ⟨hsettled.1 .empty rfl hexpired, hsettled.2 someMint someSecret.toList .empty someSecret rfl
    (Terms.verifyClaim_preimage rfl rfl _ _)⟩

end Engine

end AtomicEscrow
