import AtomicEscrow.Proofs.Custody

set_option autoImplicit false

/-! # The pot of an escrow

What the claimer puts up for an escrow is sent to the address of the escrow. Nobody can sign for
that address, but a lock charges its claimer without a signature, and it may name any key, also the
address of another escrow. So this file keeps the account of an address: what is there is the pot
of the live escrow and what settlements and airdrops brought, less what locks charged to the
address (`Engine.nativeBalance_run`). The pot is whole as long as nothing was charged
(`Engine.backed_run`), and in general exactly as long as no more was charged than came in
(`Engine.pot_le_nativeBalance_iff`).
-/

namespace AtomicEscrow

/-! ## What requests charge and pay -/

/-- The native funds that a claimer is to put up. -/
def FundingSource.pot : FundingSource → UInt64
  | payIn _ => 0
  | internal _ securityDeposit claimerBounty => max securityDeposit claimerBounty

/-- What the offerer gets out of the pot by a refund. -/
def RefundAuth.compensation (escrow : Escrow) : RefundAuth → UInt64
  | cooperative _ => 0
  | timeout => escrow.securityDeposit

/-- The native funds that a lock charges to a key. -/
def Request.charged (key : Pubkey) : Request → Nat
  | lock req => if req.claimer = key then req.funding.pot.toNat else 0
  | _ => 0

/-- The native funds that a settlement pays to a key: of a claim the bounty to whoever submits it,
of a refund the compensation to the offerer, and the rest to the funder. -/
def Request.paid (s : State) (key : Pubkey) : Request → Nat
  | claim req =>
      match s.registry.escrow? req.hash with
      | some escrow =>
          (if req.signer = key then escrow.claimerBounty.toNat else 0) +
            if escrow.funder = key then (escrow.nativePot - escrow.claimerBounty).toNat else 0
      | none => 0
  | refund req =>
      match s.registry.escrow? req.hash with
      | some escrow =>
          (if escrow.offerer = key then (req.auth.compensation escrow).toNat else 0) +
            if escrow.funder = key then
              (escrow.nativePot - req.auth.compensation escrow).toNat
            else 0
      | none => 0
  | _ => 0

/-- The pot that has to be at the address of the escrow of a hash, none unless it is live. -/
def Registry.pot (r : Registry) (hash : Hash) : Nat :=
  ((r.escrow? hash).map (·.nativePot.toNat)).getD 0

/-- No lock names a key as its claimer. -/
def Step.WithoutClaimer (key : Pubkey) : Step → Prop
  | request (.lock req) => req.claimer ≠ key
  | _ => True

/-- The pot of the escrow of a hash is there, if the escrow is live. -/
def State.Backed (s : State) (hash : Hash) : Prop :=
  ∀ escrow, s.registry.escrow? hash = some escrow →
    escrow.nativePot ≤ s.ledger.nativeBalance (s.registry.escrowAddress hash)

namespace Registry

variable {r r' : Registry} {key : Hash} {escrow : Escrow}

theorem pot_of_live (live : r.escrow? key = some escrow) : r.pot key = escrow.nativePot.toNat := by
  unfold pot
  rw [live]
  rfl

theorem pot_congr (h : r'.escrows = r.escrows) : r'.pot = r.pot := by
  unfold pot escrow?
  rw [h]

theorem pot_of_insert (free : r.escrow? key = none)
    (put : r'.escrows = r.escrows.insert key escrow) (hash : Hash) :
    r'.pot hash = r.pot hash + if key = hash then escrow.nativePot.toNat else 0 := by
  unfold pot
  rw [escrow?_of_insert put]
  by_cases heq : key = hash
  · subst heq
    rw [if_pos rfl, if_pos rfl, free]
    exact (Nat.zero_add _).symm
  · rw [if_neg heq, if_neg heq, Nat.add_zero]

theorem pot_of_erase (live : r.escrow? key = some escrow)
    (removed : r'.escrows = r.escrows.erase key) (hash : Hash) :
    r'.pot hash + (if key = hash then escrow.nativePot.toNat else 0) = r.pot hash := by
  unfold pot
  rw [escrow?_of_erase removed]
  by_cases heq : key = hash
  · subst heq
    rw [if_pos rfl, if_pos rfl, live]
    exact Nat.zero_add _
  · rw [if_neg heq, if_neg heq, Nat.add_zero]

end Registry

variable {D : Set Derivation} {env : Env} {s : State} {hash : Hash}

theorem Registry.escrowAddress_eq_iff {r : Registry} (hD : D.InjOn Derivation.address)
    {hash hash' : Hash} (hmem : .escrow r.programId hash ∈ D)
    (hmem' : .escrow r.programId hash' ∈ D) :
    r.escrowAddress hash' = r.escrowAddress hash ↔ hash' = hash := by
  constructor
  · intro heq
    have hsame := hD hmem' hmem heq
    injection hsame
  · rintro rfl
    rfl

/-! ## The two parts of a pot -/

theorem Amount.toNat_max (a b : UInt64) : (max a b).toNat = max a.toNat b.toNat := by
  show (if a ≤ b then b else a).toNat = max a.toNat b.toNat
  split
  case isTrue hle => exact (Nat.max_eq_right (UInt64.le_iff_toNat_le.1 hle)).symm
  case isFalse hlt =>
    rw [UInt64.le_iff_toNat_le] at hlt
    omega

theorem Amount.max_zero (a : UInt64) : max a 0 = a := by
  refine UInt64.toNat_inj.1 ?_
  rw [toNat_max]
  exact Nat.max_eq_left (Nat.zero_le _)

namespace Escrow

variable (escrow : Escrow)

theorem securityDeposit_le_nativePot : escrow.securityDeposit ≤ escrow.nativePot := by
  unfold nativePot
  rw [UInt64.le_iff_toNat_le, Amount.toNat_max]
  exact Nat.le_max_left ..

theorem claimerBounty_le_nativePot : escrow.claimerBounty ≤ escrow.nativePot := by
  unfold nativePot
  rw [UInt64.le_iff_toNat_le, Amount.toNat_max]
  exact Nat.le_max_right ..

theorem compensation_le_nativePot (auth : RefundAuth) :
    auth.compensation escrow ≤ escrow.nativePot := by
  cases auth with
  | cooperative => exact UInt64.zero_le
  | timeout => exact escrow.securityDeposit_le_nativePot

end Escrow

/-! ## Requests -/

theorem LockRequest.pot_commit {req : LockRequest} {plan : LockPlan}
    (hplan : req.plan env s = .ok plan) (hash : Hash) :
    (req.commit plan s.registry).pot hash =
      s.registry.pot hash + if req.terms.hash = hash then plan.escrow.nativePot.toNat else 0 := by
  have hput := req.escrows_commit plan s.registry
  obtain ⟨_, _, hterms, -, -, rfl⟩ := plan_eq_ok_iff.1 hplan
  exact Registry.pot_of_insert (checkTerms_eq_ok_iff.1 hterms).2.2.1 hput hash

theorem ClaimPlan.pot_commit {req : ClaimRequest} {plan : ClaimPlan}
    (hplan : req.plan env s = .ok plan) (hash : Hash) :
    (plan.commit req.hash s.registry).pot hash +
        (if req.hash = hash then plan.escrow.nativePot.toNat else 0) = s.registry.pot hash := by
  have hremoved := plan.escrows_commit req.hash s.registry
  obtain ⟨_, _, _, _, _, -, hlive, -, -, -, -, -, rfl⟩ := ClaimRequest.plan_eq_ok_iff.1 hplan
  exact Registry.pot_of_erase hlive hremoved hash

theorem RefundPlan.pot_commit {req : RefundRequest} {plan : RefundPlan}
    (hplan : req.plan env s = .ok plan) (hash : Hash) :
    (plan.commit req.hash s.registry).pot hash +
        (if req.hash = hash then plan.escrow.nativePot.toNat else 0) = s.registry.pot hash := by
  have hremoved := plan.escrows_commit req.hash s.registry
  obtain ⟨_, _, _, -, hlive, -, -, -, -, -, -, rfl⟩ := RefundRequest.plan_eq_ok_iff.1 hplan
  exact Registry.pot_of_erase hlive hremoved hash

/-- A lock charges its claimer and fills the pot of its escrow. -/
theorem LockRequest.potFlow {req : LockRequest} {plan : LockPlan}
    (hplan : req.plan env s = .ok plan) (address : Pubkey) :
    plan.batch.nativesFrom address = (Request.lock req).charged address ∧
      plan.batch.nativesTo address =
        (if s.registry.escrowAddress req.terms.hash = address then req.funding.pot.toNat
          else 0) ∧
      plan.escrow.nativePot = req.funding.pot := by
  obtain ⟨account, funding, hterms, -, hfunding, rfl⟩ := plan_eq_ok_iff.1 hplan
  rw [(checkTerms_eq_ok_iff.1 hterms).2.1]
  rcases checkFunding_eq_ok_iff.1 hfunding with
    ⟨source, _, hsource, -, -, -, -, rfl⟩ | ⟨deposit, bounty, _, hinternal, -, -, -, rfl⟩
  · -- Nobody puts up a pot when tokens are paid in.
    simp only [Request.charged, FundingSource.pot, hsource, UInt64.toNat_zero, ite_self,
      Batch.nativesFrom_tokenTransfer, Batch.nativesFrom_openTokenAccount,
      Batch.nativesFrom_empty, Batch.nativesTo_tokenTransfer,
      Batch.nativesTo_openTokenAccount, Batch.nativesTo_empty, true_and]
    rfl
  · simp only [Request.charged, FundingSource.pot, hinternal, Batch.nativesFrom_nativeTransfer,
      Batch.nativesFrom_empty, Batch.nativesTo_nativeTransfer, Batch.nativesTo_empty,
      Nat.zero_add, true_and]
    rfl

/-- A claim pays the pot of its escrow out. -/
theorem ClaimRequest.potFlow {req : ClaimRequest} {plan : ClaimPlan}
    (hplan : req.plan env s = .ok plan) (address : Pubkey) :
    plan.batch.nativesFrom address =
        (if s.registry.escrowAddress req.hash = address then plan.escrow.nativePot.toNat else 0) ∧
      plan.batch.nativesTo address = (Request.claim req).paid s address := by
  obtain ⟨escrow, _, _, _, _, haddress, hlive, hfunder, -, -, -, -, rfl⟩ := plan_eq_ok_iff.1 hplan
  have hbounty : min escrow.claimerBounty escrow.nativePot = escrow.claimerBounty :=
    Std.LawfulOrderLeftLeaningMin.min_eq_left _ _ escrow.claimerBounty_le_nativePot
  -- The pot is the bounty and the rest of the deposit, so the two payments empty it.
  have hsplit := Amount.toNat_sub_add escrow.claimerBounty_le_nativePot
  simp only [Request.paid, hlive, batch, hbounty, hfunder, haddress]
  -- Tokens may be paid out before, but that moves no native funds.
  constructor
  · split <;>
      · simp only [Batch.nativesFrom_nativeTransfer, Batch.nativesFrom_tokenTransfer,
          Batch.nativesFrom_empty]
        split <;> omega
  · split <;>
      simp only [Batch.nativesTo_nativeTransfer, Batch.nativesTo_tokenTransfer,
        Batch.nativesTo_empty, Nat.zero_add]

theorem Escrow.kind_of_authorizeRefund {escrow : Escrow} {config : Config} {now : UInt64}
    {auth : RefundAuth} {preamble : Preamble} {kind : RefundKind}
    (h : escrow.authorizeRefund config now auth preamble = .ok kind) :
    RefundRequest.deposit escrow kind = auth.compensation escrow := by
  cases auth with
  | cooperative authExpiry =>
      obtain ⟨_, -, hkind⟩ := bind_eq_ok_iff.1 h
      cases hkind
      rfl
  | timeout =>
      obtain ⟨_, -, hkind⟩ := bind_eq_ok_iff.1 h
      cases hkind
      exact Std.LawfulOrderLeftLeaningMin.min_eq_left _ _ escrow.securityDeposit_le_nativePot

theorem RefundRequest.potFlow {req : RefundRequest} {plan : RefundPlan}
    (hplan : req.plan env s = .ok plan) (address : Pubkey) :
    plan.batch.nativesFrom address =
        (if s.registry.escrowAddress req.hash = address then plan.escrow.nativePot.toNat else 0) ∧
      plan.batch.nativesTo address = (Request.refund req).paid s address := by
  obtain ⟨escrow, _, _, haddress, hlive, -, -, -, -, -, hauth, rfl⟩ := plan_eq_ok_iff.1 hplan
  have hsplit := Amount.toNat_sub_add (escrow.compensation_le_nativePot req.auth)
  simp only [Request.paid, hlive, batch, Escrow.kind_of_authorizeRefund hauth, haddress]
  constructor
  · split <;>
      · simp only [Batch.nativesFrom_nativeTransfer, Batch.nativesFrom_tokenTransfer,
          Batch.nativesFrom_empty]
        split <;> omega
  · split <;>
      simp only [Batch.nativesTo_nativeTransfer, Batch.nativesTo_tokenTransfer,
        Batch.nativesTo_empty, Nat.zero_add]

/-- **What an accepted request moves at the address of an escrow** is what it changes of the pot,
what it pays there and what it charges to it. -/
theorem Request.nativeBalance_effect (hD : D.InjOn Derivation.address) {request : Request}
    {effect : Effect Reply} (heffect : request.effect env s = .ok effect) {ledger : Ledger}
    (hsteps : s.ledger.steps effect.batch.ops = .ok ledger)
    (hderived : ∀ d ∈ request.derivations s.registry.programId, d ∈ D)
    (hmem : .escrow s.registry.programId hash ∈ D) :
    (ledger.nativeBalance (s.registry.escrowAddress hash)).toNat + s.registry.pot hash +
        request.charged (s.registry.escrowAddress hash) =
      (s.ledger.nativeBalance (s.registry.escrowAddress hash)).toNat + effect.registry.pot hash +
        request.paid s (s.registry.escrowAddress hash) := by
  -- The change of the balance is what the batch pays into this address less what it takes from it;
  -- the rest is to say both of the request and of the pot.
  have hflow := Ledger.nativeBalance_steps hsteps (s.registry.escrowAddress hash)
  -- The addresses are hashes: that another swap's escrow is not at this address is what `D` is
  -- for.
  have hsame {key : Hash} (hkey : .escrow s.registry.programId key ∈ D) :
      s.registry.escrowAddress key = s.registry.escrowAddress hash ↔ key = hash :=
    Registry.escrowAddress_eq_iff hD hmem hkey
  -- Each case adds up what the batch moves and what becomes of the pot.
  cases admitted_of_effect heffect with
  | @lock req plan hplan =>
      -- A lock of this hash adds its pot to both sides. A lock of any other one may still charge
      -- the address, as its claimer.
      have hput := LockRequest.pot_commit hplan hash
      obtain ⟨hfrom, hto, hpot⟩ := LockRequest.potFlow hplan (s.registry.escrowAddress hash)
      have hown := hsame (hderived (.escrow _ req.terms.hash) (by simp [derivations]))
      simp only [hfrom, hto, hpot, hown, paid] at hflow hput ⊢
      omega
  | @claim req plan hplan =>
      -- The pot leaves the address with the escrow, whoever is paid by the two transfers.
      have hremoved := ClaimPlan.pot_commit hplan hash
      obtain ⟨hfrom, hto⟩ := ClaimRequest.potFlow hplan (s.registry.escrowAddress hash)
      have hown := hsame (hderived (.escrow _ req.hash) (by simp [derivations]))
      simp only [hfrom, hto, hown, charged] at hflow ⊢
      omega
  | @refund req plan hplan =>
      -- As in a claim: only the shares of the payees are others.
      have hremoved := RefundPlan.pot_commit hplan hash
      obtain ⟨hfrom, hto⟩ := RefundRequest.potFlow hplan (s.registry.escrowAddress hash)
      have hown := hsame (hderived (.escrow _ req.hash) (by simp [derivations]))
      simp only [hfrom, hto, hown, charged] at hflow ⊢
      omega
  | @deposit req plan hplan =>
      -- Deposits and withdrawals move tokens and leave the escrows alone.
      obtain ⟨_, balance, -, -, -, -, -, -, rfl⟩ := BalanceRequest.depositPlan_eq_ok_iff.1 hplan
      have hpot := Registry.pot_congr
        (s.registry.escrows_setBalance req.signer req.mint balance)
      simp only [Batch.nativesFrom_tokenTransfer, Batch.nativesFrom_openTokenAccount,
        Batch.nativesFrom_empty, Batch.nativesTo_tokenTransfer, Batch.nativesTo_openTokenAccount,
        Batch.nativesTo_empty] at hflow
      simp only [hpot, charged, paid]
      omega
  | @withdraw req plan hplan =>
      obtain ⟨account, _, -, -, -, -, -, rfl⟩ := BalanceRequest.withdrawPlan_eq_ok_iff.1 hplan
      have hpot := Registry.pot_congr (s.registry.escrows_changeUser req.signer req.mint
        ({ · with amount := account.amount - req.amount }))
      simp only [Batch.nativesFrom_tokenTransfer, Batch.nativesFrom_empty,
        Batch.nativesTo_tokenTransfer, Batch.nativesTo_empty] at hflow
      simp only [hpot, charged, paid]
      omega
  -- A buffer request has no batch, and the pot reads the escrows only.
  | openBuffer => exact congrArg (· + s.registry.pot hash) hflow
  | writeBuffer => exact congrArg (· + s.registry.pot hash) hflow
  | closeBuffer => exact congrArg (· + s.registry.pot hash) hflow

/-! ## Histories -/

namespace Engine

/-- The native funds that a step charges to a key: those of a lock, if it is accepted. -/
def charged (engine : Engine) (key : Pubkey) : Step → Nat
  | .request request =>
      match (engine.perform request).1 with
      | .ok _ => request.charged key
      | .error _ => 0
  | _ => 0

/-- The native funds that a step brings to a key: those of a settlement, if it is accepted, and
those of an airdrop. -/
def paid (engine : Engine) (key : Pubkey) : Step → Nat
  | .request request =>
      match (engine.perform request).1 with
      | .ok _ => request.paid engine.state key
      | .error _ => 0
  | .airdrop owner amount =>
      match (engine.airdrop owner amount).1 with
      | .ok _ => if owner = key then amount.toNat else 0
      | .error _ => 0
  | _ => 0

variable {engine : Engine} {step : Step} {steps : List Step} {address : Pubkey}

theorem charged_eq_zero (h : step.WithoutClaimer address) :
    engine.charged address step = 0 := by
  cases step with
  | request request =>
      have hnothing : request.charged address = 0 := by
        cases request with
        | lock req => exact if_neg h
        | _ => rfl
      simp only [charged, hnothing]
      split <;> rfl
  | _ => rfl

/-- **A step moves the balance of an escrow as it moves the pot**, but for what it brings there or
charges to it. -/
theorem nativeBalance_step (h : engine.Tame D (step :: steps))
    (hmem : .escrow engine.state.registry.programId hash ∈ D)
    (haddress : engine.state.registry.escrowAddress hash = address) :
    ((engine.step step).state.ledger.nativeBalance address).toNat +
        engine.state.registry.pot hash + engine.charged address step =
      (engine.state.ledger.nativeBalance address).toNat +
        (engine.step step).state.registry.pot hash + engine.paid address step := by
  subst haddress
  -- Outside the program native funds come from airdrops only.
  cases step with
  | request request =>
      -- A refused request leaves the engine as it was and counts neither as charge nor as payment.
      rcases engine.perform_cases request with ⟨e, hperform⟩ |
        ⟨effect, ledger, heffect, hsteps, hperform⟩
      · simp only [Engine.step, charged, paid, hperform]
      · simp only [Engine.step, charged, paid, hperform, state_accept]
        exact Request.nativeBalance_effect h.distinct heffect hsteps h.step_derived hmem
  | setTime now => rfl
  | advance seconds => rfl
  | createTokenAccount owner mint => rfl
  | mintTo source amount =>
      cases hmint : engine.state.ledger.mintTo source amount with
      | error e => simp only [Engine.step, mintTo, charged, paid, hmint]
      | ok ledger =>
          obtain ⟨_, _, _, _, rfl⟩ := Ledger.mintTo_eq_ok_iff.1 hmint
          simp only [Engine.step, mintTo, charged, paid, hmint, withLedger,
            Ledger.nativeBalance_setTokens]
  | airdrop owner amount =>
      cases hairdrop : engine.state.ledger.airdrop owner amount with
      | error e => simp only [Engine.step, airdrop, charged, paid, hairdrop]
      | ok ledger =>
          have hbalance := Ledger.nativeBalance_airdrop hairdrop
            (engine.state.registry.escrowAddress hash)
          simp only [Engine.step, airdrop, charged, paid, hairdrop, withLedger]
          omega
  | applyBatch batch => exact absurd rfl (h.step_ne_applyBatch batch)

/-- **What is at the address of an escrow** is its pot and what came in besides, less what locks
charged to the address, as much more as was there in the beginning. -/
theorem nativeBalance_run (h : engine.Tame D steps)
    (hmem : .escrow engine.state.registry.programId hash ∈ D)
    (haddress : engine.state.registry.escrowAddress hash = address) :
    ((engine.run steps).state.ledger.nativeBalance address).toNat +
        engine.state.registry.pot hash +
        sumOver (fun engine step => engine.charged address step) engine steps =
      (engine.state.ledger.nativeBalance address).toNat +
        (engine.run steps).state.registry.pot hash +
        sumOver (fun engine step => engine.paid address step) engine steps := by
  induction steps generalizing engine with
  | nil => rfl
  | cons step rest ih =>
      have hprogram := engine.programId_step step
      have hfirst := nativeBalance_step h hmem haddress
      have hlater := ih h.tail (hprogram ▸ hmem)
        ((Registry.escrowAddress_congr hprogram hash).trans haddress)
      rw [run_cons, sumOver, sumOver]
      omega

theorem sumOver_charged_eq_zero (h : ∀ step ∈ steps, step.WithoutClaimer address) :
    sumOver (fun engine step => engine.charged address step) engine steps = 0 := by
  refine sumOver_eq_zero_iff.2 fun before step after heq => charged_eq_zero (h step ?_)
  rw [heq]
  exact List.mem_append_right _ (List.mem_cons_self ..)

/-- **The pot of a live escrow is at its address**, after any history in which that address is
nobody's claimer. -/
theorem backed_run (h : engine.Tame D steps)
    (hclaimer : ∀ step ∈ steps,
      step.WithoutClaimer (engine.state.registry.escrowAddress hash))
    (hbacked : engine.state.Backed hash) : (engine.run steps).state.Backed hash := by
  intro escrow hlive
  have hmem := (h.wellFormed_run.escrow hlive).escrow_mem
  rw [programId_run] at hmem
  have hbalance := nativeBalance_run h hmem rfl
  -- Nothing was charged, so the balance can only be above the pot.
  rw [sumOver_charged_eq_zero hclaimer, Registry.pot_of_live hlive] at hbalance
  have hstart : engine.state.registry.pot hash ≤
      (engine.state.ledger.nativeBalance (engine.state.registry.escrowAddress hash)).toNat := by
    -- At the start the pot is none, or that of an escrow which was backed.
    cases hfirst : engine.state.registry.escrow? hash with
    | none =>
        unfold Registry.pot
        rw [hfirst]
        exact Nat.zero_le _
    | some first =>
        rw [Registry.pot_of_live hfirst]
        exact UInt64.le_iff_toNat_le.1 (hbacked first hfirst)
  rw [Registry.escrowAddress_congr (programId_run ..), UInt64.le_iff_toNat_le]
  omega

/-- **The pot.** After every history, what is at the address of a live escrow is its pot and what
settlements and airdrops brought there, less what locks charged to that address. So the pot is
whole iff no more was charged than came in, and above all if no lock named the address as its
claimer. -/
theorem pot_le_nativeBalance_iff (config : Config) (now : UInt64) (steps : List Step) (hash : Hash)
    (escrow : Escrow)
    (hdistinct : Set.InjOn Derivation.address {d | d ∈ derivations config.programId 0 steps})
    (hbatch : ∀ batch, .applyBatch batch ∉ steps) :
    let start := Engine.new config now .empty
    let state := (start.run steps).state
    let address := (Derivation.escrow config.programId hash).address
    let pot := max escrow.securityDeposit escrow.claimerBounty
    let charged := sumOver (fun engine step => engine.charged address step) start steps
    let paid := sumOver (fun engine step => engine.paid address step) start steps
    state.registry.escrow? hash = some escrow →
      (state.ledger.nativeBalance address).toNat + charged = pot.toNat + paid ∧
        (pot ≤ state.ledger.nativeBalance address ↔ charged ≤ paid) ∧
        ((∀ step ∈ steps, step.WithoutClaimer address) →
          pot ≤ state.ledger.nativeBalance address) := by
  intro start state address pot charged paid hlive
  have htame : start.Tame {d | d ∈ derivations config.programId 0 steps} steps :=
    .new config now hdistinct hbatch fun _ hd => hd
  have hmem := (htame.wellFormed_run.escrow hlive).escrow_mem
  rw [programId_run] at hmem
  -- Over a whole run, from an empty ledger and with no pot at the start.
  have hbalance : (state.ledger.nativeBalance address).toNat + 0 + charged =
      0 + state.registry.pot hash + paid := nativeBalance_run htame hmem rfl
  rw [Registry.pot_of_live hlive, Nat.zero_add, Nat.add_zero] at hbalance
  have hpot : escrow.nativePot = pot := rfl
  rw [hpot] at hbalance
  refine ⟨hbalance, ?_, fun hclaimer => ?_⟩
  · rw [UInt64.le_iff_toNat_le]
    omega
  · have hnothing : charged = 0 := sumOver_charged_eq_zero hclaimer
    rw [UInt64.le_iff_toNat_le]
    omega

/-! ## A lock that the pot of another escrow pays for -/

/-- A token against a preimage, out of an internal balance. -/
def tokenTerms (hash : Hash) : Terms where
  kind := .htlc
  confirmations := 0
  nonce := 0
  hash
  payIn := false
  payOut := true
  amount := 1
  expiry := expiryThreshold
  sequence := 1

/-- The lock of a token with a deposit that a claimer puts up. -/
def lockWithDeposit (program owner mint claimer : Pubkey) (hash : Hash) (deposit : UInt64) :
    LockRequest where
  terms := tokenTerms hash
  offerer := owner
  claimer
  mint
  escrowAddress := (Derivation.escrow program hash).address
  funding := .internal (Derivation.userAccount program owner mint).address deposit 0
  claimerDestination := .token (Derivation.tokenAccount owner mint 1).address
  txoHash := .replicate 0
  authExpiry := 1

def escrowWithDeposit (owner mint claimer : Pubkey) (hash : Hash) (deposit : UInt64) : Escrow where
  terms := tokenTerms hash
  offerer := owner
  offererTokenAccount := none
  claimer
  claimerTokenAccount := some (Derivation.tokenAccount owner mint 1).address
  mint
  claimerBounty := 0
  securityDeposit := deposit

/-- An engine, at the beginning of time, in which an owner has so many tokens to lock. -/
structure CanLock (engine : Engine) (program owner mint : Pubkey) (tokens : Nat) : Prop where
  now : engine.now = 0
  programId : engine.state.registry.programId = program
  user : ∃ account, engine.state.registry.user? owner mint = some account ∧
    account.amount.toNat = tokens
  token : ∃ account, engine.state.ledger.tokenAccount?
    (Derivation.tokenAccount owner mint 1).address = some account ∧ account.mint = mint

namespace CanLock

variable {program owner mint : Pubkey} {tokens : Nat}

theorem early (h : CanLock engine program owner mint tokens) : engine.env.now < 1 := by
  show engine.now < 1
  rw [h.now]
  exact UInt64.zero_lt_one

theorem exists_amount (h : CanLock engine program owner mint (tokens + 1)) :
    ∃ account, engine.state.registry.user? owner mint = some account ∧ 1 ≤ account.amount ∧
      (account.amount - 1).toNat = tokens := by
  obtain ⟨account, huser, hamount⟩ := h.user
  have hone : (1 : UInt64) ≤ account.amount := by
    rw [UInt64.le_iff_toNat_le, hamount]
    exact Nat.le_add_left ..
  refine ⟨account, huser, hone, ?_⟩
  rw [UInt64.toNat_sub_of_le _ _ hone, hamount]
  exact Nat.add_sub_cancel ..

end CanLock

theorem plan_lockWithDeposit {program owner mint claimer : Pubkey} {deposit : UInt64}
    {tokens : Nat} (h : CanLock engine program owner mint (tokens + 1))
    (hfree : engine.state.registry.escrow? hash = none)
    (hcovered : deposit ≤ engine.state.ledger.nativeBalance claimer) :
    (lockWithDeposit program owner mint claimer hash deposit).plan engine.env engine.state =
      .ok ⟨escrowWithDeposit owner mint claimer hash deposit, Batch.empty.nativeTransfer claimer
        (Derivation.escrow program hash).address (max deposit 0)⟩ := by
  have hearly := h.early
  obtain ⟨account, huser, hone, -⟩ := h.exists_amount
  obtain ⟨-, rfl, -, ⟨target, htarget, hmint⟩⟩ := h
  have hmax : max deposit 0 ≤ engine.state.ledger.nativeBalance claimer := by
    rw [Amount.max_zero]
    exact hcovered
  exact LockRequest.plan_eq_ok_iff.2 ⟨_, ⟨none, deposit, 0, _⟩,
    LockRequest.checkTerms_eq_ok_iff.2 ⟨hearly, rfl, hfree, Nat.zero_le _, .inr rfl, rfl⟩,
    LockRequest.checkDestination_eq_ok_iff.2 (.inl ⟨rfl, _, _, rfl, htarget, hmint, rfl⟩),
    LockRequest.checkFunding_eq_ok_iff.2
      (.inr ⟨deposit, 0, account, rfl, huser, hone, hmax, rfl⟩), rfl⟩

/-- **Whoever is named as the claimer pays**: the lock goes through if there are the native funds,
and moves them to the address of the escrow. -/
theorem step_lockWithDeposit {program owner mint claimer : Pubkey} {deposit : UInt64} {tokens : Nat}
    (h : CanLock engine program owner mint (tokens + 1))
    (hfree : engine.state.registry.escrow? hash = none)
    (hcovered : deposit ≤ engine.state.ledger.nativeBalance claimer)
    (hroom : (engine.state.ledger.nativeBalance (Derivation.escrow program hash).address).toNat +
      deposit.toNat < UInt64.size) :
    let next := engine.step (.request (.lock
      (lockWithDeposit program owner mint claimer hash deposit)))
    CanLock next program owner mint tokens ∧
      (∀ key, next.state.registry.escrow? key =
        if hash = key then some (escrowWithDeposit owner mint claimer hash deposit)
        else engine.state.registry.escrow? key) ∧
      ∀ key, (next.state.ledger.nativeBalance key).toNat +
          (if claimer = key then deposit.toNat else 0) =
        (engine.state.ledger.nativeBalance key).toNat +
          if (Derivation.escrow program hash).address = key then deposit.toNat else 0 := by
  intro next
  let req := lockWithDeposit program owner mint claimer hash deposit
  let plan : LockPlan := ⟨escrowWithDeposit owner mint claimer hash deposit,
    Batch.empty.nativeTransfer claimer (Derivation.escrow program hash).address (max deposit 0)⟩
  have hplan : req.plan engine.env engine.state = .ok plan :=
    plan_lockWithDeposit h hfree hcovered
  -- The one transfer of the batch is dropped if the deposit is zero.
  obtain ⟨ledger, hsteps⟩ : ∃ ledger, engine.state.ledger.steps plan.batch.ops = .ok ledger := by
    rw [Ledger.steps_nativeTransfer rfl, Amount.max_zero]
    split
    · exact ⟨_, rfl⟩
    · exact Ledger.exists_moveNative hcovered (.inr hroom)
  have hstate : next.state = ⟨req.commit plan engine.state.registry, ledger⟩ :=
    (perform_of_effect (Request.effect_of_admitted (.lock hplan)) hsteps).2
  obtain ⟨account, huser, -, hleft⟩ := h.exists_amount
  refine ⟨⟨(now_step ..).trans h.now, (engine.programId_step _).trans h.programId, ?_, ?_⟩,
    fun key => ?_, fun key => ?_⟩
  · -- The lock is paid for by the internal balance.
    refine ⟨{ account with amount := account.amount - 1 }, ?_, hleft⟩
    rw [hstate]
    exact Registry.user?_changeUser _ owner mint
      (fun account => { account with amount := account.amount - 1 }) huser
  · rw [hstate]
    exact Ledger.exists_tokenAccount?_steps hsteps h.token
  · rw [hstate]
    exact Registry.escrow?_of_insert (req.escrows_commit plan _) key
  · rw [hstate]
    have hbalance := Ledger.nativeBalance_steps hsteps key
    simpa only [plan, Amount.max_zero, Batch.nativesFrom_nativeTransfer,
      Batch.nativesTo_nativeTransfer, Batch.nativesFrom_empty, Batch.nativesTo_empty,
      Nat.zero_add] using hbalance

theorem step_airdrop {owner : Pubkey} {amount : UInt64} {ledger : Ledger}
    (h : engine.state.ledger.airdrop owner amount = .ok ledger) :
    engine.step (.airdrop owner amount) = engine.withLedger ledger := by
  simp only [Engine.step, airdrop, h]

/-- An owner deposits two tokens and gets five native funds. -/
def fundedOwner (program owner mint : Pubkey) : List Step :=
  fundedDeposit program owner mint 2 ++ [.airdrop owner 5]

theorem run_fundedOwner (config : Config) (owner mint : Pubkey)
    (hne : (Derivation.tokenAccount owner mint 1).address ≠
      (Derivation.vault config.programId mint).address) :
    let engine := (Engine.new config 0 .empty).run (fundedOwner config.programId owner mint)
    CanLock engine config.programId owner mint 2 ∧
      (∀ hash, engine.state.registry.escrow? hash = none) ∧
      ∀ key, (engine.state.ledger.nativeBalance key).toNat = if owner = key then 5 else 0 := by
  unfold fundedOwner
  rw [run_append]
  have hnow : ((Engine.new config 0 .empty).run
      (fundedDeposit config.programId owner mint 2)).now = 0 := now_run ..
  have hprogram : ((Engine.new config 0 .empty).run
      (fundedDeposit config.programId owner mint 2)).state.registry.programId =
        config.programId := programId_run ..
  obtain ⟨⟨account, huser, hamount⟩, -, htoken, hfree, hnone⟩ :=
    run_fundedDeposit config 0 owner mint 2 hne
  -- What matters of the deposit is what it leaves.
  generalize (Engine.new config 0 .empty).run
    (fundedDeposit config.programId owner mint 2) = engine at *
  have hairdrop : engine.state.ledger.airdrop owner 5 =
      .ok (engine.state.ledger.putNative owner 5) :=
    Ledger.airdrop_eq_ok_iff.2 ⟨5, by rw [hnone]; rfl, rfl⟩
  rw [step_airdrop hairdrop]
  refine ⟨⟨hnow, hprogram, ⟨account, huser, congrArg UInt64.toNat hamount⟩, htoken⟩, hfree,
    fun key => ?_⟩
  show ((engine.state.ledger.putNative owner 5).nativeBalance key).toNat = _
  rw [Ledger.nativeBalance_putNative, hnone]
  split <;> rfl

/-- The history of an escrow with a pot: the owner locks a token and puts up all native funds. -/
def depositedPot (program owner mint : Pubkey) (hash : Hash) : List Step :=
  fundedOwner program owner mint ++
    [.request (.lock (lockWithDeposit program owner mint owner hash 5))]

/-- The escrow is live, and the five native funds are at its address. -/
theorem run_depositedPot (config : Config) (owner mint : Pubkey) (hash : Hash)
    (hne : (Derivation.tokenAccount owner mint 1).address ≠
      (Derivation.vault config.programId mint).address)
    (howner : owner ≠ (Derivation.escrow config.programId hash).address) :
    let engine := (Engine.new config 0 .empty).run (depositedPot config.programId owner mint hash)
    CanLock engine config.programId owner mint 1 ∧
      (∀ key, engine.state.registry.escrow? key =
        if hash = key then some (escrowWithDeposit owner mint owner hash 5) else none) ∧
      ∀ key, (engine.state.ledger.nativeBalance key).toNat =
        if (Derivation.escrow config.programId hash).address = key then 5 else 0 := by
  unfold depositedPot
  rw [run_append]
  obtain ⟨hready, hfree, hnatives⟩ := run_fundedOwner config owner mint hne
  generalize (Engine.new config 0 .empty).run
    (fundedOwner config.programId owner mint) = engine at *
  have hcovered : 5 ≤ engine.state.ledger.nativeBalance owner := by
    rw [UInt64.le_iff_toNat_le, hnatives, if_pos rfl]
    exact Nat.le_refl _
  have hroom : (engine.state.ledger.nativeBalance
      (Derivation.escrow config.programId hash).address).toNat + (5 : UInt64).toNat <
        UInt64.size := by
    rw [hnatives, if_neg howner]
    decide
  obtain ⟨hlocked, hescrows, hmoved⟩ := step_lockWithDeposit hready (hfree hash) hcovered hroom
  refine ⟨hlocked, fun key => ?_, fun key => ?_⟩
  · rw [hescrows, hfree]
  · have hkey := hmoved key
    rw [hnatives] at hkey
    exact Nat.add_right_cancel (hkey.trans (Nat.add_comm ..))

def potAddress : Pubkey :=
  ⟨⟨bigEndian 32 0xe272c623850df8591cf5a5e407b51aa6931959b0d795f3daaf8ebfc3f8005af3,
    length_bigEndian ..⟩⟩

theorem address_pot :
    (Derivation.escrow Config.standard.programId (.replicate 3)).address = potAddress := by
  decide +kernel

/-- The accounts of two escrows of which the second one charges the first. -/
def potDerivations : List Derivation :=
  .escrow Config.standard.programId (.replicate 3) ::
    .escrow Config.standard.programId (.replicate 4) ::
    .userAccount Config.standard.programId potAddress someMint :: someDerivations

theorem nodup_potDerivations : (potDerivations.map Derivation.address).Nodup := by
  decide +kernel

theorem someOwner_ne_potAddress :
    someOwner ≠ (Derivation.escrow Config.standard.programId (.replicate 3)).address := by
  rw [address_pot]
  decide

/-- A pot that was put up by its claimer is whole. -/
theorem pot_le_nativeBalance_of_depositedPot :
    let state := ((Engine.new .standard 0 .empty).run
      (depositedPot Config.standard.programId someOwner someMint (.replicate 3))).state
    ∃ escrow, state.registry.escrow? (.replicate 3) = some escrow ∧ escrow.securityDeposit = 5 ∧
      max escrow.securityDeposit escrow.claimerBounty ≤ state.ledger.nativeBalance
        (Derivation.escrow Config.standard.programId (.replicate 3)).address := by
  obtain ⟨-, hescrows, -⟩ := run_depositedPot .standard someOwner someMint (.replicate 3)
    someAccount_ne_vault someOwner_ne_potAddress
  have hlive := (hescrows (.replicate 3)).trans (if_pos rfl)
  have hpot := pot_le_nativeBalance_iff .standard 0
    (depositedPot Config.standard.programId someOwner someMint (.replicate 3)) (.replicate 3)
    (escrowWithDeposit someOwner someMint someOwner (.replicate 3) 5)
    (injOn_of_nodup nodup_potDerivations (by
      simp [depositedPot, fundedOwner, fundedDeposit, lockWithDeposit, tokenTerms, derivations,
        Step.derivations, Request.derivations, potDerivations, someDerivations]))
    (by simp [depositedPot, fundedOwner, fundedDeposit]) hlive
  refine ⟨_, hlive, rfl, hpot.2.2 ?_⟩
  simp [depositedPot, fundedOwner, fundedDeposit, lockWithDeposit, Step.WithoutClaimer,
    someOwner_ne_potAddress]

/-- The owner locks the other token, and names the address of the escrow as the claimer. -/
def chargedPot (program owner mint : Pubkey) (hash hash' : Hash) : List Step :=
  depositedPot program owner mint hash ++ [.request (.lock
    (lockWithDeposit program owner mint (Derivation.escrow program hash).address hash' 5))]

/-- A pot that a lock was charged to is gone: the escrow is live, and at its address there is
nothing. -/
theorem nativeBalance_lt_pot_of_chargedPot :
    let program := Config.standard.programId
    let steps := chargedPot program someOwner someMint (.replicate 3) (.replicate 4)
    let state := ((Engine.new .standard 0 .empty).run steps).state
    Set.InjOn Derivation.address {d | d ∈ derivations program 0 steps} ∧
      (∀ batch, .applyBatch batch ∉ steps) ∧
      ∃ escrow, state.registry.escrow? (.replicate 3) = some escrow ∧
        state.ledger.nativeBalance (Derivation.escrow program (.replicate 3)).address <
          max escrow.securityDeposit escrow.claimerBounty := by
  have hne : (Derivation.escrow Config.standard.programId (.replicate 4)).address ≠
      (Derivation.escrow Config.standard.programId (.replicate 3)).address := by
    -- Two hashes of the list have two addresses, and these hashes differ.
    intro heq
    have hsame := List.inj_on_of_nodup_map nodup_potDerivations (by simp [potDerivations])
      (by simp [potDerivations]) heq
    exact absurd hsame (by decide)
  refine ⟨injOn_of_nodup nodup_potDerivations ?_, ?_, ?_⟩
  · simp [chargedPot, depositedPot, fundedOwner, fundedDeposit, lockWithDeposit, tokenTerms,
      derivations, Step.derivations, Request.derivations, potDerivations, someDerivations,
      address_pot]
  · simp [chargedPot, depositedPot, fundedOwner, fundedDeposit]
  · unfold chargedPot
    rw [run_append]
    obtain ⟨hready, hescrows, hnatives⟩ := run_depositedPot .standard someOwner someMint
      (.replicate 3) someAccount_ne_vault someOwner_ne_potAddress
    generalize (Engine.new .standard 0 .empty).run
      (depositedPot Config.standard.programId someOwner someMint (.replicate 3)) = engine at *
    have hcovered : 5 ≤ engine.state.ledger.nativeBalance
        (Derivation.escrow Config.standard.programId (.replicate 3)).address := by
      rw [UInt64.le_iff_toNat_le, hnatives, if_pos rfl]
      exact Nat.le_refl _
    have hroom : (engine.state.ledger.nativeBalance
        (Derivation.escrow Config.standard.programId (.replicate 4)).address).toNat +
          (5 : UInt64).toNat < UInt64.size := by
      rw [hnatives, if_neg hne.symm]
      decide
    have hfree : engine.state.registry.escrow? (.replicate 4) = none := by
      rw [hescrows]
      decide
    obtain ⟨-, hlocked, hmoved⟩ := step_lockWithDeposit hready hfree hcovered hroom
    refine ⟨escrowWithDeposit someOwner someMint someOwner (.replicate 3) 5, ?_, ?_⟩
    · rw [hlocked, if_neg (by decide), hescrows, if_pos rfl]
    · -- The five native funds that the lock moves on are all there was.
      have hleft := hmoved (Derivation.escrow Config.standard.programId (.replicate 3)).address
      rw [if_pos rfl, if_neg hne, hnatives, if_pos rfl] at hleft
      have hnothing := Nat.add_right_cancel (hleft.trans (Nat.add_comm 5 0))
      rw [UInt64.lt_iff_toNat_lt, hnothing]
      decide

end Engine

end AtomicEscrow
