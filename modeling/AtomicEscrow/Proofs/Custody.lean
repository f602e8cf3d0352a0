import AtomicEscrow.Proofs.Debt
import Mathlib.Data.List.Nodup

set_option autoImplicit false

/-! # What the vault holds

Each request is looked at from both sides: what it does to the debt (`Registry.owed`), and what
its batch does to the vault. The two agree but for one thing. A withdrawal, or a claim that pays
out, may name the vault itself as the account to pay to: then the debt is settled and the tokens
stay where they are. `Engine.paidBack` counts these tokens, and the vault holds exactly what is
owed and what was paid back or minted into it (`Engine.vaultBalance_run`).
-/

namespace AtomicEscrow

variable {D : Set Derivation} {env : Env} {s : State}

/-! ## What requests do to the vault -/

/-- Nothing is signed by the authority of the vaults, an address that nobody has a key for. -/
def Step.WithoutAuthority (authority : Pubkey) : Step → Prop
  | request (.deposit req) => req.signer ≠ authority
  | request (.lock req) => req.terms.payIn = true → req.offerer ≠ authority
  | _ => True

/-- No live escrow was paid in by the authority of the vaults. -/
def State.WithoutAuthority (s : State) : Prop :=
  ∀ {hash : Hash} {escrow : Escrow}, s.registry.escrow? hash = some escrow →
    escrow.terms.payIn = true → escrow.offerer ≠ s.registry.vaultAuthority

/-- The tokens of a mint that a request pays out of the vault and into the vault again. -/
def Request.paidBack (s : State) (mint : Pubkey) : Request → Nat
  | withdraw req =>
      if req.mint = mint ∧ req.signerTokenAccount = s.registry.vaultAddress mint then
        req.amount.toNat
      else 0
  | claim req =>
      match s.registry.escrow? req.hash with
      | some escrow =>
          if escrow.mint = mint ∧
              escrow.claimerTokenAccount = some (s.registry.vaultAddress mint) then
            escrow.terms.amount.toNat
          else 0
      | none => 0
  | _ => 0

namespace State.WellFormed

variable {mint : Pubkey}

theorem vaultAddress_eq_iff (hD : D.InjOn Derivation.address)
    {mint' : Pubkey} (hmem : .vault s.registry.programId mint ∈ D)
    (hmem' : .vault s.registry.programId mint' ∈ D) :
    s.registry.vaultAddress mint' = s.registry.vaultAddress mint ↔ mint' = mint := by
  constructor
  · intro h
    have heq := hD hmem' hmem h
    injection heq
  · rintro rfl
    rfl

theorem ne_vaultAddress (hs : s.WellFormed D) (hD : D.InjOn Derivation.address)
    (hmem : .vault s.registry.programId mint ∈ D) {address : Pubkey} {holder : TokenAccount}
    (hholder : s.ledger.holder? address = some holder)
    (howner : holder.owner ≠ s.registry.vaultAuthority) :
    address ≠ s.registry.vaultAddress mint := by
  rintro rfl
  obtain ⟨account, haccount, rfl⟩ := Ledger.holder?_eq_some_iff.1 hholder
  exact howner (hs.vault hD hmem haccount).2

theorem mint_eq_of_eq_vaultAddress (hs : s.WellFormed D) (hD : D.InjOn Derivation.address)
    (hmem : .vault s.registry.programId mint ∈ D) {address : Pubkey} {account : TokenAccount}
    (haccount : s.ledger.tokenAccount? address = some account)
    (haddress : address = s.registry.vaultAddress mint) : account.mint = mint := by
  subst haddress
  exact (hs.vault hD hmem haccount).1

end State.WellFormed

/-- Into the vault goes what is paid in. Nothing goes out: the payer is not the vault. -/
theorem LockRequest.vaultFlow (hs : s.WellFormed D) (hD : D.InjOn Derivation.address)
    {req : LockRequest}
    (hauthority : req.terms.payIn = true → req.offerer ≠ s.registry.vaultAuthority)
    {plan : LockPlan} (hplan : req.plan env s = .ok plan)
    (hmem : ∀ d ∈ (Request.lock req).derivations s.registry.programId, d ∈ D) {mint : Pubkey}
    (hvault : .vault s.registry.programId mint ∈ D) :
    plan.batch.tokensFrom (s.registry.vaultAddress mint) = 0 ∧
      plan.batch.tokensTo (s.registry.vaultAddress mint) =
        if req.terms.payIn = true ∧ req.mint = mint then req.terms.amount.toNat else 0 := by
  obtain ⟨account, funding, hterms, -, hfunding, rfl⟩ := plan_eq_ok_iff.1 hplan
  have hkind := (checkTerms_eq_ok_iff.1 hterms).2.2.2.2.2
  rcases checkFunding_eq_ok_iff.1 hfunding with
    ⟨source, found, hsource, hfound, -, howner, -, rfl⟩ | ⟨_, _, _, hinternal, -, -, -, rfl⟩
  · have hpay : req.terms.payIn = true := by
      rw [hkind, hsource]
      rfl
    -- The source belongs to the offerer, a vault to the authority.
    have hother : source ≠ s.registry.vaultAddress mint :=
      hs.ne_vaultAddress hD hvault (Ledger.holder?_eq_some_iff.2 ⟨found, hfound, rfl⟩)
        (fun h => hauthority hpay (howner.symm.trans h))
    have hsame := State.WellFormed.vaultAddress_eq_iff hD hvault
      (hmem (.vault _ req.mint) (by simp [Request.derivations]))
    simp [hpay, hother, hsame]
  · have hpay : req.terms.payIn = false := by
      rw [hkind, hinternal]
      rfl
    -- Tokens out of an internal balance are in the vault already, and stay.
    simp [hpay]

/-- Out of the vault goes what is paid out, and perhaps back into it. -/
theorem ClaimRequest.vaultFlow (hs : s.WellFormed D) (hD : D.InjOn Derivation.address)
    {req : ClaimRequest} {plan : ClaimPlan} (hplan : req.plan env s = .ok plan) {mint : Pubkey}
    (hvault : .vault s.registry.programId mint ∈ D) :
    plan.batch.tokensFrom (s.registry.vaultAddress mint) =
        (if plan.escrow.terms.payOut = true ∧ plan.escrow.mint = mint then
          plan.escrow.terms.amount.toNat else 0) ∧
      plan.batch.tokensTo (s.registry.vaultAddress mint) =
        (Request.claim req).paidBack s mint := by
  obtain ⟨escrow, credited, _, _, _, -, hlive, -, hdestination, -, -, -, rfl⟩ :=
    plan_eq_ok_iff.1 hplan
  have hsame := State.WellFormed.vaultAddress_eq_iff hD hvault (hs.escrow hlive).vault_mem
  simp only [Request.paidBack, hlive, batch]
  rcases checkDestination_eq_ok_iff.1 hdestination with
    ⟨hpay, target, found, -, htarget, hfound, hmint, -⟩ | ⟨hpay, -⟩
  · have hback := hs.mint_eq_of_eq_vaultAddress hD hvault hfound
    simp only [hpay, htarget, Batch.tokensFrom_nativeTransfer, Batch.tokensTo_nativeTransfer,
      Batch.tokensFrom_tokenTransfer, Batch.tokensTo_tokenTransfer, Batch.tokensFrom_empty,
      Batch.tokensTo_empty, Nat.zero_add, hsame, true_and, Option.some.injEq]
    -- Paid to the vault itself the tokens come back to it, and the vault is that of their mint.
    by_cases heq : target = s.registry.vaultAddress mint
    · simp [heq, hmint.symm.trans (hback heq)]
    · simp [heq]
  · -- Tokens that are credited have no token account on record to go to.
    have hnone := ((hs.escrow hlive).credits hpay).1
    simp [hpay, hnone]

/-- Out of the vault goes what was paid in. It does not come back: the payee was the payer. -/
theorem RefundRequest.vaultFlow (hs : s.WellFormed D) (hD : D.InjOn Derivation.address)
    (hauthority : s.WithoutAuthority) {req : RefundRequest} {plan : RefundPlan}
    (hplan : req.plan env s = .ok plan) {mint : Pubkey}
    (hvault : .vault s.registry.programId mint ∈ D) :
    plan.batch.tokensFrom (s.registry.vaultAddress mint) =
        (if plan.escrow.terms.payIn = true ∧ plan.escrow.mint = mint then
          plan.escrow.terms.amount.toNat else 0) ∧
      plan.batch.tokensTo (s.registry.vaultAddress mint) = 0 := by
  obtain ⟨escrow, refunded, kind, -, hlive, -, -, -, -, -, -, rfl⟩ := plan_eq_ok_iff.1 hplan
  have hescrow := hs.escrow hlive
  have hsame := State.WellFormed.vaultAddress_eq_iff hD hvault hescrow.vault_mem
  simp only [batch]
  cases hpay : escrow.terms.payIn with
  | true =>
      obtain ⟨source, holder, hsource, hholder, -, howner⟩ := hescrow.paidIn hpay
      have hother : source ≠ s.registry.vaultAddress mint :=
        hs.ne_vaultAddress hD hvault hholder (howner ▸ hauthority hlive hpay)
      simp [hsource, hother, hsame]
  | false => simp

theorem BalanceRequest.vaultFlow_deposit (hs : s.WellFormed D) (hD : D.InjOn Derivation.address)
    {req : BalanceRequest} (hauthority : req.signer ≠ s.registry.vaultAuthority)
    {plan : BalancePlan} (hplan : req.depositPlan s = .ok plan)
    (hmem : ∀ d ∈ (Request.deposit req).derivations s.registry.programId, d ∈ D) {mint : Pubkey}
    (hvault : .vault s.registry.programId mint ∈ D) :
    plan.batch.tokensFrom (s.registry.vaultAddress mint) = 0 ∧
      plan.batch.tokensTo (s.registry.vaultAddress mint) =
        if req.mint = mint then req.amount.toNat else 0 := by
  obtain ⟨source, balance, -, hsource, -, howner, -, -, rfl⟩ := depositPlan_eq_ok_iff.1 hplan
  have hother : req.signerTokenAccount ≠ s.registry.vaultAddress mint :=
    hs.ne_vaultAddress hD hvault (Ledger.holder?_eq_some_iff.2 ⟨source, hsource, rfl⟩)
      (fun h => hauthority (howner.symm.trans h))
  have hsame := State.WellFormed.vaultAddress_eq_iff hD hvault
    (hmem (.vault _ req.mint) (by simp [Request.derivations]))
  simp [hother, hsame]

theorem BalanceRequest.vaultFlow_withdraw (hs : s.WellFormed D) (hD : D.InjOn Derivation.address)
    {req : BalanceRequest} {plan : BalancePlan} (hplan : req.withdrawPlan s = .ok plan)
    (hmem : ∀ d ∈ (Request.withdraw req).derivations s.registry.programId, d ∈ D) {mint : Pubkey}
    (hvault : .vault s.registry.programId mint ∈ D) :
    plan.batch.tokensFrom (s.registry.vaultAddress mint) =
        (if req.mint = mint then req.amount.toNat else 0) ∧
      plan.batch.tokensTo (s.registry.vaultAddress mint) =
        (Request.withdraw req).paidBack s mint := by
  obtain ⟨account, target, -, -, -, htarget, hmint, rfl⟩ := withdrawPlan_eq_ok_iff.1 hplan
  have hback := hs.mint_eq_of_eq_vaultAddress hD hvault htarget
  have hsame := State.WellFormed.vaultAddress_eq_iff hD hvault
    (hmem (.vault _ req.mint) (by simp [Request.derivations]))
  simp only [Request.paidBack, Batch.tokensFrom_tokenTransfer, Batch.tokensTo_tokenTransfer,
    Batch.tokensFrom_empty, Batch.tokensTo_empty, Nat.zero_add, hsame, true_and]
  by_cases heq : req.signerTokenAccount = s.registry.vaultAddress mint
  · simp [heq, hmint.symm.trans (hback heq)]
  · simp [heq]

/-- **What a request moves in the vault is what it changes of the debt**, and what it pays back. -/
theorem Request.vaultBalance_effect (hs : s.WellFormed D) (hD : D.InjOn Derivation.address)
    (hauthority : s.WithoutAuthority) {request : Request}
    (hstep : (Step.request request).WithoutAuthority s.registry.vaultAuthority)
    {effect : Effect Reply} (heffect : request.effect env s = .ok effect) {ledger : Ledger}
    (hsteps : s.ledger.steps effect.batch.ops = .ok ledger)
    (hmem : ∀ d ∈ request.derivations s.registry.programId, d ∈ D) {mint : Pubkey}
    (hvault : .vault s.registry.programId mint ∈ D) :
    (ledger.tokenBalance (s.registry.vaultAddress mint)).toNat + s.registry.owed mint =
      (s.ledger.tokenBalance (s.registry.vaultAddress mint)).toNat + effect.registry.owed mint +
        request.paidBack s mint := by
  have hflow := Ledger.tokenBalance_steps hsteps (s.registry.vaultAddress mint)
  -- Each case adds up two equations: what the batch moves and what becomes of the debt.
  cases admitted_of_effect heffect with
  | lock hplan =>
      have howed := LockRequest.owed_commit hs.keyed hD hplan hmem mint
      obtain ⟨hfrom, hto⟩ := LockRequest.vaultFlow hs hD hstep hplan hmem hvault
      simp only [hfrom, hto, paidBack] at hflow ⊢
      omega
  | claim hplan =>
      have howed := ClaimPlan.owed_commit hs.keyed hD hplan mint
      obtain ⟨hfrom, hto⟩ := ClaimRequest.vaultFlow hs hD hplan hvault
      simp only [hfrom, hto] at hflow ⊢
      omega
  | refund hplan =>
      have howed := RefundPlan.owed_commit hs.keyed hD hplan mint
      obtain ⟨hfrom, hto⟩ := RefundRequest.vaultFlow hs hD hauthority hplan hvault
      simp only [hfrom, hto, paidBack] at hflow ⊢
      omega
  | deposit hplan =>
      have howed := BalanceRequest.owed_deposit hs.keyed hD hplan hmem mint
      obtain ⟨hfrom, hto⟩ := BalanceRequest.vaultFlow_deposit hs hD hstep hplan hmem hvault
      simp only [hfrom, hto, paidBack] at hflow ⊢
      omega
  | withdraw hplan =>
      have howed := BalanceRequest.owed_withdraw hs.keyed hD hplan hmem mint
      obtain ⟨hfrom, hto⟩ := BalanceRequest.vaultFlow_withdraw hs hD hplan hmem hvault
      simp only [hfrom, hto] at hflow ⊢
      omega
  -- Data buffers are neither funds nor debts.
  | openBuffer => exact congrArg (· + _) hflow
  | writeBuffer => exact congrArg (· + _) hflow
  | closeBuffer => exact congrArg (· + _) hflow

/-! ## Histories -/

namespace Engine

/-- The tokens of a mint that a step pays out of the vault and into the vault again. -/
def paidBack (engine : Engine) (mint : Pubkey) : Step → Nat
  | .request request =>
      match (engine.perform request).1 with
      | .ok _ => request.paidBack engine.state mint
      | .error _ => 0
  | _ => 0

/-- The tokens that a step mints into the vault of a mint. -/
def mintedToVault (engine : Engine) (mint : Pubkey) : Step → Nat
  | .mintTo address amount =>
      match (engine.mintTo address amount).1 with
      | .ok _ => if address = engine.state.registry.vaultAddress mint then amount.toNat else 0
      | .error _ => 0
  | _ => 0

/-- The sum over the steps of a history. -/
def sumOver (amount : Engine → Step → Nat) (engine : Engine) : List Step → Nat
  | [] => 0
  | step :: steps => amount engine step + sumOver amount (engine.step step) steps

variable {engine : Engine} {step : Step} {steps : List Step} {mint : Pubkey}

theorem sumOver_eq_zero_iff {amount : Engine → Step → Nat} :
    sumOver amount engine steps = 0 ↔
      ∀ before step after, steps = before ++ step :: after →
        amount (engine.run before) step = 0 := by
  induction steps generalizing engine with
  | nil => simp [sumOver]
  | cons first rest ih =>
      rw [sumOver, Nat.add_eq_zero_iff, ih]
      constructor
      · rintro ⟨hfirst, hrest⟩ before step after heq
        -- The step is the first one, or one of the rest.
        cases before with
        | nil =>
            cases heq
            exact hfirst
        | cons head before =>
            rw [List.cons_append, List.cons.injEq] at heq
            obtain ⟨rfl, rfl⟩ := heq
            exact hrest before step after rfl
      · intro h
        exact ⟨h [] first rest rfl, fun before step after heq =>
          h (first :: before) step after (by rw [heq]; rfl)⟩

theorem withoutAuthority_step (hstate : engine.state.WithoutAuthority)
    (hstep : step.WithoutAuthority engine.state.registry.vaultAuthority) :
    (engine.step step).state.WithoutAuthority := by
  intro hash escrow hlive hpay
  rw [Registry.vaultAuthority_congr (programId_step ..)]
  rcases engine.step_cases step with ⟨hsame, -⟩ |
    ⟨request, effect, ledger, rfl, heffect, -, hsame, -⟩ | ⟨ledger, -, hsame, -⟩
  · rw [hsame] at hlive
    exact hstate hlive hpay
  · rw [hsame] at hlive
    rcases Request.escrow?_effect heffect hlive with hold | ⟨req, plan, rfl, hplan, rfl, -⟩
    · exact hstate hold hpay
    · obtain ⟨_, _, -, -, -, rfl⟩ := LockRequest.plan_eq_ok_iff.1 hplan
      exact hstep hpay
  · rw [hsame] at hlive
    exact hstate hlive hpay

/-- **A step moves the vault as it moves the debt**, but for what is paid back or minted into the
vault. -/
theorem vaultBalance_step (h : engine.Tame D (step :: steps))
    (hstate : engine.state.WithoutAuthority)
    (hstep : step.WithoutAuthority engine.state.registry.vaultAuthority)
    (hvault : .vault engine.state.registry.programId mint ∈ D) :
    ((engine.step step).state.vaultBalance mint).toNat + engine.state.registry.owed mint =
      (engine.state.vaultBalance mint).toNat + (engine.step step).state.registry.owed mint +
        (engine.paidBack mint step + engine.mintedToVault mint step) := by
  unfold State.vaultBalance
  rw [Registry.vaultAddress_congr (programId_step ..)]
  -- Outside the program only minting can reach the vault: a new account has another address.
  cases step with
  | request request =>
      rcases engine.perform_cases request with ⟨e, hperform⟩ |
        ⟨effect, ledger, heffect, hsteps, hperform⟩
      · simp only [Engine.step, paidBack, mintedToVault, hperform, Nat.add_zero]
      · simp only [Engine.step, paidBack, mintedToVault, hperform, state_accept]
        exact Request.vaultBalance_effect h.wellFormed h.distinct hstate hstep heffect hsteps
          h.step_derived hvault
  | setTime now => rfl
  | advance seconds => rfl
  | createTokenAccount owner mint' =>
      -- The new account has a number of its own, so its address is that of no vault.
      have hother : (Derivation.tokenAccount owner mint'
          (engine.state.ledger.created + 1)).address ≠
          engine.state.registry.vaultAddress mint := by
        intro heq
        have hsame := h.distinct (h.step_derived _ (by simp [Step.derivations])) hvault heq
        cases hsame
      show ((Ledger.createTokenAccount ..).2.tokenBalance _).toNat + _ = _
      rw [Ledger.tokenBalance_createTokenAccount, if_neg hother]
      rfl
  | mintTo address amount =>
      cases hmint : engine.state.ledger.mintTo address amount with
      | error e =>
          simp only [Engine.step, mintTo, paidBack, mintedToVault, hmint, Nat.add_zero]
      | ok ledger =>
          have hbalance := Ledger.tokenBalance_mintTo hmint
            (engine.state.registry.vaultAddress mint)
          simp only [Engine.step, mintTo, paidBack, mintedToVault, hmint, withLedger]
          omega
  | airdrop owner amount =>
      cases hairdrop : engine.state.ledger.airdrop owner amount with
      | error e =>
          simp only [Engine.step, airdrop, paidBack, mintedToVault, hairdrop, Nat.add_zero]
      | ok ledger =>
          simp only [Engine.step, airdrop, paidBack, mintedToVault, hairdrop, withLedger,
            Ledger.tokenBalance, Ledger.tokenAccount?_airdrop hairdrop, Nat.add_zero]
  | applyBatch batch => exact absurd rfl (h.step_ne_applyBatch batch)

/-- **The vault holds what is owed and what was paid back or minted into it**, as much more as it
held in the beginning. -/
theorem vaultBalance_run (h : engine.Tame D steps) (hstate : engine.state.WithoutAuthority)
    (hsteps : ∀ step ∈ steps, step.WithoutAuthority engine.state.registry.vaultAuthority)
    (hvault : .vault engine.state.registry.programId mint ∈ D) :
    ((engine.run steps).state.vaultBalance mint).toNat + engine.state.registry.owed mint =
      (engine.state.vaultBalance mint).toNat + (engine.run steps).state.registry.owed mint +
        sumOver (fun engine step => engine.paidBack mint step + engine.mintedToVault mint step)
          engine steps := by
  induction steps generalizing engine with
  | nil => rfl
  | cons step rest ih =>
      have hfirst := vaultBalance_step h hstate (hsteps step (List.mem_cons_self ..)) hvault
      have hprogram := engine.programId_step step
      have hauthority := Registry.vaultAuthority_congr hprogram
      have hlater := ih h.tail
        (withoutAuthority_step hstate (hsteps step (List.mem_cons_self ..)))
        (fun later hmem => hauthority ▸ hsteps later (List.mem_cons_of_mem _ hmem))
        (hprogram ▸ hvault)
      rw [run_cons, sumOver]
      omega

theorem sumOver_congr {amount amount' : Engine → Step → Nat}
    (h : ∀ before step after, steps = before ++ step :: after →
      amount (engine.run before) step = amount' (engine.run before) step) :
    sumOver amount engine steps = sumOver amount' engine steps := by
  induction steps generalizing engine with
  | nil => rfl
  | cons first rest ih =>
      rw [sumOver, sumOver, ih fun before step after heq =>
        h (first :: before) step after (by rw [heq]; rfl)]
      exact congrArg (· + _) (h [] first rest rfl)

/-- In every history that starts without records over an empty ledger, signs nothing with the
authority of the vaults and mints nothing into the vault, the vault of a mint holds the internal
balances, the tokens of the live escrows and what was paid back. -/
theorem vaultBalance_of_new (config : Config) (now : UInt64) (mint : Pubkey)
    (hdistinct : Set.InjOn Derivation.address
      {d | d ∈ .vault config.programId mint :: derivations config.programId 0 steps})
    (hbatch : ∀ batch, .applyBatch batch ∉ steps)
    (hmint : ∀ amount, .mintTo (Derivation.vault config.programId mint).address amount ∉ steps)
    (hauthority : ∀ step ∈ steps,
      step.WithoutAuthority (Derivation.vaultAuthority config.programId).address) :
    (((Engine.new config now .empty).run steps).state.vaultBalance mint).toNat =
      ((Engine.new config now .empty).run steps).state.registry.internalTotal mint +
        ((Engine.new config now .empty).run steps).state.registry.escrowedTotal mint +
        sumOver (fun engine step => engine.paidBack mint step) (Engine.new config now .empty)
          steps := by
  have htame : (Engine.new config now .empty).Tame {d | d ∈ .vault config.programId mint ::
      derivations config.programId 0 steps} steps :=
    .new config now hdistinct hbatch fun d hd => List.mem_cons_of_mem _ hd
  -- Without records there is neither a balance nor a debt to begin with.
  have hbooks : (((Engine.new config now .empty).run steps).state.vaultBalance mint).toNat + 0 =
      0 + ((Engine.new config now .empty).run steps).state.registry.owed mint + _ :=
    vaultBalance_run htame (fun hlive => by cases hlive) hauthority (List.mem_cons_self ..)
  -- Nothing is minted into the vault, so what was paid back is all there is to count.
  have hminted : sumOver (fun engine step =>
        engine.paidBack mint step + engine.mintedToVault mint step) (Engine.new config now .empty)
          steps =
      sumOver (fun engine step => engine.paidBack mint step) (Engine.new config now .empty)
          steps := by
    refine sumOver_congr fun before step after heq => ?_
    have hvault : ((Engine.new config now .empty).run before).state.registry.vaultAddress mint =
        (Derivation.vault config.programId mint).address :=
      Registry.vaultAddress_congr (programId_run ..) mint
    have hnone : ((Engine.new config now .empty).run before).mintedToVault mint step = 0 := by
      cases step with
      | mintTo address amount =>
          have hother : address ≠ (Derivation.vault config.programId mint).address := by
            rintro rfl
            exact hmint amount (by rw [heq]; simp)
          unfold mintedToVault
          simp only [hvault, if_neg hother]
          split <;> rfl
      | _ => rfl
    rw [hnone, Nat.add_zero]
  rw [hminted] at hbooks
  unfold Registry.owed at hbooks
  omega

/-- **Custody.** So the books balance iff no accepted withdrawal and no accepted claim paid
anything to the vault itself. -/
theorem vaultBalance_eq_owed_iff (config : Config) (now : UInt64) (steps : List Step)
    (mint : Pubkey)
    (hdistinct : Set.InjOn Derivation.address
      {d | d ∈ .vault config.programId mint :: derivations config.programId 0 steps})
    (hbatch : ∀ batch, .applyBatch batch ∉ steps)
    (hmint : ∀ amount, .mintTo (Derivation.vault config.programId mint).address amount ∉ steps)
    (hauthority : ∀ step ∈ steps,
      step.WithoutAuthority (Derivation.vaultAuthority config.programId).address) :
    let start := Engine.new config now .empty
    let state := (start.run steps).state
    (state.vaultBalance mint).toNat =
        state.registry.internalTotal mint + state.registry.escrowedTotal mint +
          sumOver (fun engine step => engine.paidBack mint step) start steps ∧
      ((state.vaultBalance mint).toNat =
          state.registry.internalTotal mint + state.registry.escrowedTotal mint ↔
        ∀ before step after, steps = before ++ step :: after →
          (start.run before).paidBack mint step = 0) := by
  intro start state
  have hsum : (state.vaultBalance mint).toNat =
      state.registry.internalTotal mint + state.registry.escrowedTotal mint +
        sumOver (fun engine step => engine.paidBack mint step) start steps :=
    vaultBalance_of_new config now mint hdistinct hbatch hmint hauthority
  have hnothing : sumOver (fun engine step => engine.paidBack mint step) start steps = 0 ↔
      ∀ before step after, steps = before ++ step :: after →
        (start.run before).paidBack mint step = 0 := sumOver_eq_zero_iff
  refine ⟨hsum, ?_⟩
  rw [hsum, ← hnothing]
  omega

/-! ## A withdrawal to the vault -/

/-- The history of a deposit: an owner opens a token account, gets some tokens and deposits
them. -/
def fundedDeposit (program owner mint : Pubkey) (amount : UInt64) : List Step :=
  let account := (Derivation.tokenAccount owner mint 1).address
  let user := (Derivation.userAccount program owner mint).address
  [.createTokenAccount owner mint, .mintTo account amount,
    .request (.deposit ⟨owner, mint, account, user, amount⟩)]

/-- The withdrawal that names the vault as the account to pay to. -/
def withdrawalToVault (program owner mint : Pubkey) (amount : UInt64) : Step :=
  let vault := (Derivation.vault program mint).address
  let user := (Derivation.userAccount program owner mint).address
  .request (.withdraw ⟨owner, mint, vault, user, amount⟩)

theorem step_mintTo {address : Pubkey} {amount : UInt64} {ledger : Ledger}
    (h : engine.state.ledger.mintTo address amount = .ok ledger) :
    engine.step (.mintTo address amount) = engine.withLedger ledger := by
  simp only [Engine.step, mintTo, h]

theorem state_deposit {registry : Registry} {ledger ledger' : Ledger}
    (hstate : engine.state = ⟨registry, ledger⟩) {owner mint source user : Pubkey}
    {account : TokenAccount} {amount balance : UInt64}
    (huser : registry.userAddress owner mint = user)
    (hsource : ledger.tokenAccount? source = some account) (hmint : account.mint = mint)
    (howner : account.owner = owner) (hle : amount ≤ account.amount)
    (hbalance : (registry.internalBalance owner mint).toNat + amount.toNat = balance.toNat)
    (hsteps : ledger.steps ((Batch.empty.openTokenAccount (registry.vaultAddress mint)
      registry.vaultAuthority mint).tokenTransfer source (registry.vaultAddress mint) mint
        amount).ops = .ok ledger') :
    (engine.step (.request (.deposit ⟨owner, mint, source, user, amount⟩))).state =
      ⟨registry.setBalance owner mint balance, ledger'⟩ := by
  have hplan : BalanceRequest.depositPlan ⟨owner, mint, source, user, amount⟩ engine.state =
      .ok ⟨balance, (Batch.empty.openTokenAccount (registry.vaultAddress mint)
        registry.vaultAuthority mint).tokenTransfer source (registry.vaultAddress mint) mint
          amount⟩ := by
    rw [hstate]
    exact BalanceRequest.depositPlan_eq_ok_iff.2 ⟨account, balance, huser, hsource, hmint, howner,
      hle, hbalance, rfl⟩
  have hledger : engine.state.ledger = ledger := congrArg State.ledger hstate
  rw [← hledger] at hsteps
  show (engine.perform _).2.state = _
  rw [perform_eq_of_effect (Request.effect_of_admitted (.deposit hplan)) hsteps, state_accept,
    hstate]

/-- The deposit goes through: the vault is full, the token account empty, and nothing else is
there. -/
theorem exists_run_fundedDeposit (config : Config) (now : UInt64) (owner mint : Pubkey)
    (amount : UInt64)
    (hne : (Derivation.tokenAccount owner mint 1).address ≠
      (Derivation.vault config.programId mint).address) :
    ∃ ledger, ((Engine.new config now .empty).run
        (fundedDeposit config.programId owner mint amount)).state =
          ⟨(Registry.empty config.programId).setBalance owner mint amount, ledger⟩ ∧
      (∀ address, ledger.tokenAccount? address =
        if (Derivation.vault config.programId mint).address = address then
          some ⟨(Derivation.vault config.programId mint).address,
            (Derivation.vaultAuthority config.programId).address, mint, amount⟩
        else if (Derivation.tokenAccount owner mint 1).address = address then
          some ⟨(Derivation.tokenAccount owner mint 1).address, owner, mint, 0⟩
        else none) ∧
      ∀ key, ledger.nativeBalance key = 0 := by
  obtain ⟨funded, ledger, hmint, hsource, hsteps, hafter⟩ :=
    Ledger.exists_firstDeposit .empty owner mint
      (Registry.empty config.programId).vaultAuthority amount
      (show _ = (Derivation.tokenAccount owner mint 1).address from rfl) rfl hne
  have hdeposit : (((Engine.new config now .empty).withLedger funded).step (.request (.deposit
      ⟨owner, mint, (Derivation.tokenAccount owner mint 1).address,
        (Derivation.userAccount config.programId owner mint).address, amount⟩))).state = _ :=
    state_deposit rfl rfl hsource rfl rfl (UInt64.le_refl _) (Nat.zero_add _) hsteps
  refine ⟨ledger, ?_, hafter, fun key => ?_⟩
  · unfold fundedDeposit
    rw [run_cons, run_cons, run_cons, run_nil, step_mintTo hmint]
    exact hdeposit
  · -- No operation of the batch is about native funds.
    have hbalance := Ledger.nativeBalance_steps hsteps key
    obtain ⟨_, _, _, _, rfl⟩ := Ledger.mintTo_eq_ok_iff.1 hmint
    simp only [Batch.nativesFrom_tokenTransfer, Batch.nativesFrom_openTokenAccount,
      Batch.nativesFrom_empty, Batch.nativesTo_tokenTransfer, Batch.nativesTo_openTokenAccount,
      Batch.nativesTo_empty, Ledger.nativeBalance_setTokens] at hbalance
    exact UInt64.toNat_inj.1 hbalance

/-- The deposit goes through, and is in the vault and in the balance of its owner. The token
account that it came from is left, and there are no escrows and no native funds. -/
theorem run_fundedDeposit (config : Config) (now : UInt64) (owner mint : Pubkey)
    (amount : UInt64)
    (hne : (Derivation.tokenAccount owner mint 1).address ≠
      (Derivation.vault config.programId mint).address) :
    let state := ((Engine.new config now .empty).run
      (fundedDeposit config.programId owner mint amount)).state
    (∃ account, state.registry.user? owner mint = some account ∧ account.amount = amount) ∧
      (∃ vault, state.ledger.tokenAccount? (Derivation.vault config.programId mint).address =
        some vault ∧ vault.mint = mint ∧ vault.amount = amount) ∧
      (∃ source, state.ledger.tokenAccount? (Derivation.tokenAccount owner mint 1).address =
        some source ∧ source.mint = mint) ∧
      (∀ hash, state.registry.escrow? hash = none) ∧
      ∀ key, state.ledger.nativeBalance key = 0 := by
  intro state
  obtain ⟨ledger, hstate, haccounts, hnatives⟩ :=
    exists_run_fundedDeposit config now owner mint amount hne
  have huser := (Registry.empty config.programId).users_setBalance owner mint amount
    ((Registry.empty config.programId).userAddress owner mint)
  rw [if_pos rfl] at huser
  rw [show state = _ from hstate]
  refine ⟨⟨_, huser, rfl⟩, ⟨_, (haccounts _).trans (if_pos rfl), rfl, rfl⟩, ?_, fun hash => rfl,
    hnatives⟩
  exact ⟨_, (haccounts _).trans ((if_neg hne.symm).trans (if_pos rfl)), rfl⟩

/-- The withdrawal goes through, and leaves in the vault what it takes out of the balance. -/
theorem paidBack_withdrawalToVault (config : Config) (now : UInt64) (owner mint : Pubkey)
    {amount returned : UInt64} (hle : returned ≤ amount)
    (hne : (Derivation.tokenAccount owner mint 1).address ≠
      (Derivation.vault config.programId mint).address) :
    ((Engine.new config now .empty).run (fundedDeposit config.programId owner mint
      amount)).paidBack mint (withdrawalToVault config.programId owner mint returned) =
        returned.toNat := by
  have hprogram : ((Engine.new config now .empty).run (fundedDeposit config.programId owner mint
      amount)).state.registry.programId = config.programId := programId_run ..
  obtain ⟨⟨account, haccount, hamount⟩, ⟨vault, hvault, hmint, hfilled⟩, -⟩ :=
    run_fundedDeposit config now owner mint amount hne
  -- What matters of the history is the account and the vault that it leaves.
  generalize (Engine.new config now .empty).run (fundedDeposit config.programId owner mint
    amount) = engine at hprogram haccount hvault ⊢
  have haddress : engine.state.registry.vaultAddress mint =
      (Derivation.vault config.programId mint).address :=
    Registry.vaultAddress_congr (r := .empty config.programId) hprogram mint
  have huser : engine.state.registry.userAddress owner mint =
      (Derivation.userAccount config.programId owner mint).address :=
    Registry.userAddress_congr (r := .empty config.programId) hprogram owner mint
  rw [← haddress] at hvault
  have hplan : BalanceRequest.withdrawPlan ⟨owner, mint,
      (Derivation.vault config.programId mint).address,
      (Derivation.userAccount config.programId owner mint).address, returned⟩ engine.state =
      .ok ⟨account.amount - returned, Batch.empty.tokenTransfer
        (engine.state.registry.vaultAddress mint) (Derivation.vault config.programId mint).address
        mint returned⟩ :=
    BalanceRequest.withdrawPlan_eq_ok_iff.2
      ⟨account, vault, huser, haccount, hamount ▸ hle, haddress ▸ hvault, hmint, rfl⟩
  -- From the vault to the vault: the payer is the payee, so nothing overflows.
  obtain ⟨ledger, hsteps⟩ : ∃ ledger, engine.state.ledger.steps (Batch.empty.tokenTransfer
      (engine.state.registry.vaultAddress mint) (Derivation.vault config.programId mint).address
      mint returned).ops = .ok ledger := by
    rw [Ledger.steps_tokenTransfer rfl, ← haddress]
    split
    · exact ⟨_, rfl⟩
    · exact Ledger.exists_moveTokens hvault hmint hvault hmint (hfilled ▸ hle) (.inl rfl)
  simp only [paidBack, withdrawalToVault, Request.paidBack, haddress, and_self, if_true,
    perform_eq_of_effect (Request.effect_of_admitted (.withdraw hplan)) hsteps]

def someOwner : Pubkey := ⟨.replicate 1⟩

def someMint : Pubkey := ⟨.replicate 2⟩

def someDerivations : List Derivation :=
  [.vault Config.standard.programId someMint, .tokenAccount someOwner someMint 1,
    .userAccount Config.standard.programId someOwner someMint]

theorem nodup_someDerivations : (someDerivations.map Derivation.address).Nodup := by
  decide +kernel

theorem someAccount_ne_vault : (Derivation.tokenAccount someOwner someMint 1).address ≠
    (Derivation.vault Config.standard.programId someMint).address := by
  intro heq
  have hsame := List.inj_on_of_nodup_map nodup_someDerivations
    (by simp [someDerivations]) (by simp [someDerivations]) heq
  cases hsame

theorem someOwner_ne_vaultAuthority :
    someOwner ≠ (Derivation.vaultAuthority Config.standard.programId).address := by
  decide +kernel

theorem injOn_of_nodup {l l' : List Derivation} (hnodup : (l.map Derivation.address).Nodup)
    (hsub : ∀ d ∈ l', d ∈ l) : Set.InjOn Derivation.address {d | d ∈ l'} :=
  fun _ hd _ hd' heq => List.inj_on_of_nodup_map hnodup (hsub _ hd) (hsub _ hd') heq

theorem vaultBalance_eq_owed_of_fundedDeposit :
    let state := ((Engine.new .standard 0 .empty).run
      (fundedDeposit Config.standard.programId someOwner someMint 5)).state
    (state.vaultBalance someMint).toNat =
      state.registry.internalTotal someMint + state.registry.escrowedTotal someMint := by
  intro state
  have hbooks := vaultBalance_eq_owed_iff .standard 0
    (fundedDeposit Config.standard.programId someOwner someMint 5) someMint
    (injOn_of_nodup nodup_someDerivations (by
      simp [fundedDeposit, derivations, Step.derivations, Request.derivations, someDerivations]))
    (by simp [fundedDeposit]) (by simp [fundedDeposit, someAccount_ne_vault.symm])
    (by simp [fundedDeposit, Step.WithoutAuthority, someOwner_ne_vaultAuthority])
  refine hbooks.2.2 fun before step after heq => ?_
  have hmem : step ∈ fundedDeposit Config.standard.programId someOwner someMint 5 := by
    rw [heq]
    simp
  simp only [fundedDeposit, List.mem_cons, List.not_mem_nil, or_false] at hmem
  -- A deposit is neither a withdrawal nor a claim, and the other steps are no requests.
  rcases hmem with rfl | rfl | rfl
  · rfl
  · rfl
  · simp only [paidBack, Request.paidBack]
    split <;> rfl

/-- The books do not balance any more after a withdrawal to the vault: of five tokens in the vault
three belong to nobody. -/
theorem vaultBalance_ne_owed_of_withdrawalToVault :
    let steps := fundedDeposit Config.standard.programId someOwner someMint 5 ++
      [withdrawalToVault Config.standard.programId someOwner someMint 3]
    let state := ((Engine.new .standard 0 .empty).run steps).state
    Set.InjOn Derivation.address {d | d ∈ .vault Config.standard.programId someMint ::
      derivations Config.standard.programId 0 steps} ∧
    (∀ batch, .applyBatch batch ∉ steps) ∧
    (∀ amount, .mintTo (Derivation.vault Config.standard.programId someMint).address amount ∉
      steps) ∧
    (∀ step ∈ steps,
      step.WithoutAuthority (Derivation.vaultAuthority Config.standard.programId).address) ∧
    (state.vaultBalance someMint).toNat ≠
      state.registry.internalTotal someMint + state.registry.escrowedTotal someMint := by
  intro steps state
  have hdistinct : Set.InjOn Derivation.address
      {d | d ∈ .vault Config.standard.programId someMint ::
        derivations Config.standard.programId 0 steps} :=
    injOn_of_nodup nodup_someDerivations (by
      simp [steps, fundedDeposit, withdrawalToVault, derivations, Step.derivations,
        Request.derivations, someDerivations])
  have hbatch : ∀ batch, .applyBatch batch ∉ steps := by
    simp [steps, fundedDeposit, withdrawalToVault]
  have hmint : ∀ amount, .mintTo (Derivation.vault Config.standard.programId someMint).address
      amount ∉ steps := by
    simp [steps, fundedDeposit, withdrawalToVault, someAccount_ne_vault.symm]
  have hauthority : ∀ step ∈ steps, step.WithoutAuthority
      (Derivation.vaultAuthority Config.standard.programId).address := by
    simp [steps, fundedDeposit, withdrawalToVault, Step.WithoutAuthority,
      someOwner_ne_vaultAuthority]
  refine ⟨hdistinct, hbatch, hmint, hauthority, fun hbalanced => ?_⟩
  have hsum := vaultBalance_of_new .standard 0 someMint hdistinct hbatch hmint hauthority
  -- Were the books balanced, then nothing would have been paid back.
  have hnothing : sumOver (fun engine step => engine.paidBack someMint step)
      (Engine.new .standard 0 .empty) steps = 0 :=
    Nat.left_eq_add.1 (hbalanced.symm.trans hsum)
  have hzero := sumOver_eq_zero_iff.1 hnothing
    (fundedDeposit Config.standard.programId someOwner someMint 5)
    (withdrawalToVault Config.standard.programId someOwner someMint 3) [] rfl
  have hle : (3 : UInt64) ≤ 5 := by decide
  have hback := paidBack_withdrawalToVault .standard 0 someOwner someMint hle someAccount_ne_vault
  have hthree : (3 : UInt64).toNat = 0 := hback.symm.trans hzero
  cases hthree

end Engine

end AtomicEscrow
