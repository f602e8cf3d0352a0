import AtomicEscrow.Proofs.Custody
import AtomicEscrow.Proofs.Fault
import AtomicEscrow.Proofs.Supply

set_option autoImplicit false

/-! # Solvency

The vault of a mint covers what is owed in that mint (`Engine.covered_run`): whatever is paid back
or minted into the vault only comes on top. This one inequality rules out what no check of a single
request could. What is owed fits in a word because the vault does. So the sums of a custody report
are exact, two amounts that are both owed fit together, and whoever withdraws a balance finds the
tokens (`Engine.solvency`).
-/

namespace AtomicEscrow

/-! ## Sums that are capped -/

/-- Words are added up to the largest word: once the sum is there it stays there. -/
theorem toNat_foldl_addCapped (amounts : List UInt64) (start : UInt64) :
    (amounts.foldl Amount.addCapped start).toNat =
      min (start.toNat + amounts.foldr (fun amount n => amount.toNat + n) 0)
        (UInt64.size - 1) := by
  induction amounts generalizing start with
  | nil =>
      have hlt := start.toNat_lt_size
      simp only [List.foldl_nil, List.foldr_nil]
      omega
  | cons first rest ih =>
      rw [List.foldl_cons, List.foldr_cons, ih, Amount.toNat_addCapped]
      omega

/-- A capped sum over the records that are kept. -/
theorem toNat_sumCapped_filter {κ ν : Type} (t : Table κ ν) (keep : ν → Bool)
    (amount : ν → UInt64) :
    (sumCapped ((t.values.filter keep).map amount)).toNat =
      min (t.total fun v => if keep v then (amount v).toNat else 0) (UInt64.size - 1) := by
  have hsum (vs : List ν) :
      ((vs.filter keep).map amount).foldr (fun amount n => amount.toNat + n) 0 =
        vs.foldr (fun v n => (if keep v then (amount v).toNat else 0) + n) 0 := by
    induction vs with
    | nil => rfl
    | cons v rest ih =>
        cases hkeep : keep v with
        | true => simp [hkeep, ih]
        | false => simp [hkeep, ih]
  unfold sumCapped Table.total
  rw [toNat_foldl_addCapped, hsum, UInt64.toNat_zero, Nat.zero_add]

namespace State

variable (s : State) (mint : Pubkey)

theorem toNat_custody_internalBalances :
    (s.custody mint).internalBalances.toNat =
      min (s.registry.internalTotal mint) (UInt64.size - 1) := by
  have hsum := toNat_sumCapped_filter s.registry.users (·.mint = mint) UserAccount.amount
  simpa [custody, Registry.internalTotal] using hsum

theorem toNat_custody_escrowed :
    (s.custody mint).escrowed.toNat =
      min (s.registry.escrowedTotal mint) (UInt64.size - 1) := by
  have hsum := toNat_sumCapped_filter s.registry.escrows (·.mint = mint) (·.terms.amount)
  simpa [custody, Registry.escrowedTotal] using hsum

end State

/-! ## What is owed -/

namespace Registry

variable {r : Registry} {hash : Hash} {escrow : Escrow}

theorem amount_le_escrowedTotal (hlive : r.escrow? hash = some escrow) :
    escrow.terms.amount.toNat ≤ r.escrowedTotal escrow.mint := by
  have hle := r.escrows.le_total hlive
    fun escrow' => if escrow'.mint = escrow.mint then escrow'.terms.amount.toNat else 0
  rw [if_pos rfl] at hle
  exact hle

theorem amount_le_internalTotal {owner mint : Pubkey} {account : UserAccount}
    (hfound : r.user? owner mint = some account) (hmint : account.mint = mint) :
    account.amount.toNat ≤ r.internalTotal mint := by
  have hle := r.users.le_total hfound
    fun account' => if account'.mint = mint then account'.amount.toNat else 0
  rw [if_pos hmint] at hle
  exact hle

end Registry

/-! ## A vault that covers what is owed -/

namespace State

variable {D : Set Derivation} {s : State} {mint : Pubkey}

/-- The sums of a custody report are not capped. -/
theorem custody_eq_of_covered (hcovered : s.registry.owed mint ≤ (s.vaultBalance mint).toNat) :
    (s.custody mint).internalBalances.toNat = s.registry.internalTotal mint ∧
      (s.custody mint).escrowed.toNat = s.registry.escrowedTotal mint := by
  have hlt := (s.vaultBalance mint).toNat_lt_size
  unfold Registry.owed at hcovered
  rw [s.toNat_custody_internalBalances, s.toNat_custody_escrowed]
  omega

theorem credit_fits (hs : s.registry.Keyed D) (hD : D.InjOn Derivation.address) {hash : Hash}
    {escrow : Escrow} (hlive : s.registry.escrow? hash = some escrow)
    (hcovered : s.registry.owed escrow.mint ≤ (s.vaultBalance escrow.mint).toNat)
    {owner : Pubkey} (hmem : .userAccount s.registry.programId owner escrow.mint ∈ D)
    {account : UserAccount} (hfound : s.registry.user? owner escrow.mint = some account) :
    account.amount.toNat + escrow.terms.amount.toNat < UInt64.size := by
  have hmint := (hs.user? hD hmem hfound).2
  calc account.amount.toNat + escrow.terms.amount.toNat
      ≤ s.registry.internalTotal escrow.mint + s.registry.escrowedTotal escrow.mint :=
        Nat.add_le_add (Registry.amount_le_internalTotal hfound hmint)
          (Registry.amount_le_escrowedTotal hlive)
    _ ≤ (s.vaultBalance escrow.mint).toNat := hcovered
    _ < UInt64.size := (s.vaultBalance escrow.mint).toNat_lt_size

namespace WellFormed

theorem balance_le_vault (hs : s.WellFormed D) (hD : D.InjOn Derivation.address)
    (hcovered : s.registry.owed mint ≤ (s.vaultBalance mint).toNat) {owner : Pubkey}
    (hmem : .userAccount s.registry.programId owner mint ∈ D) {account : UserAccount}
    (hfound : s.registry.user? owner mint = some account) :
    account.amount.toNat ≤ (s.vaultBalance mint).toNat := by
  have hmint := (hs.keyed.user? hD hmem hfound).2
  calc account.amount.toNat
      ≤ s.registry.internalTotal mint := Registry.amount_le_internalTotal hfound hmint
    _ ≤ s.registry.owed mint := Nat.le_add_right ..
    _ ≤ (s.vaultBalance mint).toNat := hcovered

/-- What the vault covers it pays out, to itself or to an account that it fits in. -/
theorem exists_steps_payout (hs : s.WellFormed D) (hD : D.InjOn Derivation.address)
    (hvault : .vault s.registry.programId mint ∈ D) {amount : UInt64}
    (hle : amount.toNat ≤ (s.vaultBalance mint).toNat) {target : Pubkey} {found : TokenAccount}
    (hfound : s.ledger.tokenAccount? target = some found) (hmint : found.mint = mint)
    (hfits : s.registry.vaultAddress mint = target ∨
      found.amount.toNat + amount.toNat < UInt64.size) :
    ∃ ledger, s.ledger.steps (Batch.empty.tokenTransfer (s.registry.vaultAddress mint) target mint
      amount).ops = .ok ledger := by
  rw [Ledger.steps_tokenTransfer rfl]
  rcases Ledger.exists_account_of_le_tokenBalance hle with hzero | ⟨vault, hfilled, hcovers⟩
  · rw [if_pos hzero]
    exact ⟨_, rfl⟩
  · have hvaultMint := (hs.vault hD hvault hfilled).1
    split
    · exact ⟨_, rfl⟩
    · exact Ledger.exists_moveTokens hfilled hvaultMint hfound hmint hcovers hfits

/-- To another account that it does not fit in, the ledger overflows. -/
theorem steps_payout_eq_overflow (hs : s.WellFormed D) (hD : D.InjOn Derivation.address)
    (hvault : .vault s.registry.programId mint ∈ D) {amount : UInt64}
    (hle : amount.toNat ≤ (s.vaultBalance mint).toNat) {target : Pubkey} {found : TokenAccount}
    (hfound : s.ledger.tokenAccount? target = some found) (hmint : found.mint = mint)
    (hne : s.registry.vaultAddress mint ≠ target)
    (hoverflow : UInt64.size ≤ found.amount.toNat + amount.toNat) :
    s.ledger.steps (Batch.empty.tokenTransfer (s.registry.vaultAddress mint) target mint
      amount).ops = .error .overflow := by
  -- Nothing always fits.
  have hsome : amount ≠ 0 := by
    rintro rfl
    have hlt := found.amount.toNat_lt_size
    rw [UInt64.toNat_zero] at hoverflow
    omega
  obtain ⟨vault, hfilled, hcovers⟩ :=
    (Ledger.exists_account_of_le_tokenBalance hle).resolve_left hsome
  have hvaultMint := (hs.vault hD hvault hfilled).1
  rw [Ledger.steps_tokenTransfer rfl, if_neg hsome]
  exact Ledger.moveTokens_eq_overflow hfilled hvaultMint hfound hmint hcovers hne hoverflow

end WellFormed

end State

/-! ## Histories -/

namespace Engine

variable {D : Set Derivation} {engine : Engine} {steps : List Step} {mint : Pubkey}

/-- **A history that starts without records leaves every vault covering what is owed.** What was
paid back or minted into the vault comes on top. -/
theorem covered_run (h : engine.Tame D steps)
    (hnew : engine.state.registry = .empty engine.state.registry.programId)
    (hauthority : ∀ step ∈ steps, step.WithoutAuthority engine.state.registry.vaultAuthority)
    (hvault : .vault engine.state.registry.programId mint ∈ D) :
    (engine.run steps).state.registry.owed mint ≤
      ((engine.run steps).state.vaultBalance mint).toNat := by
  have hnone (hash : Hash) : engine.state.registry.escrow? hash = none := by
    rw [hnew]
    rfl
  have howed : engine.state.registry.owed mint = 0 := by
    rw [hnew]
    rfl
  have hbooks := vaultBalance_run h
    (fun {hash escrow} hfirst => by rw [hnone] at hfirst; cases hfirst) hauthority hvault
  omega

/-- **The vault never stands in the way of a withdrawal.** What is withdrawn is paid, unless the
account that it goes to is another one and gets too much. -/
theorem perform_withdraw (hs : engine.state.WellFormed D) (hD : D.InjOn Derivation.address)
    {req : BalanceRequest} (hvault : .vault engine.state.registry.programId req.mint ∈ D)
    (huser : .userAccount engine.state.registry.programId req.signer req.mint ∈ D)
    (hcovered : engine.state.registry.owed req.mint ≤
      (engine.state.vaultBalance req.mint).toNat)
    (haddress : engine.state.registry.userAddress req.signer req.mint = req.userAccount)
    {account : UserAccount}
    (hfound : engine.state.registry.user? req.signer req.mint = some account)
    (hle : req.amount ≤ account.amount) {target : TokenAccount}
    (htarget : engine.state.ledger.tokenAccount? req.signerTokenAccount = some target)
    (hmint : target.mint = req.mint) :
    (engine.perform (.withdraw req)).1 =
      if engine.state.registry.vaultAddress req.mint ≠ req.signerTokenAccount ∧
          UInt64.size ≤ target.amount.toNat + req.amount.toNat then
        .error (.programFault "ledger balance overflow")
      else .ok (.balance (account.amount - req.amount)) := by
  -- The vault covers all balances, so it covers this one; the batch can fail at the payee only.
  have hpaid : req.amount.toNat ≤ (engine.state.vaultBalance req.mint).toNat :=
    Nat.le_trans (UInt64.le_iff_toNat_le.1 hle) (hs.balance_le_vault hD hcovered huser hfound)
  have heffect : (Request.withdraw req).effect engine.env engine.state = .ok _ :=
    Request.effect_of_admitted (.withdraw (BalanceRequest.withdrawPlan_eq_ok_iff.2
      ⟨account, target, haddress, hfound, hle, htarget, hmint, rfl⟩))
  split
  case isTrue hover =>
    rw [perform_eq_of_steps_error heffect
      (hs.steps_payout_eq_overflow hD hvault hpaid htarget hmint hover.1 hover.2)]
    rfl
  case isFalse hfits =>
    have hfits : engine.state.registry.vaultAddress req.mint = req.signerTokenAccount ∨
        target.amount.toNat + req.amount.toNat < UInt64.size := by
      rw [← Nat.not_le]
      exact (Decidable.not_and_iff_not_or_not.1 hfits).imp_left Decidable.not_not.1
    obtain ⟨ledger, hsteps⟩ := hs.exists_steps_payout hD hvault hpaid htarget hmint hfits
    rw [perform_eq_of_effect heffect hsteps]

theorem perform_withdraw_of_absent {req : BalanceRequest}
    (haddress : engine.state.registry.userAddress req.signer req.mint = req.userAccount)
    (habsent : engine.state.registry.user? req.signer req.mint = none) :
    (engine.perform (.withdraw req)).1 = .error .accountNotInitialized := by
  have hplan : req.withdrawPlan engine.state = .error .accountNotInitialized := by
    unfold Registry.user? at habsent
    rw [haddress] at habsent
    unfold BalanceRequest.withdrawPlan Registry.userAt Registry.checkUserAddress
    rw [haddress, habsent, if_neg fun hne => hne rfl]
    rfl
  have heffect : (Request.withdraw req).effect engine.env engine.state =
      .error .accountNotInitialized := by
    simp only [Request.effect, BalanceRequest.withdrawEffect, hplan]
    rfl
  rw [perform_eq_of_error heffect]

/-- **Solvency.** After every history in which the authority of the vaults signs nothing: the
vault of a mint covers the internal balances and the tokens of the live escrows, a custody report
gives both sums as they are, a withdrawal from an internal balance to an account of the mint fails
only if that account gets too much, and no settlement finds that its credit does not fit. -/
theorem solvency (config : Config) (now : UInt64) (steps : List Step) (D : Set Derivation)
    (hdistinct : D.InjOn Derivation.address)
    (hderived : ∀ d ∈ derivations config.programId 0 steps, d ∈ D)
    (hbatch : ∀ batch, .applyBatch batch ∉ steps)
    (hauthority : ∀ step ∈ steps,
      step.WithoutAuthority (Derivation.vaultAuthority config.programId).address) :
    let engine := (Engine.new config now .empty).run steps
    let state := engine.state
    (∀ mint, .vault config.programId mint ∈ D →
      state.registry.internalTotal mint + state.registry.escrowedTotal mint ≤
          (state.vaultBalance mint).toNat ∧
        (state.custody mint).internalBalances.toNat = state.registry.internalTotal mint ∧
        (state.custody mint).escrowed.toNat = state.registry.escrowedTotal mint) ∧
    (∀ req target, .vault config.programId req.mint ∈ D →
      .userAccount config.programId req.signer req.mint ∈ D →
      state.registry.userAddress req.signer req.mint = req.userAccount →
      req.amount ≤ state.registry.internalBalance req.signer req.mint →
      state.ledger.tokenAccount? req.signerTokenAccount = some target → target.mint = req.mint →
      (engine.perform (.withdraw req)).1 =
        match state.registry.user? req.signer req.mint with
        | none => .error .accountNotInitialized
        | some account =>
            if state.registry.vaultAddress req.mint ≠ req.signerTokenAccount ∧
                UInt64.size ≤ target.amount.toNat + req.amount.toNat then
              .error (.programFault "ledger balance overflow")
            else .ok (.balance (account.amount - req.amount))) ∧
    (∀ req, (engine.perform (.claim req)).1 ≠
      .error (.programFault "claimer balance overflow")) ∧
    ∀ req, (engine.perform (.refund req)).1 ≠
      .error (.programFault "offerer balance overflow") := by
  intro engine state
  -- Three facts about the end of the run carry everything below: the state is well formed, it
  -- knows its own program, and every vault covers what is owed.
  have htame : (Engine.new config now .empty).Tame D steps :=
    .new config now hdistinct hbatch hderived
  have hs : state.WellFormed D := htame.wellFormed_run
  have hprogram : state.registry.programId = config.programId := programId_run ..
  have hcovered {mint : Pubkey} (hvault : .vault config.programId mint ∈ D) :
      state.registry.owed mint ≤ (state.vaultBalance mint).toNat :=
    covered_run htame rfl hauthority hvault
  refine ⟨fun mint hvault => ?_, fun req target hvault huser haddress hle htarget hmint => ?_,
    fun req hfault => ?_, fun req hfault => ?_⟩
  · -- What fits into the vault's balance fits into a word, so neither sum has saturated.
    exact ⟨hcovered hvault, State.custody_eq_of_covered (hcovered hvault)⟩
  · -- An absent account has the balance zero, so a withdrawal of nothing gets here without one.
    cases hfound : state.registry.user? req.signer req.mint with
    | none => exact perform_withdraw_of_absent haddress hfound
    | some account =>
        have hbalance : state.registry.internalBalance req.signer req.mint = account.amount := by
          unfold Registry.internalBalance
          rw [hfound]
          rfl
        exact perform_withdraw hs hdistinct (hprogram ▸ hvault) (hprogram ▸ huser)
          (hcovered hvault) haddress hfound (hbalance ▸ hle) htarget hmint
  · -- The escrow and the claimer's account are both owed, so they fit together.
    obtain ⟨escrow, account, hlive, hfound, hoverflow⟩ := overflow_of_claim hfault
    have hescrow := hs.escrow hlive
    have hfits := State.credit_fits hs.keyed hdistinct hlive (hcovered (hprogram ▸ hescrow.vault_mem))
      hescrow.claimer_mem hfound
    omega
  · -- As for a claim, with the offerer's account.
    obtain ⟨escrow, account, hlive, hfound, hoverflow⟩ := overflow_of_refund hfault
    have hescrow := hs.escrow hlive
    have hfits := State.credit_fits hs.keyed hdistinct hlive (hcovered (hprogram ▸ hescrow.vault_mem))
      hescrow.offerer_mem hfound
    omega

theorem addresses_of_new (config : Config) (now : UInt64) (steps : List Step) :
    let r := ((Engine.new config now .empty).run steps).state.registry
    (∀ owner mint, r.userAddress owner mint =
        (Derivation.userAccount config.programId owner mint).address) ∧
      ∀ mint, r.vaultAddress mint = (Derivation.vault config.programId mint).address := by
  intro r
  have hprogram : r.programId = config.programId := programId_run ..
  exact ⟨Registry.userAddress_congr (r := .empty config.programId) hprogram,
    Registry.vaultAddress_congr (r := .empty config.programId) hprogram⟩

/-- After a deposit of five the vault covers what is owed, and of a withdrawal of three that goes
back to the vault two are left. -/
theorem solvency_of_fundedDeposit :
    let engine := (Engine.new .standard 0 .empty).run
      (fundedDeposit Config.standard.programId someOwner someMint 5)
    engine.state.registry.internalTotal someMint + engine.state.registry.escrowedTotal someMint ≤
        (engine.state.vaultBalance someMint).toNat ∧
      (engine.perform (.withdraw ⟨someOwner, someMint,
        (Derivation.vault Config.standard.programId someMint).address,
        (Derivation.userAccount Config.standard.programId someOwner someMint).address, 3⟩)).1 =
        .ok (.balance 2) := by
  obtain ⟨hcovered, hpaid, -⟩ := solvency .standard 0
    (fundedDeposit Config.standard.programId someOwner someMint 5) {d | d ∈ someDerivations}
    (injOn_of_nodup nodup_someDerivations fun _ hd => hd) (by
      simp [fundedDeposit, derivations, Step.derivations, Request.derivations, someDerivations])
    (by simp [fundedDeposit])
    (by simp [fundedDeposit, Step.WithoutAuthority, someOwner_ne_vaultAuthority])
  have hvault : .vault Config.standard.programId someMint ∈ {d | d ∈ someDerivations} := by
    simp [someDerivations]
  have huser : .userAccount Config.standard.programId someOwner someMint ∈
      {d | d ∈ someDerivations} := by
    simp [someDerivations]
  obtain ⟨haddress, hsame⟩ := addresses_of_new .standard 0
    (fundedDeposit Config.standard.programId someOwner someMint 5)
  obtain ⟨⟨account, hfound, hamount⟩, ⟨filled, hfilled, hmint, -⟩, -⟩ :=
    run_fundedDeposit .standard 0 someOwner someMint 5 someAccount_ne_vault
  -- What matters of the history is what it leaves.
  generalize (Engine.new .standard 0 .empty).run
    (fundedDeposit Config.standard.programId someOwner someMint 5) = engine at *
  have hbalance : (3 : UInt64) ≤ engine.state.registry.internalBalance someOwner someMint := by
    unfold Registry.internalBalance
    rw [hfound, Option.map_some, Option.getD_some, hamount]
    decide
  have hanswer := hpaid ⟨someOwner, someMint,
    (Derivation.vault Config.standard.programId someMint).address,
    (Derivation.userAccount Config.standard.programId someOwner someMint).address, 3⟩ filled
    hvault huser (haddress someOwner someMint) hbalance hfilled hmint
  -- The source is the vault and the payee is the vault too, so the overflow is out of the
  -- question.
  have hleft : (5 : UInt64) - 3 = 2 := by decide
  simp only [hfound, hamount, hsame, hleft, ne_eq, not_true_eq_false, false_and,
    if_false] at hanswer
  exact ⟨(hcovered someMint hvault).1, hanswer⟩

end Engine

end AtomicEscrow
