import AtomicEscrow.Proofs.Solvency

set_option autoImplicit false

/-! # What a custody report tells

A custody report sets the vault of a mint against two sums, and says whether they balance. Each sum
is capped at the largest word before the two are added. So a report that does not balance is always
right, and one that balances is right unless the cap has hidden a debt: one sum does not fit in a
word, the other is nothing, and the vault holds exactly the largest word
(`State.isBalanced_custody_iff`). No vault gets there by requests alone, because it covers what is
owed (`Engine.isBalanced_custody_run`). It does if a batch of the ledger empties it between two
deposits (`Engine.run_drainedVault`): then half of what is owed is missing, and the report balances.
-/

namespace AtomicEscrow

namespace State

variable (s : State) (mint : Pubkey)

/-- A debt that a report cannot see: all that is owed is of one sort and more than a word, and the
vault holds the largest word. -/
def HiddenDebt : Prop :=
  (s.vaultBalance mint).toNat = UInt64.size - 1 ∧
    UInt64.size ≤ s.registry.internalTotal mint + s.registry.escrowedTotal mint ∧
    (s.registry.internalTotal mint = 0 ∨ s.registry.escrowedTotal mint = 0)

theorem isBalanced_custody_iff_capped :
    (s.custody mint).isBalanced = true ↔
      min (s.registry.internalTotal mint) (UInt64.size - 1) +
          min (s.registry.escrowedTotal mint) (UInt64.size - 1) =
        (s.vaultBalance mint).toNat := by
  unfold CustodyReport.isBalanced
  rw [decide_eq_true_iff, Amount.add?_eq_some_iff, toNat_custody_internalBalances,
    toNat_custody_escrowed]
  rfl

/-- **A report balances if the vault holds what is owed, or if it hides a debt**, and only then. So
its verdict is the truth exactly if there is no such debt. -/
theorem isBalanced_custody_iff :
    ((s.custody mint).isBalanced = true ↔
      (s.vaultBalance mint).toNat =
          s.registry.internalTotal mint + s.registry.escrowedTotal mint ∨
        s.HiddenDebt mint) ∧
    (((s.custody mint).isBalanced = true ↔
        (s.vaultBalance mint).toNat =
          s.registry.internalTotal mint + s.registry.escrowedTotal mint) ↔
      ¬s.HiddenDebt mint) := by
  have hword := (s.vaultBalance mint).toNat_lt_size
  have hsize : 1 < UInt64.size := by decide
  rw [isBalanced_custody_iff_capped]
  unfold HiddenDebt
  -- The vault holds a word. So if one sum is capped, there is no room for the other.
  constructor
  · omega
  · omega

end State

namespace Engine

/-- After a history in which only requests touch the vault, the reports tell the truth. -/
theorem isBalanced_custody_run {D : Set Derivation} {engine : Engine} {steps : List Step}
    {mint : Pubkey} (h : engine.Tame D steps)
    (hnew : engine.state.registry = .empty engine.state.registry.programId)
    (hauthority : ∀ step ∈ steps, step.WithoutAuthority engine.state.registry.vaultAuthority)
    (hvault : .vault engine.state.registry.programId mint ∈ D) :
    let state := (engine.run steps).state
    (state.custody mint).isBalanced = true ↔
      (state.vaultBalance mint).toNat =
        state.registry.internalTotal mint + state.registry.escrowedTotal mint := by
  intro state
  have hcovered : state.registry.owed mint ≤ (state.vaultBalance mint).toNat :=
    covered_run h hnew hauthority hvault
  -- What is owed is a word as the vault is, so neither sum is capped.
  have hword := (state.vaultBalance mint).toNat_lt_size
  unfold Registry.owed at hcovered
  rw [state.isBalanced_custody_iff_capped]
  omega

/-! ## A vault that is emptied between two deposits -/

/-- The history: after a deposit all that is in the vault is moved to a purse of somebody else, who
deposits it again. -/
def drainedVault (program owner thief mint purse : Pubkey) (amount : UInt64) : List Step :=
  let vault := (Derivation.vault program mint).address
  let user := (Derivation.userAccount program thief mint).address
  fundedDeposit program owner mint amount ++
    [.applyBatch ((Batch.empty.openTokenAccount purse thief mint).tokenTransfer vault purse mint
        amount),
      .request (.deposit ⟨thief, mint, purse, user, amount⟩)]

theorem state_applyBatch {engine : Engine} {batch : Batch} {registry : Registry}
    {ledger ledger' : Ledger} (hstate : engine.state = ⟨registry, ledger⟩)
    (hsteps : ledger.steps batch.ops = .ok ledger') :
    (engine.step (.applyBatch batch)).state = ⟨registry, ledger'⟩ := by
  simp only [Engine.step, applyBatch, Ledger.apply, withLedger, hstate, hsteps]

/-- Both deposits are owed, and the vault holds one of them. -/
theorem run_drainedVault (config : Config) (now : UInt64) (owner thief mint purse : Pubkey)
    (amount : UInt64)
    (haccount : (Derivation.tokenAccount owner mint 1).address ≠
      (Derivation.vault config.programId mint).address)
    (hpurse : purse ≠ (Derivation.tokenAccount owner mint 1).address)
    (hpurse' : purse ≠ (Derivation.vault config.programId mint).address)
    (husers : (Derivation.userAccount config.programId owner mint).address ≠
      (Derivation.userAccount config.programId thief mint).address) :
    let state := ((Engine.new config now .empty).run
      (drainedVault config.programId owner thief mint purse amount)).state
    state.vaultBalance mint = amount ∧
      state.registry.internalTotal mint = amount.toNat + amount.toNat ∧
      state.registry.escrowedTotal mint = 0 := by
  intro state
  obtain ⟨ledger, hstate, haccounts, -⟩ :=
    exists_run_fundedDeposit config now owner mint amount haccount
  -- The purse is filled from the vault, and the vault from the purse.
  have hfree : ledger.tokenAccount? purse = none := by
    rw [haccounts, if_neg hpurse'.symm, if_neg hpurse.symm]
  obtain ⟨drained, hdrain, hdrained⟩ := Ledger.exists_steps_moveAll thief
    ((haccounts _).trans (if_pos rfl)) rfl (.inl hfree) hpurse'.symm
  have hempty := (hdrained (Derivation.vault config.programId mint).address).trans
    ((if_neg hpurse').trans (if_pos rfl))
  have hfilled := (hdrained purse).trans (if_pos rfl)
  obtain ⟨ledger', hback, hafter⟩ := Ledger.exists_steps_moveAll
    (Derivation.vaultAuthority config.programId).address hfilled rfl (.inr hempty) hpurse'
  -- Nobody else's balance is the thief's.
  let registry := (Registry.empty config.programId).setBalance owner mint amount
  have hnone : registry.user? thief mint = none :=
    (Registry.users_setBalance ..).trans (if_neg husers)
  have hnothing : registry.internalBalance thief mint = 0 := by
    unfold Registry.internalBalance
    rw [hnone]
    rfl
  have hrun : state = ⟨registry.setBalance thief mint amount, ledger'⟩ := by
    show ((Engine.new config now .empty).run _).state = _
    simp only [drainedVault, ← run_run, run_cons, run_nil]
    exact state_deposit (state_applyBatch hstate hdrain) rfl hfilled rfl rfl (UInt64.le_refl _)
      (by rw [hnothing]; exact Nat.zero_add _) hback
  have hfirst : registry.internalTotal mint = amount.toNat := by
    rw [Registry.internalTotal_setBalance (by rintro _ ⟨⟩) (Nat.zero_add _), if_pos rfl]
    exact Nat.zero_add _
  -- The second deposit tops up a balance of nothing, and leaves the first one as it was.
  rw [hrun]
  refine ⟨?_, ?_, rfl⟩
  · exact Ledger.tokenBalance_of_tokenAccount? ((hafter _).trans (if_pos rfl))
  · have hsum : (registry.internalBalance thief mint).toNat + amount.toNat = amount.toNat := by
      rw [hnothing]
      exact Nat.zero_add _
    show (registry.setBalance thief mint amount).internalTotal mint = _
    rw [Registry.internalTotal_setBalance (by rw [hnone]; rintro _ ⟨⟩) hsum, hfirst, if_pos rfl]

def someThief : Pubkey := ⟨.replicate 5⟩

def somePurse : Pubkey := ⟨.replicate 6⟩

def drainedDerivations : List Derivation :=
  .userAccount Config.standard.programId someThief someMint :: someDerivations

theorem nodup_drainedDerivations :
    (somePurse :: drainedDerivations.map Derivation.address).Nodup := by
  decide +kernel

/-- The largest word is owed twice and held once, and the report balances. -/
theorem isBalanced_of_drainedVault :
    let state := ((Engine.new .standard 0 .empty).run (drainedVault Config.standard.programId
      someOwner someThief someMint somePurse 18446744073709551615)).state
    (state.custody someMint).isBalanced = true ∧
      (state.vaultBalance someMint).toNat = 18446744073709551615 ∧
      state.registry.internalTotal someMint + state.registry.escrowedTotal someMint =
        36893488147419103230 := by
  -- All addresses of the sample are different, which `decide` could only see by hashing them.
  obtain ⟨hpurse, hdistinct⟩ := List.nodup_cons.1 nodup_drainedDerivations
  have hother {d : Derivation} (hd : d ∈ drainedDerivations) : somePurse ≠ d.address :=
    fun h => hpurse (h ▸ List.mem_map_of_mem hd)
  have husers : (Derivation.userAccount Config.standard.programId someOwner someMint).address ≠
      (Derivation.userAccount Config.standard.programId someThief someMint).address := by
    intro h
    have hsame := List.inj_on_of_nodup_map hdistinct (by simp [drainedDerivations, someDerivations])
      (by simp [drainedDerivations]) h
    exact absurd hsame (by decide)
  obtain ⟨hvault, hinternal, hescrowed⟩ := run_drainedVault .standard 0 someOwner someThief
    someMint somePurse 18446744073709551615 someAccount_ne_vault
    (hother (by simp [drainedDerivations, someDerivations]))
    (hother (by simp [drainedDerivations, someDerivations])) husers
  -- What matters of the history is what is held and owed after it.
  generalize ((Engine.new .standard 0 .empty).run (drainedVault Config.standard.programId
    someOwner someThief someMint somePurse 18446744073709551615)).state = state at *
  have hword : (18446744073709551615 : UInt64).toNat = 18446744073709551615 := rfl
  rw [hword] at hinternal
  -- Twice the largest word, capped, is the largest word: the report sees what the vault holds.
  refine ⟨(state.isBalanced_custody_iff_capped someMint).2 ?_, by rw [hvault, hword], ?_⟩
  · rw [hinternal, hescrowed, hvault, hword]
    decide
  · rw [hinternal, hescrowed]

end Engine

end AtomicEscrow
