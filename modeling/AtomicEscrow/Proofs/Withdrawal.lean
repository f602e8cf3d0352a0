import AtomicEscrow.Proofs.Posting
import AtomicEscrow.Proofs.Undoing

set_option autoImplicit false

/-! # A withdrawal undoes the deposit

A withdrawal can be refused: the vault may be short, the account that is to be paid may be missing
or too full. Right after a deposit of the same amount from the same account none of this can be. The
vault has what was just paid into it, the account it came from has room for it, and the owner has it
in its internal balance (`State.Deposits`). This holds for a deposit of nothing, which moves
nothing, and for the vault itself as the source, which keeps what it has.

What the withdrawal leaves is what the deposit found (`State.Regains`). A deposit may have been the
first of its mint or of its owner. Then an empty vault and an empty user account stay behind.
-/

namespace AtomicEscrow

variable {s s₁ s' : State} {req : BalanceRequest} {balance : UInt64}

/-- The first state is the second one after a deposit that left the given internal balance. -/
structure State.Deposits (s₁ s : State) (req : BalanceRequest) (balance : UInt64) : Prop where
  programId : s₁.registry.programId = s.registry.programId
  escrows : s₁.registry.escrows = s.registry.escrows
  buffers : s₁.registry.buffers = s.registry.buffers
  user : ∀ address, s₁.registry.users.get? address =
    if s.registry.userAddress req.signer req.mint = address then
      some { (s.registry.user? req.signer req.mint).getD (.fresh req.signer req.mint) with
        amount := balance }
    else s.registry.users.get? address
  token : ∀ address, ((s₁.ledger.tokenBalance address).toNat : Int) =
    (s.ledger.tokenBalance address).toNat +
      ((if s.registry.vaultAddress req.mint = address then (req.amount.toNat : Int) else 0) -
        if req.signerTokenAccount = address then (req.amount.toNat : Int) else 0)
  holder : ∀ address, s₁.ledger.holder? address = (s.ledger.holder? address).or
    (if s.registry.vaultAddress req.mint = address then
      some ⟨address, s.registry.vaultAuthority, req.mint, 0⟩ else none)
  native : ∀ owner, s₁.ledger.nativeBalance owner = s.ledger.nativeBalance owner
  created : s₁.ledger.created = s.ledger.created

/-- The first state is the second one again after a deposit and its withdrawal. The vault of the
mint and the user account of the signer may be new, and are empty then. -/
structure State.Regains (s' s : State) (req : BalanceRequest) : Prop where
  programId : s'.registry.programId = s.registry.programId
  escrows : s'.registry.escrows = s.registry.escrows
  buffers : s'.registry.buffers = s.registry.buffers
  user : ∀ address, s'.registry.users.get? address = (s.registry.users.get? address).or
    (if s.registry.userAddress req.signer req.mint = address then
      some (.fresh req.signer req.mint) else none)
  token : ∀ address, s'.ledger.tokenAccount? address = (s.ledger.tokenAccount? address).or
    (if s.registry.vaultAddress req.mint = address then
      some ⟨address, s.registry.vaultAuthority, req.mint, 0⟩ else none)
  native : ∀ owner, s'.ledger.nativeBalance owner = s.ledger.nativeBalance owner
  created : s'.ledger.created = s.ledger.created

namespace State.Regains

theorem tokenBalance (h : s'.Regains s req) (address : Pubkey) :
    s'.ledger.tokenBalance address = s.ledger.tokenBalance address := by
  unfold Ledger.tokenBalance
  rw [h.token]
  cases s.ledger.tokenAccount? address with
  | some account => rfl
  | none =>
      rw [Option.none_or]
      split <;> rfl

theorem internalBalance (h : s'.Regains s req) (owner mint : Pubkey) :
    s'.registry.internalBalance owner mint = s.registry.internalBalance owner mint := by
  unfold Registry.internalBalance Registry.user?
  rw [Registry.userAddress_congr h.programId, h.user]
  cases s.registry.users.get? (s.registry.userAddress owner mint) with
  | some account => rfl
  | none =>
      rw [Option.none_or]
      split <;> rfl

end State.Regains

/-! ## What a deposit leaves -/

namespace BalanceRequest

def depositBatch (req : BalanceRequest) (r : Registry) : Batch :=
  (Batch.empty.openTokenAccount (r.vaultAddress req.mint) r.vaultAuthority req.mint).tokenTransfer
    req.signerTokenAccount (r.vaultAddress req.mint) req.mint req.amount

def withdrawBatch (req : BalanceRequest) (r : Registry) : Batch :=
  Batch.empty.tokenTransfer (r.vaultAddress req.mint) req.signerTokenAccount req.mint req.amount

variable {ledger : Ledger}

/-- A deposit opens the vault before anything else, and an account that is there has to be one of
the mint. -/
theorem vault_of_depositBatch (h : s.ledger.steps (req.depositBatch s.registry).ops = .ok ledger)
    {vault : TokenAccount}
    (hvault : s.ledger.tokenAccount? (s.registry.vaultAddress req.mint) = some vault) :
    vault.mint = req.mint := by
  obtain ⟨rest, hops⟩ : ∃ rest, (req.depositBatch s.registry).ops =
      [] ++ .openTokenAccount (s.registry.vaultAddress req.mint) s.registry.vaultAuthority
        req.mint :: rest := by
    unfold depositBatch Batch.tokenTransfer
    split <;> exact ⟨_, rfl⟩
  have hfinds := (Ledger.exists_steps_iff.1 ⟨ledger, h⟩).found [] _ rest hops vault.emptied
  have hheld : (s.ledger.holder? (s.registry.vaultAddress req.mint)).or none =
      some vault.emptied := by
    rw [Option.or_none]
    exact Ledger.holder?_eq_some_iff.2 ⟨vault, hvault, rfl⟩
  exact (hfinds hheld).2

/-- The signer gets the new balance, and the vault gets what the token account loses. -/
theorem deposits_of_steps (h : s.ledger.steps (req.depositBatch s.registry).ops = .ok ledger) :
    State.Deposits ⟨s.registry.setBalance req.signer req.mint balance, ledger⟩ s req balance := by
  constructor
  case programId => exact Registry.programId_setBalance ..
  case escrows => exact Registry.escrows_setBalance ..
  case buffers => rfl
  case user => exact Registry.users_setBalance s.registry req.signer req.mint balance
  case token =>
    intro address
    have hflow := Ledger.tokenBalance_steps h address
    simp only [depositBatch, Batch.tokensFrom_tokenTransfer, Batch.tokensFrom_openTokenAccount,
      Batch.tokensFrom_empty, Batch.tokensTo_tokenTransfer, Batch.tokensTo_openTokenAccount,
      Batch.tokensTo_empty, Nat.zero_add] at hflow
    show ((ledger.tokenBalance address).toNat : Int) = _
    -- Source and vault may be one account, which then keeps its balance.
    split_ifs at hflow ⊢ <;> omega
  case holder =>
    intro address
    have hopened : (req.depositBatch s.registry).opened? address =
        if s.registry.vaultAddress req.mint = address then
          some ⟨address, s.registry.vaultAuthority, req.mint, 0⟩ else none := by
      rw [depositBatch, Batch.opened?_tokenTransfer, Batch.opened?_openTokenAccount,
        Batch.opened?_empty, Option.none_or]
      split
      case isTrue hsame => rw [hsame]
      case isFalse => rfl
    rw [← hopened]
    exact Ledger.holder?_steps h address
  case native =>
    intro owner
    have hflow := Ledger.nativeBalance_steps h owner
    simp only [depositBatch, Batch.nativesFrom_tokenTransfer, Batch.nativesFrom_openTokenAccount,
      Batch.nativesFrom_empty, Batch.nativesTo_tokenTransfer, Batch.nativesTo_openTokenAccount,
      Batch.nativesTo_empty, Nat.add_zero] at hflow
    exact UInt64.toNat_inj.1 hflow
  case created => exact Ledger.created_steps h

/-- An accepted deposit comes from an account of the mint that covers it, and its signer has room
for it. -/
theorem deposits_of_run (h : (Operation.deposit req).run s = (.ok balance, s₁)) :
    (∃ source, s.ledger.tokenAccount? req.signerTokenAccount = some source ∧
      source.mint = req.mint ∧ req.amount ≤ source.amount) ∧
    s.registry.userAddress req.signer req.mint = req.userAccount ∧
    (s.registry.internalBalance req.signer req.mint).toNat + req.amount.toNat = balance.toNat ∧
    (∀ vault, s.ledger.tokenAccount? (s.registry.vaultAddress req.mint) = some vault →
      vault.mint = req.mint) ∧
    s₁.Deposits s req balance := by
  rw [Operation.run_deposit] at h
  obtain ⟨plan, ledger, hplan, hsteps, hanswer, rfl⟩ := attempt_plan_eq_ok_iff.1 h
  obtain ⟨source, sum, haddress, hsource, hmint, -, hle, hsum, rfl⟩ := depositPlan_eq_ok_iff.1 hplan
  obtain rfl : balance = sum := hanswer
  exact ⟨⟨source, hsource, hmint, hle⟩, haddress, hsum, fun _ => vault_of_depositBatch hsteps,
    deposits_of_steps hsteps⟩

end BalanceRequest

namespace State.Deposits

theorem user? (h : s₁.Deposits s req balance) :
    s₁.registry.user? req.signer req.mint =
      some { (s.registry.user? req.signer req.mint).getD (.fresh req.signer req.mint) with
        amount := balance } := by
  unfold Registry.user?
  rw [Registry.userAddress_congr h.programId, h.user, if_pos rfl]
  rfl

/-- **The vault can pay back what was deposited**, and the account it came from has room for it. If
the two are one account, then it had that much before. -/
theorem exists_moveTokens (h : s₁.Deposits s req balance) {source : TokenAccount}
    (hsource : s.ledger.tokenAccount? req.signerTokenAccount = some source)
    (hmint : source.mint = req.mint) (hle : req.amount ≤ source.amount)
    (hvault : ∀ vault, s.ledger.tokenAccount? (s.registry.vaultAddress req.mint) = some vault →
      vault.mint = req.mint) :
    ∃ ledger, s₁.ledger.moveTokens (s.registry.vaultAddress req.mint) req.signerTokenAccount
      req.mint req.amount = .ok ledger := by
  have hholder := h.holder (s.registry.vaultAddress req.mint)
  rw [if_pos rfl] at hholder
  obtain ⟨vault, hfound, hvaultMint⟩ := Ledger.exists_account_of_opened hholder hvault
  obtain ⟨source', hsource', hmint'⟩ := Ledger.exists_tokenAccount?_of_opened (h.holder _) hsource
  have hpaid := h.token (s.registry.vaultAddress req.mint)
  have hcharged := h.token req.signerTokenAccount
  have hle' := UInt64.le_iff_toNat_le.1 hle
  have hword := source.amount.toNat_lt_size
  rw [if_pos rfl, Ledger.tokenBalance_of_tokenAccount? hfound] at hpaid
  rw [if_pos rfl, Ledger.tokenBalance_of_tokenAccount? hsource',
    Ledger.tokenBalance_of_tokenAccount? hsource] at hcharged
  -- A deposit from the vault itself is undone by a transfer of the vault to itself.
  by_cases hsame : s.registry.vaultAddress req.mint = req.signerTokenAccount
  · rw [if_pos hsame.symm, hsame, Ledger.tokenBalance_of_tokenAccount? hsource] at hpaid
    have hcovered : req.amount ≤ vault.amount := UInt64.le_iff_toNat_le.2 (by omega)
    exact Ledger.exists_moveTokens hfound hvaultMint hsource' (hmint'.trans hmint) hcovered
      (.inl hsame)
  · rw [if_neg (Ne.symm hsame)] at hpaid
    rw [if_neg hsame] at hcharged
    have hcovered : req.amount ≤ vault.amount := UInt64.le_iff_toNat_le.2 (by omega)
    exact Ledger.exists_moveTokens hfound hvaultMint hsource' (hmint'.trans hmint) hcovered
      (.inr (by omega))

/-- The withdrawal goes through, also if it moves nothing. -/
theorem exists_steps (h : s₁.Deposits s req balance) {source : TokenAccount}
    (hsource : s.ledger.tokenAccount? req.signerTokenAccount = some source)
    (hmint : source.mint = req.mint) (hle : req.amount ≤ source.amount)
    (hvault : ∀ vault, s.ledger.tokenAccount? (s.registry.vaultAddress req.mint) = some vault →
      vault.mint = req.mint) :
    ∃ ledger, s₁.ledger.steps (req.withdrawBatch s.registry).ops = .ok ledger := by
  obtain ⟨ledger, hmoved⟩ := h.exists_moveTokens hsource hmint hle hvault
  have hempty : s₁.ledger.steps Batch.empty.ops = .ok s₁.ledger := rfl
  rw [BalanceRequest.withdrawBatch, Ledger.steps_tokenTransfer hempty, hmoved]
  split <;> exact ⟨_, rfl⟩

theorem balance_sub (hsum : (s.registry.internalBalance req.signer req.mint).toNat +
      req.amount.toNat = balance.toNat) :
    balance - req.amount = s.registry.internalBalance req.signer req.mint := by
  have hle : req.amount ≤ balance := UInt64.le_iff_toNat_le.2 (by omega)
  have hback := Amount.toNat_sub_add hle
  exact UInt64.toNat_inj.1 (by omega)

theorem user_restored {account : Option UserAccount} {owner mint : Pubkey} :
    some { account.getD (.fresh owner mint) with
      amount := (account.map UserAccount.amount).getD 0 } =
      account.or (some (.fresh owner mint)) := by
  cases account <;> rfl

/-- **The withdrawal leaves what the deposit has found.** -/
theorem regains (h : s₁.Deposits s req balance) {ledger : Ledger}
    (hsteps : s₁.ledger.steps (req.withdrawBatch s.registry).ops = .ok ledger) :
    State.Regains ⟨s₁.registry.changeUser req.signer req.mint
      ({ · with amount := s.registry.internalBalance req.signer req.mint }), ledger⟩ s req := by
  have hbalance (address : Pubkey) :
      ledger.tokenBalance address = s.ledger.tokenBalance address := by
    have hback := Ledger.tokenBalance_steps hsteps address
    have hpaid := h.token address
    simp only [BalanceRequest.withdrawBatch, Batch.tokensFrom_tokenTransfer,
      Batch.tokensFrom_empty, Batch.tokensTo_tokenTransfer, Batch.tokensTo_empty,
      Nat.zero_add] at hback
    -- The two transfers are between the same two accounts, there and back.
    refine UInt64.toNat_inj.1 ?_
    split_ifs at hback hpaid <;> omega
  constructor
  case programId => exact (Registry.programId_changeUser ..).trans h.programId
  case escrows => exact (Registry.escrows_changeUser ..).trans h.escrows
  case buffers => exact (Registry.buffers_changeUser ..).trans h.buffers
  case user =>
    intro address
    rw [Registry.users_changeUser, Registry.userAddress_congr h.programId, h.user]
    -- The signer's account may be new; it then stays, with nothing in it.
    by_cases hsigner : s.registry.userAddress req.signer req.mint = address
    · subst hsigner
      rw [if_pos rfl, if_pos rfl, if_pos rfl]
      exact user_restored
    · rw [if_neg hsigner, if_neg hsigner, if_neg hsigner, Option.or_none]
  case token =>
    intro address
    refine Ledger.tokenAccount?_of_opened ?_ (hbalance address)
    rw [Ledger.holder?_steps hsteps, BalanceRequest.withdrawBatch, Batch.opened?_tokenTransfer,
      Batch.opened?_empty, Option.or_none, h.holder]
  case native =>
    intro owner
    have hback := Ledger.nativeBalance_steps hsteps owner
    rw [BalanceRequest.withdrawBatch, Batch.nativesFrom_tokenTransfer,
      Batch.nativesTo_tokenTransfer, h.native] at hback
    exact UInt64.toNat_inj.1 hback
  case created => exact (Ledger.created_steps hsteps).trans h.created

end State.Deposits

/-! ## A deposit and a withdrawal -/

/-- **A withdrawal undoes the deposit.** Right after an accepted deposit the withdrawal of the same
amount, back to the account that it came from, is accepted. It answers with the internal balance
that the signer had before, every token balance and every user account is what it was, and all that
is left is an empty vault and an empty user account, if they are new. -/
theorem Operation.withdraw_undoes_deposit
    (h : (deposit req).run s = (.ok balance, s₁)) :
    ∃ s₂, (withdraw req).run s₁ =
        (.ok (s.registry.internalBalance req.signer req.mint), s₂) ∧
      (∀ address, s₂.ledger.tokenBalance address = s.ledger.tokenBalance address) ∧
      (∀ address account, s.registry.users.get? address = some account →
        s₂.registry.users.get? address = some account) ∧
      (∀ owner mint, s₂.registry.internalBalance owner mint =
        s.registry.internalBalance owner mint) ∧
      s₂.Regains s req := by
  obtain ⟨⟨source, hsource, hmint, hle⟩, haddress, hsum, hvault, hdeposits⟩ :=
    BalanceRequest.deposits_of_run h
  obtain ⟨source', hsource', hmint'⟩ :=
    Ledger.exists_tokenAccount?_of_opened (hdeposits.holder _) hsource
  obtain ⟨ledger, hsteps⟩ := hdeposits.exists_steps hsource hmint hle hvault
  have hamount : req.amount ≤ balance := UInt64.le_iff_toNat_le.2 (by omega)
  have hplan : req.withdrawPlan s₁ = .ok ⟨s.registry.internalBalance req.signer req.mint,
      req.withdrawBatch s.registry⟩ := by
    refine BalanceRequest.withdrawPlan_eq_ok_iff.2 ⟨_, source', ?_, hdeposits.user?, hamount,
      hsource', hmint'.trans hmint, ?_⟩
    · rw [Registry.userAddress_congr hdeposits.programId, haddress]
    · rw [State.Deposits.balance_sub hsum, Registry.vaultAddress_congr hdeposits.programId]
      rfl
  have hregains := hdeposits.regains hsteps
  refine ⟨_, ?_, hregains.tokenBalance, ?_, hregains.internalBalance, hregains⟩
  · rw [run_withdraw]
    exact attempt_plan_eq_ok_iff.2 ⟨_, ledger, hplan, hsteps, rfl, rfl⟩
  · intro address account haccount
    rw [hregains.user, haccount, Option.some_or]

namespace Engine

/-- The request to deposit all that is in an account, or to take it back. -/
def allOfAccount (program owner mint : Pubkey) (amount : UInt64) : BalanceRequest :=
  ⟨owner, mint, (Derivation.tokenAccount owner mint 1).address,
    (Derivation.userAccount program owner mint).address, amount⟩

/-- The deposit of all that an owner has is accepted. It is the first one: there is neither a vault
nor a user account yet. -/
theorem exists_run_firstDeposit (config : Config) (now : UInt64) (owner mint : Pubkey)
    (amount : UInt64) (hne : (Derivation.tokenAccount owner mint 1).address ≠
      (Derivation.vault config.programId mint).address) :
    ∃ funded s₁, ((Engine.new config now .empty).run (fundedAccount owner mint amount)).state =
        ⟨.empty config.programId, funded⟩ ∧
      funded.tokenAccount? (Derivation.vault config.programId mint).address = none ∧
      funded.tokenBalance (Derivation.tokenAccount owner mint 1).address = amount ∧
      (Operation.deposit (allOfAccount config.programId owner mint amount)).run
        ⟨.empty config.programId, funded⟩ = (.ok amount, s₁) ∧
      s₁.ledger.tokenBalance (Derivation.vault config.programId mint).address = amount ∧
      s₁.ledger.tokenBalance (Derivation.tokenAccount owner mint 1).address = 0 := by
  obtain ⟨funded, hmint, hfunded⟩ := Ledger.exists_mintTo_createTokenAccount .empty owner mint
    amount (show _ = (Derivation.tokenAccount owner mint 1).address from rfl)
  have hsource := (hfunded _).trans (if_pos rfl)
  have hnone : funded.tokenAccount? (Derivation.vault config.programId mint).address = none :=
    (hfunded _).trans (if_neg hne)
  obtain ⟨ledger, hsteps, hafter⟩ := Ledger.exists_steps_moveAll
    (Registry.empty config.programId).vaultAuthority hsource rfl (.inl hnone) hne
  have hplan : (allOfAccount config.programId owner mint amount).depositPlan
      ⟨.empty config.programId, funded⟩ = .ok ⟨amount,
        (allOfAccount config.programId owner mint amount).depositBatch
          (.empty config.programId)⟩ :=
    BalanceRequest.depositPlan_eq_ok_iff.2 ⟨_, amount, rfl, hsource, rfl, rfl,
      UInt64.le_refl _, Nat.zero_add _, rfl⟩
  refine ⟨funded, ⟨(Registry.empty config.programId).setBalance owner mint amount, ledger⟩, ?_,
    hnone, Ledger.tokenBalance_of_tokenAccount? hsource, ?_, ?_, ?_⟩
  · unfold fundedAccount
    rw [run_cons, run_cons, run_nil, step_mintTo hmint]
    rfl
  · rw [Operation.run_deposit]
    exact attempt_plan_eq_ok_iff.2 ⟨_, ledger, hplan, hsteps, rfl, rfl⟩
  · exact Ledger.tokenBalance_of_tokenAccount? ((hafter _).trans (if_pos rfl))
  · exact Ledger.tokenBalance_of_tokenAccount?
      ((hafter _).trans ((if_neg hne.symm).trans (if_pos rfl)))

/-- The first deposit of an owner in a mint, out of all that the owner has. Taken back, it leaves
an empty vault and an empty user account. -/
theorem withdraw_undoes_firstDeposit :
    let s := ((Engine.new .standard 0 .empty).run (fundedAccount someOwner someMint 5)).state
    let req := allOfAccount Config.standard.programId someOwner someMint 5
    let vault := (Derivation.vault Config.standard.programId someMint).address
    ∃ s₁ s₂, (Operation.deposit req).run s = (.ok 5, s₁) ∧
      (Operation.withdraw req).run s₁ = (.ok 0, s₂) ∧
      s.ledger.tokenBalance req.signerTokenAccount = 5 ∧
      s₁.ledger.tokenBalance req.signerTokenAccount = 0 ∧
      s₂.ledger.tokenBalance req.signerTokenAccount = 5 ∧
      s.ledger.tokenAccount? vault = none ∧ s₁.ledger.tokenBalance vault = 5 ∧
      s₂.ledger.tokenAccount? vault =
        some ⟨vault, s.registry.vaultAuthority, someMint, 0⟩ ∧
      s₂.registry.user? someOwner someMint = some (.fresh someOwner someMint) ∧
      s₂.Regains s req := by
  intro s req vault
  obtain ⟨funded, s₁, hs, hnone, hbefore, hdeposit, hvault, hspent⟩ :=
    exists_run_firstDeposit .standard 0 someOwner someMint 5 someAccount_ne_vault
  have hs : s = ⟨.empty Config.standard.programId, funded⟩ := hs
  rw [hs]
  obtain ⟨s₂, hwithdraw, htoken, -, -, hregains⟩ := Operation.withdraw_undoes_deposit hdeposit
  refine ⟨s₁, s₂, hdeposit, hwithdraw, hbefore, hspent, (htoken _).trans hbefore, hnone, hvault,
    ?_, ?_, hregains⟩
  · rw [hregains.token, hnone, Option.none_or]
    exact if_pos rfl
  · rw [Registry.user?, Registry.userAddress_congr hregains.programId, hregains.user]
    exact if_pos rfl

end Engine

end AtomicEscrow
