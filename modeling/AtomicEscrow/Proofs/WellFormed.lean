import AtomicEscrow.Proofs.Flow
import AtomicEscrow.Proofs.History
import Mathlib.Data.Set.Function

set_option autoImplicit false

/-! # Well-formed states

Nothing stops two derivations from having one address except that nobody knows such a pair. So
what is true of a program is true of histories in which no two of the addresses that occur are
the same, and this file says which ones occur (`derivations`) and what follows: every account is
what its address says it is, and every live escrow lies under its own hash and names accounts
that exist (`State.WellFormed`). Then an account that is looked up under an address is never
somebody else's.
-/

namespace AtomicEscrow

/-! ## The addresses of a history -/

/-- The accounts whose addresses a request derives. -/
def Request.derivations (program : Pubkey) : Request → List Derivation
  | lock req =>
      [.escrow program req.terms.hash, .userAccount program req.offerer req.mint,
        .userAccount program req.claimer req.mint, .vault program req.mint]
  | claim req => [.escrow program req.hash]
  | refund req => [.escrow program req.hash]
  | deposit req => [.userAccount program req.signer req.mint, .vault program req.mint]
  | withdraw req => [.userAccount program req.signer req.mint, .vault program req.mint]
  | openBuffer _ _ => []
  | writeBuffer _ => []
  | closeBuffer _ _ => []

/-- The accounts whose addresses a step derives, when so many token accounts were created. -/
def Step.derivations (program : Pubkey) (created : UInt64) : Step → List Derivation
  | request req => req.derivations program
  | createTokenAccount owner mint => [.tokenAccount owner mint (created + 1)]
  | _ => []

/-- How many token accounts were created after a step. -/
def Step.created (created : UInt64) : Step → UInt64
  | createTokenAccount _ _ => created + 1
  | _ => created

/-- The accounts whose addresses a history derives. -/
def derivations (program : Pubkey) : UInt64 → List Step → List Derivation
  | _, [] => []
  | created, step :: steps =>
      step.derivations program created ++ derivations program (step.created created) steps

/-- The owner and the mint of the user account at an address. -/
def Registry.userHolder? (r : Registry) (address : Pubkey) : Option (Pubkey × Pubkey) :=
  (r.users.get? address).map fun account => (account.owner, account.mint)

/-! ## Records under derived addresses -/

/-- A live escrow lies under its own hash, and the addresses that it stands for occur. -/
structure Escrow.Keyed (D : Set Derivation) (program : Pubkey) (hash : Hash) (escrow : Escrow) :
    Prop where
  hash_eq : escrow.terms.hash = hash
  escrow_mem : .escrow program hash ∈ D
  offerer_mem : .userAccount program escrow.offerer escrow.mint ∈ D
  claimer_mem : .userAccount program escrow.claimer escrow.mint ∈ D
  vault_mem : .vault program escrow.mint ∈ D

/-- Every user account lies at the address derived from its owner and mint, and every live escrow
under its own hash. The ledger has no part in this. -/
structure Registry.Keyed (D : Set Derivation) (r : Registry) : Prop where
  user : ∀ {address owner mint : Pubkey}, r.userHolder? address = some (owner, mint) →
    .userAccount r.programId owner mint ∈ D ∧ r.userAddress owner mint = address
  escrow : ∀ {hash : Hash} {escrow : Escrow}, r.escrow? hash = some escrow →
    escrow.Keyed D r.programId hash

theorem Registry.userHolder?_of_user? {r : Registry} {owner mint : Pubkey} {account : UserAccount}
    (h : r.user? owner mint = some account) :
    r.userHolder? (r.userAddress owner mint) = some (account.owner, account.mint) := by
  unfold user? at h
  unfold userHolder?
  rw [h]
  rfl

theorem Registry.Keyed.user? {D : Set Derivation} {r : Registry} (h : r.Keyed D)
    (hD : D.InjOn Derivation.address) {owner mint : Pubkey}
    (hmem : .userAccount r.programId owner mint ∈ D) {account : UserAccount}
    (haccount : r.user? owner mint = some account) :
    account.owner = owner ∧ account.mint = mint := by
  obtain ⟨hfound, haddress⟩ := h.user (Registry.userHolder?_of_user? haccount)
  have heq := hD hfound hmem haddress
  injection heq with _ howner hmint
  exact ⟨howner, hmint⟩

/-! ## The invariant -/

/-- A live escrow lies under its own hash, and the accounts that its settlement needs exist. -/
structure Escrow.WellFormed (D : Set Derivation) (s : State) (hash : Hash) (escrow : Escrow) :
    Prop where
  hash_eq : escrow.terms.hash = hash
  escrow_mem : .escrow s.registry.programId hash ∈ D
  offerer_mem : .userAccount s.registry.programId escrow.offerer escrow.mint ∈ D
  claimer_mem : .userAccount s.registry.programId escrow.claimer escrow.mint ∈ D
  vault_mem : .vault s.registry.programId escrow.mint ∈ D
  /-- Tokens that were paid in came from an account of the offerer. -/
  paidIn : escrow.terms.payIn = true →
    ∃ source holder, escrow.offererTokenAccount = some source ∧
      s.ledger.holder? source = some holder ∧ holder.mint = escrow.mint ∧
      holder.owner = escrow.offerer
  /-- Only an escrow from an internal balance has a pot. -/
  potless : escrow.terms.payIn = true → escrow.securityDeposit = 0 ∧ escrow.claimerBounty = 0
  debited : escrow.terms.payIn = false →
    escrow.offererTokenAccount = none ∧
      (s.registry.userHolder? (s.registry.userAddress escrow.offerer escrow.mint)).isSome
  paysOut : escrow.terms.payOut = true →
    ∃ target holder, escrow.claimerTokenAccount = some target ∧
      s.ledger.holder? target = some holder ∧ holder.mint = escrow.mint
  credits : escrow.terms.payOut = false →
    escrow.claimerTokenAccount = none ∧
      (s.registry.userHolder? (s.registry.userAddress escrow.claimer escrow.mint)).isSome

theorem Escrow.WellFormed.keyed {D : Set Derivation} {s : State} {hash : Hash} {escrow : Escrow}
    (h : escrow.WellFormed D s hash) : escrow.Keyed D s.registry.programId hash :=
  ⟨h.hash_eq, h.escrow_mem, h.offerer_mem, h.claimer_mem, h.vault_mem⟩

/-- **Every account is what its address says, and every live escrow is well-formed.** -/
structure State.WellFormed (D : Set Derivation) (s : State) : Prop where
  token : ∀ {address : Pubkey} {holder : TokenAccount}, s.ledger.holder? address = some holder →
    ∃ d ∈ D, d.address = address ∧ d.holder? = some holder
  user : ∀ {address owner mint : Pubkey}, s.registry.userHolder? address = some (owner, mint) →
    .userAccount s.registry.programId owner mint ∈ D ∧
      s.registry.userAddress owner mint = address
  escrow : ∀ {hash : Hash} {escrow : Escrow}, s.registry.escrow? hash = some escrow →
    escrow.WellFormed D s hash

namespace State.WellFormed

variable {D : Set Derivation} {s : State}

theorem new (D : Set Derivation) (program : Pubkey) :
    (State.new program .empty).WellFormed D where
  token h := by cases h
  user h := by cases h
  escrow h := by cases h

theorem vault (h : s.WellFormed D) (hD : D.InjOn Derivation.address) {mint : Pubkey}
    (hmem : .vault s.registry.programId mint ∈ D) {account : TokenAccount}
    (haccount : s.ledger.tokenAccount? (s.registry.vaultAddress mint) = some account) :
    account.mint = mint ∧ account.owner = s.registry.vaultAuthority := by
  obtain ⟨d, hd, haddress, hholder⟩ := h.token (Ledger.holder?_eq_some_iff.2 ⟨_, haccount, rfl⟩)
  obtain rfl := hD hd hmem haddress
  have hvault := Option.some.inj hholder
  exact ⟨(congrArg TokenAccount.mint hvault).symm, (congrArg TokenAccount.owner hvault).symm⟩

/-- The records of a well-formed state lie where they belong. -/
theorem keyed (h : s.WellFormed D) : s.registry.Keyed D :=
  ⟨h.user, fun hlive => (h.escrow hlive).keyed⟩

end State.WellFormed

/-! ## States that grow -/

/-- A state in which accounts were added at their derived addresses and none was taken away. -/
structure State.Grows (D : Set Derivation) (s s' : State) : Prop where
  programId : s'.registry.programId = s.registry.programId
  token : ∀ address, s'.ledger.holder? address = s.ledger.holder? address ∨
    ∃ d ∈ D, ∃ holder, d.address = address ∧ d.holder? = some holder ∧
      s'.ledger.holder? address = some holder
  user : ∀ address, s'.registry.userHolder? address = s.registry.userHolder? address ∨
    ∃ owner mint, .userAccount s.registry.programId owner mint ∈ D ∧
      s.registry.userAddress owner mint = address ∧
      s'.registry.userHolder? address = some (owner, mint)

namespace State.Grows

variable {D : Set Derivation} {s s' : State}

/-- A token account that is put where one was is the same. -/
theorem holder?_eq (h : s.Grows D s') (hD : D.InjOn Derivation.address) (hs : s.WellFormed D)
    {address : Pubkey} {holder : TokenAccount} (hholder : s.ledger.holder? address = some holder) :
    s'.ledger.holder? address = some holder := by
  rcases h.token address with hsame | ⟨d, hd, new, haddress, hnew, hput⟩
  · rw [hsame, hholder]
  · -- Both lie at the address of a derivation of `D`, so it is one derivation.
    obtain ⟨d', hd', haddress', hold⟩ := hs.token hholder
    obtain rfl := hD hd hd' (haddress.trans haddress'.symm)
    rw [hput, ← hnew, hold]

theorem userHolder?_isSome (h : s.Grows D s') {address : Pubkey}
    (hholder : (s.registry.userHolder? address).isSome) :
    (s'.registry.userHolder? address).isSome := by
  rcases h.user address with hsame | ⟨owner, mint, -, -, hput⟩
  · rw [hsame]
    exact hholder
  · rw [hput]
    rfl

/-- A well-formed escrow stays well-formed while the state grows around it. -/
theorem escrow_wellFormed (h : s.Grows D s') (hD : D.InjOn Derivation.address)
    (hs : s.WellFormed D) {hash : Hash} {escrow : Escrow} (hescrow : escrow.WellFormed D s hash) :
    escrow.WellFormed D s' hash where
  hash_eq := hescrow.hash_eq
  escrow_mem := by
    rw [h.programId]
    exact hescrow.escrow_mem
  offerer_mem := by
    rw [h.programId]
    exact hescrow.offerer_mem
  claimer_mem := by
    rw [h.programId]
    exact hescrow.claimer_mem
  vault_mem := by
    rw [h.programId]
    exact hescrow.vault_mem
  -- The accounts an escrow names are still there, since a state only grows.
  paidIn hpay := by
    obtain ⟨source, holder, hsource, hholder, hmint, howner⟩ := hescrow.paidIn hpay
    exact ⟨source, holder, hsource, h.holder?_eq hD hs hholder, hmint, howner⟩
  potless := hescrow.potless
  debited hpay := by
    obtain ⟨hnone, huser⟩ := hescrow.debited hpay
    rw [Registry.userAddress_congr h.programId]
    exact ⟨hnone, h.userHolder?_isSome huser⟩
  paysOut hpay := by
    obtain ⟨target, holder, htarget, hholder, hmint⟩ := hescrow.paysOut hpay
    exact ⟨target, holder, htarget, h.holder?_eq hD hs hholder, hmint⟩
  credits hpay := by
    obtain ⟨hnone, huser⟩ := hescrow.credits hpay
    rw [Registry.userAddress_congr h.programId]
    exact ⟨hnone, h.userHolder?_isSome huser⟩

/-- A state that grows stays well-formed if each live escrow was well-formed before. -/
theorem wellFormed (h : s.Grows D s') (hD : D.InjOn Derivation.address) (hs : s.WellFormed D)
    (hescrow : ∀ {hash : Hash} {escrow : Escrow}, s'.registry.escrow? hash = some escrow →
      escrow.WellFormed D s hash) : s'.WellFormed D where
  token {address holder} hholder := by
    -- A token account is an old one, or one that the step has opened at its own derivation.
    rcases h.token address with hsame | ⟨d, hd, new, haddress, hnew, hput⟩
    · rw [hsame] at hholder
      exact hs.token hholder
    · rw [hput] at hholder
      exact ⟨d, hd, haddress, hnew.trans hholder⟩
  user {address owner mint} hholder := by
    rw [h.programId, Registry.userAddress_congr h.programId]
    rcases h.user address with hsame | ⟨owner', mint', hmem, haddress, hput⟩
    · rw [hsame] at hholder
      exact hs.user hholder
    · rw [hput] at hholder
      cases hholder
      exact ⟨hmem, haddress⟩
  escrow hlive := h.escrow_wellFormed hD hs (hescrow hlive)

end State.Grows

/-! ## What a request adds -/

namespace Registry

theorem userHolder?_congr {r r' : Registry} (h : r'.users = r.users) :
    r'.userHolder? = r.userHolder? := by
  unfold userHolder?
  rw [h]

theorem userHolder?_changeUser (r : Registry) (owner mint : Pubkey)
    {change : UserAccount → UserAccount}
    (hchange : ∀ account, (change account).owner = account.owner ∧
      (change account).mint = account.mint) :
    (r.changeUser owner mint change).userHolder? = r.userHolder? := by
  funext address
  unfold userHolder?
  rw [users_changeUser]
  split
  · cases r.users.get? address with
    | none => rfl
    | some account =>
        show some ((change account).owner, (change account).mint) = _
        rw [(hchange account).1, (hchange account).2]
        rfl
  · rfl

theorem userHolder?_setBalance (r : Registry) (owner mint : Pubkey) (balance : UInt64)
    (address : Pubkey) :
    (r.setBalance owner mint balance).userHolder? address =
      (r.userHolder? address).or
        (if r.userAddress owner mint = address then some (owner, mint) else none) := by
  unfold userHolder?
  rw [users_setBalance]
  by_cases h : r.userAddress owner mint = address
  · subst h
    rw [if_pos rfl, if_pos rfl]
    unfold user?
    cases r.users.get? (r.userAddress owner mint) <;> rfl
  · rw [if_neg h, if_neg h, Option.or_none]

end Registry

theorem UserAccount.owner_resolve (account : UserAccount) (terms : Terms)
    (resolution : Resolution) : (account.resolve terms resolution).owner = account.owner := by
  cases resolution <;> rfl

theorem UserAccount.mint_resolve (account : UserAccount) (terms : Terms)
    (resolution : Resolution) : (account.resolve terms resolution).mint = account.mint := by
  cases resolution <;> rfl

theorem LockRequest.userHolder?_commit (req : LockRequest) (plan : LockPlan) (r : Registry) :
    (req.commit plan r).userHolder? = r.userHolder? := by
  unfold commit
  rw [Registry.userHolder?_congr (Registry.users_putEscrow ..)]
  split
  · rfl
  · exact Registry.userHolder?_changeUser _ _ _ fun _ => ⟨rfl, rfl⟩

theorem ClaimPlan.userHolder?_commit (plan : ClaimPlan) (hash : Hash) (r : Registry) :
    (plan.commit hash r).userHolder? = r.userHolder? := by
  have hcredited (balance : UInt64) :
      ((r.removeEscrow hash).changeUser plan.escrow.claimer plan.escrow.mint fun account =>
        { account with amount := balance }.resolve plan.escrow.terms .success).userHolder? =
      r.userHolder? := by
    rw [Registry.userHolder?_changeUser]
    · exact Registry.userHolder?_congr (Registry.users_removeEscrow ..)
    · exact fun account => ⟨rfl, rfl⟩
  unfold commit
  -- A credit changes a balance and counters, never an owner or a mint.
  cases plan.credited <;> cases plan.buffer <;> simp only
  case none.none => rfl
  case none.some => rfl
  case some.none balance => exact hcredited balance
  case some.some balance address =>
    exact (Registry.userHolder?_congr (Registry.users_removeBuffer ..)).trans (hcredited balance)

theorem RefundPlan.userHolder?_commit (plan : RefundPlan) (hash : Hash) (r : Registry) :
    (plan.commit hash r).userHolder? = r.userHolder? := by
  have hnoted (r' : Registry) :
      (r'.changeUser plan.escrow.claimer plan.escrow.mint fun account =>
        account.resolve plan.escrow.terms plan.kind.resolution).userHolder? = r'.userHolder? := by
    rw [Registry.userHolder?_changeUser]
    exact fun account => ⟨account.owner_resolve .., account.mint_resolve ..⟩
  have hrefunded (balance : UInt64) :
      ((r.removeEscrow hash).changeUser plan.escrow.offerer plan.escrow.mint
        ({ · with amount := balance })).userHolder? = r.userHolder? := by
    rw [Registry.userHolder?_changeUser]
    · exact Registry.userHolder?_congr (Registry.users_removeEscrow ..)
    · exact fun account => ⟨rfl, rfl⟩
  unfold commit
  cases plan.refunded <;> cases plan.escrow.terms.payOut <;>
    simp only [Bool.false_eq_true, if_true, if_false]
  case none.false => exact hnoted _
  case none.true => rfl
  case some.false balance => exact (hnoted _).trans (hrefunded balance)
  case some.true balance => exact hrefunded balance

theorem LockRequest.programId_commit (req : LockRequest) (plan : LockPlan) (r : Registry) :
    (req.commit plan r).programId = r.programId := by
  unfold commit
  split <;> simp

theorem ClaimPlan.programId_commit (plan : ClaimPlan) (hash : Hash) (r : Registry) :
    (plan.commit hash r).programId = r.programId := by
  unfold commit
  cases plan.credited <;> cases plan.buffer <;> simp

theorem RefundPlan.programId_commit (plan : RefundPlan) (hash : Hash) (r : Registry) :
    (plan.commit hash r).programId = r.programId := by
  unfold commit
  cases plan.refunded <;> cases plan.escrow.terms.payOut <;> simp

theorem ClaimRequest.opened?_batch (req : ClaimRequest) (escrow : Escrow) (s : State)
    (address : Pubkey) : (req.batch escrow s).opened? address = none := by
  unfold batch
  cases escrow.terms.payOut <;> cases escrow.claimerTokenAccount <;> simp

theorem RefundRequest.opened?_batch (req : RefundRequest) (escrow : Escrow) (kind : RefundKind)
    (s : State) (address : Pubkey) : (req.batch escrow kind s).opened? address = none := by
  unfold batch
  cases escrow.terms.payIn <;> cases escrow.offererTokenAccount <;> simp

namespace Request

variable {D : Set Derivation} {env : Env} {s : State} {request : Request}
  {effect : Effect Reply}

theorem programId_effect (h : request.effect env s = .ok effect) :
    effect.registry.programId = s.registry.programId := by
  cases admitted_of_effect h with
  | lock => exact LockRequest.programId_commit ..
  | claim => exact ClaimPlan.programId_commit ..
  | refund => exact RefundPlan.programId_commit ..
  | deposit => exact Registry.programId_setBalance ..
  | withdraw => exact Registry.programId_changeUser ..
  | openBuffer => rfl
  | writeBuffer => rfl
  | closeBuffer => rfl

/-- The one kind of account that a batch opens is the vault of the request's mint. -/
theorem opened?_effect (h : request.effect env s = .ok effect) (address : Pubkey) :
    effect.batch.opened? address = none ∨
      ∃ d ∈ request.derivations s.registry.programId, d.address = address ∧
        effect.batch.opened? address = d.holder? := by
  -- Two requests open an account, a lock that pays in and a deposit, and both open the vault.
  have hvault : ∀ mint source value, ∀ b : Batch,
      b = (Batch.empty.openTokenAccount (s.registry.vaultAddress mint) s.registry.vaultAuthority
        mint).tokenTransfer source (s.registry.vaultAddress mint) mint value →
      b.opened? address = none ∨
        (Derivation.vault s.registry.programId mint).address = address ∧
          b.opened? address = (Derivation.vault s.registry.programId mint).holder? := by
    rintro mint source value b rfl
    rw [Batch.opened?_tokenTransfer, Batch.opened?_openTokenAccount, Batch.opened?_empty,
      Option.none_or]
    by_cases heq : s.registry.vaultAddress mint = address
    · rw [if_pos heq]
      exact .inr ⟨heq, rfl⟩
    · exact .inl (if_neg heq)
  cases admitted_of_effect h with
  | @lock req plan hplan =>
      obtain ⟨account, funding, -, -, hfunding, rfl⟩ := LockRequest.plan_eq_ok_iff.1 hplan
      rcases LockRequest.checkFunding_eq_ok_iff.1 hfunding with
        ⟨source, _, -, -, -, -, -, rfl⟩ | ⟨_, _, _, -, -, -, -, rfl⟩
      · rcases hvault _ _ _ _ rfl with hnone | hopened
        · exact .inl hnone
        · exact .inr ⟨_, by simp [derivations], hopened⟩
      · exact .inl (by simp)
  | claim hplan =>
      obtain ⟨_, _, _, _, _, -, -, -, -, -, -, -, rfl⟩ := ClaimRequest.plan_eq_ok_iff.1 hplan
      exact .inl (ClaimRequest.opened?_batch ..)
  | refund hplan =>
      obtain ⟨_, _, _, -, -, -, -, -, -, -, -, rfl⟩ := RefundRequest.plan_eq_ok_iff.1 hplan
      exact .inl (RefundRequest.opened?_batch ..)
  | deposit hplan =>
      obtain ⟨_, _, -, -, -, -, -, -, rfl⟩ := BalanceRequest.depositPlan_eq_ok_iff.1 hplan
      rcases hvault _ _ _ _ rfl with hnone | hopened
      · exact .inl hnone
      · exact .inr ⟨_, by simp [derivations], hopened⟩
  | withdraw hplan =>
      obtain ⟨_, _, -, -, -, -, -, rfl⟩ := BalanceRequest.withdrawPlan_eq_ok_iff.1 hplan
      exact .inl (by simp)
  | openBuffer => exact .inl rfl
  | writeBuffer => exact .inl rfl
  | closeBuffer => exact .inl rfl

theorem userHolder?_effect (h : request.effect env s = .ok effect) (address : Pubkey) :
    effect.registry.userHolder? address = s.registry.userHolder? address ∨
      ∃ owner mint,
        .userAccount s.registry.programId owner mint ∈
          request.derivations s.registry.programId ∧
        s.registry.userAddress owner mint = address ∧
        effect.registry.userHolder? address = some (owner, mint) := by
  cases admitted_of_effect h with
  | lock => exact .inl (congrFun (LockRequest.userHolder?_commit ..) _)
  | claim => exact .inl (congrFun (ClaimPlan.userHolder?_commit ..) _)
  | refund => exact .inl (congrFun (RefundPlan.userHolder?_commit ..) _)
  | @deposit req plan =>
      simp only [Registry.userHolder?_setBalance]
      -- A deposit keeps the account that is there and makes one where none is.
      cases s.registry.userHolder? address with
      | some holder => exact .inl rfl
      | none =>
          by_cases heq : s.registry.userAddress req.signer req.mint = address
          · rw [if_pos heq]
            exact .inr ⟨req.signer, req.mint, by simp [derivations], heq, rfl⟩
          · rw [if_neg heq]
            exact .inl rfl
  | withdraw =>
      refine .inl (congrFun ?_ _)
      rw [Registry.userHolder?_changeUser]
      exact fun account => ⟨rfl, rfl⟩
  | openBuffer => exact .inl rfl
  | writeBuffer => exact .inl rfl
  | closeBuffer => exact .inl rfl

theorem grows (h : request.effect env s = .ok effect) {ledger : Ledger}
    (hsteps : s.ledger.steps effect.batch.ops = .ok ledger)
    (hmem : ∀ d ∈ request.derivations s.registry.programId, d ∈ D) :
    s.Grows D ⟨effect.registry, ledger⟩ where
  programId := programId_effect h
  token address := by
    show ledger.holder? address = _ ∨ _
    rw [Ledger.holder?_steps hsteps]
    rcases opened?_effect h address with hnone | ⟨d, hd, haddress, hopened⟩
    · rw [hnone, Option.or_none]
      exact .inl rfl
    · rw [hopened]
      -- Opening an account that exists leaves it alone.
      cases hold : s.ledger.holder? address with
      | some holder => exact .inl rfl
      | none =>
          cases hnew : d.holder? with
          | none => exact .inl rfl
          | some holder => exact .inr ⟨d, hmem d hd, holder, haddress, hnew, rfl⟩
  user address := by
    rcases userHolder?_effect h address with hsame | ⟨owner, mint, hd, haddress, hopened⟩
    · exact .inl hsame
    · exact .inr ⟨owner, mint, hmem _ hd, haddress, hopened⟩

/-- A live escrow was live before, or is the one that was just locked. -/
theorem escrow?_effect (h : request.effect env s = .ok effect) {hash : Hash} {escrow : Escrow}
    (hescrow : effect.registry.escrow? hash = some escrow) :
    s.registry.escrow? hash = some escrow ∨
      ∃ req plan, request = .lock req ∧ req.plan env s = .ok plan ∧ escrow = plan.escrow ∧
        hash = req.terms.hash := by
  have hsame (hescrows : effect.registry.escrows = s.registry.escrows) :
      s.registry.escrow? hash = some escrow := by
    unfold Registry.escrow? at hescrow ⊢
    rw [← hescrows]
    exact hescrow
  have herased {key : Hash} (hescrows : effect.registry.escrows = s.registry.escrows.erase key) :
      s.registry.escrow? hash = some escrow := by
    rw [Registry.escrow?_of_erase hescrows] at hescrow
    split at hescrow
    · cases hescrow
    · exact hescrow
  -- Only a lock adds an escrow; claims and refunds remove theirs.
  cases admitted_of_effect h with
  | @lock req plan hplan =>
      rw [Registry.escrow?_of_insert (LockRequest.escrows_commit ..)] at hescrow
      split at hescrow
      case isTrue hhash =>
        obtain ⟨_, _, -, -, -, rfl⟩ := LockRequest.plan_eq_ok_iff.1 hplan
        cases hescrow
        exact .inr ⟨req, _, rfl, hplan, rfl, hhash.symm⟩
      case isFalse => exact .inl hescrow
  | claim => exact .inl (herased (ClaimPlan.escrows_commit ..))
  | refund => exact .inl (herased (RefundPlan.escrows_commit ..))
  | deposit => exact .inl (hsame (Registry.escrows_setBalance ..))
  | withdraw => exact .inl (hsame (Registry.escrows_changeUser ..))
  | openBuffer => exact .inl (hsame (Registry.escrows_putBuffer ..))
  | writeBuffer => exact .inl (hsame (Registry.escrows_putBuffer ..))
  | closeBuffer => exact .inl (hsame (Registry.escrows_removeBuffer ..))

end Request

/-- A lock leaves an escrow whose accounts the plan has looked up. -/
theorem LockRequest.escrow_wellFormed {D : Set Derivation} {env : Env} {s : State}
    {req : LockRequest} {plan : LockPlan} (hplan : req.plan env s = .ok plan)
    (hmem : ∀ d ∈ (Request.lock req).derivations s.registry.programId, d ∈ D) :
    plan.escrow.WellFormed D s req.terms.hash := by
  obtain ⟨account, funding, hterms, hdestination, hfunding, rfl⟩ := plan_eq_ok_iff.1 hplan
  -- The terms and the funding agree on whether tokens are paid in, which leaves one case of the
  -- funding for each field.
  have hkind := (checkTerms_eq_ok_iff.1 hterms).2.2.2.2.2
  have hdestination := checkDestination_eq_ok_iff.1 hdestination
  have hfunding := checkFunding_eq_ok_iff.1 hfunding
  refine ⟨rfl, hmem _ (by simp [Request.derivations]),
    hmem _ (by simp [Request.derivations, escrow]),
    hmem _ (by simp [Request.derivations, escrow]), hmem _ (by simp [Request.derivations, escrow]),
    fun hpay => ?_, fun hpay => ?_, fun hpay => ?_, fun hpay => ?_, fun hpay => ?_⟩
  · rcases hfunding with ⟨source, found, -, hfound, hmint, howner, -, rfl⟩ |
      ⟨_, _, _, hinternal, -⟩
    · exact ⟨source, _, rfl, Ledger.holder?_eq_some_iff.2 ⟨found, hfound, rfl⟩, hmint, howner⟩
    · rw [hinternal] at hkind
      exact absurd (hkind.symm.trans hpay) Bool.false_ne_true
  · rcases hfunding with ⟨_, _, -, -, -, -, -, rfl⟩ | ⟨_, _, _, hinternal, -⟩
    · exact ⟨rfl, rfl⟩
    · rw [hinternal] at hkind
      exact absurd (hkind.symm.trans hpay) Bool.false_ne_true
  · rcases hfunding with ⟨_, _, hsource, -⟩ | ⟨_, _, found, -, hfound, -, -, rfl⟩
    · rw [hsource] at hkind
      exact absurd (hpay.symm.trans hkind) Bool.false_ne_true
    · refine ⟨rfl, ?_⟩
      rw [escrow, Registry.userHolder?_of_user? hfound]
      rfl
  · rcases hdestination with ⟨-, target, found, -, hfound, hmint, rfl⟩ | ⟨hnot, -⟩
    · exact ⟨target, _, rfl, Ledger.holder?_eq_some_iff.2 ⟨found, hfound, rfl⟩, hmint⟩
    · exact absurd (hnot.symm.trans hpay) Bool.false_ne_true
  · rcases hdestination with ⟨hout, -⟩ | ⟨-, found, -, hfound, rfl⟩
    · exact absurd (hpay.symm.trans hout) Bool.false_ne_true
    · refine ⟨rfl, ?_⟩
      rw [escrow, Registry.userHolder?_of_user? hfound]
      rfl

/-- **An accepted request keeps states well-formed.** -/
theorem State.WellFormed.request {D : Set Derivation} {env : Env} {s : State}
    (hs : s.WellFormed D) (hD : D.InjOn Derivation.address) {request : Request}
    {effect : Effect Reply} (heffect : request.effect env s = .ok effect) {ledger : Ledger}
    (hsteps : s.ledger.steps effect.batch.ops = .ok ledger)
    (hmem : ∀ d ∈ request.derivations s.registry.programId, d ∈ D) :
    State.WellFormed D ⟨effect.registry, ledger⟩ := by
  refine (Request.grows heffect hsteps hmem).wellFormed hD hs fun {hash escrow} hescrow => ?_
  rcases Request.escrow?_effect heffect hescrow with hold | ⟨req, plan, rfl, hplan, rfl, rfl⟩
  · exact hs.escrow hold
  · exact LockRequest.escrow_wellFormed hplan hmem

/-! ## What happens outside -/

/-- The ledger is funded, and new accounts are opened, at derived addresses only. -/
theorem Engine.Outside.grows {D : Set Derivation} {step : Step} {s : State} {ledger : Ledger}
    (h : Outside step s.ledger ledger) (hbatch : ∀ batch, step ≠ .applyBatch batch)
    (hmem : ∀ d ∈ step.derivations s.registry.programId s.ledger.created, d ∈ D) :
    s.Grows D ⟨s.registry, ledger⟩ where
  programId := rfl
  user address := .inl rfl
  token address := by
    cases h with
    | createTokenAccount _ owner mint =>
        show (Ledger.createTokenAccount ..).2.holder? address = _ ∨ _
        rw [Ledger.holder?_createTokenAccount]
        by_cases heq : (Derivation.tokenAccount owner mint (s.ledger.created + 1)).address = address
        · rw [if_pos heq]
          exact .inr ⟨_, hmem _ (by simp [Step.derivations]), _, heq, rfl, rfl⟩
        · rw [if_neg heq]
          exact .inl rfl
    | mintTo h => exact .inl (congrFun (Ledger.holder?_mintTo h) _)
    | airdrop h =>
        refine .inl ?_
        unfold Ledger.holder?
        rw [Ledger.tokenAccount?_airdrop h]
    | applyBatch h => exact absurd rfl (hbatch _)

/-! ## Histories -/

namespace Engine

variable {D : Set Derivation}

theorem programId_step (engine : Engine) (step : Step) :
    (engine.step step).state.registry.programId = engine.state.registry.programId := by
  rcases engine.step_cases step with ⟨hstate, -⟩ |
    ⟨request, effect, ledger, -, heffect, -, hstate, -⟩ | ⟨ledger, -, hstate, -⟩
  · rw [hstate]
  · rw [hstate]
    exact Request.programId_effect heffect
  · rw [hstate]

theorem programId_run (engine : Engine) (steps : List Step) :
    (engine.run steps).state.registry.programId = engine.state.registry.programId := by
  induction steps generalizing engine with
  | nil => rfl
  | cons step rest ih => rw [run_cons, ih, programId_step]

theorem created_step (engine : Engine) (step : Step) :
    (engine.step step).state.ledger.created = step.created engine.state.ledger.created := by
  -- Outside the program one step counts, the opening of a token account, and it cannot fail.
  rcases engine.step_cases step with ⟨hstate, -⟩ |
    ⟨request, effect, ledger, rfl, -, hsteps, hstate, -⟩ | ⟨ledger, houtside, hstate, -⟩
  · cases step with
    | createTokenAccount owner mint => rfl
    | _ =>
        rw [hstate]
        rfl
  · rw [hstate]
    exact Ledger.created_steps hsteps
  · rw [hstate]
    cases houtside with
    | createTokenAccount => rfl
    | mintTo h =>
        obtain ⟨account, -, sum, -, rfl⟩ := Ledger.mintTo_eq_ok_iff.1 h
        rfl
    | airdrop h =>
        obtain ⟨sum, -, rfl⟩ := Ledger.airdrop_eq_ok_iff.1 h
        rfl
    | applyBatch h => exact Ledger.created_steps h

theorem wellFormed_step {engine : Engine} (hwf : engine.state.WellFormed D)
    (hD : D.InjOn Derivation.address) {step : Step} (hbatch : ∀ batch, step ≠ .applyBatch batch)
    (hmem : ∀ d ∈ step.derivations engine.state.registry.programId engine.state.ledger.created,
      d ∈ D) : (engine.step step).state.WellFormed D := by
  rcases engine.step_cases step with ⟨hstate, -⟩ |
    ⟨request, effect, ledger, rfl, heffect, hsteps, hstate, -⟩ | ⟨ledger, houtside, hstate, -⟩
  · rw [hstate]
    exact hwf
  · rw [hstate]
    exact hwf.request hD heffect hsteps hmem
  · rw [hstate]
    exact (houtside.grows hbatch hmem).wellFormed hD hwf hwf.escrow

/-- A history that starts in a well-formed state, keeps to addresses of which no two are the
same, and moves no value by batches of its own. -/
structure Tame (D : Set Derivation) (engine : Engine) (steps : List Step) : Prop where
  distinct : D.InjOn Derivation.address
  wellFormed : engine.state.WellFormed D
  noBatch : ∀ batch, .applyBatch batch ∉ steps
  derived : ∀ d ∈ derivations engine.state.registry.programId engine.state.ledger.created steps,
    d ∈ D

namespace Tame

variable {engine : Engine} {step : Step} {steps : List Step}

theorem new (config : Config) (now : UInt64) (hD : D.InjOn Derivation.address)
    (hbatch : ∀ batch, .applyBatch batch ∉ steps)
    (hmem : ∀ d ∈ derivations config.programId 0 steps, d ∈ D) :
    (Engine.new config now .empty).Tame D steps :=
  ⟨hD, .new D config.programId, hbatch, hmem⟩

/-- What the first step derives. -/
theorem step_derived (h : engine.Tame D (step :: steps)) :
    ∀ d ∈ step.derivations engine.state.registry.programId engine.state.ledger.created, d ∈ D :=
  fun d hd => h.derived d (List.mem_append_left _ hd)

theorem step_ne_applyBatch (h : engine.Tame D (step :: steps)) (batch : Batch) :
    step ≠ .applyBatch batch := by
  rintro rfl
  exact h.noBatch batch (List.mem_cons_self ..)

theorem tail (h : engine.Tame D (step :: steps)) : (engine.step step).Tame D steps where
  distinct := h.distinct
  wellFormed := wellFormed_step h.wellFormed h.distinct h.step_ne_applyBatch h.step_derived
  noBatch batch hlater := h.noBatch batch (List.mem_cons_of_mem _ hlater)
  derived d hd := by
    rw [programId_step, created_step] at hd
    exact h.derived d (List.mem_append_right _ hd)

/-- **Histories keep states well-formed**, and whatever else each of their steps keeps. -/
theorem run {I : Engine → Prop} (h : engine.Tame D steps) (hI : I engine)
    (hkeep : ∀ engine step, step ∈ steps → engine.Tame D [step] → I engine →
      I (engine.step step)) :
    (engine.run steps).state.WellFormed D ∧ I (engine.run steps) := by
  -- What is left of a tame history is tame, so the induction is from the front.
  induction steps generalizing engine with
  | nil => exact ⟨h.wellFormed, hI⟩
  | cons step rest ih =>
      have hfirst : engine.Tame D [step] :=
        ⟨h.distinct, h.wellFormed, fun batch hmem =>
          h.step_ne_applyBatch batch (List.mem_singleton.1 hmem).symm,
          fun d hd => h.step_derived d (by simpa [AtomicEscrow.derivations] using hd)⟩
      rw [run_cons]
      exact ih h.tail (hkeep engine step (List.mem_cons_self ..) hfirst hI)
        fun engine later hlater => hkeep engine later (List.mem_cons_of_mem _ hlater)

theorem wellFormed_run (h : engine.Tame D steps) : (engine.run steps).state.WellFormed D :=
  (h.run (I := fun _ => True) trivial fun _ _ _ _ _ => trivial).1

end Tame

end Engine

end AtomicEscrow
