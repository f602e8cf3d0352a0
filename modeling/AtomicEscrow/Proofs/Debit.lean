import AtomicEscrow.Proofs.Settleable

set_option autoImplicit false

/-! # Debits are authorized

A request names every account that it touches, and anybody can submit it. So what keeps the
balances of one owner from the requests of another are the checks: that an account lies at the
address derived from its owner, that a source of tokens belongs to whoever pays, that the batch
pays out of the vault and out of the pot only. This file goes through the four tables and says for
each who can make a number in it smaller (`Request.DebitsBalance`, `Request.DebitsTokens`,
`Request.DebitsNative`), in any state and for any request (`Request.debits_authorized`). No account
is lost, and reputation only grows (`UserAccount.Kept`).
-/

namespace AtomicEscrow

/-! ## Who may take -/

/-- The request takes so much out of the internal balance of an owner in a mint: a withdrawal of the
owner, or a lock of the owner's that is not paid in. -/
def Request.DebitsBalance (owner mint : Pubkey) (amount : UInt64) : Request → Prop
  | withdraw req => req.signer = owner ∧ req.mint = mint ∧ req.amount = amount
  | lock req =>
      req.terms.payIn = false ∧ req.offerer = owner ∧ req.mint = mint ∧ req.terms.amount = amount
  | _ => False

/-- The request may take tokens from an address. It is an account of whoever deposits or pays in,
and not the vault of the mint, or it is that vault, and tokens are withdrawn, paid out, or given
back to who paid them in. -/
def Request.DebitsTokens (s : State) (address : Pubkey) : Request → Prop
  | deposit req =>
      address ≠ s.registry.vaultAddress req.mint ∧
        ∃ account, s.ledger.tokenAccount? address = some account ∧ account.owner = req.signer
  | lock req =>
      req.terms.payIn = true ∧ address ≠ s.registry.vaultAddress req.mint ∧
        ∃ account, s.ledger.tokenAccount? address = some account ∧ account.owner = req.offerer
  | withdraw req => address = s.registry.vaultAddress req.mint
  | claim req =>
      ∃ escrow, s.registry.escrow? req.hash = some escrow ∧ escrow.terms.payOut = true ∧
        address = s.registry.vaultAddress escrow.mint
  | refund req =>
      ∃ escrow, s.registry.escrow? req.hash = some escrow ∧ escrow.terms.payIn = true ∧
        address = s.registry.vaultAddress escrow.mint
  | _ => False

/-- The request may take native funds from an address: it is the claimer of a lock that is not paid
in, or the address of the escrow that is settled. -/
def Request.DebitsNative (s : State) (address : Pubkey) : Request → Prop
  | lock req => req.terms.payIn = false ∧ address = req.claimer
  | claim req => address = s.registry.escrowAddress req.hash
  | refund req => address = s.registry.escrowAddress req.hash
  | _ => False

/-! ## Accounts that are kept -/

namespace UserAccount

/-- What becomes of a user account: it stays that of its owner in its mint, and no counter of its
reputation gets smaller. -/
structure Kept (before after : UserAccount) : Prop where
  owner : after.owner = before.owner
  mint : after.mint = before.mint
  count : ∀ resolution kind, (before.trackRecord resolution).count.get kind ≤
    (after.trackRecord resolution).count.get kind
  volume : ∀ resolution kind, (before.trackRecord resolution).volume.get kind ≤
    (after.trackRecord resolution).volume.get kind

/-- A user account is kept, and its balance does not get smaller. -/
structure Credited (before after : UserAccount) : Prop extends Kept before after where
  amount : before.amount ≤ after.amount

end UserAccount

/-- **Debits are authorized.** Whatever gets smaller by a request is what the request may take from,
and no account is lost. -/
structure Request.Authorized (request : Request) (s s' : State) : Prop where
  /-- Unless two derived addresses are one, an internal balance gets smaller by what its owner
  withdraws or locks. -/
  balance : ∀ owner mint,
    Set.InjOn Derivation.address
      {d | d ∈ .userAccount s.registry.programId owner mint ::
        request.derivations s.registry.programId} →
    s'.registry.internalBalance owner mint < s.registry.internalBalance owner mint →
    ∃ amount, request.DebitsBalance owner mint amount ∧
      (s'.registry.internalBalance owner mint).toNat + amount.toNat =
        (s.registry.internalBalance owner mint).toNat
  tokens : ∀ address, s'.ledger.tokenBalance address < s.ledger.tokenBalance address →
    request.DebitsTokens s address
  native : ∀ address, s'.ledger.nativeBalance address < s.ledger.nativeBalance address →
    request.DebitsNative s address
  user : ∀ address account, s.registry.users.get? address = some account →
    ∃ account', s'.registry.users.get? address = some account' ∧ account.Kept account'
  tokenAccount : ∀ address account, s.ledger.tokenAccount? address = some account →
    ∃ account', s'.ledger.tokenAccount? address = some account' ∧
      account'.owner = account.owner ∧ account'.mint = account.mint

/-! ## Reputation -/

theorem Amount.le_addCapped (a b : UInt64) : a ≤ addCapped a b := by
  have ha : a.toNat < UInt64.size := a.toNat_lt_size
  rw [UInt64.le_iff_toNat_le, toNat_addCapped]
  omega

theorem Tally.get_le_get_add (t : Tally) (kind : SwapKind) (amount : UInt64) (kind' : SwapKind) :
    t.get kind' ≤ (t.add kind amount).get kind' := by
  rw [get_add]
  split
  · exact Amount.le_addCapped ..
  · exact UInt64.le_refl _

namespace UserAccount

variable {a b c : UserAccount}

theorem Kept.refl (a : UserAccount) : a.Kept a :=
  ⟨rfl, rfl, fun _ _ => UInt64.le_refl _, fun _ _ => UInt64.le_refl _⟩

theorem Kept.trans (h : a.Kept b) (h' : b.Kept c) : a.Kept c where
  owner := h'.owner.trans h.owner
  mint := h'.mint.trans h.mint
  count resolution kind := UInt64.le_trans (h.count resolution kind) (h'.count resolution kind)
  volume resolution kind := UInt64.le_trans (h.volume resolution kind) (h'.volume resolution kind)

theorem Credited.refl (a : UserAccount) : a.Credited a := ⟨.refl a, UInt64.le_refl _⟩

theorem Credited.trans (h : a.Credited b) (h' : b.Credited c) : a.Credited c :=
  ⟨h.toKept.trans h'.toKept, UInt64.le_trans h.amount h'.amount⟩

theorem kept_setAmount (a : UserAccount) (amount : UInt64) : a.Kept { a with amount } :=
  ⟨rfl, rfl, fun resolution _ => by cases resolution <;> exact UInt64.le_refl _,
    fun resolution _ => by cases resolution <;> exact UInt64.le_refl _⟩

theorem credited_setAmount {amount balance : UInt64}
    (h : a.amount.toNat + amount.toNat = balance.toNat) :
    a.Credited { a with amount := balance } := by
  have hle : a.amount.toNat ≤ balance.toNat := h ▸ Nat.le_add_right ..
  exact ⟨a.kept_setAmount balance, UInt64.le_iff_toNat_le.2 hle⟩

theorem trackRecord_resolve (a : UserAccount) (terms : Terms) (resolution resolution' : Resolution) :
    (a.resolve terms resolution).trackRecord resolution' =
      if resolution = resolution' then (a.trackRecord resolution').add terms.kind terms.amount
      else a.trackRecord resolution' := by
  cases resolution <;> cases resolution' <;> rfl

theorem credited_resolve (a : UserAccount) (terms : Terms) (resolution : Resolution) :
    a.Credited (a.resolve terms resolution) where
  owner := a.owner_resolve terms resolution
  mint := a.mint_resolve terms resolution
  count resolution' kind := by
    rw [trackRecord_resolve]
    split
    · exact Tally.get_le_get_add ..
    · exact UInt64.le_refl _
  volume resolution' kind := by
    rw [trackRecord_resolve]
    split
    · exact Tally.get_le_get_add ..
    · exact UInt64.le_refl _
  amount := by cases resolution <;> exact UInt64.le_refl _

end UserAccount

/-! ## User accounts -/

namespace Registry

variable {R : UserAccount → UserAccount → Prop} {r r' r'' : Registry} {owner mint : Pubkey}

/-- Every user account is still there, and has become one that it is related to. -/
def UsersKeep (R : UserAccount → UserAccount → Prop) (r r' : Registry) : Prop :=
  ∀ address account, r.users.get? address = some account →
    ∃ account', r'.users.get? address = some account' ∧ R account account'

theorem UsersKeep.of_eq (hrefl : ∀ a, R a a) (h : r'.users = r.users) : r.UsersKeep R r' := by
  intro address account hfound
  rw [h]
  exact ⟨account, hfound, hrefl account⟩

theorem UsersKeep.trans (htrans : ∀ {a b c}, R a b → R b c → R a c) (h : r.UsersKeep R r')
    (h' : r'.UsersKeep R r'') : r.UsersKeep R r'' := by
  intro address account hfound
  obtain ⟨account', hfound', hrelated⟩ := h address account hfound
  obtain ⟨account'', hfound'', hrelated'⟩ := h' address account' hfound'
  exact ⟨account'', hfound'', htrans hrelated hrelated'⟩

theorem UsersKeep.mono {R' : UserAccount → UserAccount → Prop} (hR : ∀ {a b}, R a b → R' a b)
    (h : r.UsersKeep R r') : r.UsersKeep R' r' := by
  intro address account hfound
  obtain ⟨account', hfound', hrelated⟩ := h address account hfound
  exact ⟨account', hfound', hR hrelated⟩

/-- Only the account that is changed becomes another one. -/
theorem usersKeep_changeUser (hrefl : ∀ a, R a a) {change : UserAccount → UserAccount}
    (hchange : ∀ account, r.user? owner mint = some account → R account (change account)) :
    r.UsersKeep R (r.changeUser owner mint change) := by
  intro address account hfound
  rw [users_changeUser, hfound]
  by_cases haddress : r.userAddress owner mint = address
  · subst haddress
    rw [if_pos rfl]
    exact ⟨change account, rfl, hchange account hfound⟩
  · rw [if_neg haddress]
    exact ⟨account, rfl, hrefl account⟩

theorem usersKeep_setBalance (hrefl : ∀ a, R a a) {balance : UInt64}
    (hset : ∀ account, r.user? owner mint = some account →
      R account { account with amount := balance }) :
    r.UsersKeep R (r.setBalance owner mint balance) := by
  intro address account hfound
  rw [users_setBalance]
  by_cases haddress : r.userAddress owner mint = address
  · subst haddress
    have huser : r.user? owner mint = some account := hfound
    rw [if_pos rfl, huser]
    exact ⟨{ account with amount := balance }, rfl, hset account huser⟩
  · rw [if_neg haddress]
    exact ⟨account, hfound, hrefl account⟩

theorem internalBalance_of_user? {account : UserAccount} (h : r.user? owner mint = some account) :
    r.internalBalance owner mint = account.amount := by
  unfold internalBalance
  rw [h]
  rfl

theorem UsersKeep.internalBalance_le (h : r.UsersKeep UserAccount.Credited r')
    (hprogram : r'.programId = r.programId) (owner mint : Pubkey) :
    r.internalBalance owner mint ≤ r'.internalBalance owner mint := by
  cases hfound : r.user? owner mint with
  | none =>
      have hnothing : r.internalBalance owner mint = 0 := by
        unfold internalBalance
        rw [hfound]
        rfl
      rw [hnothing]
      exact UInt64.zero_le
  | some account =>
      obtain ⟨account', hfound', hcredited⟩ := h _ account hfound
      rw [← userAddress_congr hprogram] at hfound'
      rw [internalBalance_of_user? hfound, internalBalance_of_user? hfound']
      exact hcredited.amount

theorem internalBalance_debit {account : UserAccount} {change : UserAccount → UserAccount}
    {amount : UInt64} (h : r.user? owner mint = some account)
    (hsum : (change account).amount.toNat + amount.toNat = account.amount.toNat)
    (owner' mint' : Pubkey) :
    ((r.changeUser owner mint change).internalBalance owner' mint').toNat +
        (if r.userAddress owner mint = r.userAddress owner' mint' then amount.toNat else 0) =
      (r.internalBalance owner' mint').toNat := by
  unfold internalBalance user? at *
  rw [userAddress_congr (programId_changeUser ..), users_changeUser]
  by_cases haddress : r.userAddress owner mint = r.userAddress owner' mint'
  · rw [if_pos haddress, if_pos haddress, ← haddress, h]
    exact hsum
  · rw [if_neg haddress, if_neg haddress]
    rfl

theorem userAddress_eq_iff {D : Set Derivation} (hD : D.InjOn Derivation.address)
    {owner' mint' : Pubkey} (hmem : .userAccount r.programId owner mint ∈ D)
    (hmem' : .userAccount r.programId owner' mint' ∈ D) :
    r.userAddress owner mint = r.userAddress owner' mint' ↔ owner = owner' ∧ mint = mint' := by
  constructor
  · intro heq
    have hsame := hD hmem hmem' heq
    injection hsame with _ howner hmint
    exact ⟨howner, hmint⟩
  · rintro ⟨rfl, rfl⟩
    rfl

end Registry

variable {env : Env} {s : State}

theorem LockRequest.usersKeep_commit (req : LockRequest) (plan : LockPlan) (r : Registry) :
    r.UsersKeep UserAccount.Kept (req.commit plan r) := by
  have hput (r' : Registry) : r'.UsersKeep UserAccount.Kept (r'.putEscrow plan.escrow) :=
    .of_eq .refl (Registry.users_putEscrow ..)
  unfold commit
  split
  · exact hput r
  · refine .trans .trans (Registry.usersKeep_changeUser .refl fun account _ => ?_) (hput _)
    exact account.kept_setAmount _

/-- A claim credits its claimer, and nobody else loses by it. -/
theorem ClaimPlan.usersKeep_commit {req : ClaimRequest} {plan : ClaimPlan}
    (hplan : req.plan env s = .ok plan) :
    s.registry.UsersKeep UserAccount.Credited (plan.commit req.hash s.registry) := by
  obtain ⟨escrow, credited, _, buffer, _, -, -, -, hdestination, -, -, -, rfl⟩ :=
    ClaimRequest.plan_eq_ok_iff.1 hplan
  have hremoved : s.registry.UsersKeep UserAccount.Credited (s.registry.removeEscrow req.hash) :=
    .of_eq .refl (Registry.users_removeEscrow ..)
  have hdropped (r : Registry) (address : Pubkey) :
      r.UsersKeep UserAccount.Credited (r.removeBuffer address) :=
    .of_eq .refl (Registry.users_removeBuffer ..)
  -- Three changes in a row: the escrow goes, the claimer is credited if the tokens stay, and the
  -- buffer goes if there was one.
  unfold commit
  rcases ClaimRequest.checkDestination_eq_ok_iff.1 hdestination with
    ⟨-, _, _, -, -, -, -, rfl⟩ | ⟨-, found, balance, -, hfound, hsum, rfl⟩
  · cases buffer with
    | none => exact hremoved
    | some address => exact hremoved.trans .trans (hdropped _ address)
  · -- The account that is credited is the one that the plan has found.
    have hcredited : (s.registry.removeEscrow req.hash).UsersKeep UserAccount.Credited
        ((s.registry.removeEscrow req.hash).changeUser escrow.claimer escrow.mint fun account =>
          { account with amount := balance }.resolve escrow.terms .success) := by
      refine Registry.usersKeep_changeUser .refl fun account haccount => ?_
      obtain rfl : found = account := Option.some.inj (hfound.symm.trans haccount)
      exact (UserAccount.credited_setAmount hsum).trans (UserAccount.credited_resolve ..)
    cases buffer with
    | none => exact hremoved.trans .trans hcredited
    | some address =>
        exact (hremoved.trans .trans hcredited).trans .trans (hdropped _ address)

/-- A refund credits its offerer, and nobody else loses by it. -/
theorem RefundPlan.usersKeep_commit {req : RefundRequest} {plan : RefundPlan}
    (hplan : req.plan env s = .ok plan) :
    s.registry.UsersKeep UserAccount.Credited (plan.commit req.hash s.registry) := by
  obtain ⟨escrow, refunded, kind, -, -, -, -, hdestination, -, -, -, rfl⟩ :=
    RefundRequest.plan_eq_ok_iff.1 hplan
  have hremoved : s.registry.UsersKeep UserAccount.Credited (s.registry.removeEscrow req.hash) :=
    .of_eq .refl (Registry.users_removeEscrow ..)
  -- The note in the reputation comes last, whatever happened to the balance of the offerer before.
  have hnoted (r : Registry) : r.UsersKeep UserAccount.Credited
      (if escrow.terms.payOut then r
      else r.changeUser escrow.claimer escrow.mint fun account =>
        account.resolve escrow.terms kind.resolution) := by
    split
    · exact .of_eq .refl rfl
    · exact Registry.usersKeep_changeUser .refl fun account _ =>
        UserAccount.credited_resolve ..
  unfold commit
  rcases RefundRequest.checkDestination_eq_ok_iff.1 hdestination with
    ⟨-, _, _, -, -, -, -, rfl⟩ | ⟨-, found, balance, -, hfound, hsum, rfl⟩
  · exact hremoved.trans .trans (hnoted _)
  · have hrefunded : (s.registry.removeEscrow req.hash).UsersKeep UserAccount.Credited
        ((s.registry.removeEscrow req.hash).changeUser escrow.offerer escrow.mint
          ({ · with amount := balance })) := by
      refine Registry.usersKeep_changeUser .refl fun account haccount => ?_
      -- The new balance was computed for the account that the plan has found, which is this one.
      obtain rfl : found = account := Option.some.inj (hfound.symm.trans haccount)
      exact UserAccount.credited_setAmount hsum
    exact (hremoved.trans .trans hrefunded).trans .trans (hnoted _)

theorem BalanceRequest.usersKeep_deposit {req : BalanceRequest} {plan : BalancePlan}
    (hplan : req.depositPlan s = .ok plan) :
    s.registry.UsersKeep UserAccount.Credited
      (s.registry.setBalance req.signer req.mint plan.balance) := by
  obtain ⟨_, balance, -, -, -, -, -, hsum, rfl⟩ := depositPlan_eq_ok_iff.1 hplan
  refine Registry.usersKeep_setBalance .refl fun account haccount => ?_
  rw [Registry.internalBalance_of_user? haccount] at hsum
  exact UserAccount.credited_setAmount hsum

/-! ## Batches -/

/-- What is taken only on a condition is taken because of it. -/
theorem of_ite_pos {p : Prop} [Decidable p] {n : Nat} (h : 0 < if p then n else 0) : p := by
  by_contra hnot
  rw [if_neg hnot] at h
  exact absurd h (Nat.lt_irrefl 0)

/-- A claim takes tokens from the vault, and only to pay them out. -/
theorem ClaimRequest.tokensFrom_batch (req : ClaimRequest) (escrow : Escrow) (s : State)
    (address : Pubkey) :
    (req.batch escrow s).tokensFrom address =
      if escrow.terms.payOut = true ∧ escrow.claimerTokenAccount.isSome ∧
          s.registry.vaultAddress escrow.mint = address then
        escrow.terms.amount.toNat
      else 0 := by
  unfold batch
  cases escrow.terms.payOut <;> cases escrow.claimerTokenAccount <;> simp

theorem RefundRequest.tokensFrom_batch (req : RefundRequest) (escrow : Escrow) (kind : RefundKind)
    (s : State) (address : Pubkey) :
    (req.batch escrow kind s).tokensFrom address =
      if escrow.terms.payIn = true ∧ escrow.offererTokenAccount.isSome ∧
          s.registry.vaultAddress escrow.mint = address then
        escrow.terms.amount.toNat
      else 0 := by
  unfold batch
  cases escrow.terms.payIn <;> cases escrow.offererTokenAccount <;> simp

namespace Request

variable {request : Request} {effect : Effect Reply} {ledger : Ledger}

/-- No request loses a user account, and none makes a reputation smaller. -/
theorem usersKeep_effect (h : request.effect env s = .ok effect) :
    s.registry.UsersKeep UserAccount.Kept effect.registry := by
  cases admitted_of_effect h with
  | @lock req plan => exact req.usersKeep_commit plan s.registry
  | claim hplan => exact (ClaimPlan.usersKeep_commit hplan).mono UserAccount.Credited.toKept
  | refund hplan => exact (RefundPlan.usersKeep_commit hplan).mono UserAccount.Credited.toKept
  | deposit hplan =>
      exact (BalanceRequest.usersKeep_deposit hplan).mono UserAccount.Credited.toKept
  | withdraw hplan =>
      exact Registry.usersKeep_changeUser .refl fun account _ => account.kept_setAmount _
  | openBuffer => exact .of_eq .refl rfl
  | writeBuffer => exact .of_eq .refl rfl
  | closeBuffer => exact .of_eq .refl rfl

theorem internalBalance_lock {req : LockRequest} {plan : LockPlan}
    (hplan : req.plan env s = .ok plan) (owner mint : Pubkey) :
    ((req.commit plan s.registry).internalBalance owner mint).toNat +
        (if req.terms.payIn = false ∧
            s.registry.userAddress req.offerer req.mint = s.registry.userAddress owner mint then
          req.terms.amount.toNat
        else 0) =
      (s.registry.internalBalance owner mint).toNat := by
  obtain ⟨_, funding, hterms, -, hfunding, -⟩ := LockRequest.plan_eq_ok_iff.1 hplan
  have hkind := (LockRequest.checkTerms_eq_ok_iff.1 hterms).2.2.2.2.2
  unfold LockRequest.commit
  -- Paid in from a token account, a lock has nothing to do with internal balances.
  cases hpay : req.terms.payIn with
  | true =>
      simp only [if_true, Bool.true_eq_false, false_and, if_false, Nat.add_zero]
      rfl
  | false =>
      rcases LockRequest.checkFunding_eq_ok_iff.1 hfunding with
        ⟨_, _, hsource, -⟩ | ⟨_, _, found, -, hfound, hle, -⟩
      · rw [hpay, hsource] at hkind
        cases hkind
      · simp only [Bool.false_eq_true, if_false, true_and]
        exact Registry.internalBalance_debit hfound (Amount.toNat_sub_add hle) owner mint

theorem internalBalance_withdraw {req : BalanceRequest} {plan : BalancePlan}
    (hplan : req.withdrawPlan s = .ok plan) (owner mint : Pubkey) :
    ((s.registry.changeUser req.signer req.mint
        ({ · with amount := plan.balance })).internalBalance owner mint).toNat +
        (if s.registry.userAddress req.signer req.mint = s.registry.userAddress owner mint then
          req.amount.toNat
        else 0) =
      (s.registry.internalBalance owner mint).toNat := by
  obtain ⟨account, _, -, hfound, hle, -, -, rfl⟩ := BalanceRequest.withdrawPlan_eq_ok_iff.1 hplan
  exact Registry.internalBalance_debit hfound (Amount.toNat_sub_add hle) owner mint

/-- **Internal balances**: only their owners take from them. -/
theorem debitsBalance_of_lt (h : request.effect env s = .ok effect) {owner mint : Pubkey}
    (hD : Set.InjOn Derivation.address
      {d | d ∈ .userAccount s.registry.programId owner mint ::
        request.derivations s.registry.programId})
    (hlt : effect.registry.internalBalance owner mint < s.registry.internalBalance owner mint) :
    ∃ amount, request.DebitsBalance owner mint amount ∧
      (effect.registry.internalBalance owner mint).toNat + amount.toNat =
        (s.registry.internalBalance owner mint).toNat := by
  have hprogram := programId_effect h
  have hown : .userAccount s.registry.programId owner mint ∈
      {d | d ∈ .userAccount s.registry.programId owner mint ::
        request.derivations s.registry.programId} := List.mem_cons_self ..
  -- Most requests only credit accounts, which contradicts the smaller balance. A lock and a
  -- withdrawal take an amount from one account, so that account has to be the one in question.
  have hcredited (hkeep : s.registry.UsersKeep UserAccount.Credited effect.registry) : False :=
    UInt64.not_lt.2 (hkeep.internalBalance_le hprogram owner mint) hlt
  rw [UInt64.lt_iff_toNat_lt] at hlt
  cases admitted_of_effect h with
  | @lock req plan hplan =>
      have hdebit := internalBalance_lock hplan owner mint
      by_cases hother : req.terms.payIn = false ∧
          s.registry.userAddress req.offerer req.mint = s.registry.userAddress owner mint
      · rw [if_pos hother] at hdebit
        obtain ⟨howner, hmint⟩ := (Registry.userAddress_eq_iff hD
          (List.mem_cons_of_mem _ (by simp [derivations])) hown).1 hother.2
        exact ⟨req.terms.amount, ⟨hother.1, howner, hmint, rfl⟩, hdebit⟩
      · rw [if_neg hother] at hdebit
        exact absurd hdebit (Nat.ne_of_lt hlt)
  | claim hplan => exact (hcredited (ClaimPlan.usersKeep_commit hplan)).elim
  | refund hplan => exact (hcredited (RefundPlan.usersKeep_commit hplan)).elim
  | deposit hplan => exact (hcredited (BalanceRequest.usersKeep_deposit hplan)).elim
  | @withdraw req plan hplan =>
      have hdebit := internalBalance_withdraw hplan owner mint
      by_cases hother :
          s.registry.userAddress req.signer req.mint = s.registry.userAddress owner mint
      · rw [if_pos hother] at hdebit
        obtain ⟨howner, hmint⟩ := (Registry.userAddress_eq_iff hD
          (List.mem_cons_of_mem _ (by simp [derivations])) hown).1 hother
        exact ⟨req.amount, ⟨howner, hmint, rfl⟩, hdebit⟩
      · rw [if_neg hother] at hdebit
        exact absurd hdebit (Nat.ne_of_lt hlt)
  | openBuffer => exact (hcredited (.of_eq .refl rfl)).elim
  | writeBuffer => exact (hcredited (.of_eq .refl rfl)).elim
  | closeBuffer => exact (hcredited (.of_eq .refl rfl)).elim

/-! ## Tokens and native funds -/

/-- What pays in to the vault pays out of an account that is there, and is another one. -/
theorem source_of_lt {l l' : Ledger} {source vault authority mint : Pubkey} {amount : UInt64}
    {address : Pubkey}
    (hsteps : l.steps ((Batch.empty.openTokenAccount vault authority mint).tokenTransfer source
      vault mint amount).ops = .ok l')
    (hlt : l'.tokenBalance address < l.tokenBalance address) :
    source = address ∧ address ≠ vault := by
  have hflow := Ledger.tokenBalance_steps hsteps address
  rw [UInt64.lt_iff_toNat_lt] at hlt
  simp only [Batch.tokensFrom_tokenTransfer, Batch.tokensFrom_openTokenAccount,
    Batch.tokensFrom_empty, Batch.tokensTo_tokenTransfer, Batch.tokensTo_openTokenAccount,
    Batch.tokensTo_empty, Nat.zero_add] at hflow
  by_cases hsource : source = address
  · refine ⟨hsource, fun hvault => ?_⟩
    -- What goes out of the vault into the vault stays.
    rw [if_pos hsource, if_pos hvault.symm] at hflow
    omega
  · rw [if_neg hsource] at hflow
    omega

/-- **Tokens**: they are taken from who pays in, and from the vault. -/
theorem debitsTokens_of_lt (h : request.effect env s = .ok effect)
    (hsteps : s.ledger.steps effect.batch.ops = .ok ledger) {address : Pubkey}
    (hlt : ledger.tokenBalance address < s.ledger.tokenBalance address) :
    request.DebitsTokens s address := by
  have hflow := Ledger.tokenBalance_steps hsteps address
  -- A balance gets smaller only if the batch takes something from its address, and then the batch
  -- of each request shows where it takes from.
  have hout : 0 < effect.batch.tokensFrom address := by
    rw [UInt64.lt_iff_toNat_lt] at hlt
    omega
  cases admitted_of_effect h with
  | @lock req plan hplan =>
      obtain ⟨_, funding, hterms, -, hfunding, rfl⟩ := LockRequest.plan_eq_ok_iff.1 hplan
      have hkind := (LockRequest.checkTerms_eq_ok_iff.1 hterms).2.2.2.2.2
      rcases LockRequest.checkFunding_eq_ok_iff.1 hfunding with
        ⟨source, found, hsource, hfound, -, howner, -, rfl⟩ | ⟨_, _, _, -, -, -, -, rfl⟩
      · obtain ⟨rfl, hother⟩ := source_of_lt hsteps hlt
        rw [hsource] at hkind
        exact ⟨hkind, hother, found, hfound, howner⟩
      · rw [Batch.tokensFrom_nativeTransfer] at hout
        exact absurd hout (Nat.lt_irrefl 0)
  | @claim req plan hplan =>
      obtain ⟨escrow, _, _, _, _, -, hlive, -, -, -, -, -, rfl⟩ :=
        ClaimRequest.plan_eq_ok_iff.1 hplan
      rw [ClaimRequest.tokensFrom_batch] at hout
      obtain ⟨hpay, -, haddress⟩ := of_ite_pos hout
      exact ⟨escrow, hlive, hpay, haddress.symm⟩
  | @refund req plan hplan =>
      obtain ⟨escrow, _, _, -, hlive, -, -, -, -, -, -, rfl⟩ :=
        RefundRequest.plan_eq_ok_iff.1 hplan
      rw [RefundRequest.tokensFrom_batch] at hout
      obtain ⟨hpay, -, haddress⟩ := of_ite_pos hout
      exact ⟨escrow, hlive, hpay, haddress.symm⟩
  | @deposit req plan hplan =>
      obtain ⟨found, _, -, hfound, -, howner, -, -, rfl⟩ :=
        BalanceRequest.depositPlan_eq_ok_iff.1 hplan
      obtain ⟨rfl, hother⟩ := source_of_lt hsteps hlt
      exact ⟨hother, found, hfound, howner⟩
  | @withdraw req plan hplan =>
      obtain ⟨_, _, -, -, -, -, -, rfl⟩ := BalanceRequest.withdrawPlan_eq_ok_iff.1 hplan
      rw [Batch.tokensFrom_tokenTransfer, Batch.tokensFrom_empty, Nat.zero_add] at hout
      exact (of_ite_pos hout).symm
  | openBuffer => exact absurd hout (Nat.lt_irrefl 0)
  | writeBuffer => exact absurd hout (Nat.lt_irrefl 0)
  | closeBuffer => exact absurd hout (Nat.lt_irrefl 0)

/-- **Native funds**: they are taken from claimers who put up a pot, and from the pot. -/
theorem debitsNative_of_lt (h : request.effect env s = .ok effect)
    (hsteps : s.ledger.steps effect.batch.ops = .ok ledger) {address : Pubkey}
    (hlt : ledger.nativeBalance address < s.ledger.nativeBalance address) :
    request.DebitsNative s address := by
  have hflow := Ledger.nativeBalance_steps hsteps address
  -- As for tokens: something is taken from the address, and the batches show by whom.
  have hout : 0 < effect.batch.nativesFrom address := by
    rw [UInt64.lt_iff_toNat_lt] at hlt
    omega
  cases admitted_of_effect h with
  | @lock req plan hplan =>
      obtain ⟨_, funding, hterms, -, hfunding, rfl⟩ := LockRequest.plan_eq_ok_iff.1 hplan
      have hkind := (LockRequest.checkTerms_eq_ok_iff.1 hterms).2.2.2.2.2
      rcases LockRequest.checkFunding_eq_ok_iff.1 hfunding with
        ⟨_, _, -, -, -, -, -, rfl⟩ | ⟨_, _, _, hinternal, -, -, -, rfl⟩
      · rw [Batch.nativesFrom_tokenTransfer, Batch.nativesFrom_openTokenAccount] at hout
        exact absurd hout (Nat.lt_irrefl 0)
      · rw [Batch.nativesFrom_nativeTransfer, Batch.nativesFrom_empty, Nat.zero_add] at hout
        rw [hinternal] at hkind
        exact ⟨hkind, (of_ite_pos hout).symm⟩
  | @claim req plan hplan =>
      rw [(ClaimRequest.potFlow hplan address).1] at hout
      exact (of_ite_pos hout).symm
  | @refund req plan hplan =>
      rw [(RefundRequest.potFlow hplan address).1] at hout
      exact (of_ite_pos hout).symm
  | deposit hplan =>
      obtain ⟨_, _, -, -, -, -, -, -, rfl⟩ := BalanceRequest.depositPlan_eq_ok_iff.1 hplan
      rw [Batch.nativesFrom_tokenTransfer, Batch.nativesFrom_openTokenAccount] at hout
      exact absurd hout (Nat.lt_irrefl 0)
  | withdraw hplan =>
      obtain ⟨_, _, -, -, -, -, -, rfl⟩ := BalanceRequest.withdrawPlan_eq_ok_iff.1 hplan
      rw [Batch.nativesFrom_tokenTransfer] at hout
      exact absurd hout (Nat.lt_irrefl 0)
  | openBuffer => exact absurd hout (Nat.lt_irrefl 0)
  | writeBuffer => exact absurd hout (Nat.lt_irrefl 0)
  | closeBuffer => exact absurd hout (Nat.lt_irrefl 0)

/-! ## Accepted requests -/

/-- **Debits are authorized.** In any state whatever, an accepted request makes a number smaller
only where it may: an internal balance by what its owner withdraws or locks, a token account by
what its owner deposits or pays in, the vault by what is withdrawn, paid out or given back, a
native balance as the claimer of a lock or the address of the escrow that is settled. No counter
of a reputation gets smaller, and no account is lost or becomes another owner's. -/
theorem debits_authorized (env : Env) (s s' : State) (request : Request) (reply : Reply)
    (haccepted : (request.operation env).run s = (.ok reply, s')) : request.Authorized s s' := by
  rw [run_operation] at haccepted
  obtain ⟨effect, ledger, heffect, hsteps, -, rfl⟩ := attempt_eq_ok_iff.1 haccepted
  refine ⟨?_, ?_, ?_, usersKeep_effect heffect, ?_⟩
  · intro owner mint hdistinct hlt
    exact debitsBalance_of_lt heffect hdistinct hlt
  · intro address hlt
    exact debitsTokens_of_lt heffect hsteps hlt
  · intro address hlt
    exact debitsNative_of_lt heffect hsteps hlt
  · intro address account hfound
    -- An account that was there keeps its owner and its mint: the batch opens no other one in its
    -- place.
    have hholder := Ledger.holder?_steps hsteps address
    rw [Ledger.holder?_eq_some_iff.2 ⟨account, hfound, rfl⟩, Option.some_or] at hholder
    obtain ⟨account', hfound', hsame⟩ := Ledger.holder?_eq_some_iff.1 hholder
    have howner : account'.emptied.owner = account.emptied.owner := by rw [hsame]
    have hmint : account'.emptied.mint = account.emptied.mint := by rw [hsame]
    exact ⟨account', hfound', howner, hmint⟩

theorem run_operation_lock {s' : State} {req : LockRequest} {event : LockEvent}
    (h : (Operation.lock env req).run s = (.ok event, s')) :
    ((Request.lock req).operation env).run s = (.ok (.event (.locked event)), s') := by
  unfold operation
  rw [Operation.run_bind, h]
  rfl

end Request

/-- The sample lock is accepted, and takes its tokens from an account of its offerer. -/
theorem Engine.debits_authorized_of_lockOfOwn :
    ∃ reply s',
      ((Request.lock (lockOfOwn Config.standard.programId someOwner someMint someTerms)).operation
        ⟨.standard, 0⟩).run ((Engine.new .standard 0 .empty).run
          (fundedAccount someOwner someMint someTerms.amount)).state = (.ok reply, s') ∧
      (Request.lock (lockOfOwn Config.standard.programId someOwner someMint someTerms)).Authorized
        ((Engine.new .standard 0 .empty).run
          (fundedAccount someOwner someMint someTerms.amount)).state s' := by
  obtain ⟨s', hlocked⟩ := run_lockOfOwn .standard someOwner someMint someTerms rfl rfl
    (by decide) (.inr rfl) someAccount_ne_vault
  have hrun := Request.run_operation_lock hlocked
  exact ⟨_, s', hrun, Request.debits_authorized _ _ s' _ _ hrun⟩

end AtomicEscrow
