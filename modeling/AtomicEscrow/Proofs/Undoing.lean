import AtomicEscrow.Proofs.Authorization
import AtomicEscrow.Proofs.Distribution
import AtomicEscrow.Proofs.Locking

set_option autoImplicit false

/-! # A refund with consent undoes the lock

The claimer may agree to a refund, and still the refund could be refused: an account may be
missing, the vault or the pot too small, a balance too large for what comes back. Right after the
lock none of this can be. What the refund takes was just put there, and what it gives back fits,
because it was there before (`State.Locks.exists_steps_refund`). That holds whichever accounts are
the same, since an account that plays two parts keeps what it pays itself.

So the refund is accepted, and the state is what it was (`State.Restores`), up to an empty vault
that the lock may have opened and the note in the reputation of the claimer.
-/

namespace AtomicEscrow

/-- The refund with the consent of the claimer that names what the record names. -/
def Escrow.cooperativeRefund (escrow : Escrow) (r : Registry) (authExpiry : UInt64)
    (preamble : Preamble) : RefundRequest :=
  { escrow.timeoutRefund r preamble with auth := .cooperative authExpiry }

/-- The first state is the second one again after a lock and its undoing. The vault of the mint may
have been opened, and is empty then. If the escrow did not pay out, its end is noted in the user
account of the claimer. -/
structure State.Restores (s' s : State) (req : LockRequest) : Prop where
  programId : s'.registry.programId = s.registry.programId
  escrow : ∀ hash, s'.registry.escrow? hash = s.registry.escrow? hash
  token : ∀ address, s'.ledger.tokenAccount? address = (s.ledger.tokenAccount? address).or
    (if req.terms.payIn = true ∧ s.registry.vaultAddress req.mint = address then
      some ⟨address, s.registry.vaultAuthority, req.mint, 0⟩ else none)
  native : ∀ owner, s'.ledger.nativeBalance owner = s.ledger.nativeBalance owner
  user : ∀ address, s'.registry.users.get? address =
    (s.registry.users.get? address).map fun account =>
      if req.terms.payOut = false ∧ s.registry.userAddress req.claimer req.mint = address then
        { account with
          cooperativeClose := account.cooperativeClose.add req.terms.kind req.terms.amount }
      else account
  buffers : s'.registry.buffers = s.registry.buffers
  created : s'.ledger.created = s.ledger.created

namespace State.Restores

variable {s s' : State} {req : LockRequest}

/-- Every token balance is what it was: a new vault is empty. -/
theorem tokenBalance (h : s'.Restores s req) (address : Pubkey) :
    s'.ledger.tokenBalance address = s.ledger.tokenBalance address := by
  unfold Ledger.tokenBalance
  rw [h.token]
  cases s.ledger.tokenAccount? address with
  | some account => rfl
  | none =>
      rw [Option.none_or]
      split <;> rfl

/-- Every internal balance is what it was: a note in the reputation is no credit. -/
theorem internalBalance (h : s'.Restores s req) (owner mint : Pubkey) :
    s'.registry.internalBalance owner mint = s.registry.internalBalance owner mint := by
  unfold Registry.internalBalance Registry.user?
  rw [Registry.userAddress_congr h.programId, h.user, Option.map_map]
  congr 2
  funext account
  show UserAccount.amount (ite _ _ _) = _
  split <;> rfl

end State.Restores

/-! ## What a lock has found -/

namespace LockRequest.Admissible

variable {req : LockRequest} {env : Env} {s : State}

/-- Tokens that are paid in come from an account of the mint that has them, and nobody else has an
account at the address of the vault. -/
theorem paidIn (h : req.Admissible env s) (hpay : req.terms.payIn = true) :
    ∃ source account, req.funding = .payIn source ∧
      s.ledger.tokenAccount? source = some account ∧ account.mint = req.mint ∧
      req.terms.amount ≤ account.amount ∧
      ∀ vault, s.ledger.tokenAccount? (s.registry.vaultAddress req.mint) = some vault →
        vault.mint = req.mint := by
  have hkind := h.payIn
  have hcovered := h.covered
  have hmovable := h.movable
  unfold Covered at hcovered
  unfold Movable at hmovable
  -- Terms that pay in are funded from a token account; the other funding contradicts them.
  cases hfunding : req.funding with
  | internal _ _ _ =>
      rw [hpay, hfunding] at hkind
      cases hkind
  | payIn source =>
      rw [hfunding] at hcovered hmovable
      obtain ⟨account, haccount, hmint, -, hle⟩ := hcovered
      exact ⟨source, account, rfl, haccount, hmint, hle, fun vault hvault =>
        (hmovable.1 vault hvault).2⟩

/-- Nobody puts up a pot when tokens are paid in. -/
theorem pot_eq_zero (h : req.Admissible env s) (hpay : req.terms.payIn = true) :
    req.funding.pot = 0 := by
  obtain ⟨source, -, hfunding, -⟩ := h.paidIn hpay
  rw [hfunding]
  rfl

/-- Other tokens come from a user account that has them, and the claimer has the pot. -/
theorem debited (h : req.Admissible env s) (hpay : req.terms.payIn = false) :
    (∃ account, s.registry.user? req.offerer req.mint = some account ∧
        req.terms.amount ≤ account.amount) ∧
      req.funding.pot ≤ s.ledger.nativeBalance req.claimer := by
  have hkind := h.payIn
  have hcovered := h.covered
  unfold Covered at hcovered
  cases hfunding : req.funding with
  | payIn source =>
      rw [hpay, hfunding] at hkind
      cases hkind
  | internal address securityDeposit claimerBounty =>
      rw [hfunding] at hcovered
      exact hcovered.2

/-- The account that a claim would have paid to is that of the claimer, unless the escrow pays
out. -/
theorem claimer (h : req.Admissible env s) (hpay : req.terms.payOut = false) :
    ∃ account, s.registry.user? req.claimer req.mint = some account := by
  have hpayee := h.payee
  unfold PayeeReady at hpayee
  rw [hpay] at hpayee
  cases hdestination : req.claimerDestination with
  | token address =>
      rw [hdestination] at hpayee
      exact hpayee.elim
  | internal address =>
      rw [hdestination] at hpayee
      exact hpayee.2

end LockRequest.Admissible

theorem Batch.nativeTransfer_zero (b : Batch) (source target : Pubkey) :
    b.nativeTransfer source target 0 = b := if_pos rfl

namespace LockRequest

variable (req : LockRequest)

theorem nativePot_recorded : req.recorded.nativePot = req.funding.pot := by
  unfold Escrow.nativePot recorded
  cases req.funding <;> rfl

theorem offererTokenAccount_recorded :
    req.recorded.offererTokenAccount = req.funding.tokenAccount? := rfl

theorem funder_recorded (hpay : req.terms.payIn = false) : req.recorded.funder = req.claimer := by
  have hterms : req.recorded.terms.payIn = false := hpay
  unfold Escrow.funder
  rw [hterms]
  rfl

end LockRequest

/-! ## Accounts that stay -/

section

variable {l l' : Ledger} {address : Pubkey}

theorem Ledger.exists_tokenAccount?_of_opened {opened : Option TokenAccount}
    (hholder : l'.holder? address = (l.holder? address).or opened) {account : TokenAccount}
    (haccount : l.tokenAccount? address = some account) :
    ∃ account', l'.tokenAccount? address = some account' ∧ account'.mint = account.mint := by
  rw [holder?_eq_some_iff.2 ⟨account, haccount, rfl⟩, Option.some_or] at hholder
  obtain ⟨account', hfound, hsame⟩ := holder?_eq_some_iff.1 hholder
  have hmint : account'.emptied.mint = account.emptied.mint := congrArg _ hsame
  exact ⟨account', hfound, hmint⟩

/-- There is an account where one was opened, and it is one of the mint if nothing else was there
before. -/
theorem Ledger.exists_account_of_opened {holder : TokenAccount}
    (hholder : l'.holder? address = (l.holder? address).or (some holder))
    (hmint : ∀ account, l.tokenAccount? address = some account → account.mint = holder.mint) :
    ∃ account', l'.tokenAccount? address = some account' ∧ account'.mint = holder.mint := by
  cases hbefore : l.tokenAccount? address with
  | some account =>
      obtain ⟨account', hfound, hsame⟩ := exists_tokenAccount?_of_opened hholder hbefore
      exact ⟨account', hfound, hsame.trans (hmint account hbefore)⟩
  | none =>
      rw [holder?_eq_none_iff.2 hbefore, Option.none_or] at hholder
      obtain ⟨account', hfound, rfl⟩ := holder?_eq_some_iff.1 hholder
      exact ⟨account', hfound, rfl⟩

end

/-! ## What a lock leaves -/

namespace State.Locks

variable {s s₁ : State} {req : LockRequest} {env env' : Env}

theorem live (h : s₁.Locks s req) :
    s₁.registry.escrow? req.terms.hash = some req.recorded :=
  (h.escrow req.terms.hash).trans (if_pos rfl)

theorem exists_tokenAccount? (h : s₁.Locks s req) {address : Pubkey} {account : TokenAccount}
    (haccount : s.ledger.tokenAccount? address = some account) :
    ∃ account', s₁.ledger.tokenAccount? address = some account' ∧
      account'.mint = account.mint := by
  exact Ledger.exists_tokenAccount?_of_opened (h.holder address) haccount

theorem exists_vault (h : s₁.Locks s req) (hreq : req.Admissible env s)
    (hpay : req.terms.payIn = true) :
    ∃ vault, s₁.ledger.tokenAccount? (s.registry.vaultAddress req.mint) = some vault ∧
      vault.mint = req.mint := by
  obtain ⟨-, -, -, -, -, -, hvault⟩ := hreq.paidIn hpay
  have hholder := h.holder (s.registry.vaultAddress req.mint)
  rw [if_pos ⟨hpay, rfl⟩] at hholder
  exact Ledger.exists_account_of_opened hholder hvault

/-- The user accounts are there, and only the offerer has less than before, by what was taken. -/
theorem exists_user? (h : s₁.Locks s req) {owner mint : Pubkey} {account : UserAccount}
    (haccount : s.registry.user? owner mint = some account) :
    ∃ balance, s₁.registry.user? owner mint = some { account with amount := balance } ∧
      (balance.toNat : Int) = account.amount.toNat -
        if req.terms.payIn = false ∧
            s.registry.userAddress req.offerer req.mint = s.registry.userAddress owner mint then
          (req.terms.amount.toNat : Int) else 0 := by
  obtain ⟨balance, hfound, hbalance⟩ := h.user _ account haccount
  refine ⟨balance, ?_, hbalance⟩
  rw [Registry.user?, Registry.userAddress_congr h.programId]
  exact hfound

/-- The vault gives back what was paid in: it has that much more than before, and the account it
came from has that much less. -/
theorem exists_moveTokens (h : s₁.Locks s req) (hreq : req.Admissible env s) {source : Pubkey}
    (hfunding : req.funding = .payIn source) :
    ∃ ledger, s₁.ledger.moveTokens (s.registry.vaultAddress req.mint) source req.mint
      req.terms.amount = .ok ledger := by
  have hpay : req.terms.payIn = true := by
    rw [hreq.payIn, hfunding]
    rfl
  obtain ⟨source', account, hfunding', haccount, hmint, hle, -⟩ := hreq.paidIn hpay
  obtain rfl : source = source' := FundingSource.payIn.inj (hfunding.symm.trans hfunding')
  obtain ⟨vault, hvault, hvaultMint⟩ := h.exists_vault hreq hpay
  obtain ⟨account', haccount', hmint'⟩ := h.exists_tokenAccount? haccount
  have hsource := h.token source
  have hfilled := h.token (s.registry.vaultAddress req.mint)
  simp only [hpay, hfunding, FundingSource.tokenAccount?, true_and, if_true, Option.some.injEq,
    Ledger.tokenBalance_of_tokenAccount? haccount, Ledger.tokenBalance_of_tokenAccount? haccount',
    Ledger.tokenBalance_of_tokenAccount? hvault] at hsource hfilled
  have hle' := UInt64.le_iff_toNat_le.1 hle
  have hlt := account.amount.toNat_lt_size
  refine Ledger.exists_moveTokens hvault hvaultMint haccount' (hmint'.trans hmint) ?_ ?_
  · -- If the source is the vault, it still has what it had.
    refine UInt64.le_iff_toNat_le.2 ?_
    split at hfilled
    case isTrue hsame =>
      subst hsame
      rw [Ledger.tokenBalance_of_tokenAccount? haccount] at hfilled
      omega
    case isFalse => omega
  · -- Otherwise it has room for what was taken from it.
    by_cases hsame : s.registry.vaultAddress req.mint = source
    · exact .inl hsame
    · rw [if_neg hsame] at hsource
      exact .inr (by omega)

/-- The pot is at the address of the escrow, and goes back to where it came from. -/
theorem exists_moveNative (h : s₁.Locks s req)
    (hle : req.funding.pot ≤ s.ledger.nativeBalance req.claimer) :
    ∃ ledger, s₁.ledger.moveNative (s.registry.escrowAddress req.terms.hash) req.claimer
      req.funding.pot = .ok ledger := by
  have hpot := h.native (s.registry.escrowAddress req.terms.hash)
  have hclaimer := h.native req.claimer
  have hle' := UInt64.le_iff_toNat_le.1 hle
  have hlt := (s.ledger.nativeBalance req.claimer).toNat_lt_size
  rw [if_pos rfl] at hpot hclaimer
  -- A claimer at the address of the escrow has paid the pot to itself: it has what it had.
  by_cases hsame : s.registry.escrowAddress req.terms.hash = req.claimer
  · rw [if_pos hsame.symm] at hpot
    refine Ledger.exists_moveNative (UInt64.le_iff_toNat_le.2 ?_) (.inl hsame)
    rw [← hsame] at hle'
    omega
  · rw [if_neg (Ne.symm hsame)] at hpot
    rw [if_neg hsame] at hclaimer
    exact Ledger.exists_moveNative (UInt64.le_iff_toNat_le.2 (by omega)) (.inr (by omega))

/-- **What the refund moves is there, and there is room for it.** -/
theorem exists_steps_refund (h : s₁.Locks s req) (hreq : req.Admissible env s)
    {refund : RefundRequest}
    (haddress : refund.escrowAddress = s₁.registry.escrowAddress req.terms.hash) :
    ∃ ledger, s₁.ledger.steps (refund.batch req.recorded .cooperative s₁).ops = .ok ledger := by
  have hempty : s₁.ledger.steps Batch.empty.ops = .ok s₁.ledger := rfl
  have hvault : s₁.registry.vaultAddress req.recorded.mint = s.registry.vaultAddress req.mint :=
    Registry.vaultAddress_congr h.programId req.mint
  rw [RefundRequest.batch_eq_payments, hvault, haddress,
    Registry.escrowAddress_congr h.programId]
  unfold Escrow.payments RefundRequest.deposit
  rw [UInt64.sub_zero, req.nativePot_recorded]
  -- Either tokens move or native funds do: there is no pot for tokens that are paid in.
  cases hpay : req.terms.payIn with
  | true =>
      obtain ⟨source, -, hfunding, -⟩ := hreq.paidIn hpay
      have hterms : req.recorded.terms.payIn = true := hpay
      obtain ⟨ledger, hmoved⟩ := h.exists_moveTokens hreq hfunding
      have htokens := Ledger.steps_tokenTransfer hempty (s.registry.vaultAddress req.mint) source
        req.mint req.terms.amount
      simp only [hterms, if_true, req.offererTokenAccount_recorded, hfunding,
        FundingSource.tokenAccount?, FundingSource.pot, Batch.nativeTransfer_zero]
      rw [hmoved] at htokens
      split at htokens <;> exact ⟨_, htokens⟩
  | false =>
      obtain ⟨-, hle⟩ := hreq.debited hpay
      have hterms : req.recorded.terms.payIn = false := hpay
      obtain ⟨ledger, hmoved⟩ := h.exists_moveNative hle
      have hnatives := Ledger.steps_nativeTransfer hempty
        (s.registry.escrowAddress req.terms.hash) req.claimer req.funding.pot
      simp only [hterms, Bool.false_eq_true, if_false, req.funder_recorded hpay,
        Batch.nativeTransfer_zero]
      rw [hmoved] at hnatives
      split at hnatives <;> exact ⟨_, hnatives⟩

/-- The tokens have somewhere to go back to: the account that they came from, or the internal
balance of the offerer, which has room for what was taken from it. -/
theorem exists_checkDestination (h : s₁.Locks s req) (hreq : req.Admissible env s)
    (authExpiry : UInt64) (preamble : Preamble) :
    ∃ refunded, (req.recorded.cooperativeRefund s₁.registry authExpiry preamble).checkDestination
      req.recorded s₁ = .ok refunded := by
  simp only [RefundRequest.checkDestination_eq_ok_iff, Escrow.cooperativeRefund,
    Escrow.timeoutRefund]
  have hterms : req.recorded.terms.payIn = req.terms.payIn := rfl
  rw [hterms]
  -- Accounts are not closed between the lock and the refund, so the payee is where it was.
  cases hpay : req.terms.payIn with
  | true =>
      obtain ⟨source, account, hfunding, haccount, hmint, -⟩ := hreq.paidIn hpay
      obtain ⟨account', haccount', hmint'⟩ := h.exists_tokenAccount? haccount
      rw [req.offererTokenAccount_recorded, hfunding]
      exact ⟨none, .inl ⟨rfl, source, account', rfl, rfl, haccount', hmint'.trans hmint, rfl⟩⟩
  | false =>
      obtain ⟨⟨account, haccount, -⟩, -⟩ := hreq.debited hpay
      obtain ⟨balance, hfound, hbalance⟩ := h.exists_user? haccount
      rw [if_pos ⟨hpay, rfl⟩] at hbalance
      -- What the lock took off is what the refund puts back, so the sum is the old balance again.
      have hsum : balance.toNat + req.terms.amount.toNat = account.amount.toNat := by omega
      exact ⟨some account.amount, .inr ⟨rfl, _, _, rfl, hfound, hsum, rfl⟩⟩

/-- **The refund is admitted.** What it names is on record and is there. -/
theorem exists_refundPlan (h : s₁.Locks s req) (hreq : req.Admissible env s) {authExpiry : UInt64}
    {preamble : Preamble} (hsource : preamble.source = Preamble.trustedSource)
    (hexpiry : env'.now < authExpiry)
    (hattested : preamble.first? = some ⟨env'.config.ed25519ProgramId,
      .ed25519 req.claimer (Commitment.refund req.terms authExpiry).toList⟩) :
    ∃ refunded, (req.recorded.cooperativeRefund s₁.registry authExpiry preamble).plan env' s₁ =
      .ok ⟨req.recorded, refunded, .cooperative, (req.recorded.cooperativeRefund s₁.registry
        authExpiry preamble).batch req.recorded .cooperative s₁⟩ := by
  obtain ⟨refunded, hdestination⟩ := h.exists_checkDestination hreq authExpiry preamble
  -- The lock asked for the claimer's account already, for the same terms.
  have hclaimer : (req.recorded.cooperativeRefund s₁.registry authExpiry preamble).checkClaimer
      req.recorded s₁ = .ok () := by
    refine RefundRequest.checkClaimer_eq_ok_iff.2 fun hpay => ⟨rfl, ?_⟩
    obtain ⟨account, haccount⟩ := hreq.claimer hpay
    obtain ⟨balance, hfound, -⟩ := h.exists_user? haccount
    exact ⟨_, hfound⟩
  have hauth : req.recorded.authorizeRefund env'.config env'.now (.cooperative authExpiry)
      preamble = .ok .cooperative :=
    Escrow.authorizeRefund_eq_ok_cooperative_iff.2 ⟨authExpiry, rfl, hexpiry, hattested⟩
  exact ⟨refunded, RefundRequest.plan_eq_ok_iff.2 ⟨req.recorded, refunded, .cooperative, rfl,
    h.live, rfl, rfl, hdestination, hclaimer, hsource, hauth, rfl⟩⟩

end State.Locks

/-- If no balance is another one, then an account that was opened is still empty. -/
theorem Ledger.tokenAccount?_of_opened {l l' : Ledger} {address : Pubkey}
    {opened : Option TokenAccount}
    (hholder : l'.holder? address = (l.holder? address).or opened)
    (hbalance : l'.tokenBalance address = l.tokenBalance address) :
    l'.tokenAccount? address = (l.tokenAccount? address).or opened := by
  -- An account there before is the same account; a new one was opened and holds nothing.
  cases hfound : l.tokenAccount? address with
  | some account =>
      rw [holder?_eq_some_iff.2 ⟨account, hfound, rfl⟩, Option.some_or] at hholder
      rw [Option.some_or, ← hfound]
      exact tokenAccount?_congr (hholder.trans (holder?_eq_some_iff.2 ⟨account, hfound, rfl⟩).symm)
        hbalance
  | none =>
      rw [holder?_eq_none_iff.2 hfound, Option.none_or] at hholder
      rw [Option.none_or]
      cases opened with
      | none => exact holder?_eq_none_iff.1 hholder
      | some new =>
          obtain ⟨account, hopened, rfl⟩ := holder?_eq_some_iff.1 hholder
          rw [tokenBalance_of_tokenAccount? hopened, tokenBalance, hfound] at hbalance
          have hempty : account.emptied = account :=
            calc account.emptied
                = { account.emptied with amount := 0 } := rfl
              _ = { account.emptied with amount := account.amount } := by
                  rw [hbalance]
                  rfl
              _ = account := rfl
          rw [hopened, hempty]

/-! ## What the refund leaves -/

namespace State.Locks

variable {s s₁ : State} {req : LockRequest} {env env' : Env}
  {refund : RefundRequest} {authExpiry : UInt64} {plan : RefundPlan} {ledger : Ledger}

theorem exists_refunded (h : s₁.Locks s req) (hhash : refund.hash = req.terms.hash)
    (hauth : refund.auth = .cooperative authExpiry) (hplan : refund.plan env' s₁ = .ok plan) :
    ∃ refunded, plan = ⟨req.recorded, refunded, .cooperative,
      refund.batch req.recorded .cooperative s₁⟩ := by
  obtain ⟨escrow, refunded, kind, -, hlive, -, -, -, -, -, hauthorized, rfl⟩ :=
    RefundRequest.plan_eq_ok_iff.1 hplan
  rw [hhash] at hlive
  cases h.live.symm.trans hlive
  rw [hauth] at hauthorized
  obtain ⟨_, -, hkind⟩ := bind_eq_ok_iff.1 hauthorized
  cases hkind
  exact ⟨refunded, rfl⟩

/-- Every token balance is what it was. What the refund takes from one account and adds to another
one, the lock has added and taken, also if the two are one. -/
theorem tokenBalance_refund (h : s₁.Locks s req) (hreq : req.Admissible env s)
    {kind : RefundKind}
    (hsteps : s₁.ledger.steps (refund.batch req.recorded kind s₁).ops = .ok ledger)
    (address : Pubkey) : ledger.tokenBalance address = s.ledger.tokenBalance address := by
  rw [RefundRequest.batch_eq_payments] at hsteps
  have hback := Escrow.tokenBalance_payments hsteps address
  have hlocked := h.token address
  have hvault : s₁.registry.vaultAddress req.recorded.mint = s.registry.vaultAddress req.mint :=
    Registry.vaultAddress_congr h.programId req.mint
  have hterms : req.recorded.terms = req.terms := rfl
  rw [hvault, hterms, req.offererTokenAccount_recorded] at hback
  -- The two equations are about the same two addresses, with the signs exchanged.
  refine UInt64.toNat_inj.1 (Int.ofNat_inj.1 ?_)
  cases hpay : req.terms.payIn with
  | true =>
      obtain ⟨source, -, hfunding, -⟩ := hreq.paidIn hpay
      simp only [hpay, hfunding, FundingSource.tokenAccount?, Option.isSome_some, if_true,
        true_and] at hback hlocked
      omega
  | false =>
      simp only [hpay, Bool.false_eq_true, if_false, false_and, reduceCtorEq,
        Option.isSome_none] at hback hlocked
      omega

/-- Whoever funds the pot of the record is the claimer, unless there is nothing in it. -/
theorem paid_refund (h : s₁.Locks s req) (hreq : req.Admissible env s)
    (hhash : refund.hash = req.terms.hash) (hauth : refund.auth = .cooperative authExpiry)
    (owner : Pubkey) :
    Request.paid s₁ owner (.refund refund) =
      if req.claimer = owner then req.funding.pot.toNat else 0 := by
  have hcompensation : refund.auth.compensation req.recorded = 0 := by
    rw [hauth]
    rfl
  simp only [Request.paid, hhash, h.live, hcompensation, req.nativePot_recorded, UInt64.sub_zero,
    UInt64.toNat_zero, ite_self, Nat.zero_add]
  cases hpay : req.terms.payIn with
  | true => simp only [hreq.pot_eq_zero hpay, UInt64.toNat_zero, ite_self]
  | false => rw [req.funder_recorded hpay]

theorem nativeBalance_refund (h : s₁.Locks s req) (hreq : req.Admissible env s)
    (hhash : refund.hash = req.terms.hash) (hauth : refund.auth = .cooperative authExpiry)
    (hplan : refund.plan env' s₁ = .ok plan)
    (hsteps : s₁.ledger.steps plan.batch.ops = .ok ledger) (owner : Pubkey) :
    ledger.nativeBalance owner = s.ledger.nativeBalance owner := by
  have hback := Ledger.nativeBalance_steps hsteps owner
  rw [(RefundRequest.potFlow hplan owner).1, (RefundRequest.potFlow hplan owner).2,
    h.paid_refund hreq hhash hauth] at hback
  have hlocked := h.native owner
  obtain ⟨refunded, rfl⟩ := h.exists_refunded hhash hauth hplan
  have haddress : s₁.registry.escrowAddress req.terms.hash =
      s.registry.escrowAddress req.terms.hash :=
    Registry.escrowAddress_congr h.programId req.terms.hash
  simp only [hhash, haddress, req.nativePot_recorded] at hback
  refine UInt64.toNat_inj.1 (Int.ofNat_inj.1 ?_)
  split_ifs at hback hlocked <;> omega

/-- The credit gives back what was taken, to the account that it was taken from. -/
theorem credit_refund (h : s₁.Locks s req) {address : Pubkey} {account : UserAccount}
    (haccount : s.registry.users.get? address = some account) :
    ∃ charged, s₁.registry.users.get? address = some charged ∧
      Ending.credit ⟨req.recorded, .cooperativeClose⟩ s₁.registry.programId address charged =
        account := by
  obtain ⟨balance, hfound, hbalance⟩ := h.user address account haccount
  refine ⟨_, hfound, ?_⟩
  -- The refund credits the one account that the lock debited, and no other.
  have hcredit : Ending.credit ⟨req.recorded, .cooperativeClose⟩ s₁.registry.programId address
      { account with amount := balance } =
      if req.terms.payIn = false ∧ s.registry.userAddress req.offerer req.mint = address then
        { account with amount := balance + req.terms.amount }
      else { account with amount := balance } := by
    rw [h.programId]
    rfl
  rw [hcredit]
  split at hbalance
  case isTrue hdebited =>
    have hsum : balance.toNat + req.terms.amount.toNat = account.amount.toNat := by omega
    rw [if_pos hdebited, ← Amount.eq_add_of_toNat hsum]
  case isFalse hkept =>
    have hsame : balance = account.amount := UInt64.toNat_inj.1 (by omega)
    rw [if_neg hkept, hsame]

/-- **What a refund with consent leaves is what the lock has found**, whatever accounts the refund
names. -/
theorem restores_of_plan (h : s₁.Locks s req) (hreq : req.Admissible env s)
    (hhash : refund.hash = req.terms.hash) (hauth : refund.auth = .cooperative authExpiry)
    (hplan : refund.plan env' s₁ = .ok plan)
    (hsteps : s₁.ledger.steps plan.batch.ops = .ok ledger) :
    State.Restores ⟨plan.commit refund.hash s₁.registry, ledger⟩ s req := by
  have hnative := h.nativeBalance_refund hreq hhash hauth hplan hsteps
  have husers := RefundPlan.users_commit hplan
  obtain ⟨refunded, rfl⟩ := h.exists_refunded hhash hauth hplan
  have htoken := h.tokenBalance_refund hreq hsteps
  constructor
  case programId => exact (RefundPlan.programId_commit ..).trans h.programId
  case escrow =>
    intro hash
    rw [Registry.escrow?_of_erase (RefundPlan.escrows_commit ..), h.escrow, hhash]
    split
    case isTrue hsame => rw [← hsame, hreq.free]
    case isFalse => rfl
  case token =>
    intro address
    have hholder : ledger.holder? address = s₁.ledger.holder? address := by
      rw [RefundRequest.batch_eq_payments] at hsteps
      exact Escrow.holder?_payments hsteps address
    exact Ledger.tokenAccount?_of_opened (hholder.trans (h.holder address)) (htoken address)
  case native => exact hnative
  case user =>
    intro address
    refine (husers address).trans ?_
    -- Only the claimer's counters differ: a cooperative refund is noted there.
    cases haccount : s.registry.users.get? address with
    | none =>
        rw [h.noUser address haccount]
        rfl
    | some account =>
        obtain ⟨charged, hcharged, hcredit⟩ := h.credit_refund haccount
        rw [hcharged, Option.map_some, Option.map_some]
        show some (Ending.note ⟨req.recorded, .cooperativeClose⟩ s₁.registry.programId address
          (Ending.credit ⟨req.recorded, .cooperativeClose⟩ s₁.registry.programId address
            charged)) = _
        rw [hcredit, h.programId]
        rfl
  case buffers => exact (RefundPlan.buffers_commit ..).trans h.buffers
  case created => exact (Ledger.created_steps hsteps).trans h.created

end State.Locks

/-! ## A lock and a refund -/

/-- **With the consent of the claimer a lock can be undone.** Right after an accepted lock the
refund that names what the record names is accepted, and every token balance, native balance and
internal balance is what it was, whichever accounts are the same. The hash is free again, and all
that is left is an empty vault and a note in the reputation of the claimer. -/
theorem Operation.refund_undoes_lock {env env' : Env} {req : LockRequest} {s s₁ : State}
    {event : LockEvent} {authExpiry : UInt64} {preamble : Preamble}
    (hlock : (lock env req).run s = (.ok event, s₁)) (hexpiry : env'.now < authExpiry)
    (hsource : preamble.source = Preamble.trustedSource)
    (hattested : preamble.first? = some ⟨env'.config.ed25519ProgramId,
      .ed25519 req.claimer (Commitment.refund req.terms authExpiry).toList⟩) :
    ∃ s₂, (refund env' (req.recorded.cooperativeRefund s₁.registry authExpiry preamble)).run s₁ =
        (.ok ⟨req.terms.hash, req.terms.sequence⟩, s₂) ∧
      (∀ address, s₂.ledger.tokenBalance address = s.ledger.tokenBalance address) ∧
      (∀ owner, s₂.ledger.nativeBalance owner = s.ledger.nativeBalance owner) ∧
      (∀ owner mint, s₂.registry.internalBalance owner mint =
        s.registry.internalBalance owner mint) ∧
      s₂.registry.escrow? req.terms.hash = none ∧ s₂.Restores s req := by
  have hreq : req.Admissible env s := LockRequest.exists_run_iff.1 ⟨event, s₁, hlock⟩
  have hlocks : s₁.Locks s req := (LockRequest.locks_of_run hlock).2
  obtain ⟨refunded, hplan⟩ := hlocks.exists_refundPlan hreq hsource hexpiry hattested
  have haddress : (req.recorded.cooperativeRefund s₁.registry authExpiry preamble).escrowAddress =
      s₁.registry.escrowAddress req.terms.hash := rfl
  obtain ⟨ledger, hsteps⟩ := hlocks.exists_steps_refund hreq haddress
  have hrestores := hlocks.restores_of_plan hreq rfl rfl hplan hsteps
  exact ⟨_, run_refund_eq_ok_iff.2 ⟨_, ledger, hplan, hsteps, rfl, rfl⟩, hrestores.tokenBalance,
    hrestores.native, hrestores.internalBalance, (hrestores.escrow _).trans hreq.free, hrestores⟩

namespace Engine

/-- An owner who has a token can lock it, if the claimer has the deposit. -/
theorem CanLock.admissible {engine : Engine} {program owner mint claimer : Pubkey} {hash : Hash}
    {deposit : UInt64} {tokens : Nat} (h : CanLock engine program owner mint (tokens + 1))
    (hfree : engine.state.registry.escrow? hash = none)
    (hcovered : deposit ≤ engine.state.ledger.nativeBalance claimer)
    (hroom : (engine.state.ledger.nativeBalance (Derivation.escrow program hash).address).toNat +
      deposit.toNat < UInt64.size) :
    (lockWithDeposit program owner mint claimer hash deposit).Admissible engine.env
      engine.state := by
  have hearly := h.early
  obtain ⟨account, huser, hone, -⟩ := h.exists_amount
  obtain ⟨-, rfl, -, htarget⟩ := h
  rw [← Amount.max_zero deposit] at hcovered hroom
  exact {
    inTime := hearly
    address := rfl
    free := hfree
    confirmations := Nat.zero_le _
    nonce := .inr rfl
    payIn := rfl
    payee := htarget
    covered := ⟨rfl, ⟨account, huser, hone⟩, hcovered⟩
    movable := .inr hroom }

/-- The owner locks a token for itself and puts up all its native funds. With its own consent it
gets everything back. -/
theorem refund_undoes_lock_of_ownDeposit :
    let s := ((Engine.new .standard 0 .empty).run
      (fundedOwner Config.standard.programId someOwner someMint)).state
    let req := lockWithDeposit Config.standard.programId someOwner someMint someOwner
      someTerms.hash 5
    let preamble := Preamble.empty.withSignature Config.standard.ed25519ProgramId someOwner
      (Commitment.refund req.terms 1).toList
    ∃ event s₁ s₂, (Operation.lock ⟨.standard, 0⟩ req).run s = (.ok event, s₁) ∧
      (Operation.refund ⟨.standard, 0⟩ (req.recorded.cooperativeRefund s₁.registry 1
        preamble)).run s₁ = (.ok ⟨someTerms.hash, 1⟩, s₂) ∧
      (s.ledger.nativeBalance someOwner).toNat = 5 ∧
      (s₁.ledger.nativeBalance someOwner).toNat = 0 ∧
      (s₂.ledger.nativeBalance someOwner).toNat = 5 ∧ s₂.Restores s req := by
  obtain ⟨hready, hfree, hnatives⟩ := run_fundedOwner .standard someOwner someMint
    someAccount_ne_vault
  have hconfig := config_run (Engine.new .standard 0 .empty)
    (fundedOwner Config.standard.programId someOwner someMint)
  generalize (Engine.new .standard 0 .empty).run
    (fundedOwner Config.standard.programId someOwner someMint) = engine at *
  intro s req preamble
  have henv : engine.env = ⟨.standard, 0⟩ := congrArg₂ Env.mk hconfig hready.now
  have hfive : (engine.state.ledger.nativeBalance someOwner).toNat = 5 :=
    (hnatives someOwner).trans (if_pos rfl)
  -- The owner holds just what the pot takes, and nothing is at the address of the escrow.
  have hadmissible : req.Admissible ⟨.standard, 0⟩ s := by
    rw [← henv]
    refine hready.admissible (hfree _) (UInt64.le_iff_toNat_le.2 (Nat.le_of_eq hfive.symm)) ?_
    rw [hnatives, if_neg someOwner_ne_escrowAddress]
    decide
  have hearly : (⟨.standard, 0⟩ : Env).now < 1 := UInt64.zero_lt_one
  have hattested : preamble.first? = some ⟨Config.standard.ed25519ProgramId,
      .ed25519 req.claimer (Commitment.refund req.terms 1).toList⟩ := rfl
  obtain ⟨event, s₁, hlock⟩ := LockRequest.exists_run_iff.2 hadmissible
  have hpaid := (LockRequest.locks_of_run hlock).2.native someOwner
  have haddress : s.registry.escrowAddress req.terms.hash ≠ someOwner := by
    rw [Registry.escrowAddress_congr (r := .empty Config.standard.programId) hready.programId]
    exact someOwner_ne_escrowAddress.symm
  have hclaimer : req.claimer = someOwner := rfl
  have hpot : req.funding.pot = 5 := Amount.max_zero 5
  have hbefore : (s.ledger.nativeBalance someOwner).toNat = 5 := hfive
  rw [if_neg haddress, if_pos hclaimer, hpot, hbefore] at hpaid
  obtain ⟨s₂, hrefund, -, hnative, -, -, hrestores⟩ :=
    Operation.refund_undoes_lock hlock hearly rfl hattested
  refine ⟨event, s₁, s₂, hlock, hrefund, hfive, Int.ofNat_inj.1 hpaid, ?_, hrestores⟩
  rw [hnative, hfive]

end Engine

end AtomicEscrow
