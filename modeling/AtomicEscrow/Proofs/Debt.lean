import AtomicEscrow.Proofs.WellFormed

set_option autoImplicit false

/-! # What the program owes

In every mint the program owes the internal balances and the tokens of the live escrows
(`Registry.owed`). Tokens that come in from outside add to the debt and tokens that are paid out
settle part of it. Everything else, a lock out of an internal balance or a settlement into one,
turns one debt into another: the two sums move, and what is owed stays.
-/

namespace AtomicEscrow

namespace Registry

/-- The internal balances in a mint, summed up. -/
def internalTotal (r : Registry) (mint : Pubkey) : Nat :=
  r.users.total fun account => if account.mint = mint then account.amount.toNat else 0

/-- The tokens of the live escrows of a mint, summed up. -/
def escrowedTotal (r : Registry) (mint : Pubkey) : Nat :=
  r.escrows.total fun escrow => if escrow.mint = mint then escrow.terms.amount.toNat else 0

/-- What the program owes in a mint. -/
def owed (r : Registry) (mint : Pubkey) : Nat := r.internalTotal mint + r.escrowedTotal mint

variable {r r' : Registry}

theorem internalTotal_congr (h : r'.users = r.users) : r'.internalTotal = r.internalTotal := by
  unfold internalTotal
  rw [h]

theorem escrowedTotal_congr (h : r'.escrows = r.escrows) :
    r'.escrowedTotal = r.escrowedTotal := by
  unfold escrowedTotal
  rw [h]

theorem escrowedTotal_of_insert {escrow : Escrow} {key : Hash} (free : r.escrow? key = none)
    (put : r'.escrows = r.escrows.insert key escrow) (mint : Pubkey) :
    r'.escrowedTotal mint =
      r.escrowedTotal mint + if escrow.mint = mint then escrow.terms.amount.toNat else 0 := by
  have htotal := r.escrows.total_insert key escrow
    fun escrow => if escrow.mint = mint then escrow.terms.amount.toNat else 0
  have hfree : r.escrows.get? key = none := free
  rw [hfree] at htotal
  unfold escrowedTotal
  rw [put]
  exact htotal

theorem escrowedTotal_of_erase {escrow : Escrow} {key : Hash} (live : r.escrow? key = some escrow)
    (removed : r'.escrows = r.escrows.erase key) (mint : Pubkey) :
    r'.escrowedTotal mint + (if escrow.mint = mint then escrow.terms.amount.toNat else 0) =
      r.escrowedTotal mint := by
  have htotal := r.escrows.total_erase key
    fun escrow => if escrow.mint = mint then escrow.terms.amount.toNat else 0
  have hlive : r.escrows.get? key = some escrow := live
  rw [hlive] at htotal
  unfold escrowedTotal
  rw [removed]
  exact htotal

/-- A credit of an account of a mint adds to the internal balances of that mint. -/
theorem internalTotal_credit {owner mint : Pubkey} {change : UserAccount → UserAccount}
    {account : UserAccount} (h : r.user? owner mint = some account) (hmint : account.mint = mint)
    (hchange : (change account).mint = mint) {amount : UInt64}
    (hsum : account.amount.toNat + amount.toNat = (change account).amount.toNat)
    (mint' : Pubkey) :
    (r.changeUser owner mint change).internalTotal mint' =
      r.internalTotal mint' + if mint = mint' then amount.toNat else 0 := by
  have htotal := r.total_changeUser owner mint change h
    fun account => if account.mint = mint' then account.amount.toNat else 0
  rw [hmint, hchange] at htotal
  unfold internalTotal
  by_cases hm : mint = mint'
  · simp only [hm, if_true] at htotal ⊢
    omega
  · simp only [hm, if_false] at htotal ⊢
    omega

/-- A debit of an account of a mint takes from the internal balances of that mint. -/
theorem internalTotal_debit {owner mint : Pubkey} {change : UserAccount → UserAccount}
    {account : UserAccount} (h : r.user? owner mint = some account) (hmint : account.mint = mint)
    (hchange : (change account).mint = mint) {amount : UInt64}
    (hsum : (change account).amount.toNat + amount.toNat = account.amount.toNat)
    (mint' : Pubkey) :
    (r.changeUser owner mint change).internalTotal mint' +
        (if mint = mint' then amount.toNat else 0) = r.internalTotal mint' := by
  have htotal := r.total_changeUser owner mint change h
    fun account => if account.mint = mint' then account.amount.toNat else 0
  rw [hmint, hchange] at htotal
  unfold internalTotal
  by_cases hm : mint = mint'
  · simp only [hm, if_true] at htotal ⊢
    omega
  · simp only [hm, if_false] at htotal ⊢
    omega

/-- A change that is not about the balance moves nothing. -/
theorem internalTotal_changeUser_of_same (r : Registry) (owner mint : Pubkey)
    {change : UserAccount → UserAccount}
    (hchange : ∀ account, (change account).mint = account.mint ∧
      (change account).amount = account.amount) :
    (r.changeUser owner mint change).internalTotal = r.internalTotal := by
  cases hfound : r.user? owner mint with
  | none =>
      unfold changeUser
      rw [hfound]
  | some account =>
      funext mint'
      have htotal := r.total_changeUser owner mint change hfound
        fun account => if account.mint = mint' then account.amount.toNat else 0
      rw [(hchange account).1, (hchange account).2] at htotal
      exact Nat.add_right_cancel htotal

/-- A deposit is a credit, of a fresh account if there is none. -/
theorem internalTotal_setBalance {owner mint : Pubkey}
    (hmint : ∀ account, r.user? owner mint = some account → account.mint = mint)
    {balance amount : UInt64}
    (hsum : (r.internalBalance owner mint).toNat + amount.toNat = balance.toNat)
    (mint' : Pubkey) :
    (r.setBalance owner mint balance).internalTotal mint' =
      r.internalTotal mint' + if mint = mint' then amount.toNat else 0 := by
  have htotal := r.users.total_insert (r.userAddress owner mint)
    { (r.user? owner mint).getD (.fresh owner mint) with amount := balance }
    fun account => if account.mint = mint' then account.amount.toNat else 0
  unfold internalTotal setBalance putUser
  unfold internalBalance at hsum
  -- The account that is replaced counted with its old balance, if there was one.
  cases hfound : r.user? owner mint with
  | none =>
      have hfree : r.users.get? (r.userAddress owner mint) = none := hfound
      rw [hfound] at hsum
      rw [hfree, hfound] at htotal
      have hzero : (0 : UInt64).toNat + amount.toNat = balance.toNat := hsum
      have hadded : _ = _ + if mint = mint' then balance.toNat else 0 := htotal
      rw [← hzero, UInt64.toNat_zero, Nat.zero_add] at hadded
      exact hadded
  | some account =>
      obtain rfl := hmint account hfound
      have hold : r.users.get? (r.userAddress owner account.mint) = some account := hfound
      rw [hfound] at hsum
      rw [hold, hfound] at htotal
      have hsum' : account.amount.toNat + amount.toNat = balance.toNat := hsum
      simp only [Option.map_some, Option.getD_some] at htotal ⊢
      by_cases hm : account.mint = mint'
      · simp only [hm, if_true] at htotal ⊢
        omega
      · simp only [hm, if_false] at htotal ⊢
        omega

/-- A settlement pays the tokens of the escrow out, or turns them into an internal balance. -/
theorem owed_settle {escrow : Escrow} {key : Hash} (live : r.escrow? key = some escrow)
    (removed : r'.escrows = r.escrows.erase key) {paid : Bool} {mint : Pubkey}
    (hpaid : paid = true → r'.internalTotal mint = r.internalTotal mint)
    (hcredited : paid = false → r'.internalTotal mint =
      r.internalTotal mint + if escrow.mint = mint then escrow.terms.amount.toNat else 0) :
    r'.owed mint +
        (if paid = true ∧ escrow.mint = mint then escrow.terms.amount.toNat else 0) =
      r.owed mint := by
  have hescrowed := escrowedTotal_of_erase live removed mint
  unfold owed
  cases paid with
  | true =>
      simp only [true_and]
      rw [hpaid rfl, Nat.add_assoc, hescrowed]
  | false =>
      simp only [Bool.false_eq_true, false_and, if_false]
      rw [hcredited rfl]
      omega

end Registry

/-! ## What requests do to the debt -/

variable {D : Set Derivation} {env : Env} {s : State}

/-- A lock of tokens that are paid in adds to the debt. A lock out of an internal balance only
turns one debt into another. -/
theorem LockRequest.owed_commit (hs : s.registry.Keyed D) (hD : D.InjOn Derivation.address)
    {req : LockRequest} {plan : LockPlan} (hplan : req.plan env s = .ok plan)
    (hmem : ∀ d ∈ (Request.lock req).derivations s.registry.programId, d ∈ D) (mint : Pubkey) :
    (req.commit plan s.registry).owed mint = s.registry.owed mint +
      if req.terms.payIn = true ∧ req.mint = mint then req.terms.amount.toNat else 0 := by
  obtain ⟨account, funding, hterms, -, hfunding, rfl⟩ := plan_eq_ok_iff.1 hplan
  obtain ⟨-, -, hfree, -, -, hkind⟩ := checkTerms_eq_ok_iff.1 hterms
  have hescrowed := Registry.escrowedTotal_of_insert hfree
    (escrows_commit req ⟨req.escrow account funding, funding.batch⟩ s.registry) mint
  unfold Registry.owed
  rw [hescrowed]
  unfold commit
  rw [Registry.internalTotal_congr (Registry.users_putEscrow ..)]
  -- The escrow adds its amount either way. A balance is debited by as much, or nothing is.
  cases hpay : req.terms.payIn with
  | true =>
      simp only [if_true, true_and]
      show _ + (_ + if req.mint = mint then req.terms.amount.toNat else 0) = _
      omega
  | false =>
      rcases checkFunding_eq_ok_iff.1 hfunding with
        ⟨_, _, hsource, -⟩ | ⟨_, _, account, -, haccount, hle, -⟩
      · rw [hpay, hsource] at hkind
        cases hkind
      · have hmint := (hs.user? hD (hmem _ (by simp [Request.derivations])) haccount).2
        have hdebit : (s.registry.changeUser req.offerer req.mint fun account =>
            { account with amount := account.amount - req.terms.amount }).internalTotal mint + _ =
            _ := Registry.internalTotal_debit haccount hmint hmint (Amount.toNat_sub_add hle) mint
        simp only [Bool.false_eq_true, if_false, false_and]
        show _ + (_ + if req.mint = mint then req.terms.amount.toNat else 0) = _
        omega

/-- A claim settles a debt by paying out, or turns it into an internal balance. -/
theorem ClaimPlan.owed_commit (hs : s.registry.Keyed D) (hD : D.InjOn Derivation.address)
    {req : ClaimRequest} {plan : ClaimPlan} (hplan : req.plan env s = .ok plan) (mint : Pubkey) :
    (plan.commit req.hash s.registry).owed mint +
        (if plan.escrow.terms.payOut = true ∧ plan.escrow.mint = mint then
          plan.escrow.terms.amount.toNat else 0) =
      s.registry.owed mint := by
  obtain ⟨escrow, credited, _, buffer, opened, -, hlive, -, hdestination, -, -, -, rfl⟩ :=
    ClaimRequest.plan_eq_ok_iff.1 hplan
  rcases ClaimRequest.checkDestination_eq_ok_iff.1 hdestination with
    ⟨hpay, _, _, -, -, -, -, rfl⟩ | ⟨hpay, account, balance, -, haccount, hsum, rfl⟩
  · -- Paid out: no balance changes, and the debt is settled.
    have hinternal : (commit ⟨escrow, none, buffer, opened, req.batch escrow s⟩ req.hash
        s.registry).internalTotal = s.registry.internalTotal :=
      Registry.internalTotal_congr (by unfold commit; cases buffer <;> rfl)
    exact Registry.owed_settle hlive (escrows_commit ..) (fun _ => congrFun hinternal mint)
      fun hcredited => by rw [hpay] at hcredited; cases hcredited
  · -- Credited: the balance of the claimer grows by what the escrow was owed.
    have hmint := (hs.user? hD (hs.escrow hlive).claimer_mem haccount).2
    have hfound : (s.registry.removeEscrow req.hash).user? escrow.claimer escrow.mint =
        some account := haccount
    have husers : (commit ⟨escrow, some balance, buffer, opened, req.batch escrow s⟩ req.hash
        s.registry).users = ((s.registry.removeEscrow req.hash).changeUser escrow.claimer
          escrow.mint fun account =>
            { account with amount := balance }.resolve escrow.terms .success).users := by
      unfold commit
      cases buffer <;> rfl
    refine Registry.owed_settle hlive (escrows_commit ..)
      (fun hpaid => by rw [hpay] at hpaid; cases hpaid) fun _ => ?_
    rw [Registry.internalTotal_congr husers]
    exact Registry.internalTotal_credit hfound hmint hmint hsum mint

/-- A refund settles a debt by paying back, or turns it into an internal balance again. -/
theorem RefundPlan.owed_commit (hs : s.registry.Keyed D) (hD : D.InjOn Derivation.address)
    {req : RefundRequest} {plan : RefundPlan} (hplan : req.plan env s = .ok plan) (mint : Pubkey) :
    (plan.commit req.hash s.registry).owed mint +
        (if plan.escrow.terms.payIn = true ∧ plan.escrow.mint = mint then
          plan.escrow.terms.amount.toNat else 0) =
      s.registry.owed mint := by
  obtain ⟨escrow, refunded, kind, -, hlive, -, -, hdestination, -, -, -, rfl⟩ :=
    RefundRequest.plan_eq_ok_iff.1 hplan
  -- The note in the reputation of the claimer is not about its balance.
  have hnoted (r : Registry) :
      (if escrow.terms.payOut then r else r.changeUser escrow.claimer escrow.mint fun account =>
        account.resolve escrow.terms kind.resolution).internalTotal = r.internalTotal := by
    split
    · rfl
    · refine Registry.internalTotal_changeUser_of_same _ _ _ fun account => ?_
      cases kind <;> exact ⟨rfl, rfl⟩
  have hremoved : (s.registry.removeEscrow req.hash).internalTotal = s.registry.internalTotal :=
    Registry.internalTotal_congr (Registry.users_removeEscrow ..)
  rcases RefundRequest.checkDestination_eq_ok_iff.1 hdestination with
    ⟨hpay, _, _, -, -, -, -, rfl⟩ | ⟨hpay, account, balance, -, haccount, hsum, rfl⟩
  · -- Paid back to where they came from, or credited to the offerer: as for a claim.
    have hinternal : (commit ⟨escrow, none, kind, req.batch escrow kind s⟩ req.hash
        s.registry).internalTotal = s.registry.internalTotal := (hnoted _).trans hremoved
    exact Registry.owed_settle hlive (escrows_commit ..) (fun _ => congrFun hinternal mint)
      fun hcredited => by rw [hpay] at hcredited; cases hcredited
  · have hmint := (hs.user? hD (hs.escrow hlive).offerer_mem haccount).2
    have hfound : (s.registry.removeEscrow req.hash).user? escrow.offerer escrow.mint =
        some account := haccount
    refine Registry.owed_settle hlive (escrows_commit ..)
      (fun hpaid => by rw [hpay] at hpaid; cases hpaid) fun _ => ?_
    unfold commit
    rw [hnoted]
    exact Registry.internalTotal_credit hfound hmint hmint hsum mint

theorem BalanceRequest.owed_deposit (hs : s.registry.Keyed D) (hD : D.InjOn Derivation.address)
    {req : BalanceRequest} {plan : BalancePlan} (hplan : req.depositPlan s = .ok plan)
    (hmem : ∀ d ∈ (Request.deposit req).derivations s.registry.programId, d ∈ D) (mint : Pubkey) :
    (s.registry.setBalance req.signer req.mint plan.balance).owed mint =
      s.registry.owed mint + if req.mint = mint then req.amount.toNat else 0 := by
  obtain ⟨_, balance, -, -, -, -, -, hsum, rfl⟩ := depositPlan_eq_ok_iff.1 hplan
  have hmint (account : UserAccount)
      (haccount : s.registry.user? req.signer req.mint = some account) : account.mint = req.mint :=
    (hs.user? hD (hmem _ (by simp [Request.derivations])) haccount).2
  have hset := Registry.internalTotal_setBalance hmint hsum mint
  unfold Registry.owed
  rw [Registry.escrowedTotal_congr (Registry.escrows_setBalance ..), hset]
  omega

theorem BalanceRequest.owed_withdraw (hs : s.registry.Keyed D) (hD : D.InjOn Derivation.address)
    {req : BalanceRequest} {plan : BalancePlan} (hplan : req.withdrawPlan s = .ok plan)
    (hmem : ∀ d ∈ (Request.withdraw req).derivations s.registry.programId, d ∈ D)
    (mint : Pubkey) :
    (s.registry.changeUser req.signer req.mint ({ · with amount := plan.balance })).owed mint +
        (if req.mint = mint then req.amount.toNat else 0) =
      s.registry.owed mint := by
  obtain ⟨account, _, -, haccount, hle, -, -, rfl⟩ := withdrawPlan_eq_ok_iff.1 hplan
  have hmint := (hs.user? hD (hmem _ (by simp [Request.derivations])) haccount).2
  have hdebit : (s.registry.changeUser req.signer req.mint
      ({ · with amount := account.amount - req.amount })).internalTotal mint + _ = _ :=
    Registry.internalTotal_debit haccount hmint hmint (Amount.toNat_sub_add hle) mint
  unfold Registry.owed
  rw [Registry.escrowedTotal_congr (Registry.escrows_changeUser ..)]
  dsimp only
  omega

end AtomicEscrow
