import AtomicEscrow.Engine.Basic

set_option autoImplicit false

/-! # What an admitted request found

Every operation looks before it acts. This file says, check by check, what a check that passed
has seen: one equivalence for each check of an operation, and from them one for each plan. The
rest of the theory argues from these facts and never opens a plan again.
-/

namespace AtomicEscrow

/-! ## Checks in sequence -/

variable {ε α β : Type}

theorem bind_eq_ok_iff {x : Except ε α} {f : α → Except ε β} {b : β} :
    (x >>= f) = .ok b ↔ ∃ a, x = .ok a ∧ f a = .ok b := by
  cases x with
  | error e =>
      constructor
      · intro h
        cases h
      · rintro ⟨a, ha, -⟩
        cases ha
  | ok a =>
      constructor
      · intro h
        exact ⟨a, rfl, h⟩
      · rintro ⟨a', ha, h⟩
        cases ha
        exact h

theorem pure_eq_ok_iff {a b : α} : (pure a : Except ε α) = .ok b ↔ b = a := by
  show Except.ok a = Except.ok b ↔ b = a
  simp [eq_comm]

theorem throw_ne_ok {e : ε} {a : α} : (throw e : Except ε α) ≠ .ok a := by
  intro h
  cases h

/-- A check that refuses on a condition passes iff the condition fails and the rest passes. -/
theorem orThrow_eq_ok_iff {condition : Prop} [Decidable condition] {e : ε}
    {next : PUnit → Except ε β} {b : β} :
    (if condition then throw e >>= next else next ()) = .ok b ↔ ¬condition ∧ next () = .ok b := by
  split
  case isTrue h => simp [h, bind_eq_ok_iff, throw_ne_ok]
  case isFalse h => simp [h]

/-! ## Looking up accounts -/

theorem Ledger.tokenAccountFor_eq_ok_iff {l : Ledger} {address mint : Pubkey}
    {account : TokenAccount} :
    l.tokenAccountFor address mint = .ok account ↔
      l.tokenAccount? address = some account ∧ account.mint = mint := by
  unfold tokenAccountFor
  cases l.tokenAccount? address with
  | none => simp
  | some found =>
      by_cases hm : found.mint = mint
      · simp only [hm, ne_eq, not_true_eq_false, if_false, Except.ok.injEq, Option.some.injEq]
        constructor
        · rintro rfl
          exact ⟨rfl, hm⟩
        · exact fun h => h.1
      · simp only [ne_eq, hm, not_false_eq_true, if_true, reduceCtorEq, Option.some.injEq,
          false_iff, not_and]
        rintro rfl
        exact hm

namespace Registry

variable {r : Registry}

theorem escrowAt_eq_ok_iff {hash : Hash} {address : Pubkey} {escrow : Escrow} :
    r.escrowAt hash address = .ok escrow ↔
      r.escrowAddress hash = address ∧ r.escrow? hash = some escrow := by
  unfold escrowAt
  by_cases ha : r.escrowAddress hash = address
  · cases r.escrow? hash <;> simp [ha]
  · simp [ha]

theorem userAt_eq_ok_iff {address owner mint : Pubkey} {account : UserAccount} :
    r.userAt address owner mint = .ok account ↔
      r.userAddress owner mint = address ∧ r.user? owner mint = some account := by
  unfold userAt checkUserAddress user?
  by_cases ha : r.userAddress owner mint = address
  · simp only [ha, ne_eq, not_true_eq_false, if_false, bind_eq_ok_iff, true_and, exists_const]
    cases r.users.get? address with
    | none => simp [throw_ne_ok]
    | some found =>
        rw [pure_eq_ok_iff]
        simp [eq_comm]
  · simp [ha, bind_eq_ok_iff]

theorem checkUserAddress_eq_ok_iff {address owner mint : Pubkey} {u : Unit} :
    r.checkUserAddress address owner mint = .ok u ↔ r.userAddress owner mint = address := by
  unfold checkUserAddress
  split <;> simp_all

theorem ownBuffer_eq_ok_iff {address signer : Pubkey} {buffer : DataBuffer} :
    r.ownBuffer address signer = .ok buffer ↔
      r.buffer? address = some buffer ∧ buffer.owner = signer := by
  unfold ownBuffer
  cases r.buffer? address with
  | none => simp
  | some found =>
      by_cases ho : found.owner = signer
      · simp only [ho, ne_eq, not_true_eq_false, if_false, Except.ok.injEq, Option.some.injEq]
        constructor
        · rintro rfl
          exact ⟨rfl, ho⟩
        · exact fun h => h.1
      · simp only [ne_eq, ho, not_false_eq_true, if_true, reduceCtorEq, Option.some.injEq,
          false_iff, not_and]
        rintro rfl
        exact ho

end Registry

theorem creditedBalance_eq_ok_iff {balance amount sum : UInt64} {reason : String} :
    creditedBalance balance amount reason = .ok sum ↔
      balance.toNat + amount.toNat = sum.toNat := by
  unfold creditedBalance
  rw [← Amount.add?_eq_some_iff]
  cases Amount.add? balance amount <;> simp

theorem Preamble.checkSource_eq_ok_iff {p : Preamble} {u : Unit} :
    p.checkSource = .ok u ↔ p.source = trustedSource := require_eq_ok_iff

/-! ## Locks -/

namespace LockRequest

variable {req : LockRequest} {env : Env} {s : State}

theorem checkTerms_eq_ok_iff {u : Unit} :
    req.checkTerms env s = .ok u ↔
      env.now < req.authExpiry ∧
      s.registry.escrowAddress req.terms.hash = req.escrowAddress ∧
      s.registry.escrow? req.terms.hash = none ∧
      req.terms.confirmations ≤ env.config.maxConfirmations ∧
      (req.terms.kind = .chainNonced ∨ req.terms.nonce = 0) ∧
      req.terms.payIn = req.funding.isPayIn := by
  simp only [checkTerms, bind_eq_ok_iff, require_eq_ok_iff, exists_const]

theorem checkDestination_eq_ok_iff {account : Option Pubkey} :
    req.checkDestination s = .ok account ↔
      (req.terms.payOut = true ∧ ∃ address found, req.claimerDestination = .token address ∧
        s.ledger.tokenAccount? address = some found ∧ found.mint = req.mint ∧
        account = some address) ∨
      (req.terms.payOut = false ∧ ∃ found,
        req.claimerDestination = .internal (s.registry.userAddress req.claimer req.mint) ∧
        s.registry.user? req.claimer req.mint = some found ∧ account = none) := by
  unfold checkDestination
  cases req.terms.payOut <;> cases req.claimerDestination <;>
    simp only [bind_eq_ok_iff, pure_eq_ok_iff, throw_ne_ok, Registry.userAt_eq_ok_iff,
      Ledger.tokenAccountFor_eq_ok_iff]
  case true.token | false.internal => grind
  case true.internal | false.token => simp

theorem checkFunding_eq_ok_iff {funding : FundingPlan} :
    req.checkFunding s = .ok funding ↔
      (∃ source found, req.funding = .payIn source ∧
        s.ledger.tokenAccount? source = some found ∧ found.mint = req.mint ∧
        found.owner = req.offerer ∧ req.terms.amount ≤ found.amount ∧
        funding = ⟨some source, 0, 0,
          (Batch.empty.openTokenAccount (s.registry.vaultAddress req.mint)
            s.registry.vaultAuthority req.mint).tokenTransfer source
            (s.registry.vaultAddress req.mint) req.mint req.terms.amount⟩) ∨
      (∃ deposit bounty found,
        req.funding =
          .internal (s.registry.userAddress req.offerer req.mint) deposit bounty ∧
        s.registry.user? req.offerer req.mint = some found ∧ req.terms.amount ≤ found.amount ∧
        max deposit bounty ≤ s.ledger.nativeBalance req.claimer ∧
        funding = ⟨none, deposit, bounty,
          Batch.empty.nativeTransfer req.claimer req.escrowAddress (max deposit bounty)⟩) := by
  unfold checkFunding
  cases req.funding <;>
    simp only [bind_eq_ok_iff, pure_eq_ok_iff, require_eq_ok_iff, Registry.userAt_eq_ok_iff,
      Ledger.tokenAccountFor_eq_ok_iff, exists_const]
  case payIn source => grind
  case internal address deposit bounty => grind

/-- The escrow that a lock leaves. -/
def escrow (req : LockRequest) (account : Option Pubkey) (funding : FundingPlan) : Escrow where
  terms := req.terms
  offerer := req.offerer
  offererTokenAccount := funding.offererTokenAccount
  claimer := req.claimer
  claimerTokenAccount := account
  mint := req.mint
  claimerBounty := funding.claimerBounty
  securityDeposit := funding.securityDeposit

theorem plan_eq_ok_iff {plan : LockPlan} :
    req.plan env s = .ok plan ↔
      ∃ account funding, req.checkTerms env s = .ok () ∧
        req.checkDestination s = .ok account ∧ req.checkFunding s = .ok funding ∧
        plan = ⟨req.escrow account funding, funding.batch⟩ := by
  unfold LockRequest.plan
  simp only [bind_eq_ok_iff, pure_eq_ok_iff, escrow]
  grind

end LockRequest

/-! ## Claims -/

namespace ClaimRequest

variable {req : ClaimRequest} {env : Env} {s : State} {escrow : Escrow}

theorem checkDestination_eq_ok_iff {credited : Option UInt64} :
    req.checkDestination escrow s = .ok credited ↔
      (escrow.terms.payOut = true ∧ ∃ address found, req.claimerDestination = .token address ∧
        escrow.claimerTokenAccount = some address ∧
        s.ledger.tokenAccount? address = some found ∧ found.mint = escrow.mint ∧
        credited = none) ∨
      (escrow.terms.payOut = false ∧ ∃ found balance,
        req.claimerDestination =
          .internal (s.registry.userAddress escrow.claimer escrow.mint) ∧
        s.registry.user? escrow.claimer escrow.mint = some found ∧
        found.amount.toNat + escrow.terms.amount.toNat = balance.toNat ∧
        credited = some balance) := by
  unfold checkDestination
  cases escrow.terms.payOut <;> cases req.claimerDestination <;>
    simp only [bind_eq_ok_iff, pure_eq_ok_iff, throw_ne_ok, require_eq_ok_iff, exists_const,
      Registry.userAt_eq_ok_iff, Ledger.tokenAccountFor_eq_ok_iff, creditedBalance_eq_ok_iff]
  case true.token | false.internal => grind
  case true.internal | false.token => simp

theorem readSecret_eq_ok_iff {secret : Bytes} {buffer : Option Pubkey} :
    req.readSecret s = .ok (secret, buffer) ↔
      (req.secret = .inline secret ∧ buffer = none) ∨
      (∃ address found, req.secret = .buffer address ∧
        s.registry.buffer? address = some found ∧ found.owner = req.signer ∧
        secret = found.data ∧ buffer = some address) := by
  unfold readSecret
  cases req.secret <;>
    simp only [bind_eq_ok_iff, pure_eq_ok_iff, Registry.ownBuffer_eq_ok_iff]
  case inline => grind
  case buffer => grind

theorem plan_eq_ok_iff {plan : ClaimPlan} :
    req.plan env s = .ok plan ↔
      ∃ escrow credited secret buffer opened,
        s.registry.escrowAddress req.hash = req.escrowAddress ∧
        s.registry.escrow? req.hash = some escrow ∧ req.funder = escrow.funder ∧
        req.checkDestination escrow s = .ok credited ∧
        req.preamble.source = Preamble.trustedSource ∧
        req.readSecret s = .ok (secret, buffer) ∧
        escrow.terms.verifyClaim env.config.relayProgramId secret req.preamble = .ok opened ∧
        plan = ⟨escrow, credited, buffer, opened, req.batch escrow s⟩ := by
  unfold ClaimRequest.plan
  simp only [bind_eq_ok_iff, pure_eq_ok_iff, require_eq_ok_iff, Registry.escrowAt_eq_ok_iff,
    Preamble.checkSource_eq_ok_iff, exists_const, Prod.exists]
  grind

end ClaimRequest

/-! ## Refunds -/

namespace RefundRequest

variable {req : RefundRequest} {env : Env} {s : State} {escrow : Escrow}

theorem checkDestination_eq_ok_iff {refunded : Option UInt64} :
    req.checkDestination escrow s = .ok refunded ↔
      (escrow.terms.payIn = true ∧ ∃ address found, req.offererDestination = .token address ∧
        escrow.offererTokenAccount = some address ∧
        s.ledger.tokenAccount? address = some found ∧ found.mint = escrow.mint ∧
        refunded = none) ∨
      (escrow.terms.payIn = false ∧ ∃ found balance,
        req.offererDestination =
          .internal (s.registry.userAddress escrow.offerer escrow.mint) ∧
        s.registry.user? escrow.offerer escrow.mint = some found ∧
        found.amount.toNat + escrow.terms.amount.toNat = balance.toNat ∧
        refunded = some balance) := by
  unfold checkDestination
  cases escrow.terms.payIn <;> cases req.offererDestination <;>
    simp only [bind_eq_ok_iff, pure_eq_ok_iff, throw_ne_ok, require_eq_ok_iff, exists_const,
      Registry.userAt_eq_ok_iff, Ledger.tokenAccountFor_eq_ok_iff, creditedBalance_eq_ok_iff]
  case true.token | false.internal => grind
  case true.internal | false.token => simp

theorem checkClaimer_eq_ok_iff {u : Unit} :
    req.checkClaimer escrow s = .ok u ↔
      (escrow.terms.payOut = false →
        req.claimerUserAccount = some (s.registry.userAddress escrow.claimer escrow.mint) ∧
        ∃ found, s.registry.user? escrow.claimer escrow.mint = some found) := by
  unfold checkClaimer
  cases escrow.terms.payOut
  case true => simp
  case false =>
    cases req.claimerUserAccount with
    | none => simp
    | some address =>
        simp only [Bool.false_eq_true, if_false, bind_eq_ok_iff, pure_eq_ok_iff,
          Registry.userAt_eq_ok_iff]
        grind

theorem plan_eq_ok_iff {plan : RefundPlan} :
    req.plan env s = .ok plan ↔
      ∃ escrow refunded kind,
        s.registry.escrowAddress req.hash = req.escrowAddress ∧
        s.registry.escrow? req.hash = some escrow ∧
        req.offerer = escrow.offerer ∧ req.claimer = escrow.claimer ∧
        req.checkDestination escrow s = .ok refunded ∧ req.checkClaimer escrow s = .ok () ∧
        req.preamble.source = Preamble.trustedSource ∧
        escrow.authorizeRefund env.config env.now req.auth req.preamble = .ok kind ∧
        plan = ⟨escrow, refunded, kind, req.batch escrow kind s⟩ := by
  unfold RefundRequest.plan
  simp only [bind_eq_ok_iff, pure_eq_ok_iff, require_eq_ok_iff, Registry.escrowAt_eq_ok_iff,
    Preamble.checkSource_eq_ok_iff, exists_const]
  grind

end RefundRequest

/-! ## Deposits and withdrawals -/

namespace BalanceRequest

variable {req : BalanceRequest} {s : State}

theorem depositPlan_eq_ok_iff {plan : BalancePlan} :
    req.depositPlan s = .ok plan ↔
      ∃ source balance,
        s.registry.userAddress req.signer req.mint = req.userAccount ∧
        s.ledger.tokenAccount? req.signerTokenAccount = some source ∧ source.mint = req.mint ∧
        source.owner = req.signer ∧ req.amount ≤ source.amount ∧
        (s.registry.internalBalance req.signer req.mint).toNat + req.amount.toNat =
          balance.toNat ∧
        plan = ⟨balance, (Batch.empty.openTokenAccount (s.registry.vaultAddress req.mint)
          s.registry.vaultAuthority req.mint).tokenTransfer req.signerTokenAccount
          (s.registry.vaultAddress req.mint) req.mint req.amount⟩ := by
  unfold depositPlan
  simp only [bind_eq_ok_iff, pure_eq_ok_iff, require_eq_ok_iff, exists_const,
    Registry.checkUserAddress_eq_ok_iff, Ledger.tokenAccountFor_eq_ok_iff,
    creditedBalance_eq_ok_iff]
  grind

theorem withdrawPlan_eq_ok_iff {plan : BalancePlan} :
    req.withdrawPlan s = .ok plan ↔
      ∃ account target,
        s.registry.userAddress req.signer req.mint = req.userAccount ∧
        s.registry.user? req.signer req.mint = some account ∧ req.amount ≤ account.amount ∧
        s.ledger.tokenAccount? req.signerTokenAccount = some target ∧ target.mint = req.mint ∧
        plan = ⟨account.amount - req.amount,
          Batch.empty.tokenTransfer (s.registry.vaultAddress req.mint) req.signerTokenAccount
            req.mint req.amount⟩ := by
  unfold withdrawPlan
  simp only [bind_eq_ok_iff, pure_eq_ok_iff, require_eq_ok_iff, exists_const,
    Registry.userAt_eq_ok_iff, Ledger.tokenAccountFor_eq_ok_iff]
  grind

end BalanceRequest

end AtomicEscrow
