import AtomicEscrow.Proofs.Debit
import AtomicEscrow.Proofs.Fault

set_option autoImplicit false

/-! # Which locks are accepted, and what they change

A lock is looked at in a fixed order: its terms and its address, the account that a claim will pay
to, where the tokens and the pot come from, and in the end whether the ledger can move them. This
file writes the order down once, as the list of everything that is wrong with a request
(`LockRequest.faults`). The list is empty iff the lock is accepted, and otherwise its head is the
refusal. It is put together along the checks, each part with the check that it is about.

What an accepted lock changes is said by equations about every address, as it is for settlements:
an address that plays two parts gets both terms (`State.Locks`).
-/

namespace AtomicEscrow

/-! ## What a request names -/

def FundingSource.tokenAccount? : FundingSource → Option Pubkey
  | payIn source => some source
  | internal .. => none

def FundingSource.securityDeposit : FundingSource → UInt64
  | payIn _ => 0
  | internal _ securityDeposit _ => securityDeposit

def FundingSource.claimerBounty : FundingSource → UInt64
  | payIn _ => 0
  | internal _ _ claimerBounty => claimerBounty

/-- The token account among the places where tokens can go. -/
def BalanceAccount.tokenAccount? : BalanceAccount → Option Pubkey
  | token address => some address
  | internal _ => none

/-- The record that a lock leaves if it is accepted. -/
def LockRequest.recorded (req : LockRequest) : Escrow where
  terms := req.terms
  offerer := req.offerer
  offererTokenAccount := req.funding.tokenAccount?
  claimer := req.claimer
  claimerTokenAccount := req.claimerDestination.tokenAccount?
  mint := req.mint
  claimerBounty := req.funding.claimerBounty
  securityDeposit := req.funding.securityDeposit

/-! ## Accounts that are looked up -/

/-- What is wrong with an address that should be that of a token account of a mint. -/
def Ledger.tokenFaults (l : Ledger) (address mint : Pubkey) : List EscrowError :=
  match l.tokenAccount? address with
  | none => [.accountNotInitialized]
  | some account => refusal (account.mint = mint) .constraintTokenMint

def Registry.userFaults (r : Registry) (address owner mint : Pubkey) : List EscrowError :=
  refusal (r.userAddress owner mint = address) .constraintSeeds ++
    refusal (r.user? owner mint ≠ none) .accountNotInitialized

theorem Ledger.tokenFaults_eq_nil_iff {l : Ledger} {address mint : Pubkey} :
    l.tokenFaults address mint = [] ↔
      ∃ account, l.tokenAccount? address = some account ∧ account.mint = mint := by
  unfold tokenFaults
  cases l.tokenAccount? address <;> simp

theorem Registry.userFaults_eq_nil_iff {r : Registry} {address owner mint : Pubkey} :
    r.userFaults address owner mint = [] ↔
      r.userAddress owner mint = address ∧ ∃ account, r.user? owner mint = some account := by
  simp [userFaults, Option.ne_none_iff_exists']

theorem Ledger.failsFirst_tokenAccountFor {l : Ledger} {address mint : Pubkey} :
    FailsFirst (l.tokenAccountFor address mint) (l.tokenFaults address mint) := by
  intro e
  unfold tokenAccountFor tokenFaults
  cases l.tokenAccount? address with
  | none => simp
  | some account => by_cases hmint : account.mint = mint <;> simp [refusal, hmint]

theorem Registry.failsFirst_checkUserAddress {r : Registry} {address owner mint : Pubkey} :
    FailsFirst (r.checkUserAddress address owner mint)
      (refusal (r.userAddress owner mint = address) .constraintSeeds) := by
  intro e
  unfold checkUserAddress
  by_cases haddress : r.userAddress owner mint = address <;> simp [refusal, haddress]

theorem Registry.failsFirst_userAt {r : Registry} {address owner mint : Pubkey} :
    FailsFirst (r.userAt address owner mint) (r.userFaults address owner mint) := by
  refine failsFirst_checkUserAddress.bind_of_ok fun _ hok e => ?_
  obtain rfl := checkUserAddress_eq_ok_iff.1 hok
  cases hfound : r.users.get? (r.userAddress owner mint) with
  | none =>
      have hnone : r.user? owner mint = none := hfound
      simp [refusal, hnone, throw_eq_error_iff]
  | some account =>
      have hsome : r.user? owner mint = some account := hfound
      simp [refusal, hsome, pure_ne_error]

/-! ## What the ledger cannot move -/

namespace Ledger

variable {l l' : Ledger} {address owner mint source target : Pubkey} {amount : UInt64}

theorem failsFirst_openAccount : FailsFirst (l.openAccount address owner mint)
    (refusal ((l.tokenAccount? address).all fun account =>
      account.owner = owner ∧ account.mint = mint) (.accountExists address)) := by
  intro e
  unfold openAccount tokenAccount?
  cases l.tokens.get? address with
  | none => simp [refusal]
  | some account =>
      by_cases hsame : account.owner = owner ∧ account.mint = mint <;> simp [refusal, hsame]

/-- An account that was opened or found is there, with what it held, and so is every other one. -/
theorem tokenAccount?_openAccount (h : l.openAccount address owner mint = .ok l') :
    (∀ other account, l.tokenAccount? other = some account →
      l'.tokenAccount? other = some account) ∧
    ∃ account, l'.tokenAccount? address = some account ∧ account.mint = mint ∧
      account.amount = l.tokenBalance address := by
  rcases openAccount_eq_ok_iff.1 h with ⟨hnone, rfl⟩ | ⟨account, hfound, -, hmint, rfl⟩
  · have hput (other : Pubkey) : (l.putToken ⟨address, owner, mint, 0⟩).tokenAccount? other =
        if address = other then some ⟨address, owner, mint, 0⟩ else l.tokenAccount? other :=
      Table.get?_insert ..
    refine ⟨fun other account hother => ?_, _, (hput address).trans (if_pos rfl), rfl, ?_⟩
    · have hne : address ≠ other := by
        rintro rfl
        rw [hnone] at hother
        cases hother
      rw [hput, if_neg hne, hother]
    · rw [tokenBalance, hnone]
      rfl
  · exact ⟨fun _ _ hother => hother, account, hfound, hmint,
      (tokenBalance_of_tokenAccount? hfound).symm⟩

/-- A transfer that is covered fails only if the balance of the payee overflows, which it does not
if the payer is the payee. -/
theorem failsFirst_moveTokens {payer found : TokenAccount}
    (hpayer : l.tokenAccount? source = some payer) (hmint : payer.mint = mint)
    (hfound : l.tokenAccount? target = some found) (hmint' : found.mint = mint)
    (hle : amount ≤ payer.amount) : FailsFirst (l.moveTokens source target mint amount)
      (refusal (source = target ∨ found.amount.toNat + amount.toNat < UInt64.size) .overflow) := by
  intro e
  by_cases hfits : source = target ∨ found.amount.toNat + amount.toNat < UInt64.size
  · obtain ⟨l', hmoved⟩ := exists_moveTokens hpayer hmint hfound hmint' hle hfits
    simp [hmoved, refusal, hfits]
  · obtain ⟨hne, hoverflow⟩ := not_or.1 hfits
    rw [moveTokens_eq_overflow hpayer hmint hfound hmint' hle hne (Nat.le_of_not_lt hoverflow)]
    simp [refusal, hfits]

theorem failsFirst_moveNative (hle : amount ≤ l.nativeBalance source) :
    FailsFirst (l.moveNative source target amount)
      (refusal (source = target ∨ (l.nativeBalance target).toNat + amount.toNat < UInt64.size)
        .overflow) := by
  intro e
  by_cases hfits : source = target ∨ (l.nativeBalance target).toNat + amount.toNat < UInt64.size
  · obtain ⟨l', hmoved⟩ := exists_moveNative hle hfits
    simp [hmoved, refusal, hfits]
  · obtain ⟨hne, hoverflow⟩ := not_or.1 hfits
    rw [moveNative_eq_overflow hle hne (Nat.le_of_not_lt hoverflow)]
    simp [refusal, hfits]

/-- A transfer at the end of a batch comes after the rest of it, and a transfer of nothing is left
out. -/
theorem steps_tokenTransfer_bind (b : Batch) :
    l.steps (b.tokenTransfer source target mint amount).ops = l.steps b.ops >>= fun next =>
      if amount = 0 then .ok next else next.moveTokens source target mint amount := by
  cases hsteps : l.steps b.ops with
  | ok next => exact steps_tokenTransfer hsteps ..
  | error e =>
      unfold Batch.tokenTransfer
      split
      · exact hsteps
      · rw [steps_concat, hsteps]
        rfl

end Ledger

/-! ## What an attempt answers -/

section

variable {α : Type} {admitted : Except EscrowError (Effect α)} {s s' : State} {e : EscrowError}

theorem fst_attempt : (attempt admitted s).1 = admitted >>= fun effect =>
    (s.ledger.steps effect.batch.ops).mapError .ofLedger >>= fun _ => pure effect.answer := by
  cases admitted with
  | error e => rfl
  | ok effect =>
      show (effect.carryOut s).1 = (s.ledger.steps effect.batch.ops).mapError .ofLedger >>=
        fun _ => pure effect.answer
      unfold Effect.carryOut
      cases s.ledger.steps effect.batch.ops <;> rfl

theorem attempt_eq_error_iff :
    attempt admitted s = (.error e, s') ↔ s' = s ∧ (attempt admitted s).1 = .error e := by
  have hkept : (attempt admitted s).1 = .error e → (attempt admitted s).2 = s := by
    cases admitted with
    | error e' => exact fun _ => rfl
    | ok effect =>
        show (effect.carryOut s).1 = .error e → (effect.carryOut s).2 = s
        unfold Effect.carryOut
        cases s.ledger.steps effect.batch.ops with
        | error e' => exact fun _ => rfl
        | ok ledger => exact fun h => by cases h
  constructor
  · intro h
    rw [h] at hkept ⊢
    exact ⟨hkept rfl, rfl⟩
  · rintro ⟨rfl, h⟩
    exact Prod.ext h (hkept h)

end

/-! ## The checks of a lock -/

namespace LockRequest

variable (req : LockRequest) (env : Env) (s : State)

/-- What is wrong with the terms and the address. -/
def termsFaults : List EscrowError :=
  refusal (env.now < req.authExpiry) .authExpired ++
    (refusal (s.registry.escrowAddress req.terms.hash = req.escrowAddress) .constraintSeeds ++
      (refusal (s.registry.escrow? req.terms.hash = none) .accountAlreadyInitialized ++
        (refusal (req.terms.confirmations ≤ env.config.maxConfirmations) .tooManyConfirmations ++
          (refusal (req.terms.kind = .chainNonced ∨ req.terms.nonce = 0) .invalidSwapDataNonce ++
            refusal (req.terms.payIn = req.funding.isPayIn) .invalidSwapDataPayIn))))

def destinationFaults : List EscrowError :=
  match req.terms.payOut, req.claimerDestination with
  | true, .token address => s.ledger.tokenFaults address req.mint
  | false, .internal address => s.registry.userFaults address req.claimer req.mint
  | _, _ => [.constraintRaw]

def fundingFaults : List EscrowError :=
  match req.funding with
  | .payIn source =>
      s.ledger.tokenFaults source req.mint ++
        refusal ((s.ledger.tokenAccount? source).any fun account =>
          account.owner = req.offerer ∧ req.terms.amount ≤ account.amount) .constraintRaw
  | .internal address securityDeposit claimerBounty =>
      s.registry.userFaults address req.offerer req.mint ++
        (refusal ((s.registry.user? req.offerer req.mint).any fun account =>
            req.terms.amount ≤ account.amount) .constraintRaw ++
          refusal (max securityDeposit claimerBounty ≤ s.ledger.nativeBalance req.claimer)
            .constraintRaw)

/-- Why the ledger would not move what there is: somebody else has an account at the address of
the vault, or a balance overflows. Whoever pays itself cannot overflow. -/
def batchFaults : List LedgerError :=
  match req.funding with
  | .payIn source =>
      let vault := s.registry.vaultAddress req.mint
      refusal ((s.ledger.tokenAccount? vault).all fun account =>
          account.owner = s.registry.vaultAuthority ∧ account.mint = req.mint)
          (.accountExists vault) ++
        refusal (source = vault ∨ (s.ledger.tokenBalance vault).toNat + req.terms.amount.toNat <
          UInt64.size) .overflow
  | .internal _ securityDeposit claimerBounty =>
      refusal (req.claimer = req.escrowAddress ∨
        (s.ledger.nativeBalance req.escrowAddress).toNat +
          (max securityDeposit claimerBounty).toNat < UInt64.size) .overflow

/-- Everything that is wrong with a lock, what is looked at first in front. -/
def faults : List EscrowError :=
  req.termsFaults env s ++ (req.destinationFaults s ++ (req.fundingFaults s ++
    (req.batchFaults s).map .ofLedger))

variable {req env s}

theorem failsFirst_checkTerms : FailsFirst (req.checkTerms env s) (req.termsFaults env s) :=
  (failsFirst_require _).bind fun _ => (failsFirst_require _).bind fun _ =>
    (failsFirst_require _).bind fun _ => (failsFirst_require _).bind fun _ =>
      (failsFirst_require _).bind fun _ => failsFirst_require _

theorem failsFirst_checkDestination :
    FailsFirst (req.checkDestination s) (req.destinationFaults s) := by
  unfold checkDestination destinationFaults
  cases req.terms.payOut <;> cases req.claimerDestination
  case true.token address => exact Ledger.failsFirst_tokenAccountFor.bind_pure _
  case false.internal address => exact Registry.failsFirst_userAt.bind_pure _
  case true.internal | false.token => exact failsFirst_throw _

theorem failsFirst_checkFunding : FailsFirst (req.checkFunding s) (req.fundingFaults s) := by
  unfold checkFunding fundingFaults
  cases req.funding with
  | payIn source =>
      refine Ledger.failsFirst_tokenAccountFor.bind_of_ok fun account hok => ?_
      obtain ⟨hfound, -⟩ := Ledger.tokenAccountFor_eq_ok_iff.1 hok
      simp only [hfound, Option.any_some, decide_eq_true_eq]
      exact (failsFirst_require _).bind_pure _
  | internal address securityDeposit claimerBounty =>
      refine Registry.failsFirst_userAt.bind_of_ok fun account hok => ?_
      obtain ⟨-, hfound⟩ := Registry.userAt_eq_ok_iff.1 hok
      simp only [hfound, Option.any_some, decide_eq_true_eq]
      exact (failsFirst_require _).bind fun _ => (failsFirst_require _).bind_pure _

theorem failsFirst_plan : FailsFirst (req.plan env s)
    (req.termsFaults env s ++ (req.destinationFaults s ++ req.fundingFaults s)) :=
  failsFirst_checkTerms.bind fun _ => failsFirst_checkDestination.bind fun _ =>
    failsFirst_checkFunding.bind_pure _

/-- Once a lock is planned its batch can only meet somebody else at the address of the vault or
overflow. -/
theorem failsFirst_steps {plan : LockPlan} (hplan : req.plan env s = .ok plan) :
    FailsFirst (s.ledger.steps plan.batch.ops) (req.batchFaults s) := by
  obtain ⟨_, funding, -, -, hfunding, rfl⟩ := plan_eq_ok_iff.1 hplan
  have hempty : s.ledger.steps Batch.empty.ops = .ok s.ledger := rfl
  unfold batchFaults
  rcases checkFunding_eq_ok_iff.1 hfunding with
    ⟨source, payer, hsource, hpayer, hmint, -, hle, rfl⟩ |
      ⟨deposit, bounty, _, hinternal, -, -, hpot, rfl⟩
  · have hopen := Ledger.steps_openTokenAccount hempty (s.registry.vaultAddress req.mint)
      s.registry.vaultAuthority req.mint
    rw [hsource, Ledger.steps_tokenTransfer_bind, hopen]
    refine Ledger.failsFirst_openAccount.bind_of_ok fun opened hopened => ?_
    obtain ⟨hkept, vault, hvault, hmint', hbalance⟩ := Ledger.tokenAccount?_openAccount hopened
    rw [← hbalance]
    split
    case isTrue hzero =>
      refine failsFirst_ok (.inr ?_) _ _
      rw [hzero]
      exact vault.amount.toNat_lt_size
    case isFalse => exact Ledger.failsFirst_moveTokens (hkept _ _ hpayer) hmint hvault hmint' hle
  · rw [hinternal, Ledger.steps_nativeTransfer hempty]
    split
    case isTrue hzero =>
      refine failsFirst_ok (.inr ?_) _ _
      rw [hzero]
      exact (s.ledger.nativeBalance req.escrowAddress).toNat_lt_size
    case isFalse => exact Ledger.failsFirst_moveNative hpot

/-- **A lock is refused for the first thing that is wrong with it.** -/
theorem failsFirst_run : FailsFirst ((Operation.lock env req).run s).1 (req.faults env s) := by
  have hfaults : req.faults env s = (req.termsFaults env s ++ (req.destinationFaults s ++
      req.fundingFaults s)) ++ (req.batchFaults s).map .ofLedger := by
    simp only [faults, List.append_assoc]
  rw [hfaults, Operation.run_lock, fst_attempt, effect]
  simp only [bind_assoc, pure_bind]
  exact failsFirst_plan.bind_of_ok fun plan hplan =>
    ((failsFirst_steps hplan).mapError EscrowError.ofLedger).bind_pure _

/-! ## What a lock needs -/

/-- A claim has somewhere to pay to: a token account of the mint, or the user account of the claimer
under its own address. -/
def PayeeReady (req : LockRequest) (s : State) : Prop :=
  match req.terms.payOut, req.claimerDestination with
  | true, .token address =>
      ∃ account, s.ledger.tokenAccount? address = some account ∧ account.mint = req.mint
  | false, .internal address =>
      s.registry.userAddress req.claimer req.mint = address ∧
        ∃ account, s.registry.user? req.claimer req.mint = some account
  | _, _ => False

/-- The tokens are there, in a token account of the offerer or in its internal balance, and so are
the native funds that the claimer puts up. -/
def Covered (req : LockRequest) (s : State) : Prop :=
  match req.funding with
  | .payIn source =>
      ∃ account, s.ledger.tokenAccount? source = some account ∧ account.mint = req.mint ∧
        account.owner = req.offerer ∧ req.terms.amount ≤ account.amount
  | .internal address securityDeposit claimerBounty =>
      s.registry.userAddress req.offerer req.mint = address ∧
        (∃ account, s.registry.user? req.offerer req.mint = some account ∧
          req.terms.amount ≤ account.amount) ∧
        max securityDeposit claimerBounty ≤ s.ledger.nativeBalance req.claimer

/-- The ledger can move them: nobody else has an account at the address of the vault, and the
balance that is credited does not overflow. -/
def Movable (req : LockRequest) (s : State) : Prop :=
  let vault := s.registry.vaultAddress req.mint
  match req.funding with
  | .payIn source =>
      (∀ account, s.ledger.tokenAccount? vault = some account →
        account.owner = s.registry.vaultAuthority ∧ account.mint = req.mint) ∧
      (source = vault ∨
        (s.ledger.tokenBalance vault).toNat + req.terms.amount.toNat < UInt64.size)
  | .internal _ securityDeposit claimerBounty =>
      req.claimer = req.escrowAddress ∨
        (s.ledger.nativeBalance req.escrowAddress).toNat +
          (max securityDeposit claimerBounty).toNat < UInt64.size

/-- Everything that a lock needs to be accepted. -/
structure Admissible (req : LockRequest) (env : Env) (s : State) : Prop where
  inTime : env.now < req.authExpiry
  address : s.registry.escrowAddress req.terms.hash = req.escrowAddress
  free : s.registry.escrow? req.terms.hash = none
  confirmations : req.terms.confirmations ≤ env.config.maxConfirmations
  nonce : req.terms.kind = .chainNonced ∨ req.terms.nonce = 0
  payIn : req.terms.payIn = req.funding.isPayIn
  payee : req.PayeeReady s
  covered : req.Covered s
  movable : req.Movable s

theorem destinationFaults_eq_nil_iff : req.destinationFaults s = [] ↔ req.PayeeReady s := by
  unfold destinationFaults PayeeReady
  cases req.terms.payOut <;> cases req.claimerDestination
  case true.token => exact Ledger.tokenFaults_eq_nil_iff
  case false.internal => exact Registry.userFaults_eq_nil_iff
  case true.internal | false.token => simp

theorem fundingFaults_eq_nil_iff : req.fundingFaults s = [] ↔ req.Covered s := by
  unfold fundingFaults Covered
  cases req.funding with
  | payIn source =>
      simp only [List.append_eq_nil_iff, Ledger.tokenFaults_eq_nil_iff, refusal_eq_nil_iff]
      cases s.ledger.tokenAccount? source <;> simp
  | internal address securityDeposit claimerBounty =>
      simp only [List.append_eq_nil_iff, Registry.userFaults_eq_nil_iff, refusal_eq_nil_iff]
      cases s.registry.user? req.offerer req.mint <;> simp

theorem batchFaults_eq_nil_iff : req.batchFaults s = [] ↔ req.Movable s := by
  unfold batchFaults Movable
  cases req.funding with
  | payIn source => simp [Option.all_eq_true]
  | internal address securityDeposit claimerBounty => simp

theorem faults_eq_nil_iff : req.faults env s = [] ↔ req.Admissible env s := by
  simp only [faults, termsFaults, List.append_eq_nil_iff, List.map_eq_nil_iff, refusal_eq_nil_iff,
    destinationFaults_eq_nil_iff, fundingFaults_eq_nil_iff, batchFaults_eq_nil_iff]
  constructor
  · rintro ⟨⟨h1, h2, h3, h4, h5, h6⟩, h7, h8, h9⟩
    exact ⟨h1, h2, h3, h4, h5, h6, h7, h8, h9⟩
  · rintro ⟨h1, h2, h3, h4, h5, h6, h7, h8, h9⟩
    exact ⟨⟨h1, h2, h3, h4, h5, h6⟩, h7, h8, h9⟩

theorem exists_run_iff : (∃ event s', (Operation.lock env req).run s = (.ok event, s')) ↔
    req.Admissible env s := by
  rw [← faults_eq_nil_iff, ← failsFirst_run.ok_iff]
  exact exists_congr fun event =>
    ⟨fun ⟨s', h⟩ => congrArg Prod.fst h, fun h => ⟨_, Prod.ext h rfl⟩⟩

end LockRequest

/-! ## What a lock changes -/

/-- The first state comes of the second one by a lock. There is one escrow more. Tokens that are
paid in go to the vault, which is opened if need be; others leave the internal balance of the
offerer. The pot goes from the claimer to the address of the escrow. Nothing else is changed. -/
structure State.Locks (s' s : State) (req : LockRequest) : Prop where
  programId : s'.registry.programId = s.registry.programId
  escrow : ∀ hash, s'.registry.escrow? hash =
    if req.terms.hash = hash then some req.recorded else s.registry.escrow? hash
  token : ∀ account, ((s'.ledger.tokenBalance account).toNat : Int) =
    (s.ledger.tokenBalance account).toNat +
      (if req.terms.payIn = true ∧ s.registry.vaultAddress req.mint = account then
        (req.terms.amount.toNat : Int) else 0) -
      if req.terms.payIn = true ∧ req.funding.tokenAccount? = some account then
        (req.terms.amount.toNat : Int) else 0
  holder : ∀ account, s'.ledger.holder? account = (s.ledger.holder? account).or
    (if req.terms.payIn = true ∧ s.registry.vaultAddress req.mint = account then
      some ⟨account, s.registry.vaultAuthority, req.mint, 0⟩ else none)
  native : ∀ owner, ((s'.ledger.nativeBalance owner).toNat : Int) =
    (s.ledger.nativeBalance owner).toNat +
      (if s.registry.escrowAddress req.terms.hash = owner then
        (req.funding.pot.toNat : Int) else 0) -
      if req.claimer = owner then (req.funding.pot.toNat : Int) else 0
  user : ∀ address account, s.registry.users.get? address = some account →
    ∃ balance, s'.registry.users.get? address = some { account with amount := balance } ∧
      (balance.toNat : Int) = account.amount.toNat -
        if req.terms.payIn = false ∧ s.registry.userAddress req.offerer req.mint = address then
          (req.terms.amount.toNat : Int) else 0
  noUser : ∀ address, s.registry.users.get? address = none →
    s'.registry.users.get? address = none
  buffers : s'.registry.buffers = s.registry.buffers
  created : s'.ledger.created = s.ledger.created

namespace LockRequest

variable {req : LockRequest} {env : Env} {s : State} {plan : LockPlan}

theorem escrow_of_plan (hplan : req.plan env s = .ok plan) : plan.escrow = req.recorded := by
  obtain ⟨account, funding, -, hdestination, hfunding, rfl⟩ := plan_eq_ok_iff.1 hplan
  have haccount : account = req.claimerDestination.tokenAccount? := by
    rcases checkDestination_eq_ok_iff.1 hdestination with
      ⟨-, address, _, htoken, -, -, rfl⟩ | ⟨-, _, hinternal, -, rfl⟩
    · rw [htoken]
      rfl
    · rw [hinternal]
      rfl
  rcases checkFunding_eq_ok_iff.1 hfunding with
    ⟨source, _, hsource, -, -, -, -, rfl⟩ | ⟨deposit, bounty, _, hinternal, -, -, -, rfl⟩
  · simp only [escrow, recorded, haccount, hsource]
    rfl
  · simp only [escrow, recorded, haccount, hinternal]
    rfl

/-- Tokens are moved only if they are paid in, from the account that the request names into the
vault, which is opened before. -/
theorem tokenFlow (hplan : req.plan env s = .ok plan) (address : Pubkey) :
    plan.batch.tokensFrom address =
        (if req.terms.payIn = true ∧ req.funding.tokenAccount? = some address then
          req.terms.amount.toNat else 0) ∧
      plan.batch.tokensTo address =
        (if req.terms.payIn = true ∧ s.registry.vaultAddress req.mint = address then
          req.terms.amount.toNat else 0) ∧
      plan.batch.opened? address =
        if req.terms.payIn = true ∧ s.registry.vaultAddress req.mint = address then
          some ⟨address, s.registry.vaultAuthority, req.mint, 0⟩ else none := by
  obtain ⟨_, funding, hterms, -, hfunding, rfl⟩ := plan_eq_ok_iff.1 hplan
  have hkind := (checkTerms_eq_ok_iff.1 hterms).2.2.2.2.2
  rcases checkFunding_eq_ok_iff.1 hfunding with
    ⟨source, _, hsource, -, -, -, -, rfl⟩ | ⟨deposit, bounty, _, hinternal, -, -, -, rfl⟩
  · simp only [hkind, hsource, FundingSource.isPayIn, FundingSource.tokenAccount?]
    refine ⟨?_, ?_, ?_⟩
    · simp
    · simp
    · simp only [Batch.opened?_tokenTransfer, Batch.opened?_openTokenAccount, Batch.opened?_empty,
        Option.none_or, true_and]
      split
      case isTrue h => rw [h]
      case isFalse => rfl
  · simp [hkind, hinternal, FundingSource.isPayIn, FundingSource.tokenAccount?]

theorem users_commit (req : LockRequest) (plan : LockPlan) (r : Registry) (address : Pubkey) :
    (req.commit plan r).users.get? address =
      if req.terms.payIn = false ∧ r.userAddress req.offerer req.mint = address then
        (r.users.get? address).map fun account =>
          { account with amount := account.amount - req.terms.amount }
      else r.users.get? address := by
  unfold commit
  rw [Registry.users_putEscrow]
  cases req.terms.payIn with
  | true => simp
  | false => simpa using Registry.users_changeUser ..

/-- The debit is covered by the account that it is taken from. -/
theorem exists_user_of_plan (hplan : req.plan env s = .ok plan) {address : Pubkey}
    {account : UserAccount} (haccount : s.registry.users.get? address = some account) :
    ∃ balance, (req.commit plan s.registry).users.get? address =
        some { account with amount := balance } ∧
      (balance.toNat : Int) = account.amount.toNat -
        if req.terms.payIn = false ∧ s.registry.userAddress req.offerer req.mint = address then
          (req.terms.amount.toNat : Int) else 0 := by
  rw [users_commit, haccount]
  by_cases hdebit : req.terms.payIn = false ∧
      s.registry.userAddress req.offerer req.mint = address
  · obtain ⟨hpay, rfl⟩ := hdebit
    have hle := amount_le_internalBalance hplan hpay
    have hfound : s.registry.user? req.offerer req.mint = some account := haccount
    rw [Registry.internalBalance_of_user? hfound] at hle
    have hcharged := Amount.toNat_sub_add hle
    refine ⟨account.amount - req.terms.amount, ?_, ?_⟩
    · rw [if_pos ⟨hpay, rfl⟩, Option.map_some]
    · rw [if_pos ⟨hpay, rfl⟩]
      omega
  · refine ⟨account.amount, ?_, ?_⟩
    · rw [if_neg hdebit]
    · rw [if_neg hdebit, Int.sub_zero]

/-- An accepted lock changes what it says, and nothing else. -/
theorem locks_of_run {s' : State} {event : LockEvent}
    (h : (Operation.lock env req).run s = (.ok event, s')) :
    event = req.event ∧ s'.Locks s req := by
  obtain ⟨plan, ledger, hplan, hsteps, rfl, rfl⟩ := Operation.run_lock_eq_ok_iff.1 h
  refine ⟨rfl, ?_⟩
  constructor
  case programId => exact req.programId_commit plan s.registry
  case escrow =>
    intro hash
    have hput := req.escrows_commit plan s.registry
    rw [escrow_of_plan hplan] at hput
    exact Registry.escrow?_of_insert hput hash
  case token =>
    intro account
    have hflow := Ledger.tokenBalance_steps hsteps account
    rw [(tokenFlow hplan account).1, (tokenFlow hplan account).2.1] at hflow
    show ((ledger.tokenBalance account).toNat : Int) = _
    split_ifs at hflow ⊢ <;> omega
  case holder =>
    intro account
    rw [Ledger.holder?_steps hsteps, (tokenFlow hplan account).2.2]
  case native =>
    intro owner
    have hflow := Ledger.nativeBalance_steps hsteps owner
    rw [(potFlow hplan owner).1, (potFlow hplan owner).2.1, Request.charged] at hflow
    show ((ledger.nativeBalance owner).toNat : Int) = _
    split_ifs at hflow ⊢ <;> omega
  case user => exact fun address account => exists_user_of_plan hplan
  case noUser =>
    intro address hnone
    show (req.commit plan s.registry).users.get? address = none
    rw [users_commit, hnone, Option.map_none, ite_self]
  case buffers => exact req.buffers_commit plan s.registry
  case created => exact Ledger.created_steps hsteps

end LockRequest

/-- **Which locks are accepted, why the others are refused, and what an accepted one changes.** -/
theorem Operation.lock_exact (env : Env) (req : LockRequest) (s : State) :
    ((∃ event s', (lock env req).run s = (.ok event, s')) ↔ req.Admissible env s) ∧
    (∀ e s', (lock env req).run s = (.error e, s') ↔
      s' = s ∧ (req.faults env s).head? = some e) ∧
    ∀ event s', (lock env req).run s = (.ok event, s') → event = req.event ∧ s'.Locks s req := by
  refine ⟨LockRequest.exists_run_iff, fun e s' => ?_, fun event s' => LockRequest.locks_of_run⟩
  rw [run_lock, attempt_eq_error_iff, ← run_lock, LockRequest.failsFirst_run e]

/-- The owner locks the five tokens that it was given: they leave its account for the vault. The
same request is refused if the parties no longer stand by the terms, whatever else is wrong with
it. -/
theorem Engine.lock_exact_of_lockOfOwn :
    let s := ((Engine.new .standard 0 .empty).run
      (fundedAccount someOwner someMint someTerms.amount)).state
    let req := lockOfOwn Config.standard.programId someOwner someMint someTerms
    req.Admissible ⟨.standard, 0⟩ s ∧
      (∃ s', (Operation.lock ⟨.standard, 0⟩ req).run s = (.ok req.event, s') ∧
        s'.registry.escrow? someTerms.hash = some req.recorded ∧
        ((s'.ledger.tokenBalance (s.registry.vaultAddress someMint)).toNat : Int) =
          (s.ledger.tokenBalance (s.registry.vaultAddress someMint)).toNat + 5) ∧
      ∀ address, (Operation.lock ⟨.standard, 0⟩
          { req with authExpiry := 0, escrowAddress := address }).run s =
        (.error .authExpired, s) := by
  have hprogram := programId_run (.new .standard 0 .empty)
    (fundedAccount someOwner someMint someTerms.amount)
  obtain ⟨s', hrun⟩ := run_lockOfOwn .standard someOwner someMint someTerms rfl rfl (by decide)
    (.inr rfl) someAccount_ne_vault
  -- Of the history only these facts matter, so it is not looked into again.
  obtain ⟨funded, hfunded⟩ : ∃ funded, funded = ((Engine.new .standard 0 .empty).run
    (fundedAccount someOwner someMint someTerms.amount)).state := ⟨_, rfl⟩
  rw [← hfunded] at hprogram hrun ⊢
  intro s req
  have hvault : s.registry.vaultAddress someMint =
      (Derivation.vault Config.standard.programId someMint).address :=
    congrArg (fun program => (Derivation.vault program someMint).address) hprogram
  have hother : req.funding.tokenAccount? ≠ some (s.registry.vaultAddress someMint) := by
    rw [hvault]
    exact fun hsame => someAccount_ne_vault (Option.some.inj hsame)
  obtain ⟨haccepted, -, hlocks⟩ := Operation.lock_exact ⟨.standard, 0⟩ req s
  obtain ⟨-, hafter⟩ := hlocks _ _ hrun
  refine ⟨haccepted.1 ⟨_, _, hrun⟩, ⟨s', hrun, ?_, ?_⟩, fun address => ?_⟩
  · exact (hafter.escrow someTerms.hash).trans (if_pos rfl)
  · have htoken := hafter.token (s.registry.vaultAddress someMint)
    rw [if_pos ⟨rfl, rfl⟩, if_neg fun h => hother h.2, Int.sub_zero] at htoken
    exact htoken
  · exact ((Operation.lock_exact ⟨.standard, 0⟩ _ s).2.1 _ _).2 ⟨rfl, rfl⟩

end AtomicEscrow
