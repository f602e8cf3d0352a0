import AtomicEscrow.Proofs.Keyed
import AtomicEscrow.Proofs.Ending

set_option autoImplicit false

/-! # Reputation is history

The counters of a user account are written one settlement at a time, each from the last, and are
capped on the way. What they stand for is said without any counter: a history has endings
(`Engine.endings`), and some of them concern an owner, in a mint, for a kind of swap and a way to
end (`Ending.Concerns`). The counters are the number of those and the sum of their amounts, capped
once (`Engine.reputation_eq_history`).

An account keeps its record from the moment when it is opened, and before that nothing can be
noted in it. So the record at an address is followed from the start of the history, whether there
is an account or not (`Registry.recordAt`).
-/

namespace AtomicEscrow

/-! ## The endings of a history -/

/-- How an escrow ends by a refund that is asked for in this way. -/
def RefundAuth.resolution : RefundAuth → Resolution
  | cooperative _ => .cooperativeClose
  | timeout => .failure

/-- The end that a request brings about if it is accepted. -/
def Request.ending? (r : Registry) : Request → Option Ending
  | claim req => (r.escrow? req.hash).map (⟨·, .success⟩)
  | refund req => (r.escrow? req.hash).map (⟨·, req.auth.resolution⟩)
  | _ => none

namespace Engine

/-- The end that a step brings about: that of a claim or a refund, if it is accepted. -/
def ending? (engine : Engine) : Step → Option Ending
  | .request request =>
      match (engine.perform request).1 with
      | .ok _ => request.ending? engine.state.registry
      | .error _ => none
  | _ => none

/-- The endings of a history, oldest first. -/
def endings (engine : Engine) : List Step → List Ending
  | [] => []
  | step :: steps => (engine.ending? step).toList ++ (engine.step step).endings steps

end Engine

namespace Ending

/-- The end counts for an owner, in a mint, for a kind of swap and a way to end: the owner was the
claimer, and the escrow did not pay out. -/
def Concerns (e : Ending) (owner mint : Pubkey) (kind : SwapKind) (resolution : Resolution) :
    Prop :=
  e.escrow.claimer = owner ∧ e.escrow.mint = mint ∧ e.escrow.terms.kind = kind ∧
    e.resolution = resolution ∧ e.escrow.terms.payOut = false

instance (e : Ending) (owner mint : Pubkey) (kind : SwapKind) (resolution : Resolution) :
    Decidable (e.Concerns owner mint kind resolution) :=
  inferInstanceAs (Decidable (_ ∧ _))

/-- The end is noted in the record of a way to end at an address. -/
def NotedAt (e : Ending) (program address : Pubkey) (resolution : Resolution) : Prop :=
  (e.escrow.terms.payOut = false ∧
    (Derivation.userAccount program e.escrow.claimer e.escrow.mint).address = address) ∧
    e.resolution = resolution

instance (e : Ending) (program address : Pubkey) (resolution : Resolution) :
    Decidable (e.NotedAt program address resolution) :=
  inferInstanceAs (Decidable (_ ∧ _))

end Ending

/-- A record after some endings. -/
def TrackRecord.after (record : TrackRecord) (program address : Pubkey) (resolution : Resolution)
    (endings : List Ending) : TrackRecord :=
  endings.foldl (fun record e =>
    if e.NotedAt program address resolution then
      record.add e.escrow.terms.kind e.escrow.terms.amount
    else record) record

/-! ## Capped counters -/

/-- **Amounts that are added one by one, each capped, are capped once**: what a tally of a record
says of a kind, after some endings. -/
theorem TrackRecord.toNat_get_after (tally : TrackRecord → Tally) (amount : Ending → UInt64)
    (htally : ∀ record e, tally (record.add e.escrow.terms.kind e.escrow.terms.amount) =
      (tally record).add e.escrow.terms.kind (amount e))
    (record : TrackRecord) (program address : Pubkey) (resolution : Resolution)
    (endings : List Ending) (kind : SwapKind) :
    ((tally (record.after program address resolution endings)).get kind).toNat =
      min (((tally record).get kind).toNat + ((endings.filter fun e =>
          e.NotedAt program address resolution ∧ e.escrow.terms.kind = kind).map
            fun e => (amount e).toNat).sum) (UInt64.size - 1) := by
  -- By induction from the front, so that the record to start from is any record.
  induction endings generalizing record with
  | nil =>
      have hlt := ((tally record).get kind).toNat_lt_size
      show ((tally record).get kind).toNat = min (((tally record).get kind).toNat + 0) _
      omega
  | cons e rest ih =>
      show ((tally ((if e.NotedAt program address resolution then
          record.add e.escrow.terms.kind e.escrow.terms.amount
        else record).after program address resolution rest)).get kind).toNat = _
      rw [ih]
      by_cases hnoted : e.NotedAt program address resolution
      · rw [if_pos hnoted, htally, Tally.get_add]
        by_cases hkind : e.escrow.terms.kind = kind
        · -- The cap on the way is made up for by the cap at the end.
          rw [if_pos hkind, Amount.toNat_addCapped,
            List.filter_cons_of_pos (by simp [hnoted, hkind]), List.map_cons, List.sum_cons]
          omega
        · rw [if_neg hkind, List.filter_cons_of_neg (by simp [hkind])]
      · rw [if_neg hnoted, List.filter_cons_of_neg (by simp [hnoted])]

/-! ## The record at an address -/

namespace Registry

/-- The record of a way to end at an address, empty where there is no account. -/
def recordAt (r : Registry) (address : Pubkey) (resolution : Resolution) : TrackRecord :=
  ((r.users.get? address).map (·.trackRecord resolution)).getD .empty

variable {r r' : Registry} {owner mint : Pubkey}

theorem recordAt_of_found {address : Pubkey} {account : UserAccount}
    (h : r.users.get? address = some account) (resolution : Resolution) :
    r.recordAt address resolution = account.trackRecord resolution := by
  unfold recordAt
  rw [h]
  rfl

theorem recordAt_congr (h : r'.users = r.users) : r'.recordAt = r.recordAt := by
  unfold recordAt
  rw [h]

/-- A change that is not about the reputation notes nothing. -/
theorem recordAt_changeUser {change : UserAccount → UserAccount}
    (hchange : ∀ account resolution,
      (change account).trackRecord resolution = account.trackRecord resolution) :
    (r.changeUser owner mint change).recordAt = r.recordAt := by
  funext address resolution
  unfold recordAt
  rw [users_changeUser]
  split
  · cases r.users.get? address with
    | none => rfl
    | some account => exact hchange account resolution
  · rfl

/-- An account that is opened has an empty record. -/
theorem recordAt_setBalance (balance : UInt64) :
    (r.setBalance owner mint balance).recordAt = r.recordAt := by
  funext address resolution
  unfold recordAt
  rw [users_setBalance]
  split
  case isTrue haddress =>
    have hsame : r.users.get? address = r.user? owner mint := by
      rw [← haddress]
      rfl
    rw [hsame]
    cases r.user? owner mint <;> cases resolution <;> rfl
  case isFalse => rfl

/-- An end is noted in the account of the claimer, which is there. -/
theorem recordAt_of_change {e : Ending} {address : Pubkey}
    (hchange : r'.users.get? address =
      (r.users.get? address).map (e.change r.programId address))
    (hthere : e.escrow.terms.payOut = false →
      ∃ account, r.user? e.escrow.claimer e.escrow.mint = some account)
    (resolution : Resolution) :
    r'.recordAt address resolution =
      (r.recordAt address resolution).after r.programId address resolution [e] := by
  cases hfound : r.users.get? address with
  | none =>
      -- Where there is no account, the end is not one of its owner.
      have hnot : ¬e.NotedAt r.programId address resolution := by
        rintro ⟨⟨hpay, haddress⟩, -⟩
        obtain ⟨account, haccount⟩ := hthere hpay
        have hget : r.users.get? address = some account := haddress ▸ haccount
        rw [hfound] at hget
        cases hget
      unfold recordAt
      rw [hchange, hfound]
      exact (if_neg hnot).symm
  | some account =>
      rw [hfound] at hchange
      rw [recordAt_of_found hchange, recordAt_of_found hfound, Ending.trackRecord_change]
      rfl

end Registry

namespace Request

variable {env : Env} {s : State}

theorem ending?_claim {req : ClaimRequest} {plan : ClaimPlan} (hplan : req.plan env s = .ok plan) :
    (claim req).ending? s.registry = some plan.settlement.toEnding := by
  obtain ⟨escrow, _, _, _, _, -, hlive, -, -, -, -, -, rfl⟩ := ClaimRequest.plan_eq_ok_iff.1 hplan
  simp only [ending?, hlive]
  rfl

theorem ending?_refund {req : RefundRequest} {plan : RefundPlan}
    (hplan : req.plan env s = .ok plan) :
    (refund req).ending? s.registry = some plan.settlement.toEnding := by
  obtain ⟨escrow, _, kind, -, hlive, -, -, -, -, -, hallowed, rfl⟩ :=
    RefundRequest.plan_eq_ok_iff.1 hplan
  have hkind : req.auth.resolution = kind.resolution := by
    cases hauth : req.auth with
    | cooperative authExpiry =>
        rw [hauth] at hallowed
        obtain ⟨_, -, hsame⟩ := bind_eq_ok_iff.1 hallowed
        cases hsame
        rfl
    | timeout =>
        rw [hauth] at hallowed
        obtain ⟨_, -, hsame⟩ := bind_eq_ok_iff.1 hallowed
        cases hsame
        rfl
  simp only [ending?, hlive, hkind]
  rfl

/-- **An accepted request notes the end that it brings about**, and nothing else. -/
theorem recordAt_effect {request : Request} {effect : Effect Reply}
    (h : request.effect env s = .ok effect) (address : Pubkey) (resolution : Resolution) :
    effect.registry.recordAt address resolution =
      (s.registry.recordAt address resolution).after s.registry.programId address resolution
        (request.ending? s.registry).toList := by
  have hnone {r : Registry} (hsame : r.recordAt = s.registry.recordAt) :
      r.recordAt address resolution = s.registry.recordAt address resolution :=
    congrFun (congrFun hsame address) resolution
  cases admitted_of_effect h with
  | @lock req plan =>
      refine hnone ?_
      show (req.commit plan s.registry).recordAt = _
      unfold LockRequest.commit
      rw [Registry.recordAt_congr (Registry.users_putEscrow ..)]
      split
      · rfl
      · exact Registry.recordAt_changeUser fun account resolution => by cases resolution <;> rfl
  | @claim req plan hplan =>
      rw [ending?_claim hplan]
      refine Registry.recordAt_of_change (ClaimPlan.users_commit hplan address) ?_ resolution
      obtain ⟨escrow, _, _, _, _, -, -, -, hdestination, -, -, -, rfl⟩ :=
        ClaimRequest.plan_eq_ok_iff.1 hplan
      intro hpay
      rcases ClaimRequest.checkDestination_eq_ok_iff.1 hdestination with
        ⟨hout, -⟩ | ⟨-, found, _, -, hfound, -⟩
      · exact absurd (hpay.symm.trans hout) Bool.false_ne_true
      · exact ⟨found, hfound⟩
  | @refund req plan hplan =>
      rw [ending?_refund hplan]
      refine Registry.recordAt_of_change (RefundPlan.users_commit hplan address) ?_ resolution
      obtain ⟨escrow, _, kind, -, -, -, -, -, hclaimer, -, -, rfl⟩ :=
        RefundRequest.plan_eq_ok_iff.1 hplan
      intro hpay
      exact (RefundRequest.checkClaimer_eq_ok_iff.1 hclaimer hpay).2
  | deposit => exact hnone (Registry.recordAt_setBalance _)
  | withdraw =>
      exact hnone (Registry.recordAt_changeUser fun account resolution => by
        cases resolution <;> rfl)
  | openBuffer => rfl
  | writeBuffer => rfl
  | closeBuffer => rfl

end Request

/-! ## Histories -/

namespace Engine

variable {D : Set Derivation} {engine : Engine} {step : Step} {steps : List Step}

theorem recordAt_step (engine : Engine) (step : Step) (address : Pubkey)
    (resolution : Resolution) :
    (engine.step step).state.registry.recordAt address resolution =
      (engine.state.registry.recordAt address resolution).after engine.state.registry.programId
        address resolution (engine.ending? step).toList := by
  cases step with
  | request request =>
      rcases engine.perform_cases request with ⟨e, hperform⟩ |
        ⟨effect, ledger, heffect, -, hperform⟩
      · simp only [Engine.step, ending?, hperform]
        rfl
      · simp only [Engine.step, ending?, hperform, state_accept]
        exact Request.recordAt_effect heffect address resolution
  | setTime now => rfl
  | advance seconds => rfl
  | createTokenAccount owner mint => rfl
  | mintTo address' amount =>
      simp only [Engine.step, mintTo]
      split <;> rfl
  | airdrop owner amount =>
      simp only [Engine.step, airdrop]
      split <;> rfl
  | applyBatch batch => rfl

/-- **The record at an address is made by the endings of the history.** -/
theorem recordAt_run (engine : Engine) (steps : List Step) (address : Pubkey)
    (resolution : Resolution) :
    (engine.run steps).state.registry.recordAt address resolution =
      (engine.state.registry.recordAt address resolution).after engine.state.registry.programId
        address resolution (engine.endings steps) := by
  induction steps generalizing engine with
  | nil => rfl
  | cons step rest ih =>
      rw [run_cons, ih, recordAt_step, programId_step, endings]
      exact List.foldl_append.symm

theorem exists_user_step {address : Pubkey} {account : UserAccount}
    (h : engine.state.registry.users.get? address = some account) (step : Step) :
    ∃ account', (engine.step step).state.registry.users.get? address = some account' := by
  rcases engine.step_cases step with ⟨hstate, -⟩ |
    ⟨request, effect, ledger, rfl, heffect, -, hstate, -⟩ | ⟨ledger, -, hstate, -⟩
  · exact ⟨account, hstate ▸ h⟩
  · obtain ⟨account', haccount', -⟩ :=
      Request.usersKeep_effect heffect address account h
    exact ⟨account', hstate ▸ haccount'⟩
  · exact ⟨account, hstate ▸ h⟩

theorem escrow?_of_ending? {e : Ending} (h : engine.ending? step = some e) :
    ∃ hash, engine.state.registry.escrow? hash = some e.escrow := by
  have hlive (hash : Hash) (resolution : Resolution)
      (hending : (engine.state.registry.escrow? hash).map (Ending.mk · resolution) = some e) :
      ∃ hash, engine.state.registry.escrow? hash = some e.escrow := by
    obtain ⟨escrow, hescrow, rfl⟩ := Option.map_eq_some_iff.1 hending
    exact ⟨hash, hescrow⟩
  unfold ending? at h
  split at h
  · split at h
    · unfold Request.ending? at h
      split at h
      · exact hlive _ _ h
      · exact hlive _ _ h
      · cases h
    · cases h
  · cases h

/-- The claimer of an escrow that ends is one whose address occurs. -/
theorem Apart.claimer_mem (h : engine.Apart D steps) {e : Ending} (he : e ∈ engine.endings steps) :
    .userAccount engine.state.registry.programId e.escrow.claimer e.escrow.mint ∈ D := by
  induction steps generalizing engine with
  | nil => cases he
  | cons step rest ih =>
      rw [endings] at he
      rcases List.mem_append.1 he with hfirst | hrest
      · obtain ⟨hash, hlive⟩ := escrow?_of_ending? (Option.mem_toList.1 hfirst)
        exact (h.keyed.escrow hlive).claimer_mem
      · have hlater := ih h.tail hrest
        rwa [programId_step] at hlater

/-- Where addresses stay apart, what is noted at the address of a user account is what concerns its
owner. -/
theorem Apart.filter_notedAt (h : engine.Apart D steps) {owner mint : Pubkey}
    (hmem : .userAccount engine.state.registry.programId owner mint ∈ D) (kind : SwapKind)
    (resolution : Resolution) :
    ((engine.endings steps).filter fun e =>
        e.NotedAt engine.state.registry.programId (engine.state.registry.userAddress owner mint)
          resolution ∧ e.escrow.terms.kind = kind) =
      (engine.endings steps).filter fun e => e.Concerns owner mint kind resolution := by
  refine List.filter_congr fun e he => decide_eq_decide.2 ?_
  have hsame := Registry.userAddress_eq_iff h.distinct (h.claimer_mem he) hmem
  unfold Ending.NotedAt Ending.Concerns
  constructor
  · rintro ⟨⟨⟨hpay, haddress⟩, hresolution⟩, hkind⟩
    obtain ⟨hclaimer, hmint⟩ := hsame.1 haddress
    exact ⟨hclaimer, hmint, hkind, hresolution, hpay⟩
  · rintro ⟨hclaimer, hmint, hkind, hresolution, hpay⟩
    exact ⟨⟨⟨hpay, hsame.2 ⟨hclaimer, hmint⟩⟩, hresolution⟩, hkind⟩

/-- **A tally of the account of an owner** is the capped sum of what the endings that concern it
count for, if there were no records to start with. -/
theorem Apart.toNat_get_run (h : engine.Apart D steps)
    (hnew : engine.state.registry = .empty engine.state.registry.programId)
    {owner mint : Pubkey} (hmem : .userAccount engine.state.registry.programId owner mint ∈ D)
    {account : UserAccount}
    (haccount : (engine.run steps).state.registry.user? owner mint = some account)
    (tally : TrackRecord → Tally) (amount : Ending → UInt64) (hzero : tally .empty = .zero)
    (htally : ∀ record e, tally (record.add e.escrow.terms.kind e.escrow.terms.amount) =
      (tally record).add e.escrow.terms.kind (amount e))
    (kind : SwapKind) (resolution : Resolution) :
    ((tally (account.trackRecord resolution)).get kind).toNat =
      min (((engine.endings steps).filter fun e =>
        e.Concerns owner mint kind resolution).map fun e => (amount e).toNat).sum
        (UInt64.size - 1) := by
  let address := engine.state.registry.userAddress owner mint
  have haddress : (engine.run steps).state.registry.userAddress owner mint = address :=
    Registry.userAddress_congr (programId_run engine steps) owner mint
  have hget : (engine.run steps).state.registry.users.get? address = some account :=
    haddress ▸ haccount
  have hstart : engine.state.registry.recordAt address resolution = .empty := by
    rw [hnew]
    rfl
  have hrecord : account.trackRecord resolution = TrackRecord.empty.after
      engine.state.registry.programId address resolution (engine.endings steps) :=
    calc account.trackRecord resolution
        = (engine.run steps).state.registry.recordAt address resolution :=
          (Registry.recordAt_of_found hget resolution).symm
      _ = (engine.state.registry.recordAt address resolution).after
            engine.state.registry.programId address resolution (engine.endings steps) :=
          recordAt_run engine steps address resolution
      _ = TrackRecord.empty.after engine.state.registry.programId address resolution
            (engine.endings steps) := by rw [hstart]
  have hnone : (Tally.zero.get kind).toNat = 0 := by
    cases kind <;> rfl
  rw [hrecord, TrackRecord.toNat_get_after tally amount htally, hzero, hnone, Nat.zero_add,
    h.filter_notedAt hmem kind resolution]

/-- A step that ends no escrow, or one that pays out, keeps the records of all accounts. -/
theorem trackRecord_step (engine : Engine) (step : Step)
    (hstep : ∀ e, engine.ending? step = some e → e.escrow.terms.payOut = true)
    {address : Pubkey} {account : UserAccount}
    (haccount : engine.state.registry.users.get? address = some account) :
    ∃ account', (engine.step step).state.registry.users.get? address = some account' ∧
      account'.trackRecord = account.trackRecord := by
  obtain ⟨account', haccount'⟩ := exists_user_step haccount step
  refine ⟨account', haccount', funext fun resolution => ?_⟩
  have hrecord := recordAt_step engine step address resolution
  rw [Registry.recordAt_of_found haccount', Registry.recordAt_of_found haccount] at hrecord
  rw [hrecord]
  cases hending : engine.ending? step with
  | none => rfl
  | some e =>
      -- An end of an escrow that pays out is noted nowhere.
      refine if_neg fun hnoted => ?_
      exact Bool.false_ne_true (hnoted.1.1.symm.trans (hstep e hending))

/-- **Reputation is history.** After every history that starts without records, and in which no two
of the addresses that occur are the same: what the account of an owner in a mint counts, for a kind
of swap and a way to end, are the endings that concern them, and their amounts, up to the largest
word. And there is no step that changes the record of an account and does not end an escrow that
does not pay out. -/
theorem reputation_eq_history (config : Config) (now : UInt64) (ledger : Ledger)
    (steps : List Step) (owner mint : Pubkey)
    (hdistinct : Set.InjOn Derivation.address
      {d | d ∈ .userAccount config.programId owner mint ::
        derivations config.programId ledger.created steps}) :
    let start := Engine.new config now ledger
    let engine := start.run steps
    (∀ account, engine.state.registry.user? owner mint = some account →
      ∀ kind resolution,
        let ended := (start.endings steps).filter fun e => e.Concerns owner mint kind resolution
        ((account.trackRecord resolution).count.get kind).toNat =
          min ended.length (UInt64.size - 1) ∧
        ((account.trackRecord resolution).volume.get kind).toNat =
          min (ended.map fun e => e.escrow.terms.amount.toNat).sum (UInt64.size - 1)) ∧
    ∀ step, (∀ e, engine.ending? step = some e → e.escrow.terms.payOut = true) →
      ∀ address account, engine.state.registry.users.get? address = some account →
        ∃ account', (engine.step step).state.registry.users.get? address = some account' ∧
          account'.trackRecord = account.trackRecord := by
  intro start engine
  constructor
  · intro account haccount kind resolution ended
    have hapart : start.Apart {d | d ∈ .userAccount config.programId owner mint ::
        derivations config.programId ledger.created steps} steps :=
      .new config now ledger hdistinct fun d hd => List.mem_cons_of_mem _ hd
    have htally := hapart.toNat_get_run rfl (List.mem_cons_self ..) haccount
    constructor
    · -- Every ending counts for one.
      have hcount := htally TrackRecord.count (fun _ => 1) rfl (fun _ _ => rfl) kind resolution
      rw [hcount]
      show min (ended.map fun _ => 1).sum _ = _
      rw [List.map_const', List.sum_replicate_nat, Nat.mul_one]
    · exact htally TrackRecord.volume (·.escrow.terms.amount) rfl (fun _ _ => rfl) kind resolution
  · intro step hstep address account haccount
    exact trackRecord_step engine step hstep haccount

/-! ## A swap between one's own balances -/

theorem endings_append (engine : Engine) (steps steps' : List Step) :
    engine.endings (steps ++ steps') =
      engine.endings steps ++ (engine.run steps).endings steps' := by
  induction steps generalizing engine with
  | nil => rfl
  | cons step rest ih =>
      show _ ++ (engine.step step).endings (rest ++ steps') = _
      rw [ih, run_cons, ← List.append_assoc]
      rfl

theorem ending?_eq_none {request : Request} (h : ∀ r, request.ending? r = none) :
    engine.ending? (.request request) = none := by
  simp only [ending?, h]
  split <;> rfl

theorem endings_fundedOwner (engine : Engine) (program owner mint : Pubkey) :
    engine.endings (fundedOwner program owner mint) = [] := by
  have hdeposit (engine : Engine) (req : BalanceRequest) :
      engine.ending? (.request (.deposit req)) = none := ending?_eq_none fun _ => rfl
  unfold fundedOwner fundedDeposit
  simp only [List.cons_append, List.nil_append, endings, hdeposit]
  rfl

/-- A token against the preimage of the samples, from a balance to a balance. -/
def balanceTerms : Terms := { tokenTerms someTerms.hash with payOut := false }

/-- The lock of a token whose claimer is the offerer. -/
def lockOfBalance (program owner mint : Pubkey) : LockRequest where
  terms := balanceTerms
  offerer := owner
  claimer := owner
  mint
  escrowAddress := (Derivation.escrow program someTerms.hash).address
  funding := .internal (Derivation.userAccount program owner mint).address 0 0
  claimerDestination := .internal (Derivation.userAccount program owner mint).address
  txoHash := .replicate 0
  authExpiry := 1

def escrowOfBalance (owner mint : Pubkey) : Escrow where
  terms := balanceTerms
  offerer := owner
  offererTokenAccount := none
  claimer := owner
  claimerTokenAccount := none
  mint
  claimerBounty := 0
  securityDeposit := 0

def claimOfBalance (program owner mint : Pubkey) : ClaimRequest :=
  (escrowOfBalance owner mint).inlineClaim (.empty program) owner someSecret.toList .empty

theorem step_lockOfBalance {program owner mint : Pubkey} {tokens : Nat}
    (h : CanLock engine program owner mint (tokens + 1))
    (hfree : engine.state.registry.escrow? someTerms.hash = none) :
    let next := engine.step (.request (.lock (lockOfBalance program owner mint)))
    CanLock next program owner mint tokens ∧
      next.state.registry.escrow? someTerms.hash = some (escrowOfBalance owner mint) := by
  intro next
  have hearly := h.early
  obtain ⟨account, huser, hone, hleft⟩ := h.exists_amount
  obtain ⟨hnow, rfl, -, htoken⟩ := h
  let req := lockOfBalance engine.state.registry.programId owner mint
  let plan : LockPlan := ⟨escrowOfBalance owner mint, .empty⟩
  have hplan : req.plan engine.env engine.state = .ok plan :=
    LockRequest.plan_eq_ok_iff.2 ⟨none, ⟨none, 0, 0, .empty⟩,
      LockRequest.checkTerms_eq_ok_iff.2 ⟨hearly, rfl, hfree, Nat.zero_le _, .inr rfl, rfl⟩,
      LockRequest.checkDestination_eq_ok_iff.2 (.inr ⟨rfl, account, rfl, huser, rfl⟩),
      LockRequest.checkFunding_eq_ok_iff.2
        (.inr ⟨0, 0, account, rfl, huser, hone, UInt64.zero_le, rfl⟩), rfl⟩
  have hstate : next.state = ⟨req.commit plan engine.state.registry, engine.state.ledger⟩ :=
    (perform_of_effect (Request.effect_of_admitted (.lock hplan)) rfl).2
  refine ⟨⟨(now_step ..).trans hnow, programId_step _ _, ?_, ?_⟩, ?_⟩
  · refine ⟨{ account with amount := account.amount - 1 }, ?_, hleft⟩
    rw [hstate]
    exact Registry.user?_changeUser _ owner mint
      (fun account => { account with amount := account.amount - 1 }) huser
  · rw [hstate]
    exact htoken
  · rw [hstate]
    exact (Registry.escrow?_of_insert (req.escrows_commit plan _) someTerms.hash).trans (if_pos rfl)

/-- There is no pot and nothing is paid out, so no funds move. -/
theorem batch_claimOfBalance (program owner mint : Pubkey) (s : State) :
    (claimOfBalance program owner mint).batch (escrowOfBalance owner mint) s = .empty := by
  have hpot : (escrowOfBalance owner mint).nativePot = 0 := Amount.max_zero 0
  have hbounty : min (escrowOfBalance owner mint).claimerBounty 0 = 0 := rfl
  simp only [ClaimRequest.batch, Batch.nativeTransfer, hpot, hbounty, UInt64.sub_self, if_true]
  rfl

theorem ending?_claimOfBalance {program owner mint : Pubkey} {tokens : Nat}
    (h : CanLock engine program owner mint tokens) (hroom : tokens + 1 < UInt64.size)
    (hlive : engine.state.registry.escrow? someTerms.hash = some (escrowOfBalance owner mint)) :
    engine.ending? (.request (.claim (claimOfBalance program owner mint))) =
      some ⟨escrowOfBalance owner mint, .success⟩ := by
  obtain ⟨-, rfl, ⟨account, huser, hamount⟩, -⟩ := h
  obtain ⟨balance, hbalance⟩ := Ledger.exists_toNat_eq hroom
  let req := claimOfBalance engine.state.registry.programId owner mint
  have hplan : req.plan engine.env engine.state = .ok
      ⟨escrowOfBalance owner mint, some balance, none, someSecret, .empty⟩ :=
    ClaimRequest.plan_eq_ok_iff.2 ⟨_, some balance, someSecret.toList, none, someSecret, rfl, hlive,
      rfl, ClaimRequest.checkDestination_eq_ok_iff.2
        (.inr ⟨rfl, account, balance, rfl, huser, hamount ▸ hbalance, rfl⟩),
      rfl, ClaimRequest.readSecret_eq_ok_iff.2 (.inl ⟨rfl, rfl⟩),
      Terms.verifyClaim_preimage rfl rfl _ _, by rw [batch_claimOfBalance]⟩
  have hanswer := (perform_of_effect (Request.effect_of_admitted (.claim hplan)) rfl).1
  show engine.ending? (.request (.claim req)) = _
  simp only [ending?, hanswer]
  exact congrArg (Option.map _) hlive

/-- An owner deposits two tokens, locks one of them for itself and claims it. -/
def balanceSwap (program owner mint : Pubkey) : List Step :=
  fundedOwner program owner mint ++ [.request (.lock (lockOfBalance program owner mint))] ++
    [.request (.claim (claimOfBalance program owner mint))]

theorem endings_balanceSwap (config : Config) (owner mint : Pubkey)
    (hne : (Derivation.tokenAccount owner mint 1).address ≠
      (Derivation.vault config.programId mint).address) :
    let start := Engine.new config 0 .empty
    let steps := balanceSwap config.programId owner mint
    start.endings steps = [⟨escrowOfBalance owner mint, .success⟩] ∧
      ∃ account, (start.run steps).state.registry.user? owner mint = some account := by
  intro start steps
  have hlock (engine : Engine) (req : LockRequest) :
      engine.ending? (.request (.lock req)) = none := ending?_eq_none fun _ => rfl
  simp only [steps, balanceSwap, run_append, endings_append, endings_fundedOwner, endings, hlock]
  obtain ⟨hready, hfree, -⟩ := run_fundedOwner config owner mint hne
  generalize start.run (fundedOwner config.programId owner mint) = engine at *
  obtain ⟨hlocked, hlive⟩ := step_lockOfBalance hready (hfree someTerms.hash)
  generalize engine.step (.request (.lock (lockOfBalance config.programId owner mint))) =
    locked at *
  constructor
  · rw [ending?_claimOfBalance hlocked (by decide) hlive]
    rfl
  · obtain ⟨found, hfound, -⟩ := hlocked.user
    unfold Registry.user?
    rw [Registry.userAddress_congr (programId_step locked _)]
    exact exists_user_step hfound _

/-- The owner now counts as a claimer who claimed one token. -/
theorem reputation_eq_history_of_balanceSwap :
    let engine := (Engine.new .standard 0 .empty).run
      (balanceSwap Config.standard.programId someOwner someMint)
    ∃ account, engine.state.registry.user? someOwner someMint = some account ∧
      account.success.count.htlc.toNat = 1 ∧ account.success.volume.htlc.toNat = 1 ∧
      account.failure.count.htlc.toNat = 0 := by
  obtain ⟨hendings, account, haccount⟩ :=
    endings_balanceSwap .standard someOwner someMint someAccount_ne_vault
  have hreputation := reputation_eq_history .standard 0 .empty
    (balanceSwap Config.standard.programId someOwner someMint) someOwner someMint
    (injOn_of_nodup nodup_lockedDerivations (by
      simp [balanceSwap, fundedOwner, fundedDeposit, lockOfBalance, claimOfBalance,
        Escrow.inlineClaim, derivations, Step.derivations, Request.derivations, someDerivations,
        escrowOfBalance, balanceTerms, tokenTerms, Ledger.empty]))
  obtain ⟨hcount, hvolume⟩ := hreputation.1 account haccount .htlc .success
  obtain ⟨hfailures, -⟩ := hreputation.1 account haccount .htlc .failure
  rw [hendings] at hcount hvolume hfailures
  exact ⟨account, haccount, hcount.trans (by decide), hvolume.trans (by decide),
    hfailures.trans (by decide)⟩

end Engine

end AtomicEscrow
