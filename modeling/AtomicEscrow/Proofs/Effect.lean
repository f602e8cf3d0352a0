import AtomicEscrow.Proofs.Admission
import AtomicEscrow.Proofs.Registry

set_option autoImplicit false

/-! # All or nothing

An operation is a sequence of effects, and each of them could fail after another one was
carried out. None does: once a request is admitted and the ledger has moved its batch, every
change of a record finds the record it is about. So what a request does is summed up by an
`Effect`, known in full before the state is touched: a batch, the records afterwards and the
answer. `Request.run_operation` says that an operation is that effect, carried out whole or not
at all, and everything about accepted requests is argued from it.
-/

namespace AtomicEscrow

variable {α β : Type}

/-- What an admitted request does. -/
structure Effect (α : Type) where
  batch : Batch
  /-- The records afterwards. -/
  registry : Registry
  answer : α

def Effect.map (f : α → β) (effect : Effect α) : Effect β :=
  ⟨effect.batch, effect.registry, f effect.answer⟩

/-- Moves the batch and keeps the records, or fails and leaves everything as it was. -/
def Effect.carryOut (effect : Effect α) (s : State) : Except EscrowError α × State :=
  match s.ledger.steps effect.batch.ops with
  | .ok ledger => (.ok effect.answer, ⟨effect.registry, ledger⟩)
  | .error e => (.error (.ofLedger e), s)

/-- Carries out the effect of a request that is admitted. -/
def attempt (admitted : Except EscrowError (Effect α)) (s : State) :
    Except EscrowError α × State :=
  match admitted with
  | .ok effect => effect.carryOut s
  | .error e => (.error e, s)

/-- A request is accepted iff it is admitted and the ledger moves its batch. -/
theorem attempt_eq_ok_iff {admitted : Except EscrowError (Effect α)} {s s' : State} {answer : α} :
    attempt admitted s = (.ok answer, s') ↔
      ∃ effect ledger, admitted = .ok effect ∧ s.ledger.steps effect.batch.ops = .ok ledger ∧
        answer = effect.answer ∧ s' = ⟨effect.registry, ledger⟩ := by
  cases admitted with
  | error e => simp [attempt]
  | ok effect =>
      simp only [attempt, Effect.carryOut, Except.ok.injEq, exists_and_left, exists_eq_left']
      cases s.ledger.steps effect.batch.ops with
      | error e => simp
      | ok ledger => simp [eq_comm]

/-- A request whose effect is read off a plan is accepted iff there is one and the ledger moves its
batch. -/
theorem attempt_plan_eq_ok_iff {planned : Except EscrowError β} {f : β → Effect α} {s s' : State}
    {answer : α} :
    attempt (planned >>= fun plan => pure (f plan)) s = (.ok answer, s') ↔
      ∃ plan ledger, planned = .ok plan ∧ s.ledger.steps (f plan).batch.ops = .ok ledger ∧
        answer = (f plan).answer ∧ s' = ⟨(f plan).registry, ledger⟩ := by
  rw [attempt_eq_ok_iff]
  constructor
  · rintro ⟨effect, ledger, heffect, hdone⟩
    obtain ⟨plan, hplan, hpure⟩ := bind_eq_ok_iff.1 heffect
    obtain rfl := pure_eq_ok_iff.1 hpure
    exact ⟨plan, ledger, hplan, hdone⟩
  · rintro ⟨plan, ledger, hplan, hdone⟩
    exact ⟨f plan, ledger, bind_eq_ok_iff.2 ⟨plan, hplan, rfl⟩, hdone⟩

/-! ## The effect of each request -/

/-- The records after a lock. -/
def LockRequest.commit (req : LockRequest) (plan : LockPlan) (r : Registry) : Registry :=
  (if req.terms.payIn then r
    else r.changeUser req.offerer req.mint fun account =>
      { account with amount := account.amount - req.terms.amount }).putEscrow plan.escrow

def ClaimPlan.commit (plan : ClaimPlan) (hash : Hash) (r : Registry) : Registry :=
  let credited :=
    match plan.credited with
    | none => r.removeEscrow hash
    | some balance =>
        (r.removeEscrow hash).changeUser plan.escrow.claimer plan.escrow.mint fun account =>
          { account with amount := balance }.resolve plan.escrow.terms .success
  match plan.buffer with
  | none => credited
  | some address => credited.removeBuffer address

def RefundPlan.commit (plan : RefundPlan) (hash : Hash) (r : Registry) : Registry :=
  let refunded :=
    match plan.refunded with
    | none => r.removeEscrow hash
    | some balance =>
        (r.removeEscrow hash).changeUser plan.escrow.offerer plan.escrow.mint fun account =>
          { account with amount := balance }
  if plan.escrow.terms.payOut then refunded
  else
    refunded.changeUser plan.escrow.claimer plan.escrow.mint fun account =>
      account.resolve plan.escrow.terms plan.kind.resolution

/-- What a lock does, if it is admitted. -/
def LockRequest.effect (req : LockRequest) (env : Env) (s : State) :
    Except EscrowError (Effect LockEvent) := do
  let plan ← req.plan env s
  return ⟨plan.batch, req.commit plan s.registry, req.event⟩

def ClaimRequest.effect (req : ClaimRequest) (env : Env) (s : State) :
    Except EscrowError (Effect ClaimEvent) := do
  let plan ← req.plan env s
  return ⟨plan.batch, plan.commit req.hash s.registry, plan.event⟩

def RefundRequest.effect (req : RefundRequest) (env : Env) (s : State) :
    Except EscrowError (Effect RefundEvent) := do
  let plan ← req.plan env s
  return ⟨plan.batch, plan.commit req.hash s.registry, plan.event⟩

def BalanceRequest.depositEffect (req : BalanceRequest) (s : State) :
    Except EscrowError (Effect UInt64) := do
  let plan ← req.depositPlan s
  return ⟨plan.batch, s.registry.setBalance req.signer req.mint plan.balance, plan.balance⟩

def BalanceRequest.withdrawEffect (req : BalanceRequest) (s : State) :
    Except EscrowError (Effect UInt64) := do
  let plan ← req.withdrawPlan s
  return ⟨plan.batch,
    s.registry.changeUser req.signer req.mint ({ · with amount := plan.balance }), plan.balance⟩

def openBufferEffect (signer address : Pubkey) (s : State) : Except EscrowError (Effect Unit) := do
  require (s.registry.buffer? address = none) .accountAlreadyInitialized
  return ⟨.empty, s.registry.putBuffer address ⟨signer, []⟩, ()⟩

def WriteRequest.effect (req : WriteRequest) (s : State) : Except EscrowError (Effect Nat) := do
  let buffer ← req.plan s
  return ⟨.empty, s.registry.putBuffer req.address buffer, buffer.data.length⟩

def closeBufferEffect (signer address : Pubkey) (s : State) :
    Except EscrowError (Effect Unit) := do
  let _ ← s.registry.ownBuffer address signer
  return ⟨.empty, s.registry.removeBuffer address, ()⟩

/-- What a request does, if it is admitted. -/
def Request.effect (env : Env) (s : State) : Request → Except EscrowError (Effect Reply)
  | lock req => return (← req.effect env s).map fun e => .event (.locked e)
  | claim req => return (← req.effect env s).map fun e => .event (.claimed e)
  | refund req => return (← req.effect env s).map fun e => .event (.refunded e)
  | deposit req => return (← req.depositEffect s).map .balance
  | withdraw req => return (← req.withdrawEffect s).map .balance
  | openBuffer signer address => return (← openBufferEffect signer address s).map fun _ => .done
  | writeBuffer req => return (← req.effect s).map .length
  | closeBuffer signer address => return (← closeBufferEffect signer address s).map fun _ => .done

/-! ## One step of an operation -/

namespace Operation

theorem run_inspect_bind (check : State → Except EscrowError α) (next : α → Operation β)
    (s : State) :
    (inspect check >>= next).run s =
      match check s with
      | .ok a => (next a).run s
      | .error e => (.error e, s) := by
  rw [run_bind]
  simp only [inspect, run]
  cases check s <;> rfl

theorem run_transfer (batch : Batch) (s : State) :
    (transfer batch).run s =
      match s.ledger.steps batch.ops with
      | .ok ledger => (.ok (), { s with ledger })
      | .error e => (.error (.ofLedger e), s) := by
  simp only [transfer, run, Ledger.apply]
  cases s.ledger.steps batch.ops <;> rfl

theorem run_transfer_bind (batch : Batch) (next : Unit → Operation β) (s : State) :
    (transfer batch >>= next).run s =
      match s.ledger.steps batch.ops with
      | .ok ledger => (next ()).run { s with ledger }
      | .error e => (.error (.ofLedger e), s) := by
  rw [run_bind, run_transfer]
  cases s.ledger.steps batch.ops <;> rfl

theorem run_record_bind (change : Registry → Registry) (next : Unit → Operation β) (s : State) :
    (record change >>= next).run s = (next ()).run { s with registry := change s.registry } := rfl

theorem run_updateUser_bind {owner mint : Pubkey} (change : UserAccount → UserAccount)
    (next : Unit → Operation β) {r : Registry} (ledger : Ledger) {account : UserAccount}
    (h : r.user? owner mint = some account) :
    (updateUser owner mint change >>= next).run ⟨r, ledger⟩ =
      (next ()).run ⟨r.changeUser owner mint change, ledger⟩ := by
  rw [run_bind]
  simp only [updateUser, run, Registry.changeUser, h]

theorem run_pure_bind (a : α) (next : α → Operation β) (s : State) :
    ((pure a : Operation α) >>= next).run s = (next a).run s := rfl

/-! ## Whole operations -/

/-- A lock debits an account that is there, since the plan looked it up. -/
theorem run_lock (env : Env) (req : LockRequest) (s : State) :
    (lock env req).run s = attempt (req.effect env s) s := by
  unfold lock LockRequest.effect
  rw [run_inspect_bind]
  cases hplan : req.plan env s with
  | error e => rfl
  | ok plan =>
      show _ = Effect.carryOut ⟨plan.batch, _, _⟩ s
      simp only [run_transfer_bind, Effect.carryOut]
      cases s.ledger.steps plan.batch.ops with
      | error e => rfl
      | ok ledger =>
          simp only [LockRequest.debitOfferer, LockRequest.commit]
          -- Only a lock out of an internal balance debits an account. Its plan has found the
          -- account, and the batch does not touch the records.
          by_cases hpay : req.terms.payIn = true
          · simp only [hpay, if_true, run_pure_bind, run_record_bind, run_pure]
          · obtain ⟨account, funding, hterms, -, hfunding, -⟩ :=
              LockRequest.plan_eq_ok_iff.1 hplan
            have hkind := (LockRequest.checkTerms_eq_ok_iff.1 hterms).2.2.2.2.2
            rcases LockRequest.checkFunding_eq_ok_iff.1 hfunding with
              ⟨source, _, hsource, -⟩ | ⟨_, _, found, -, hfound, -⟩
            · rw [hkind, hsource] at hpay
              exact absurd rfl hpay
            · simp only [hpay, if_false, run_record_bind, run_pure, Bool.false_eq_true,
                run_updateUser_bind _ _ ledger hfound]

/-- A claim credits an account that is there, and nothing that comes before takes it away. -/
theorem run_claim (env : Env) (req : ClaimRequest) (s : State) :
    (claim env req).run s = attempt (req.effect env s) s := by
  unfold claim ClaimRequest.effect
  rw [run_inspect_bind]
  -- Up to the transfer the operation and its effect do the same, step by step.
  cases hplan : req.plan env s with
  | error e => rfl
  | ok plan =>
      show _ = Effect.carryOut ⟨plan.batch, _, _⟩ s
      simp only [run_transfer_bind, Effect.carryOut]
      cases s.ledger.steps plan.batch.ops with
      | error e => rfl
      | ok ledger =>
          obtain ⟨escrow, credited, secret, buffer, opened, -, -, -, hdest, -, -, -, rfl⟩ :=
            ClaimRequest.plan_eq_ok_iff.1 hplan
          simp only [run_record_bind, ClaimPlan.creditClaimer, ClaimPlan.dropBuffer,
            ClaimPlan.commit]
          rcases ClaimRequest.checkDestination_eq_ok_iff.1 hdest with
            ⟨-, _, _, -, -, -, -, rfl⟩ | ⟨-, found, balance, -, hfound, -, rfl⟩
          · cases buffer <;> rfl
          · -- The credit comes after the removal of the escrow, which keeps the user accounts.
            have hfound' : (s.registry.removeEscrow req.hash).user? _ _ = some found := hfound
            simp only [run_updateUser_bind _ _ ledger hfound']
            cases buffer <;> rfl

/-- A refund changes accounts that are there. The two may be one: the second change then finds
what the first one left. -/
theorem run_refund (env : Env) (req : RefundRequest) (s : State) :
    (refund env req).run s = attempt (req.effect env s) s := by
  unfold refund RefundRequest.effect
  rw [run_inspect_bind]
  cases hplan : req.plan env s with
  | error e => rfl
  | ok plan =>
      show _ = Effect.carryOut ⟨plan.batch, _, _⟩ s
      simp only [run_transfer_bind, Effect.carryOut]
      cases s.ledger.steps plan.batch.ops with
      | error e => rfl
      | ok ledger =>
          obtain ⟨escrow, refunded, kind, -, -, -, -, hdest, hclaimer, -, -, rfl⟩ :=
            RefundRequest.plan_eq_ok_iff.1 hplan
          have hclaimer := RefundRequest.checkClaimer_eq_ok_iff.1 hclaimer
          simp only [run_record_bind, RefundPlan.creditOfferer, RefundPlan.noteResolution,
            RefundPlan.commit]
          rcases RefundRequest.checkDestination_eq_ok_iff.1 hdest with
            ⟨-, _, _, -, -, -, -, rfl⟩ | ⟨-, found, balance, -, hfound, -, rfl⟩
          · -- Nothing is credited, so the note finds the accounts as they were.
            cases hout : escrow.terms.payOut with
            | true => simp [run_pure_bind]
            | false =>
                obtain ⟨-, claimer, hclaimer⟩ := hclaimer hout
                have hclaimer' : (s.registry.removeEscrow req.hash).user? _ _ = some claimer :=
                  hclaimer
                simp only [Bool.false_eq_true, if_false, run_pure_bind,
                  run_updateUser_bind _ _ ledger hclaimer', run_pure]
          · have hfound' : (s.registry.removeEscrow req.hash).user? _ _ = some found := hfound
            simp only [run_updateUser_bind _ _ ledger hfound']
            cases hout : escrow.terms.payOut with
            | true => simp [run_pure_bind]
            | false =>
                -- The claimer's account is looked up after the offerer's was credited, and is
                -- perhaps the same.
                obtain ⟨-, claimer, hclaimer⟩ := hclaimer hout
                have hclaimer' : (s.registry.removeEscrow req.hash).user? _ _ = some claimer :=
                  hclaimer
                obtain ⟨_, hnoted⟩ := Registry.exists_user?_changeUser _ escrow.offerer escrow.mint
                  ({ · with amount := balance }) hclaimer'
                simp only [Bool.false_eq_true, if_false, run_updateUser_bind _ _ ledger hnoted,
                  run_pure]

/-- A lock is accepted iff it has a plan and the ledger moves its batch. -/
theorem run_lock_eq_ok_iff {env : Env} {req : LockRequest} {s s' : State} {event : LockEvent} :
    (lock env req).run s = (.ok event, s') ↔
      ∃ plan ledger, req.plan env s = .ok plan ∧ s.ledger.steps plan.batch.ops = .ok ledger ∧
        event = req.event ∧ s' = ⟨req.commit plan s.registry, ledger⟩ := by
  rw [run_lock]
  exact attempt_plan_eq_ok_iff

theorem run_claim_eq_ok_iff {env : Env} {req : ClaimRequest} {s s' : State} {event : ClaimEvent} :
    (claim env req).run s = (.ok event, s') ↔
      ∃ plan ledger, req.plan env s = .ok plan ∧ s.ledger.steps plan.batch.ops = .ok ledger ∧
        event = plan.event ∧ s' = ⟨plan.commit req.hash s.registry, ledger⟩ := by
  rw [run_claim]
  exact attempt_plan_eq_ok_iff

theorem run_refund_eq_ok_iff {env : Env} {req : RefundRequest} {s s' : State}
    {event : RefundEvent} :
    (refund env req).run s = (.ok event, s') ↔
      ∃ plan ledger, req.plan env s = .ok plan ∧ s.ledger.steps plan.batch.ops = .ok ledger ∧
        event = plan.event ∧ s' = ⟨plan.commit req.hash s.registry, ledger⟩ := by
  rw [run_refund]
  exact attempt_plan_eq_ok_iff

theorem run_deposit (req : BalanceRequest) (s : State) :
    (deposit req).run s = attempt (req.depositEffect s) s := by
  unfold deposit BalanceRequest.depositEffect
  rw [run_inspect_bind]
  cases req.depositPlan s with
  | error e => rfl
  | ok plan =>
      show _ = Effect.carryOut ⟨plan.batch, _, _⟩ s
      simp only [run_transfer_bind, Effect.carryOut]
      cases s.ledger.steps plan.batch.ops <;> rfl

theorem run_withdraw (req : BalanceRequest) (s : State) :
    (withdraw req).run s = attempt (req.withdrawEffect s) s := by
  unfold withdraw BalanceRequest.withdrawEffect
  rw [run_inspect_bind]
  cases hplan : req.withdrawPlan s with
  | error e => rfl
  | ok plan =>
      show _ = Effect.carryOut ⟨plan.batch, _, _⟩ s
      simp only [run_transfer_bind, Effect.carryOut]
      cases s.ledger.steps plan.batch.ops with
      | error e => rfl
      | ok ledger =>
          obtain ⟨account, target, -, haccount, -⟩ :=
            BalanceRequest.withdrawPlan_eq_ok_iff.1 hplan
          simp only [run_updateUser_bind _ _ ledger haccount, run_pure]

theorem run_openBuffer (signer address : Pubkey) (s : State) :
    (openBuffer signer address).run s = attempt (openBufferEffect signer address s) s := by
  unfold openBuffer openBufferEffect
  rw [run_inspect_bind]
  cases require (s.registry.buffer? address = none) .accountAlreadyInitialized <;> rfl

theorem run_writeBuffer (req : WriteRequest) (s : State) :
    (writeBuffer req).run s = attempt (req.effect s) s := by
  unfold writeBuffer WriteRequest.effect
  rw [run_inspect_bind]
  cases req.plan s <;> rfl

theorem run_closeBuffer (signer address : Pubkey) (s : State) :
    (closeBuffer signer address).run s = attempt (closeBufferEffect signer address s) s := by
  unfold closeBuffer closeBufferEffect
  rw [run_inspect_bind]
  cases s.registry.ownBuffer address signer <;> rfl

theorem run_map {op : Operation α} {admitted : Except EscrowError (Effect α)} {s : State}
    (f : α → β) (h : op.run s = attempt admitted s) :
    (op >>= fun a => pure (f a)).run s =
      attempt (admitted >>= fun effect => pure (effect.map f)) s := by
  rw [run_bind, h]
  cases admitted with
  | error e => rfl
  | ok effect =>
      show _ = (effect.map f).carryOut s
      simp only [attempt, Effect.carryOut, Effect.map]
      cases s.ledger.steps effect.batch.ops <;> rfl

end Operation

/-! ## Requests -/

/-- **A request is carried out whole or not at all.** It answers with an error and keeps the
state, or it has the effect that was known before anything was touched. -/
theorem Request.run_operation (env : Env) (request : Request) (s : State) :
    (request.operation env).run s = attempt (request.effect env s) s := by
  cases request with
  | lock req => exact Operation.run_map _ (Operation.run_lock env req s)
  | claim req => exact Operation.run_map _ (Operation.run_claim env req s)
  | refund req => exact Operation.run_map _ (Operation.run_refund env req s)
  | deposit req => exact Operation.run_map _ (Operation.run_deposit req s)
  | withdraw req => exact Operation.run_map _ (Operation.run_withdraw req s)
  | openBuffer signer address =>
      exact Operation.run_map (fun _ => Reply.done) (Operation.run_openBuffer signer address s)
  | writeBuffer req => exact Operation.run_map _ (Operation.run_writeBuffer req s)
  | closeBuffer signer address =>
      exact Operation.run_map (fun _ => Reply.done) (Operation.run_closeBuffer signer address s)

/-- The effects that admitted requests can have, one for each kind of request. -/
inductive Request.Admitted (env : Env) (s : State) : Request → Effect Reply → Prop
  | lock {req : LockRequest} {plan : LockPlan} (h : req.plan env s = .ok plan) :
      Admitted env s (.lock req)
        ⟨plan.batch, req.commit plan s.registry, .event (.locked req.event)⟩
  | claim {req : ClaimRequest} {plan : ClaimPlan} (h : req.plan env s = .ok plan) :
      Admitted env s (.claim req)
        ⟨plan.batch, plan.commit req.hash s.registry, .event (.claimed plan.event)⟩
  | refund {req : RefundRequest} {plan : RefundPlan} (h : req.plan env s = .ok plan) :
      Admitted env s (.refund req)
        ⟨plan.batch, plan.commit req.hash s.registry, .event (.refunded plan.event)⟩
  | deposit {req : BalanceRequest} {plan : BalancePlan} (h : req.depositPlan s = .ok plan) :
      Admitted env s (.deposit req)
        ⟨plan.batch, s.registry.setBalance req.signer req.mint plan.balance,
          .balance plan.balance⟩
  | withdraw {req : BalanceRequest} {plan : BalancePlan} (h : req.withdrawPlan s = .ok plan) :
      Admitted env s (.withdraw req)
        ⟨plan.batch,
          s.registry.changeUser req.signer req.mint ({ · with amount := plan.balance }),
          .balance plan.balance⟩
  | openBuffer {signer address : Pubkey} (h : s.registry.buffer? address = none) :
      Admitted env s (.openBuffer signer address)
        ⟨.empty, s.registry.putBuffer address ⟨signer, []⟩, .done⟩
  | writeBuffer {req : WriteRequest} {buffer : DataBuffer} (h : req.plan s = .ok buffer) :
      Admitted env s (.writeBuffer req)
        ⟨.empty, s.registry.putBuffer req.address buffer, .length buffer.data.length⟩
  | closeBuffer {signer address : Pubkey} {buffer : DataBuffer}
      (h : s.registry.ownBuffer address signer = .ok buffer) :
      Admitted env s (.closeBuffer signer address)
        ⟨.empty, s.registry.removeBuffer address, .done⟩

/-- A request that is admitted has one of these effects. -/
theorem Request.admitted_of_effect {env : Env} {s : State} {request : Request}
    {effect : Effect Reply} (h : request.effect env s = .ok effect) :
    request.Admitted env s effect := by
  cases request with
  | lock req =>
      simp only [Request.effect, LockRequest.effect, bind_eq_ok_iff, pure_eq_ok_iff] at h
      obtain ⟨_, ⟨plan, hplan, rfl⟩, rfl⟩ := h
      exact .lock hplan
  | claim req =>
      simp only [Request.effect, ClaimRequest.effect, bind_eq_ok_iff, pure_eq_ok_iff] at h
      obtain ⟨_, ⟨plan, hplan, rfl⟩, rfl⟩ := h
      exact .claim hplan
  | refund req =>
      simp only [Request.effect, RefundRequest.effect, bind_eq_ok_iff, pure_eq_ok_iff] at h
      obtain ⟨_, ⟨plan, hplan, rfl⟩, rfl⟩ := h
      exact .refund hplan
  | deposit req =>
      simp only [Request.effect, BalanceRequest.depositEffect, bind_eq_ok_iff,
        pure_eq_ok_iff] at h
      obtain ⟨_, ⟨plan, hplan, rfl⟩, rfl⟩ := h
      exact .deposit hplan
  | withdraw req =>
      simp only [Request.effect, BalanceRequest.withdrawEffect, bind_eq_ok_iff,
        pure_eq_ok_iff] at h
      obtain ⟨_, ⟨plan, hplan, rfl⟩, rfl⟩ := h
      exact .withdraw hplan
  | openBuffer signer address =>
      simp only [Request.effect, openBufferEffect, bind_eq_ok_iff, pure_eq_ok_iff,
        require_eq_ok_iff] at h
      obtain ⟨_, ⟨_, hfree, rfl⟩, rfl⟩ := h
      exact .openBuffer hfree
  | writeBuffer req =>
      simp only [Request.effect, WriteRequest.effect, bind_eq_ok_iff, pure_eq_ok_iff] at h
      obtain ⟨_, ⟨buffer, hplan, rfl⟩, rfl⟩ := h
      exact .writeBuffer hplan
  | closeBuffer signer address =>
      simp only [Request.effect, closeBufferEffect, bind_eq_ok_iff, pure_eq_ok_iff] at h
      obtain ⟨_, ⟨buffer, hfound, rfl⟩, rfl⟩ := h
      exact .closeBuffer hfound

theorem Request.effect_of_admitted {env : Env} {s : State} {request : Request}
    {effect : Effect Reply} (h : request.Admitted env s effect) :
    request.effect env s = .ok effect := by
  -- Each effect is what the plan of its request evaluates to.
  cases h with
  | lock hplan =>
      simp only [Request.effect, LockRequest.effect, hplan]
      rfl
  | claim hplan =>
      simp only [Request.effect, ClaimRequest.effect, hplan]
      rfl
  | refund hplan =>
      simp only [Request.effect, RefundRequest.effect, hplan]
      rfl
  | deposit hplan =>
      simp only [Request.effect, BalanceRequest.depositEffect, hplan]
      rfl
  | withdraw hplan =>
      simp only [Request.effect, BalanceRequest.withdrawEffect, hplan]
      rfl
  | openBuffer hfree =>
      simp only [Request.effect, openBufferEffect, require, hfree, if_true]
      rfl
  | writeBuffer hplan =>
      simp only [Request.effect, WriteRequest.effect, hplan]
      rfl
  | closeBuffer hfound =>
      simp only [Request.effect, closeBufferEffect, hfound]
      rfl

/-- The debit of a lock never takes more than the offerer has. -/
theorem LockRequest.amount_le_internalBalance {req : LockRequest} {env : Env} {s : State}
    {plan : LockPlan} (hplan : req.plan env s = .ok plan) (hpay : req.terms.payIn = false) :
    req.terms.amount ≤ s.registry.internalBalance req.offerer req.mint := by
  obtain ⟨account, funding, hterms, -, hfunding, -⟩ := plan_eq_ok_iff.1 hplan
  have hkind := (checkTerms_eq_ok_iff.1 hterms).2.2.2.2.2
  rcases checkFunding_eq_ok_iff.1 hfunding with
    ⟨source, _, hsource, -⟩ | ⟨_, _, found, -, hfound, hle, -⟩
  · rw [hpay, hsource] at hkind
    cases hkind
  · simpa [Registry.internalBalance, hfound] using hle

/-! ## The engine -/

namespace Engine

/-- The engine after an accepted request: the new state, and the event if there is one. -/
def accept (engine : Engine) (reply : Reply) (state : State) : Engine :=
  match reply.event? with
  | none => { engine with state }
  | some event => { engine with state }.publish event

/-- An admitted request whose batch the ledger moves is accepted. -/
theorem perform_eq_of_effect {engine : Engine} {request : Request} {effect : Effect Reply}
    {ledger : Ledger} (heffect : request.effect engine.env engine.state = .ok effect)
    (hsteps : engine.state.ledger.steps effect.batch.ops = .ok ledger) :
    engine.perform request =
      (.ok effect.answer, engine.accept effect.answer ⟨effect.registry, ledger⟩) := by
  have hrun : (request.operation engine.env).run engine.state =
      (.ok effect.answer, ⟨effect.registry, ledger⟩) := by
    rw [Request.run_operation, heffect]
    simp only [attempt, Effect.carryOut, hsteps]
  unfold perform accept
  simp only [hrun]
  cases effect.answer.event? <;> rfl

theorem perform_eq_of_error {engine : Engine} {request : Request} {e : EscrowError}
    (h : request.effect engine.env engine.state = .error e) :
    engine.perform request = (.error e, engine) := by
  unfold perform
  rw [Request.run_operation, h]
  rfl

theorem perform_eq_of_steps_error {engine : Engine} {request : Request} {effect : Effect Reply}
    {e : LedgerError} (heffect : request.effect engine.env engine.state = .ok effect)
    (hsteps : engine.state.ledger.steps effect.batch.ops = .error e) :
    engine.perform request = (.error (.ofLedger e), engine) := by
  unfold perform
  rw [Request.run_operation, heffect]
  simp only [attempt, Effect.carryOut, hsteps]

/-- **What the engine does with a request**: nothing, or what its effect says. -/
theorem perform_cases (engine : Engine) (request : Request) :
    (∃ e, engine.perform request = (.error e, engine)) ∨
      ∃ effect ledger, request.effect engine.env engine.state = .ok effect ∧
        engine.state.ledger.steps effect.batch.ops = .ok ledger ∧
        engine.perform request =
          (.ok effect.answer, engine.accept effect.answer ⟨effect.registry, ledger⟩) := by
  cases heffect : request.effect engine.env engine.state with
  | error e => exact .inl ⟨e, perform_eq_of_error heffect⟩
  | ok effect =>
      cases hsteps : engine.state.ledger.steps effect.batch.ops with
      | error e => exact .inl ⟨.ofLedger e, perform_eq_of_steps_error heffect hsteps⟩
      | ok ledger => exact .inr ⟨effect, ledger, rfl, hsteps, perform_eq_of_effect heffect hsteps⟩

/-- **All or nothing.** A refused request leaves the engine as it was: the records, the ledger,
the log and the feed. Once a request is admitted and its batch is moved nothing can fail any
more, and what a lock debits then is covered by the balance it is taken from. -/
theorem perform_all_or_nothing (engine : Engine) (request : Request) :
    (∀ e, (engine.perform request).1 = .error e → (engine.perform request).2 = engine) ∧
    (∀ effect, request.effect engine.env engine.state = .ok effect →
      (engine.state.ledger.apply effect.batch).1 = .ok () →
      (engine.perform request).1 = .ok effect.answer) ∧
    (∀ req plan, request = .lock req → req.plan engine.env engine.state = .ok plan →
      req.terms.payIn = false →
      req.terms.amount ≤ engine.state.registry.internalBalance req.offerer req.mint) := by
  refine ⟨fun e he => ?_, fun effect heffect happly => ?_, fun req plan _ => ?_⟩
  · rcases engine.perform_cases request with ⟨_, h⟩ | ⟨_, _, _, _, h⟩
    · rw [h]
    · rw [h] at he
      cases he
  · unfold Ledger.apply at happly
    cases hsteps : engine.state.ledger.steps effect.batch.ops with
    | error e =>
        rw [hsteps] at happly
        cases happly
    | ok ledger => rw [perform_eq_of_effect heffect hsteps]
  · exact LockRequest.amount_le_internalBalance

/-- Somebody else's data buffer cannot be closed, and stays. -/
theorem perform_all_or_nothing_foreign_buffer :
    let owner : Pubkey := ⟨.replicate 1⟩
    let stranger : Pubkey := ⟨.replicate 2⟩
    let address : Pubkey := ⟨.replicate 3⟩
    let registry := (Registry.empty owner).putBuffer address ⟨owner, [0x2a]⟩
    let engine := Engine.ofState .standard 0 ⟨registry, .empty⟩
    (engine.perform (.closeBuffer stranger address)).1 = .error .invalidUserData ∧
      (engine.perform (.closeBuffer stranger address)).2 = engine := by
  intro owner stranger address registry engine
  have he : (engine.perform (.closeBuffer stranger address)).1 = .error .invalidUserData := rfl
  exact ⟨he, (perform_all_or_nothing engine _).1 _ he⟩

end Engine

end AtomicEscrow
