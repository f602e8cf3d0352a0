import AtomicEscrow.Proofs.Effect
import Mathlib.Data.List.Induction

set_option autoImplicit false

/-! # Histories

A history is a list of steps. This file gives what a history leaves behind besides the engine it
ends in, the events of all accepted requests (`Engine.events`), and the two facts that every
induction over histories starts from: a history is followed step by step (`Engine.run_append`),
and a step changes the state by an accepted request, by something that happens to the ledger, or
not at all (`Engine.step_cases`).

Each accepted request is summed up once more by what it does to the live escrows
(`EscrowChange`), since its event tells exactly that.
-/

namespace AtomicEscrow

namespace Engine

/-! ## Runs -/

theorem run_nil (engine : Engine) : engine.run [] = engine := rfl

theorem run_cons (engine : Engine) (step : Step) (steps : List Step) :
    engine.run (step :: steps) = (engine.step step).run steps := rfl

theorem run_append (engine : Engine) (steps : List Step) (step : Step) :
    engine.run (steps ++ [step]) = (engine.run steps).step step := by
  simp [run]

theorem run_run (engine : Engine) (steps steps' : List Step) :
    (engine.run steps).run steps' = engine.run (steps ++ steps') :=
  (List.foldl_append ..).symm

/-! ## Events -/

/-- The event that a step tells of, if it is a request that is accepted. -/
def eventOf? (engine : Engine) : Step → Option SwapEvent
  | .request request =>
      match (engine.perform request).1 with
      | .ok reply => reply.event?
      | .error _ => none
  | _ => none

/-- The events of all accepted requests of a history, oldest first. -/
def events (engine : Engine) : List Step → List SwapEvent
  | [] => []
  | step :: steps => (engine.eventOf? step).toList ++ (engine.step step).events steps

theorem events_append (engine : Engine) (steps : List Step) (step : Step) :
    engine.events (steps ++ [step]) =
      engine.events steps ++ ((engine.run steps).eventOf? step).toList := by
  induction steps generalizing engine with
  | nil => simp [events, run]
  | cons first rest ih =>
      rw [List.cons_append, events, events, ih, run_cons, List.append_assoc]

/-! ## Steps -/

@[simp] theorem state_accept (engine : Engine) (reply : Reply) (state : State) :
    (engine.accept reply state).state = state := by
  unfold accept
  split <;> rfl

@[simp] theorem config_accept (engine : Engine) (reply : Reply) (state : State) :
    (engine.accept reply state).config = engine.config := by
  unfold accept
  split <;> rfl

theorem perform_of_effect {engine : Engine} {request : Request} {effect : Effect Reply}
    {ledger : Ledger} (heffect : request.effect engine.env engine.state = .ok effect)
    (hsteps : engine.state.ledger.steps effect.batch.ops = .ok ledger) :
    (engine.perform request).1 = .ok effect.answer ∧
      (engine.perform request).2.state = ⟨effect.registry, ledger⟩ := by
  rw [perform_eq_of_effect heffect hsteps]
  exact ⟨rfl, state_accept ..⟩

theorem config_step (engine : Engine) (step : Step) :
    (engine.step step).config = engine.config := by
  cases step with
  | request request =>
      -- Only requests can do much, and they do what their effects say.
      rcases engine.perform_cases request with ⟨_, h⟩ | ⟨_, _, -, -, h⟩
      · simp only [Engine.step, h]
      · simp only [Engine.step, h, config_accept]
  | setTime now => rfl
  | advance seconds => rfl
  | createTokenAccount owner mint => rfl
  | mintTo address amount =>
      simp only [Engine.step, mintTo]
      split <;> rfl
  | airdrop owner amount =>
      simp only [Engine.step, airdrop]
      split <;> rfl
  | applyBatch batch => rfl

theorem config_run (engine : Engine) (steps : List Step) :
    (engine.run steps).config = engine.config := by
  induction steps generalizing engine with
  | nil => rfl
  | cons step rest ih => rw [run_cons, ih, config_step]

@[simp] theorem now_accept (engine : Engine) (reply : Reply) (state : State) :
    (engine.accept reply state).now = engine.now := by
  unfold accept
  split <;> rfl

end Engine

/-- What the clock shows after a step. -/
def Step.clock (now : UInt64) : Step → UInt64
  | setTime later => later
  | advance seconds => now + seconds
  | _ => now

namespace Engine

/-- Time passes only where a history says so. -/
theorem now_step (engine : Engine) (step : Step) :
    (engine.step step).now = step.clock engine.now := by
  cases step with
  | request request =>
      -- A request takes no time. Whatever else happens either sets the clock or leaves it.
      rcases engine.perform_cases request with ⟨_, h⟩ | ⟨_, _, -, -, h⟩
      · simp only [Engine.step, h, Step.clock]
      · simp only [Engine.step, h, now_accept, Step.clock]
  | setTime now => rfl
  | advance seconds => rfl
  | createTokenAccount owner mint => rfl
  | mintTo address amount =>
      simp only [Engine.step, mintTo]
      split <;> rfl
  | airdrop owner amount =>
      simp only [Engine.step, airdrop]
      split <;> rfl
  | applyBatch batch => rfl

theorem now_run (engine : Engine) (steps : List Step) :
    (engine.run steps).now = steps.foldl Step.clock engine.now := by
  induction steps generalizing engine with
  | nil => rfl
  | cons step rest ih => rw [run_cons, ih, now_step, List.foldl_cons]

/-- What happens to the ledger outside the program. -/
inductive Outside : Step → Ledger → Ledger → Prop
  | createTokenAccount (l : Ledger) (owner mint : Pubkey) :
      Outside (.createTokenAccount owner mint) l (l.createTokenAccount owner mint).2
  | mintTo {l l' : Ledger} {address : Pubkey} {amount : UInt64}
      (h : l.mintTo address amount = .ok l') : Outside (.mintTo address amount) l l'
  | airdrop {l l' : Ledger} {owner : Pubkey} {amount : UInt64}
      (h : l.airdrop owner amount = .ok l') : Outside (.airdrop owner amount) l l'
  | applyBatch {l l' : Ledger} {batch : Batch} (h : l.steps batch.ops = .ok l') :
      Outside (.applyBatch batch) l l'

/-- **What a step can do to the state**, and what it tells of it: nothing, the effect of an
accepted request, or a change of the ledger alone. -/
theorem step_cases (engine : Engine) (step : Step) :
    ((engine.step step).state = engine.state ∧ engine.eventOf? step = none) ∨
    (∃ request effect ledger, step = .request request ∧
      request.effect engine.env engine.state = .ok effect ∧
      engine.state.ledger.steps effect.batch.ops = .ok ledger ∧
      (engine.step step).state = ⟨effect.registry, ledger⟩ ∧
      engine.eventOf? step = effect.answer.event?) ∨
    (∃ ledger, Outside step engine.state.ledger ledger ∧
      (engine.step step).state = ⟨engine.state.registry, ledger⟩ ∧
      engine.eventOf? step = none) := by
  cases step with
  | request request =>
      rcases engine.perform_cases request with ⟨e, h⟩ | ⟨effect, ledger, heffect, hsteps, h⟩
      · exact .inl ⟨by simp [Engine.step, h], by simp [eventOf?, h]⟩
      · exact .inr (.inl ⟨request, effect, ledger, rfl, heffect, hsteps,
          by simp [Engine.step, h], by simp [eventOf?, h]⟩)
  | setTime now => exact .inl ⟨rfl, rfl⟩
  | advance seconds => exact .inl ⟨rfl, rfl⟩
  | createTokenAccount owner mint =>
      exact .inr (.inr ⟨_, .createTokenAccount _ owner mint, rfl, rfl⟩)
  -- What fails outside the program changes nothing, and what succeeds changes the ledger alone.
  | mintTo address amount =>
      cases h : engine.state.ledger.mintTo address amount with
      | error e => exact .inl ⟨by simp [Engine.step, mintTo, h], rfl⟩
      | ok ledger =>
          exact .inr (.inr ⟨ledger, .mintTo h, by simp [Engine.step, mintTo, h, withLedger], rfl⟩)
  | airdrop owner amount =>
      cases h : engine.state.ledger.airdrop owner amount with
      | error e => exact .inl ⟨by simp [Engine.step, airdrop, h], rfl⟩
      | ok ledger =>
          exact .inr (.inr ⟨ledger, .airdrop h, by simp [Engine.step, airdrop, h, withLedger],
            rfl⟩)
  | applyBatch batch =>
      cases h : engine.state.ledger.steps batch.ops with
      | error e =>
          exact .inl ⟨by simp [Engine.step, applyBatch, Ledger.apply, h, withLedger], rfl⟩
      | ok ledger =>
          exact .inr (.inr ⟨ledger, .applyBatch h,
            by simp [Engine.step, applyBatch, Ledger.apply, h, withLedger], rfl⟩)

end Engine

/-! ## What a request does to the live escrows -/

/-- A change of the live escrows, with the event that tells of it. -/
inductive EscrowChange (r r' : Registry) : Option SwapEvent → Prop
  | none (h : r'.escrows = r.escrows) : EscrowChange r r' none
  | locked {escrow : Escrow} {event : LockEvent}
      (free : r.escrow? escrow.terms.hash = none)
      (put : r'.escrows = r.escrows.insert escrow.terms.hash escrow)
      (hash : event.hash = escrow.terms.hash) (sequence : event.sequence = escrow.terms.sequence) :
      EscrowChange r r' (some (.locked event))
  | claimed {escrow : Escrow} {event : ClaimEvent} {key : Hash}
      (live : r.escrow? key = some escrow) (removed : r'.escrows = r.escrows.erase key)
      (hash : event.hash = escrow.terms.hash) (sequence : event.sequence = escrow.terms.sequence) :
      EscrowChange r r' (some (.claimed event))
  | refunded {escrow : Escrow} {event : RefundEvent} {key : Hash}
      (live : r.escrow? key = some escrow) (removed : r'.escrows = r.escrows.erase key)
      (hash : event.hash = escrow.terms.hash) (sequence : event.sequence = escrow.terms.sequence) :
      EscrowChange r r' (some (.refunded event))

theorem LockRequest.escrows_commit (req : LockRequest) (plan : LockPlan) (r : Registry) :
    (req.commit plan r).escrows = r.escrows.insert plan.escrow.terms.hash plan.escrow := by
  unfold commit
  split
  · rfl
  · simp [Registry.putEscrow]

theorem LockRequest.buffers_commit (req : LockRequest) (plan : LockPlan) (r : Registry) :
    (req.commit plan r).buffers = r.buffers := by
  unfold commit
  split
  · rfl
  · exact Registry.buffers_changeUser ..

theorem ClaimPlan.escrows_commit (plan : ClaimPlan) (hash : Hash) (r : Registry) :
    (plan.commit hash r).escrows = r.escrows.erase hash := by
  unfold commit
  cases plan.credited <;> cases plan.buffer <;> simp [Registry.removeEscrow]

theorem RefundPlan.escrows_commit (plan : RefundPlan) (hash : Hash) (r : Registry) :
    (plan.commit hash r).escrows = r.escrows.erase hash := by
  unfold commit
  cases plan.refunded <;> cases plan.escrow.terms.payOut <;> simp [Registry.removeEscrow]

/-- The event of an accepted request says what became of the live escrows. -/
theorem Request.escrowChange {env : Env} {s : State} {request : Request} {effect : Effect Reply}
    (h : request.effect env s = .ok effect) :
    EscrowChange s.registry effect.registry effect.answer.event? := by
  cases admitted_of_effect h with
  | lock hplan =>
      obtain ⟨account, funding, hterms, -, -, rfl⟩ := LockRequest.plan_eq_ok_iff.1 hplan
      exact .locked (LockRequest.checkTerms_eq_ok_iff.1 hterms).2.2.1
        (LockRequest.escrows_commit ..) rfl rfl
  | claim hplan =>
      obtain ⟨escrow, _, _, _, _, -, hlive, -, -, -, -, -, rfl⟩ :=
        ClaimRequest.plan_eq_ok_iff.1 hplan
      exact .claimed hlive (ClaimPlan.escrows_commit ..) rfl rfl
  | refund hplan =>
      obtain ⟨escrow, _, _, -, hlive, -, -, -, -, -, -, rfl⟩ :=
        RefundRequest.plan_eq_ok_iff.1 hplan
      exact .refunded hlive (RefundPlan.escrows_commit ..) rfl rfl
  -- The other requests are about balances and buffers.
  | deposit => exact .none (Registry.escrows_setBalance ..)
  | withdraw => exact .none (Registry.escrows_changeUser ..)
  | openBuffer => exact .none (Registry.escrows_putBuffer ..)
  | writeBuffer => exact .none (Registry.escrows_putBuffer ..)
  | closeBuffer => exact .none (Registry.escrows_removeBuffer ..)

end AtomicEscrow
