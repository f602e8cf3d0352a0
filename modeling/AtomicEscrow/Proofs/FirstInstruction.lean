import AtomicEscrow.Proofs.ChainFacts
import AtomicEscrow.Proofs.Consent

set_option autoImplicit false

/-! # The first instruction

Anybody who submits a claim or a refund can let other programs run before it, and so put into the
preamble what they like. Three checks look there: that a transaction is in the chain, that a height
is reached, and that the claimer agreed. Each of them takes the first instruction or none. So a
preamble is as good as the one that is left when everything after its first instruction is cut off
(`Preamble.trim`), for one request (`Operation.claim_trim`, `Operation.refund_trim`) and for a whole
history (`Engine.run_trim`). In particular it does not help, and does no harm, to run more programs
after the one that counts.
-/

namespace AtomicEscrow

/-! ## Cutting off -/

namespace Preamble

/-- The preamble without the instructions after the first. -/
def trim (p : Preamble) : Preamble := { p with instructions := p.instructions.take 1 }

/-- The preamble with more instructions at its end. -/
def pushAll (p : Preamble) (more : List Instruction) : Preamble :=
  more.foldl (fun p instruction => p.push instruction.programId instruction.attestation) p

variable {p p' : Preamble}

@[simp] theorem first?_trim : p.trim.first? = p.first? := by
  unfold trim first?
  cases p.instructions <;> rfl

@[simp] theorem checkSource_trim : p.trim.checkSource = p.checkSource := rfl

theorem pushAll_eq (p : Preamble) (more : List Instruction) :
    p.pushAll more = { p with instructions := p.instructions ++ more } := by
  induction more generalizing p with
  | nil => simp [pushAll]
  | cons instruction rest ih =>
      have hpushed := ih (p.push instruction.programId instruction.attestation)
      simpa [pushAll, push] using hpushed

/-- What is pushed onto a preamble that has an instruction is cut off again. -/
theorem trim_pushAll (h : p.instructions ≠ []) (more : List Instruction) :
    (p.pushAll more).trim = p.trim := by
  obtain ⟨instruction, rest, hsplit⟩ := List.exists_cons_of_ne_nil h
  rw [pushAll_eq, trim, trim, hsplit]
  rfl

end Preamble

/-- The request without the instructions after the first. -/
def ClaimRequest.trim (req : ClaimRequest) : ClaimRequest :=
  { req with preamble := req.preamble.trim }

def RefundRequest.trim (req : RefundRequest) : RefundRequest :=
  { req with preamble := req.preamble.trim }

/-- The request with more instructions before it, after those that it has. -/
def ClaimRequest.pushAll (req : ClaimRequest) (more : List Instruction) : ClaimRequest :=
  { req with preamble := req.preamble.pushAll more }

def RefundRequest.pushAll (req : RefundRequest) (more : List Instruction) : RefundRequest :=
  { req with preamble := req.preamble.pushAll more }

theorem ClaimRequest.trim_pushAll (req : ClaimRequest) (h : req.preamble.instructions ≠ [])
    (more : List Instruction) : (req.pushAll more).trim = req.trim :=
  congrArg ({ req with preamble := · }) (Preamble.trim_pushAll h more)

theorem RefundRequest.trim_pushAll (req : RefundRequest) (h : req.preamble.instructions ≠ [])
    (more : List Instruction) : (req.pushAll more).trim = req.trim :=
  congrArg ({ req with preamble := · }) (Preamble.trim_pushAll h more)

/-! ## The checks that look at instructions -/

theorem Terms.checkInclusion_trim (terms : Terms) (relayProgramId : Pubkey) (txid : Hash)
    (preamble : Preamble) :
    terms.checkInclusion relayProgramId txid preamble.trim =
      terms.checkInclusion relayProgramId txid preamble := by
  unfold checkInclusion
  rw [Preamble.first?_trim]

theorem Terms.verifyClaim_trim (terms : Terms) (relayProgramId : Pubkey) (secret : Bytes)
    (preamble : Preamble) :
    terms.verifyClaim relayProgramId secret preamble.trim =
      terms.verifyClaim relayProgramId secret preamble := by
  unfold verifyClaim
  simp only [checkInclusion_trim]

namespace Escrow

variable (escrow : Escrow) (config : Config) (now : UInt64) (preamble : Preamble)

theorem checkConsent_trim (authExpiry : UInt64) :
    escrow.checkConsent config now authExpiry preamble.trim =
      escrow.checkConsent config now authExpiry preamble := by
  unfold checkConsent
  rw [Preamble.first?_trim]

theorem checkHeight_trim (height : UInt32) :
    checkHeight config height preamble.trim = checkHeight config height preamble := by
  unfold checkHeight
  rw [Preamble.first?_trim]

theorem checkExpiry_trim :
    escrow.checkExpiry config now preamble.trim = escrow.checkExpiry config now preamble := by
  unfold checkExpiry
  simp only [checkHeight_trim]

theorem authorizeRefund_trim (auth : RefundAuth) :
    escrow.authorizeRefund config now auth preamble.trim =
      escrow.authorizeRefund config now auth preamble := by
  unfold authorizeRefund
  simp only [checkConsent_trim, checkExpiry_trim]

end Escrow

/-! ## Requests -/

theorem ClaimRequest.plan_trim (req : ClaimRequest) : req.trim.plan = req.plan := by
  funext env s
  simp only [plan, trim, Preamble.checkSource_trim, Terms.verifyClaim_trim]
  rfl

theorem RefundRequest.plan_trim (req : RefundRequest) : req.trim.plan = req.plan := by
  funext env s
  simp only [plan, trim, Preamble.checkSource_trim, Escrow.authorizeRefund_trim]
  rfl

namespace Operation

variable {env : Env} {s : State}

theorem claim_trim (env : Env) (req : ClaimRequest) : claim env req.trim = claim env req := by
  unfold claim
  rw [ClaimRequest.plan_trim]
  rfl

theorem refund_trim (env : Env) (req : RefundRequest) : refund env req.trim = refund env req := by
  unfold refund
  rw [RefundRequest.plan_trim]
  rfl

theorem claim_congr {req req' : ClaimRequest} (h : req.trim = req'.trim) :
    claim env req = claim env req' := by
  rw [← claim_trim, h, claim_trim]

theorem refund_congr {req req' : RefundRequest} (h : req.trim = req'.trim) :
    refund env req = refund env req' := by
  rw [← refund_trim, h, refund_trim]

end Operation

/-! ## Two settlements with evidence -/

namespace Operation

theorem run_refund_of_accepts {engine : Engine} {req : RefundRequest}
    (h : engine.Accepts (.refund req)) :
    ∃ event s', (refund engine.env req).run engine.state = (.ok event, s') := by
  obtain ⟨reply, hreply⟩ := h
  rcases engine.perform_cases (.refund req) with ⟨e, hperform⟩ |
    ⟨effect, ledger, heffect, hsteps, -⟩
  · rw [hperform] at hreply
    cases hreply
  · cases Request.admitted_of_effect heffect with
    | refund hplan => exact ⟨_, _, run_refund_eq_ok_iff.2 ⟨_, ledger, hplan, hsteps, rfl, rfl⟩⟩

open Engine World

/-- The claim that shows what the relay said of the buried transaction goes through. -/
theorem run_claim_of_buriedLock :
    let s := ((Engine.new .standard 0 .empty).run buriedLock).state
    let req := (escrowOfOwn someOwner someMint buriedTerms).inlineClaim s.registry someMint []
      buriedPreamble
    ∃ event s', (claim ⟨.standard, 0⟩ req).run s = (.ok event, s') := by
  intro s req
  have hproof : buriedTerms.verifyClaim Config.standard.relayProgramId [] buriedPreamble =
      .ok buriedTerms.hash :=
    bind_eq_ok_iff.2 ⟨(), Terms.checkInclusion_eq_ok_iff.2 ⟨3, rfl, UInt16.le_refl 3⟩, rfl⟩
  obtain ⟨_, hplan⟩ := funded_buriedLock.exists_claimPlan ⟨.standard, 0⟩ someMint rfl hproof
  obtain ⟨ledger, hsteps⟩ := funded_buriedLock.exists_steps (ClaimPlan.admitted hplan) rfl
  exact ⟨_, _, run_claim_eq_ok_iff.2 ⟨_, ledger, hplan, hsteps, rfl, rfl⟩⟩

theorem run_refund_of_lockToken :
    let lock := lockToken Config.standard.programId someOwner someMint someClaimer (.replicate 3)
    let s := ((Engine.new .standard 0 .empty).run
      (fundedOwner Config.standard.programId someOwner someMint ++ [lock])).state
    let req := refundWithConsent .standard someOwner someMint someClaimer (.replicate 3) 1
    ∃ event s', (refund ⟨.standard, 0⟩ req).run s = (.ok event, s') := by
  intro lock s req
  obtain ⟨⟨haccepts, -⟩, -⟩ := accepts_refund_again .standard someOwner someMint
    someClaimer (.replicate 3) someAccount_ne_vault
  have henv : ((Engine.new .standard 0 .empty).run
      (fundedOwner Config.standard.programId someOwner someMint ++ [lock])).env =
        ⟨.standard, 0⟩ := by
    unfold env
    rw [Engine.config_run, now_run]
    rfl
  exact henv ▸ run_refund_of_accepts haccepts

end Operation

/-! ## What is run later -/

namespace Operation

/-- **Only the first instruction counts.** Two claims, or two refunds, that differ in nothing but
instructions after the first get the same answer and leave the same state, whatever the state, the
configuration and the time. So instructions that are pushed onto a preamble which has one change
nothing, however many there are and of whatever programs. -/
theorem first_instruction_decides (env : Env) (s : State) :
    (∀ req req' : ClaimRequest, req.trim = req'.trim →
      (claim env req).run s = (claim env req').run s) ∧
    (∀ req req' : RefundRequest, req.trim = req'.trim →
      (refund env req).run s = (refund env req').run s) ∧
    (∀ (req : ClaimRequest) (more : List Instruction), req.preamble.instructions ≠ [] →
      (claim env (req.pushAll more)).run s = (claim env req).run s) ∧
    (∀ (req : RefundRequest) (more : List Instruction), req.preamble.instructions ≠ [] →
      (refund env (req.pushAll more)).run s = (refund env req).run s) := by
  refine ⟨fun req req' h => ?_, fun req req' h => ?_, fun req more h => ?_,
    fun req more h => ?_⟩
  · rw [claim_congr h]
  · rw [refund_congr h]
  · rw [claim_congr (req.trim_pushAll h more)]
  · rw [refund_congr (req.trim_pushAll h more)]

open Engine World in
/-- A claim by the word of the relay and a refund by consent stay accepted, and leave the same
state, if other programs are run after the one that speaks for them. -/
theorem first_instruction_decides_of_samples :
    let more : List Instruction :=
      [⟨someMint, .ed25519 someOwner []⟩, ⟨someOwner, .blockHeight 0 .lt⟩]
    (let s := ((Engine.new .standard 0 .empty).run buriedLock).state
      let req := (escrowOfOwn someOwner someMint buriedTerms).inlineClaim s.registry someMint []
        buriedPreamble
      ∃ event s', (claim ⟨.standard, 0⟩ req).run s = (.ok event, s') ∧
        (claim ⟨.standard, 0⟩ (req.pushAll more)).run s = (.ok event, s')) ∧
    (let lock := lockToken Config.standard.programId someOwner someMint someClaimer (.replicate 3)
      let s := ((Engine.new .standard 0 .empty).run
        (fundedOwner Config.standard.programId someOwner someMint ++ [lock])).state
      let req := refundWithConsent .standard someOwner someMint someClaimer (.replicate 3) 1
      ∃ event s', (refund ⟨.standard, 0⟩ req).run s = (.ok event, s') ∧
        (refund ⟨.standard, 0⟩ (req.pushAll more)).run s = (.ok event, s')) := by
  intro more
  constructor
  · intro s req
    obtain ⟨event, s', hrun⟩ := run_claim_of_buriedLock
    have hsame := (first_instruction_decides ⟨.standard, 0⟩ s).2.2.1 req more
      (List.cons_ne_nil _ [])
    exact ⟨event, s', hrun, hsame.trans hrun⟩
  · intro lock s req
    obtain ⟨event, s', hrun⟩ := run_refund_of_lockToken
    have hsame := (first_instruction_decides ⟨.standard, 0⟩ s).2.2.2 req more
      (List.cons_ne_nil _ [])
    exact ⟨event, s', hrun, hsame.trans hrun⟩

end Operation

/-! ## Histories -/

/-- The request without the instructions after the first. -/
def Request.trim : Request → Request
  | claim req => claim req.trim
  | refund req => refund req.trim
  | other => other

def Step.trim : Step → Step
  | request made => request made.trim
  | other => other

theorem Request.operation_trim (env : Env) (request : Request) :
    request.trim.operation env = request.operation env := by
  cases request with
  | claim req =>
      simp only [trim, operation, Operation.claim_trim]
  | refund req =>
      simp only [trim, operation, Operation.refund_trim]
  | _ => rfl

namespace Engine

theorem perform_trim (engine : Engine) (request : Request) :
    engine.perform request.trim = engine.perform request := by
  unfold perform
  rw [Request.operation_trim]

theorem step_trim (engine : Engine) (step : Step) : engine.step step.trim = engine.step step := by
  cases step with
  | request made => exact congrArg Prod.snd (engine.perform_trim made)
  | _ => rfl

/-- **A history is as good as the one in which every preamble is cut off after its first
instruction**: it ends in the same engine, with the same records, funds and events. -/
theorem run_trim (engine : Engine) (steps : List Step) :
    engine.run (steps.map Step.trim) = engine.run steps := by
  induction steps generalizing engine with
  | nil => rfl
  | cons step rest ih => rw [List.map_cons, run_cons, run_cons, step_trim, ih]

end Engine

end AtomicEscrow
