import AtomicEscrow.Proofs.Effect

set_option autoImplicit false

/-! # Where faults come from

A refusal names what is wrong with the request, and of several things the one that is looked at
first (`FailsFirst`). A *fault* only says in words why the program cannot go on, and there are few:
a secret too short to be read, a credit that does not fit, a balance of the ledger that overflows.
So the words tell which check failed. A settlement that is refused with the words of its credit met
two amounts that do not fit in a word together (`Engine.overflow_of_claim`,
`Engine.overflow_of_refund`).
-/

namespace AtomicEscrow

/-! ## Checks in sequence -/

section Sequence

variable {ε α β : Type}

/-- A sequence of checks fails as the first one that fails. -/
theorem bind_eq_error_iff {x : Except ε α} {f : α → Except ε β} {e : ε} :
    (x >>= f) = .error e ↔ x = .error e ∨ ∃ a, x = .ok a ∧ f a = .error e := by
  cases x with
  | error e' => simp [bind, Except.bind]
  | ok a => simp [bind, Except.bind]

theorem pure_ne_error {a : α} {e : ε} : (pure a : Except ε α) ≠ .error e := by
  intro h
  cases h

theorem throw_eq_error_iff {e e' : ε} : (throw e : Except ε α) = .error e' ↔ e = e' := by
  show Except.error e = Except.error e' ↔ e = e'
  simp

theorem require_eq_error_iff {condition : Prop} [Decidable condition] {e e' : EscrowError} :
    require condition e = .error e' ↔ ¬condition ∧ e = e' := by
  unfold require
  split <;> simp [*]

theorem orThrow_eq_error_iff {condition : Prop} [Decidable condition] {e e' : ε}
    {next : PUnit → Except ε β} :
    (if condition then throw e >>= next else next ()) = .error e' ↔
      condition ∧ e = e' ∨ ¬condition ∧ next () = .error e' := by
  split
  case isTrue h => simp [h, bind_eq_error_iff, throw_eq_error_iff, throw_ne_ok]
  case isFalse h => simp [h]

end Sequence

/-! ## The first thing that is wrong -/

/-- A check fails iff something is wrong, and then with the first thing that is. -/
def FailsFirst {ε α : Type} (check : Except ε α) (faults : List ε) : Prop :=
  ∀ e, check = .error e ↔ faults.head? = some e

namespace FailsFirst

variable {ε ε' α β : Type} {check : Except ε α} {faults faults' : List ε}

theorem ok_iff (h : FailsFirst check faults) : (∃ a, check = .ok a) ↔ faults = [] := by
  cases check with
  | error e =>
      have hhead := (h e).1 rfl
      constructor
      · rintro ⟨a, ha⟩
        cases ha
      · rintro rfl
        cases hhead
  | ok a =>
      refine ⟨fun _ => ?_, fun _ => ⟨a, rfl⟩⟩
      cases faults with
      | nil => rfl
      | cons e rest => cases (h e).2 rfl

/-- Of two checks in a row the first is the one that can hide the other, which may rely on what the
first has found. -/
theorem bind_of_ok {next : α → Except ε β} (h : FailsFirst check faults)
    (hnext : ∀ a, check = .ok a → FailsFirst (next a) faults') :
    FailsFirst (check >>= next) (faults ++ faults') := by
  intro e
  cases check with
  | error e' =>
      have hhead := (h e').1 rfl
      obtain ⟨rest, rfl⟩ := List.head?_eq_some_iff.1 hhead
      show Except.error e' = .error e ↔ some e' = some e
      simp
  | ok a =>
      have hnil := h.ok_iff.1 ⟨a, rfl⟩
      rw [hnil, List.nil_append]
      exact hnext a rfl e

theorem bind {next : α → Except ε β} (h : FailsFirst check faults)
    (hnext : ∀ a, FailsFirst (next a) faults') :
    FailsFirst (check >>= next) (faults ++ faults') :=
  h.bind_of_ok fun a _ => hnext a

theorem bind_pure (h : FailsFirst check faults) (f : α → β) :
    FailsFirst (check >>= fun a => pure (f a)) faults := by
  rw [← List.append_nil faults]
  exact h.bind fun a e => by simp [pure_ne_error]

theorem mapError (h : FailsFirst check faults) (f : ε → ε') :
    FailsFirst (check.mapError f) (faults.map f) := by
  intro e
  cases check with
  | error e' =>
      rw [List.head?_map, (h e').1 rfl]
      show Except.error (f e') = .error e ↔ some (f e') = some e
      simp
  | ok a =>
      rw [h.ok_iff.1 ⟨a, rfl⟩]
      show Except.ok a = .error e ↔ none = some e
      simp

end FailsFirst

section Refusal

variable {ε : Type} {condition : Prop} [Decidable condition]

/-- The refusal that is due unless a condition holds. -/
def refusal (condition : Prop) [Decidable condition] (e : ε) : List ε :=
  if condition then [] else [e]

@[simp] theorem refusal_eq_nil_iff {e : ε} : refusal condition e = [] ↔ condition := by
  unfold refusal
  split <;> simp [*]

theorem failsFirst_throw {α : Type} (e : ε) : FailsFirst (throw e : Except ε α) [e] := by
  intro e'
  rw [throw_eq_error_iff]
  simp

theorem failsFirst_require (e : EscrowError) :
    FailsFirst (require condition e) (refusal condition e) := by
  intro e'
  unfold require refusal
  split <;> simp

theorem failsFirst_ok {α : Type} (h : condition) (a : α) (e : ε) :
    FailsFirst (.ok a) (refusal condition e) := by
  intro e'
  simp [refusal, h]

end Refusal

/-! ## Checks that never end in a fault -/

variable {reason : String}

theorem Ledger.tokenAccountFor_ne_fault (l : Ledger) (address mint : Pubkey) :
    l.tokenAccountFor address mint ≠ .error (.programFault reason) := by
  unfold tokenAccountFor
  split
  · simp
  · split <;> simp

namespace Registry

theorem escrowAt_ne_fault (r : Registry) (hash : Hash) (address : Pubkey) :
    r.escrowAt hash address ≠ .error (.programFault reason) := by
  unfold escrowAt
  split
  · simp
  · split <;> simp

theorem userAt_ne_fault (r : Registry) (address owner mint : Pubkey) :
    r.userAt address owner mint ≠ .error (.programFault reason) := by
  unfold userAt checkUserAddress
  rw [ne_eq, bind_eq_error_iff]
  rintro (h | ⟨_, -, h⟩)
  · split at h <;> cases h
  · cases hfound : r.users.get? address <;> rw [hfound] at h <;> cases h

theorem ownBuffer_ne_fault (r : Registry) (address signer : Pubkey) :
    r.ownBuffer address signer ≠ .error (.programFault reason) := by
  unfold ownBuffer
  split
  · simp
  · split <;> simp

end Registry

theorem Preamble.checkSource_ne_fault (p : Preamble) :
    p.checkSource ≠ .error (.programFault reason) := by
  simp [checkSource, require_eq_error_iff]

namespace Escrow

theorem checkConsent_ne_fault (escrow : Escrow) (config : Config) (now authExpiry : UInt64)
    (preamble : Preamble) :
    escrow.checkConsent config now authExpiry preamble ≠ .error (.programFault reason) := by
  unfold checkConsent
  grind

theorem checkHeight_ne_fault (config : Config) (height : UInt32) (preamble : Preamble) :
    checkHeight config height preamble ≠ .error (.programFault reason) := by
  unfold checkHeight
  grind

theorem checkExpiry_ne_fault (escrow : Escrow) (config : Config) (now : UInt64)
    (preamble : Preamble) :
    escrow.checkExpiry config now preamble ≠ .error (.programFault reason) := by
  unfold checkExpiry
  split
  · exact checkHeight_ne_fault _ _ _
  · split <;> simp

theorem authorizeRefund_ne_fault (escrow : Escrow) (config : Config) (now : UInt64)
    (auth : RefundAuth) (preamble : Preamble) :
    escrow.authorizeRefund config now auth preamble ≠ .error (.programFault reason) := by
  cases auth <;>
    simp only [authorizeRefund, ne_eq, bind_eq_error_iff, pure_ne_error, checkConsent_ne_fault,
      checkExpiry_ne_fault, and_false, exists_false, or_self, not_false_eq_true]

end Escrow

/-! ## The faults of a proof -/

theorem append_ne_of_not_isPrefix {start middle rest text : String}
    (h : ¬start.toList <+: text.toList) : start ++ middle ++ rest ≠ text := by
  rintro rfl
  apply h
  rw [String.toList_append, String.toList_append, List.append_assoc]
  exact List.prefix_append ..

namespace Terms

variable {terms : Terms} {relayProgramId : Pubkey} {secret : Bytes} {preamble : Preamble}

theorem checkInclusion_ne_fault {txid : Hash} :
    terms.checkInclusion relayProgramId txid preamble ≠ .error (.programFault reason) := by
  unfold checkInclusion
  grind

theorem submittedTransaction_ne_fault {raw : Bytes} :
    submittedTransaction raw ≠ .error (.programFault reason) := by
  unfold submittedTransaction
  split <;> simp

theorem noncedSequence_ne_fault {tx : SubmittedTransaction} :
    terms.noncedSequence tx ≠ .error (.programFault reason) := by
  unfold noncedSequence
  grind

theorem openPayment_fault (h : terms.openPayment secret = .error (.programFault reason)) :
    reason = s!"secret of {secret.length} bytes is shorter than 32" := by
  unfold openPayment at h
  grind

theorem openOutput_fault (h : terms.openOutput secret = .error (.programFault reason)) :
    reason = s!"chain claim payload of {secret.length} bytes has no output index" := by
  simp only [openOutput, orThrow_eq_error_iff, bind_eq_error_iff] at h
  rcases h with ⟨-, h⟩ | ⟨-, h | ⟨tx, -, h | ⟨sequence, -, h⟩⟩⟩
  · exact (EscrowError.programFault.inj h).symm
  · exact absurd h submittedTransaction_ne_fault
  · exact absurd h noncedSequence_ne_fault
  · -- From here on a refusal has a cause of its own.
    split at h
    · cases h
    · cases sequence <;>
        simp only [orThrow_eq_error_iff, pure_ne_error, and_false, or_false, reduceCtorEq] at h

/-- A proof ends in a fault only if its secret is too short to be read. -/
theorem verifyClaim_fault
    (h : terms.verifyClaim relayProgramId secret preamble = .error (.programFault reason)) :
    reason = s!"secret of {secret.length} bytes is shorter than 32" ∨
      reason = s!"chain claim payload of {secret.length} bytes has no output index" := by
  unfold verifyClaim at h
  cases hkind : terms.kind with
  | htlc =>
      rw [hkind] at h
      exact .inl (openPayment_fault h)
  | chain | chainNonced =>
      simp only [hkind, bind_eq_error_iff, checkInclusion_ne_fault, pure_ne_error, and_false,
        exists_false, or_false] at h
      exact .inr (openOutput_fault h)
  | chainTxhash =>
      simp only [hkind, bind_eq_error_iff, checkInclusion_ne_fault, pure_ne_error, and_false,
        exists_false, or_false] at h

end Terms

/-! ## The fault of a credit -/

theorem creditedBalance_eq_error_iff {balance amount : UInt64} {text : String} {e : EscrowError} :
    creditedBalance balance amount text = .error e ↔
      UInt64.size ≤ balance.toNat + amount.toNat ∧ e = .programFault text := by
  unfold creditedBalance
  rw [← Amount.add?_eq_none_iff]
  cases Amount.add? balance amount <;> simp [eq_comm]

variable {env : Env} {s : State} {escrow : Escrow}

/-- A settlement into an internal balance ends in a fault only if the credit does not fit. -/
theorem credit_fault {r : Registry} {address owner mint : Pubkey} {amount : UInt64} {text : String}
    (h : (do
        let account ← r.userAt address owner mint
        let balance ← creditedBalance account.amount amount text
        return some balance) = Except.error (EscrowError.programFault reason)) :
    ∃ account, r.user? owner mint = some account ∧
      UInt64.size ≤ account.amount.toNat + amount.toNat := by
  simp only [bind_eq_error_iff, Registry.userAt_ne_fault, Registry.userAt_eq_ok_iff,
    creditedBalance_eq_error_iff, pure_ne_error, and_false, exists_false, or_false,
    false_or] at h
  obtain ⟨account, ⟨-, hfound⟩, hoverflow, -⟩ := h
  exact ⟨account, hfound, hoverflow⟩

/-- A settlement into a token account never does. -/
theorem payout_ne_fault {l : Ledger} {condition : Prop} [Decidable condition]
    {address mint : Pubkey} :
    (do
        require condition .constraintRaw
        let _ ← l.tokenAccountFor address mint
        return (none : Option UInt64)) ≠ Except.error (EscrowError.programFault reason) := by
  simp only [ne_eq, bind_eq_error_iff, require_eq_error_iff, Ledger.tokenAccountFor_ne_fault,
    pure_ne_error, and_false, exists_false, or_self, reduceCtorEq, not_false_eq_true]

namespace ClaimRequest

variable {req : ClaimRequest}

theorem checkDestination_fault
    (h : req.checkDestination escrow s = .error (.programFault reason)) :
    ∃ account, s.registry.user? escrow.claimer escrow.mint = some account ∧
      UInt64.size ≤ account.amount.toNat + escrow.terms.amount.toNat := by
  unfold checkDestination at h
  split at h
  · exact absurd h payout_ne_fault
  · exact credit_fault h
  · cases h

theorem readSecret_ne_fault : req.readSecret s ≠ .error (.programFault reason) := by
  unfold readSecret
  cases req.secret <;>
    simp only [ne_eq, bind_eq_error_iff, Registry.ownBuffer_ne_fault, pure_ne_error, and_false,
      exists_false, or_self, not_false_eq_true]

/-- The proof is looked at after the credit, and its faults are in other words. -/
theorem overflow_of_plan
    (h : req.plan env s = .error (.programFault "claimer balance overflow")) :
    ∃ escrow account, s.registry.escrow? req.hash = some escrow ∧
      s.registry.user? escrow.claimer escrow.mint = some account ∧
      UInt64.size ≤ account.amount.toNat + escrow.terms.amount.toNat := by
  simp only [ClaimRequest.plan, bind_eq_error_iff, Registry.escrowAt_ne_fault,
    Registry.escrowAt_eq_ok_iff, require_eq_error_iff, Preamble.checkSource_ne_fault,
    readSecret_ne_fault, pure_ne_error, and_false, exists_false, or_false, false_or,
    reduceCtorEq] at h
  obtain ⟨escrow, ⟨-, hlive⟩, -, -, h | ⟨_, -, _, -, _, -, h⟩⟩ := h
  · obtain ⟨account, hfound, hoverflow⟩ := checkDestination_fault h
    exact ⟨escrow, account, hlive, hfound, hoverflow⟩
  · rcases Terms.verifyClaim_fault h with htext | htext
    · exact absurd htext.symm (append_ne_of_not_isPrefix (by decide))
    · exact absurd htext.symm (append_ne_of_not_isPrefix (by decide))

end ClaimRequest

namespace RefundRequest

variable {req : RefundRequest}

theorem checkDestination_fault
    (h : req.checkDestination escrow s = .error (.programFault reason)) :
    ∃ account, s.registry.user? escrow.offerer escrow.mint = some account ∧
      UInt64.size ≤ account.amount.toNat + escrow.terms.amount.toNat := by
  unfold checkDestination at h
  split at h
  · exact absurd h payout_ne_fault
  · exact credit_fault h
  · cases h

theorem checkClaimer_ne_fault : req.checkClaimer escrow s ≠ .error (.programFault reason) := by
  unfold checkClaimer
  split
  · simp
  · split
    · simp
    · simp only [ne_eq, bind_eq_error_iff, Registry.userAt_ne_fault, pure_ne_error, and_false,
        exists_false, or_self, not_false_eq_true]

/-- The credit is the only check of a refund that can end in a fault. -/
theorem overflow_of_plan (h : req.plan env s = .error (.programFault reason)) :
    ∃ escrow account, s.registry.escrow? req.hash = some escrow ∧
      s.registry.user? escrow.offerer escrow.mint = some account ∧
      UInt64.size ≤ account.amount.toNat + escrow.terms.amount.toNat := by
  simp only [RefundRequest.plan, bind_eq_error_iff, Registry.escrowAt_ne_fault,
    Registry.escrowAt_eq_ok_iff, require_eq_error_iff, checkClaimer_ne_fault,
    Preamble.checkSource_ne_fault, Escrow.authorizeRefund_ne_fault, pure_ne_error, and_false,
    exists_false, or_false, false_or, reduceCtorEq] at h
  obtain ⟨escrow, ⟨-, hlive⟩, -, -, h⟩ := h
  obtain ⟨account, hfound, hoverflow⟩ := checkDestination_fault h
  exact ⟨escrow, account, hlive, hfound, hoverflow⟩

end RefundRequest

/-! ## The engine -/

theorem EscrowError.ofLedger_eq_fault_iff {e : LedgerError} :
    ofLedger e = .programFault reason ↔ e = .overflow ∧ reason = "ledger balance overflow" := by
  cases e <;> simp [ofLedger, eq_comm]

namespace Engine

/-- A fault comes from the checks of the request, or says that the ledger overflows. -/
theorem fault_of_perform {engine : Engine} {request : Request}
    (h : (engine.perform request).1 = .error (.programFault reason)) :
    request.effect engine.env engine.state = .error (.programFault reason) ∨
      reason = "ledger balance overflow" := by
  cases heffect : request.effect engine.env engine.state with
  | error e =>
      rw [perform_eq_of_error heffect] at h
      exact .inl (congrArg Except.error (Except.error.inj h))
  | ok effect =>
      cases hsteps : engine.state.ledger.steps effect.batch.ops with
      | error e =>
          rw [perform_eq_of_steps_error heffect hsteps] at h
          exact .inr (EscrowError.ofLedger_eq_fault_iff.1 (Except.error.inj h)).2
      | ok ledger =>
          rw [perform_eq_of_effect heffect hsteps] at h
          cases h

/-- A claim is refused in these words only where the tokens and the internal balance of the
claimer do not fit in a word. -/
theorem overflow_of_claim {engine : Engine} {req : ClaimRequest}
    (h : (engine.perform (.claim req)).1 = .error (.programFault "claimer balance overflow")) :
    ∃ escrow account, engine.state.registry.escrow? req.hash = some escrow ∧
      engine.state.registry.user? escrow.claimer escrow.mint = some account ∧
      UInt64.size ≤ account.amount.toNat + escrow.terms.amount.toNat := by
  rcases fault_of_perform h with heffect | htext
  · simp only [Request.effect, ClaimRequest.effect, bind_eq_error_iff, pure_ne_error, and_false,
      exists_false, or_false] at heffect
    exact ClaimRequest.overflow_of_plan heffect
  · exact absurd htext (by decide)

theorem overflow_of_refund {engine : Engine} {req : RefundRequest}
    (h : (engine.perform (.refund req)).1 = .error (.programFault "offerer balance overflow")) :
    ∃ escrow account, engine.state.registry.escrow? req.hash = some escrow ∧
      engine.state.registry.user? escrow.offerer escrow.mint = some account ∧
      UInt64.size ≤ account.amount.toNat + escrow.terms.amount.toNat := by
  rcases fault_of_perform h with heffect | htext
  · simp only [Request.effect, RefundRequest.effect, bind_eq_error_iff, pure_ne_error, and_false,
      exists_false, or_false] at heffect
    exact RefundRequest.overflow_of_plan heffect
  · exact absurd htext (by decide)

end Engine

end AtomicEscrow
