import AtomicEscrow.Proofs.Pot
import AtomicEscrow.Proofs.Solvency

set_option autoImplicit false

/-! # Settlements

A claim and a refund end an escrow in much the same way, but their plans say so in different words.
This file puts an admitted settlement in one form (`Settlement`) that does not speak of the balances
that were found. What it pays is in one form too (`Escrow.payments`), and is paid wherever the vault
and the pot are there and nobody can get too much (`Settlement.Admitted.exists_steps`).
-/

namespace AtomicEscrow

/-! ## How an escrow ends -/

/-- The end of a live escrow. -/
structure Ending where
  escrow : Escrow
  resolution : Resolution
deriving DecidableEq

namespace Ending

/-- Whether the tokens leave the program: the claimer's are paid out, or the offerer's go back to
where they were paid in from. -/
def paysOut (e : Ending) : Bool :=
  match e.resolution with
  | .success => e.escrow.terms.payOut
  | .cooperativeClose | .failure => e.escrow.terms.payIn

def payee (e : Ending) : Pubkey :=
  match e.resolution with
  | .success => e.escrow.claimer
  | .cooperativeClose | .failure => e.escrow.offerer

end Ending

/-- What an admitted claim or refund amounts to. -/
structure Settlement extends Ending where
  /-- The data buffer that is used up. -/
  buffer : Option Pubkey
  batch : Batch
  event : SwapEvent

/-- What an admitted claim amounts to. -/
def ClaimPlan.settlement (plan : ClaimPlan) : Settlement where
  escrow := plan.escrow
  resolution := .success
  buffer := plan.buffer
  batch := plan.batch
  event := .claimed plan.event

def RefundPlan.settlement (plan : RefundPlan) : Settlement where
  escrow := plan.escrow
  resolution := plan.kind.resolution
  buffer := none
  batch := plan.batch
  event := .refunded plan.event

/-- Refunds of both kinds give the tokens back where they came from. -/
theorem RefundPlan.paysOut_settlement (plan : RefundPlan) :
    plan.settlement.paysOut = plan.escrow.terms.payIn := by
  show Ending.paysOut ⟨plan.escrow, plan.kind.resolution⟩ = _
  cases plan.kind <;> rfl

theorem RefundPlan.payee_settlement (plan : RefundPlan) :
    plan.settlement.payee = plan.escrow.offerer := by
  show Ending.payee ⟨plan.escrow, plan.kind.resolution⟩ = _
  cases plan.kind <;> rfl

variable {env : Env} {s : State}

/-! ## What is paid -/

namespace Escrow

/-- The payments of a settlement: the tokens out of the vault, if they leave the program, and the
pot in two parts. -/
def payments (escrow : Escrow) (vault address : Pubkey) (target : Option Pubkey)
    (first second : Pubkey) (part : UInt64) : Batch :=
  let tokens :=
    match target with
    | some account => Batch.empty.tokenTransfer vault account escrow.mint escrow.terms.amount
    | none => .empty
  (tokens.nativeTransfer address first part).nativeTransfer address second
    (escrow.nativePot - part)

variable (escrow : Escrow) (vault address : Pubkey) (target : Option Pubkey)
  (first second : Pubkey) (part : UInt64)

theorem tokensFrom_payments (key : Pubkey) :
    (escrow.payments vault address target first second part).tokensFrom key =
      if target.isSome = true ∧ vault = key then escrow.terms.amount.toNat else 0 := by
  cases target <;> simp [payments]

theorem tokensTo_payments (key : Pubkey) :
    (escrow.payments vault address target first second part).tokensTo key =
      if target = some key then escrow.terms.amount.toNat else 0 := by
  cases target <;> simp [payments]

theorem nativesFrom_payments (hpart : part ≤ escrow.nativePot) (key : Pubkey) :
    (escrow.payments vault address target first second part).nativesFrom key =
      if address = key then escrow.nativePot.toNat else 0 := by
  have hsum := Amount.toNat_sub_add hpart
  have hboth : (escrow.payments vault address target first second part).nativesFrom key =
      (if address = key then part.toNat else 0) +
        if address = key then (escrow.nativePot - part).toNat else 0 := by
    cases target <;> simp [payments]
  rw [hboth]
  split
  · omega
  · rfl

theorem opened?_payments (key : Pubkey) :
    (escrow.payments vault address target first second part).opened? key = none := by
  cases target <;> simp [payments]

end Escrow

/-! ## Where the tokens go -/

/-- The check of where tokens go: out to the account that is on record, or into the balance of an
owner. -/
def State.checkPayee (s : State) (escrow : Escrow) (out : Bool) (destination : BalanceAccount)
    (recorded : Option Pubkey) (owner : Pubkey) (reason : String) :
    Except EscrowError (Option UInt64) :=
  match out, destination with
  | true, .token address => do
      require (recorded = some address) .constraintRaw
      let _ ← s.ledger.tokenAccountFor address escrow.mint
      return none
  | false, .internal address => do
      let account ← s.registry.userAt address owner escrow.mint
      let balance ← creditedBalance account.amount escrow.terms.amount reason
      return some balance
  | _, _ => throw .constraintRaw

/-- Tokens that leave the program go to an account that is on record, was found and is one of their
mint. -/
theorem State.target_of_checkPayee {escrow : Escrow} {out : Bool} {destination : BalanceAccount}
    {recorded : Option Pubkey} {owner : Pubkey} {reason : String} {credited : Option UInt64}
    (h : s.checkPayee escrow out destination recorded owner reason = .ok credited) :
    (if out then recorded else none).isSome = out ∧
      ∀ account, (if out then recorded else none) = some account →
        ∃ holder, s.ledger.holder? account = some holder ∧ holder.mint = escrow.mint := by
  -- Only a payment in tokens names an account, and then the check has seen it and its mint.
  cases out with
  | false => exact ⟨rfl, fun account hnone => by cases hnone⟩
  | true =>
      cases destination with
      | internal address => cases h
      | token address =>
          obtain ⟨_, hrecorded, hrest⟩ := bind_eq_ok_iff.1 h
          obtain ⟨found, hfound, -⟩ := bind_eq_ok_iff.1 hrest
          obtain ⟨haccount, hmint⟩ := Ledger.tokenAccountFor_eq_ok_iff.1 hfound
          rw [require_eq_ok_iff.1 hrecorded]
          refine ⟨rfl, fun account hsame => ?_⟩
          cases hsame
          exact ⟨found.emptied, Ledger.holder?_eq_some_iff.2 ⟨found, haccount, rfl⟩, hmint⟩

namespace ClaimRequest

variable (req : ClaimRequest) (escrow : Escrow) (s : State)

theorem checkDestination_eq_checkPayee :
    req.checkDestination escrow s =
      s.checkPayee escrow escrow.terms.payOut req.claimerDestination escrow.claimerTokenAccount
        escrow.claimer "claimer balance overflow" := rfl

theorem batch_eq_payments :
    req.batch escrow s = escrow.payments (s.registry.vaultAddress escrow.mint) req.escrowAddress
      (if escrow.terms.payOut then escrow.claimerTokenAccount else none) req.signer req.funder
      (min escrow.claimerBounty escrow.nativePot) := by
  unfold batch
  cases escrow.terms.payOut <;> cases escrow.claimerTokenAccount <;> rfl

end ClaimRequest

namespace RefundRequest

variable (req : RefundRequest) (escrow : Escrow) (s : State)

theorem checkDestination_eq_checkPayee :
    req.checkDestination escrow s =
      s.checkPayee escrow escrow.terms.payIn req.offererDestination escrow.offererTokenAccount
        escrow.offerer "offerer balance overflow" := rfl

theorem batch_eq_payments (kind : RefundKind) :
    req.batch escrow kind s =
      escrow.payments (s.registry.vaultAddress escrow.mint) req.escrowAddress
        (if escrow.terms.payIn then escrow.offererTokenAccount else none) escrow.offerer
        escrow.funder (deposit escrow kind) := by
  unfold batch
  cases escrow.terms.payIn <;> cases escrow.offererTokenAccount <;> rfl

end RefundRequest

/-! ## Admitted settlements -/

/-- An admitted settlement is of a live escrow, and what leaves the program goes to an account of
its mint. -/
structure Settlement.Admitted (x : Settlement) (s : State) (hash : Hash) : Prop where
  live : s.registry.escrow? hash = some x.escrow
  payments : ∃ target first second part,
    x.batch = x.escrow.payments (s.registry.vaultAddress x.escrow.mint)
        (s.registry.escrowAddress hash) target first second part ∧
      part ≤ x.escrow.nativePot ∧ target.isSome = x.paysOut ∧
      ∀ account, target = some account →
        ∃ holder, s.ledger.holder? account = some holder ∧ holder.mint = x.escrow.mint

theorem ClaimPlan.admitted {req : ClaimRequest} {plan : ClaimPlan}
    (hplan : req.plan env s = .ok plan) : plan.settlement.Admitted s req.hash := by
  obtain ⟨escrow, credited, _, buffer, opened, haddress, hlive, -, hdestination, -, -, -, rfl⟩ :=
    ClaimRequest.plan_eq_ok_iff.1 hplan
  rw [ClaimRequest.checkDestination_eq_checkPayee] at hdestination
  have hbatch := req.batch_eq_payments escrow s
  rw [← haddress] at hbatch
  have hpart : min escrow.claimerBounty escrow.nativePot ≤ escrow.nativePot := Std.min_le_right
  exact ⟨hlive, _, _, _, _, hbatch, hpart, State.target_of_checkPayee hdestination⟩

theorem RefundPlan.admitted {req : RefundRequest} {plan : RefundPlan}
    (hplan : req.plan env s = .ok plan) : plan.settlement.Admitted s req.hash := by
  obtain ⟨escrow, refunded, kind, haddress, hlive, -, -, hdestination, -, -, -, rfl⟩ :=
    RefundRequest.plan_eq_ok_iff.1 hplan
  rw [RefundRequest.checkDestination_eq_checkPayee] at hdestination
  have hbatch := req.batch_eq_payments escrow s kind
  rw [← haddress] at hbatch
  -- What a deposit is depends on the kind of refund; where the tokens go does not.
  have hpart : RefundRequest.deposit escrow kind ≤ escrow.nativePot := by
    cases kind with
    | cooperative => exact UInt64.zero_le
    | timeout => exact Std.min_le_right
  have hpays := RefundPlan.paysOut_settlement ⟨escrow, refunded, kind, req.batch escrow kind s⟩
  -- The payee is checked as in a claim, so the target is found there.
  obtain ⟨hsome, htarget⟩ := State.target_of_checkPayee hdestination
  exact ⟨hlive, _, _, _, _, hbatch, hpart, hsome.trans hpays.symm, htarget⟩

/-! ## What is there to be paid -/

/-- The vault of a mint covers what is owed in it, and is an account of it. -/
structure State.Covers (s : State) (mint : Pubkey) : Prop where
  owed_le : s.registry.owed mint ≤ (s.vaultBalance mint).toNat
  mint_eq : ∀ holder, s.ledger.holder? (s.registry.vaultAddress mint) = some holder →
    holder.mint = mint

/-- **What an admitted settlement pays is paid**, if the vault covers what is owed, the pot is there
and nobody can get more than fits in a word. -/
theorem Settlement.Admitted.exists_steps {x : Settlement} {hash : Hash} (h : x.Admitted s hash)
    (hcovers : s.Covers x.escrow.mint) (hbacked : s.Backed hash)
    (hsupply : s.ledger.supply x.escrow.mint < UInt64.size)
    (hnative : s.ledger.nativeSupply < UInt64.size) :
    ∃ ledger, s.ledger.steps x.batch.ops = .ok ledger := by
  obtain ⟨target, first, second, part, hbatch, hpart, -, htarget⟩ := h.payments
  have hpot := hbacked x.escrow h.live
  rw [hbatch]
  cases target with
  | none => exact Ledger.exists_steps_split (b := .empty) rfl rfl hpot hpart _ _ hnative
  | some account =>
      obtain ⟨holder, hholder, hmint⟩ := htarget account rfl
      -- The escrow's amount is part of what is owed, and the vault covers that.
      have hle : x.escrow.terms.amount.toNat ≤ (s.vaultBalance x.escrow.mint).toNat :=
        calc x.escrow.terms.amount.toNat
            ≤ s.registry.escrowedTotal x.escrow.mint := Registry.amount_le_escrowedTotal h.live
          _ ≤ s.registry.owed x.escrow.mint := Nat.le_add_left ..
          _ ≤ (s.vaultBalance x.escrow.mint).toNat := hcovers.owed_le
      obtain ⟨ledger, hsteps⟩ :=
        Ledger.exists_steps_payout hcovers.mint_eq hle hholder hmint hsupply
      exact Ledger.exists_steps_split hsteps (by simp) hpot hpart _ _ hnative

end AtomicEscrow
