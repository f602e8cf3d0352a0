import AtomicEscrow.Proofs.Settlement

set_option autoImplicit false

/-! # Whether a settlement is admitted

The checks of a claim and of a refund read balances, to see whether an account is there and to
compute what it will hold. The verdict of such a check (`verdict`) does not depend on the balance, as
long as there is room for the tokens. So two states that differ in nothing else
(`SettlementRequest.Alike`) admit the same settlements, and an admitted one amounts to the same in
both (`SettlementRequest.settlement_congr`).
-/

namespace AtomicEscrow

/-! ## Verdicts -/

section

variable {ε α β : Type}

/-- Whether a check passes, and if not why not, whatever it finds. -/
def verdict (x : Except ε α) : Except ε Unit := x.map fun _ => ()

/-- What comes after a check may rely on what it found. -/
theorem bind_congr_of_ok {x : Except ε α} {next next' : α → Except ε β}
    (h : ∀ a, x = .ok a → next a = next' a) : (x >>= next) = (x >>= next') := by
  cases x with
  | error e => rfl
  | ok a => exact h a rfl

/-- If what a check finds does not matter, its verdict is all that matters. -/
theorem bind_congr_of_verdict {x x' : Except ε α} (h : verdict x = verdict x')
    {next next' : α → Except ε β} (hnext : ∀ a a', next a = next' a') :
    (x >>= next) = (x' >>= next') := by
  cases x with
  | error e =>
      cases x' with
      | error e' =>
          cases h
          rfl
      | ok a' => cases h
  | ok a =>
      cases x' with
      | error e' => cases h
      | ok a' => exact hnext a a'

end

theorem Ledger.verdict_tokenAccountFor {l l' : Ledger} {address : Pubkey}
    (h : l'.holder? address = l.holder? address) (mint : Pubkey) :
    verdict (l'.tokenAccountFor address mint) = verdict (l.tokenAccountFor address mint) := by
  unfold tokenAccountFor
  cases hfound : l.tokenAccount? address with
  | none => rw [holder?_eq_none_iff.1 (h.trans (holder?_eq_none_iff.2 hfound))]
  | some account =>
      obtain ⟨account', hfound', hsame⟩ :=
        holder?_eq_some_iff.1 (h.trans (holder?_eq_some_iff.2 ⟨account, hfound, rfl⟩))
      have hmint : account'.mint = account.mint := congrArg (·.mint) hsame
      simp only [hfound', hmint]
      split <;> rfl

namespace Registry

variable {r r' : Registry} {address : Pubkey}

theorem verdict_userAt (hprogram : r'.programId = r.programId)
    (h : (r'.users.get? address).isSome = (r.users.get? address).isSome) (owner mint : Pubkey) :
    verdict (r'.userAt address owner mint) = verdict (r.userAt address owner mint) := by
  unfold userAt checkUserAddress
  rw [userAddress_congr hprogram]
  split
  · rfl
  · -- Both registries have the account or neither has it; what it holds is not looked at.
    cases hfound : r.users.get? address with
    | none =>
        rw [hfound] at h
        have hnone : r'.users.get? address = none := by
          rw [← Option.not_isSome_iff_eq_none, h]
          exact Bool.false_ne_true
        rw [hnone]
    | some account =>
        rw [hfound] at h
        obtain ⟨account', hfound'⟩ := Option.isSome_iff_exists.1 h
        rw [hfound']
        rfl

/-- The tokens of an escrow fit in the balances that a settlement may credit. -/
def HasRoom (r : Registry) (escrow : Escrow) : Prop :=
  ∀ owner, owner = escrow.claimer ∨ owner = escrow.offerer →
    ∀ account, r.user? owner escrow.mint = some account →
      account.amount.toNat + escrow.terms.amount.toNat < UInt64.size

/-- Where there is room, the verdict about a credit is that about the account. -/
theorem verdict_credit {owner mint : Pubkey} {amount : UInt64}
    (hroom : ∀ account, r.user? owner mint = some account →
      account.amount.toNat + amount.toNat < UInt64.size) (reason : String) :
    verdict (do
        let account ← r.userAt address owner mint
        let balance ← creditedBalance account.amount amount reason
        return some balance) = verdict (r.userAt address owner mint) := by
  cases hat : r.userAt address owner mint with
  | error e => rfl
  | ok account =>
      obtain ⟨-, hfound⟩ := userAt_eq_ok_iff.1 hat
      obtain ⟨balance, hsum⟩ := Ledger.exists_toNat_eq (hroom account hfound)
      have hcredit : creditedBalance account.amount amount reason = .ok balance :=
        creditedBalance_eq_ok_iff.2 hsum
      show verdict (creditedBalance account.amount amount reason >>= _) = _
      rw [hcredit]
      rfl

end Registry

/-! ## Whether a settlement is admitted -/

/-- A claim or a refund. -/
inductive SettlementRequest
  | claim (req : ClaimRequest)
  | refund (req : RefundRequest)

namespace SettlementRequest

def request : SettlementRequest → Request
  | claim req => .claim req
  | refund req => .refund req

def hash : SettlementRequest → Hash
  | claim req => req.hash
  | refund req => req.hash

def buffer? : SettlementRequest → Option Pubkey
  | claim req =>
      match req.secret with
      | .inline _ => none
      | .buffer address => some address
  | refund _ => none

/-- What the request amounts to, if it is admitted. -/
def settlement (env : Env) (s : State) : SettlementRequest → Except EscrowError Settlement
  | claim req => return (← req.plan env s).settlement
  | refund req => return (← req.plan env s).settlement

/-- Two states differ in nothing that a request looks at but balances. -/
structure Alike (r : SettlementRequest) (s s' : State) : Prop where
  programId : s'.registry.programId = s.registry.programId
  escrow : s'.registry.escrow? r.hash = s.registry.escrow? r.hash
  user : ∀ address,
    (s'.registry.users.get? address).isSome = (s.registry.users.get? address).isSome
  holder : ∀ address, s'.ledger.holder? address = s.ledger.holder? address
  buffer : ∀ address, r.buffer? = some address →
    s'.registry.buffer? address = s.registry.buffer? address

end SettlementRequest

section

variable {env : Env} {s s' : State} {escrow : Escrow}

theorem SettlementRequest.Alike.escrowAt {r : SettlementRequest} (h : r.Alike s s')
    (address : Pubkey) :
    s'.registry.escrowAt r.hash address = s.registry.escrowAt r.hash address := by
  unfold Registry.escrowAt
  rw [Registry.escrowAddress_congr h.programId, h.escrow]

theorem SettlementRequest.Alike.verdict_checkPayee {r : SettlementRequest} (h : r.Alike s s')
    (hroom : s.registry.HasRoom escrow) (hroom' : s'.registry.HasRoom escrow) {owner : Pubkey}
    (howner : owner = escrow.claimer ∨ owner = escrow.offerer) (out : Bool)
    (destination : BalanceAccount) (recorded : Option Pubkey) (reason : String) :
    verdict (s'.checkPayee escrow out destination recorded owner reason) =
      verdict (s.checkPayee escrow out destination recorded owner reason) := by
  -- Paid in tokens the ledger decides; paid to a balance, an account with room for it.
  cases out with
  | true =>
      cases destination with
      | token address =>
          refine congrArg verdict (bind_congr fun _ => ?_)
          exact bind_congr_of_verdict
            (Ledger.verdict_tokenAccountFor (h.holder address) escrow.mint) fun _ _ => rfl
      | internal address => rfl
  | false =>
      cases destination with
      | token address => rfl
      | internal address =>
          calc verdict (s'.checkPayee escrow false (.internal address) recorded owner reason)
              = verdict (s'.registry.userAt address owner escrow.mint) :=
                Registry.verdict_credit (hroom' owner howner) reason
            _ = verdict (s.registry.userAt address owner escrow.mint) :=
                Registry.verdict_userAt h.programId (h.user address) owner escrow.mint
            _ = verdict (s.checkPayee escrow false (.internal address) recorded owner reason) :=
                (Registry.verdict_credit (hroom owner howner) reason).symm

namespace ClaimRequest

variable {req : ClaimRequest}

theorem readSecret_congr (h : (SettlementRequest.claim req).Alike s s') :
    req.readSecret s' = req.readSecret s := by
  have hbuffer := h.buffer
  unfold readSecret Registry.ownBuffer
  unfold SettlementRequest.buffer? at hbuffer
  cases hsecret : req.secret with
  | inline secret => rfl
  | buffer address =>
      simp only [hsecret] at hbuffer ⊢
      rw [hbuffer address rfl]

theorem batch_congr (hprogram : s'.registry.programId = s.registry.programId) :
    req.batch escrow s' = req.batch escrow s := by
  unfold batch
  rw [Registry.vaultAddress_congr hprogram]

end ClaimRequest

namespace RefundRequest

variable {req : RefundRequest}

theorem checkClaimer_congr (h : (SettlementRequest.refund req).Alike s s') :
    req.checkClaimer escrow s' = req.checkClaimer escrow s := by
  unfold checkClaimer
  split
  · rfl
  · cases req.claimerUserAccount with
    | none => rfl
    | some address =>
        exact bind_congr_of_verdict (Registry.verdict_userAt h.programId (h.user address) _ _)
          fun _ _ => rfl

theorem batch_congr (hprogram : s'.registry.programId = s.registry.programId) (kind : RefundKind) :
    req.batch escrow kind s' = req.batch escrow kind s := by
  unfold batch
  rw [Registry.vaultAddress_congr hprogram]

end RefundRequest

/-- **Whether a settlement is admitted, and what it amounts to, does not depend on balances**, as
long as there is room for the tokens. -/
theorem SettlementRequest.settlement_congr {r : SettlementRequest} (h : r.Alike s s') (env : Env)
    (hroom : ∀ escrow, s.registry.escrow? r.hash = some escrow →
      s.registry.HasRoom escrow ∧ s'.registry.HasRoom escrow) :
    r.settlement env s' = r.settlement env s := by
  cases r with
  | claim req =>
      have hat : s'.registry.escrowAt req.hash req.escrowAddress =
          s.registry.escrowAt req.hash req.escrowAddress := h.escrowAt req.escrowAddress
      -- Check by check: each one has one verdict in both states, and the escrow is the same.
      simp only [settlement, ClaimRequest.plan, hat, ClaimRequest.readSecret_congr h,
        ClaimRequest.checkDestination_eq_checkPayee, bind_assoc, pure_bind]
      refine bind_congr_of_ok fun escrow hlive => ?_
      obtain ⟨hhere, hthere⟩ := hroom escrow (Registry.escrowAt_eq_ok_iff.1 hlive).2
      refine bind_congr fun _ => bind_congr_of_verdict
        (h.verdict_checkPayee hhere hthere (.inl rfl) _ _ _ _) fun credited credited' => ?_
      rw [ClaimRequest.batch_congr h.programId]
      -- The new balance is not part of what the claim amounts to.
      rfl
  | refund req =>
      have hat : s'.registry.escrowAt req.hash req.escrowAddress =
          s.registry.escrowAt req.hash req.escrowAddress := h.escrowAt req.escrowAddress
      -- As for a claim, with a check of the claimer's account in it.
      simp only [settlement, RefundRequest.plan, hat, RefundRequest.checkClaimer_congr h,
        RefundRequest.checkDestination_eq_checkPayee, bind_assoc, pure_bind]
      refine bind_congr_of_ok fun escrow hlive => ?_
      obtain ⟨hhere, hthere⟩ := hroom escrow (Registry.escrowAt_eq_ok_iff.1 hlive).2
      refine bind_congr fun _ => bind_congr_of_verdict
        (h.verdict_checkPayee hhere hthere (.inr rfl) _ _ _ _) fun refunded refunded' => ?_
      simp only [RefundRequest.batch_congr h.programId]
      rfl

end

end AtomicEscrow
