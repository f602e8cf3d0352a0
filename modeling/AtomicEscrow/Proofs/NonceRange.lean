import AtomicEscrow.Proofs.Settleable

set_option autoImplicit false

/-! # Nonces out of range

A nonce is a word of 64 bits. A transaction carries 24 of them in the sequences of its inputs and
the other 40 in its lock time, which has 32 bits and does not start at zero. So not every nonce
can be carried (`NoncedLock.exists_toNonce_iff`), and what nobody can carry nobody can prove
(`Terms.inRange_of_verifyClaim`). A lock looks only at whether its kind may have a nonce: it
accepts those in range and the others alike (`LockRequest.nonce_inRange_iff`).
-/

namespace AtomicEscrow

/-! ## What can be carried -/

/-- The upper part of a nonce moves the lock time no further than its four bytes go. -/
def NoncedLock.InRange (nonce : UInt64) : Prop := nonce.toNat / 0x1000000 + locktimeBase < 2 ^ 32

instance (nonce : UInt64) : Decidable (NoncedLock.InRange nonce) :=
  inferInstanceAs (Decidable (nonce.toNat / 0x1000000 + NoncedLock.locktimeBase < 2 ^ 32))

/-- **A nonce is carried by some time locks iff it is in range.** -/
theorem NoncedLock.exists_toNonce_iff {nonce : UInt64} :
    (∃ locktime sequence : UInt32, toNonce locktime sequence = some nonce) ↔ InRange nonce := by
  constructor
  · rintro ⟨locktime, sequence, hcarried⟩
    obtain ⟨hlocktime, -⟩ := ofNonce_eq_iff.1 (toNonce_eq_some_iff.1 hcarried)
    rw [UInt32.toNat_toUInt64] at hlocktime
    calc nonce.toNat / 0x1000000 + locktimeBase
        = locktime.toNat := hlocktime
      _ < 2 ^ 32 := locktime.toNat_lt
  · intro hrange
    -- In range, the locktime that the upper part stands for is a word again.
    have hword : (UInt32.ofNat (nonce.toNat / 0x1000000 + locktimeBase)).toNat =
        nonce.toNat / 0x1000000 + locktimeBase := by
      rw [UInt32.toNat_ofNat']
      exact Nat.mod_eq_of_lt hrange
    refine ⟨UInt32.ofNat (nonce.toNat / 0x1000000 + locktimeBase), (ofNonce nonce).sequence,
      toNonce_eq_some_iff.2 (ofNonce_eq_iff.2 ⟨?_, (toNat_sequence_ofNonce nonce).symm⟩)⟩
    rw [UInt32.toNat_toUInt64, hword]

/-- The lock time of a transaction has four bytes. -/
theorem Transaction.CarriesNonce.inRange {tx : Transaction} {nonce : UInt64}
    (h : tx.CarriesNonce nonce) : NoncedLock.InRange nonce := by
  have hlocktime := (carriesNonce_iff.1 h).1
  have hnumber := NoncedLock.toNat_locktime_ofNonce nonce
  rw [hlocktime, UInt32.toNat_toUInt64] at hnumber
  calc nonce.toNat / 0x1000000 + NoncedLock.locktimeBase
      = tx.locktime.toNat := hnumber.symm
    _ < 2 ^ 32 := tx.locktime.toNat_lt

/-! ## What can be proved -/

/-- A proof of a nonced swap is a transaction that carries the nonce. -/
theorem Terms.inRange_of_verifyClaim {terms : Terms} {relayProgramId : Pubkey} {secret : Bytes}
    {preamble : Preamble} {opened : Hash} (hkind : terms.kind = .chainNonced)
    (h : terms.verifyClaim relayProgramId secret preamble = .ok opened) :
    NoncedLock.InRange terms.nonce := by
  unfold verifyClaim at h
  rw [hkind] at h
  obtain ⟨txid, hopen, -⟩ := bind_eq_ok_iff.1 h
  obtain ⟨tx, -, hcarries, -⟩ := openOutput_eq_ok_iff.1 hopen
  exact (hcarries hkind).inRange

/-- A nonced escrow that is claimed has a nonce in range. -/
theorem ClaimRequest.inRange_of_run {env : Env} {s s' : State} {req : ClaimRequest}
    {event : ClaimEvent} {escrow : Escrow} (hlive : s.registry.escrow? req.hash = some escrow)
    (hkind : escrow.terms.kind = .chainNonced)
    (haccepted : (Operation.claim env req).run s = (.ok event, s')) :
    NoncedLock.InRange escrow.terms.nonce := by
  obtain ⟨plan, _, hplan, -⟩ := Operation.run_claim_eq_ok_iff.1 haccepted
  obtain ⟨found, _, secret, _, opened, -, hfound, -, -, -, -, hproof, -⟩ :=
    plan_eq_ok_iff.1 hplan
  -- The escrow that the plan found is the live one.
  rw [hlive] at hfound
  cases hfound
  exact Terms.inRange_of_verifyClaim hkind hproof

/-! ## What is locked -/

namespace LockRequest

theorem exists_escrow?_of_run {env : Env} {s s' : State} {req : LockRequest} {event : LockEvent}
    (haccepted : (Operation.lock env req).run s = (.ok event, s')) :
    ∃ escrow, s'.registry.escrow? req.terms.hash = some escrow ∧ escrow.terms = req.terms := by
  obtain ⟨plan, ledger, hplan, -, -, rfl⟩ := Operation.run_lock_eq_ok_iff.1 haccepted
  obtain ⟨account, funding, -, -, -, rfl⟩ := plan_eq_ok_iff.1 hplan
  refine ⟨req.escrow account funding, ?_, rfl⟩
  show (req.commit _ s.registry).escrow? req.terms.hash = _
  rw [Registry.escrow?_of_insert (req.escrows_commit ..)]
  exact if_pos rfl

/-- **Which locked nonces can be carried.** An accepted lock of a nonced swap records its nonce,
whatever it is. There are a lock time and a sequence that carry it iff it is in range. If it is
not, no claim of the escrow is ever accepted, whoever submits what. -/
theorem nonce_inRange_iff (env : Env) (s s' : State) (req : LockRequest) (event : LockEvent)
    (hkind : req.terms.kind = .chainNonced)
    (haccepted : (Operation.lock env req).run s = (.ok event, s')) :
    ∃ escrow, s'.registry.escrow? req.terms.hash = some escrow ∧ escrow.terms = req.terms ∧
      ((∃ locktime sequence : UInt32,
          NoncedLock.toNonce locktime sequence = some escrow.terms.nonce) ↔
        req.terms.nonce.toNat / 2 ^ 24 + 500000000 < 2 ^ 32) ∧
      (2 ^ 32 ≤ req.terms.nonce.toNat / 2 ^ 24 + 500000000 →
        ∀ (env' : Env) (later : State) (claim : ClaimRequest) (answer : ClaimEvent),
          later.registry.escrow? claim.hash = some escrow →
          ((Operation.claim env' claim).run later).1 ≠ .ok answer) := by
  obtain ⟨escrow, hlive, hterms⟩ := exists_escrow?_of_run haccepted
  refine ⟨escrow, hlive, hterms, ?_, ?_⟩
  · rw [hterms]
    exact NoncedLock.exists_toNonce_iff
  · intro hout env' later claim answer hlater hanswer
    have hrange : NoncedLock.InRange escrow.terms.nonce :=
      ClaimRequest.inRange_of_run hlater (hterms ▸ hkind) (Prod.ext hanswer rfl)
    rw [hterms] at hrange
    exact absurd hrange (Nat.not_lt.2 hout)

end LockRequest

/-! ## A lock that nobody can claim -/

namespace Engine

def noncedTerms (nonce : UInt64) : Terms where
  kind := .chainNonced
  confirmations := 1
  nonce
  hash := .replicate 3
  payIn := true
  payOut := true
  amount := 5
  expiry := expiryThreshold
  sequence := 1

theorem nonce_inRange_of_smallNonce :
    let req := lockOfOwn Config.standard.programId someOwner someMint (noncedTerms 7)
    let s := ((Engine.new .standard 0 .empty).run (fundedAccount someOwner someMint 5)).state
    ∃ event s' escrow, (Operation.lock ⟨.standard, 0⟩ req).run s = (.ok event, s') ∧
      s'.registry.escrow? (.replicate 3) = some escrow ∧
      ∃ locktime sequence : UInt32,
        NoncedLock.toNonce locktime sequence = some escrow.terms.nonce := by
  intro req s
  obtain ⟨s', hrun⟩ := run_lockOfOwn .standard someOwner someMint (noncedTerms 7) rfl rfl
    (by decide) (.inl rfl) someAccount_ne_vault
  obtain ⟨escrow, hlive, -, hcarried, -⟩ :=
    LockRequest.nonce_inRange_iff ⟨.standard, 0⟩ s s' req req.event
    rfl hrun
  exact ⟨req.event, s', escrow, hrun, hlive, hcarried.2 (by decide)⟩

/-- The largest nonce is locked, and no time locks carry it. -/
theorem toNonce_ne_of_largestNonce :
    let req := lockOfOwn Config.standard.programId someOwner someMint
      (noncedTerms 0xFFFFFFFFFFFFFFFF)
    let s := ((Engine.new .standard 0 .empty).run (fundedAccount someOwner someMint 5)).state
    req.terms.kind = .chainNonced ∧
      ∃ event s' escrow, (Operation.lock ⟨.standard, 0⟩ req).run s = (.ok event, s') ∧
        s'.registry.escrow? (.replicate 3) = some escrow ∧
        ¬∃ locktime sequence : UInt32,
          NoncedLock.toNonce locktime sequence = some escrow.terms.nonce := by
  intro req s
  obtain ⟨s', hrun⟩ := run_lockOfOwn .standard someOwner someMint
    (noncedTerms 0xFFFFFFFFFFFFFFFF) rfl rfl (by decide) (.inl rfl) someAccount_ne_vault
  obtain ⟨escrow, hlive, hterms⟩ := LockRequest.exists_escrow?_of_run hrun
  refine ⟨rfl, req.event, s', escrow, hrun, hlive, ?_⟩
  rw [hterms, NoncedLock.exists_toNonce_iff]
  decide

end Engine

end AtomicEscrow
