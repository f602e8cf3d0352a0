import AtomicEscrow.Proofs.Independence

set_option autoImplicit false

/-! # Who gets what

A settlement moves tokens and the pot between up to five accounts, of which any two may be the
same, and writes a new balance that was computed before anything moved. This file says what comes
of it as equations: what every address holds afterwards is what it held before and a sum of terms,
one for each part that the address plays (`Operation.claim_differsBy`,
`Operation.refund_differsBy`). An address that plays two parts gets both terms. That is why no
account has to be assumed different from another one, not even from the vault or from the address
of the escrow.

Nothing is assumed of the state either, not that it was reached by any history. What a settlement
needs it has looked up itself.
-/

namespace AtomicEscrow

/-! ## Differences between states -/

/-- How one state differs from another one. -/
structure Difference where
  /-- The native funds that an owner has more. -/
  natives : Pubkey → Int
  /-- The tokens that a token account has more. -/
  tokens : Pubkey → Int
  /-- The internal balance that the user account at an address has more. -/
  balances : Pubkey → Int
  /-- The escrow that is gone. -/
  escrow : Hash
  /-- The data buffer that is gone. -/
  buffer : Option Pubkey

/-- The first state holds more than the second one by a difference. There are the same token
accounts and user accounts, and no escrow or data buffer is missing or changed but those that the
difference names. -/
structure State.DiffersBy (s' s : State) (d : Difference) : Prop where
  programId : s'.registry.programId = s.registry.programId
  native : ∀ owner, ((s'.ledger.nativeBalance owner).toNat : Int) =
    (s.ledger.nativeBalance owner).toNat + d.natives owner
  token : ∀ account, ((s'.ledger.tokenBalance account).toNat : Int) =
    (s.ledger.tokenBalance account).toNat + d.tokens account
  holder : ∀ account, s'.ledger.holder? account = s.ledger.holder? account
  user : ∀ address account, s.registry.users.get? address = some account →
    ∃ account', s'.registry.users.get? address = some account' ∧
      account'.owner = account.owner ∧ account'.mint = account.mint ∧
      (account'.amount.toNat : Int) = account.amount.toNat + d.balances address
  noUser : ∀ address, s.registry.users.get? address = none →
    s'.registry.users.get? address = none
  escrow : ∀ hash, s'.registry.escrow? hash =
    if d.escrow = hash then none else s.registry.escrow? hash
  buffer : ∀ address, s'.registry.buffer? address =
    if d.buffer = some address then none else s.registry.buffer? address

/-- The account of an owner is where it was, with what its address has more. -/
theorem State.DiffersBy.user? {s s' : State} {d : Difference} (h : s'.DiffersBy s d)
    {owner mint : Pubkey} {account : UserAccount}
    (haccount : s.registry.user? owner mint = some account) :
    ∃ account', s'.registry.user? owner mint = some account' ∧
      (account'.amount.toNat : Int) =
        account.amount.toNat + d.balances (s.registry.userAddress owner mint) := by
  obtain ⟨account', haccount', -, -, hamount⟩ := h.user _ account haccount
  refine ⟨account', ?_, hamount⟩
  rw [Registry.user?, Registry.userAddress_congr h.programId]
  exact haccount'

/-! ## The tokens -/

namespace Escrow

variable {escrow : Escrow} {vault address : Pubkey} {target : Option Pubkey}
  {first second : Pubkey} {part : UInt64} {l l' : Ledger}

/-- The tokens leave the vault for the account they are paid to, if there is one. The two may be
one account, which then keeps what it has. -/
theorem tokenBalance_payments
    (h : l.steps (escrow.payments vault address target first second part).ops = .ok l')
    (account : Pubkey) :
    ((l'.tokenBalance account).toNat : Int) = (l.tokenBalance account).toNat +
      ((if target = some account then (escrow.terms.amount.toNat : Int) else 0) -
        if target.isSome = true ∧ vault = account then (escrow.terms.amount.toNat : Int)
        else 0) := by
  have hflow := Ledger.tokenBalance_steps h account
  rw [tokensFrom_payments, tokensTo_payments] at hflow
  split_ifs at hflow ⊢ <;> omega

theorem holder?_payments
    (h : l.steps (escrow.payments vault address target first second part).ops = .ok l')
    (account : Pubkey) : l'.holder? account = l.holder? account := by
  rw [Ledger.holder?_steps h, opened?_payments, Option.or_none]

end Escrow

/-! ## The pot -/

/-- The pot leaves the address of the escrow in two parts. Whoever gets both gets the pot, and what
is paid to the address itself stays there. -/
theorem Escrow.native_of_flow {escrow : Escrow} {part : UInt64} (hpart : part ≤ escrow.nativePot)
    {before after : Nat} {address first second owner : Pubkey}
    (h : after + (if address = owner then escrow.nativePot.toNat else 0) =
      before + ((if first = owner then part.toNat else 0) +
        if second = owner then (escrow.nativePot - part).toNat else 0)) :
    (after : Int) = before + ((if first = owner then (part.toNat : Int) else 0) +
      (if second = owner then (escrow.nativePot.toNat : Int) - part.toNat else 0) -
      if address = owner then (escrow.nativePot.toNat : Int) else 0) := by
  have hsplit := Amount.toNat_sub_add hpart
  split_ifs at h ⊢ <;> omega

/-! ## The internal balances -/

/-- Tokens that stay in the program are credited to an account that was found and has room for
them. -/
theorem State.exists_room_of_checkPayee {s : State} {escrow : Escrow} {out : Bool}
    {destination : BalanceAccount} {recorded : Option Pubkey} {owner : Pubkey} {reason : String}
    {credited : Option UInt64}
    (h : s.checkPayee escrow out destination recorded owner reason = .ok credited)
    (hout : out = false) :
    ∃ found, s.registry.user? owner escrow.mint = some found ∧
      found.amount.toNat + escrow.terms.amount.toNat < UInt64.size := by
  subst hout
  cases destination with
  | token address => cases h
  | internal address =>
      obtain ⟨found, hfound, hrest⟩ := bind_eq_ok_iff.1 h
      obtain ⟨balance, hbalance, -⟩ := bind_eq_ok_iff.1 hrest
      have hsum := creditedBalance_eq_ok_iff.1 hbalance
      have hlt := balance.toNat_lt_size
      exact ⟨found, (Registry.userAt_eq_ok_iff.1 hfound).2, by omega⟩

/-- Tokens that leave the program go to an account that is on record and was found. -/
theorem State.exists_account_of_checkPayee {s : State} {escrow : Escrow} {out : Bool}
    {destination : BalanceAccount} {recorded : Option Pubkey} {owner : Pubkey} {reason : String}
    {credited : Option UInt64}
    (h : s.checkPayee escrow out destination recorded owner reason = .ok credited)
    (hout : out = true) :
    ∃ address account, recorded = some address ∧
      s.ledger.tokenAccount? address = some account := by
  obtain ⟨hsome, htarget⟩ := State.target_of_checkPayee h
  rw [hout, if_pos rfl] at hsome htarget
  obtain ⟨address, hrecorded⟩ := Option.isSome_iff_exists.1 hsome
  obtain ⟨holder, hholder, -⟩ := htarget address hrecorded
  obtain ⟨account, haccount, -⟩ := Ledger.holder?_eq_some_iff.1 hholder
  exact ⟨address, account, hrecorded, haccount⟩

/-- Only the payee of a settlement has another balance afterwards, and only if the tokens stay in
the program. The balance was computed before the escrow was removed, and is still the sum of what
is there and what is credited. -/
theorem Ending.exists_user_of_change {e : Ending} {r r' : Registry}
    (husers : ∀ address, r'.users.get? address =
      (r.users.get? address).map (e.change r.programId address))
    (hroom : e.paysOut = false → ∃ found, r.user? e.payee e.escrow.mint = some found ∧
      found.amount.toNat + e.escrow.terms.amount.toNat < UInt64.size)
    {address : Pubkey} {account : UserAccount} (haccount : r.users.get? address = some account) :
    ∃ account', r'.users.get? address = some account' ∧
      account'.owner = account.owner ∧ account'.mint = account.mint ∧
      (account'.amount.toNat : Int) = account.amount.toNat +
        if e.paysOut = false ∧ r.userAddress e.payee e.escrow.mint = address then
          (e.escrow.terms.amount.toNat : Int) else 0 := by
  refine ⟨e.change r.programId address account, ?_, e.owner_change .., e.mint_change .., ?_⟩
  · rw [husers, haccount, Option.map_some]
  · have hamount : (e.change r.programId address account).amount =
        if e.paysOut = false ∧ r.userAddress e.payee e.escrow.mint = address then
          account.amount + e.escrow.terms.amount
        else account.amount := e.amount_change ..
    rw [hamount]
    by_cases hpayee : e.paysOut = false ∧ r.userAddress e.payee e.escrow.mint = address
    · -- The account at this address is the one in which there was found to be room.
      obtain ⟨hstays, rfl⟩ := hpayee
      obtain ⟨found, hfound, hfits⟩ := hroom hstays
      have hsame : found = account := Option.some.inj (hfound.symm.trans haccount)
      subst hsame
      have hsum : (found.amount + e.escrow.terms.amount).toNat =
          found.amount.toNat + e.escrow.terms.amount.toNat := by
        rw [UInt64.toNat_add]
        exact Nat.mod_eq_of_lt hfits
      rw [if_pos ⟨hstays, rfl⟩, if_pos ⟨hstays, rfl⟩, hsum, Int.natCast_add]
    · rw [if_neg hpayee, if_neg hpayee, Int.add_zero]

/-! ## Settlements -/

/-- What a settlement does besides paying the pot: the tokens go out to the account on record, or
into the balance of the payee. -/
theorem Settlement.differsBy (x : Settlement) {hash : Hash} {s s' : State} {out : Bool}
    {payee address first second : Pubkey} {recorded : Option Pubkey} {part : UInt64}
    {natives : Pubkey → Int} (hout : x.paysOut = out) (hpayee : x.payee = payee)
    (hbatch : x.batch = x.escrow.payments (s.registry.vaultAddress x.escrow.mint) address
      (if out then recorded else none) first second part)
    (hsome : (if out then recorded else none).isSome = out)
    (hledger : s.ledger.steps x.batch.ops = .ok s'.ledger)
    (hnative : ∀ owner, ((s'.ledger.nativeBalance owner).toNat : Int) =
      (s.ledger.nativeBalance owner).toNat + natives owner)
    (hprogram : s'.registry.programId = s.registry.programId)
    (hroom : out = false → ∃ found, s.registry.user? payee x.escrow.mint = some found ∧
      found.amount.toNat + x.escrow.terms.amount.toNat < UInt64.size)
    (husers : ∀ address, s'.registry.users.get? address =
      (s.registry.users.get? address).map (x.change s.registry.programId address))
    (hescrows : s'.registry.escrows = s.registry.escrows.erase hash)
    (hbuffer : ∀ address, s'.registry.buffer? address =
      if x.buffer = some address then none else s.registry.buffer? address) :
    let amount : Int := x.escrow.terms.amount.toNat
    s'.DiffersBy s {
      natives
      tokens account := (if out = true ∧ recorded = some account then amount else 0) -
        if out = true ∧ s.registry.vaultAddress x.escrow.mint = account then amount else 0
      balances address := if out = false ∧
        s.registry.userAddress payee x.escrow.mint = address then amount else 0
      escrow := hash
      buffer := x.buffer } := by
  intro amount
  -- Everything that is not a payment was known before; only the tokens are read off the batch.
  subst hout hpayee
  rw [hbatch] at hledger
  constructor
  case programId => exact hprogram
  case native => exact hnative
  case token =>
    intro account
    have htokens := Escrow.tokenBalance_payments hledger account
    simp only [hsome, Option.ite_none_right_eq_some] at htokens
    exact htokens
  case holder => exact Escrow.holder?_payments hledger
  case user => exact fun address account => Ending.exists_user_of_change husers hroom
  case noUser =>
    intro address hnone
    rw [husers, hnone, Option.map_none]
  case escrow => exact Registry.escrow?_of_erase hescrows
  case buffer => exact hbuffer

def ClaimSecret.address? : ClaimSecret → Option Pubkey
  | inline _ => none
  | buffer address => some address

/-- A proof that is not part of the request is in a data buffer that was found. -/
theorem ClaimRequest.buffer_of_readSecret {req : ClaimRequest} {s : State} {secret : Bytes}
    {buffer : Option Pubkey} (h : req.readSecret s = .ok (secret, buffer)) :
    buffer = req.secret.address? ∧ ∀ address, req.secret.address? = some address →
      ∃ found, s.registry.buffer? address = some found := by
  rcases readSecret_eq_ok_iff.1 h with
    ⟨hinline, rfl⟩ | ⟨address, found, hstaged, hfound, -, -, rfl⟩
  · rw [hinline]
    refine ⟨rfl, fun address hnone => ?_⟩
    cases hnone
  · rw [hstaged]
    refine ⟨rfl, fun address' hsame => ?_⟩
    cases hsame
    exact ⟨found, hfound⟩

/-! ## A pot of one's own -/

namespace Engine

/-- An owner locks one of two tokens for itself against the preimage, and puts up all its native
funds. -/
def ownPot : List Step :=
  depositedPot Config.standard.programId someOwner someMint someTerms.hash

def escrowOfPot : Escrow := escrowWithDeposit someOwner someMint someOwner someTerms.hash 5

theorem funded_ownPot :
    escrowOfPot.Funded {d | d ∈ derivations Config.standard.programId 0 ownPot}
      ((Engine.new .standard 0 .empty).run ownPot).state someTerms.hash := by
  obtain ⟨-, hescrows, -⟩ := run_depositedPot .standard someOwner someMint someTerms.hash
    someAccount_ne_vault someOwner_ne_escrowAddress
  have hlive : ((Engine.new .standard 0 .empty).run ownPot).state.registry.escrow?
      someTerms.hash = some escrowOfPot := by
    unfold ownPot escrowOfPot
    rw [hescrows, if_pos rfl]
  -- The same list of addresses serves the samples of several modules, and is hashed only once.
  have hdistinct : Set.InjOn Derivation.address
      {d | d ∈ derivations Config.standard.programId 0 ownPot} :=
    injOn_of_nodup nodup_lockedDerivations (by
      simp [ownPot, depositedPot, fundedOwner, fundedDeposit, lockWithDeposit, tokenTerms,
        derivations, Step.derivations, Request.derivations, someDerivations])
  have hauthority : ∀ step ∈ ownPot,
      step.WithoutAuthority (Derivation.vaultAuthority Config.standard.programId).address := by
    simp [ownPot, depositedPot, fundedOwner, fundedDeposit, lockWithDeposit,
      Step.WithoutAuthority, someOwner_ne_vaultAuthority]
  have hclaimer : ∀ step ∈ ownPot,
      step.WithoutClaimer (Derivation.escrow Config.standard.programId someTerms.hash).address := by
    simp [ownPot, depositedPot, fundedOwner, fundedDeposit, lockWithDeposit, Step.WithoutClaimer,
      someOwner_ne_escrowAddress]
  exact funded_run (.new .standard 0 hdistinct
    (by simp [ownPot, depositedPot, fundedOwner, fundedDeposit]) fun _ hd => hd) rfl hauthority
    hclaimer hlive
    (Nat.lt_of_le_of_lt (supply_run_le ..) (show 0 + 2 < UInt64.size by decide))
    (Nat.lt_of_le_of_lt (nativeSupply_run_le ..) (show 0 + 5 < UInt64.size by decide))

theorem run_ownPot :
    let s := ((Engine.new .standard 0 .empty).run ownPot).state
    (s.ledger.nativeBalance someOwner).toNat = 0 ∧
      s.registry.escrowAddress someTerms.hash ≠ someOwner ∧
      ∃ account, s.registry.user? someOwner someMint = some account ∧
        account.amount.toNat = 1 := by
  obtain ⟨hready, -, hnatives⟩ := run_depositedPot .standard someOwner someMint someTerms.hash
    someAccount_ne_vault someOwner_ne_escrowAddress
  unfold ownPot
  refine ⟨?_, ?_, hready.user⟩
  · rw [hnatives, if_neg someOwner_ne_escrowAddress.symm]
  · rw [Registry.escrowAddress, hready.programId]
    exact someOwner_ne_escrowAddress.symm

end Engine

/-! ## Claims and refunds -/

variable {env : Env} {s s' : State}

/-- **What a claim changes.** The bounty goes to whoever submits it, the rest of the pot to its
funder, and the tokens out of the vault to the token account of the claimer or into its internal
balance. The escrow is gone, and the data buffer that the proof was in. All of these were there,
and nothing else is changed, whichever accounts are the same. -/
theorem Operation.claim_differsBy {req : ClaimRequest} {event : ClaimEvent}
    (h : (claim env req).run s = (.ok event, s')) :
    ∃ escrow, s.registry.escrow? req.hash = some escrow ∧
      (escrow.terms.payOut = true → ∃ address account,
        escrow.claimerTokenAccount = some address ∧
        s.ledger.tokenAccount? address = some account) ∧
      (escrow.terms.payOut = false → ∃ account,
        s.registry.user? escrow.claimer escrow.mint = some account) ∧
      (∀ address, req.secret.address? = some address →
        ∃ buffer, s.registry.buffer? address = some buffer) ∧
      let amount : Int := escrow.terms.amount.toNat
      let bounty : Int := escrow.claimerBounty.toNat
      let pot : Int := (max escrow.securityDeposit escrow.claimerBounty).toNat
      s'.DiffersBy s {
        natives owner := (if req.signer = owner then bounty else 0) +
          (if escrow.funder = owner then pot - bounty else 0) -
          if s.registry.escrowAddress req.hash = owner then pot else 0
        tokens account :=
          (if escrow.terms.payOut = true ∧ escrow.claimerTokenAccount = some account then amount
            else 0) -
          if escrow.terms.payOut = true ∧ s.registry.vaultAddress escrow.mint = account then amount
            else 0
        balances address := if escrow.terms.payOut = false ∧
          s.registry.userAddress escrow.claimer escrow.mint = address then amount else 0
        escrow := req.hash
        buffer := req.secret.address? } := by
  obtain ⟨plan, ledger, hplan, hsteps, -, rfl⟩ := run_claim_eq_ok_iff.1 h
  have hflow := ClaimRequest.potFlow hplan
  have husers := ClaimPlan.users_commit hplan
  obtain ⟨escrow, credited, secret, buffer, opened, -, hlive, -, hdestination, -, hsecret, -,
    rfl⟩ := ClaimRequest.plan_eq_ok_iff.1 hplan
  rw [ClaimRequest.checkDestination_eq_checkPayee] at hdestination
  obtain ⟨rfl, hfound⟩ := ClaimRequest.buffer_of_readSecret hsecret
  -- What left the address of the escrow and what came to each key, as one equation without
  -- subtraction.
  have hmoved (owner : Pubkey) : (ledger.nativeBalance owner).toNat +
      (if s.registry.escrowAddress req.hash = owner then escrow.nativePot.toNat else 0) =
        (s.ledger.nativeBalance owner).toNat +
          ((if req.signer = owner then escrow.claimerBounty.toNat else 0) +
            if escrow.funder = owner then
              (escrow.nativePot - escrow.claimerBounty).toNat else 0) := by
    have hbalance := Ledger.nativeBalance_steps hsteps owner
    rw [(hflow owner).1, (hflow owner).2] at hbalance
    simp only [Request.paid, hlive] at hbalance
    exact hbalance
  refine ⟨escrow, hlive, State.exists_account_of_checkPayee hdestination, fun hstays => ?_, hfound,
    ?_⟩
  · obtain ⟨account, haccount, -⟩ := State.exists_room_of_checkPayee hdestination hstays
    exact ⟨account, haccount⟩
  · exact Settlement.differsBy (ClaimPlan.settlement ⟨escrow, _, _, _, _⟩) rfl rfl
      (req.batch_eq_payments escrow s) (State.target_of_checkPayee hdestination).1 hsteps
      (fun owner => Escrow.native_of_flow escrow.claimerBounty_le_nativePot (hmoved owner))
      (ClaimPlan.programId_commit ..) (State.exists_room_of_checkPayee hdestination) husers
      (ClaimPlan.escrows_commit ..) (ClaimPlan.buffer?_commit _ req.hash s.registry)

/-- The owner claims, and plays four parts: it submits the claim, funded the pot, and is on both
sides of the swap. It gets the whole pot. -/
theorem Engine.claim_differsBy_of_ownPot :
    let s := ((Engine.new .standard 0 .empty).run ownPot).state
    let req := escrowOfPot.inlineClaim s.registry someOwner someSecret.toList .empty
    ∃ event s', (Operation.claim ⟨.standard, 0⟩ req).run s = (.ok event, s') ∧
      (s.ledger.nativeBalance someOwner).toNat = 0 ∧
      (s'.ledger.nativeBalance someOwner).toNat = 5 ∧
      s'.registry.escrow? someTerms.hash = none := by
  intro s req
  have hproof : escrowOfPot.terms.verifyClaim Config.standard.relayProgramId someSecret.toList
      .empty = .ok someSecret := Terms.verifyClaim_preimage rfl rfl _ _
  obtain ⟨credited, hplan⟩ := funded_ownPot.exists_claimPlan ⟨.standard, 0⟩ someOwner rfl hproof
  obtain ⟨ledger, hsteps⟩ := funded_ownPot.exists_steps (ClaimPlan.admitted hplan) rfl
  have hrun : (Operation.claim ⟨.standard, 0⟩ req).run s = (.ok _, _) :=
    Operation.run_claim_eq_ok_iff.2 ⟨_, ledger, hplan, hsteps, rfl, rfl⟩
  obtain ⟨escrow, hlive, -, -, -, hdiffers⟩ := Operation.claim_differsBy hrun
  cases funded_ownPot.live.symm.trans hlive
  have hnothing : (s.ledger.nativeBalance someOwner).toNat = 0 := run_ownPot.1
  have haddress : s.registry.escrowAddress req.hash ≠ someOwner := run_ownPot.2.1
  have hsigner : req.signer = someOwner := rfl
  have hfunder : escrowOfPot.funder = someOwner := rfl
  -- Zero and five and nothing: the bounty to the signer, the rest to the funder, who are one.
  have hnative := hdiffers.native someOwner
  simp only [hnothing, if_pos hsigner, if_pos hfunder, if_neg haddress] at hnative
  have hhash : req.hash = someTerms.hash := rfl
  exact ⟨_, _, hrun, hnothing, Int.ofNat_inj.1 hnative,
    (hdiffers.escrow someTerms.hash).trans (if_pos hhash)⟩

/-- **What a refund changes.** The security deposit goes to the offerer if the escrow is expired,
the rest of the pot to its funder, and the tokens out of the vault to the token account that they
came from or into the internal balance of the offerer. The escrow is gone. All of these were there,
and nothing else is changed, whichever accounts are the same. -/
theorem Operation.refund_differsBy {req : RefundRequest} {event : RefundEvent}
    (h : (refund env req).run s = (.ok event, s')) :
    ∃ escrow, s.registry.escrow? req.hash = some escrow ∧
      (escrow.terms.payIn = true → ∃ address account,
        escrow.offererTokenAccount = some address ∧
        s.ledger.tokenAccount? address = some account) ∧
      (escrow.terms.payIn = false → ∃ account,
        s.registry.user? escrow.offerer escrow.mint = some account) ∧
      let amount : Int := escrow.terms.amount.toNat
      let deposit : Int := (req.auth.compensation escrow).toNat
      let pot : Int := (max escrow.securityDeposit escrow.claimerBounty).toNat
      s'.DiffersBy s {
        natives owner := (if escrow.offerer = owner then deposit else 0) +
          (if escrow.funder = owner then pot - deposit else 0) -
          if s.registry.escrowAddress req.hash = owner then pot else 0
        tokens account :=
          (if escrow.terms.payIn = true ∧ escrow.offererTokenAccount = some account then amount
            else 0) -
          if escrow.terms.payIn = true ∧ s.registry.vaultAddress escrow.mint = account then amount
            else 0
        balances address := if escrow.terms.payIn = false ∧
          s.registry.userAddress escrow.offerer escrow.mint = address then amount else 0
        escrow := req.hash
        buffer := none } := by
  obtain ⟨plan, ledger, hplan, hsteps, -, rfl⟩ := run_refund_eq_ok_iff.1 h
  have hflow := RefundRequest.potFlow hplan
  have husers := RefundPlan.users_commit hplan
  obtain ⟨escrow, refunded, kind, -, hlive, -, -, hdestination, -, -, -, rfl⟩ :=
    RefundRequest.plan_eq_ok_iff.1 hplan
  rw [RefundRequest.checkDestination_eq_checkPayee] at hdestination
  have hmoved (owner : Pubkey) : (ledger.nativeBalance owner).toNat +
      (if s.registry.escrowAddress req.hash = owner then escrow.nativePot.toNat else 0) =
        (s.ledger.nativeBalance owner).toNat +
          ((if escrow.offerer = owner then (req.auth.compensation escrow).toNat else 0) +
            if escrow.funder = owner then
              (escrow.nativePot - req.auth.compensation escrow).toNat else 0) := by
    have hbalance := Ledger.nativeBalance_steps hsteps owner
    rw [(hflow owner).1, (hflow owner).2] at hbalance
    simp only [Request.paid, hlive] at hbalance
    exact hbalance
  let plan : RefundPlan := ⟨escrow, refunded, kind, req.batch escrow kind s⟩
  -- A refund uses up no data buffer.
  have hbuffer (address : Pubkey) : (plan.commit req.hash s.registry).buffer? address =
      if (none : Option Pubkey) = some address then none else s.registry.buffer? address := by
    rw [if_neg (Option.some_ne_none address).symm, Registry.buffer?, plan.buffers_commit]
    rfl
  refine ⟨escrow, hlive, State.exists_account_of_checkPayee hdestination, fun hstays => ?_, ?_⟩
  · obtain ⟨account, haccount, -⟩ := State.exists_room_of_checkPayee hdestination hstays
    exact ⟨account, haccount⟩
  · exact Settlement.differsBy plan.settlement plan.paysOut_settlement plan.payee_settlement
      (req.batch_eq_payments escrow s kind) (State.target_of_checkPayee hdestination).1 hsteps
      (fun owner => Escrow.native_of_flow (escrow.compensation_le_nativePot _) (hmoved owner))
      (plan.programId_commit ..) (State.exists_room_of_checkPayee hdestination) husers
      (plan.escrows_commit ..) hbuffer

/-- After the expiry the owner takes everything back. It is the offerer, the claimer and the funder
of the pot: what is paid and what is credited to it comes to all of the pot and the token. -/
theorem Engine.refund_differsBy_of_ownPot :
    let s := ((Engine.new .standard 0 .empty).run ownPot).state
    let req := escrowOfPot.timeoutRefund s.registry .empty
    ∃ event s', (Operation.refund ⟨.standard, expiryThreshold + 1⟩ req).run s = (.ok event, s') ∧
      (s.ledger.nativeBalance someOwner).toNat = 0 ∧
      (s'.ledger.nativeBalance someOwner).toNat = 5 ∧
      (∃ account account', s.registry.user? someOwner someMint = some account ∧
        s'.registry.user? someOwner someMint = some account' ∧
        account.amount.toNat = 1 ∧ account'.amount.toNat = 2) := by
  intro s req
  have hexpired : escrowOfPot.Expired .standard (expiryThreshold + 1) .empty := by
    show expiryThreshold < expiryThreshold + 1
    decide
  obtain ⟨refunded, hplan⟩ := funded_ownPot.exists_refundPlan ⟨.standard, expiryThreshold + 1⟩
    rfl hexpired
  obtain ⟨ledger, hsteps⟩ := funded_ownPot.exists_steps (RefundPlan.admitted hplan) rfl
  have hrun : (Operation.refund ⟨.standard, expiryThreshold + 1⟩ req).run s = (.ok _, _) :=
    Operation.run_refund_eq_ok_iff.2 ⟨_, ledger, hplan, hsteps, rfl, rfl⟩
  obtain ⟨escrow, hlive, -, -, hdiffers⟩ := Operation.refund_differsBy hrun
  cases funded_ownPot.live.symm.trans hlive
  have hnothing : (s.ledger.nativeBalance someOwner).toNat = 0 := run_ownPot.1
  have haddress : s.registry.escrowAddress req.hash ≠ someOwner := run_ownPot.2.1
  obtain ⟨account, haccount, hone⟩ := run_ownPot.2.2
  have hofferer : escrowOfPot.offerer = someOwner := rfl
  have hfunder : escrowOfPot.funder = someOwner := rfl
  -- The deposit and the rest of the pot go to the same key, and the token to its balance.
  have hnative := hdiffers.native someOwner
  simp only [hnothing, if_pos hofferer, if_pos hfunder, if_neg haddress] at hnative
  obtain ⟨account', haccount', hamount⟩ := hdiffers.user? haccount
  have hown : escrowOfPot.terms.payIn = false ∧
      s.registry.userAddress escrowOfPot.offerer escrowOfPot.mint =
        s.registry.userAddress someOwner someMint := ⟨rfl, rfl⟩
  simp only [hone, if_pos hown] at hamount
  exact ⟨_, _, hrun, hnothing, Int.ofNat_inj.1 hnative, account, account', haccount, haccount',
    hone, Int.ofNat_inj.1 hamount⟩

end AtomicEscrow
