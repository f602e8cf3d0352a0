import AtomicEscrow.Proofs.Consent

set_option autoImplicit false

/-! # Records stay as they were written

A settlement relies on what the lock has checked: it takes the nonce from the record, pays to the
account that the record names, and looks nothing of it up again. So the checks of a lock have to
stay true as long as the escrow lives. What they come to is `Escrow.Sound`, and every history that
starts without records keeps it for all live escrows at once (`Engine.sound_run`). The record
itself is never written a second time: a step takes it away whole, by a settlement, or leaves it
as it is (`Engine.escrow?_step`).
-/

namespace AtomicEscrow

/-! ## Sound records -/

/-- What is true of the record of a live escrow. -/
structure Escrow.Sound (config : Config) (s : State) (hash : Hash) (escrow : Escrow) : Prop where
  hash_eq : escrow.terms.hash = hash
  nonce : escrow.terms.kind = .chainNonced ∨ escrow.terms.nonce = 0
  confirmations : escrow.terms.confirmations ≤ config.maxConfirmations
  /-- A token account of the offerer is named iff the tokens were paid in. -/
  offererNamed : escrow.offererTokenAccount.isSome ↔ escrow.terms.payIn = true
  /-- A token account of the claimer is named iff the tokens are paid out. -/
  claimerNamed : escrow.claimerTokenAccount.isSome ↔ escrow.terms.payOut = true
  offererAccount : ∀ address, escrow.offererTokenAccount = some address →
    ∃ account, s.ledger.tokenAccount? address = some account ∧ account.mint = escrow.mint
  claimerAccount : ∀ address, escrow.claimerTokenAccount = some address →
    ∃ account, s.ledger.tokenAccount? address = some account ∧ account.mint = escrow.mint
  potless : escrow.terms.payIn = true → escrow.securityDeposit = 0 ∧ escrow.claimerBounty = 0
  offererUser : escrow.terms.payIn = false →
    ∃ account, s.registry.user? escrow.offerer escrow.mint = some account ∧
      account.owner = escrow.offerer ∧ account.mint = escrow.mint
  claimerUser : escrow.terms.payOut = false →
    ∃ account, s.registry.user? escrow.claimer escrow.mint = some account ∧
      account.owner = escrow.claimer ∧ account.mint = escrow.mint

/-- **Every record is sound**, and every account lies where it belongs. -/
structure State.Sound (config : Config) (s : State) : Prop where
  escrow : ∀ hash escrow, s.registry.escrow? hash = some escrow → escrow.Sound config s hash
  user : ∀ address account, s.registry.users.get? address = some account →
    s.registry.userAddress account.owner account.mint = address
  token : ∀ address account, s.ledger.tokenAccount? address = some account →
    account.address = address

/-- The terms of every live escrow have passed the checks of a lock. -/
def State.TermsChecked (config : Config) (s : State) : Prop :=
  ∀ hash escrow, s.registry.escrow? hash = some escrow →
    (escrow.terms.kind = .chainNonced ∨ escrow.terms.nonce = 0) ∧
      escrow.terms.confirmations ≤ config.maxConfirmations

theorem Derivation.address_of_holder? {d : Derivation} {holder : TokenAccount}
    (h : d.holder? = some holder) : holder.address = d.address := by
  cases d with
  | vault program mint =>
      cases h
      rfl
  | tokenAccount owner mint serial =>
      cases h
      rfl
  | escrow => cases h
  | userAccount => cases h
  | vaultAuthority => cases h

section

variable {D : Set Derivation} {config : Config} {s : State}

theorem State.WellFormed.exists_user? (hs : s.WellFormed D) (hD : D.InjOn Derivation.address)
    {owner mint : Pubkey} (hmem : .userAccount s.registry.programId owner mint ∈ D)
    (hholder : (s.registry.userHolder? (s.registry.userAddress owner mint)).isSome) :
    ∃ account, s.registry.user? owner mint = some account ∧ account.owner = owner ∧
      account.mint = mint := by
  have hsome : (s.registry.user? owner mint).isSome := Option.isSome_map.symm.trans hholder
  obtain ⟨account, hfound⟩ := Option.isSome_iff_exists.1 hsome
  exact ⟨account, hfound, hs.keyed.user? hD hmem hfound⟩

theorem Ledger.exists_tokenAccount?_of_holder? {l : Ledger} {address mint : Pubkey}
    {holder : TokenAccount} (hholder : l.holder? address = some holder)
    (hmint : holder.mint = mint) :
    ∃ account, l.tokenAccount? address = some account ∧ account.mint = mint := by
  obtain ⟨account, hfound, rfl⟩ := Ledger.holder?_eq_some_iff.1 hholder
  exact ⟨account, hfound, hmint⟩

theorem Escrow.WellFormed.sound (hs : s.WellFormed D) (hD : D.InjOn Derivation.address)
    {hash : Hash} {escrow : Escrow} (h : escrow.WellFormed D s hash)
    (hchecked : (escrow.terms.kind = .chainNonced ∨ escrow.terms.nonce = 0) ∧
      escrow.terms.confirmations ≤ config.maxConfirmations) :
    escrow.Sound config s hash where
  hash_eq := h.hash_eq
  nonce := hchecked.1
  confirmations := hchecked.2
  offererNamed := by
    cases hpay : escrow.terms.payIn with
    | true =>
        obtain ⟨source, _, hsource, -⟩ := h.paidIn hpay
        simp [hsource]
    | false => simp [(h.debited hpay).1]
  claimerNamed := by
    cases hpay : escrow.terms.payOut with
    | true =>
        obtain ⟨target, _, htarget, -⟩ := h.paysOut hpay
        simp [htarget]
    | false => simp [(h.credits hpay).1]
  -- The account on record is the one that the lock looked up. It has not gone since: accounts only
  -- come.
  offererAccount address hnamed := by
    cases hpay : escrow.terms.payIn with
    | true =>
        obtain ⟨source, holder, hsource, hholder, hmint, -⟩ := h.paidIn hpay
        obtain rfl : source = address := Option.some.inj (hsource.symm.trans hnamed)
        exact Ledger.exists_tokenAccount?_of_holder? hholder hmint
    | false =>
        rw [(h.debited hpay).1] at hnamed
        cases hnamed
  claimerAccount address hnamed := by
    cases hpay : escrow.terms.payOut with
    | true =>
        obtain ⟨target, holder, htarget, hholder, hmint⟩ := h.paysOut hpay
        obtain rfl : target = address := Option.some.inj (htarget.symm.trans hnamed)
        exact Ledger.exists_tokenAccount?_of_holder? hholder hmint
    | false =>
        rw [(h.credits hpay).1] at hnamed
        cases hnamed
  potless := h.potless
  offererUser hpay := hs.exists_user? hD h.offerer_mem (h.debited hpay).2
  claimerUser hpay := hs.exists_user? hD h.claimer_mem (h.credits hpay).2

theorem State.WellFormed.sound (hs : s.WellFormed D) (hD : D.InjOn Derivation.address)
    (hchecked : s.TermsChecked config) : s.Sound config where
  escrow hash escrow hlive := (hs.escrow hlive).sound hs hD (hchecked hash escrow hlive)
  user address account hfound := by
    have hholder : s.registry.userHolder? address = some (account.owner, account.mint) := by
      unfold Registry.userHolder?
      rw [hfound]
      rfl
    exact (hs.user hholder).2
  token address account hfound := by
    obtain ⟨d, -, haddress, hholder⟩ :=
      hs.token (Ledger.holder?_eq_some_iff.2 ⟨account, hfound, rfl⟩)
    calc account.address
        = account.emptied.address := rfl
      _ = d.address := Derivation.address_of_holder? hholder
      _ = address := haddress

end

/-! ## Records that stay -/

/-- The hash of the escrow that a request is to settle. -/
def Request.settled? : Request → Option Hash
  | claim req => some req.hash
  | refund req => some req.hash
  | _ => none

/-- **What an accepted request does to a live escrow**: a settlement of it takes the record away,
and everything else leaves it as it is. -/
theorem Request.escrow?_effect_of_live {env : Env} {s : State} {request : Request}
    {effect : Effect Reply} (h : request.effect env s = .ok effect) {hash : Hash}
    {escrow : Escrow} (hlive : s.registry.escrow? hash = some escrow) :
    effect.registry.escrow? hash =
      if request.settled? = some hash then none else some escrow := by
  -- A request takes out one record, puts one in, or touches none.
  have hsame (hescrows : effect.registry.escrows = s.registry.escrows) :
      effect.registry.escrow? hash = some escrow := by
    unfold Registry.escrow? at hlive ⊢
    rw [hescrows]
    exact hlive
  have herased {key : Hash} (hescrows : effect.registry.escrows = s.registry.escrows.erase key) :
      effect.registry.escrow? hash = if some key = some hash then none else some escrow := by
    rw [Registry.escrow?_of_erase hescrows, hlive]
    simp only [Option.some.injEq]
  cases admitted_of_effect h with
  | @lock req plan hplan =>
      have hput := LockRequest.escrows_commit req plan s.registry
      obtain ⟨_, _, hterms, -, -, rfl⟩ := LockRequest.plan_eq_ok_iff.1 hplan
      -- The hash of a live escrow cannot be locked.
      have hfree := (LockRequest.checkTerms_eq_ok_iff.1 hterms).2.2.1
      have hother : req.terms.hash ≠ hash := by
        rintro rfl
        rw [hlive] at hfree
        cases hfree
      show (req.commit _ s.registry).escrow? hash = some escrow
      rw [Registry.escrow?_of_insert hput]
      exact (if_neg hother).trans hlive
  | claim => exact herased (ClaimPlan.escrows_commit ..)
  | refund => exact herased (RefundPlan.escrows_commit ..)
  | deposit => exact hsame (Registry.escrows_setBalance ..)
  | withdraw => exact hsame (Registry.escrows_changeUser ..)
  | openBuffer => exact hsame (Registry.escrows_putBuffer ..)
  | writeBuffer => exact hsame (Registry.escrows_putBuffer ..)
  | closeBuffer => exact hsame (Registry.escrows_removeBuffer ..)

namespace Engine

variable {config : Config} {engine : Engine} {step : Step} {steps : List Step} {hash : Hash}
  {escrow : Escrow}

/-- The step is a claim or a refund of the escrow of a hash, and is accepted. -/
def Settles (engine : Engine) (hash : Hash) : Step → Prop
  | .request request => request.settled? = some hash ∧ engine.Accepts request
  | _ => False

theorem escrow?_step (hlive : engine.state.registry.escrow? hash = some escrow)
    (hopen : ¬engine.Settles hash step) :
    (engine.step step).state.registry.escrow? hash = some escrow := by
  rcases engine.step_cases step with ⟨hstate, -⟩ |
    ⟨request, effect, ledger, rfl, heffect, hsteps, hstate, -⟩ | ⟨ledger, -, hstate, -⟩
  · rw [hstate]
    exact hlive
  · have haccepts : engine.Accepts request :=
      ⟨effect.answer, by rw [perform_eq_of_effect heffect hsteps]⟩
    have hother : request.settled? ≠ some hash := fun heq => hopen ⟨heq, haccepts⟩
    rw [hstate]
    exact (Request.escrow?_effect_of_live heffect hlive).trans (if_neg hother)
  · rw [hstate]
    exact hlive

/-- **A record is the same until its escrow is settled.** -/
theorem escrow?_run (hlive : engine.state.registry.escrow? hash = some escrow)
    (hopen : ∀ before step after, steps = before ++ step :: after →
      ¬(engine.run before).Settles hash step) :
    (engine.run steps).state.registry.escrow? hash = some escrow := by
  induction steps generalizing engine with
  | nil => exact hlive
  | cons step rest ih =>
      have hfirst : (engine.step step).state.registry.escrow? hash = some escrow :=
        escrow?_step hlive (hopen [] step rest rfl)
      rw [run_cons]
      refine ih hfirst fun before later after heq => ?_
      have hlater := hopen (step :: before) later after (by rw [heq]; rfl)
      rwa [run_cons] at hlater

theorem termsChecked_step (h : engine.state.TermsChecked engine.config) (step : Step) :
    (engine.step step).state.TermsChecked engine.config := by
  intro hash escrow hlive
  rcases engine.step_cases step with ⟨hstate, -⟩ |
    ⟨request, effect, ledger, rfl, heffect, -, hstate, -⟩ | ⟨ledger, -, hstate, -⟩
  · rw [hstate] at hlive
    exact h hash escrow hlive
  · rw [hstate] at hlive
    rcases Request.escrow?_effect heffect hlive with hold | ⟨req, plan, rfl, hplan, rfl, -⟩
    · exact h hash _ hold
    · obtain ⟨account, funding, hterms, -, -, rfl⟩ := LockRequest.plan_eq_ok_iff.1 hplan
      obtain ⟨-, -, -, hconfirmations, hnonce, -⟩ := LockRequest.checkTerms_eq_ok_iff.1 hterms
      exact ⟨hnonce, hconfirmations⟩
  · rw [hstate] at hlive
    exact h hash escrow hlive

theorem termsChecked_run (h : engine.state.TermsChecked engine.config) :
    (engine.run steps).state.TermsChecked engine.config := by
  induction steps generalizing engine with
  | nil => exact h
  | cons step rest ih =>
      have hfirst := termsChecked_step h step
      rw [← config_step engine step] at hfirst ⊢
      exact ih hfirst

/-- **Histories that start without records keep all records sound.** -/
theorem sound_run {D : Set Derivation} (h : engine.Tame D steps)
    (hchecked : engine.state.TermsChecked engine.config) :
    (engine.run steps).state.Sound engine.config :=
  h.wellFormed_run.sound h.distinct (termsChecked_run hchecked)

/-- **Records are sound and never change.** After every history that starts without records over
an empty ledger, every record is sound and every account lies where it belongs. Whatever happens
after an escrow was recorded, its record is the same, down to the last field, until a claim or a
refund of the escrow is accepted. -/
theorem sound_and_unchanged (config : Config) (now : UInt64) (steps : List Step)
    (hdistinct : Set.InjOn Derivation.address {d | d ∈ derivations config.programId 0 steps})
    (hbatch : ∀ batch, .applyBatch batch ∉ steps) :
    let start := Engine.new config now .empty
    (start.run steps).state.Sound config ∧
      ∀ before between after hash escrow, steps = before ++ between ++ after →
        (start.run before).state.registry.escrow? hash = some escrow →
        (∀ first step rest, between = first ++ step :: rest →
          ¬(start.run (before ++ first)).Settles hash step) →
        (start.run (before ++ between)).state.registry.escrow? hash = some escrow := by
  intro start
  have htame : start.Tame {d | d ∈ derivations config.programId 0 steps} steps :=
    .new config now hdistinct hbatch fun _ hd => hd
  constructor
  · have hchecked : start.state.TermsChecked start.config := by
      intro hash escrow hlive
      cases hlive
    exact sound_run htame hchecked
  · intro before between after hash escrow _ hlive hopen
    rw [← run_run]
    refine escrow?_run hlive fun first step rest heq => ?_
    rw [run_run]
    exact hopen first step rest heq

theorem not_settles_advance {seconds : UInt64} : ¬engine.Settles hash (.advance seconds) :=
  fun h => h

/-- A lock with a deposit, and an hour. -/
def agedPot : List Step :=
  depositedPot Config.standard.programId someOwner someMint (.replicate 3) ++ [.advance 3600]

/-- The record of the lock is sound, and an hour later it is the same. -/
theorem sound_and_unchanged_of_agedPot :
    ((Engine.new .standard 0 .empty).run agedPot).state.registry.escrow? (.replicate 3) =
        some (escrowWithDeposit someOwner someMint someOwner (.replicate 3) 5) ∧
      (escrowWithDeposit someOwner someMint someOwner (.replicate 3) 5).Sound .standard
        ((Engine.new .standard 0 .empty).run agedPot).state (.replicate 3) := by
  have hdistinct : Set.InjOn Derivation.address
      {d | d ∈ derivations Config.standard.programId 0 agedPot} :=
    injOn_of_nodup nodup_potDerivations (by
      simp [agedPot, depositedPot, fundedOwner, fundedDeposit, lockWithDeposit, tokenTerms,
        derivations, Step.derivations, Request.derivations, potDerivations, someDerivations])
  obtain ⟨hsound, hsame⟩ := sound_and_unchanged .standard 0 agedPot hdistinct
    (by simp [agedPot, depositedPot, fundedOwner, fundedDeposit])
  obtain ⟨-, hescrows, -⟩ := run_depositedPot .standard someOwner someMint (.replicate 3)
    someAccount_ne_vault someOwner_ne_potAddress
  have hlocked := (hescrows (.replicate 3)).trans (if_pos rfl)
  -- The history is the lock followed by one step, the hour.
  have hlive := hsame (depositedPot Config.standard.programId someOwner someMint (.replicate 3))
    [.advance 3600] [] (.replicate 3) _ (List.append_nil _).symm hlocked
    fun first step rest heq hsettles => by
      -- The clock settles nothing.
      rcases List.singleton_eq_append_iff.1 heq with ⟨rfl, hstep⟩ | ⟨-, hnone⟩
      · cases hstep
        exact not_settles_advance hsettles
      · cases hnone
  exact ⟨hlive, hsound.escrow _ _ hlive⟩

end Engine

end AtomicEscrow
