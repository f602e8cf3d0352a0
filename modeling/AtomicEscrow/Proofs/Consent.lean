import AtomicEscrow.Bytes.Positional
import AtomicEscrow.Proofs.Chronicle
import AtomicEscrow.Proofs.Pot

set_option autoImplicit false

/-! # The claimer's consent

A claimer who lets the offerer take the tokens back signs the hash of the swap, its amount, expiry
and sequence, and how long the consent is good for. Nothing else is signed, and the program keeps
no list of the consents that were used: what stands against a second use is that the first one
removes the escrow. So a consent can be used again, but only after the same swap was locked again
for the same claimer, and in time (`Engine.lock_between_refunds`).
-/

namespace AtomicEscrow

/-! ## What is signed -/

/-- The bytes that are signed tell everything that is signed. -/
theorem Commitment.refundPreimage_inj {terms terms' : Terms} {authExpiry authExpiry' : UInt64} :
    refundPreimage terms authExpiry = refundPreimage terms' authExpiry' ↔
      terms.amount = terms'.amount ∧ terms.expiry = terms'.expiry ∧
        terms.sequence = terms'.sequence ∧ terms.hash = terms'.hash ∧
        authExpiry = authExpiry' := by
  constructor
  · intro h
    -- Every part has its fixed length, so the parts can be split off from the end.
    obtain ⟨h, hauth⟩ := List.append_inj' h (by simp)
    obtain ⟨h, hhash⟩ := List.append_inj' h (by simp [Bytes32.length_toList])
    obtain ⟨h, hsequence⟩ := List.append_inj' h (by simp)
    obtain ⟨h, hexpiry⟩ := List.append_inj' h (by simp)
    obtain ⟨-, hamount⟩ := List.append_inj' h (by simp)
    exact ⟨littleEndian_word_inj.1 hamount, littleEndian_word_inj.1 hexpiry,
      littleEndian_word_inj.1 hsequence, Bytes32.ext hhash, littleEndian_word_inj.1 hauth⟩
  · rintro ⟨hamount, hexpiry, hsequence, hhash, rfl⟩
    unfold refundPreimage
    rw [hamount, hexpiry, hsequence, hhash]

theorem Escrow.checkConsent_eq_ok_iff {escrow : Escrow} {config : Config} {now authExpiry : UInt64}
    {preamble : Preamble} {u : Unit} :
    escrow.checkConsent config now authExpiry preamble = .ok u ↔
      now < authExpiry ∧ preamble.first? = some ⟨config.ed25519ProgramId,
        .ed25519 escrow.claimer (Commitment.refund escrow.terms authExpiry).toList⟩ := by
  unfold checkConsent
  by_cases hnow : now < authExpiry
  · rw [if_neg (UInt64.not_le.2 hnow)]
    -- In time, so the first instruction decides: its program, its kind, its signer and its
    -- message.
    cases preamble.first? with
    | none => simp
    | some instruction =>
        obtain ⟨program, attestation⟩ := instruction
        by_cases hprogram : program = config.ed25519ProgramId
        · cases attestation with
          | ed25519 pubkey message => simp [hnow, hprogram, Classical.or_iff_not_imp_left]
          | _ => simp [hprogram]
        · simp [hprogram]
  · rw [if_pos (UInt64.not_lt.1 hnow)]
    simp [hnow]

/-! ## Refunds with consent -/

/-- A cooperative refund whose first instruction attests that a key signed a message. -/
def RefundRequest.Carries (req : RefundRequest) (pubkey : Pubkey) (message : Bytes)
    (authExpiry : UInt64) : Prop :=
  req.auth = .cooperative authExpiry ∧
    req.preamble.first?.map (·.attestation) = some (.ed25519 pubkey message)

namespace Engine

variable {engine : Engine} {hash : Hash} {escrow : Escrow}

/-- The engine answers a request and does not refuse it. -/
def Accepts (engine : Engine) (request : Request) : Prop :=
  ∃ reply, (engine.perform request).1 = .ok reply

theorem effect_of_accepts {request : Request} (h : engine.Accepts request) :
    ∃ effect ledger, request.effect engine.env engine.state = .ok effect ∧
      (engine.step (.request request)).state = ⟨effect.registry, ledger⟩ := by
  obtain ⟨reply, hreply⟩ := h
  rcases engine.perform_cases request with ⟨e, hperform⟩ |
    ⟨effect, ledger, heffect, -, hperform⟩
  · rw [hperform] at hreply
    cases hreply
  · refine ⟨effect, ledger, heffect, ?_⟩
    show (engine.perform request).2.state = _
    rw [hperform, state_accept]

/-- **What a refund with consent found**: a live escrow whose claimer signed its terms. Afterwards
the escrow is gone. -/
theorem consent_of_refund {req : RefundRequest} {pubkey : Pubkey} {message : Bytes}
    {authExpiry : UInt64} (hcarries : req.Carries pubkey message authExpiry)
    (haccepts : engine.Accepts (.refund req)) :
    engine.now < authExpiry ∧
      (engine.step (.request (.refund req))).state.registry.escrow? req.hash = none ∧
      ∃ escrow, engine.state.registry.escrow? req.hash = some escrow ∧ escrow.claimer = pubkey ∧
        message = (Commitment.refund escrow.terms authExpiry).toList := by
  obtain ⟨hauth, hattested⟩ := hcarries
  obtain ⟨effect, ledger, heffect, hstate⟩ := effect_of_accepts haccepts
  cases Request.admitted_of_effect heffect with
  | @refund req plan hplan =>
      have hgone := Registry.escrow?_of_erase (plan.escrows_commit req.hash engine.state.registry)
        req.hash
      rw [if_pos rfl] at hgone
      obtain ⟨escrow, _, kind, -, hlive, -, -, -, -, -, hallowed, rfl⟩ :=
        RefundRequest.plan_eq_ok_iff.1 hplan
      rw [hauth] at hallowed
      obtain ⟨_, hconsent, -⟩ := bind_eq_ok_iff.1 hallowed
      obtain ⟨hnow, hfirst⟩ := Escrow.checkConsent_eq_ok_iff.1 hconsent
      -- The attested message is the one that was checked, since both are in the first instruction.
      rw [hfirst] at hattested
      cases hattested
      exact ⟨hnow, by rw [hstate]; exact hgone, escrow, hlive, rfl, rfl⟩

/-- An escrow that is live after a history and was not before has been locked in it. -/
theorem exists_lock_of_live {steps : List Step}
    (hfree : engine.state.registry.escrow? hash = none)
    (hlive : (engine.run steps).state.registry.escrow? hash = some escrow) :
    ∃ before req after, steps = before ++ .request (.lock req) :: after ∧
      (engine.run before).Accepts (.lock req) ∧ req.terms = escrow.terms ∧
      req.claimer = escrow.claimer := by
  -- The lock is the last step, or the escrow was live before it.
  induction steps using List.reverseRecOn with
  | nil =>
      rw [run_nil, hfree] at hlive
      cases hlive
  | append_singleton steps step ih =>
      have hearlier (hbefore : (engine.run steps).state.registry.escrow? hash = some escrow) :
          ∃ before req after, steps ++ [step] = before ++ .request (.lock req) :: after ∧
            (engine.run before).Accepts (.lock req) ∧ req.terms = escrow.terms ∧
            req.claimer = escrow.claimer := by
        obtain ⟨before, req, after, rfl, hlock⟩ := ih hbefore
        exact ⟨before, req, after ++ [step], by simp, hlock⟩
      rw [run_append] at hlive
      rcases (engine.run steps).step_cases step with ⟨hstate, -⟩ |
        ⟨request, effect, ledger, rfl, heffect, hsteps, hstate, -⟩ | ⟨ledger, -, hstate, -⟩
      · rw [hstate] at hlive
        exact hearlier hlive
      · rw [hstate] at hlive
        rcases Request.escrow?_effect heffect hlive with hbefore | ⟨req, plan, rfl, hplan, rfl, -⟩
        · exact hearlier hbefore
        · obtain ⟨account, funding, -, -, -, rfl⟩ := LockRequest.plan_eq_ok_iff.1 hplan
          exact ⟨steps, req, [], rfl, ⟨effect.answer, by
            rw [perform_eq_of_effect heffect hsteps]⟩, rfl, rfl⟩
      · rw [hstate] at hlive
        exact hearlier hlive

/-- **A consent is good for one lock.** Whenever two refunds with one consent are accepted, the
terms of the escrow were locked again in between, under the same hash and for the same claimer,
and the consent has not run out. The one way around would be two different texts for signing that
have one digest. -/
theorem lock_between_refunds (config : Config) (now : UInt64) (ledger : Ledger)
    (steps between : List Step) (first again : RefundRequest) (pubkey : Pubkey) (message : Bytes)
    (authExpiry authExpiry' : UInt64) :
    let engine := (Engine.new config now ledger).run steps
    let refunded := engine.step (.request (.refund first))
    let later := refunded.run between
    first.Carries pubkey message authExpiry → engine.Accepts (.refund first) →
    again.Carries pubkey message authExpiry' → later.Accepts (.refund again) →
    later.now < authExpiry' ∧
      ∃ escrow escrow', engine.state.registry.escrow? first.hash = some escrow ∧
        later.state.registry.escrow? again.hash = some escrow' ∧
        ((Commitment.refundPreimage escrow.terms authExpiry ≠
              Commitment.refundPreimage escrow'.terms authExpiry' ∧
            Commitment.refund escrow.terms authExpiry =
              Commitment.refund escrow'.terms authExpiry') ∨
          (again.hash = first.hash ∧ authExpiry' = authExpiry ∧
            escrow'.terms.hash = escrow.terms.hash ∧ escrow'.terms.amount = escrow.terms.amount ∧
            escrow'.terms.expiry = escrow.terms.expiry ∧
            escrow'.terms.sequence = escrow.terms.sequence ∧
            ∃ before req after, between = before ++ .request (.lock req) :: after ∧
              (refunded.run before).Accepts (.lock req) ∧ req.terms = escrow'.terms ∧
              req.claimer = pubkey)) := by
  intro engine refunded later hcarries haccepts hcarries' haccepts'
  obtain ⟨-, hgone, escrow, hlive, -, hmessage⟩ := consent_of_refund hcarries haccepts
  obtain ⟨hnow, -, escrow', hlive', hclaimer, hmessage'⟩ := consent_of_refund hcarries' haccepts'
  refine ⟨hnow, escrow, escrow', hlive, hlive', ?_⟩
  have hdigest : Commitment.refund escrow.terms authExpiry =
      Commitment.refund escrow'.terms authExpiry' := Bytes32.ext (hmessage.symm.trans hmessage')
  by_cases hsame : Commitment.refundPreimage escrow.terms authExpiry =
      Commitment.refundPreimage escrow'.terms authExpiry'
  · refine .inr ?_
    obtain ⟨hamount, hexpiry, hsequence, hhash, hauth⟩ := Commitment.refundPreimage_inj.1 hsame
    -- Both escrows lie under their own hashes, so it is one hash.
    have hkey : escrow.terms.hash = first.hash :=
      (run_chronicle config now ledger steps).1 _ _ hlive
    have hrun : later = (Engine.new config now ledger).run
        (steps ++ .request (.refund first) :: between) :=
      run_run _ steps (.request (.refund first) :: between)
    have hkey' : escrow'.terms.hash = again.hash := by
      rw [hrun] at hlive'
      exact (run_chronicle ..).1 _ _ hlive'
    have hagain : again.hash = first.hash := by
      rw [← hkey', ← hhash, hkey]
    -- In between the escrow was gone, so it has been locked again.
    rw [hagain] at hlive'
    obtain ⟨before, req, after, hbetween, hlock, hterms, hreq⟩ := exists_lock_of_live hgone hlive'
    exact ⟨hagain, hauth.symm, hhash.symm, hamount.symm, hexpiry.symm, hsequence.symm, before, req,
      after, hbetween, hlock, hterms, hreq.trans hclaimer⟩
  · exact .inl ⟨hsame, hdigest⟩

/-! ## A consent that is used twice -/

/-- The refund of a lock without a deposit, with the consent of the claimer. -/
def refundWithConsent (config : Config) (owner mint claimer : Pubkey) (hash : Hash)
    (authExpiry : UInt64) : RefundRequest where
  hash
  escrowAddress := (Derivation.escrow config.programId hash).address
  offerer := owner
  claimer
  offererDestination := .internal (Derivation.userAccount config.programId owner mint).address
  claimerUserAccount := none
  auth := .cooperative authExpiry
  preamble := Preamble.empty.withSignature config.ed25519ProgramId claimer
    (Commitment.refund (tokenTerms hash) authExpiry).toList

/-- There is no pot and nothing was paid in, so no funds move. -/
theorem batch_refundWithConsent (config : Config) (owner mint claimer : Pubkey) (hash : Hash)
    (authExpiry : UInt64) (s : State) :
    (refundWithConsent config owner mint claimer hash authExpiry).batch
      (escrowWithDeposit owner mint claimer hash 0) .cooperative s = .empty := by
  have hpot : (escrowWithDeposit owner mint claimer hash 0).nativePot = 0 := Amount.max_zero 0
  have hinternal : (escrowWithDeposit owner mint claimer hash 0).terms.payIn = false := rfl
  simp [RefundRequest.batch, RefundRequest.deposit, Batch.nativeTransfer, hpot, hinternal]

theorem plan_refundWithConsent {owner mint claimer : Pubkey} {authExpiry balance : UInt64}
    {tokens : Nat} (h : CanLock engine engine.config.programId owner mint tokens)
    (hbalance : tokens + 1 = balance.toNat)
    (hlive : engine.state.registry.escrow? hash =
      some (escrowWithDeposit owner mint claimer hash 0)) (hauth : 0 < authExpiry) :
    (refundWithConsent engine.config owner mint claimer hash authExpiry).plan engine.env
        engine.state =
      .ok ⟨escrowWithDeposit owner mint claimer hash 0, some balance, .cooperative, .empty⟩ := by
  obtain ⟨hnow, hprogram, ⟨account, huser, hamount⟩, -⟩ := h
  have haddress : engine.state.registry.escrowAddress hash =
      (Derivation.escrow engine.config.programId hash).address :=
    Registry.escrowAddress_congr (r := .empty engine.config.programId) hprogram hash
  have haccount : engine.state.registry.userAddress owner mint =
      (Derivation.userAccount engine.config.programId owner mint).address :=
    Registry.userAddress_congr (r := .empty engine.config.programId) hprogram owner mint
  have hearly : engine.env.now < authExpiry := by
    show engine.now < authExpiry
    rw [hnow]
    exact hauth
  -- No pot, so nobody needs to be paid: the offerer's balance and the consent are all there is to
  -- check.
  exact RefundRequest.plan_eq_ok_iff.2 ⟨_, some balance, .cooperative, haddress, hlive, rfl, rfl,
    RefundRequest.checkDestination_eq_ok_iff.2 (.inr ⟨rfl, account, balance,
      congrArg _ haccount.symm, huser, hamount ▸ hbalance, rfl⟩), rfl, rfl,
    bind_eq_ok_iff.2 ⟨(), Escrow.checkConsent_eq_ok_iff.2 ⟨hearly, rfl⟩, rfl⟩,
    by rw [batch_refundWithConsent]⟩

theorem step_refundWithConsent {config : Config} {owner mint claimer : Pubkey}
    {authExpiry : UInt64} {tokens : Nat} (hconfig : engine.config = config)
    (h : CanLock engine config.programId owner mint tokens)
    (hroom : tokens + 1 < UInt64.size)
    (hlive : engine.state.registry.escrow? hash =
      some (escrowWithDeposit owner mint claimer hash 0)) (hauth : 0 < authExpiry) :
    let request := Request.refund (refundWithConsent config owner mint claimer hash authExpiry)
    engine.Accepts request ∧
      CanLock (engine.step (.request request)) config.programId owner mint (tokens + 1) ∧
      (engine.step (.request request)).state.registry.escrow? hash = none := by
  subst hconfig
  intro request
  obtain ⟨balance, hbalance⟩ := Ledger.exists_toNat_eq hroom
  let plan : RefundPlan :=
    ⟨escrowWithDeposit owner mint claimer hash 0, some balance, .cooperative, .empty⟩
  have heffect := Request.effect_of_admitted
    (.refund (plan_refundWithConsent h hbalance hlive hauth))
  -- The batch is empty, and the ledger stays.
  have hsteps : engine.state.ledger.steps plan.batch.ops = .ok engine.state.ledger := rfl
  obtain ⟨haccepted, hperform⟩ := perform_of_effect heffect hsteps
  have hstate : (engine.step (.request request)).state =
      ⟨plan.commit hash engine.state.registry, engine.state.ledger⟩ := hperform
  obtain ⟨hnow, hprogram, ⟨account, huser, -⟩, htoken⟩ := h
  refine ⟨⟨_, haccepted⟩, ⟨(now_step ..).trans hnow,
    (engine.programId_step _).trans hprogram, ⟨{ account with amount := balance }, ?_,
    hbalance.symm⟩, ?_⟩, ?_⟩
  · rw [hstate]
    exact Registry.user?_changeUser (engine.state.registry.removeEscrow hash) owner mint
      (fun account => { account with amount := balance }) huser
  · rw [hstate]
    exact htoken
  · rw [hstate, Registry.escrow?_of_erase (plan.escrows_commit hash engine.state.registry),
      if_pos rfl]

def lockToken (program owner mint claimer : Pubkey) (hash : Hash) : Step :=
  .request (.lock (lockWithDeposit program owner mint claimer hash 0))

theorem step_lockToken {program owner mint : Pubkey} {tokens : Nat} (claimer : Pubkey)
    (h : CanLock engine program owner mint (tokens + 1))
    (hfree : engine.state.registry.escrow? hash = none) :
    let next := engine.step (lockToken program owner mint claimer hash)
    CanLock next program owner mint tokens ∧
      ∀ key, next.state.registry.escrow? key =
        if hash = key then some (escrowWithDeposit owner mint claimer hash 0)
        else engine.state.registry.escrow? key := by
  intro next
  have hcovered : 0 ≤ engine.state.ledger.nativeBalance claimer := UInt64.zero_le
  have hroom : (engine.state.ledger.nativeBalance
      (Derivation.escrow program hash).address).toNat + (0 : UInt64).toNat < UInt64.size :=
    UInt64.toNat_lt_size _
  obtain ⟨hlocked, hescrows, -⟩ := step_lockWithDeposit h hfree hcovered hroom
  exact ⟨hlocked, hescrows⟩

/-- A token is locked, refunded with consent, locked again and refunded again with the same
consent. -/
theorem accepts_refund_again (config : Config) (owner mint claimer : Pubkey) (hash : Hash)
    (hne : (Derivation.tokenAccount owner mint 1).address ≠
      (Derivation.vault config.programId mint).address) :
    let lock := lockToken config.programId owner mint claimer hash
    let refund := Request.refund (refundWithConsent config owner mint claimer hash 1)
    let engine := (Engine.new config 0 .empty).run
      (fundedOwner config.programId owner mint ++ [lock])
    let later := (engine.step (.request refund)).run [lock]
    (engine.Accepts refund ∧ engine.state.registry.escrow? hash =
        some (escrowWithDeposit owner mint claimer hash 0)) ∧
      later.Accepts refund ∧ later.state.registry.escrow? hash =
        some (escrowWithDeposit owner mint claimer hash 0) := by
  intro lock refund
  simp only [run_append, run_cons, run_nil]
  obtain ⟨hready, hfree, -⟩ := run_fundedOwner config owner mint hne
  have hconfig := config_run (Engine.new config 0 .empty) (fundedOwner config.programId owner mint)
  -- Only what the history leaves matters: a token in the balance, and nothing under the hash.
  generalize (Engine.new config 0 .empty).run
    (fundedOwner config.programId owner mint) = engine at *
  obtain ⟨hlocked, hescrows⟩ := step_lockToken claimer hready (hfree hash)
  have hlive := (hescrows hash).trans (if_pos rfl)
  obtain ⟨haccepts, hback, hgone⟩ := step_refundWithConsent ((config_step ..).trans hconfig)
    hlocked (by decide) hlive UInt64.zero_lt_one
  -- The refund leaves the engine as ready as it was, so both steps can be taken again.
  obtain ⟨hlocked', hescrows'⟩ := step_lockToken claimer hback hgone
  have hlive' := (hescrows' hash).trans (if_pos rfl)
  have hconfig' : (((engine.step lock).step (.request refund)).step lock).config = config := by
    rw [config_step, config_step, config_step, hconfig]
    rfl
  obtain ⟨haccepts', -⟩ := step_refundWithConsent hconfig' hlocked' (by decide) hlive'
    UInt64.zero_lt_one
  exact ⟨⟨haccepts, hlive⟩, haccepts', hlive'⟩

def someClaimer : Pubkey := ⟨.replicate 5⟩

theorem lock_between_refunds_of_sample :
    let lock := lockToken Config.standard.programId someOwner someMint someClaimer (.replicate 3)
    let refund := refundWithConsent .standard someOwner someMint someClaimer (.replicate 3) 1
    let engine := (Engine.new .standard 0 .empty).run
      (fundedOwner Config.standard.programId someOwner someMint ++ [lock])
    let refunded := engine.step (.request (.refund refund))
    (refunded.run [lock]).now < 1 ∧
      ∃ before req after, [lock] = before ++ .request (.lock req) :: after ∧
        (refunded.run before).Accepts (.lock req) ∧ req.claimer = someClaimer := by
  obtain ⟨⟨haccepts, hlive⟩, haccepts', hlive'⟩ := accepts_refund_again .standard someOwner
    someMint someClaimer (.replicate 3) someAccount_ne_vault
  obtain ⟨hnow, escrow, escrow', hfirst, hsecond, hsigned⟩ := lock_between_refunds .standard 0
    .empty (fundedOwner Config.standard.programId someOwner someMint ++
      [lockToken Config.standard.programId someOwner someMint someClaimer (.replicate 3)])
    [lockToken Config.standard.programId someOwner someMint someClaimer (.replicate 3)]
    (refundWithConsent .standard someOwner someMint someClaimer (.replicate 3) 1)
    (refundWithConsent .standard someOwner someMint someClaimer (.replicate 3) 1) someClaimer
    (Commitment.refund (tokenTerms (.replicate 3)) 1).toList 1 1 ⟨rfl, rfl⟩ haccepts ⟨rfl, rfl⟩
    haccepts'
  refine ⟨hnow, ?_⟩
  have hsame : escrow' = escrow :=
    Option.some.inj (hsecond.symm.trans (hlive'.trans (hlive.symm.trans hfirst)))
  -- Two pre-images of one escrow are one, so the other case is out.
  rcases hsigned with ⟨hdifferent, -⟩ | ⟨-, -, -, -, -, -, before, req, after, hlock, hreq⟩
  · exact absurd (by rw [hsame]) hdifferent
  · exact ⟨before, req, after, hlock, hreq.1, hreq.2.2⟩

theorem accepts_refund_again_of_sample :
    let lock := lockToken Config.standard.programId someOwner someMint someClaimer (.replicate 3)
    let refund := refundWithConsent .standard someOwner someMint someClaimer (.replicate 3) 1
    let engine := (Engine.new .standard 0 .empty).run
      (fundedOwner Config.standard.programId someOwner someMint ++ [lock])
    refund.Carries someClaimer (Commitment.refund (tokenTerms (.replicate 3)) 1).toList 1 ∧
      engine.Accepts (.refund refund) ∧
      ((engine.step (.request (.refund refund))).run [lock]).Accepts (.refund refund) := by
  obtain ⟨⟨haccepts, -⟩, haccepts', -⟩ := accepts_refund_again .standard someOwner
    someMint someClaimer (.replicate 3) someAccount_ne_vault
  exact ⟨⟨rfl, rfl⟩, haccepts, haccepts'⟩

end Engine

end AtomicEscrow
