import AtomicEscrow.Proofs.Consent
import AtomicEscrow.Proofs.Ending
import AtomicEscrow.Proofs.Keyed
import AtomicEscrow.Proofs.Verdict

set_option autoImplicit false

/-! # Settlements of different escrows

Two settlements may meet in the vault, in the user account of a claimer, in its reputation and in
the native balance of whoever gets the bounty. A plan reads such a balance before it writes it. Still
it does not matter which of the two comes first (`Engine.settlements_independent`), for two reasons.
Whether a settlement is admitted does not depend on the balances, as long as everything that is owed
is there (`SettlementRequest.settlement_congr`). And what it does adds to a balance or takes from it
(`Settlement.Carried`), so that two of them commute.
-/

namespace AtomicEscrow

/-! ## What a settlement does -/

/-- A settlement of the escrow of a hash was carried out: the escrow and the data buffer are gone,
the user accounts are changed by the end of the escrow, the tokens that were paid out are not owed
any more, and the payments are made. -/
structure Settlement.Carried (x : Settlement) (hash : Hash) (s s' : State) : Prop where
  programId : s'.registry.programId = s.registry.programId
  escrows : s'.registry.escrows = s.registry.escrows.erase hash
  user : ∀ address, s'.registry.users.get? address =
    (s.registry.users.get? address).map (x.change s.registry.programId address)
  buffer : ∀ address, s'.registry.buffer? address =
    if x.buffer = some address then none else s.registry.buffer? address
  owed : ∀ mint, s'.registry.owed mint +
      (if x.paysOut = true ∧ x.escrow.mint = mint then x.escrow.terms.amount.toNat else 0) =
    s.registry.owed mint
  ledger : s.ledger.steps x.batch.ops = .ok s'.ledger

section

variable {D : Set Derivation} {env : Env} {s s' : State} {ledger : Ledger}

theorem ClaimPlan.buffer?_commit (plan : ClaimPlan) (hash : Hash) (r : Registry)
    (address : Pubkey) :
    (plan.commit hash r).buffer? address =
      if plan.buffer = some address then none else r.buffer? address := by
  obtain ⟨escrow, credited, buffer, opened, batch⟩ := plan
  have hcredited : (commit ⟨escrow, credited, none, opened, batch⟩ hash r).buffers =
      r.buffers := by
    unfold commit
    cases credited <;> simp
  unfold Registry.buffer?
  rw [← hcredited]
  cases buffer with
  | none => rfl
  | some dropped =>
      show (Table.erase _ dropped).get? address = _
      rw [Table.get?_erase]
      simp only [Option.some.injEq]
      rfl

theorem RefundPlan.buffers_commit (plan : RefundPlan) (hash : Hash) (r : Registry) :
    (plan.commit hash r).buffers = r.buffers := by
  unfold commit
  cases plan.refunded <;> cases plan.escrow.terms.payOut <;> simp

theorem ClaimPlan.carried (hs : s.registry.Keyed D) (hD : D.InjOn Derivation.address)
    {req : ClaimRequest} {plan : ClaimPlan} (hplan : req.plan env s = .ok plan)
    (hsteps : s.ledger.steps plan.batch.ops = .ok ledger) :
    plan.settlement.Carried req.hash s ⟨plan.commit req.hash s.registry, ledger⟩ where
  programId := plan.programId_commit req.hash s.registry
  escrows := plan.escrows_commit req.hash s.registry
  user := ClaimPlan.users_commit hplan
  buffer := plan.buffer?_commit req.hash s.registry
  owed := ClaimPlan.owed_commit hs hD hplan
  ledger := hsteps

theorem RefundPlan.carried (hs : s.registry.Keyed D) (hD : D.InjOn Derivation.address)
    {req : RefundRequest} {plan : RefundPlan} (hplan : req.plan env s = .ok plan)
    (hsteps : s.ledger.steps plan.batch.ops = .ok ledger) :
    plan.settlement.Carried req.hash s ⟨plan.commit req.hash s.registry, ledger⟩ where
  programId := plan.programId_commit req.hash s.registry
  escrows := plan.escrows_commit req.hash s.registry
  user := RefundPlan.users_commit hplan
  buffer address := by
    show (plan.commit req.hash s.registry).buffers.get? address = _
    rw [plan.buffers_commit]
    exact (if_neg fun h => by cases h).symm
  owed mint := by
    rw [plan.paysOut_settlement]
    exact RefundPlan.owed_commit hs hD hplan mint
  ledger := hsteps

namespace SettlementRequest

/-- What admitted requests amount to, for a claim and for a refund. -/
inductive Admits (env : Env) (s : State) : SettlementRequest → Settlement → Prop
  | claim {req : ClaimRequest} {plan : ClaimPlan} (h : req.plan env s = .ok plan) :
      Admits env s (.claim req) plan.settlement
  | refund {req : RefundRequest} {plan : RefundPlan} (h : req.plan env s = .ok plan) :
      Admits env s (.refund req) plan.settlement

variable {r : SettlementRequest} {x : Settlement}

theorem admits_of_settlement (h : r.settlement env s = .ok x) : r.Admits env s x := by
  cases r with
  | claim req =>
      obtain ⟨plan, hplan, hx⟩ := bind_eq_ok_iff.1 h
      cases hx
      exact .claim hplan
  | refund req =>
      obtain ⟨plan, hplan, hx⟩ := bind_eq_ok_iff.1 h
      cases hx
      exact .refund hplan

theorem Admits.admitted (h : r.Admits env s x) : x.Admitted s r.hash := by
  cases h with
  | claim hplan => exact ClaimPlan.admitted hplan
  | refund hplan => exact RefundPlan.admitted hplan

/-- The data buffer that is used up is the one that was named. -/
theorem Admits.buffer? (h : r.Admits env s x) {address : Pubkey}
    (hbuffer : x.buffer = some address) : r.buffer? = some address := by
  cases h with
  | @claim req plan hplan =>
      obtain ⟨_, _, _, buffer, _, -, -, -, -, -, hsecret, -, rfl⟩ :=
        ClaimRequest.plan_eq_ok_iff.1 hplan
      rcases ClaimRequest.readSecret_eq_ok_iff.1 hsecret with
        ⟨-, rfl⟩ | ⟨named, _, hnamed, -, -, -, rfl⟩
      · cases hbuffer
      · cases hbuffer
        unfold SettlementRequest.buffer?
        simp only [hnamed]
  | refund hplan => cases hbuffer

end SettlementRequest

end

namespace Engine

variable {D : Set Derivation} {engine : Engine} {r : SettlementRequest} {x : Settlement}

theorem perform_of_settlement_error {e : EscrowError}
    (h : r.settlement engine.env engine.state = .error e) :
    engine.perform r.request = (.error e, engine) := by
  cases r with
  | claim req =>
      rcases bind_eq_error_iff.1 h with hplan | ⟨_, -, hx⟩
      · exact perform_claim_of_error hplan
      · cases hx
  | refund req =>
      rcases bind_eq_error_iff.1 h with hplan | ⟨_, -, hx⟩
      · exact perform_refund_of_error hplan
      · cases hx

theorem perform_of_admits (hs : engine.state.registry.Keyed D) (hD : D.InjOn Derivation.address)
    (h : r.Admits engine.env engine.state x) {ledger : Ledger}
    (hsteps : engine.state.ledger.steps x.batch.ops = .ok ledger) :
    (engine.perform r.request).1 = .ok (.event x.event) ∧
      x.Carried r.hash engine.state (engine.perform r.request).2.state := by
  cases h with
  | claim hplan =>
      obtain ⟨hanswer, hstate⟩ :=
        perform_of_effect (Request.effect_of_admitted (.claim hplan)) hsteps
      exact ⟨hanswer, hstate ▸ ClaimPlan.carried hs hD hplan hsteps⟩
  | refund hplan =>
      obtain ⟨hanswer, hstate⟩ :=
        perform_of_effect (Request.effect_of_admitted (.refund hplan)) hsteps
      exact ⟨hanswer, hstate ▸ RefundPlan.carried hs hD hplan hsteps⟩

end Engine

/-! ## Everything that is owed is there -/

/-- A state in which the escrow of a hash can be settled, if it is live: the vault covers what is
owed in its mint, the pot is at its address, and nobody can get more than fits in a word. -/
structure State.Ready (D : Set Derivation) (s : State) (hash : Hash) : Prop where
  distinct : D.InjOn Derivation.address
  keyed : s.registry.Keyed D
  covers : ∀ escrow, s.registry.escrow? hash = some escrow → s.Covers escrow.mint
  backed : s.Backed hash
  supply : ∀ mint, s.ledger.supply mint < UInt64.size
  nativeSupply : s.ledger.nativeSupply < UInt64.size

namespace State.Ready

variable {D : Set Derivation} {env : Env} {s s' : State} {hash hash' : Hash} {x : Settlement}

theorem hasRoom (h : s.Ready D hash) {escrow : Escrow}
    (hlive : s.registry.escrow? hash = some escrow) : s.registry.HasRoom escrow := by
  intro owner howner account hfound
  have hescrow := h.keyed.escrow hlive
  have hmem : .userAccount s.registry.programId owner escrow.mint ∈ D := by
    rcases howner with rfl | rfl
    · exact hescrow.claimer_mem
    · exact hescrow.offerer_mem
  exact credit_fits h.keyed h.distinct hlive (h.covers escrow hlive).owed_le hmem hfound

end State.Ready

namespace Settlement

variable {D : Set Derivation} {s s' : State} {hash hash' : Hash} {x : Settlement}

theorem Admitted.opened?_batch (h : x.Admitted s hash) (address : Pubkey) :
    x.batch.opened? address = none := by
  obtain ⟨_, _, _, _, hbatch, -⟩ := h.payments
  rw [hbatch, Escrow.opened?_payments]

theorem Carried.holder? (hx : x.Carried hash s s')
    (hopened : ∀ address, x.batch.opened? address = none) (address : Pubkey) :
    s'.ledger.holder? address = s.ledger.holder? address := by
  rw [Ledger.holder?_steps hx.ledger, hopened, Option.or_none]

theorem Carried.keyed (hx : x.Carried hash s s') (hs : s.registry.Keyed D) :
    s'.registry.Keyed D where
  user {address owner mint} hholder := by
    have hsame : s'.registry.userHolder? address = s.registry.userHolder? address := by
      unfold Registry.userHolder?
      rw [hx.user, Option.map_map]
      refine congrArg (Option.map · _) (funext fun account => ?_)
      show ((x.change _ address account).owner, (x.change _ address account).mint) = _
      rw [Ending.owner_change, Ending.mint_change]
    rw [hx.programId, Registry.userAddress_congr hx.programId]
    exact hs.user (hsame ▸ hholder)
  escrow {key escrow} hlive := by
    rw [Registry.escrow?_of_erase hx.escrows] at hlive
    rw [hx.programId]
    split at hlive
    · cases hlive
    · exact hs.escrow hlive

/-- What is left of the escrow of another hash after a settlement: the escrow itself. -/
theorem Carried.escrow? (hx : x.Carried hash s s') (hne : hash ≠ hash') :
    s'.registry.escrow? hash' = s.registry.escrow? hash' := by
  rw [Registry.escrow?_of_erase hx.escrows, if_neg hne]

/-- The vaults cover what is owed after a settlement, if they did before: what left a vault is not
owed any more. -/
theorem Carried.covers (hx : x.Carried hash s s') (hadmitted : x.Admitted s hash)
    (hs : s.registry.Keyed D) (hD : D.InjOn Derivation.address) {mint : Pubkey}
    (hmem : .vault s.registry.programId mint ∈ D) (h : s.Covers mint) : s'.Covers mint := by
  have hvault : s'.registry.vaultAddress mint = s.registry.vaultAddress mint :=
    Registry.vaultAddress_congr hx.programId mint
  constructor
  · obtain ⟨target, first, second, part, hbatch, -, htarget, -⟩ := hadmitted.payments
    have hsame : s.registry.vaultAddress x.escrow.mint = s.registry.vaultAddress mint ↔
        x.escrow.mint = mint :=
      State.WellFormed.vaultAddress_eq_iff hD hmem (hs.escrow hadmitted.live).vault_mem
    have howed := hx.owed mint
    have hflow := Ledger.tokenBalance_steps hx.ledger (s.registry.vaultAddress mint)
    rw [hbatch, Escrow.tokensFrom_payments] at hflow
    simp only [htarget, hsame] at hflow
    have hle := h.owed_le
    unfold State.vaultBalance at hle ⊢
    rw [hvault]
    -- What left the vault was owed, and is not owed any more.
    omega
  · intro holder hholder
    rw [hvault, hx.holder? hadmitted.opened?_batch] at hholder
    exact h.mint_eq holder hholder

theorem Carried.backed (hx : x.Carried hash s s') (hadmitted : x.Admitted s hash)
    (hs : s.registry.Keyed D) (hD : D.InjOn Derivation.address) (hne : hash ≠ hash')
    (h : s.Backed hash') : s'.Backed hash' := by
  intro escrow hlive
  rw [hx.escrow? hne] at hlive
  obtain ⟨target, first, second, part, hbatch, hpart, -, -⟩ := hadmitted.payments
  have hother : s.registry.escrowAddress hash ≠ s.registry.escrowAddress hash' := by
    intro heq
    have hsame := Registry.escrowAddress_eq_iff hD (hs.escrow hlive).escrow_mem
      (hs.escrow hadmitted.live).escrow_mem
    exact hne (hsame.1 heq)
  have hflow := Ledger.nativeBalance_steps hx.ledger (s.registry.escrowAddress hash')
  rw [hbatch, Escrow.nativesFrom_payments _ _ _ _ _ _ _ hpart, if_neg hother] at hflow
  have hpot := UInt64.le_iff_toNat_le.1 (h escrow hlive)
  rw [Registry.escrowAddress_congr hx.programId, UInt64.le_iff_toNat_le]
  omega

/-- **What another escrow is owed stays there.** -/
theorem Carried.ready (hx : x.Carried hash s s') (hadmitted : x.Admitted s hash)
    (hs : s.Ready D hash') (hne : hash ≠ hash') : s'.Ready D hash' where
  distinct := hs.distinct
  keyed := hx.keyed hs.keyed
  covers escrow hlive := by
    rw [hx.escrow? hne] at hlive
    exact hx.covers hadmitted hs.keyed hs.distinct (hs.keyed.escrow hlive).vault_mem
      (hs.covers escrow hlive)
  backed := hx.backed hadmitted hs.keyed hs.distinct hne hs.backed
  supply mint := by
    rw [Ledger.supply_steps hx.ledger]
    exact hs.supply mint
  nativeSupply := by
    rw [Ledger.nativeSupply_steps hx.ledger]
    exact hs.nativeSupply

/-- A settlement does not change what another one looks at. -/
theorem Carried.alike (hx : x.Carried hash s s') (hadmitted : x.Admitted s hash)
    {r : SettlementRequest} (hne : hash ≠ r.hash)
    (hbuffer : ∀ address, r.buffer? = some address → x.buffer ≠ some address) : r.Alike s s' where
  programId := hx.programId
  escrow := hx.escrow? hne
  user address := by rw [hx.user, Option.isSome_map]
  holder := hx.holder? hadmitted.opened?_batch
  buffer address haddress := by rw [hx.buffer, if_neg (hbuffer address haddress)]

end Settlement

/-! ## Two settlements in either order -/

/-- Two states have the same escrows, user accounts and data buffers, and everybody has as much in
one as in the other. -/
structure State.Agrees (s s' : State) : Prop where
  escrow : ∀ hash, s'.registry.escrow? hash = s.registry.escrow? hash
  user : ∀ address, s'.registry.users.get? address = s.registry.users.get? address
  buffer : ∀ address, s'.registry.buffer? address = s.registry.buffer? address
  token : ∀ address, s'.ledger.tokenAccount? address = s.ledger.tokenAccount? address
  native : ∀ owner, s'.ledger.nativeBalance owner = s.ledger.nativeBalance owner

theorem State.Agrees.refl (s : State) : s.Agrees s :=
  ⟨fun _ => rfl, fun _ => rfl, fun _ => rfl, fun _ => rfl, fun _ => rfl⟩

theorem Ledger.tokenAccount?_congr {l l' : Ledger} {address : Pubkey}
    (hholder : l'.holder? address = l.holder? address)
    (hbalance : l'.tokenBalance address = l.tokenBalance address) :
    l'.tokenAccount? address = l.tokenAccount? address := by
  cases hfound : l.tokenAccount? address with
  | none => exact holder?_eq_none_iff.1 (hholder.trans (holder?_eq_none_iff.2 hfound))
  | some account =>
      obtain ⟨account', hfound', hsame⟩ :=
        holder?_eq_some_iff.1 (hholder.trans (holder?_eq_some_iff.2 ⟨account, hfound, rfl⟩))
      rw [tokenBalance_of_tokenAccount? hfound, tokenBalance_of_tokenAccount? hfound'] at hbalance
      rw [hfound']
      have hsame' : account' = account :=
        calc account'
            = { account'.emptied with amount := account'.amount } := rfl
          _ = { account.emptied with amount := account.amount } := by rw [hsame, hbalance]
          _ = account := rfl
      rw [hsame']

/-- **Two settlements commute**: each adds and takes the same, whichever comes first. -/
theorem Settlement.Carried.agrees {x y : Settlement} {hash hash' : Hash}
    {s one two both both' : State} (hx : x.Carried hash s one) (hy : y.Carried hash' s two)
    (hxy : y.Carried hash' one both) (hyx : x.Carried hash two both')
    (hopened : ∀ address, x.batch.opened? address = none)
    (hopened' : ∀ address, y.batch.opened? address = none) : both.Agrees both' where
  escrow key := by
    rw [Registry.escrow?_of_erase hyx.escrows, Registry.escrow?_of_erase hy.escrows,
      Registry.escrow?_of_erase hxy.escrows, Registry.escrow?_of_erase hx.escrows]
    split <;> split <;> rfl
  -- Each settlement makes its own change of an account, and two of these changes commute.
  user address := by
    rw [hyx.user, hy.user, hxy.user, hx.user, Option.map_map, Option.map_map, hy.programId,
      hx.programId]
    exact congrArg (Option.map · _) (funext fun account => Ending.change_comm ..)
  buffer address := by
    rw [hyx.buffer, hy.buffer, hxy.buffer, hx.buffer]
    split <;> split <;> rfl
  token address := by
    refine Ledger.tokenAccount?_congr ?_ (UInt64.toNat_inj.1 ?_)
    · rw [hyx.holder? hopened, hy.holder? hopened', hxy.holder? hopened', hx.holder? hopened]
    · -- Four equations for one address. The sums of what was taken and brought are the same on
      -- both ways, so the balances are.
      have hone := Ledger.tokenBalance_steps hx.ledger address
      have htwo := Ledger.tokenBalance_steps hy.ledger address
      have hboth := Ledger.tokenBalance_steps hxy.ledger address
      have hboth' := Ledger.tokenBalance_steps hyx.ledger address
      omega
  native owner := by
    have hone := Ledger.nativeBalance_steps hx.ledger owner
    have htwo := Ledger.nativeBalance_steps hy.ledger owner
    have hboth := Ledger.nativeBalance_steps hxy.ledger owner
    have hboth' := Ledger.nativeBalance_steps hyx.ledger owner
    refine UInt64.toNat_inj.1 ?_
    omega

namespace Engine

section

variable {D : Set Derivation} {engine later : Engine} {r first second : SettlementRequest}

/-- Where everything that is owed is there, an admitted settlement is carried out. -/
theorem perform_of_settlement (h : engine.state.Ready D r.hash) {x : Settlement}
    (hx : r.settlement engine.env engine.state = .ok x) :
    (engine.perform r.request).1 = .ok (.event x.event) ∧
      x.Carried r.hash engine.state (engine.perform r.request).2.state := by
  have hadmits := SettlementRequest.admits_of_settlement hx
  have hadmitted := hadmits.admitted
  obtain ⟨ledger, hsteps⟩ := hadmitted.exists_steps (h.covers x.escrow hadmitted.live) h.backed
    (h.supply x.escrow.mint) h.nativeSupply
  exact perform_of_admits h.keyed h.distinct hadmits hsteps

/-- The answer to a settlement depends on nothing but what it amounts to. -/
theorem perform_congr (h : engine.state.Ready D r.hash) (h' : later.state.Ready D r.hash)
    (hsame : r.settlement later.env later.state = r.settlement engine.env engine.state) :
    (later.perform r.request).1 = (engine.perform r.request).1 := by
  cases hx : r.settlement engine.env engine.state with
  | error e =>
      rw [perform_of_settlement_error hx, perform_of_settlement_error (hsame.trans hx)]
  | ok x =>
      rw [(perform_of_settlement h hx).1, (perform_of_settlement h' (hsame.trans hx)).1]

/-- **A settlement is admitted after another one if it was before**, and amounts to the same. -/
theorem settlement_later (hfirst : engine.state.Ready D first.hash)
    (hsecond : engine.state.Ready D second.hash) (hne : first.hash ≠ second.hash)
    (hbuffer : ∀ address, second.buffer? = some address → first.buffer? ≠ some address) :
    let later := (engine.perform first.request).2
    later.state.Ready D second.hash ∧
      second.settlement later.env later.state = second.settlement engine.env engine.state := by
  intro later
  -- A refused settlement has changed nothing. An accepted one has changed nothing that the second
  -- looks at.
  cases hx : first.settlement engine.env engine.state with
  | error e =>
      have hlater : later = engine := congrArg Prod.snd (perform_of_settlement_error hx)
      rw [hlater]
      exact ⟨hsecond, rfl⟩
  | ok x =>
      have hadmits := SettlementRequest.admits_of_settlement hx
      have hcarried := (perform_of_settlement hfirst hx).2
      have hready : later.state.Ready D second.hash :=
        hcarried.ready hadmits.admitted hsecond hne
      have halike : second.Alike engine.state later.state :=
        hcarried.alike hadmits.admitted hne fun address hnamed hused =>
          hbuffer address hnamed (hadmits.buffer? hused)
      -- The clock and the configuration stay, so the requests are evaluated alike.
      have henv : later.env = engine.env :=
        congrArg₂ Env.mk (config_step engine (.request first.request))
          (now_step engine (.request first.request))
      rw [henv]
      refine ⟨hready, SettlementRequest.settlement_congr halike engine.env fun escrow hlive => ?_⟩
      exact ⟨hsecond.hasRoom hlive, hready.hasRoom (halike.escrow.trans hlive)⟩

/-- **Settlements of different escrows may come in either order.** -/
theorem perform_comm (hfirst : engine.state.Ready D first.hash)
    (hsecond : engine.state.Ready D second.hash) (hne : first.hash ≠ second.hash)
    (hbuffer : ∀ address, first.buffer? = some address → second.buffer? ≠ some address) :
    let one := engine.perform first.request
    let two := engine.perform second.request
    (one.2.perform second.request).1 = two.1 ∧ (two.2.perform first.request).1 = one.1 ∧
      (one.2.perform second.request).2.state.Agrees (two.2.perform first.request).2.state := by
  intro one two
  obtain ⟨hready, hlater⟩ := settlement_later hfirst hsecond hne
    fun address hsecond hfirst => hbuffer address hfirst hsecond
  obtain ⟨hready', hlater'⟩ := settlement_later hsecond hfirst hne.symm hbuffer
  refine ⟨perform_congr hsecond hready hlater, perform_congr hfirst hready' hlater', ?_⟩
  cases hx : first.settlement engine.env engine.state with
  | error e =>
      -- A refused request changes nothing, before the other one and after it.
      have hone : one.2 = engine := congrArg Prod.snd (perform_of_settlement_error hx)
      rw [perform_of_settlement_error (hlater'.trans hx), hone]
      exact .refl _
  | ok x =>
      cases hy : second.settlement engine.env engine.state with
      | error e =>
          have htwo : two.2 = engine := congrArg Prod.snd (perform_of_settlement_error hy)
          rw [perform_of_settlement_error (hlater.trans hy), htwo]
          exact .refl _
      | ok y =>
          exact (perform_of_settlement hfirst hx).2.agrees (perform_of_settlement hsecond hy).2
            (perform_of_settlement hready (hlater.trans hy)).2
            (perform_of_settlement hready' (hlater'.trans hx)).2
            (SettlementRequest.admits_of_settlement hx).admitted.opened?_batch
            (SettlementRequest.admits_of_settlement hy).admitted.opened?_batch

end

/-! ## Histories -/

/-- After every history in which the authority of the vaults signs nothing and the address of no
live escrow is a claimer, what a live escrow is owed is there. -/
theorem covers_and_backed_run {D : Set Derivation} {engine : Engine} {steps : List Step}
    (h : engine.Tame D steps)
    (hnew : engine.state.registry = .empty engine.state.registry.programId)
    (hauthority : ∀ step ∈ steps, step.WithoutAuthority engine.state.registry.vaultAuthority)
    {hash : Hash} (hclaimer : ∀ step ∈ steps,
      step.WithoutClaimer (engine.state.registry.escrowAddress hash))
    {escrow : Escrow} (hlive : (engine.run steps).state.registry.escrow? hash = some escrow) :
    (engine.run steps).state.Covers escrow.mint ∧ (engine.run steps).state.Backed hash := by
  have hs := h.wellFormed_run
  have hvault := (hs.escrow hlive).vault_mem
  refine ⟨⟨covered_run h hnew hauthority (programId_run engine steps ▸ hvault), ?_⟩,
    backed_run h hclaimer fun escrow hfirst => ?_⟩
  · intro holder hholder
    obtain ⟨account, haccount, rfl⟩ := Ledger.holder?_eq_some_iff.1 hholder
    exact (hs.vault h.distinct hvault haccount).1
  · rw [hnew] at hfirst
    cases hfirst

/-- **Settlements of different escrows are independent of order.** Take a state that the program
reaches, with no two of the addresses that occur the same. What the live escrows are owed is there,
unless value was moved past the program, the authority of the vaults signed something or the address
of an escrow was a claimer. If it is there, and what there is of every mint and of native funds fits
in a word, then two settlements of different escrows that do not name the same data buffer are
answered alike in either order, and end in states that agree. -/
theorem settlements_independent (config : Config) (now : UInt64) (steps : List Step)
    (hdistinct : Set.InjOn Derivation.address {d | d ∈ derivations config.programId 0 steps}) :
    let engine := (Engine.new config now .empty).run steps
    let state := engine.state
    ((∀ batch, .applyBatch batch ∉ steps) →
      (∀ step ∈ steps,
        step.WithoutAuthority (Derivation.vaultAuthority config.programId).address) →
      (∀ hash escrow, state.registry.escrow? hash = some escrow → ∀ step ∈ steps,
        step.WithoutClaimer (Derivation.escrow config.programId hash).address) →
      ∀ hash escrow, state.registry.escrow? hash = some escrow →
        state.Covers escrow.mint ∧ state.Backed hash) ∧
    ((∀ hash escrow, state.registry.escrow? hash = some escrow →
        state.Covers escrow.mint ∧ state.Backed hash) →
      (∀ mint, state.ledger.supply mint < UInt64.size) →
      state.ledger.nativeSupply < UInt64.size →
      ∀ first second : SettlementRequest, first.hash ≠ second.hash →
        (∀ address, first.buffer? = some address → second.buffer? ≠ some address) →
        let one := engine.perform first.request
        let two := engine.perform second.request
        (one.2.perform second.request).1 = two.1 ∧ (two.2.perform first.request).1 = one.1 ∧
          (one.2.perform second.request).2.state.Agrees
            (two.2.perform first.request).2.state) := by
  intro engine state
  constructor
  · intro hbatch hauthority hclaimer hash escrow hlive
    exact covers_and_backed_run (.new config now hdistinct hbatch fun _ hd => hd) rfl hauthority
      (hclaimer hash escrow hlive) hlive
  · intro howed hsupply hnative first second hne hbuffer
    have hapart : (Engine.new config now .empty).Apart
        {d | d ∈ derivations config.programId 0 steps} steps :=
      .new config now .empty hdistinct fun _ hd => hd
    have hready (hash : Hash) :
        state.Ready {d | d ∈ derivations config.programId 0 steps} hash :=
      ⟨hdistinct, hapart.keyed_run, fun escrow hlive => (howed hash escrow hlive).1,
        fun escrow hlive => (howed hash escrow hlive).2 escrow hlive, hsupply, hnative⟩
    exact perform_comm (hready first.hash) (hready second.hash) hne hbuffer

/-! ## Two refunds into one account -/

/-- The history of two escrows of one owner, who locks a token in each. -/
def twoLocks (program owner mint : Pubkey) (hash hash' : Hash) : List Step :=
  fundedOwner program owner mint ++ [lockToken program owner mint owner hash] ++
    [lockToken program owner mint owner hash']

theorem run_twoLocks (config : Config) (owner mint : Pubkey) {hash hash' : Hash}
    (hdifferent : hash ≠ hash')
    (hne : (Derivation.tokenAccount owner mint 1).address ≠
      (Derivation.vault config.programId mint).address) :
    let engine := (Engine.new config 0 .empty).run
      (twoLocks config.programId owner mint hash hash')
    (∀ key escrow, engine.state.registry.escrow? key = some escrow → hash = key ∨ hash' = key) ∧
      ∀ key, hash = key ∨ hash' = key →
        engine.Accepts (.refund (refundWithConsent config owner mint owner key 1)) := by
  unfold twoLocks
  simp only [run_append]
  obtain ⟨hready, hfree, -⟩ := run_fundedOwner config owner mint hne
  have hconfig := config_run (Engine.new config 0 .empty) (fundedOwner config.programId owner mint)
  -- All that matters of the beginning is that two tokens are in the balance and nothing is locked.
  generalize (Engine.new config 0 .empty).run
    (fundedOwner config.programId owner mint) = engine at *
  let locked := engine.step (lockToken config.programId owner mint owner hash)
  let twice := locked.step (lockToken config.programId owner mint owner hash')
  obtain ⟨hlocked, hescrows⟩ := step_lockToken owner hready (hfree hash)
  have hfree' : locked.state.registry.escrow? hash' = none := by
    rw [hescrows, if_neg hdifferent, hfree]
  obtain ⟨htwice, hescrows'⟩ := step_lockToken owner hlocked hfree'
  have hlive (key : Hash) : twice.state.registry.escrow? key =
      if hash' = key then some (escrowWithDeposit owner mint owner hash' 0)
      else if hash = key then some (escrowWithDeposit owner mint owner hash 0) else none := by
    rw [hescrows', hescrows, hfree]
  have hconfig' : twice.config = config :=
    calc twice.config
        = locked.config := config_step ..
      _ = engine.config := config_step ..
      _ = config := hconfig
  have haccepts (key : Hash) (hkey : twice.state.registry.escrow? key =
      some (escrowWithDeposit owner mint owner key 0)) :
      twice.Accepts (.refund (refundWithConsent config owner mint owner key 1)) :=
    (step_refundWithConsent hconfig' htwice (by decide) hkey UInt64.zero_lt_one).1
  constructor
  · intro key escrow hescrow
    by_contra hother
    rw [not_or] at hother
    rw [hlive, if_neg hother.2, if_neg hother.1] at hescrow
    cases hescrow
  · rintro key (rfl | rfl)
    · exact haccepts hash (by rw [hlive, if_neg hdifferent.symm, if_pos rfl])
    · exact haccepts hash' (by rw [hlive, if_pos rfl])

theorem someOwner_ne_otherPotAddress :
    someOwner ≠ (Derivation.escrow Config.standard.programId (.replicate 4)).address := by
  decide +kernel

/-- Both refunds go to one account. They are accepted in either order, and end alike. -/
theorem settlements_independent_of_twoLocks :
    let engine := (Engine.new .standard 0 .empty).run
      (twoLocks Config.standard.programId someOwner someMint (.replicate 3) (.replicate 4))
    let first : SettlementRequest :=
      .refund (refundWithConsent .standard someOwner someMint someOwner (.replicate 3) 1)
    let second : SettlementRequest :=
      .refund (refundWithConsent .standard someOwner someMint someOwner (.replicate 4) 1)
    let one := engine.perform first.request
    let two := engine.perform second.request
    (∃ reply reply', one.1 = .ok reply ∧ two.1 = .ok reply' ∧
        (one.2.perform second.request).1 = .ok reply' ∧
        (two.2.perform first.request).1 = .ok reply) ∧
      (one.2.perform second.request).2.state.Agrees (two.2.perform first.request).2.state := by
  obtain ⟨hlive, haccepts⟩ := run_twoLocks .standard someOwner someMint
    (show (Bytes32.replicate 3 : Hash) ≠ .replicate 4 by decide) someAccount_ne_vault
  obtain ⟨hbacked, hindependent⟩ := settlements_independent .standard 0
    (twoLocks Config.standard.programId someOwner someMint (.replicate 3) (.replicate 4))
    (injOn_of_nodup nodup_potDerivations (by
      simp [twoLocks, lockToken, fundedOwner, fundedDeposit, lockWithDeposit, tokenTerms,
        derivations, Step.derivations, Request.derivations, potDerivations, someDerivations]))
  have howed := hbacked (by simp [twoLocks, lockToken, fundedOwner, fundedDeposit])
    (by
      simp [twoLocks, lockToken, fundedOwner, fundedDeposit, lockWithDeposit,
        Step.WithoutAuthority, someOwner_ne_vaultAuthority])
    (by
      intro hash escrow hescrow
      rcases hlive hash escrow hescrow with rfl | rfl
      · simp [twoLocks, lockToken, fundedOwner, fundedDeposit, lockWithDeposit,
          Step.WithoutClaimer, someOwner_ne_potAddress]
      · simp [twoLocks, lockToken, fundedOwner, fundedDeposit, lockWithDeposit,
          Step.WithoutClaimer, someOwner_ne_otherPotAddress])
  -- Two tokens were minted and five native funds made, so everything fits in a word.
  have hsupply (mint : Pubkey) : ((Engine.new .standard 0 .empty).run
      (twoLocks Config.standard.programId someOwner someMint (.replicate 3)
        (.replicate 4))).state.ledger.supply mint < UInt64.size :=
    Nat.lt_of_le_of_lt (supply_run_le _ _ mint) (show 0 + 2 < UInt64.size by decide)
  have hnative : ((Engine.new .standard 0 .empty).run
      (twoLocks Config.standard.programId someOwner someMint (.replicate 3)
        (.replicate 4))).state.ledger.nativeSupply < UInt64.size :=
    Nat.lt_of_le_of_lt (nativeSupply_run_le _ _) (show 0 + 5 < UInt64.size by decide)
  obtain ⟨hsecond, hfirst, hagrees⟩ := hindependent howed hsupply hnative
    (.refund (refundWithConsent .standard someOwner someMint someOwner (.replicate 3) 1))
    (.refund (refundWithConsent .standard someOwner someMint someOwner (.replicate 4) 1))
    (show (Bytes32.replicate 3 : Hash) ≠ .replicate 4 by decide) (fun address h => by cases h)
  obtain ⟨reply, hone⟩ := haccepts (.replicate 3) (.inl rfl)
  obtain ⟨reply', htwo⟩ := haccepts (.replicate 4) (.inr rfl)
  exact ⟨⟨reply, reply', hone, htwo, hsecond.trans htwo, hfirst.trans hone⟩, hagrees⟩

end Engine

end AtomicEscrow
