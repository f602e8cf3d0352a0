import AtomicEscrow.Proofs.WellFormed

set_option autoImplicit false

/-! # Addresses that stay apart

That every record lies where it belongs (`Registry.Keyed`) does not depend on the ledger. So it
holds after every history in which no two of the addresses that occur are the same
(`Engine.Apart`), also after one that starts from a filled ledger or moves value past the program.
-/

namespace AtomicEscrow

variable {D : Set Derivation}

theorem Registry.Keyed.empty (D : Set Derivation) (program : Pubkey) :
    (Registry.empty program).Keyed D where
  user h := by cases h
  escrow h := by cases h

/-- **An accepted request keeps the records where they belong.** -/
theorem Registry.Keyed.request {env : Env} {s : State} (hs : s.registry.Keyed D)
    {request : Request} {effect : Effect Reply} (heffect : request.effect env s = .ok effect)
    (hmem : ∀ d ∈ request.derivations s.registry.programId, d ∈ D) :
    effect.registry.Keyed D where
  user {address owner mint} hholder := by
    rw [Request.programId_effect heffect, userAddress_congr (Request.programId_effect heffect)]
    rcases Request.userHolder?_effect heffect address with hsame |
      ⟨owner', mint', hderived, haddress, hopened⟩
    · rw [hsame] at hholder
      exact hs.user hholder
    · rw [hopened] at hholder
      cases hholder
      exact ⟨hmem _ hderived, haddress⟩
  escrow {hash escrow} hlive := by
    rw [Request.programId_effect heffect]
    rcases Request.escrow?_effect heffect hlive with hold | ⟨req, plan, rfl, hplan, rfl, rfl⟩
    · exact hs.escrow hold
    · exact (LockRequest.escrow_wellFormed hplan hmem).keyed

namespace Engine

variable {engine : Engine} {step : Step} {steps : List Step}

theorem keyed_step (hs : engine.state.registry.Keyed D)
    (hmem : ∀ d ∈ step.derivations engine.state.registry.programId engine.state.ledger.created,
      d ∈ D) : (engine.step step).state.registry.Keyed D := by
  rcases engine.step_cases step with ⟨hstate, -⟩ |
    ⟨request, effect, ledger, rfl, heffect, -, hstate, -⟩ | ⟨ledger, -, hstate, -⟩
  · rw [hstate]
    exact hs
  · rw [hstate]
    exact hs.request heffect hmem
  · rw [hstate]
    exact hs

/-- A history that starts with every record where it belongs, and keeps to addresses of which no
two are the same. -/
structure Apart (D : Set Derivation) (engine : Engine) (steps : List Step) : Prop where
  distinct : D.InjOn Derivation.address
  keyed : engine.state.registry.Keyed D
  derived : ∀ d ∈ derivations engine.state.registry.programId engine.state.ledger.created steps,
    d ∈ D

namespace Apart

theorem new (config : Config) (now : UInt64) (ledger : Ledger) (hD : D.InjOn Derivation.address)
    (hmem : ∀ d ∈ derivations config.programId ledger.created steps, d ∈ D) :
    (Engine.new config now ledger).Apart D steps :=
  ⟨hD, .empty D config.programId, hmem⟩

theorem tail (h : engine.Apart D (step :: steps)) : (engine.step step).Apart D steps where
  distinct := h.distinct
  keyed := keyed_step h.keyed fun d hd => h.derived d (List.mem_append_left _ hd)
  derived d hd := by
    rw [programId_step, created_step] at hd
    exact h.derived d (List.mem_append_right _ hd)

/-- **Histories keep every record where it belongs.** -/
theorem keyed_run (h : engine.Apart D steps) : (engine.run steps).state.registry.Keyed D := by
  induction steps generalizing engine with
  | nil => exact h.keyed
  | cons step rest ih =>
      rw [run_cons]
      exact ih h.tail

end Apart

end Engine

end AtomicEscrow
