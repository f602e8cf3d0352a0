import AtomicEscrow.Proofs.Staging

set_option autoImplicit false

/-! # Whose a data buffer is

A data buffer is at an address that everybody knows, and everybody can name it. It is used by those
requests that write into it, close it or claim with it, and all of these are refused unless its
owner signed them (`Request.uses_of_effect`); what is opened at its address is refused as well. So a
buffer stays as it is until its owner uses it, however long that takes and whatever happens in
between (`Engine.buffer?_run_of_unused`). Where the owner writes, the bytes in the range of the
write are the ones that are written and all others stay (`getElem?_splice`).
-/

namespace AtomicEscrow

/-! ## Use -/

/-- A request that is signed by an owner uses the data buffer at an address. -/
def Request.Uses (owner address : Pubkey) : Request → Prop
  | claim req => req.signer = owner ∧ req.secret.address? = some address
  | writeBuffer req => req.signer = owner ∧ req.address = address
  | closeBuffer signer named => signer = owner ∧ named = address
  | _ => False

/-- A step in which the owner uses the data buffer at an address. -/
def Step.Uses (owner address : Pubkey) : Step → Prop
  | request made => made.Uses owner address
  | _ => False

/-- **Only its owner uses a buffer**: a request that is admitted and names a buffer that is there is
a use of its owner. -/
theorem Request.uses_of_effect {env : Env} {s : State} {request : Request} {effect : Effect Reply}
    {address : Pubkey} {buffer : DataBuffer} (h : request.effect env s = .ok effect)
    (hfound : s.registry.buffer? address = some buffer)
    (hnamed : request.buffer? = some address) : request.Uses buffer.owner address := by
  have howner {signer : Pubkey} {found : DataBuffer}
      (hown : s.registry.ownBuffer address signer = .ok found) : signer = buffer.owner := by
    obtain ⟨hsame, hsigner⟩ := Registry.ownBuffer_eq_ok_iff.1 hown
    rw [hfound] at hsame
    cases hsame
    exact hsigner.symm
  -- Of the eight requests, three name a buffer that may exist; each of them asks for its owner
  -- first.
  cases admitted_of_effect h with
  | lock | refund | deposit | withdraw => cases hnamed
  | @claim req plan hplan =>
      obtain ⟨_, _, _, _, _, -, -, -, -, -, hread, -, -⟩ := ClaimRequest.plan_eq_ok_iff.1 hplan
      refine ⟨?_, hnamed⟩
      rcases ClaimRequest.readSecret_eq_ok_iff.1 hread with
        ⟨hinline, -⟩ | ⟨staged, found, hstaged, hthere, hsigner, -, -⟩
      · rw [Request.buffer?, hinline] at hnamed
        cases hnamed
      · rw [Request.buffer?, hstaged] at hnamed
        cases hnamed
        exact howner (Registry.ownBuffer_eq_ok_iff.2 ⟨hthere, hsigner⟩)
  | openBuffer hfree =>
      cases hnamed
      rw [hfound] at hfree
      cases hfree
  | writeBuffer hplan =>
      cases hnamed
      obtain ⟨_, hown, -⟩ := bind_eq_ok_iff.1 hplan
      exact ⟨howner hown, rfl⟩
  | closeBuffer hown =>
      cases hnamed
      exact ⟨howner hown, rfl⟩

/-! ## Histories without use -/

namespace Engine

variable {engine : Engine} {owner address : Pubkey} {data : Bytes}

/-- A step that is no use of its owner leaves a buffer as it is, also if it names it. -/
theorem buffer?_step_of_unused {step : Step}
    (hfound : engine.state.registry.buffer? address = some ⟨owner, data⟩)
    (hunused : ¬step.Uses owner address) :
    (engine.step step).state.registry.buffer? address = some ⟨owner, data⟩ := by
  by_cases hnamed : step.buffer? = some address
  · -- Whatever names the buffer and is admitted is a use, so the step was refused.
    rcases engine.step_cases step with
      ⟨h, -⟩ | ⟨request, effect, ledger, rfl, heffect, -, -⟩ | ⟨ledger, -, h, -⟩
    · rw [h, hfound]
    · exact absurd (Request.uses_of_effect heffect hfound hnamed) hunused
    · rw [h, hfound]
  · rw [buffer?_step hnamed, hfound]

/-- A history in which its owner does not use it leaves a buffer as it is. -/
theorem buffer?_run_of_unused {steps : List Step}
    (hfound : engine.state.registry.buffer? address = some ⟨owner, data⟩)
    (hunused : ∀ step ∈ steps, ¬step.Uses owner address) :
    (engine.run steps).state.registry.buffer? address = some ⟨owner, data⟩ := by
  induction steps generalizing engine with
  | nil => exact hfound
  | cons step rest ih =>
      rw [List.forall_mem_cons] at hunused
      exact ih (buffer?_step_of_unused hfound hunused.1) hunused.2

end Engine

/-! ## Writes -/

/-- A write changes the bytes in its range and no others. -/
theorem getElem?_splice {data : Bytes} {start : Nat} (h : start ≤ data.length) (bytes : Bytes)
    (i : Nat) :
    (splice data start bytes)[i]? =
      if start ≤ i ∧ i < start + bytes.length then bytes[i - start]? else data[i]? := by
  have htake : (data.take start).length = start := List.length_take_of_le h
  rw [splice_eq h, List.append_assoc]
  -- The three parts are before, in and after the range.
  by_cases hbefore : i < start
  · rw [List.getElem?_append_left (htake.symm ▸ hbefore), List.getElem?_take, if_pos hbefore,
      if_neg fun hin => Nat.not_lt.2 hin.1 hbefore]
  · rw [List.getElem?_append_right (htake.symm ▸ Nat.le_of_not_lt hbefore), htake]
    by_cases hin : i < start + bytes.length
    · have hplace : i - start < bytes.length := by omega
      rw [List.getElem?_append_left hplace, if_pos ⟨Nat.le_of_not_lt hbefore, hin⟩]
    · have hplace : bytes.length ≤ i - start := by omega
      have hafter : start + bytes.length + (i - start - bytes.length) = i := by omega
      rw [List.getElem?_append_right hplace, List.getElem?_drop, hafter,
        if_neg fun h => hin h.2]

namespace Engine

/-- **A buffer is its owner's.** A data buffer stays, with its owner and its bytes, in every history
in which the owner does not write into it, close it or claim with it. A write of the owner is
accepted iff it starts in the buffer or at its end and does not end past all positions; it puts the
bytes in the place of those in its range, makes the buffer as long as need be, and changes nothing
else. -/
theorem buffer_of_owner (engine : Engine) (owner address : Pubkey) (data : Bytes)
    (hfound : engine.state.registry.buffer? address = some ⟨owner, data⟩) :
    (∀ steps : List Step, (∀ step ∈ steps, ¬step.Uses owner address) →
      (engine.run steps).state.registry.buffer? address = some ⟨owner, data⟩) ∧
    ∀ (start : UInt64) (bytes : Bytes),
      let stop := start.toNat + bytes.length
      let contents := data.take start.toNat ++ bytes ++ data.drop stop
      let write := engine.perform (.writeBuffer ⟨owner, address, start, bytes⟩)
      ((∃ reply, write.1 = .ok reply) ↔ start.toNat ≤ data.length ∧ stop < UInt64.size) ∧
      (start.toNat ≤ data.length → stop < UInt64.size →
        write = (.ok (.length contents.length), engine.withBuffer address ⟨owner, contents⟩) ∧
        write.2.state.registry.buffer? address = some ⟨owner, contents⟩ ∧
        contents.length = max data.length stop) := by
  refine ⟨fun steps hunused => buffer?_run_of_unused hfound hunused, fun start bytes => ?_⟩
  intro stop contents write
  -- The accepted write comes first: the equivalence below takes its reply from it.
  have haccepted (hstart : start.toNat ≤ data.length) (hrange : stop < UInt64.size) :
      write = (.ok (.length contents.length), engine.withBuffer address ⟨owner, contents⟩) ∧
        write.2.state.registry.buffer? address = some ⟨owner, contents⟩ ∧
        contents.length = max data.length stop := by
    have hcontents : splice data start.toNat bytes = contents := splice_eq hstart bytes
    have hlength : contents.length = max data.length stop :=
      hcontents ▸ length_splice hstart bytes
    have hwrite : write =
        (.ok (.length contents.length), engine.withBuffer address ⟨owner, contents⟩) := by
      have hperform := perform_writeBuffer hfound start bytes
      rw [if_neg (Nat.not_lt.2 hstart), if_neg (Nat.not_le.2 hrange), hcontents] at hperform
      rw [hlength]
      exact hperform
    refine ⟨hwrite, ?_, hlength⟩
    rw [hwrite]
    exact Registry.buffer?_putBuffer ..
  refine ⟨⟨?_, ?_⟩, haccepted⟩
  · rintro ⟨reply, hreply⟩
    have hperform : write = _ := perform_writeBuffer hfound start bytes
    rw [hperform] at hreply
    -- Two refusals come before the acceptance.
    by_cases hstart : data.length < start.toNat
    · rw [if_pos hstart] at hreply
      cases hreply
    · by_cases hrange : UInt64.size ≤ start.toNat + bytes.length
      · rw [if_neg hstart, if_pos hrange] at hreply
        cases hreply
      · exact ⟨Nat.le_of_not_lt hstart, Nat.lt_of_not_le hrange⟩
  · rintro ⟨hstart, hrange⟩
    exact ⟨_, congrArg Prod.fst (haccepted hstart hrange).1⟩

/-- A stranger tries everything with a buffer of three bytes, and in vain. Then its owner writes
over its end. -/
theorem buffer_of_owner_against_stranger :
    let owner : Pubkey := ⟨.replicate 1⟩
    let stranger : Pubkey := ⟨.replicate 2⟩
    let address : Pubkey := ⟨.replicate 3⟩
    let registry := (Registry.empty owner).putBuffer address ⟨owner, [7, 8, 9]⟩
    let engine := Engine.ofState .standard 0 ⟨registry, .empty⟩
    let claim : ClaimRequest := ⟨.replicate 4, stranger, stranger, stranger, .internal stranger,
      .buffer address, .empty⟩
    let vain : List Step := [
      .request (.openBuffer stranger address), .request (.closeBuffer stranger address),
      .request (.writeBuffer ⟨stranger, address, 0, [0]⟩), .request (.claim claim)]
    (engine.run vain).state.registry.buffer? address = some ⟨owner, [7, 8, 9]⟩ ∧
      (engine.perform (.writeBuffer ⟨owner, address, 2, [1, 2]⟩)).1 = .ok (.length 4) ∧
      (engine.perform (.writeBuffer ⟨owner, address, 2, [1, 2]⟩)).2.state.registry.buffer?
        address = some ⟨owner, [7, 8, 1, 2]⟩ := by
  intro owner stranger address registry engine claim vain
  have hfound : engine.state.registry.buffer? address = some ⟨owner, [7, 8, 9]⟩ :=
    Registry.buffer?_putBuffer ..
  have hstranger : stranger ≠ owner := by decide
  have hunused : ∀ step ∈ vain, ¬step.Uses owner address := by
    simp [vain, claim, Step.Uses, Request.Uses, hstranger]
  obtain ⟨hkept, hwrite⟩ := buffer_of_owner engine owner address [7, 8, 9] hfound
  obtain ⟨hanswer, hcontents, -⟩ := (hwrite 2 [1, 2]).2 (by decide) (by decide)
  exact ⟨hkept vain hunused, congrArg Prod.fst hanswer, hcontents⟩

end Engine

end AtomicEscrow
