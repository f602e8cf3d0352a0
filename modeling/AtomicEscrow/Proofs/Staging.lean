import AtomicEscrow.Proofs.Distribution

set_option autoImplicit false

/-! # Staged proofs

A proof that is too long for one request is cut into chunks, which are written into a data buffer
one after the other. Each write starts at the end of what is there and so appends to it; in the
end the buffer holds the proof. A claim that names the buffer then has the very effect of the claim
that carries the proof (`ClaimRequest.effect_staged`): the two read the same secret, everything
else they look at is no data buffer, and the one record more that staging left is the one that the
claim uses up.
-/

namespace AtomicEscrow

/-! ## Requests that stage -/

/-- The requests that write chunks into a buffer one after the other, the first from a position
on. -/
def writeRequests (signer address : Pubkey) (start : Nat) : List Bytes → List Request
  | [] => []
  | chunk :: rest =>
      .writeBuffer ⟨signer, address, .ofNat start, chunk⟩ ::
        writeRequests signer address (start + chunk.length) rest

/-- The requests that stage a proof, given in chunks, in a new buffer. -/
def stageRequests (signer address : Pubkey) (chunks : List Bytes) : List Request :=
  .openBuffer signer address :: writeRequests signer address 0 chunks

/-- How long a buffer is after each chunk. -/
def runningLengths (start : Nat) : List Bytes → List Nat
  | [] => []
  | chunk :: rest => (start + chunk.length) :: runningLengths (start + chunk.length) rest

def State.withBuffer (s : State) (address : Pubkey) (buffer : DataBuffer) : State :=
  { s with registry := s.registry.putBuffer address buffer }

def Engine.withBuffer (engine : Engine) (address : Pubkey) (buffer : DataBuffer) : Engine :=
  { engine with state := engine.state.withBuffer address buffer }

namespace Registry

variable (r : Registry) (address : Pubkey) (buffer buffer' : DataBuffer)

theorem buffer?_putBuffer : (r.putBuffer address buffer).buffer? address = some buffer :=
  Table.get?_insert_self ..

theorem putBuffer_putBuffer :
    (r.putBuffer address buffer).putBuffer address buffer' = r.putBuffer address buffer' := by
  unfold putBuffer
  rw [Table.insert_insert]

variable {r address} in
theorem removeBuffer_putBuffer (hfree : r.buffer? address = none) :
    (r.putBuffer address buffer).removeBuffer address = r := by
  unfold putBuffer removeBuffer
  rw [Table.erase_insert, Table.erase_of_get?_eq_none hfree]

theorem changeUser_putBuffer (owner mint : Pubkey) (change : UserAccount → UserAccount) :
    (r.putBuffer address buffer).changeUser owner mint change =
      (r.changeUser owner mint change).putBuffer address buffer := by
  have huser : (r.putBuffer address buffer).user? owner mint = r.user? owner mint := rfl
  unfold changeUser
  rw [huser]
  cases r.user? owner mint <;> rfl

end Registry

/-! ## Buffers that a history is not about -/

def Request.buffer? : Request → Option Pubkey
  | claim req => req.secret.address?
  | openBuffer _ address => some address
  | writeBuffer req => some req.address
  | closeBuffer _ address => some address
  | _ => none

def Step.buffer? : Step → Option Pubkey
  | request made => made.buffer?
  | _ => none

theorem Request.buffer?_effect {env : Env} {s : State} {request : Request} {effect : Effect Reply}
    {address : Pubkey} (h : request.effect env s = .ok effect)
    (hother : request.buffer? ≠ some address) :
    effect.registry.buffer? address = s.registry.buffer? address := by
  unfold Registry.buffer?
  -- Besides the buffer requests, only a claim whose secret was staged touches the buffers.
  cases admitted_of_effect h with
  | lock => exact congrArg (Table.get? · address) (LockRequest.buffers_commit ..)
  | @claim req plan hplan =>
      obtain ⟨_, _, _, _, _, -, -, -, -, -, hread, -, rfl⟩ := ClaimRequest.plan_eq_ok_iff.1 hplan
      obtain ⟨rfl, -⟩ := ClaimRequest.buffer_of_readSecret hread
      exact (ClaimPlan.buffer?_commit ..).trans (if_neg hother)
  | refund => exact congrArg (Table.get? · address) (RefundPlan.buffers_commit ..)
  | deposit => rfl
  | withdraw => exact congrArg (Table.get? · address) (Registry.buffers_changeUser ..)
  | openBuffer => exact Table.get?_insert_ne _ _ fun h => hother (congrArg some h)
  | writeBuffer => exact Table.get?_insert_ne _ _ fun h => hother (congrArg some h)
  | closeBuffer => exact (Table.get?_erase ..).trans (if_neg fun h => hother (congrArg some h))

namespace Engine

variable {engine : Engine} {address : Pubkey}

theorem buffer?_step {step : Step} (hother : step.buffer? ≠ some address) :
    (engine.step step).state.registry.buffer? address =
      engine.state.registry.buffer? address := by
  rcases engine.step_cases step with
    ⟨h, -⟩ | ⟨request, effect, ledger, rfl, heffect, -, h, -⟩ | ⟨ledger, -, h, -⟩
  · rw [h]
  · rw [h]
    exact Request.buffer?_effect heffect hother
  · rw [h]

theorem buffer?_run {steps : List Step} (hother : ∀ step ∈ steps, step.buffer? ≠ some address) :
    (engine.run steps).state.registry.buffer? address = engine.state.registry.buffer? address := by
  induction steps generalizing engine with
  | nil => rfl
  | cons step rest ih =>
      rw [List.forall_mem_cons] at hother
      rw [run_cons, ih hother.2, buffer?_step hother.1]

end Engine

/-! ## Writing -/

section

variable {data : Bytes} {start : Nat}

theorem take_grow (h : start ≤ data.length) (length : Nat) :
    (grow data length).take start = data.take start := List.take_append_of_le_length h

/-- The zeros that make room all come before the end of what is written. -/
theorem drop_grow (data : Bytes) (length : Nat) :
    (grow data length).drop length = data.drop length := by
  rw [grow, List.drop_append, List.drop_replicate, Nat.sub_self, List.replicate_zero,
    List.append_nil]

/-- A write leaves what is before it and what is after it, and no zero. -/
theorem splice_eq (h : start ≤ data.length) (bytes : Bytes) :
    splice data start bytes = data.take start ++ bytes ++ data.drop (start + bytes.length) := by
  simp only [splice, take_grow h, drop_grow]

theorem length_splice (h : start ≤ data.length) (bytes : Bytes) :
    (splice data start bytes).length = max data.length (start + bytes.length) := by
  rw [splice_eq h]
  simp only [List.length_append, List.length_take, List.length_drop]
  omega

theorem splice_length (data bytes : Bytes) : splice data data.length bytes = data ++ bytes := by
  rw [splice_eq (Nat.le_refl _), List.take_length,
    List.drop_eq_nil_of_le (Nat.le_add_right ..), List.append_nil]

end

theorem WriteRequest.plan_of_owner {s : State} {signer address : Pubkey} {data : Bytes}
    (hfound : s.registry.buffer? address = some ⟨signer, data⟩) (start : UInt64) (bytes : Bytes) :
    WriteRequest.plan ⟨signer, address, start, bytes⟩ s =
      if data.length < start.toNat then
        .error (.programFault s!"write at {start.toNat} past end of {data.length}-byte buffer")
      else if UInt64.size ≤ start.toNat + bytes.length then
        .error (.programFault "write range overflow")
      else .ok ⟨signer, splice data start.toNat bytes⟩ := by
  have hown : s.registry.ownBuffer address signer = .ok ⟨signer, data⟩ :=
    Registry.ownBuffer_eq_ok_iff.2 ⟨hfound, rfl⟩
  unfold plan require
  rw [hown]
  show (if start.toNat ≤ data.length then Except.ok () else _) >>= _ = _
  -- The start is checked before the range, so the two errors are in this order.
  by_cases hstart : start.toNat ≤ data.length
  · rw [if_pos hstart, if_neg (Nat.not_lt.2 hstart)]
    show (if start.toNat + bytes.length < UInt64.size then Except.ok () else _) >>= _ = _
    by_cases hrange : start.toNat + bytes.length < UInt64.size
    · rw [if_pos hrange, if_neg (Nat.not_le.2 hrange)]
      rfl
    · rw [if_neg hrange, if_pos (Nat.le_of_not_lt hrange)]
      rfl
  · rw [if_neg hstart, if_pos (Nat.lt_of_not_le hstart)]
    rfl

theorem Engine.withBuffer_withBuffer (engine : Engine) (address : Pubkey)
    (buffer buffer' : DataBuffer) :
    (engine.withBuffer address buffer).withBuffer address buffer' =
      engine.withBuffer address buffer' := by
  simp only [withBuffer, State.withBuffer, Registry.putBuffer_putBuffer]

namespace Engine

variable {engine : Engine} {signer address : Pubkey}

/-- **What a write into a buffer of its signer does.** It has to start in the buffer or at its end
and must not end past all positions. Then it is answered with the new length, and nothing but the
contents is changed. -/
theorem perform_writeBuffer {data : Bytes}
    (hfound : engine.state.registry.buffer? address = some ⟨signer, data⟩) (start : UInt64)
    (bytes : Bytes) :
    engine.perform (.writeBuffer ⟨signer, address, start, bytes⟩) =
      if data.length < start.toNat then
        (.error (.programFault
          s!"write at {start.toNat} past end of {data.length}-byte buffer"), engine)
      else if UInt64.size ≤ start.toNat + bytes.length then
        (.error (.programFault "write range overflow"), engine)
      else (.ok (.length (max data.length (start.toNat + bytes.length))),
        engine.withBuffer address ⟨signer, splice data start.toNat bytes⟩) := by
  have hplan := WriteRequest.plan_of_owner hfound start bytes
  by_cases hstart : data.length < start.toNat
  · rw [if_pos hstart] at hplan ⊢
    apply perform_eq_of_error
    simp only [Request.effect, WriteRequest.effect, hplan]
    rfl
  · rw [if_neg hstart] at hplan ⊢
    by_cases hrange : UInt64.size ≤ start.toNat + bytes.length
    · rw [if_pos hrange] at hplan ⊢
      apply perform_eq_of_error
      simp only [Request.effect, WriteRequest.effect, hplan]
      rfl
    · rw [if_neg hrange] at hplan ⊢
      rw [← length_splice (Nat.le_of_not_lt hstart)]
      exact perform_eq_of_effect (Request.effect_of_admitted (.writeBuffer hplan)) rfl

/-- A write at the end of what is there appends to it. -/
theorem perform_append {data chunk : Bytes}
    (hfits : data.length + chunk.length < UInt64.size) :
    (engine.withBuffer address ⟨signer, data⟩).perform
        (.writeBuffer ⟨signer, address, .ofNat data.length, chunk⟩) =
      (.ok (.length (data.length + chunk.length)),
        engine.withBuffer address ⟨signer, data ++ chunk⟩) := by
  have hstart : (UInt64.ofNat data.length).toNat = data.length :=
    UInt64.toNat_ofNat_of_lt' (by omega)
  have hfound : (engine.withBuffer address ⟨signer, data⟩).state.registry.buffer? address =
      some ⟨signer, data⟩ := Registry.buffer?_putBuffer ..
  rw [perform_writeBuffer hfound, hstart, if_neg (Nat.lt_irrefl _), if_neg (Nat.not_le.2 hfits),
    Nat.max_eq_right (Nat.le_add_right ..), splice_length, withBuffer_withBuffer]

/-- Chunks that are written one after the other are put together in the buffer. -/
theorem performAll_writeRequests (engine : Engine) (signer address : Pubkey) (chunks : List Bytes)
    (data : Bytes) (hfits : data.length + chunks.flatten.length < UInt64.size) :
    (engine.withBuffer address ⟨signer, data⟩).performAll
        (writeRequests signer address data.length chunks) =
      ((runningLengths data.length chunks).map fun length => .ok (.length length),
        engine.withBuffer address ⟨signer, data ++ chunks.flatten⟩) := by
  induction chunks generalizing data with
  | nil => simp [writeRequests, runningLengths, performAll]
  | cons chunk rest ih =>
      rw [List.flatten_cons, List.length_append] at hfits
      have hrest := ih (data ++ chunk) (by rw [List.length_append]; omega)
      rw [List.length_append] at hrest
      simp only [writeRequests, runningLengths, performAll, List.map_cons,
        perform_append (show data.length + chunk.length < UInt64.size by omega), hrest,
        List.flatten_cons, List.append_assoc]

/-- **A proof is staged chunk by chunk.** The buffer is opened, each write answers with the length
so far, and in the end the buffer holds the chunks put together. Nothing else is changed. -/
theorem performAll_stageRequests (chunks : List Bytes)
    (hfree : engine.state.registry.buffer? address = none)
    (hfits : chunks.flatten.length < UInt64.size) :
    engine.performAll (stageRequests signer address chunks) =
      (.ok .done :: (runningLengths 0 chunks).map fun length => .ok (.length length),
        engine.withBuffer address ⟨signer, chunks.flatten⟩) := by
  have hopen : engine.perform (.openBuffer signer address) =
      (.ok .done, engine.withBuffer address ⟨signer, []⟩) :=
    perform_eq_of_effect (Request.effect_of_admitted (.openBuffer hfree)) rfl
  have hwrites := performAll_writeRequests engine signer address chunks [] (by simpa using hfits)
  rw [List.length_nil] at hwrites
  simp only [stageRequests, performAll, hopen]
  rw [hwrites]
  rfl

end Engine

/-! ## Claims with a staged proof -/

section

variable {env : Env} {s : State} {req : ClaimRequest} {address : Pubkey} {proof : Bytes}

/-- With the proof in a buffer of the signer a claim is planned like the claim that carries the
proof, but for the buffer that it uses up. -/
theorem ClaimRequest.plan_staged :
    ({ req with secret := .buffer address } : ClaimRequest).plan env
        (s.withBuffer address ⟨req.signer, proof⟩) =
      ({ · with buffer := some address }) <$>
        ({ req with secret := .inline proof } : ClaimRequest).plan env s := by
  have hread : ({ req with secret := .buffer address } : ClaimRequest).readSecret
      (s.withBuffer address ⟨req.signer, proof⟩) = .ok (proof, some address) :=
    readSecret_eq_ok_iff.2
      (.inr ⟨address, _, rfl, Registry.buffer?_putBuffer .., rfl, rfl, rfl⟩)
  have hcarried : ({ req with secret := .inline proof } : ClaimRequest).readSecret s =
      .ok (proof, none) := rfl
  simp only [plan, hread, hcarried, map_bind]
  rfl

/-- The records come out the same: the claim takes out the buffer that staging put in, and changes
the others as if there had been none. -/
theorem ClaimPlan.commit_staged {plan : ClaimPlan} (hash : Hash) {r : Registry}
    (buffer : DataBuffer) (hnone : plan.buffer = none) (hfree : r.buffer? address = none) :
    ({ plan with buffer := some address } : ClaimPlan).commit hash (r.putBuffer address buffer) =
      plan.commit hash r := by
  have hkept : (plan.commit hash r).buffer? address = none := by
    rw [buffer?_commit, hnone, if_neg (Option.some_ne_none address).symm, hfree]
  obtain ⟨escrow, credited, _, opened, batch⟩ := plan
  subst hnone
  have hcommute : commit ⟨escrow, credited, none, opened, batch⟩ hash (r.putBuffer address buffer) =
      (commit ⟨escrow, credited, none, opened, batch⟩ hash r).putBuffer address buffer := by
    cases credited with
    | none => rfl
    | some balance => exact Registry.changeUser_putBuffer (r.removeEscrow hash) ..
  calc commit ⟨escrow, credited, some address, opened, batch⟩ hash (r.putBuffer address buffer)
      = (commit ⟨escrow, credited, none, opened, batch⟩ hash
          (r.putBuffer address buffer)).removeBuffer address := rfl
    _ = commit ⟨escrow, credited, none, opened, batch⟩ hash r := by
        rw [hcommute, Registry.removeBuffer_putBuffer _ hkept]

/-- **A claim with a staged proof has the effect of the claim that carries it**: the same batch, the
same event and the same records, or the same refusal. -/
theorem ClaimRequest.effect_staged (hfree : s.registry.buffer? address = none) :
    ({ req with secret := .buffer address } : ClaimRequest).effect env
        (s.withBuffer address ⟨req.signer, proof⟩) =
      ({ req with secret := .inline proof } : ClaimRequest).effect env s := by
  simp only [effect, plan_staged, map_eq_pure_bind, bind_assoc, pure_bind]
  refine bind_congr_of_ok fun plan hplan => ?_
  have hnone : plan.buffer = none := by
    obtain ⟨_, _, _, buffer, _, -, -, -, -, -, hread, -, rfl⟩ := plan_eq_ok_iff.1 hplan
    exact (buffer_of_readSecret hread).1
  rw [State.withBuffer, ClaimPlan.commit_staged req.hash _ hnone hfree]
  rfl

end

namespace Engine

variable {engine : Engine} {address : Pubkey}

/-- Two requests of one effect, one of them made with a buffer more, get the same answer. If they
are accepted they end alike, and if not the buffer stays. -/
theorem perform_withBuffer {request request' : Request} {buffer : DataBuffer}
    (h : request.effect engine.env (engine.state.withBuffer address buffer) =
      request'.effect engine.env engine.state) :
    let buffered := engine.withBuffer address buffer
    let here := buffered.perform request
    let there := engine.perform request'
    here.1 = there.1 ∧ (∀ reply, there.1 = .ok reply → here.2 = there.2) ∧
      ∀ e, there.1 = .error e → there.2 = engine ∧ here.2 = buffered := by
  intro buffered here there
  have hrefused {e : EscrowError} (hhere : here = (.error e, buffered))
      (hthere : there = (.error e, engine)) :
      here.1 = there.1 ∧ (∀ reply, there.1 = .ok reply → here.2 = there.2) ∧
        ∀ e, there.1 = .error e → there.2 = engine ∧ here.2 = buffered := by
    rw [hhere, hthere]
    refine ⟨rfl, fun reply hok => ?_, fun _ _ => ⟨rfl, rfl⟩⟩
    cases hok
  -- A request is refused by its checks, refused by the ledger, or accepted.
  cases heffect : request'.effect engine.env engine.state with
  | error e => exact hrefused (perform_eq_of_error (h.trans heffect)) (perform_eq_of_error heffect)
  | ok effect =>
      cases hsteps : engine.state.ledger.steps effect.batch.ops with
      | error e =>
          exact hrefused (perform_eq_of_steps_error (h.trans heffect) hsteps)
            (perform_eq_of_steps_error heffect hsteps)
      | ok ledger =>
          have hhere : here = (.ok effect.answer,
              buffered.accept effect.answer ⟨effect.registry, ledger⟩) :=
            perform_eq_of_effect (h.trans heffect) hsteps
          have hthere : there = (.ok effect.answer,
              engine.accept effect.answer ⟨effect.registry, ledger⟩) :=
            perform_eq_of_effect heffect hsteps
          -- An accepted request leaves nothing of the state that it was made in.
          have hsame : here = there := hhere.trans hthere.symm
          refine ⟨congrArg Prod.fst hsame, fun _ _ => congrArg Prod.snd hsame, fun e he => ?_⟩
          cases (congrArg Prod.fst hthere).symm.trans he

/-- **A staged claim equals the claim that carries the proof.** Let a proof be staged in a new
buffer, however it was cut into chunks. The claim of the same signer that names the buffer is
answered like the claim with the proof in it. If it is accepted everything ends alike, without the
buffer; if it is refused nothing was changed, and the buffer is still there. (The proof is no longer
than a machine can hold.) -/
theorem claim_staged (engine : Engine) (req : ClaimRequest) (address : Pubkey)
    (chunks : List Bytes) (hfree : engine.state.registry.buffer? address = none)
    (hfits : chunks.flatten.length < UInt64.size) :
    let proof := chunks.flatten
    let staging := engine.performAll (stageRequests req.signer address chunks)
    let staged := staging.2.perform (.claim { req with secret := .buffer address })
    let carried := engine.perform (.claim { req with secret := .inline proof })
    staging.1 = .ok .done :: (runningLengths 0 chunks).map (fun length => .ok (.length length)) ∧
      staging.2 = engine.withBuffer address ⟨req.signer, proof⟩ ∧
      staged.1 = carried.1 ∧
      (∀ reply, carried.1 = .ok reply →
        staged.2 = carried.2 ∧ carried.2.state.registry.buffer? address = none) ∧
      ∀ e, carried.1 = .error e →
        carried.2 = engine ∧ staged.2 = engine.withBuffer address ⟨req.signer, proof⟩ := by
  intro proof staging staged carried
  have hstaging : staging = _ := performAll_stageRequests chunks hfree hfits
  -- With the buffer free before and filled by the chunks, both claims read the same secret.
  have heffect : (Request.claim { req with secret := .buffer address }).effect engine.env
      (engine.state.withBuffer address ⟨req.signer, proof⟩) =
      (Request.claim { req with secret := .inline proof }).effect engine.env engine.state := by
    simp only [Request.effect, ClaimRequest.effect_staged hfree]
  obtain ⟨hanswer, hok, herror⟩ := perform_withBuffer heffect
  have hstaged : staged = (engine.withBuffer address ⟨req.signer, proof⟩).perform
      (.claim { req with secret := .buffer address }) := by
    show staging.2.perform _ = _
    rw [hstaging]
  rw [hstaged, hstaging]
  have hother : Step.buffer? (.request (.claim { req with secret := .inline proof })) ≠
      some address := (Option.some_ne_none address).symm
  have hgone : carried.2.state.registry.buffer? address = none :=
    (buffer?_step hother).trans hfree
  exact ⟨rfl, rfl, hanswer, fun reply hreply => ⟨hok reply hreply, hgone⟩, herror⟩

/-- The owner stages the preimage of its own escrow in two pieces, with nothing between them, and
claims with it. It is answered as if it had sent the preimage along, and the engine ends where that
claim would have taken it. -/
theorem claim_staged_of_ownPot :
    let engine := (Engine.new .standard 0 .empty).run ownPot
    let req := escrowOfPot.inlineClaim engine.state.registry someOwner someSecret.toList .empty
    let staging := engine.performAll
      (stageRequests someOwner someMint [someSecret.toList.take 20, [], someSecret.toList.drop 20])
    let staged := staging.2.perform (.claim { req with secret := .buffer someMint })
    staging.1 = [.ok .done, .ok (.length 20), .ok (.length 20), .ok (.length 32)] ∧
      staged.1 = .ok (.event (.claimed ⟨someTerms.hash, someSecret, 1⟩)) ∧
      staged.2 = (engine.perform (.claim req)).2 := by
  have hunnamed : ∀ step ∈ ownPot, step.buffer? ≠ some someMint := by
    simp [ownPot, depositedPot, fundedOwner, fundedDeposit, Step.buffer?, Request.buffer?]
  have hfree : ((Engine.new .standard 0 .empty).run ownPot).state.registry.buffer? someMint =
      none := by
    rw [buffer?_run hunnamed]
    rfl
  have hwhole : [someSecret.toList.take 20, [], someSecret.toList.drop 20].flatten =
      someSecret.toList := by
    simp
  have hfits : [someSecret.toList.take 20, [], someSecret.toList.drop 20].flatten.length <
      UInt64.size := by
    rw [hwhole, Bytes32.length_toList]
    decide
  have hfunded := funded_ownPot
  -- Of the history only these facts matter, so it is not looked into again.
  obtain ⟨before, hbefore⟩ : ∃ before, before = (Engine.new .standard 0 .empty).run ownPot :=
    ⟨_, rfl⟩
  rw [← hbefore] at hfree hfunded ⊢
  intro engine req staging staged
  obtain ⟨hwritten, -, hanswer, hok, -⟩ := claim_staged engine req someMint _ hfree hfits
  rw [hwhole] at hanswer hok
  have hcarried : (engine.perform (.claim req)).1 =
      .ok (.event (.claimed ⟨someTerms.hash, someSecret, 1⟩)) :=
    perform_inlineClaim hfunded someOwner rfl (Terms.verifyClaim_preimage rfl rfl _ _)
  exact ⟨hwritten, hanswer.trans hcarried, (hok _ hcarried).1⟩

end Engine

end AtomicEscrow
