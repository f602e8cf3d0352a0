import AtomicEscrow.Proofs.History

set_option autoImplicit false

/-! # One settlement for each lock

The events that carry one hash tell the story of its escrows, which live one after the other:
locked, then claimed or refunded, then perhaps locked again. `Chronicle` is that story as an
inductive predicate, together with the sequence of the escrow that is live at its end. Every
history of an engine leaves a chronicle for every hash (`Engine.run_chronicle`), and what is said
about double settlement is read off it.
-/

namespace AtomicEscrow

/-- Whether an event opens an escrow. The others close one. -/
def SwapEvent.isLock : SwapEvent → Bool
  | locked _ => true
  | claimed _ => false
  | refunded _ => false

/-- The events of one hash, oldest first, and the sequence of the escrow they leave live. -/
inductive Chronicle : List SwapEvent → Option UInt64 → Prop
  | nil : Chronicle [] none
  | lock {events : List SwapEvent} {event : LockEvent} (before : Chronicle events none) :
      Chronicle (events ++ [.locked event]) (some event.sequence)
  | settle {events : List SwapEvent} {event : SwapEvent} (closes : event.isLock = false)
      (before : Chronicle events (some event.sequence)) : Chronicle (events ++ [event]) none

namespace Chronicle

variable {events : List SwapEvent} {live : Option UInt64} {event : SwapEvent} {i : Nat}

/-- An escrow is live after every other event. -/
theorem length_mod_two (h : Chronicle events live) :
    events.length % 2 = if live = none then 0 else 1 := by
  induction h with
  | nil => rfl
  | lock before ih =>
      rw [if_pos rfl] at ih
      rw [List.length_append, List.length_singleton, if_neg (by simp)]
      omega
  | settle closes before ih =>
      rw [if_neg (by simp)] at ih
      rw [List.length_append, List.length_singleton, if_pos rfl]
      omega

/-- What is live is what the last event locked. -/
theorem live_iff (h : Chronicle events live) (sequence : UInt64) :
    live = some sequence ↔
      ∃ lock, events.getLast? = some (.locked lock) ∧ lock.sequence = sequence := by
  cases h with
  | nil => simp
  | lock before => simp
  | @settle _ event closes before =>
      rw [List.getLast?_concat]
      constructor
      · intro hlive
        cases hlive
      · rintro ⟨lock, hlast, -⟩
        cases hlast
        cases closes

/-- An event of a story that goes on by one event is an old one or that one. -/
theorem getElem?_concat_cases {last : SwapEvent} (hi : (events ++ [last])[i]? = some event) :
    (i < events.length ∧ events[i]? = some event) ∨ (i = events.length ∧ event = last) := by
  by_cases hlt : i < events.length
  · rw [List.getElem?_append_left hlt] at hi
    exact .inl ⟨hlt, hi⟩
  · have hle : i < (events ++ [last]).length := (List.getElem?_eq_some_iff.1 hi).1
    rw [List.length_append, List.length_singleton] at hle
    obtain rfl : i = events.length := by omega
    rw [List.getElem?_concat_length] at hi
    cases hi
    exact .inr ⟨rfl, rfl⟩

/-- **Locks and settlements take turns**, and a lock comes first. -/
theorem isLock_iff (h : Chronicle events live) (hi : events[i]? = some event) :
    event.isLock = true ↔ i % 2 = 0 := by
  -- The position of an event is its number, and the new one comes at the end: its parity is that
  -- of the length, which goes with whether the escrow is live.
  induction h with
  | nil => cases hi
  | lock before ih =>
      rcases getElem?_concat_cases hi with ⟨-, hold⟩ | ⟨rfl, rfl⟩
      · exact ih hold
      · have hmod := before.length_mod_two
        rw [if_pos rfl] at hmod
        simp [SwapEvent.isLock, hmod]
  | settle closes before ih =>
      rcases getElem?_concat_cases hi with ⟨-, hold⟩ | ⟨rfl, rfl⟩
      · exact ih hold
      · have hmod := before.length_mod_two
        rw [if_neg (by simp)] at hmod
        simp [closes, hmod]

/-- **A settlement is about the lock right before it**: both carry one sequence. -/
theorem sequence_eq (h : Chronicle events live) (hi : events[i + 1]? = some event)
    (closes : event.isLock = false) :
    ∃ lock, events[i]? = some (.locked lock) ∧ event.sequence = lock.sequence := by
  induction h with
  | nil => cases hi
  | lock before ih =>
      rcases getElem?_concat_cases hi with ⟨hlt, hold⟩ | ⟨-, rfl⟩
      · obtain ⟨lock, hlock, hsequence⟩ := ih hold
        exact ⟨lock, by rw [List.getElem?_append_left (by omega), hlock], hsequence⟩
      · cases closes
  | @settle events _ _ before ih =>
      rcases getElem?_concat_cases hi with ⟨hlt, hold⟩ | ⟨hlength, rfl⟩
      · obtain ⟨lock, hlock, hsequence⟩ := ih hold
        exact ⟨lock, by rw [List.getElem?_append_left (by omega), hlock], hsequence⟩
      · -- What was live before is what the last event locked.
        obtain ⟨lock, hlast, hsequence⟩ := (before.live_iff _).1 rfl
        rw [List.getLast?_eq_getElem?, ← hlength, Nat.add_sub_cancel] at hlast
        exact ⟨lock, by rw [List.getElem?_append_left (by omega), hlast], hsequence.symm⟩

end Chronicle

/-! ## The chronicle of a history -/

/-- The events that carry a hash. -/
def eventsOf (hash : Hash) (events : List SwapEvent) : List SwapEvent :=
  events.filter (·.hash = hash)

theorem eventsOf_append (hash : Hash) (events later : List SwapEvent) :
    eventsOf hash (events ++ later) = eventsOf hash events ++ eventsOf hash later :=
  List.filter_append ..

theorem eventsOf_singleton (hash : Hash) (event : SwapEvent) :
    eventsOf hash [event] = if event.hash = hash then [event] else [] := by
  simp [eventsOf, List.filter_cons]

namespace Registry

/-- Every live escrow lies under its own hash. -/
def EscrowsKeyed (r : Registry) : Prop :=
  ∀ hash escrow, r.escrow? hash = some escrow → escrow.terms.hash = hash

/-- The sequence of the live escrow of a hash. -/
def liveSequence? (r : Registry) (hash : Hash) : Option UInt64 :=
  (r.escrow? hash).map (·.terms.sequence)

variable {r r' : Registry} {key : Hash}

theorem EscrowsKeyed.erase (h : r.EscrowsKeyed) (removed : r'.escrows = r.escrows.erase key) :
    r'.EscrowsKeyed := by
  intro hash escrow hescrow
  rw [escrow?_of_erase removed] at hescrow
  split at hescrow
  · cases hescrow
  · exact h hash escrow hescrow

theorem EscrowsKeyed.insert (h : r.EscrowsKeyed) {new : Escrow}
    (put : r'.escrows = r.escrows.insert new.terms.hash new) : r'.EscrowsKeyed := by
  intro hash escrow hescrow
  rw [escrow?_of_insert put] at hescrow
  split at hescrow
  case isTrue hhash =>
    cases hescrow
    exact hhash
  case isFalse => exact h hash escrow hescrow

end Registry

namespace EscrowChange

variable {r r' : Registry} {event? : Option SwapEvent}

theorem escrowsKeyed (change : EscrowChange r r' event?) (h : r.EscrowsKeyed) :
    r'.EscrowsKeyed := by
  cases change with
  | none same =>
      intro hash escrow hescrow
      unfold Registry.escrow? at hescrow
      rw [same] at hescrow
      exact h hash escrow hescrow
  | locked free put => exact h.insert put
  | claimed live removed => exact h.erase removed
  | refunded live removed => exact h.erase removed

/-- The removal of an escrow under an event that closes it goes on with the chronicle. -/
theorem chronicle_settle {event : SwapEvent} {escrow : Escrow} {key hash : Hash}
    {events : List SwapEvent} (h : r.EscrowsKeyed) (live : r.escrow? key = some escrow)
    (removed : r'.escrows = r.escrows.erase key) (closes : event.isLock = false)
    (hhash : event.hash = escrow.terms.hash) (hsequence : event.sequence = escrow.terms.sequence)
    (before : Chronicle (eventsOf hash events) (r.liveSequence? hash)) :
    Chronicle (eventsOf hash (events ++ [event])) (r'.liveSequence? hash) := by
  -- The event names the hash of the terms, the registry the key of the record: they agree.
  have hkey : event.hash = key := hhash.trans (h key escrow live)
  rw [eventsOf_append, eventsOf_singleton]
  unfold Registry.liveSequence? at before ⊢
  rw [Registry.escrow?_of_erase removed, hkey]
  by_cases heq : key = hash
  · subst heq
    rw [live] at before
    rw [if_pos rfl, if_pos rfl]
    exact .settle closes (by rw [hsequence]; exact before)
  · rw [if_neg heq, if_neg heq, List.append_nil]
    exact before

/-- What a request does to the live escrows goes on with every chronicle. -/
theorem chronicle (change : EscrowChange r r' event?) (h : r.EscrowsKeyed) {hash : Hash}
    {events : List SwapEvent} (before : Chronicle (eventsOf hash events) (r.liveSequence? hash)) :
    Chronicle (eventsOf hash (events ++ event?.toList)) (r'.liveSequence? hash) := by
  cases change with
  | none same =>
      have hsame : r'.liveSequence? hash = r.liveSequence? hash := by
        unfold Registry.liveSequence? Registry.escrow?
        rw [same]
      rw [Option.toList_none, List.append_nil, hsame]
      exact before
  | @locked escrow event free put hhash hsequence =>
      rw [Option.toList_some, eventsOf_append, eventsOf_singleton]
      unfold Registry.liveSequence? at before ⊢
      rw [Registry.escrow?_of_insert put]
      show Chronicle (_ ++ if event.hash = hash then _ else _) _
      rw [hhash]
      -- A lock of another hash is no event of this story.
      by_cases heq : escrow.terms.hash = hash
      · subst heq
        rw [free] at before
        rw [if_pos rfl, if_pos rfl, Option.map_some, ← hsequence]
        exact .lock before
      · rw [if_neg heq, if_neg heq, List.append_nil]
        exact before
  | claimed live removed hhash hsequence =>
      exact chronicle_settle h live removed rfl hhash hsequence before
  | refunded live removed hhash hsequence =>
      exact chronicle_settle h live removed rfl hhash hsequence before

end EscrowChange

namespace Engine

theorem chronicle_step {engine : Engine} (step : Step)
    (keyed : engine.state.registry.EscrowsKeyed) :
    (engine.step step).state.registry.EscrowsKeyed ∧
      ∀ {hash : Hash} {events : List SwapEvent},
        Chronicle (eventsOf hash events) (engine.state.registry.liveSequence? hash) →
        Chronicle (eventsOf hash (events ++ (engine.eventOf? step).toList))
          ((engine.step step).state.registry.liveSequence? hash) := by
  rcases engine.step_cases step with ⟨hstate, hevent⟩ |
    ⟨request, effect, ledger, -, heffect, -, hstate, hevent⟩ | ⟨ledger, -, hstate, hevent⟩
  · rw [hstate, hevent, Option.toList_none]
    exact ⟨keyed, fun before => by rw [List.append_nil]; exact before⟩
  · have hchange := Request.escrowChange heffect
    rw [hstate, hevent]
    exact ⟨hchange.escrowsKeyed keyed, hchange.chronicle keyed⟩
  · rw [hstate, hevent, Option.toList_none]
    exact ⟨keyed, fun before => by rw [List.append_nil]; exact before⟩

/-- **Every history leaves a chronicle for every hash.** -/
theorem run_chronicle (config : Config) (now : UInt64) (ledger : Ledger) (steps : List Step) :
    ((Engine.new config now ledger).run steps).state.registry.EscrowsKeyed ∧
      ∀ hash, Chronicle (eventsOf hash ((Engine.new config now ledger).events steps))
        (((Engine.new config now ledger).run steps).state.registry.liveSequence? hash) := by
  -- The history is taken apart at its end, where the chronicle grows.
  induction steps using List.reverseRecOn with
  | nil =>
      constructor
      · intro hash escrow hescrow
        cases hescrow
      · exact fun hash => .nil
  | append_singleton steps step ih =>
      obtain ⟨hkeyed, hchronicle⟩ := chronicle_step step ih.1
      rw [run_append, events_append]
      exact ⟨hkeyed, fun hash => hchronicle (ih.2 hash)⟩

end Engine

/-! ## Requests that come too late -/

theorem ClaimRequest.plan_of_absent {req : ClaimRequest} (env : Env) {s : State}
    (haddress : s.registry.escrowAddress req.hash = req.escrowAddress)
    (habsent : s.registry.escrow? req.hash = none) :
    req.plan env s = .error .accountNotInitialized := by
  have hat : s.registry.escrowAt req.hash req.escrowAddress = .error .accountNotInitialized := by
    simp only [Registry.escrowAt, haddress, habsent, ne_eq, not_true_eq_false, if_false]
  unfold ClaimRequest.plan
  rw [hat]
  rfl

theorem RefundRequest.plan_of_absent {req : RefundRequest} (env : Env) {s : State}
    (haddress : s.registry.escrowAddress req.hash = req.escrowAddress)
    (habsent : s.registry.escrow? req.hash = none) :
    req.plan env s = .error .accountNotInitialized := by
  have hat : s.registry.escrowAt req.hash req.escrowAddress = .error .accountNotInitialized := by
    simp only [Registry.escrowAt, haddress, habsent, ne_eq, not_true_eq_false, if_false]
  unfold RefundRequest.plan
  rw [hat]
  rfl

theorem LockRequest.plan_of_live {req : LockRequest} {env : Env} {s : State}
    (hnow : env.now < req.authExpiry)
    (haddress : s.registry.escrowAddress req.terms.hash = req.escrowAddress)
    (hlive : s.registry.escrow? req.terms.hash ≠ none) :
    req.plan env s = .error .accountAlreadyInitialized := by
  have hterms : req.checkTerms env s = .error .accountAlreadyInitialized := by
    unfold checkTerms require
    rw [if_pos hnow, if_pos haddress, if_neg hlive]
    rfl
  unfold LockRequest.plan
  rw [hterms]
  rfl

namespace Engine

theorem perform_claim_of_error {engine : Engine} {req : ClaimRequest} {e : EscrowError}
    (h : req.plan engine.env engine.state = .error e) :
    engine.perform (.claim req) = (.error e, engine) := by
  apply perform_eq_of_error
  simp only [Request.effect, ClaimRequest.effect, h]
  rfl

theorem perform_refund_of_error {engine : Engine} {req : RefundRequest} {e : EscrowError}
    (h : req.plan engine.env engine.state = .error e) :
    engine.perform (.refund req) = (.error e, engine) := by
  apply perform_eq_of_error
  simp only [Request.effect, RefundRequest.effect, h]
  rfl

theorem perform_lock_of_error {engine : Engine} {req : LockRequest} {e : EscrowError}
    (h : req.plan engine.env engine.state = .error e) :
    engine.perform (.lock req) = (.error e, engine) := by
  apply perform_eq_of_error
  simp only [Request.effect, LockRequest.effect, h]
  rfl

/-- **Every lock is settled at most once.** In every history that starts without records, the
events that carry a hash are locks and settlements in turn, each settlement with the sequence of
the lock before it; the escrow of the hash is live iff the last event is a lock. While it is not
live no claim or refund at its address gets through, and while it is live no lock in time does. -/
theorem settles_exactly_once (config : Config) (now : UInt64) (ledger : Ledger)
    (steps : List Step) (hash : Hash) :
    let engine := (Engine.new config now ledger).run steps
    let history := eventsOf hash ((Engine.new config now ledger).events steps)
    let escrow? := engine.state.registry.escrow? hash
    let address := engine.state.registry.escrowAddress hash
    (∀ i event, history[i]? = some event → (event.isLock = true ↔ i % 2 = 0)) ∧
    (∀ i event, history[i + 1]? = some event → event.isLock = false →
      ∃ lock, history[i]? = some (.locked lock) ∧ event.sequence = lock.sequence) ∧
    (escrow? ≠ none ↔ ∃ lock, history.getLast? = some (.locked lock)) ∧
    (∀ escrow, escrow? = some escrow →
      ∃ lock, history.getLast? = some (.locked lock) ∧
        escrow.terms.hash = hash ∧ escrow.terms.sequence = lock.sequence) ∧
    (escrow? = none → ∀ req : ClaimRequest, req.hash = hash → req.escrowAddress = address →
      engine.perform (.claim req) = (.error .accountNotInitialized, engine)) ∧
    (escrow? = none → ∀ req : RefundRequest, req.hash = hash → req.escrowAddress = address →
      engine.perform (.refund req) = (.error .accountNotInitialized, engine)) ∧
    (escrow? ≠ none → ∀ req : LockRequest, req.terms.hash = hash →
      req.escrowAddress = address → engine.now < req.authExpiry →
      engine.perform (.lock req) = (.error .accountAlreadyInitialized, engine)) := by
  intro engine history escrow? address
  obtain ⟨hkeyed, hchronicles⟩ := run_chronicle config now ledger steps
  have hchronicle : Chronicle history (escrow?.map (·.terms.sequence)) := hchronicles hash
  have hlast : ∀ escrow, escrow? = some escrow →
      ∃ lock, history.getLast? = some (.locked lock) ∧
        escrow.terms.hash = hash ∧ escrow.terms.sequence = lock.sequence := by
    intro escrow hescrow
    obtain ⟨lock, hlock, hsequence⟩ :=
      (hchronicle.live_iff escrow.terms.sequence).1 (by rw [hescrow]; rfl)
    exact ⟨lock, hlock, hkeyed hash escrow hescrow, hsequence.symm⟩
  -- What is left after the chronicle: live or not, and the three requests that come too late.
  refine ⟨fun i event => hchronicle.isLock_iff, fun i event => hchronicle.sequence_eq, ?_, hlast,
    ?_, ?_, ?_⟩
  · constructor
    · intro hlive
      obtain ⟨escrow, hescrow⟩ := Option.ne_none_iff_exists'.1 hlive
      obtain ⟨lock, hlock, -⟩ := hlast escrow hescrow
      exact ⟨lock, hlock⟩
    · rintro ⟨lock, hlock⟩ habsent
      have hlive := (hchronicle.live_iff lock.sequence).2 ⟨lock, hlock, rfl⟩
      rw [habsent] at hlive
      cases hlive
  · rintro habsent req rfl haddress
    exact perform_claim_of_error (ClaimRequest.plan_of_absent _ haddress.symm habsent)
  · rintro habsent req rfl haddress
    exact perform_refund_of_error (RefundRequest.plan_of_absent _ haddress.symm habsent)
  · -- The terms are looked at first, so this needs a request in time at the right address.
    rintro hlive req rfl haddress hnow
    exact perform_lock_of_error (LockRequest.plan_of_live hnow haddress.symm hlive)

end Engine

end AtomicEscrow
