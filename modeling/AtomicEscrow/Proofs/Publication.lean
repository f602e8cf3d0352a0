import AtomicEscrow.Proofs.Settleable

set_option autoImplicit false

/-! # The log, the feed and the history

The events of a history are known from the answers to its requests alone (`Engine.events`). The
log and the feed are two more accounts of them, kept by different code under different bounds:
the log drops old events before it takes a new one, the feed forgets what is 1024 events old.
Both are shown to be ends of the same list, `lastItems` of the events of the history, so they
agree with each other and with what the callers were told (`Engine.Publishes`).

A subscriber reads on from where it left off. As long as no more events are unread than the feed
keeps, what it was handed and what it would be handed next are together the events since it
subscribed (`Subscription.Follows`).
-/

namespace AtomicEscrow

/-! ## The end of a list -/

section LastItems

variable {α : Type}

theorem length_lastItems (count : Nat) (items : List α) :
    (lastItems count items).length = min count items.length := by
  rw [lastItems, List.length_drop]
  omega

theorem lastItems_of_length_le {count : Nat} {items : List α} (h : items.length ≤ count) :
    lastItems count items = items := by
  rw [lastItems, Nat.sub_eq_zero_of_le h, List.drop_zero]

theorem lastItems_min_length (count : Nat) (items : List α) :
    lastItems (min items.length count) items = lastItems count items := by
  have hlength : items.length - min items.length count = items.length - count := by omega
  rw [lastItems, hlength, lastItems]

theorem lastItems_cons {count : Nat} {items : List α} (h : count ≤ items.length) (item : α) :
    lastItems count (item :: items) = lastItems count items := by
  have hlength : (item :: items).length - count = items.length - count + 1 := by
    rw [List.length_cons]
    omega
  rw [lastItems, hlength, List.drop_succ_cons, lastItems]

theorem lastItems_concat (count : Nat) (items : List α) (item : α) :
    lastItems (count + 1) (items ++ [item]) = lastItems count items ++ [item] := by
  have hlength : (items ++ [item]).length - (count + 1) = items.length - count := by
    rw [List.length_append, List.length_singleton]
    omega
  rw [lastItems, hlength, List.drop_append_of_le_length (Nat.sub_le ..), lastItems]

theorem lastItems_lastItems {count count' : Nat} (h : count ≤ count') (items : List α) :
    lastItems count (lastItems count' items) = lastItems count items := by
  have hdrop : items.length - count' + (min count' items.length - count) =
      items.length - count := by omega
  rw [lastItems, length_lastItems, lastItems, List.drop_drop, hdrop, lastItems]

/-- What was dropped from a list would be dropped as well once it is longer. -/
theorem lastItems_lastItems_concat (count : Nat) (items : List α) (item : α) :
    lastItems count (lastItems count items ++ [item]) = lastItems count (items ++ [item]) := by
  cases count with
  | zero => simp [lastItems]
  | succ count => rw [lastItems_concat, lastItems_concat, lastItems_lastItems (Nat.le_succ count)]

end LastItems

/-! ## The log -/

namespace EventLog

/-- The oldest events go until one more event fits. -/
theorem makeRoom_eq_lastItems (limit : Nat) (events : List SwapEvent) :
    makeRoom (limit + 1) events = lastItems limit events := by
  induction events with
  | nil => simp [makeRoom, lastItems]
  | cons oldest rest ih =>
      unfold makeRoom
      by_cases hfull : limit + 1 ≤ rest.length + 1
      · have hrest : limit ≤ rest.length := by omega
        rw [if_pos hfull, ih, lastItems_cons hrest]
      · have hfits : (oldest :: rest).length ≤ limit := by
          rw [List.length_cons]
          omega
        rw [if_neg hfull, lastItems_of_length_le hfits]

/-- The new event is always kept, with as many before it as the capacity leaves room for. -/
theorem events_push (log : EventLog) (event : SwapEvent) :
    (log.push event).events = lastItems (max log.capacity 1) (log.events ++ [event]) := by
  obtain ⟨limit, hlimit⟩ : ∃ limit, max log.capacity 1 = limit + 1 :=
    ⟨max log.capacity 1 - 1, by omega⟩
  rw [push, hlimit, makeRoom_eq_lastItems, lastItems_concat]

end EventLog

/-! ## The feed -/

namespace Feed

/-- What a subscriber has seen it has still seen after it asked for more. -/
theorem le_next (feed : Feed) (seen : Nat) : seen ≤ (feed.next seen).2 := by
  unfold next
  by_cases hmissed : seen < feed.published - feed.kept.length
  · rw [if_pos hmissed]
    exact Nat.le_of_lt hmissed
  · rw [if_neg hmissed]
    cases feed.kept[seen - (feed.published - feed.kept.length)]? with
    | none => exact Nat.le_refl _
    | some event => exact Nat.le_succ _

/-- The feed after these events, and no others, were published. -/
structure Published (feed : Feed) (events : List SwapEvent) : Prop where
  published : feed.published = events.length
  kept : feed.kept = lastItems capacity events

variable {feed : Feed} {events : List SwapEvent}

theorem Published.empty : Published empty [] := ⟨rfl, rfl⟩

theorem Published.publish (h : feed.Published events) (event : SwapEvent) :
    (feed.publish event).Published (events ++ [event]) where
  published := by rw [Feed.publish, h.published, List.length_append, List.length_singleton]
  kept := by rw [Feed.publish, h.kept, lastItems_lastItems_concat]

/-- Whoever has no more unread events than the feed keeps is handed the first of them. -/
theorem Published.next_eq (h : feed.Published events) {seen : Nat}
    (hunread : events.length - seen ≤ capacity) :
    feed.next seen =
      events[seen]?.elim (.nothing, seen) fun event => (.event event, seen + 1) := by
  -- As nothing unread was dropped, the place in what is kept is the place in the history, shifted.
  have holdest : feed.published - feed.kept.length = events.length - capacity := by
    rw [h.published, h.kept, length_lastItems]
    omega
  have hseen : ¬seen < events.length - capacity := by omega
  have hindex : events.length - capacity + (seen - (events.length - capacity)) = seen := by omega
  have hitem : feed.kept[seen - (events.length - capacity)]? = events[seen]? := by
    rw [h.kept, lastItems, List.getElem?_drop, hindex]
  unfold next
  rw [holdest, if_neg hseen, hitem]
  cases events[seen]? with
  | none => rfl
  | some event => rfl

/-- Whoever has no more unread events than the feed keeps can read all of them at once. -/
theorem Published.readFrom_eq (h : feed.Published events) {seen : Nat}
    (hunread : events.length - seen ≤ capacity) :
    feed.readFrom seen = ⟨0, events.drop seen⟩ := by
  have hmissed : events.length - seen - (lastItems capacity events).length = 0 := by
    rw [length_lastItems]
    omega
  have hdrop : lastItems (events.length - seen) (lastItems capacity events) =
      events.drop seen := by
    rw [lastItems_lastItems hunread, lastItems]
    by_cases hseen : seen ≤ events.length
    · rw [Nat.sub_sub_self hseen]
    · have hall : events.length ≤ seen := by omega
      rw [Nat.sub_eq_zero_of_le hall, Nat.sub_zero, List.drop_length, List.drop_of_length_le hall]
  simp only [readFrom, h.published, h.kept, hmissed, hdrop]

end Feed

/-! ## What a step tells -/

namespace Engine

/-- The log and the feed take note of the event of a step, and of nothing else. -/
theorem note_step (engine : Engine) (step : Step) :
    (engine.eventOf? step = none ∧ (engine.step step).log = engine.log ∧
      (engine.step step).feed = engine.feed) ∨
    ∃ event, engine.eventOf? step = some event ∧
      (engine.step step).log = engine.log.push event ∧
      (engine.step step).feed = engine.feed.publish event := by
  cases step with
  | request request =>
      rcases engine.perform_cases request with ⟨e, h⟩ | ⟨effect, ledger, -, -, h⟩
      · exact .inl ⟨by simp [eventOf?, h], by simp [Engine.step, h], by simp [Engine.step, h]⟩
      · have heventOf : engine.eventOf? (.request request) = effect.answer.event? := by
          simp [eventOf?, h]
        have hstep : engine.step (.request request) =
            engine.accept effect.answer ⟨effect.registry, ledger⟩ := by
          simp [Engine.step, h]
        -- An accepted request is noted if its answer is an event; a buffer's length is none.
        rw [heventOf, hstep, accept]
        cases effect.answer.event? with
        | none => exact .inl ⟨rfl, rfl, rfl⟩
        | some event => exact .inr ⟨event, rfl, rfl, rfl⟩
  | setTime now => exact .inl ⟨rfl, rfl, rfl⟩
  | advance seconds => exact .inl ⟨rfl, rfl, rfl⟩
  | createTokenAccount owner mint => exact .inl ⟨rfl, rfl, rfl⟩
  | mintTo address amount =>
      refine .inl ⟨rfl, ?_⟩
      simp only [Engine.step, mintTo]
      split <;> exact ⟨rfl, rfl⟩
  | airdrop owner amount =>
      refine .inl ⟨rfl, ?_⟩
      simp only [Engine.step, airdrop]
      split <;> exact ⟨rfl, rfl⟩
  | applyBatch batch => exact .inl ⟨rfl, rfl, rfl⟩

end Engine

def Request.isSwap : Request → Bool
  | lock _ | claim _ | refund _ => true
  | _ => false

/-- The event of a request is the one its caller is given. -/
theorem Engine.eventOf?_request {engine : Engine} {request : Request} {event : SwapEvent} :
    engine.eventOf? (.request request) = some event ↔
      (engine.perform request).1 = .ok (.event event) := by
  unfold eventOf?
  cases h : (engine.perform request).1 with
  | error e => simp [h]
  | ok reply => cases reply <;> simp [h, Reply.event?]

theorem Engine.exists_eventOf? (engine : Engine) (request : Request) :
    (∃ event, engine.eventOf? (.request request) = some event) ↔
      request.isSwap ∧ ∃ reply, (engine.perform request).1 = .ok reply := by
  rcases engine.perform_cases request with ⟨e, h⟩ | ⟨effect, ledger, heffect, -, h⟩
  · simp [eventOf?, h]
  · have hisSwap : effect.answer.event?.isSome = request.isSwap := by
      cases Request.admitted_of_effect heffect <;> rfl
    simp [eventOf?, h, ← hisSwap, Option.isSome_iff_exists]

/-! ## Histories -/

namespace Engine

/-- The log and the feed are what they are after these events, and no others. -/
structure Publishes (engine : Engine) (events : List SwapEvent) : Prop where
  capacity : engine.log.capacity = engine.config.eventLogCapacity.toNat
  log : engine.log.events = lastItems (max engine.log.capacity 1) events
  feed : engine.feed.Published events

variable {engine : Engine} {events : List SwapEvent}

theorem Publishes.ofState (config : Config) (now : UInt64) (state : State) :
    (ofState config now state).Publishes [] where
  capacity := rfl
  log := (lastItems_of_length_le (Nat.zero_le _)).symm
  feed := .empty

/-- The log forgets nothing it will need, so one step keeps it the end of the history. -/
theorem Publishes.step (h : engine.Publishes events) (step : Step) :
    (engine.step step).Publishes (events ++ (engine.eventOf? step).toList) := by
  have hconfig := engine.config_step step
  rcases engine.note_step step with ⟨hevent, hlog, hfeed⟩ | ⟨event, hevent, hlog, hfeed⟩
  · rw [hevent, Option.toList_none, List.append_nil]
    constructor
    case capacity => rw [hlog, hconfig, h.capacity]
    case log => rw [hlog, h.log]
    case feed =>
      rw [hfeed]
      exact h.feed
  · rw [hevent, Option.toList_some]
    constructor
    case capacity => rw [hlog, hconfig, EventLog.push, h.capacity]
    case log =>
      rw [hlog, EventLog.events_push, h.log, lastItems_lastItems_concat]
      rfl
    case feed =>
      rw [hfeed]
      exact h.feed.publish event

theorem Publishes.run (h : engine.Publishes events) (steps : List Step) :
    (engine.run steps).Publishes (events ++ engine.events steps) := by
  induction steps generalizing engine events with
  | nil =>
      rw [Engine.events, List.append_nil]
      exact h
  | cons step rest ih =>
      rw [Engine.events, ← List.append_assoc, run_cons]
      exact ih (h.step step)

end Engine

/-- The history in which an owner gets tokens and locks them has one event. -/
theorem Engine.events_lockOfOwn (config : Config) (owner mint : Pubkey) (terms : Terms)
    (hin : terms.payIn = true) (hout : terms.payOut = true)
    (hconfirmations : terms.confirmations ≤ config.maxConfirmations)
    (hnonce : terms.kind = .chainNonced ∨ terms.nonce = 0)
    (hne : (Derivation.tokenAccount owner mint 1).address ≠
      (Derivation.vault config.programId mint).address) :
    let req := lockOfOwn config.programId owner mint terms
    (Engine.new config 0 .empty).events
        (fundedAccount owner mint terms.amount ++ [.request (.lock req)]) =
      [.locked req.event] := by
  intro req
  let funded := (Engine.new config 0 .empty).run (fundedAccount owner mint terms.amount)
  have henv : funded.env = ⟨config, 0⟩ := by
    show Env.mk funded.config funded.now = _
    rw [config_run, now_run]
    rfl
  obtain ⟨s', hlocked⟩ := run_lockOfOwn config owner mint terms hin hout hconfirmations hnonce hne
  obtain ⟨plan, ledger, hplan, hsteps, -, -⟩ := Operation.run_lock_eq_ok_iff.1 hlocked
  rw [← henv] at hplan
  have hperform := perform_eq_of_effect (Request.effect_of_admitted (.lock hplan)) hsteps
  have hevent : funded.eventOf? (.request (.lock req)) = some (.locked req.event) := by
    rw [eventOf?_request, hperform]
  rw [events_append, hevent]
  rfl

/-! ## Subscribers -/

/-- A subscriber at work. -/
structure Subscription where
  engine : Engine
  /-- How many events the feed will not give it again. -/
  seen : Nat
  received : List SwapEvent
  /-- How many events it was told it missed. -/
  missed : Nat

/-- Something that happens while somebody is subscribed. -/
inductive Moment
  | step (step : Step)
  /-- The subscriber asks for an event. -/
  | receive

def Moment.step? : Moment → Option Step
  | .step s => some s
  | .receive => none

/-- Subscribes to what is accepted from now on. -/
def Engine.subscribe (engine : Engine) : Subscription := ⟨engine, engine.feed.published, [], 0⟩

namespace Subscription

/-- The subscriber after it asked for an event. -/
def receive (sub : Subscription) : Subscription :=
  match sub.engine.feed.next sub.seen with
  | (.event event, seen) => { sub with seen, received := sub.received ++ [event] }
  | (.lagged missed, seen) => { sub with seen, missed := sub.missed + missed }
  | (.nothing, seen) => { sub with seen }

def after (sub : Subscription) : Moment → Subscription
  | .step step => { sub with engine := sub.engine.step step }
  | .receive => sub.receive

def run (sub : Subscription) (moments : List Moment) : Subscription := moments.foldl after sub

/-- How many events the subscriber has not been handed yet. -/
def unread (sub : Subscription) : Nat := sub.engine.feed.published - sub.seen

/-- The subscriber never falls further behind than the feed reaches back. -/
def KeepsUp (sub : Subscription) (moments : List Moment) : Prop :=
  ∀ prior, prior <+: moments → (sub.run prior).unread ≤ Feed.capacity

theorem run_cons (sub : Subscription) (moment : Moment) (moments : List Moment) :
    sub.run (moment :: moments) = (sub.after moment).run moments := rfl

theorem KeepsUp.tail {sub : Subscription} {moment : Moment} {moments : List Moment}
    (h : sub.KeepsUp (moment :: moments)) : (sub.after moment).KeepsUp moments := by
  intro prior hprior
  have := h (moment :: prior) ((List.prefix_cons_inj moment).2 hprior)
  rwa [run_cons] at this

theorem unread_subscribe (engine : Engine) : engine.subscribe.unread = 0 := Nat.sub_self _

/-- A step adds at most one unread event, and asking for one adds none. -/
theorem unread_after_le (sub : Subscription) (moment : Moment) :
    (sub.after moment).unread ≤ sub.unread + moment.step?.toList.length := by
  cases moment with
  | step step =>
      show (sub.engine.step step).feed.published - sub.seen ≤
        sub.engine.feed.published - sub.seen + 1
      rcases sub.engine.note_step step with ⟨-, -, hfeed⟩ | ⟨event, -, -, hfeed⟩
      · rw [hfeed]
        exact Nat.le_add_right ..
      · rw [hfeed]
        show sub.engine.feed.published + 1 - sub.seen ≤ _
        omega
  | receive =>
      have hseen := sub.engine.feed.le_next sub.seen
      show sub.receive.unread ≤ sub.unread
      unfold receive unread
      split <;> rename_i hnext <;> rw [hnext] at hseen <;> exact Nat.sub_le_sub_left hseen _

/-- By induction on what happens, a subscriber is at most as far behind as there were steps. -/
theorem unread_run_le (sub : Subscription) (moments : List Moment) :
    (sub.run moments).unread ≤ sub.unread + (moments.filterMap Moment.step?).length := by
  induction moments generalizing sub with
  | nil => exact Nat.le_refl _
  | cons moment rest ih =>
      have hafter := sub.unread_after_le moment
      have hrest := ih (sub.after moment)
      have hlength : ((moment :: rest).filterMap Moment.step?).length =
          moment.step?.toList.length + (rest.filterMap Moment.step?).length := by
        cases moment with
        | step step => exact Nat.add_comm ..
        | receive => exact (Nat.zero_add _).symm
      rw [run_cons, hlength]
      omega

/-- For as many steps as the feed keeps events, a subscriber keeps up even if it reads nothing. -/
theorem keepsUp_of_length_le {engine : Engine} {moments : List Moment}
    (h : (moments.filterMap Moment.step?).length ≤ Feed.capacity) :
    engine.subscribe.KeepsUp moments := by
  intro prior hprior
  calc (engine.subscribe.run prior).unread
      ≤ engine.subscribe.unread + (prior.filterMap Moment.step?).length := unread_run_le ..
    _ = (prior.filterMap Moment.step?).length := by rw [unread_subscribe, Nat.zero_add]
    _ ≤ (moments.filterMap Moment.step?).length := (hprior.filterMap _).length_le
    _ ≤ Feed.capacity := h

/-- The subscriber was handed some of the events since it subscribed, from the first on. Those in
`past` were published before. -/
structure Follows (sub : Subscription) (past since : List SwapEvent) : Prop where
  publishes : sub.engine.Publishes (past ++ since)
  received : sub.received <+: since
  seen : sub.seen = past.length + sub.received.length
  missed : sub.missed = 0

variable {sub : Subscription} {past since : List SwapEvent}

theorem Follows.subscribe {engine : Engine} (h : engine.Publishes past) :
    engine.subscribe.Follows past [] where
  publishes := by
    rw [List.append_nil]
    exact h
  received := List.prefix_rfl
  seen := h.feed.published
  missed := rfl

theorem Follows.unread_eq (h : sub.Follows past since) :
    sub.unread = since.length - sub.received.length := by
  rw [unread, h.publishes.feed.published, h.seen, List.length_append]
  omega

theorem Follows.received_eq (h : sub.Follows past since) (hunread : sub.unread = 0) :
    sub.received = since := by
  have hlength := h.received.length_le
  have heq := h.unread_eq
  exact h.received.eq_of_length (by omega)

/-- What the subscriber can read at once is what it was not handed yet. -/
theorem Follows.readFrom_eq (h : sub.Follows past since) (hunread : sub.unread ≤ Feed.capacity) :
    sub.engine.feed.readFrom sub.seen = ⟨0, since.drop sub.received.length⟩ := by
  have hfeed := h.publishes.feed
  have hbehind : (past ++ since).length - sub.seen ≤ Feed.capacity := by
    rw [← hfeed.published]
    exact hunread
  rw [hfeed.readFrom_eq hbehind, h.seen, List.drop_append]
  simp

theorem Follows.step (h : sub.Follows past since) (step : Step) :
    (sub.after (.step step)).Follows past (since ++ (sub.engine.eventOf? step).toList) where
  publishes := by
    rw [← List.append_assoc]
    exact h.publishes.step step
  received := h.received.trans (List.prefix_append ..)
  seen := h.seen
  missed := h.missed

/-- A subscriber that keeps up is handed the next event, if there is one. -/
theorem Follows.receive (h : sub.Follows past since) (hunread : sub.unread ≤ Feed.capacity) :
    sub.receive.Follows past since ∧ sub.receive.engine = sub.engine ∧
      sub.receive.unread = sub.unread - 1 := by
  obtain ⟨rest, rfl⟩ := h.received
  have hfeed := h.publishes.feed
  have hbehind : (past ++ (sub.received ++ rest)).length - sub.seen ≤ Feed.capacity := by
    rw [← hfeed.published]
    exact hunread
  have hitem : (past ++ (sub.received ++ rest))[sub.seen]? = rest.head? := by
    rw [h.seen, ← List.append_assoc, ← List.length_append,
      List.getElem?_append_right (Nat.le_refl _), Nat.sub_self, List.head?_eq_getElem?]
  have hnext := hfeed.next_eq hbehind
  rw [hitem] at hnext
  cases rest with
  | nil =>
      have hreceive : sub.receive = sub := by
        rw [Subscription.receive, hnext]
        rfl
      have hnone := h.unread_eq
      rw [List.append_nil, Nat.sub_self] at hnone
      rw [hreceive, hnone]
      exact ⟨h, rfl, rfl⟩
  | cons event rest =>
      have hreceive : sub.receive =
          { sub with seen := sub.seen + 1, received := sub.received ++ [event] } := by
        rw [Subscription.receive, hnext]
        rfl
      rw [hreceive]
      refine ⟨⟨h.publishes, ⟨rest, by simp⟩, ?_, h.missed⟩, rfl, ?_⟩
      · show sub.seen + 1 = past.length + (sub.received ++ [event]).length
        rw [h.seen, List.length_append, List.length_singleton, Nat.add_assoc]
      · show sub.engine.feed.published - (sub.seen + 1) = sub.unread - 1
        rw [unread]
        omega

/-- The invariant of a subscription: by induction on what happens, with `since` growing by the
event of each step. -/
theorem Follows.run (h : sub.Follows past since) {moments : List Moment}
    (hkeeps : sub.KeepsUp moments) :
    (sub.run moments).Follows past
      (since ++ sub.engine.events (moments.filterMap Moment.step?)) := by
  induction moments generalizing sub since with
  | nil =>
      rw [List.filterMap_nil, Engine.events, List.append_nil]
      exact h
  | cons moment rest ih =>
      have hrest := hkeeps.tail
      rw [run_cons]
      cases moment with
      | step step =>
          have hevents := ih (h.step step) hrest
          rw [List.append_assoc] at hevents
          exact hevents
      | receive =>
          have hunread : sub.unread ≤ Feed.capacity := hkeeps [] (List.nil_prefix ..)
          obtain ⟨hreceive, hengine, -⟩ := h.receive hunread
          have hevents := ih hreceive hrest
          rw [hengine] at hevents
          exact hevents

/-- A subscriber that keeps asking while nothing happens gets through its unread events. -/
theorem Follows.receive_replicate (h : sub.Follows past since)
    (hunread : sub.unread ≤ Feed.capacity) (n : Nat) :
    (sub.run (List.replicate n .receive)).Follows past since ∧
      (sub.run (List.replicate n .receive)).unread = sub.unread - n := by
  induction n generalizing sub with
  | zero => exact ⟨h, rfl⟩
  | succ n ih =>
      obtain ⟨hreceive, -, hfewer⟩ := h.receive hunread
      have hfollows := ih hreceive (by omega)
      rw [List.replicate_succ, run_cons]
      refine ⟨hfollows.1, ?_⟩
      calc (sub.receive.run (List.replicate n .receive)).unread
          = sub.receive.unread - n := hfollows.2
        _ = sub.unread - (n + 1) := by omega

end Subscription

/-- **The log and the feed tell the history of accepted requests.** Whatever the capacity and
whatever state the engine starts from, the log is the end of the events of the history, and each
of these is the answer that an accepted lock, claim or refund gave. A step without an event
changes neither the log nor the feed. A subscriber that keeps up misses nothing: what it received
and what it can read are the events since it subscribed, and if it goes on asking, it receives
all of them, each once and in their order. -/
theorem Engine.log_and_feed_follow_history (config : Config) (now : UInt64) (state : State)
    (steps : List Step) :
    let engine := (Engine.ofState config now state).run steps
    let accepted := (Engine.ofState config now state).events steps
    engine.log.events =
        lastItems (min accepted.length (max 1 config.eventLogCapacity.toNat)) accepted ∧
      (∀ step, engine.eventOf? step = none →
        (engine.step step).log = engine.log ∧ (engine.step step).feed = engine.feed) ∧
      (∀ request event, engine.eventOf? (.request request) = some event ↔
        (engine.perform request).1 = .ok (.event event)) ∧
      (∀ request, (∃ event, engine.eventOf? (.request request) = some event) ↔
        request.isSwap ∧ ∃ reply, (engine.perform request).1 = .ok reply) ∧
      ∀ moments, engine.subscribe.KeepsUp moments →
        let sub := engine.subscribe.run moments
        let since := engine.events (moments.filterMap Moment.step?)
        sub.missed = 0 ∧ sub.received <+: since ∧
          sub.engine.feed.readFrom sub.seen = ⟨0, since.drop sub.received.length⟩ ∧
          ∀ n, sub.unread ≤ n → (sub.run (List.replicate n .receive)).received = since := by
  intro engine accepted
  have hpublishes : engine.Publishes accepted := (Publishes.ofState config now state).run steps
  have hconfig : engine.config = config := Engine.config_run ..
  refine ⟨?_, ?_, fun request event => eventOf?_request, engine.exists_eventOf?, ?_⟩
  · rw [lastItems_min_length, hpublishes.log, hpublishes.capacity, hconfig, Nat.max_comm]
  · intro step hnone
    rcases engine.note_step step with ⟨-, hsame⟩ | ⟨event, hevent, -⟩
    · exact hsame
    · rw [hnone] at hevent
      cases hevent
  · intro moments hkeeps sub since
    have hfollows : sub.Follows accepted since :=
      (Subscription.Follows.subscribe hpublishes).run hkeeps
    have hunread : sub.unread ≤ Feed.capacity := hkeeps moments List.prefix_rfl
    refine ⟨hfollows.missed, hfollows.received, hfollows.readFrom_eq hunread, ?_⟩
    intro n hn
    obtain ⟨hdone, hleft⟩ := hfollows.receive_replicate hunread n
    exact hdone.received_eq (by omega)

/-- The owner gets tokens and locks them. The lock is the one event: it is in the log, and it is
what a subscriber receives that was there from the beginning and asks three times afterwards. -/
theorem Engine.log_and_feed_of_lockOfOwn :
    let engine := Engine.new .standard 0 .empty
    let req := lockOfOwn Config.standard.programId someOwner someMint someTerms
    let steps := fundedAccount someOwner someMint someTerms.amount ++ [.request (.lock req)]
    let sub := engine.subscribe.run (steps.map .step)
    (engine.run steps).log.events = [.locked req.event] ∧ sub.missed = 0 ∧
      (sub.run (List.replicate 3 .receive)).received = [.locked req.event] := by
  intro engine req steps sub
  have haccepted : engine.events steps = [.locked req.event] :=
    events_lockOfOwn .standard someOwner someMint someTerms rfl rfl (by decide) (.inr rfl)
      someAccount_ne_vault
  have hsteps : (steps.map Moment.step).filterMap Moment.step? = steps := by
    rw [List.filterMap_map]
    exact List.filterMap_some
  have hnew : engine = .ofState .standard 0 (.new Config.standard.programId .empty) := rfl
  have hlog := (log_and_feed_follow_history .standard 0 (.new Config.standard.programId .empty)
    steps).1
  rw [← hnew, haccepted] at hlog
  obtain ⟨-, -, -, -, hsubscriber⟩ :=
    log_and_feed_follow_history .standard 0 (.new Config.standard.programId .empty) []
  obtain ⟨hmissed, -, -, hreceived⟩ := hsubscriber (steps.map .step)
    (Subscription.keepsUp_of_length_le (by rw [hsteps]; decide))
  have hunread : sub.unread ≤ 3 := by
    have hle := engine.subscribe.unread_run_le (steps.map .step)
    have hlength : steps.length = 3 := rfl
    rw [hsteps, Subscription.unread_subscribe, hlength, Nat.zero_add] at hle
    exact hle
  have hevents : (sub.run (List.replicate 3 .receive)).received =
      engine.events ((steps.map Moment.step).filterMap Moment.step?) := hreceived 3 hunread
  rw [hsteps, haccepted] at hevents
  exact ⟨hlog, hmissed, hevents⟩

end AtomicEscrow
