import AtomicEscrow.Engine.Event

set_option autoImplicit false

/-! # The event log and the feed

Two places keep the events of accepted requests, oldest first. The *log* keeps as many of the
latest as its capacity says, but never fewer than one. The *feed* is for subscribers: each reads
on from where it left off, and the feed keeps the latest 1024 events for those that are slow. A
subscriber that falls further behind is told how many it missed.
-/

namespace AtomicEscrow

def lastItems {α : Type} (count : Nat) (items : List α) : List α :=
  items.drop (items.length - count)

/-- The latest events, oldest first. -/
structure EventLog where
  /-- How many events are kept. -/
  capacity : Nat
  events : List SwapEvent

namespace EventLog

/-- The log of an engine that has accepted nothing yet. -/
def empty (capacity : Nat) : EventLog := ⟨capacity, []⟩

/-- The events that stay when the oldest go, one by one, until there are fewer than the limit. -/
def makeRoom (limit : Nat) : List SwapEvent → List SwapEvent
  | [] => []
  | oldest :: rest => if limit ≤ rest.length + 1 then makeRoom limit rest else oldest :: rest

def push (log : EventLog) (event : SwapEvent) : EventLog :=
  { log with events := makeRoom (max log.capacity 1) log.events ++ [event] }

end EventLog

/-- The events that subscribers can still read, oldest first. -/
structure Feed where
  /-- How many events were ever published. -/
  published : Nat
  kept : List SwapEvent

/-- What a subscriber reads: how many events it missed, and those it did not. -/
structure Reading where
  missed : Nat
  events : List SwapEvent

/-- What a subscriber is handed when it asks for one event. -/
inductive Delivery
  | event (event : SwapEvent)
  /-- So many events are no longer there. -/
  | lagged (missed : Nat)
  /-- It has seen everything. -/
  | nothing

namespace Feed

/-- How many events are kept for slow subscribers. -/
def capacity : Nat := 1024

def empty : Feed := ⟨0, []⟩

def publish (feed : Feed) (event : SwapEvent) : Feed :=
  ⟨feed.published + 1, lastItems capacity (feed.kept ++ [event])⟩

/-- What a subscriber is handed that has seen the first `seen` events, and how many it has seen
then. Events it missed count as seen. -/
def next (feed : Feed) (seen : Nat) : Delivery × Nat :=
  let oldest := feed.published - feed.kept.length
  if seen < oldest then (.lagged (oldest - seen), oldest)
  else
    match feed.kept[seen - oldest]? with
    | some event => (.event event, seen + 1)
    | none => (.nothing, seen)

/-- What a subscriber reads that has seen the first `seen` events. -/
def readFrom (feed : Feed) (seen : Nat) : Reading :=
  let unread := feed.published - seen
  ⟨unread - feed.kept.length, lastItems unread feed.kept⟩

end Feed

end AtomicEscrow
