import LspHost.Event

/-!
The event broker: queues of events, filled by type.

A queue holds at most as many events as the broker's capacity; when one more comes, the oldest is
dropped, so publishing never waits. A capacity of zero means no bound.
-/

namespace LspHost

/-- A broker: its capacity, the content of each queue, and the subscriptions, a queue and a type
each, in the order in which they were made. -/
structure Broker where
  capacity : Nat
  queues : List (List Event)
  subscriptions : List (EventType × Nat)
  deriving DecidableEq, Repr

namespace Broker

/-- A broker without queues. -/
def empty (capacity : Nat) : Broker := ⟨capacity, [], []⟩

/-- The content of a queue, oldest event first. -/
def content (b : Broker) (queue : Nat) : List Event := (b.queues[queue]?).getD []

/-- Adds an event to a full or not yet full queue. -/
def enqueue (capacity : Nat) (events : List Event) (e : Event) : List Event :=
  if capacity ≠ 0 ∧ capacity ≤ events.length then events.tail ++ [e] else events ++ [e]

/-- Makes a queue for some types of events and gives its number. -/
def subscribe (b : Broker) (types : List EventType) : Broker × Nat :=
  let queue := b.queues.length
  ({ b with
      queues := b.queues ++ [[]]
      subscriptions := b.subscriptions ++ types.map fun t => (t, queue) }, queue)

/-- Ends one subscription of a queue to each of some types. -/
def unsubscribe (b : Broker) (queue : Nat) (types : List EventType) : Broker :=
  { b with subscriptions := types.foldl (fun s t => s.erase (t, queue)) b.subscriptions }

/-- The queues that get an event of a type, once for each subscription. -/
def receivers (b : Broker) (type : EventType) : List Nat :=
  (b.subscriptions.filter fun s => s.1 = type).map Prod.snd

/-- Adds an event to one queue. -/
def deliver (b : Broker) (e : Event) (queue : Nat) : Broker :=
  { b with queues := b.queues.modify queue fun events => enqueue b.capacity events e }

/-- Adds an event to the queues that are subscribed to its type. -/
def publish (b : Broker) (e : Event) : Broker :=
  (b.receivers e.type).foldl (fun b q => b.deliver e q) b

/-- Takes the oldest events of a queue, at most so many. -/
def drain (b : Broker) (queue count : Nat) : Broker × List Event :=
  ({ b with queues := b.queues.modify queue fun events => events.drop count },
    (b.content queue).take count)

end Broker

end LspHost
