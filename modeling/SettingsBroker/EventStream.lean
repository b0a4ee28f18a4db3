/-
# Event streams

A stream of events that several readers follow at their own pace.  The stream
keeps only its latest events; a reader that has fallen behind them is told how
many it has missed and then goes on with the oldest event that is kept.
-/

namespace SettingsBroker

/-- A stream with the events that it still keeps. -/
structure EventStream (α : Type) where
  /-- How many events are kept. -/
  capacity : Nat
  /-- How many events have been sent. -/
  sent : Nat
  /-- The latest events, the oldest first. -/
  kept : List α
  closed : Bool

namespace EventStream

variable {α : Type}

/-- An empty stream.  At least one event is kept, and their number is rounded up
to a power of two. -/
def empty (capacity : Nat) : EventStream α :=
  ⟨(max capacity 1).nextPowerOfTwo, 0, [], false⟩

/-- Sends an event; a closed stream loses it. -/
def send (stream : EventStream α) (event : α) : EventStream α :=
  if stream.closed then stream
  else
    let kept := stream.kept ++ [event]
    { stream with sent := stream.sent + 1, kept := kept.drop (kept.length - stream.capacity) }

/-- Sends several events in order. -/
def sendAll (stream : EventStream α) (events : List α) : EventStream α :=
  events.foldl send stream

/-- Ends the stream. -/
def close (stream : EventStream α) : EventStream α :=
  { stream with closed := true }

/-- The number of events that came before the oldest one kept. -/
def dropped (stream : EventStream α) : Nat :=
  stream.sent - stream.kept.length

/-- What a reader finds. -/
inductive Reception (α : Type) where
  | event (event : α)
  | lagged (missed : Nat)
  /-- Nothing yet. -/
  | empty
  /-- Nothing any more. -/
  | closed
  deriving DecidableEq

/-- What the reader at a position finds, and its position afterwards. -/
def receive (stream : EventStream α) (position : Nat) : Reception α × Nat :=
  if position < stream.dropped then (.lagged (stream.dropped - position), stream.dropped)
  else
    match stream.kept[position - stream.dropped]? with
    | some event => (.event event, position + 1)
    | none => (if stream.closed then .closed else .empty, position)

/-- Everything that waits for the reader at a position. -/
def drainFrom (stream : EventStream α) (position : Nat) : Nat → List (Reception α) × Nat
  | 0 => ([], position)
  | fuel + 1 =>
    match stream.receive position with
    | (.empty, position) => ([], position)
    | (.closed, position) => ([.closed], position)
    | (found, position) =>
      let (later, position) := stream.drainFrom position fuel
      (found :: later, position)

/-- Everything that waits for the reader at a position, and its position
afterwards. -/
def drain (stream : EventStream α) (position : Nat) : List (Reception α) × Nat :=
  stream.drainFrom position (stream.kept.length + 2)

end EventStream

end SettingsBroker
