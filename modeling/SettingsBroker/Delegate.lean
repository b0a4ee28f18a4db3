/-
# Delegates

Delegates are told about changes in the order in which they registered, one
after the other.  How one of them behaves never matters to the others, except
that they are told later: a delegate that has not finished with a batch after
the time limit is left alone and the next one is told.

The registry does not own delegates.  One whose owner has let go of it is
struck out when the registry is used next.
-/

import SettingsBroker.ChangeBatch
import SettingsBroker.Error

namespace SettingsBroker

/-- A delegate, by a number of its own. -/
abbrev Delegate := Nat

/-- The registered delegates. -/
structure DelegateRegistry where
  lastId : Nat
  /-- The registrations in order: their numbers and delegates. -/
  entries : List (Nat × Delegate)
  deriving DecidableEq, Repr

namespace DelegateRegistry

/-- The registry without registrations. -/
def empty : DelegateRegistry := ⟨0, []⟩

/-- Registers a delegate under a new number; a delegate may be registered more
than once. -/
def register (registry : DelegateRegistry) (delegate : Delegate) : DelegateRegistry × Nat :=
  let id := registry.lastId + 1
  (⟨id, registry.entries ++ [(id, delegate)]⟩, id)

/-- Ends a registration and says whether there was one. -/
def unregister (registry : DelegateRegistry) (id : Nat) : DelegateRegistry × Bool :=
  ({ registry with entries := registry.entries.filter (·.1 ≠ id) },
    registry.entries.any (·.1 = id))

/-- Strikes out the delegates that are gone. -/
def prune (registry : DelegateRegistry) (alive : Delegate → Bool) : DelegateRegistry :=
  { registry with entries := registry.entries.filter fun (_, delegate) => alive delegate }

/-- The registered delegates in order, each as often as it is registered. -/
def delegates (registry : DelegateRegistry) : List Delegate :=
  registry.entries.map (·.2)

end DelegateRegistry

/-! ## Telling delegates -/

/-- What becomes of telling a delegate one part of a batch. -/
inductive Reaction where
  /-- It is done with the part after some time, with a failure or without. -/
  | returns (after : Nat) (failure : Option Failure)
  /-- It breaks down after some time and hears no more of the batch. -/
  | panics (after : Nat)
  | hangs
  deriving DecidableEq, Repr

/-- How a delegate behaves in one turn. -/
structure Conduct where
  react : ChangeReport → Reaction
  /-- Whether it still begins to hear a part when the limit is reached at the very moment at
  which it is done with the part before. -/
  late : ChangeReport → Bool

/-- The parts of a batch that a delegate begins to hear within the limit, with
the time since its turn began, and when it is done with them or is left alone.
-/
def Conduct.hear (conduct : Conduct) (limit elapsed : Nat) :
    List ChangeReport → List (Nat × ChangeReport) × Nat
  | [] => ([], min elapsed limit)
  | part :: rest =>
    if elapsed < limit ∨ (elapsed = limit ∧ conduct.late part) then
      match conduct.react part with
      | .returns after _ =>
        let (heard, finish) := conduct.hear limit (elapsed + after) rest
        ((elapsed, part) :: heard, finish)
      | .panics after => ([(elapsed, part)], min (elapsed + after) limit)
      | .hangs => ([(elapsed, part)], limit)
    else ([], limit)

/-- One delegate's turn at a batch. -/
structure Turn where
  delegate : Delegate
  /-- What it hears, and when. -/
  calls : List (Nat × ChangeReport)
  finish : Nat
  deriving DecidableEq

/-- The turn of a delegate that begins at some time. -/
def Turn.at (conduct : Conduct) (limit start : Nat) (batch : ChangeBatch) (delegate : Delegate) :
    Turn :=
  let (heard, duration) := conduct.hear limit 0 batch.parts
  ⟨delegate, heard.map fun (elapsed, part) => (start + elapsed, part), start + duration⟩

/-- The turns of delegates at a batch, one after the other. -/
def turns (limit start : Nat) (batch : ChangeBatch) : List (Delegate × Conduct) → List Turn
  | [] => []
  | (delegate, conduct) :: rest =>
    let turn := Turn.at conduct limit start batch delegate
    turn :: turns limit turn.finish batch rest

/-- When turns that began at some time are all over. -/
def turnsEnd (start : Nat) (turns : List Turn) : Nat :=
  (turns.getLast?.map (·.finish)).getD start

/-- Tells a batch that says something to the delegates that are alive when this
begins, and strikes out the others.  Each registration has a turn, with the
conduct of its delegate in that turn. -/
def DelegateRegistry.dispatch (registry : DelegateRegistry) (alive : Delegate → Bool)
    (conduct : Nat × Delegate → Conduct) (limit start : Nat) (batch : ChangeBatch) :
    DelegateRegistry × List Turn :=
  if batch.isEmpty then (registry, [])
  else
    let registry := registry.prune alive
    (registry, turns limit start batch
      (registry.entries.map fun entry => (entry.2, conduct entry)))

end SettingsBroker
