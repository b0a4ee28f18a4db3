/-
# An audience

The delegates that take part in a session, under names, with what each of them
hears.  A delegate lives while it is held under its name, and while a batch is
being told to delegates until its turn is over.
-/

import SettingsBroker.Delegate

namespace SettingsBroker

/-- The manner in which a delegate behaves. -/
inductive Manner where
  | prompt
  /-- Is done at once and does not listen to progress messages. -/
  | quiet
  | slow (ms : Nat)
  | failing
  | panicking
  | hanging
  deriving DecidableEq, Repr

/-- The reaction to any part of a batch. -/
def Manner.reaction : Manner → Reaction
  | .prompt | .quiet => .returns 0 none
  | .slow ms => .returns ms none
  | .failing => .returns 0 (some (.delegate "refused"))
  | .panicking => .panics 0
  | .hanging => .hangs

def Manner.conduct (manner : Manner) : Conduct :=
  ⟨fun _ => manner.reaction, fun _ => false⟩

/-- A delegate that takes part. -/
structure Member where
  name : String
  manner : Manner
  deriving DecidableEq, Repr

/-- A part of a batch as it was told to a delegate. -/
structure Call where
  time : Nat
  name : String
  part : ChangeReport
  deriving DecidableEq

/-- A progress message as it was told to a delegate. -/
structure LogCall where
  name : String
  task : String
  message : String
  deriving DecidableEq, Repr

/-- The delegates of a session. -/
structure Audience where
  /-- How long a delegate may take with one batch. -/
  limit : Nat
  registry : DelegateRegistry
  /-- All delegates that ever took part; a delegate's number is its position. -/
  members : List Member
  /-- The delegates held under a name. -/
  held : List (String × Delegate)
  /-- The registration number last given under each name. -/
  ids : List (String × Nat)
  /-- The turns that are not over yet. -/
  turns : List Turn
  /-- What was told and is still to be told, in order. -/
  calls : List Call
  logs : List LogCall

namespace Audience

/-- An audience without delegates. -/
def empty (limit : Nat) : Audience := ⟨limit, .empty, [], [], [], [], [], []⟩

/-- Enters a value under a name in place of an earlier one. -/
def enter {α : Type} (table : List (String × α)) (name : String) (value : α) : List (String × α) :=
  (name, value) :: table.filter (·.1 ≠ name)

/-- Whether a delegate is held or its turn is still to come or under way. -/
def isAlive (audience : Audience) (delegate : Delegate) : Bool :=
  audience.held.any (·.2 = delegate) || audience.turns.any (·.delegate = delegate)

/-- Registers the delegate held under a name once more. -/
def registerHeld (audience : Audience) (name : String) (delegate : Delegate) : Audience × Nat :=
  let (registry, id) := audience.registry.register delegate
  ({ audience with registry, ids := enter audience.ids name id }, id)

/-- Registers a delegate under a name and gives its registration number.  A new
delegate takes the place of the one held; with `again` the one held, if any, is
registered once more instead. -/
def register (audience : Audience) (member : Member) (again : Bool) : Audience × Nat :=
  match again, audience.held.lookup member.name with
  | true, some delegate => audience.registerHeld member.name delegate
  | _, _ =>
    let delegate := audience.members.length
    { audience with
      members := audience.members ++ [member]
      held := enter audience.held member.name delegate }.registerHeld member.name delegate

/-- Ends the last registration under a name and says whether there was one. -/
def unregister (audience : Audience) (name : String) : Audience × Bool :=
  match audience.ids.lookup name with
  | none => (audience, false)
  | some id =>
    let (registry, removed) := audience.registry.unregister id
    ({ audience with registry }, removed)

/-- Lets go of the delegate held under a name and says whether there was one. -/
def release (audience : Audience) (name : String) : Audience × Bool :=
  ({ audience with held := audience.held.filter (·.1 ≠ name) }, (audience.held.lookup name).isSome)

/-- Strikes out the delegates that are gone. -/
def prune (audience : Audience) : Audience :=
  { audience with registry := audience.registry.prune audience.isAlive }

def conduct (audience : Audience) (delegate : Delegate) : Conduct :=
  ((audience.members[delegate]?.map Member.manner).getD .prompt).conduct

def nameOf (audience : Audience) (delegate : Delegate) : String :=
  (audience.members[delegate]?.map Member.name).getD ""

/-- The registry after a batch was told, and the turns that the batch brings about. -/
def turnsFor (audience : Audience) (now : Nat) (batch : ChangeBatch) :
    DelegateRegistry × List Turn :=
  audience.registry.dispatch audience.isAlive (fun entry => audience.conduct entry.2)
    audience.limit now batch

/-- How long a batch takes to be told. -/
def duration (audience : Audience) (now : Nat) (batch : ChangeBatch) : Nat :=
  turnsEnd now (audience.turnsFor now batch).2 - now

/-- Tells a batch to the delegates. -/
def dispatch (audience : Audience) (now : Nat) (batch : ChangeBatch) : Audience :=
  let (registry, turns) := audience.turnsFor now batch
  let calls := turns.flatMap fun turn =>
    turn.calls.map fun (time, part) => ⟨time, audience.nameOf turn.delegate, part⟩
  { audience with
    registry
    turns := audience.turns ++ turns
    calls := audience.calls ++ calls }

/-- Tells a progress message to the delegates that listen to them. -/
def log (audience : Audience) (task message : String) : Audience :=
  let audience := audience.prune
  let listening := audience.registry.delegates.filterMap fun delegate =>
    match audience.members[delegate]? with
    | some ⟨_, .quiet⟩ | none => none
    | some member => some ⟨member.name, task, message⟩
  { audience with logs := audience.logs ++ listening }

/-- Lets the turns end that are over. -/
def passTo (audience : Audience) (now : Nat) : Audience :=
  { audience with turns := audience.turns.filter (now < ·.finish) }

/-- What was told until some time, and the audience without it. -/
def heard (audience : Audience) (now : Nat) : List Call × List LogCall × Audience :=
  let (told, later) := audience.calls.partition (·.time ≤ now)
  (told, audience.logs, { audience with calls := later, logs := [] })

end Audience

end SettingsBroker
