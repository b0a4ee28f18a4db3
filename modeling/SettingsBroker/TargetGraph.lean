/-
# The target graph

The known targets, with the edges against the direction of dependency and the
owners of each document.  The graph is kept up to date event by event and can
be built anew from a snapshot.  Its question is which documents a change of a
target affects: the sources of the target and of every target that depends on
it, directly or through others.

Building from a snapshot takes the definitions in order.  Inserting a target
does not look for an earlier one under the same identity; where the order of
definitions could matter, the earlier one is removed first.
-/

import SettingsBroker.Graph.Reach
import SettingsBroker.Target

namespace SettingsBroker

/-- The known targets and how they hang together. -/
structure TargetGraph where
  targets : Std.ExtTreeMap TargetId BuildTarget
  /-- For each target, those that depend on it. -/
  dependents : Std.ExtTreeMap TargetId TargetSet
  /-- For each document, the targets that compile it. -/
  owners : Std.ExtTreeMap Document TargetSet
  deriving DecidableEq

namespace TargetGraph

variable {α : Type} [Ord α] [Std.TransOrd α]

/-- Enters a target into the set under a key. -/
def link (id : TargetId) (table : Std.ExtTreeMap α TargetSet) (key : α) :
    Std.ExtTreeMap α TargetSet :=
  table.alter key fun ids => some ((ids.getD ∅).insert id)

/-- Strikes a target out of the set under a key; no set is left empty. -/
def unlink (id : TargetId) (table : Std.ExtTreeMap α TargetSet) (key : α) :
    Std.ExtTreeMap α TargetSet :=
  table.alter key fun ids =>
    match ids with
    | none => none
    | some ids =>
      let rest := ids.erase id
      if rest.isEmpty then none else some rest

/-- The graph without targets. -/
def empty : TargetGraph := ⟨∅, ∅, ∅⟩

instance : Inhabited TargetGraph := ⟨empty⟩

/-- Enters a target.  A dependency on itself is dropped. -/
def insert (graph : TargetGraph) (target : BuildTarget) : TargetGraph :=
  let target := { target with dependencies := target.dependencies.erase target.id }
  { targets := graph.targets.insert target.id target
    dependents := target.dependencies.toList.foldl (link target.id) graph.dependents
    owners := target.sources.toList.foldl (link target.id) graph.owners }

/-- Takes a target out with its own edges.  Edges of other targets towards it
stay, so that it is wired in again when it comes back. -/
def remove (graph : TargetGraph) (id : TargetId) : TargetGraph :=
  match graph.targets[id]? with
  | none => graph
  | some target =>
    { targets := graph.targets.erase id
      dependents := target.dependencies.toList.foldl (unlink id) graph.dependents
      owners := target.sources.toList.foldl (unlink id) graph.owners }

/-- The graph built from a snapshot. -/
def ofSnapshot (snapshot : List BuildTarget) : TargetGraph :=
  snapshot.foldl insert empty

/-- A target and all that depend on it, directly or through others. -/
def dependentsOf (graph : TargetGraph) (id : TargetId) : TargetSet :=
  Graph.reach (graph.dependents.map fun _ ids => ids.toList) ∅ [id]

/-- The documents that a change of a target affects. -/
def affectedBy (graph : TargetGraph) (id : TargetId) : DocumentSet :=
  (graph.dependentsOf id).toList.foldl
    (fun documents id =>
      match graph.targets[id]? with
      | some target => documents ∪ target.sources
      | none => documents)
    ∅

/-- Takes in one event.  `definition` is the target as it is after the event, if
it still exists.  What the target affected before and what it affects now are
both affected by the event. -/
def apply (graph : TargetGraph) (event : TargetEvent) (definition : Option BuildTarget) :
    TargetGraph × Affected :=
  match event.target with
  | none => (graph, .all)
  | some id =>
    let before := graph.affectedBy id
    match event.kind, definition with
    | .removed, _ | _, none => (graph.remove id, .only before)
    | _, some target =>
      let graph := (graph.remove id).insert target
      (graph, .only (before ∪ graph.affectedBy id))

/-- The last definition of each target in a snapshot. -/
def definitions (snapshot : List BuildTarget) : Std.ExtTreeMap TargetId BuildTarget :=
  snapshot.foldl (fun table target => table.insert target.id target) ∅

/-- Takes in events one after another with definitions from a snapshot; with
`rebuild` the graph is then built anew from the snapshot. -/
def applySnapshot (graph : TargetGraph) (events : List TargetEvent) (snapshot : List BuildTarget)
    (rebuild : Bool) : TargetGraph × Affected :=
  let table := definitions snapshot
  let (graph, affected) := events.foldl
    (fun (graph, affected) event =>
      let (graph, more) := graph.apply event (event.target.bind fun id => table[id]?)
      (graph, affected.merge more))
    (graph, Affected.none)
  (if rebuild then ofSnapshot snapshot else graph, affected)

/-- The documents that a known target compiles. -/
def knownDocuments (graph : TargetGraph) : DocumentSet :=
  .ofList graph.owners.keys

def size (graph : TargetGraph) : Nat :=
  graph.targets.size

end TargetGraph

end SettingsBroker
