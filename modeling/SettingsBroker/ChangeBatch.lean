/-
# Change batches

Changes are not told to delegates one by one: reports are absorbed into a batch
that tells each thing once.  Changed documents are united, affected documents
are merged, and of the events on one target only the last one is kept, in the
place of the first.
-/

import SettingsBroker.Target

namespace SettingsBroker

/-- One report of a change. -/
inductive ChangeReport where
  | settings (documents : DocumentSet)
  /-- What these documents are compiled against changed. -/
  | dependencies (affected : Affected)
  | targets (changes : TargetChanges)
  deriving DecidableEq

/-- Whether a report says nothing. -/
def ChangeReport.isEmpty : ChangeReport → Bool
  | .settings documents => documents.isEmpty
  | .dependencies affected => affected.isEmpty
  | .targets changes => changes.isEmpty

namespace TargetChanges

/-- Notes an event.  An earlier event on the same target keeps its place and
takes over the kind. -/
def note (noted : List TargetEvent) (event : TargetEvent) : List TargetEvent :=
  match noted with
  | [] => [event]
  | first :: rest =>
    if first.target = event.target then { first with kind := event.kind } :: rest
    else first :: note rest event

/-- The events of a list, those on one target as one. -/
def summary (events : List TargetEvent) : List TargetEvent :=
  events.foldl note []

/-- What is known of targets after further changes. -/
def merge (before : Option TargetChanges) (changes : TargetChanges) : TargetChanges :=
  match before, changes with
  | some .unknown, _ | _, .unknown => .unknown
  | none, .listed events => .listed (summary events)
  | some (.listed noted), .listed events => .listed (events.foldl note noted)

end TargetChanges

/-- Reports taken together.  A part about which nothing was reported is
absent. -/
structure ChangeBatch where
  settings : DocumentSet
  /-- The documents affected by other changes. -/
  dependencies : Option Affected
  targets : Option TargetChanges
  deriving DecidableEq

namespace ChangeBatch

/-- The batch before any report. -/
def empty : ChangeBatch := ⟨∅, none, none⟩

/-- Takes in a report. -/
def absorb (batch : ChangeBatch) : ChangeReport → ChangeBatch
  | .settings documents => { batch with settings := batch.settings ∪ documents }
  | .dependencies affected =>
    { batch with dependencies := some ((batch.dependencies.getD .none).merge affected) }
  | .targets changes => { batch with targets := some (TargetChanges.merge batch.targets changes) }

/-- The batch of a sequence of reports. -/
def ofReports (reports : List ChangeReport) : ChangeBatch :=
  reports.foldl absorb empty

/-- The parts of the batch that say something, as they are told to a delegate
one after another. -/
def parts (batch : ChangeBatch) : List ChangeReport :=
  (ChangeReport.settings batch.settings
    :: (batch.dependencies.map ChangeReport.dependencies).toList
    ++ (batch.targets.map ChangeReport.targets).toList).filter (!·.isEmpty)

/-- Whether the batch says nothing. -/
def isEmpty (batch : ChangeBatch) : Bool :=
  batch.parts.isEmpty

end ChangeBatch

end SettingsBroker
