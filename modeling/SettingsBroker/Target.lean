/-
# Targets and what is reported about them

A target is a build system's unit of compilation: its source documents and the
targets it depends on.  Changes are reported as events on targets, as sets of
affected documents, and as documents whose settings changed.  Where a change
cannot be narrowed down, everything counts as affected.
-/

import SettingsBroker.Document
import Std.Data.ExtTreeSet

namespace SettingsBroker

structure TargetId where
  /-- The build system's name for the target. -/
  name : String
  deriving DecidableEq, Inhabited, Repr

/-- Targets are ordered by name. -/
instance : Ord TargetId := ⟨fun a b => compare a.name b.name⟩

instance : Std.TransOrd TargetId where
  eq_swap := (inferInstance : Std.TransOrd String).eq_swap
  isLE_trans h k := (inferInstance : Std.TransOrd String).isLE_trans h k

instance : Std.LawfulEqOrd TargetId where
  eq_of_compare {a b} h := by
    cases a; cases b
    exact congrArg TargetId.mk (Std.LawfulEqOrd.eq_of_compare h)

abbrev DocumentSet := Std.ExtTreeSet Document

abbrev TargetSet := Std.ExtTreeSet TargetId

/-- A unit of compilation. -/
structure BuildTarget where
  id : TargetId
  /-- The name shown to people. -/
  displayName : String
  /-- The documents compiled for the target. -/
  sources : DocumentSet
  dependencies : TargetSet
  deriving DecidableEq

/-! ## Target events -/

inductive TargetEventKind where
  | created
  | changed
  | removed
  deriving DecidableEq, Inhabited, Repr

def TargetEventKind.name : TargetEventKind → String
  | .created => "created"
  | .changed => "changed"
  | .removed => "removed"

/-- The kind of event with a given name. -/
def TargetEventKind.ofName? (name : String) : Option TargetEventKind :=
  [created, changed, removed].find? (·.name = name)

/-- An event on one target.  Without a target, every target must be taken to be
affected. -/
structure TargetEvent where
  /-- The target, if the build system could name it. -/
  target : Option TargetId
  kind : TargetEventKind
  deriving DecidableEq, Inhabited, Repr

/-- What is reported about targets. -/
inductive TargetChanges where
  /-- Everything may have changed. -/
  | unknown
  | listed (events : List TargetEvent)
  deriving DecidableEq, Inhabited, Repr

/-- Whether there is nothing to report. -/
def TargetChanges.isEmpty : TargetChanges → Bool
  | .unknown => false
  | .listed events => events.isEmpty

/-! ## Affected documents -/

/-- The documents affected by a change. -/
inductive Affected where
  | all
  | only (documents : DocumentSet)
  deriving DecidableEq

namespace Affected

def none : Affected := .only ∅

/-- Whether everything is affected. -/
def isAll : Affected → Bool
  | .all => true
  | .only _ => false

/-- Whether no document is affected. -/
def isEmpty : Affected → Bool
  | .all => false
  | .only documents => documents.isEmpty

/-- Whether a document is affected. -/
def contains (affected : Affected) (document : Document) : Bool :=
  match affected with
  | .all => true
  | .only documents => documents.contains document

/-- The documents affected by either of two changes. -/
def merge : Affected → Affected → Affected
  | .all, _ => .all
  | .only _, .all => .all
  | .only mine, .only theirs => .only (mine ∪ theirs)

/-- A document is affected by two changes together when it is affected by one
of them. -/
theorem contains_merge (a b : Affected) (document : Document) :
    (a.merge b).contains document = (a.contains document || b.contains document) := by
  cases a <;> cases b <;> simp [merge, contains]

end Affected

/-! ## Events of a build system -/

/-- What a build system reports of itself. -/
inductive BuildEvent where
  | settingsChanged (documents : DocumentSet)
  /-- What these documents are compiled against changed. -/
  | dependenciesUpdated (affected : Affected)
  | targetsChanged (events : List TargetEvent)
  | log (task message : String)
  deriving DecidableEq

end SettingsBroker
