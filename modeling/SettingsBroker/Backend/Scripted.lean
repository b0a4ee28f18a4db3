/-
# Scripted build systems

A build system that answers what it is told to answer, after the time it is told
to take.  Queries can be held back until they are let go together, and can be
made to fail or to break down.  What an answer says is settled at the moment
when it is given.
-/

import SettingsBroker.EventStream
import SettingsBroker.Settings
import SettingsBroker.Target
import Std.Data.ExtTreeMap

namespace SettingsBroker

/-- How a question is dealt with. -/
structure Reactions where
  /-- How long it takes until the question is looked at. -/
  delay : Nat
  /-- Whether there is no answer but a failure. -/
  failing : Bool
  /-- Whether the build system breaks down over the question. -/
  panicking : Bool
  deriving DecidableEq, Repr

/-- A scripted build system. -/
structure Scripted where
  name : String
  /-- The arguments of the documents that it knows. -/
  arguments : Std.ExtTreeMap Document (List String)
  /-- The directory that the compiler runs in. -/
  directory : FilePath
  targetList : List BuildTarget
  onSettings : Reactions
  onTargets : Reactions
  /-- Whether questions for settings are held back. -/
  blocked : Bool
  events : EventStream BuildEvent

namespace Scripted

/-- Answers a question unless the reactions say otherwise. -/
def react {α : Type} (reactions : Reactions) (answer : α) : Except Failure α :=
  if reactions.panicking then .error (.backend "the query broke down")
  else if reactions.failing then .error (.backend "the query failed")
  else .ok answer

/-- The settings of a document, if it is known. -/
def settings (s : Scripted) (document : Document) : Except Failure (Option BuildSettings) :=
  react s.onSettings (s.arguments[document]?.map fun arguments =>
    .answered (.other s.name) (Language.ofDocument document) arguments s.directory)

/-- All targets. -/
def targets (s : Scripted) : Except Failure (List BuildTarget) :=
  react s.onTargets s.targetList

end Scripted

end SettingsBroker
