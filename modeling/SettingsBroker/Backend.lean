/-
# Build systems

The build systems that a broker can stand in front of.  Each is asked for the
settings of a document and for its targets, and reports events to whoever
listens.  Those that read a file or run a program can be told to read again.
-/

import SettingsBroker.Backend.Scripted
import SettingsBroker.CompileDatabase
import SettingsBroker.PlanLoader

namespace SettingsBroker

/-- A build system with what it reads. -/
inductive Backend where
  /-- No build system: it has no opinion on any document. -/
  | silent (events : EventStream BuildEvent)
  /-- A compilation database in a file, with where paths are seen from. -/
  | database (here : Whereabouts) (source : CompileSource) (file : FileContent)
  | package (source : PlanSource) (loader : PlanLoader)
  | scripted (script : Scripted)

/-- What a build system says when it is told to read again. -/
inductive Reloaded where
  /-- These documents changed. -/
  | documents (changed : DocumentSet)
  /-- These events happened to targets. -/
  | events (events : List TargetEvent)

namespace Backend

def id : Backend → BackendId
  | .silent _ => .fallbackOnly
  | .database .. => .compilationDatabase
  | .package .. => .packageManager
  | .scripted script => .other script.name

def events : Backend → EventStream BuildEvent
  | .silent events => events
  | .database _ source _ => source.events
  | .package source _ => source.events
  | .scripted script => script.events

/-- The settings of a document, if the build system has an opinion. -/
def settings (backend : Backend) (document : Document) :
    Backend × Except Failure (Option BuildSettings) :=
  match backend with
  | .silent _ => (backend, .ok none)
  | .database _ source _ => (backend, .ok (source.database.settings? document))
  | .package source loader =>
    let (source, answer) := source.ask (.settings document) loader.load
    (.package source loader,
      match answer with
      | .settings found => .ok found
      | .failed failure => .error failure
      | _ => .ok none)
  | .scripted script => (backend, script.settings document)

def targets (backend : Backend) : Backend × Except Failure (List BuildTarget) :=
  match backend with
  | .silent _ => (backend, .ok [])
  | .database _ source _ => (backend, .ok [source.database.target])
  | .package source loader =>
    let (source, answer) := source.ask .targets loader.load
    (.package source loader,
      match answer with
      | .targets targets => .ok targets
      | .failed failure => .error failure
      | _ => .ok [])
  | .scripted script => (backend, script.targets)

/-- Writes the file that the build system reads. -/
def write (backend : Backend) (file : FileContent) : Backend :=
  match backend with
  | .database here source _ => .database here source file
  | .package source (.file _) => .package source (.file file)
  | _ => backend

/-- Makes the build system read again. -/
def reload (backend : Backend) : Backend × Except Failure Reloaded :=
  match backend with
  | .database here source file =>
    let (source, changed) := source.reload here file
    (.database here source file, changed.map .documents)
  | .package source loader =>
    let (source, answer) := source.ask .reload loader.load
    (.package source loader,
      match answer with
      | .reloaded events => .ok (.events events)
      | .failed failure => .error failure
      | _ => .ok (.events []))
  | _ => (backend, .ok (.events []))

/-- How long it takes until a question for settings is looked at. -/
def settingsDelay : Backend → Nat
  | .scripted script => script.onSettings.delay
  | _ => 0

/-- How long it takes until a question for targets is looked at. -/
def targetsDelay : Backend → Nat
  | .scripted script => script.onTargets.delay
  | _ => 0

/-- Whether questions for settings are held back. -/
def isBlocked : Backend → Bool
  | .scripted script => script.blocked
  | _ => false

/-- Changes a scripted build system. -/
def onScript (backend : Backend) (change : Scripted → Scripted) : Backend :=
  match backend with
  | .scripted script => .scripted (change script)
  | _ => backend

end Backend

end SettingsBroker
