/-
# Plan sources

A plan source asks the package manager for a plan when one is first needed and
keeps it.  Only a reload replaces the plan, and a reload that fails keeps it.
Each resolution is counted and reported in words; a reload also reports what
changed, or every target as new if there was no plan before.

Here each request runs by itself.  Requests that overlap are in
`PlanSource.Calls`.
-/

import SettingsBroker.BuildPlan
import SettingsBroker.EventStream

namespace SettingsBroker

/-- What is asked of a plan source. -/
inductive PlanRequest where
  | settings (document : Document)
  | targets
  /-- To ask the package manager again. -/
  | reload
  deriving DecidableEq, Repr

/-- What a plan source answers. -/
inductive PlanAnswer where
  /-- The settings of the document, if the plan has the document. -/
  | settings (found : Option BuildSettings)
  | targets (targets : List BuildTarget)
  /-- What a reload changed. -/
  | reloaded (events : List TargetEvent)
  /-- There is no plan to answer from. -/
  | failed (failure : Failure)

/-- What the package manager says when it is asked for a plan. -/
abbrev PlanLoad := Except Failure BuildPlan

/-- A plan and where it comes from. -/
structure PlanSource where
  /-- Where a relative root is seen from. -/
  here : Whereabouts
  root : FilePath
  plan : Option ResolvedPlan
  /-- How often the package manager was asked. -/
  resolutions : Nat
  events : EventStream BuildEvent

namespace PlanSource

/-- A plan source that has not asked for a plan. -/
def empty (here : Whereabouts) (root : FilePath) (capacity : Nat) : PlanSource :=
  ⟨here, root, none, 0, .empty capacity⟩

/-- Answers from the plan that is kept, if that is possible. -/
def answer? (source : PlanSource) : PlanRequest → Option PlanAnswer
  | .settings document => source.plan.map fun plan => .settings (plan.settings? document)
  | .targets => source.plan.map fun plan => .targets plan.buildTargets
  | .reload => none

def emit (source : PlanSource) (events : List BuildEvent) : PlanSource :=
  { source with events := source.events.sendAll events }

/-- Reports the progress of the current resolution in words. -/
def log (source : PlanSource) (message : String) : PlanSource :=
  source.emit [.log ("package-resolve-" ++ toString source.resolutions) message]

/-- Begins to ask the package manager. -/
def beginLoad (source : PlanSource) : PlanSource :=
  { source with resolutions := source.resolutions + 1 }.log
    ("Resolving build plan in " ++ source.root.display)

/-- The events of a reload that leads to a plan. -/
def reloadEvents (before : Option ResolvedPlan) (after : ResolvedPlan) : List TargetEvent :=
  match before with
  | none => after.targets.keys.map fun id => ⟨some id, .created⟩
  | some before => before.targetEvents after

/-- What a reload that leads to a plan reports. -/
def reloadReports (before : Option ResolvedPlan) (after : ResolvedPlan) : List BuildEvent :=
  let events := reloadEvents before after
  match before with
  | none => [.targetsChanged events]
  | some before =>
    let changed := before.changed after
    (if events.isEmpty then [] else [.targetsChanged events])
      ++ (if changed.isEmpty then [] else [.settingsChanged changed])

/-- Takes over a plan and answers the request for which it was asked. -/
def adopt (source : PlanSource) (request : PlanRequest) (plan : ResolvedPlan) :
    PlanSource × PlanAnswer :=
  let loaded := { source with plan := some plan }.log
    ("Resolved " ++ toString plan.targets.size ++ " targets")
  match request with
  | .settings document => (loaded, .settings (plan.settings? document))
  | .targets => (loaded, .targets plan.buildTargets)
  | .reload =>
    (loaded.emit (reloadReports source.plan plan), .reloaded (reloadEvents source.plan plan))

/-- Takes in what the package manager says and answers the request for which it
was asked.  Where the documents of a plan cannot be told, that is not said in the
log. -/
def endLoad (source : PlanSource) (request : PlanRequest) (load : PlanLoad) :
    PlanSource × PlanAnswer :=
  match load with
  | .error failure =>
    (source.log ("Build plan resolution failed: " ++ failure.message), .failed failure)
  | .ok written =>
    match ResolvedPlan.ofPlan? source.here source.root written with
    | .error failure => (source, .failed failure)
    | .ok plan => source.adopt request plan

/-- Answers a request; `load` is what the package manager says if it has to be
asked. -/
def ask (source : PlanSource) (request : PlanRequest) (load : PlanLoad) :
    PlanSource × PlanAnswer :=
  match source.answer? request with
  | some answer => (source, answer)
  | none => source.beginLoad.endLoad request load

end PlanSource

end SettingsBroker
