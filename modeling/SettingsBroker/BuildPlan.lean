/-
# Build plans

What a package manager says about a package: its targets with their sources,
dependencies and compiler arguments, and the directory in which dependencies
are built.  Resolving a plan against the package's root makes its paths
absolute and finds the owner of each document; of several targets with one name
the last one counts, and of several targets that list a document the first one
by name owns it.

The settings of a document are its owner's arguments, one include directory
for each target that the owner depends on directly or through others, and the
document's own path.
-/

import SettingsBroker.Graph.Reach
import SettingsBroker.Settings
import SettingsBroker.Stored

namespace SettingsBroker

/-- A target of a plan as it is written. -/
structure PlanTarget where
  /-- The name, which identifies the target. -/
  name : String
  /-- The name shown to people, if it is another. -/
  displayName : Option String
  /-- The source files, seen from the root. -/
  sources : List FilePath
  /-- The names of the targets that this one depends on. -/
  dependencies : List String
  compilerArguments : List String
  /-- The directory that the compiler runs in, if it is not the root. -/
  workingDirectory : Option FilePath
  deriving DecidableEq, Repr

/-- A plan as it is written. -/
structure BuildPlan where
  /-- Where dependencies are built, seen from the root. -/
  buildDirectory : FilePath
  /-- The targets in written order. -/
  targets : List PlanTarget
  deriving DecidableEq, Repr

def PlanTarget.ofJson? (json : Json) : Option PlanTarget := do
  let r ← json.record?
    ["name", "display_name", "sources", "dependencies", "compiler_arguments", "working_directory"]
    false
  return {
    name := ← r.required "name" Json.text?
    displayName := ← r.withDefault "display_name" none (Json.nullable? Json.text?)
    sources := ← r.withDefault "sources" [] (Json.list? FilePath.ofJson?)
    dependencies := ← r.withDefault "dependencies" [] (Json.list? Json.text?)
    compilerArguments := ← r.withDefault "compiler_arguments" [] (Json.list? Json.text?)
    workingDirectory := ← r.withDefault "working_directory" none (Json.nullable? FilePath.ofJson?) }

namespace BuildPlan

/-- A stored plan; dependencies are built in `.build` unless it says otherwise. -/
def ofJson? (json : Json) : Option BuildPlan := do
  let r ← json.record? ["build_directory", "targets"] false
  return {
    buildDirectory := ← r.withDefault "build_directory" (.ofString ".build") FilePath.ofJson?
    targets := ← r.withDefault "targets" [] (Json.list? PlanTarget.ofJson?) }

/-- The plan in a JSON text given by its bytes. -/
def parse (bytes : Text.Bytes) : Except Failure BuildPlan :=
  match (Json.readBytes bytes).bind ofJson? with
  | some plan => .ok plan
  | none => .error .json

end BuildPlan

/-! ## Resolved plans -/

/-- A target with its paths resolved. -/
structure ResolvedTarget where
  displayName : String
  /-- The source documents in written order. -/
  sources : List Document
  /-- The targets that this one depends on, in written order. -/
  dependencies : List TargetId
  compilerArguments : List String
  workingDirectory : Option FilePath
  deriving DecidableEq, Repr

/-- Two resolved targets are the same when all parts agree and the directories
have the same components. -/
def ResolvedTarget.same (a b : ResolvedTarget) : Bool :=
  a.displayName == b.displayName && a.sources == b.sources && a.dependencies == b.dependencies
    && a.compilerArguments == b.compilerArguments
    && (match a.workingDirectory, b.workingDirectory with
      | some p, some q => p.same q
      | none, none => true
      | _, _ => false)

theorem ResolvedTarget.same_iff {a b : ResolvedTarget} :
    a.same b = true ↔ a.displayName = b.displayName ∧ a.sources = b.sources ∧
      a.dependencies = b.dependencies ∧ a.compilerArguments = b.compilerArguments ∧
        a.workingDirectory.map FilePath.parts = b.workingDirectory.map FilePath.parts := by
  unfold same
  cases a.workingDirectory <;> cases b.workingDirectory <;> simp [FilePath.same, and_assoc]

/-- A plan resolved against the root of its package. -/
structure ResolvedPlan where
  buildDirectory : FilePath
  root : FilePath
  targets : Std.ExtTreeMap TargetId ResolvedTarget
  owners : Std.ExtTreeMap Document TargetId

namespace PlanTarget

/-- The target with its paths seen from the root of its package. -/
def resolve (current root : FilePath) (target : PlanTarget) : ResolvedTarget :=
  { displayName := target.displayName.getD target.name
    sources := target.sources.map fun source => Document.ofPath current (root.join source)
    dependencies := target.dependencies.map TargetId.mk
    compilerArguments := target.compilerArguments
    workingDirectory := target.workingDirectory.map root.join }

end PlanTarget

namespace ResolvedPlan

/-- Gives documents to an owner unless they have one. -/
def claim (owners : Std.ExtTreeMap Document TargetId) (id : TargetId) (sources : List Document) :
    Std.ExtTreeMap Document TargetId :=
  sources.foldl (fun owners source => owners.insertIfNew source id) owners

/-- The owner of each document: the first target that lists it. -/
def ownersOf (targets : Std.ExtTreeMap TargetId ResolvedTarget) : Std.ExtTreeMap Document TargetId :=
  targets.foldl (fun owners id target => claim owners id target.sources) ∅

/-- Resolves a plan against the root of its package. -/
def ofPlan (current root : FilePath) (plan : BuildPlan) : ResolvedPlan :=
  let targets := plan.targets.foldl
    (fun targets target => targets.insert ⟨target.name⟩ (target.resolve current root)) ∅
  ⟨root.join plan.buildDirectory, root, targets, ownersOf targets⟩

/-- Resolves a plan if the documents of its targets can be told. -/
def ofPlan? (here : Whereabouts) (root : FilePath) (plan : BuildPlan) :
    Except Failure ResolvedPlan :=
  let paths := plan.targets.flatMap fun target => target.sources.map root.join
  (here.seeing paths).map fun current => ofPlan current root plan

/-- The dependencies of each target of the plan. -/
def edges (plan : ResolvedPlan) : Std.ExtTreeMap TargetId (List TargetId) :=
  plan.targets.map fun _ target => target.dependencies

/-- The targets that a target depends on directly or through others, without
itself. -/
def transitiveDependencies (plan : ResolvedPlan) (id : TargetId) : TargetSet :=
  (Graph.reach plan.edges ∅ (plan.edges[id]?.getD [])).erase id

/-- The include directory of a dependency. -/
def includeDirectory (plan : ResolvedPlan) (id : TargetId) : FilePath :=
  plan.buildDirectory.join (.ofString (id.name ++ ".build"))

/-- The compiler arguments of a document of a target. -/
def arguments (plan : ResolvedPlan) (id : TargetId) (target : ResolvedTarget)
    (document : Document) : List String :=
  target.compilerArguments
    ++ (plan.transitiveDependencies id).toList.flatMap
        (fun dependency => ["-I", (plan.includeDirectory dependency).display])
    ++ (document.path?.map FilePath.display).toList

/-- The settings of a document, if a target owns it. -/
def settings? (plan : ResolvedPlan) (document : Document) : Option BuildSettings := do
  let id ← plan.owners[document]?
  let target ← plan.targets[id]?
  return .answered .packageManager (Language.ofDocument document)
    (plan.arguments id target document) (target.workingDirectory.getD plan.root)

/-- The target as other parts of the system see it; it does not depend on
itself. -/
def buildTarget (id : TargetId) (target : ResolvedTarget) : BuildTarget :=
  { id
    displayName := target.displayName
    sources := .ofList target.sources
    dependencies := .ofList (target.dependencies.filter (· ≠ id)) }

/-- The targets of the plan in the order of their names. -/
def buildTargets (plan : ResolvedPlan) : List BuildTarget :=
  plan.targets.toList.map fun (id, target) => buildTarget id target

/-- The events that lead from one plan to the next: targets that are new or
different, and then targets that are gone. -/
def targetEvents (before after : ResolvedPlan) : List TargetEvent :=
  after.targets.toList.filterMap (fun (id, target) =>
      match before.targets[id]? with
      | none => some ⟨some id, .created⟩
      | some old => if old.same target then none else some ⟨some id, .changed⟩)
    ++ before.targets.keys.filterMap (fun id =>
      if after.targets.contains id then none else some ⟨some id, .removed⟩)

/-- Whether a document has the same settings, or none, in two plans. -/
def agree (before after : ResolvedPlan) (document : Document) : Bool :=
  match before.settings? document, after.settings? document with
  | some a, some b => a.same b
  | none, none => true
  | _, _ => false

/-- The documents whose settings differ between two plans. -/
def changed (before after : ResolvedPlan) : DocumentSet :=
  .ofList ((before.owners.keys ++ after.owners.keys).filter fun document =>
    !agree before after document)

end ResolvedPlan

end SettingsBroker
