/-
# The settings that a plan prescribes

The settings of a document can be read off the plan as it is written. The first target by name
that lists the document owns it, and the last definition of that name counts. Its arguments are
followed by an include directory for each target that a chain of dependencies leads to from it,
each once and in the order of names, and by the path of the document. Nothing in this depends on
how the resolved plan is searched, so a plan with one definition for each name may have its
targets, and the entries of their lists, in any order and repeated.
-/

import SettingsBroker.Proofs.Document
import SettingsBroker.Proofs.Plan.Changed

namespace SettingsBroker

open Relation

/-! ## What is written in a plan -/

namespace BuildPlan

variable {plan other : BuildPlan} {id dependency : TargetId} {target again : PlanTarget}

/-- The definition of a target: the last one of its name. -/
def definition? (plan : BuildPlan) (id : TargetId) : Option PlanTarget :=
  plan.targets.reverse.find? fun target => target.name = id.name

/-- A target of the plan names a dependency, which need not be part of the plan. -/
def Needs (plan : BuildPlan) (id dependency : TargetId) : Prop :=
  ∃ target, plan.definition? id = some target ∧ dependency.name ∈ target.dependencies

/-- The settings that a plan prescribes for a document of a target. -/
def Prescribes (plan : BuildPlan) (root : FilePath) (owner : TargetId) (document : Document)
    (settings : BuildSettings) : Prop :=
  ∃ (target : PlanTarget) (path : FilePath) (ids : List TargetId),
    plan.definition? owner = some target ∧ document.path? = some path ∧
      ids.Pairwise (fun earlier later => compare earlier later = .lt) ∧
      (∀ id, id ∈ ids ↔ id ≠ owner ∧ TransGen plan.Needs owner id) ∧
      settings = .answered .packageManager (Language.ofDocument document)
        (target.compilerArguments
          ++ ids.flatMap (fun id => ["-I", ((root.join plan.buildDirectory).join
              (.ofString (id.name ++ ".build"))).display])
          ++ [path.display])
        ((target.workingDirectory.map root.join).getD root)

theorem definition?_eq_some_iff (distinct : (plan.targets.map (·.name)).Nodup) :
    plan.definition? id = some target ↔ target ∈ plan.targets ∧ target.name = id.name := by
  constructor
  · intro h
    exact ⟨List.mem_reverse.mp (List.mem_of_find?_eq_some h), by simpa using List.find?_some h⟩
  · rintro ⟨hmem, hname⟩
    have hsome : (plan.definition? id).isSome := by
      rw [definition?, List.find?_isSome]
      exact ⟨target, List.mem_reverse.mpr hmem, by simpa using hname⟩
    obtain ⟨found, hfound⟩ := Option.isSome_iff_exists.mp hsome
    have hfoundName : found.name = id.name := by simpa using List.find?_some hfound
    have hfoundMem : found ∈ plan.targets := List.mem_reverse.mp (List.mem_of_find?_eq_some hfound)
    rw [hfound, List.inj_on_of_nodup_map distinct hfoundMem hmem (hfoundName.trans hname.symm)]

end BuildPlan

/-! ## Plans written in another order -/

/-- Two targets are written alike if they differ at most in the order and number of the entries of
their lists of sources and dependencies. -/
structure PlanTarget.Alike (target again : PlanTarget) : Prop where
  name : target.name = again.name
  displayName : target.displayName = again.displayName
  sources : ∀ source, source ∈ target.sources ↔ source ∈ again.sources
  dependencies : ∀ dependency, dependency ∈ target.dependencies ↔ dependency ∈ again.dependencies
  compilerArguments : target.compilerArguments = again.compilerArguments
  workingDirectory : target.workingDirectory = again.workingDirectory

namespace BuildPlan

variable {plan other : BuildPlan} {id dependency : TargetId} {target again : PlanTarget}

/-- A plan is another one with its targets in some order, each written alike. -/
structure Rearranged (plan other : BuildPlan) : Prop where
  buildDirectory : plan.buildDirectory = other.buildDirectory
  targets : ∃ ordered, plan.targets.Perm ordered ∧
    List.Forall₂ PlanTarget.Alike ordered other.targets

namespace Rearranged

theorem exists_again (h : plan.Rearranged other) (hmem : target ∈ plan.targets) :
    ∃ again ∈ other.targets, target.Alike again := by
  obtain ⟨ordered, hperm, halike⟩ := h.targets
  have hordered := hperm.mem_iff.mp hmem
  clear hperm
  generalize other.targets = others at halike ⊢
  induction halike with
  | nil => cases hordered
  | cons hfirst _ ih =>
    obtain rfl | hordered := List.mem_cons.mp hordered
    · exact ⟨_, List.mem_cons_self, hfirst⟩
    · obtain ⟨again, hagain, hsame⟩ := ih hordered
      exact ⟨again, List.mem_cons_of_mem _ hagain, hsame⟩

/-- If targets written alike share a property, both plans have a target with it or neither has. -/
theorem exists_mem_iff (h : plan.Rearranged other) {holds : PlanTarget → Prop}
    (alike : ∀ target again, target.Alike again → (holds target ↔ holds again)) :
    (∃ target ∈ plan.targets, holds target) ↔ ∃ again ∈ other.targets, holds again := by
  obtain ⟨ordered, hperm, halike⟩ := h.targets
  simp only [hperm.mem_iff]
  clear hperm
  generalize other.targets = others at halike ⊢
  induction halike with
  | nil => simp
  | cons hfirst _ ih => simp only [List.exists_mem_cons_iff, alike _ _ hfirst, ih]

theorem distinct (h : plan.Rearranged other) (distinct : (plan.targets.map (·.name)).Nodup) :
    (other.targets.map (·.name)).Nodup := by
  obtain ⟨ordered, hperm, halike⟩ := h.targets
  have hnames : List.Forall₂ Eq (ordered.map (·.name)) (other.targets.map (·.name)) :=
    List.forall₂_map_left_iff.mpr
      (List.forall₂_map_right_iff.mpr (halike.imp fun _ _ hsame => hsame.name))
  rw [List.forall₂_eq_eq_eq] at hnames
  rw [← hnames]
  exact (hperm.map _).nodup_iff.mp distinct

variable (distinct : (plan.targets.map (·.name)).Nodup)
include distinct

/-- The definitions of a target in both plans are written alike. -/
theorem definition? (h : plan.Rearranged other) (hdefinition : plan.definition? id = some target) :
    ∃ again, other.definition? id = some again ∧ target.Alike again := by
  obtain ⟨hmem, hname⟩ := (definition?_eq_some_iff distinct).mp hdefinition
  obtain ⟨again, hagain, hsame⟩ := h.exists_again hmem
  refine ⟨again, ?_, hsame⟩
  exact (definition?_eq_some_iff (h.distinct distinct)).mpr ⟨hagain, hsame.name ▸ hname⟩

/-- If targets written alike share a property, a name is defined with it in both plans or in
neither. -/
theorem exists_definition_iff (h : plan.Rearranged other) {holds : PlanTarget → Prop}
    (alike : ∀ target again, target.Alike again → (holds target ↔ holds again)) :
    (∃ target, plan.definition? id = some target ∧ holds target) ↔
      ∃ again, other.definition? id = some again ∧ holds again := by
  have hmembers : (∃ target ∈ plan.targets, target.name = id.name ∧ holds target) ↔
      ∃ again ∈ other.targets, again.name = id.name ∧ holds again := by
    apply h.exists_mem_iff
    intro target again hsame
    rw [hsame.name, alike target again hsame]
  simpa only [definition?_eq_some_iff distinct, definition?_eq_some_iff (h.distinct distinct),
    and_assoc] using hmembers

theorem needs_eq (h : plan.Rearranged other) : plan.Needs = other.Needs := by
  funext id dependency
  exact propext (h.exists_definition_iff distinct fun _ _ hsame => hsame.dependencies _)

end Rearranged

end BuildPlan

/-! ## The settings of a resolved plan -/

namespace ResolvedPlan

variable {current root : FilePath} {written rewritten : BuildPlan} {plan : ResolvedPlan}
variable {id dependency owner : TargetId} {document : Document}

/-- Of several definitions of one name the last one is kept. -/
theorem getElem?_targets_ofPlan (current root : FilePath) (written : BuildPlan) (id : TargetId) :
    (ofPlan current root written).targets[id]? =
      (written.definition? id).map (PlanTarget.resolve current root) := by
  have hfold : ∀ listed : List PlanTarget,
      (listed.foldl
        (fun targets target => targets.insert ⟨target.name⟩ (target.resolve current root))
        (∅ : Std.ExtTreeMap TargetId ResolvedTarget))[id]? =
      (listed.reverse.find? fun target => target.name = id.name).map
        (PlanTarget.resolve current root) := by
    intro listed
    induction listed using List.reverseRecOn with
    | nil => simp
    | append_singleton listed last ih =>
      rw [List.foldl_concat, Std.ExtTreeMap.getElem?_insert, List.reverse_concat,
        List.find?_cons, ih]
      have hid : (⟨last.name⟩ : TargetId) = id ↔ last.name = id.name := by
        cases id
        exact TargetId.mk.injEq _ _ ▸ Iff.rfl
      simp only [Std.LawfulEqOrd.compare_eq_iff_eq, hid]
      by_cases hname : last.name = id.name <;> simp [hname]
  exact hfold written.targets

theorem getElem?_targets_of_definition {target : PlanTarget}
    (h : written.definition? id = some target) :
    (ofPlan current root written).targets[id]? = some (target.resolve current root) := by
  rw [getElem?_targets_ofPlan, h, Option.map_some]

theorem requires_ofPlan (current root : FilePath) (written : BuildPlan) :
    (ofPlan current root written).Requires = written.Needs := by
  funext id ⟨dependency⟩
  rw [Requires, getElem?_targets_ofPlan, BuildPlan.Needs]
  cases written.definition? id with
  | none => simp
  | some target => simp [PlanTarget.resolve]

theorem lists_ofPlan_iff :
    (ofPlan current root written).Lists id document ↔
      ∃ target, written.definition? id = some target ∧
        ∃ source ∈ target.sources, Document.ofPath current (root.join source) = document := by
  rw [Lists, getElem?_targets_ofPlan]
  cases written.definition? id with
  | none => simp
  | some target => simp [PlanTarget.resolve]

/-- The documents of a plan are those of paths. -/
theorem exists_path?_of_lists (h : (ofPlan current root written).Lists id document) :
    ∃ path, document.path? = some path := by
  obtain ⟨target, -, source, -, rfl⟩ := lists_ofPlan_iff.mp h
  obtain ⟨path, hpath, -⟩ := Document.path?_ofNames
    (Document.names_isName (FilePath.absolute current (root.join source)))
  exact ⟨path, hpath⟩

theorem lists_iff_exists_buildTarget :
    plan.Lists id document ↔ ∃ target ∈ plan.buildTargets, target.id = id ∧
      document ∈ target.sources := by
  rw [Lists, buildTargets]
  constructor
  · rintro ⟨target, htarget, hsource⟩
    refine ⟨buildTarget id target, List.mem_map.mpr ⟨(id, target), ?_, rfl⟩, rfl, ?_⟩
    · exact Std.ExtTreeMap.mem_toList_iff_getElem?_eq_some.mpr htarget
    · exact mem_buildTarget_sources.mpr hsource
  · rintro ⟨_, hlisted, rfl, hsource⟩
    obtain ⟨⟨id, target⟩, hmem, rfl⟩ := List.mem_map.mp hlisted
    exact ⟨target, Std.ExtTreeMap.mem_toList_iff_getElem?_eq_some.mp hmem,
      mem_buildTarget_sources.mp hsource⟩

theorem Owned.isSome_settings?_iff (owned : plan.Owned) :
    (plan.settings? document).isSome ↔ ∃ id, plan.Lists id document := by
  constructor
  · intro hsome
    obtain ⟨settings, hsettings⟩ := Option.isSome_iff_exists.mp hsome
    obtain ⟨owner, howner, -⟩ := Option.bind_eq_some_iff.mp hsettings
    exact ⟨owner, (owned.first howner).1⟩
  · rintro ⟨id, hlists⟩
    obtain ⟨owner, howner⟩ := owned.exists_owner hlists
    obtain ⟨target, htarget, -⟩ := (owned.first howner).1
    rw [settings?_of_owner howner htarget]
    rfl

/-- The owner of a document has the settings that the plan prescribes. -/
theorem prescribes_ofPlan {settings : BuildSettings}
    (howner : (ofPlan current root written).owners[document]? = some owner)
    (h : (ofPlan current root written).settings? document = some settings) :
    written.Prescribes root owner document settings := by
  have hlists := ((owned_ofPlan current root written).first howner).1
  obtain ⟨path, hpath⟩ := exists_path?_of_lists hlists
  obtain ⟨target, htarget, -⟩ := lists_ofPlan_iff.mp hlists
  rw [settings?_of_owner howner (getElem?_targets_of_definition htarget), Option.some.injEq] at h
  refine ⟨target, path, ((ofPlan current root written).transitiveDependencies owner).toList,
    htarget, hpath, Std.ExtTreeSet.ordered_toList, ?_, ?_⟩
  · intro id
    rw [Std.ExtTreeSet.mem_toList, mem_transitiveDependencies, requires_ofPlan]
  · rw [← h, arguments, hpath]
    rfl

/-! ## Rearranged plans -/

section Rearranged

variable (distinct : (written.targets.map (·.name)).Nodup)
variable (rearranged : written.Rearranged rewritten)
include distinct rearranged

theorem lists_of_rearranged :
    (ofPlan current root written).Lists id document ↔
      (ofPlan current root rewritten).Lists id document := by
  rw [lists_ofPlan_iff, lists_ofPlan_iff]
  apply rearranged.exists_definition_iff distinct
  intro target again hsame
  simp only [hsame.sources]

theorem transitiveDependencies_of_rearranged :
    (ofPlan current root written).transitiveDependencies id =
      (ofPlan current root rewritten).transitiveDependencies id := by
  apply Std.ExtTreeSet.ext_mem
  intro dependency
  rw [mem_transitiveDependencies, mem_transitiveDependencies, requires_ofPlan, requires_ofPlan,
    rearranged.needs_eq distinct]

/-- A document has the same owner in both plans, and the owner is written alike. -/
theorem settings?_of_rearranged :
    (ofPlan current root written).settings? document =
      (ofPlan current root rewritten).settings? document := by
  have howners : (ofPlan current root written).owners[document]? =
      (ofPlan current root rewritten).owners[document]? :=
    (owned_ofPlan current root written).congr (owned_ofPlan current root rewritten)
      fun id => lists_of_rearranged distinct rearranged
  cases howner : (ofPlan current root written).owners[document]? with
  | none => simp [settings?, ← howners, howner]
  | some owner =>
    obtain ⟨target, htarget, -⟩ :=
      lists_ofPlan_iff.mp ((owned_ofPlan current root written).first howner).1
    obtain ⟨again, hagain, hsame⟩ := rearranged.definition? distinct htarget
    have hdirectory : (ofPlan current root written).buildDirectory =
        (ofPlan current root rewritten).buildDirectory :=
      congrArg root.join rearranged.buildDirectory
    have harguments : (target.resolve current root).compilerArguments =
        (again.resolve current root).compilerArguments := hsame.compilerArguments
    have hworking : (target.resolve current root).workingDirectory =
        (again.resolve current root).workingDirectory :=
      congrArg (Option.map root.join) hsame.workingDirectory
    rw [settings?_of_owner howner (getElem?_targets_of_definition htarget),
      settings?_of_owner (howners ▸ howner) (getElem?_targets_of_definition hagain),
      arguments_congr hdirectory (transitiveDependencies_of_rearranged distinct rearranged)
        harguments, hworking]
    rfl

end Rearranged

/-! ## Plans that can be resolved -/

theorem exists_current {here : Whereabouts} (h : ofPlan? here root written = .ok plan) :
    ∃ current, plan = ofPlan current root written := by
  dsimp only [ofPlan?] at h
  cases hseen : here.seeing
      (written.targets.flatMap fun target => target.sources.map root.join) with
  | error failure =>
    rw [hseen] at h
    cases h
  | ok current =>
    rw [hseen] at h
    exact ⟨current, (Except.ok.inj h).symm⟩

theorem seeing_congr (here : Whereabouts) {paths others : List FilePath}
    (same : ∀ path, path ∈ paths ↔ path ∈ others) : here.seeing paths = here.seeing others := by
  have hall : paths.all FilePath.isAbsolute = others.all FilePath.isAbsolute := by
    rw [Bool.eq_iff_iff, List.all_eq_true, List.all_eq_true]
    simp only [same]
  unfold Whereabouts.seeing
  rw [hall]

/-- A rearranged plan can be resolved if the plan can, and then gives the same settings. -/
theorem map_settings?_of_rearranged (here : Whereabouts) (root : FilePath)
    (distinct : (written.targets.map (·.name)).Nodup)
    (rearranged : written.Rearranged rewritten) :
    (ofPlan? here root written).map settings? = (ofPlan? here root rewritten).map settings? := by
  have hseen : here.seeing (written.targets.flatMap fun target => target.sources.map root.join) =
      here.seeing (rewritten.targets.flatMap fun target => target.sources.map root.join) := by
    apply seeing_congr
    intro path
    simp only [List.mem_flatMap, List.mem_map]
    apply rearranged.exists_mem_iff
    intro target again hsame
    simp only [hsame.sources]
  dsimp only [ofPlan?]
  rw [hseen]
  cases here.seeing (rewritten.targets.flatMap fun target => target.sources.map root.join) with
  | error failure => rfl
  | ok current =>
    exact congrArg Except.ok (funext fun _ => settings?_of_rearranged distinct rearranged)

/-- The settings of a resolved plan are those that the plan prescribes. A document has settings
exactly if a target lists it, and they are those of the first target by name that does. A plan that
defines each name once may have its targets, and the sources and dependencies of a target, in any
order and repeated: it can be resolved as before, and no document gets other settings. -/
theorem settings_prescribed (here : Whereabouts) (root : FilePath) (written : BuildPlan) :
    (∀ plan, ofPlan? here root written = .ok plan → ∀ document,
      ((plan.settings? document).isSome ↔
        ∃ target ∈ plan.buildTargets, document ∈ target.sources) ∧
      ∀ settings, plan.settings? document = some settings →
        ∃ owner ∈ plan.buildTargets, document ∈ owner.sources ∧
          (∀ target ∈ plan.buildTargets, document ∈ target.sources →
            target.id = owner.id ∨ compare owner.id target.id = .lt) ∧
          written.Prescribes root owner.id document settings) ∧
    ((written.targets.map (·.name)).Nodup → ∀ rewritten, written.Rearranged rewritten →
      (ofPlan? here root written).map settings? = (ofPlan? here root rewritten).map settings?) := by
  refine ⟨?_, fun distinct rewritten => map_settings?_of_rearranged here root distinct⟩
  intro plan hplan document
  obtain ⟨current, rfl⟩ := exists_current hplan
  have howned := owned_ofPlan current root written
  constructor
  · rw [howned.isSome_settings?_iff]
    simp only [lists_iff_exists_buildTarget]
    constructor
    · rintro ⟨id, target, htarget, -, hsource⟩
      exact ⟨target, htarget, hsource⟩
    · rintro ⟨target, htarget, hsource⟩
      exact ⟨target.id, target, htarget, rfl, hsource⟩
  · intro settings hsettings
    obtain ⟨id, howner, -⟩ := Option.bind_eq_some_iff.mp hsettings
    obtain ⟨hlists, hfirst⟩ := howned.first howner
    obtain ⟨owner, hmem, rfl, hsource⟩ := lists_iff_exists_buildTarget.mp hlists
    refine ⟨owner, hmem, hsource, ?_, prescribes_ofPlan howner hsettings⟩
    intro target htarget hlisted
    exact hfirst target.id (lists_iff_exists_buildTarget.mpr ⟨target, htarget, rfl, hlisted⟩)

/-- Two targets that depend on each other and list one source; one of them also depends on a target
that is missing. -/
def tangled : BuildPlan where
  buildDirectory := .ofString ".build"
  targets := [
    ⟨"lib", none, [.ofString "shared.c"], ["app"], ["-DLIB"], some (.ofString "lib")⟩,
    ⟨"app", none, [.ofString "main.c", .ofString "shared.c"], ["lib", "gone"], ["-DAPP"], none⟩]

/-- The same with an earlier definition of one of them. -/
def redefined : BuildPlan :=
  { tangled with targets :=
      ⟨"app", some "App", [.ofString "old.c"], [], ["-DOLD"], none⟩ :: tangled.targets }

/-- The same two targets in another order, with entries repeated. -/
def retold : BuildPlan where
  buildDirectory := .ofString ".build"
  targets := [
    ⟨"app", none, [.ofString "shared.c", .ofString "main.c"], ["gone", "lib", "gone"], ["-DAPP"],
      none⟩,
    ⟨"lib", none, [.ofString "shared.c", .ofString "shared.c"], ["app"], ["-DLIB"],
      some (.ofString "lib")⟩]

theorem settings_prescribed_tangled :
    let here : Whereabouts := FilePath.ofString "/"
    let root := FilePath.ofString "/pkg"
    let plan := ofPlan (.ofString "/") root redefined
    let document : Document := ⟨"file:///pkg/shared.c"⟩
    ofPlan? here root redefined = .ok plan ∧
      (∃ settings, plan.settings? document = some settings ∧
        settings.arguments.head? = some "-DAPP" ∧
        ∃ owner ∈ plan.buildTargets, document ∈ owner.sources ∧
          (∀ target ∈ plan.buildTargets, document ∈ target.sources →
            target.id = owner.id ∨ compare owner.id target.id = .lt) ∧
          redefined.Prescribes root owner.id document settings) ∧
      (tangled.targets.map (·.name)).Nodup ∧ tangled.Rearranged retold ∧
      (ofPlan? here root tangled).map settings? = (ofPlan? here root retold).map settings? := by
  intro here root plan document
  have howner : plan.owners[document]? = some ⟨"app"⟩ := by decide +kernel
  obtain ⟨settings, hsettings, hfirst⟩ : ∃ settings, plan.settings? document = some settings ∧
      settings.arguments.head? = some "-DAPP" := ⟨_, settings?_of_owner howner rfl, rfl⟩
  have hdistinct : (tangled.targets.map (·.name)).Nodup := by decide
  have hrearranged : tangled.Rearranged retold := by
    refine ⟨rfl, tangled.targets.reverse, (List.reverse_perm _).symm, .cons ?_ (.cons ?_ .nil)⟩
    · exact ⟨rfl, rfl, by simp [or_comm], by simp [or_comm], rfl, rfl⟩
    · exact ⟨rfl, rfl, by simp, by simp, rfl, rfl⟩
  have hprescribed :=
    ((settings_prescribed here root redefined).1 plan rfl document).2 settings hsettings
  exact ⟨rfl, ⟨settings, hsettings, hfirst, hprescribed⟩, hdistinct, hrearranged,
    (settings_prescribed here root tangled).2 hdistinct retold hrearranged⟩

end ResolvedPlan

end SettingsBroker
