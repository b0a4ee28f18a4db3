/-
# Documents whose settings a reload changes

Of all targets that list a document, the first one by name owns it.  The settings of the
document rest on the owner alone: on what it says of itself, and on the set of targets that
chains of dependencies lead to from it.

A reload reports such documents on its own account, next to the events on targets, and the two
reports are made in different ways: one compares what chains lead to in two plans, the other
walks back from targets to which something happened.  They agree because a chain that is there
in one plan only has a first target on it to which something happened, and up to there it is in
both plans.  `agree_of_spared` puts it the other way round: where nothing happened to a target
that affects a document in either plan, its settings are the same.

Nothing is assumed of cycles, of dependencies that are not part of a plan, or of documents that
several targets list.
-/

import SettingsBroker.Proofs.Plan.Reload

namespace SettingsBroker

open Relation
open TargetGraph (ofSnapshot namedBy Reported)

namespace ResolvedPlan

variable {plan before after : ResolvedPlan} {id dependency : TargetId} {document : Document}

/-! ## The first target that lists a document -/

theorem getElem?_claim (owners : Std.ExtTreeMap Document TargetId) (id : TargetId)
    (sources : List Document) (document : Document) :
    (claim owners id sources)[document]? =
      owners[document]?.or (if document ∈ sources then some id else none) := by
  induction sources generalizing owners with
  | nil => simp [claim]
  | cons source sources ih =>
    have hclaim : claim owners id (source :: sources) =
        claim (owners.insertIfNew source id) id sources := rfl
    rw [hclaim, ih, Std.ExtTreeMap.getElem?_insertIfNew]
    simp only [Std.LawfulEqOrd.compare_eq_iff_eq, Std.ExtTreeMap.mem_iff_isSome_getElem?]
    by_cases hsource : source = document
    · subst hsource
      cases owners[source]? <;> simp
    · simp [hsource, Ne.symm hsource]

/-- Targets claim documents in the order of their names, so that the first one is found. -/
theorem getElem?_ownersOf (targets : Std.ExtTreeMap TargetId ResolvedTarget)
    (document : Document) :
    (ownersOf targets)[document]? =
      (targets.toList.find? fun found => document ∈ found.2.sources).map Prod.fst := by
  have hfold : ∀ (listed : List (TargetId × ResolvedTarget))
      (owners : Std.ExtTreeMap Document TargetId),
      (listed.foldl (fun owners found => claim owners found.1 found.2.sources) owners)[document]? =
        owners[document]?.or
          ((listed.find? fun found => document ∈ found.2.sources).map Prod.fst) := by
    intro listed
    induction listed with
    | nil => simp
    | cons found listed ih =>
      intro owners
      rw [List.foldl_cons, ih, getElem?_claim, Option.or_assoc, List.find?_cons]
      by_cases hlists : document ∈ found.2.sources <;> simp [hlists]
  rw [ownersOf, Std.ExtTreeMap.foldl_eq_foldl_toList, hfold]
  simp

/-- The owners of documents are found among the targets. -/
def Owned (plan : ResolvedPlan) : Prop :=
  plan.owners = ownersOf plan.targets

theorem owned_ofPlan (current root : FilePath) (written : BuildPlan) :
    (ofPlan current root written).Owned := rfl

/-- The owner lists the document, and of all targets that do it is the first one by name. -/
theorem Owned.first (owned : plan.Owned) (h : plan.owners[document]? = some id) :
    plan.Lists id document ∧
      ∀ other, plan.Lists other document → other = id ∨ compare id other = .lt := by
  rw [owned, getElem?_ownersOf] at h
  obtain ⟨⟨found, target⟩, hfound, rfl⟩ := Option.map_eq_some_iff.mp h
  obtain ⟨hlists, front, rest, hsplit, hfront⟩ := List.find?_eq_some_iff_append.mp hfound
  have hlisted : ∀ {other : TargetId} {another : ResolvedTarget},
      plan.targets[other]? = some another ↔
        (other, another) ∈ front ++ (found, target) :: rest := by
    rw [← hsplit]
    exact Std.ExtTreeMap.mem_toList_iff_getElem?_eq_some.symm
  refine ⟨⟨target, hlisted.mpr (by simp), by simpa using hlists⟩, ?_⟩
  rintro other ⟨another, hother, hsource⟩
  obtain hearlier | hself | hlater : (other, another) ∈ front ∨
      (other, another) = (found, target) ∨ (other, another) ∈ rest := by
    simpa using hlisted.mp hother
  · simpa [hsource] using hfront _ hearlier
  · exact Or.inl (Prod.mk.inj hself).1
  · right
    have hordered := plan.targets.ordered_keys_toList
    rw [hsplit, List.pairwise_append, List.pairwise_cons] at hordered
    exact hordered.2.1.1 _ hlater

theorem Owned.exists_owner (owned : plan.Owned) (h : plan.Lists id document) :
    ∃ owner, plan.owners[document]? = some owner := by
  obtain ⟨target, htarget, hsource⟩ := h
  have hsome : (plan.targets.toList.find? fun found => document ∈ found.2.sources).isSome := by
    rw [List.find?_isSome]
    exact ⟨(id, target), Std.ExtTreeMap.mem_toList_iff_getElem?_eq_some.mpr htarget,
      by simpa using hsource⟩
  obtain ⟨found, hfound⟩ := Option.isSome_iff_exists.mp hsome
  rw [owned, getElem?_ownersOf, hfound]
  exact ⟨found.1, rfl⟩

/-- Which target owns a document depends only on which targets list it. -/
theorem Owned.congr (hbefore : before.Owned) (hafter : after.Owned)
    (same : ∀ id, before.Lists id document ↔ after.Lists id document) :
    before.owners[document]? = after.owners[document]? := by
  cases howner : before.owners[document]? with
  | none =>
    cases hother : after.owners[document]? with
    | none => rfl
    | some other =>
      obtain ⟨owner, hsome⟩ := hbefore.exists_owner ((same other).mpr (hafter.first hother).1)
      cases howner.symm.trans hsome
  | some owner =>
    obtain ⟨hlists, hfirst⟩ := hbefore.first howner
    obtain ⟨other, hother⟩ := hafter.exists_owner ((same owner).mp hlists)
    obtain ⟨hlistsOther, hfirstOther⟩ := hafter.first hother
    rw [hother]
    -- Neither comes before the other.
    obtain rfl | hlater := hfirst other ((same other).mpr hlistsOther)
    · rfl
    · obtain rfl | hearlier := hfirstOther owner ((same owner).mp hlists)
      · rfl
      · exact absurd hearlier (Std.OrientedCmp.not_lt_of_lt hlater)

/-! ## Targets to which nothing happened -/

theorem exists_same_of_kept {old : ResolvedTarget} (kept : before.happened after id = none)
    (hold : before.targets[id]? = some old) :
    ∃ new, after.targets[id]? = some new ∧ old.same new = true := by
  rw [happened, hold] at kept
  cases hnew : after.targets[id]? with
  | none => simp [hnew] at kept
  | some new => exact ⟨new, rfl, by simpa [hnew] using kept⟩

theorem happened_comm : before.happened after id = none ↔ after.happened before id = none := by
  have hsame : ∀ old new : ResolvedTarget, old.same new = true ↔ new.same old = true := by
    intro old new
    rw [ResolvedTarget.same_iff, ResolvedTarget.same_iff]
    tauto
  rw [happened, happened]
  cases before.targets[id]? <;> cases after.targets[id]? <;> simp [hsame]

theorem lists_of_kept (kept : before.happened after id = none) (h : before.Lists id document) :
    after.Lists id document := by
  obtain ⟨old, hold, hsource⟩ := h
  obtain ⟨new, hnew, hsame⟩ := exists_same_of_kept kept hold
  obtain ⟨-, hsources, -⟩ := ResolvedTarget.same_iff.mp hsame
  exact ⟨new, hnew, hsources ▸ hsource⟩

theorem requires_of_kept (kept : before.happened after id = none)
    (h : before.Requires id dependency) : after.Requires id dependency := by
  obtain ⟨old, hold, hdependency⟩ := h
  obtain ⟨new, hnew, hsame⟩ := exists_same_of_kept kept hold
  obtain ⟨-, -, hdependencies, -⟩ := ResolvedTarget.same_iff.mp hsame
  exact ⟨new, hnew, hdependencies ▸ hdependency⟩

/-- Nothing happened to a target that affects a document in either plan. -/
def Spares (before after : ResolvedPlan) (document : Document) : Prop :=
  ∀ id, before.happened after id ≠ none →
    ¬ before.graph.Affects id document ∧ ¬ after.graph.Affects id document

namespace Spares

theorem symm (h : Spares before after document) : Spares after before document := by
  intro id hhappened
  obtain ⟨hbefore, hafter⟩ := h id fun hkept => hhappened (happened_comm.mp hkept)
  exact ⟨hafter, hbefore⟩

theorem kept (h : Spares before after document) (lists : before.Lists id document) :
    before.happened after id = none := by
  by_contra hhappened
  exact (h id hhappened).1 (.of_compiles (compiles_graph_iff.mpr lists))

theorem lists (h : Spares before after document) (lists : before.Lists id document) :
    after.Lists id document :=
  lists_of_kept (h.kept lists) lists

/-- A chain from a target that lists the document is in both plans: it could only end at a
target to which something happened, and that would affect the document. -/
theorem transitiveDependencies (h : Spares before after document)
    (lists : before.Lists id document) (hmem : dependency ∈ before.transitiveDependencies id) :
    dependency ∈ after.transitiveDependencies id := by
  rw [mem_transitiveDependencies] at hmem ⊢
  obtain ⟨hother, hchain⟩ := hmem
  refine ⟨hother, ?_⟩
  obtain ⟨next, hfirst, hrest⟩ := TransGen.head'_iff.mp hchain
  have hfirst : after.Requires id next := requires_of_kept (h.kept lists) hfirst
  have hlinks : ∀ source target, ¬ before.happened after source ≠ none →
      before.Requires source target → after.Requires source target :=
    fun source target hkept => requires_of_kept (not_not.mp hkept)
  obtain hreached | ⟨found, hhappened, hreached⟩ := Graph.follow hlinks hrest
  · exact TransGen.head' hfirst hreached
  · have haffects : after.graph.Affects found document :=
      affects_graph_iff.mpr ⟨id, h.lists lists, .head hfirst hreached⟩
    exact absurd haffects (h found hhappened).2

end Spares

/-! ## Settings that stay the same -/

theorem arguments_congr {old new : ResolvedTarget}
    (directory : before.buildDirectory = after.buildDirectory)
    (dependencies : before.transitiveDependencies id = after.transitiveDependencies id)
    (arguments : old.compilerArguments = new.compilerArguments) (document : Document) :
    before.arguments id old document = after.arguments id new document := by
  have hinclude : before.includeDirectory = after.includeDirectory := by
    funext id
    rw [includeDirectory, includeDirectory, directory]
  rw [ResolvedPlan.arguments, ResolvedPlan.arguments, dependencies, arguments, hinclude]

theorem settings?_of_owner {target : ResolvedTarget} (howner : plan.owners[document]? = some id)
    (htarget : plan.targets[id]? = some target) :
    plan.settings? document = some (.answered .packageManager (Language.ofDocument document)
      (plan.arguments id target document) (target.workingDirectory.getD plan.root)) := by
  simp [settings?, howner, htarget]

/-- Where nothing happened to a target that affects a document, its settings are the same. -/
theorem agree_of_spared (hbefore : before.Owned) (hafter : after.Owned)
    (root : before.root = after.root) (directory : before.buildDirectory = after.buildDirectory)
    (h : Spares before after document) : agree before after document = true := by
  have howner : before.owners[document]? = after.owners[document]? :=
    hbefore.congr hafter fun id => ⟨h.lists, h.symm.lists⟩
  cases hfound : before.owners[document]? with
  | none => simp [agree, settings?, ← howner, hfound]
  | some owner =>
    obtain ⟨old, hold, hsource⟩ := (hbefore.first hfound).1
    have hlists : before.Lists owner document := ⟨old, hold, hsource⟩
    obtain ⟨new, hnew, hsame⟩ := exists_same_of_kept (h.kept hlists) hold
    obtain ⟨-, -, -, harguments, hdirectory⟩ := ResolvedTarget.same_iff.mp hsame
    have hdependencies :
        before.transitiveDependencies owner = after.transitiveDependencies owner := by
      apply Std.ExtTreeSet.ext_mem
      intro dependency
      exact ⟨h.transitiveDependencies hlists, h.symm.transitiveDependencies (h.lists hlists)⟩
    have hparts : (old.workingDirectory.getD before.root).parts =
        (new.workingDirectory.getD after.root).parts := by
      rw [← root, ← Option.getD_map FilePath.parts, ← Option.getD_map FilePath.parts, hdirectory]
    rw [agree, settings?_of_owner hfound hold, settings?_of_owner (howner ▸ hfound) hnew]
    exact BuildSettings.same_iff.mpr
      ⟨arguments_congr directory hdependencies harguments document, hparts, rfl, rfl, rfl⟩

/-! ## The two reports -/

theorem mem_namedBy_targetEvents_iff :
    id ∈ namedBy (before.targetEvents after) ↔ before.happened after id ≠ none := by
  rw [namedBy, List.mem_filterMap, Option.ne_none_iff_exists']
  constructor
  · rintro ⟨⟨_, kind⟩, hmem, rfl⟩
    exact ⟨kind, named_mem_targetEvents_iff.mp hmem⟩
  · rintro ⟨kind, hhappened⟩
    exact ⟨⟨some id, kind⟩, named_mem_targetEvents_iff.mpr hhappened, rfl⟩

theorem mem_changed_iff :
    document ∈ before.changed after ↔ agree before after document = false := by
  rw [changed, Std.ExtTreeSet.mem_ofList, List.contains_iff_mem, List.mem_filter,
    List.mem_append, Std.ExtTreeMap.mem_keys, Std.ExtTreeMap.mem_keys, Bool.not_eq_true']
  apply and_iff_right_of_imp
  intro hdiffer
  by_contra hnowhere
  obtain ⟨hbefore, hafter⟩ := not_or.mp hnowhere
  simp [agree, settings?, Std.ExtTreeMap.getElem?_eq_none hbefore,
    Std.ExtTreeMap.getElem?_eq_none hafter] at hdiffer

/-- What an event of a reload affects, before or after, the events report together. -/
theorem reported_of_affects (named : id ∈ namedBy (before.targetEvents after))
    (h : before.graph.Affects id document ∨ after.graph.Affects id document) :
    Reported after.buildTargets before.graph (before.targetEvents after) document := by
  obtain hbefore | hafter := h
  · exact TargetGraph.reported_of_affects_before before.wired_graph named hbefore
  · apply TargetGraph.reported_of_affects_after before.wired_graph named
    have hgraph := TargetGraph.applySnapshot_fst before.graph (before.targetEvents after)
      after.buildTargets false
    rw [applySnapshot_targetEvents, if_neg Bool.false_ne_true] at hgraph
    rwa [← hgraph]

/-- The two reports of a reload agree.  Take two plans of one package, written in any way, with
the same build directory.  Each document whose settings are not the same in both is affected by
a target that an event names, in the old graph or in the new one, and is among the documents
that the old graph reports when it takes in the events. -/
theorem changed_documents_affected (current root : FilePath) (written rewritten : BuildPlan)
    (rebuild : Bool)
    (sameDirectory : (ofPlan current root written).buildDirectory =
      (ofPlan current root rewritten).buildDirectory) :
    let before := ofPlan current root written
    let after := ofPlan current root rewritten
    let events := before.targetEvents after
    ∃ documents, ((ofSnapshot before.buildTargets).applySnapshot events after.buildTargets
        rebuild).2 = .only documents ∧
      ∀ document ∈ before.changed after, document ∈ documents ∧
        ∃ id ∈ namedBy events, document ∈ (ofSnapshot before.buildTargets).affectedBy id ∨
          document ∈ (ofSnapshot after.buildTargets).affectedBy id := by
  intro before after events
  obtain ⟨documents, hdocuments, hreported⟩ := TargetGraph.exists_documents_reported before.graph
    after.buildTargets rebuild fun _ => target_ne_none_of_mem_targetEvents
  refine ⟨documents, hdocuments, fun document hchanged => ?_⟩
  obtain ⟨id, hnamed, haffects⟩ : ∃ id ∈ namedBy events,
      before.graph.Affects id document ∨ after.graph.Affects id document := by
    by_contra hnone
    have hspared : Spares before after document := by
      intro id hhappened
      rw [← not_or]
      exact fun haffects => hnone ⟨id, mem_namedBy_targetEvents_iff.mpr hhappened, haffects⟩
    have hagree := agree_of_spared (owned_ofPlan current root written)
      (owned_ofPlan current root rewritten) rfl sameDirectory hspared
    rw [mem_changed_iff.mp hchanged] at hagree
    cases hagree
  refine ⟨(hreported document).mpr (reported_of_affects hnamed haffects), id, hnamed, ?_⟩
  exact haffects.imp before.wired_graph.mem_affectedBy.mpr after.wired_graph.mem_affectedBy.mpr

/-- A target that lists a document, as any other of them does. -/
def listing (name : String) : PlanTarget where
  name
  displayName := none
  sources := [.ofString "shared.c"]
  dependencies := ["base"]
  compilerArguments := ["-DTARGET=" ++ name]
  workingDirectory := none

/-- A plan with such targets. -/
def sharing (names : List String) : BuildPlan where
  buildDirectory := .ofString ".build"
  targets := names.map listing

/-- The document goes over to a new target, which comes first by name, while nothing happens to
its owner. -/
theorem changed_documents_affected_shared :
    let before := ofPlan (.ofString "/") (.ofString "/pkg") (sharing ["lib"])
    let after := ofPlan (.ofString "/") (.ofString "/pkg") (sharing ["lib", "app"])
    before.buildDirectory = after.buildDirectory ∧
      (⟨"file:///pkg/shared.c"⟩ : Document) ∈ before.changed after ∧
      ∃ documents, ((ofSnapshot before.buildTargets).applySnapshot (before.targetEvents after)
          after.buildTargets false).2 = .only documents ∧
        (⟨"file:///pkg/shared.c"⟩ : Document) ∈ documents := by
  intro before after
  have hbefore : before.owners[(⟨"file:///pkg/shared.c"⟩ : Document)]? = some ⟨"lib"⟩ := by
    decide +kernel
  have hafter : after.owners[(⟨"file:///pkg/shared.c"⟩ : Document)]? = some ⟨"app"⟩ := by
    decide +kernel
  have hchanged : (⟨"file:///pkg/shared.c"⟩ : Document) ∈ before.changed after := by
    rw [mem_changed_iff, agree, settings?_of_owner hbefore rfl, settings?_of_owner hafter rfl,
      Bool.eq_false_iff, Ne, BuildSettings.same_iff]
    rintro ⟨harguments, -⟩
    cases harguments
  obtain ⟨documents, hdocuments, haffected⟩ := changed_documents_affected (.ofString "/")
    (.ofString "/pkg") (sharing ["lib"]) (sharing ["lib", "app"]) false rfl
  exact ⟨rfl, hchanged, documents, hdocuments, (haffected _ hchanged).1⟩

end ResolvedPlan

end SettingsBroker
