/-
# The target graph of a plan

A plan is known to the rest of the system as a target graph.  Where the plan keeps lists of
dependencies the graph keeps sets, turned round so that they can be walked backwards, and it
leaves out what a target depends on itself.  No chain of dependencies needs such a link, so
chains are the same in the plan and in its graph, and the walk forwards, which collects what a
target depends on, and the walk backwards, which collects what depends on a target, describe
one relation.

That a target is not part of the plan does not matter to either walk: it ends there.
-/

import SettingsBroker.BuildPlan
import SettingsBroker.Proofs.Graph.Affected

namespace SettingsBroker

open Relation
open TargetGraph (definitions ofSnapshot DistinctIds)

namespace ResolvedPlan

variable {plan : ResolvedPlan} {id dependency : TargetId} {document : Document}

/-! ## What a plan says of its targets -/

/-- A target of the plan lists a document among its sources. -/
def Lists (plan : ResolvedPlan) (id : TargetId) (document : Document) : Prop :=
  ∃ target, plan.targets[id]? = some target ∧ document ∈ target.sources

/-- A target of the plan lists a dependency, which need not be part of the plan. -/
def Requires (plan : ResolvedPlan) (id dependency : TargetId) : Prop :=
  ∃ target, plan.targets[id]? = some target ∧ dependency ∈ target.dependencies

theorem getElem?_edges (plan : ResolvedPlan) (id : TargetId) :
    plan.edges[id]? = plan.targets[id]?.map (·.dependencies) :=
  Std.ExtTreeMap.getElem?_map

theorem edge_edges (plan : ResolvedPlan) : Graph.Edge plan.edges = plan.Requires := by
  funext id dependency
  rw [Graph.Edge, getElem?_edges]
  simp [Requires]

/-- The walk forwards collects what chains of dependencies lead to, but the target itself. -/
theorem mem_transitiveDependencies :
    dependency ∈ plan.transitiveDependencies id ↔
      dependency ≠ id ∧ TransGen plan.Requires id dependency := by
  have hfirst : ∀ next, next ∈ plan.edges[id]?.getD [] ↔ plan.Requires id next := by
    intro next
    rw [getElem?_edges, Requires]
    cases plan.targets[id]? <;> simp
  rw [transitiveDependencies, Std.ExtTreeSet.mem_erase, Ne, Std.LawfulEqOrd.compare_eq_iff_eq,
    Graph.mem_reach_iff, edge_edges, TransGen.head'_iff, eq_comm]
  simp only [hfirst, Ne]

/-! ## What the graph knows -/

theorem buildTarget_pruned (id : TargetId) (target : ResolvedTarget) :
    (buildTarget id target).pruned = buildTarget id target := by
  apply BuildTarget.pruned_of_not_mem
  simp [buildTarget]

theorem mem_buildTarget_dependencies {target : ResolvedTarget} :
    dependency ∈ (buildTarget id target).dependencies ↔
      dependency ∈ target.dependencies ∧ dependency ≠ id := by
  simp [buildTarget]

theorem mem_buildTarget_sources {target : ResolvedTarget} :
    document ∈ (buildTarget id target).sources ↔ document ∈ target.sources := by
  simp [buildTarget]

/-- The targets of a plan are listed once each. -/
theorem distinctIds_buildTargets (plan : ResolvedPlan) : DistinctIds plan.buildTargets := by
  have hids : plan.buildTargets.map (·.id) = plan.targets.keys := by
    rw [buildTargets, List.map_map, ← Std.ExtTreeMap.map_fst_toList_eq_keys]
    rfl
  rw [DistinctIds, hids]
  exact Std.ExtTreeMap.nodup_keys

theorem definitions_buildTargets (plan : ResolvedPlan) (id : TargetId) :
    (definitions plan.buildTargets)[id]? = plan.targets[id]?.map (buildTarget id) := by
  apply Option.ext
  intro target
  rw [TargetGraph.definitions_eq_some_iff plan.distinctIds_buildTargets, buildTargets,
    List.mem_map, Option.map_eq_some_iff]
  constructor
  · rintro ⟨⟨⟨key, found⟩, hmem, rfl⟩, rfl⟩
    exact ⟨found, Std.ExtTreeMap.mem_toList_iff_getElem?_eq_some.mp hmem, rfl⟩
  · rintro ⟨found, hfound, rfl⟩
    exact ⟨⟨(id, found), Std.ExtTreeMap.mem_toList_iff_getElem?_eq_some.mpr hfound, rfl⟩, rfl⟩

/-- The graph that is built from the targets of a plan. -/
def graph (plan : ResolvedPlan) : TargetGraph :=
  ofSnapshot plan.buildTargets

theorem wired_graph (plan : ResolvedPlan) : plan.graph.Wired :=
  TargetGraph.wired_ofSnapshot plan.distinctIds_buildTargets

theorem getElem?_targets_graph (plan : ResolvedPlan) (id : TargetId) :
    plan.graph.targets[id]? = plan.targets[id]?.map (buildTarget id) := by
  rw [graph, TargetGraph.getElem?_targets_ofSnapshot, definitions_buildTargets]
  cases plan.targets[id]? with
  | none => rfl
  | some target => exact congrArg some (buildTarget_pruned id target)

theorem compiles_graph_iff : plan.graph.Compiles id document ↔ plan.Lists id document := by
  rw [TargetGraph.Compiles, TargetGraph.Names, getElem?_targets_graph, Lists]
  simp [mem_buildTarget_sources]

theorem dependsOn_graph_iff :
    plan.graph.DependsOn id dependency ↔ plan.Requires id dependency ∧ dependency ≠ id := by
  rw [TargetGraph.DependsOn, TargetGraph.Names, getElem?_targets_graph, Requires]
  simp [mem_buildTarget_dependencies, ← and_assoc]

/-- Chains lead to the same targets with and without links of a target to itself. -/
theorem chain_graph_iff :
    ReflTransGen plan.graph.DependsOn id dependency ↔ ReflTransGen plan.Requires id dependency := by
  constructor
  · apply ReflTransGen.mono
    exact fun _ _ hlink => (dependsOn_graph_iff.mp hlink).1
  · intro hchain
    induction hchain with
    | refl => exact .refl
    | @tail middle last _ hlink ih =>
      by_cases hself : last = middle
      · rwa [hself]
      · exact ih.tail (dependsOn_graph_iff.mpr ⟨hlink, hself⟩)

/-- What a target affects is listed by targets from which chains of dependencies lead to it. -/
theorem affects_graph_iff :
    plan.graph.Affects id document ↔
      ∃ owner, plan.Lists owner document ∧ ReflTransGen plan.Requires owner id := by
  simp only [TargetGraph.Affects, compiles_graph_iff, chain_graph_iff]

/-- The two walks describe one relation.  In the graph of a plan, a change of a target affects
exactly the sources of that target, if it is part of the plan, and of the targets that depend on
it, directly or through others, by the plan. -/
theorem affectedBy_iff_transitiveDependencies (plan : ResolvedPlan) (id : TargetId)
    (document : Document) :
    document ∈ (ofSnapshot plan.buildTargets).affectedBy id ↔
      ∃ (owner : TargetId) (target : ResolvedTarget), plan.targets[owner]? = some target ∧
        document ∈ target.sources ∧
          (owner = id ∨ id ∈ plan.transitiveDependencies owner) := by
  have hchain : ∀ owner, ReflTransGen plan.Requires owner id ↔
      owner = id ∨ id ∈ plan.transitiveDependencies owner := by
    intro owner
    rw [mem_transitiveDependencies, reflTransGen_iff_eq_or_transGen]
    tauto
  apply plan.wired_graph.mem_affectedBy.trans
  rw [affects_graph_iff]
  simp only [hchain, Lists]
  constructor
  · rintro ⟨owner, ⟨target, htarget, hsource⟩, hdepends⟩
    exact ⟨owner, target, htarget, hsource, hdepends⟩
  · rintro ⟨owner, target, htarget, hsource, hdepends⟩
    exact ⟨owner, ⟨target, htarget, hsource⟩, hdepends⟩

end ResolvedPlan

end SettingsBroker
