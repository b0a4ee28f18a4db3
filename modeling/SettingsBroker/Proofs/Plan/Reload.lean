/-
# What a reload reports of targets

A reload compares the targets of two plans as they were resolved, with ordered lists, compiler
arguments and directories.  A target graph compares nothing.  It is told which targets are new,
different or gone, looks each of them up among the targets of the new plan, and keeps all
others as they are.

It may keep them, since targets that a plan source takes to be the same look the same from
outside.  The events of a reload therefore tell what happened to the targets, in the sense in
which any build system has to, and a graph that was built from the old plan becomes the one
that is built from the new plan.
-/

import SettingsBroker.PlanSource
import SettingsBroker.Proofs.Broker.TargetWords
import SettingsBroker.Proofs.Plan.Graph

namespace SettingsBroker

open TargetGraph (ofSnapshot DistinctIds namedBy)

/-- Events that tell what happened to each target by its name carry a graph along. -/
theorem TargetGraph.applySnapshot_of_tells {before after : List BuildTarget}
    {events : List TargetEvent} (distinctBefore : DistinctIds before)
    (distinctAfter : DistinctIds after) (allNamed : ∀ event ∈ events, event.target ≠ none)
    (tells : Tells events before after) :
    ((ofSnapshot before).applySnapshot events after false).1 = ofSnapshot after := by
  have hwired : ((ofSnapshot before).applySnapshot events after false).1.Wired :=
    (wired_ofSnapshot distinctBefore).applySnapshot distinctAfter events false
  apply hwired.ext (wired_ofSnapshot distinctAfter)
  funext id
  have hwords : (⟨events, false⟩ : TargetFetch).words = (TargetNews.ofEvents events).words := by
    have hnamed : events.any (·.target.isNone) = false := by simpa using allNamed
    simp [TargetNews.ofEvents, hnamed, TargetFetch.words, TargetNews.words]
  have hknown := known_applySnapshot (ofSnapshot before) ⟨events, false⟩ after id
  rw [hwords] at hknown
  exact hknown.trans (outlook_of_tells tells fun hsame => hsame)

namespace ResolvedPlan

variable {before after : ResolvedPlan} {id : TargetId} {kind : TargetEventKind}

/-- What happened to a target between two plans. -/
def happened (before after : ResolvedPlan) (id : TargetId) : Option TargetEventKind :=
  match before.targets[id]?, after.targets[id]? with
  | none, none => none
  | none, some _ => some .created
  | some _, none => some .removed
  | some old, some new => if old.same new then none else some .changed

theorem happened_created_iff :
    before.happened after id = some .created ↔ id ∉ before.targets ∧ id ∈ after.targets := by
  rw [happened, Std.ExtTreeMap.mem_iff_isSome_getElem?, Std.ExtTreeMap.mem_iff_isSome_getElem?]
  cases before.targets[id]? <;> cases after.targets[id]? <;> simp

theorem happened_changed_iff :
    before.happened after id = some .changed ↔
      ∃ old new, before.targets[id]? = some old ∧ after.targets[id]? = some new ∧
        old.same new = false := by
  rw [happened]
  cases before.targets[id]? <;> cases after.targets[id]? <;> simp

theorem happened_removed_iff :
    before.happened after id = some .removed ↔ id ∈ before.targets ∧ id ∉ after.targets := by
  rw [happened, Std.ExtTreeMap.mem_iff_isSome_getElem?, Std.ExtTreeMap.mem_iff_isSome_getElem?]
  cases before.targets[id]? <;> cases after.targets[id]? <;> simp

theorem happened_of_new {new : ResolvedTarget} (hnew : after.targets[id]? = some new) :
    (before.happened after id).map (⟨some id, ·⟩) =
      match before.targets[id]? with
      | none => some (⟨some id, .created⟩ : TargetEvent)
      | some old => if old.same new then none else some ⟨some id, .changed⟩ := by
  rw [happened, hnew]
  cases before.targets[id]? with
  | none => rfl
  | some old => exact apply_ite (Option.map _) _ _ _

/-- The events of a reload are on targets by name, and say of each what happened to it. -/
theorem mem_targetEvents_iff {event : TargetEvent} :
    event ∈ before.targetEvents after ↔
      ∃ id, (before.happened after id).map (⟨some id, ·⟩) = some event := by
  rw [targetEvents, List.mem_append, List.mem_filterMap, List.mem_filterMap]
  constructor
  · rintro (⟨⟨id, new⟩, hmem, hevent⟩ | ⟨id, hmem, hevent⟩)
    · have hnew := Std.ExtTreeMap.mem_toList_iff_getElem?_eq_some.mp hmem
      exact ⟨id, (happened_of_new hnew).trans hevent⟩
    · have hold : id ∈ before.targets := Std.ExtTreeMap.mem_keys.mp hmem
      split at hevent
      · cases hevent
      · next hgone =>
        refine ⟨id, ?_⟩
        rw [happened_removed_iff.mpr ⟨hold, by simpa using hgone⟩]
        exact hevent
  · rintro ⟨id, hevent⟩
    cases hnew : after.targets[id]? with
    | some new =>
      left
      refine ⟨(id, new), Std.ExtTreeMap.mem_toList_iff_getElem?_eq_some.mpr hnew, ?_⟩
      exact (happened_of_new hnew).symm.trans hevent
    | none =>
      right
      have hgone : id ∉ after.targets := by
        rw [Std.ExtTreeMap.mem_iff_isSome_getElem?, hnew]
        exact Bool.false_ne_true
      cases hold : before.targets[id]? with
      | none => simp [happened, hold, hnew] at hevent
      | some old =>
        have hmem : id ∈ before.targets := by
          rw [Std.ExtTreeMap.mem_iff_isSome_getElem?, hold]
          rfl
        rw [happened_removed_iff.mpr ⟨hmem, hgone⟩] at hevent
        refine ⟨id, Std.ExtTreeMap.mem_keys.mpr hmem, ?_⟩
        simpa [hgone] using hevent

theorem named_mem_targetEvents_iff :
    ⟨some id, kind⟩ ∈ before.targetEvents after ↔ before.happened after id = some kind := by
  rw [mem_targetEvents_iff]
  simp

theorem target_ne_none_of_mem_targetEvents {event : TargetEvent}
    (h : event ∈ before.targetEvents after) : event.target ≠ none := by
  obtain ⟨id, hevent⟩ := mem_targetEvents_iff.mp h
  obtain ⟨kind, -, rfl⟩ := Option.map_eq_some_iff.mp hevent
  exact Option.some_ne_none id

/-- No two events of a reload are on one target. -/
theorem nodup_namedBy_targetEvents (before after : ResolvedPlan) :
    (namedBy (before.targetEvents after)).Nodup := by
  have hdistinct : (before.targetEvents after).Pairwise (·.target ≠ ·.target) := by
    rw [targetEvents, List.pairwise_append]
    refine ⟨?_, ?_, ?_⟩
    · apply after.targets.distinct_keys_toList.filterMap
      rintro ⟨id, new⟩ ⟨other, another⟩ hkeys event hevent later hlater
      have hids : id ≠ other := fun heq => hkeys (heq ▸ Std.ReflCmp.compare_self)
      grind
    · refine List.Pairwise.filterMap _ ?_ before.targets.nodup_keys
      intro id other hids event hevent later hlater
      grind
    · intro event hevent later hlater
      obtain ⟨⟨id, new⟩, hmem, hevent⟩ := List.mem_filterMap.mp hevent
      obtain ⟨other, -, hlater⟩ := List.mem_filterMap.mp hlater
      have hnew := Std.ExtTreeMap.mem_toList_iff_getElem?_eq_some.mp hmem
      grind
  exact hdistinct.filterMap _ (by grind)

/-- Targets that are taken to be the same look the same from outside. -/
theorem buildTarget_eq_of_same {old new : ResolvedTarget} (same : old.same new = true)
    (id : TargetId) : buildTarget id old = buildTarget id new := by
  obtain ⟨hname, hsources, hdependencies, -, -⟩ := ResolvedTarget.same_iff.mp same
  rw [buildTarget, buildTarget, hname, hsources, hdependencies]

/-- The events of a reload tell what happened to the targets. -/
theorem tells_targetEvents (before after : ResolvedPlan) :
    Tells (before.targetEvents after) before.buildTargets after.buildTargets := by
  right
  constructor
  · intro id kind hbetween
    rw [named_mem_targetEvents_iff, happened]
    rw [definitions_buildTargets, definitions_buildTargets] at hbetween
    cases hold : before.targets[id]? with
    | none =>
      cases hnew : after.targets[id]? with
      | none => simp [hold, hnew, TargetEventKind.between] at hbetween
      | some new => simpa [hold, hnew, TargetEventKind.between] using hbetween
    | some old =>
      cases hnew : after.targets[id]? with
      | none => simpa [hold, hnew, TargetEventKind.between] using hbetween
      | some new =>
        simp only [hold, hnew, Option.map_some, TargetEventKind.between] at hbetween ⊢
        split at hbetween
        · cases hbetween
        · next hdiffer =>
          rw [if_neg fun hsame => hdiffer (buildTarget_eq_of_same hsame id)]
          exact hbetween
  · intro id hremoved
    obtain ⟨-, hgone⟩ := happened_removed_iff.mp (named_mem_targetEvents_iff.mp hremoved)
    rw [definitions_buildTargets, Std.ExtTreeMap.getElem?_eq_none hgone, Option.map_none]

/-- A graph that was built from the old plan becomes the graph of the new plan. -/
theorem applySnapshot_targetEvents (before after : ResolvedPlan) :
    (before.graph.applySnapshot (before.targetEvents after) after.buildTargets false).1 =
      after.graph :=
  TargetGraph.applySnapshot_of_tells before.distinctIds_buildTargets
    after.distinctIds_buildTargets (fun _ => target_ne_none_of_mem_targetEvents)
    (tells_targetEvents before after)

/-- The events of a first reload tell that every target is new. -/
theorem tells_first (plan : ResolvedPlan) :
    Tells (PlanSource.reloadEvents none plan) [] plan.buildTargets := by
  right
  constructor
  · intro id kind hbetween
    rw [definitions_buildTargets] at hbetween
    cases hnew : plan.targets[id]? with
    | none => simp [hnew, TargetGraph.definitions, TargetEventKind.between] at hbetween
    | some target =>
      have hmem : id ∈ plan.targets := by
        rw [Std.ExtTreeMap.mem_iff_isSome_getElem?, hnew]
        rfl
      have hkind : kind = .created := by
        simpa [hnew, TargetGraph.definitions, TargetEventKind.between, eq_comm] using hbetween
      rw [hkind]
      exact List.mem_map_of_mem (Std.ExtTreeMap.mem_keys.mpr hmem)
  · intro id hremoved
    simp [PlanSource.reloadEvents] at hremoved

/-- The target events of a reload carry a graph to the new plan.  A graph that was built from
the targets of one plan and takes in the events that lead to another, with the targets of that
plan, becomes the graph that is built from them; so does a graph without targets that takes in
the events of a first reload.  The events are on targets by name, no two on one target: created
for targets that are only in the new plan, changed for those in both plans that are not the
same, removed for those that are only in the old plan. -/
theorem reload_carries_graph (before after : ResolvedPlan) :
    let first := PlanSource.reloadEvents none after
    let events := PlanSource.reloadEvents (some before) after
    ((ofSnapshot before.buildTargets).applySnapshot events after.buildTargets false).1 =
        ofSnapshot after.buildTargets ∧
      (TargetGraph.empty.applySnapshot first after.buildTargets false).1 =
        ofSnapshot after.buildTargets ∧
      (namedBy first).Nodup ∧ (namedBy events).Nodup ∧
      (∀ event ∈ events, event.target ≠ none) ∧
      ∀ id, (⟨some id, .created⟩ ∈ events ↔ id ∉ before.targets ∧ id ∈ after.targets) ∧
        (⟨some id, .changed⟩ ∈ events ↔
          ∃ old new, before.targets[id]? = some old ∧ after.targets[id]? = some new ∧
            old.same new = false) ∧
        (⟨some id, .removed⟩ ∈ events ↔ id ∈ before.targets ∧ id ∉ after.targets) := by
  intro first events
  have hids : namedBy first = after.targets.keys := by
    simp [first, namedBy, PlanSource.reloadEvents, List.filterMap_map]
  refine ⟨applySnapshot_targetEvents before after, ?_, ?_, nodup_namedBy_targetEvents before after,
    fun event hevent => target_ne_none_of_mem_targetEvents hevent, fun id => ⟨?_, ?_, ?_⟩⟩
  · have hnone : DistinctIds [] := List.nodup_nil
    apply TargetGraph.applySnapshot_of_tells hnone after.distinctIds_buildTargets
    · simp [first, PlanSource.reloadEvents]
    · exact tells_first after
  · rw [hids]
    exact Std.ExtTreeMap.nodup_keys
  · exact named_mem_targetEvents_iff.trans happened_created_iff
  · exact named_mem_targetEvents_iff.trans happened_changed_iff
  · exact named_mem_targetEvents_iff.trans happened_removed_iff

end ResolvedPlan

end SettingsBroker
