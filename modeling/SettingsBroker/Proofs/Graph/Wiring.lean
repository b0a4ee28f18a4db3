/-
# The target graph is wired by its definitions

The graph keeps two tables beside the definitions of its targets: which targets depend on a
target, and which compile a document.  They are kept up to date by hand, edge by edge.  This
module proves that they always say what the definitions say and nothing more, and keep no
empty set, so that a graph is determined by its definitions: whatever has happened to it, it
is the graph that would be built from them anew.

Edges towards targets that are not known belong to the targets that have them.  They stay
when the target at their end is taken out, and the tables say so.
-/

import Mathlib.Data.List.Induction
import Mathlib.Data.List.Nodup
import Mathlib.Logic.Function.Basic
import SettingsBroker.TargetGraph

namespace SettingsBroker

namespace BuildTarget

variable {target : BuildTarget} {id : TargetId}

/-- The target without a dependency on itself, as a graph keeps it. -/
def pruned (target : BuildTarget) : BuildTarget :=
  { target with dependencies := target.dependencies.erase target.id }

theorem mem_pruned_dependencies :
    id ∈ target.pruned.dependencies ↔ id ≠ target.id ∧ id ∈ target.dependencies := by
  rw [pruned, Std.ExtTreeSet.mem_erase, Ne, Std.LawfulEqOrd.compare_eq_iff_eq, Ne, eq_comm]

theorem pruned_of_not_mem (h : target.id ∉ target.dependencies) : target.pruned = target := by
  have hkept : target.dependencies.erase target.id = target.dependencies := by
    apply Std.ExtTreeSet.ext_mem
    intro id
    apply mem_pruned_dependencies.trans
    exact and_iff_right_of_imp fun hmem heq => h (heq ▸ hmem)
  rw [pruned, hkept]

end BuildTarget

/-- What is left of a target after an event on it, when its definition is looked up. -/
def TargetEventKind.remaining (kind : TargetEventKind) (definition : Option BuildTarget) :
    Option BuildTarget :=
  match kind with
  | .removed => none
  | .created | .changed => definition

namespace TargetGraph

/-! ## Tables of sets -/

section Tables

variable {α : Type} [Ord α] [Std.TransOrd α]
variable {table again : Std.ExtTreeMap α TargetSet} {relation other : TargetId → α → Prop}

/-- The set that a table has under a key. -/
def under (table : Std.ExtTreeMap α TargetSet) (key : α) : TargetSet :=
  table[key]?.getD ∅

/-- A table says of each key which targets stand in a relation to it, and keeps no empty
set. -/
structure Indexes (table : Std.ExtTreeMap α TargetSet) (relation : TargetId → α → Prop) :
    Prop where
  entered : ∀ id key, id ∈ under table key ↔ relation id key
  inhabited : ∀ (key : α) (ids : TargetSet), table[key]? = some ids → ids ≠ ∅

theorem Indexes.of_iff (h : Indexes table relation)
    (hiff : ∀ id key, relation id key ↔ other id key) : Indexes table other :=
  ⟨fun id key => (h.entered id key).trans (hiff id key), h.inhabited⟩

theorem indexes_empty : Indexes (∅ : Std.ExtTreeMap α TargetSet) fun _ _ => False :=
  ⟨by simp [under], by simp⟩

/-- A table has a set under exactly those keys to which some target stands in its relation. -/
theorem Indexes.mem_iff (h : Indexes table relation) (key : α) :
    key ∈ table ↔ ∃ id, relation id key := by
  have hunder : (∃ id, relation id key) ↔ under table key ≠ ∅ := by
    simp only [← h.entered, ne_eq, Std.ExtTreeSet.eq_empty_iff_forall_not_mem, not_forall, not_not]
  rw [hunder, Std.ExtTreeMap.mem_iff_isSome_getElem?, under]
  cases hfound : table[key]? with
  | none => simp
  | some ids => simp [h.inhabited key ids hfound]

variable [Std.LawfulEqOrd α]

/-- There is only one table for a relation. -/
theorem Indexes.unique (h : Indexes table relation) (hagain : Indexes again relation) :
    table = again := by
  apply Std.ExtTreeMap.ext_getElem?
  intro key
  have hsame : under table key = under again key := by
    apply Std.ExtTreeSet.ext_mem
    intro id
    rw [h.entered, hagain.entered]
  unfold under at hsame
  cases hfound : table[key]? with
  | none =>
    cases hfoundAgain : again[key]? with
    | none => rfl
    | some ids =>
      rw [hfound, hfoundAgain] at hsame
      exact absurd hsame.symm (hagain.inhabited key ids hfoundAgain)
  | some ids =>
    cases hfoundAgain : again[key]? with
    | none =>
      rw [hfound, hfoundAgain] at hsame
      exact absurd hsame (h.inhabited key ids hfound)
    | some found =>
      rw [hfound, hfoundAgain] at hsame
      exact congrArg some hsame

variable [DecidableEq α]

theorem under_link (id : TargetId) (table : Std.ExtTreeMap α TargetSet) (key found : α) :
    under (link id table key) found =
      if key = found then (under table found).insert id else under table found := by
  unfold under link
  rw [Std.ExtTreeMap.getElem?_alter]
  simp only [Std.LawfulEqOrd.compare_eq_iff_eq]
  split
  · next hkey => rw [hkey, Option.getD_some]
  · rfl

/-- Where nothing is left, the set is taken out of the table with its last member. -/
theorem under_unlink (id : TargetId) (table : Std.ExtTreeMap α TargetSet) (key found : α) :
    under (unlink id table key) found =
      if key = found then (under table found).erase id else under table found := by
  unfold under unlink
  rw [Std.ExtTreeMap.getElem?_alter]
  simp only [Std.LawfulEqOrd.compare_eq_iff_eq]
  split
  · next hkey =>
    subst hkey
    cases table[key]? with
    | none => simp
    | some ids =>
      simp only [Option.getD_some]
      split
      · next hempty => exact (Std.ExtTreeSet.isEmpty_iff.mp hempty).symm
      · rfl
  · rfl

theorem Indexes.link (h : Indexes table relation) (id : TargetId) (key : α) :
    Indexes (link id table key) fun member found =>
      relation member found ∨ (member = id ∧ found = key) := by
  constructor
  · intro member found
    rw [under_link, ← h.entered member found]
    split
    · next hkey =>
      rw [Std.ExtTreeSet.mem_insert, Std.LawfulEqOrd.compare_eq_iff_eq]
      grind
    · grind
  · intro found ids hfound
    unfold TargetGraph.link at hfound
    rw [Std.ExtTreeMap.getElem?_alter] at hfound
    split at hfound
    · obtain rfl := Option.some.inj hfound
      exact Std.ExtTreeSet.insert_ne_empty
    · exact h.inhabited found ids hfound

theorem Indexes.unlink (h : Indexes table relation) (id : TargetId) (key : α) :
    Indexes (unlink id table key) fun member found =>
      relation member found ∧ ¬ (member = id ∧ found = key) := by
  constructor
  · intro member found
    rw [under_unlink, ← h.entered member found]
    split
    · next hkey =>
      rw [Std.ExtTreeSet.mem_erase, Ne, Std.LawfulEqOrd.compare_eq_iff_eq]
      grind
    · grind
  · intro found ids hfound
    unfold TargetGraph.unlink at hfound
    rw [Std.ExtTreeMap.getElem?_alter] at hfound
    split at hfound
    · split at hfound
      · cases hfound
      · dsimp only at hfound
        split at hfound
        · cases hfound
        · next hsome =>
          obtain rfl := Option.some.inj hfound
          exact fun hempty => hsome (Std.ExtTreeSet.isEmpty_iff.mpr hempty)
    · exact h.inhabited found ids hfound

theorem Indexes.foldl_link (h : Indexes table relation) (id : TargetId) (keys : List α) :
    Indexes (keys.foldl (TargetGraph.link id) table) fun member found =>
      relation member found ∨ (member = id ∧ found ∈ keys) := by
  induction keys generalizing table relation with
  | nil => exact h.of_iff (by simp)
  | cons key keys ih =>
    apply (ih (h.link id key)).of_iff
    intro member found
    rw [List.mem_cons]
    tauto

theorem Indexes.foldl_unlink (h : Indexes table relation) (id : TargetId) (keys : List α) :
    Indexes (keys.foldl (TargetGraph.unlink id) table) fun member found =>
      relation member found ∧ ¬ (member = id ∧ found ∈ keys) := by
  induction keys generalizing table relation with
  | nil => exact h.of_iff (by simp)
  | cons key keys ih =>
    apply (ih (h.unlink id key)).of_iff
    intro member found
    rw [List.mem_cons]
    tauto

end Tables

/-! ## Tables of a part of the definitions -/

section Parts

variable {α : Type} [Ord α] [Std.TransOrd α]
variable {targets : Std.ExtTreeMap TargetId BuildTarget} {part : BuildTarget → Std.ExtTreeSet α}
variable {table : Std.ExtTreeMap α TargetSet} {target : BuildTarget} {id : TargetId}

/-- A known target has a key in a part of its definition. -/
def Names (targets : Std.ExtTreeMap TargetId BuildTarget) (part : BuildTarget → Std.ExtTreeSet α)
    (id : TargetId) (key : α) : Prop :=
  ∃ target, targets[id]? = some target ∧ key ∈ part target

variable [Std.LawfulEqOrd α] [DecidableEq α]

theorem Indexes.insert (h : Indexes table (Names targets part)) (target : BuildTarget)
    (absent : targets[target.id]? = none) :
    Indexes ((part target).toList.foldl (TargetGraph.link target.id) table)
      (Names (targets.insert target.id target) part) := by
  apply (h.foldl_link target.id (part target).toList).of_iff
  intro member key
  unfold Names
  rw [Std.ExtTreeSet.mem_toList, Std.ExtTreeMap.getElem?_insert]
  simp only [Std.LawfulEqOrd.compare_eq_iff_eq]
  split
  · next hid => simp [← hid, absent]
  · next hid => simp [Ne.symm hid]

theorem Indexes.erase (h : Indexes table (Names targets part))
    (known : targets[id]? = some target) :
    Indexes ((part target).toList.foldl (TargetGraph.unlink id) table)
      (Names (targets.erase id) part) := by
  apply (h.foldl_unlink id (part target).toList).of_iff
  intro member key
  unfold Names
  rw [Std.ExtTreeSet.mem_toList, Std.ExtTreeMap.getElem?_erase]
  simp only [Std.LawfulEqOrd.compare_eq_iff_eq]
  split
  · next hid => simp [← hid, known]
  · next hid => simp [Ne.symm hid]

end Parts

/-! ## Wired graphs -/

variable {graph again : TargetGraph} {id : TargetId} {target : BuildTarget}

/-- A known target depends on another. -/
abbrev DependsOn (graph : TargetGraph) : TargetId → TargetId → Prop :=
  Names graph.targets BuildTarget.dependencies

/-- A known target compiles a document. -/
abbrev Compiles (graph : TargetGraph) : TargetId → Document → Prop :=
  Names graph.targets BuildTarget.sources

/-- The tables of a graph say what the definitions of its targets say. -/
structure Wired (graph : TargetGraph) : Prop where
  filed : ∀ (id : TargetId) (target : BuildTarget), graph.targets[id]? = some target →
    target.id = id ∧ id ∉ target.dependencies
  dependents : Indexes graph.dependents graph.DependsOn
  owners : Indexes graph.owners graph.Compiles

theorem wired_empty : Wired empty where
  filed := by
    intro id target htarget
    simp [empty] at htarget
  dependents := indexes_empty.of_iff (by simp [Names, empty])
  owners := indexes_empty.of_iff (by simp [Names, empty])

/-- What a graph knows of a target. -/
def known (graph : TargetGraph) (id : TargetId) : Option BuildTarget :=
  graph.targets[id]?

/-- Wired graphs that know the same are the same. -/
theorem Wired.ext (h : graph.Wired) (hagain : again.Wired) (hknown : graph.known = again.known) :
    graph = again := by
  have htargets : graph.targets = again.targets := Std.ExtTreeMap.ext_getElem? (congrFun hknown)
  obtain ⟨targets, dependents, owners⟩ := graph
  obtain ⟨targetsAgain, dependentsAgain, ownersAgain⟩ := again
  obtain rfl : targets = targetsAgain := htargets
  obtain rfl : dependents = dependentsAgain := h.dependents.unique hagain.dependents
  obtain rfl : owners = ownersAgain := h.owners.unique hagain.owners
  rfl

theorem getElem?_targets_insert (graph : TargetGraph) (target : BuildTarget) (id : TargetId) :
    (graph.insert target).targets[id]? =
      if target.id = id then some target.pruned else graph.targets[id]? := by
  have hinsert : (graph.insert target).targets = graph.targets.insert target.id target.pruned :=
    rfl
  rw [hinsert, Std.ExtTreeMap.getElem?_insert]
  simp only [Std.LawfulEqOrd.compare_eq_iff_eq]

theorem remove_of_unknown (h : graph.targets[id]? = none) : graph.remove id = graph := by
  unfold remove
  rw [h]

theorem remove_of_known (h : graph.targets[id]? = some target) :
    graph.remove id =
      { targets := graph.targets.erase id
        dependents := target.dependencies.toList.foldl (unlink id) graph.dependents
        owners := target.sources.toList.foldl (unlink id) graph.owners } := by
  unfold remove
  rw [h]

theorem getElem?_targets_remove (graph : TargetGraph) (id found : TargetId) :
    (graph.remove id).targets[found]? = if id = found then none else graph.targets[found]? := by
  cases hknown : graph.targets[id]? with
  | none =>
    rw [remove_of_unknown hknown]
    split
    · next hid => rw [← hid, hknown]
    · rfl
  | some target =>
    rw [remove_of_known hknown, Std.ExtTreeMap.getElem?_erase]
    simp only [Std.LawfulEqOrd.compare_eq_iff_eq]

/-- A target that is not known yet may be entered. -/
theorem Wired.insert (h : graph.Wired) (absent : graph.targets[target.id]? = none) :
    (graph.insert target).Wired where
  filed := by
    intro id found hfound
    rw [getElem?_targets_insert] at hfound
    split at hfound
    · next hid =>
      obtain rfl := Option.some.inj hfound
      refine ⟨hid, fun hself => ?_⟩
      exact (BuildTarget.mem_pruned_dependencies.mp hself).1 hid.symm
    · exact h.filed id found hfound
  dependents := h.dependents.insert target.pruned absent
  owners := h.owners.insert target.pruned absent

theorem Wired.remove (h : graph.Wired) (id : TargetId) : (graph.remove id).Wired := by
  cases hknown : graph.targets[id]? with
  | none => rwa [remove_of_unknown hknown]
  | some target =>
    have htargets := getElem?_targets_remove graph id
    rw [remove_of_known hknown] at htargets ⊢
    constructor
    case filed =>
      intro found other hother
      rw [htargets] at hother
      split at hother
      · cases hother
      · exact h.filed found other hother
    case dependents => exact h.dependents.erase hknown
    case owners => exact h.owners.erase hknown

/-! ## Snapshots -/

variable {snapshot : List BuildTarget}

/-- A snapshot lists each target once. -/
def DistinctIds (snapshot : List BuildTarget) : Prop :=
  (snapshot.map (·.id)).Nodup

theorem definitions_concat (snapshot : List BuildTarget) (target : BuildTarget) :
    definitions (snapshot ++ [target]) = (definitions snapshot).insert target.id target := by
  simp [definitions]

theorem ofSnapshot_concat (snapshot : List BuildTarget) (target : BuildTarget) :
    ofSnapshot (snapshot ++ [target]) = (ofSnapshot snapshot).insert target := by
  simp [ofSnapshot]

theorem mem_of_definitions (h : (definitions snapshot)[id]? = some target) :
    target ∈ snapshot ∧ target.id = id := by
  induction snapshot using List.reverseRecOn with
  | nil => simp [definitions] at h
  | append_singleton snapshot last ih =>
    rw [definitions_concat, Std.ExtTreeMap.getElem?_insert] at h
    split at h
    · next hid =>
      obtain rfl := Option.some.inj h
      exact ⟨by simp, Std.LawfulEqOrd.eq_of_compare hid⟩
    · obtain ⟨hmem, hid⟩ := ih h
      exact ⟨List.mem_append_left _ hmem, hid⟩

theorem definitions_eq_some_iff (distinct : DistinctIds snapshot) :
    (definitions snapshot)[id]? = some target ↔ target ∈ snapshot ∧ target.id = id := by
  constructor
  · exact mem_of_definitions
  · rintro ⟨hmem, rfl⟩
    induction snapshot using List.reverseRecOn with
    | nil => cases hmem
    | append_singleton snapshot last ih =>
      rw [DistinctIds, List.map_append, List.nodup_append] at distinct
      obtain ⟨hdistinct, -, hapart⟩ := distinct
      rw [definitions_concat, Std.ExtTreeMap.getElem?_insert]
      obtain hold | hlast := List.mem_append.mp hmem
      · have hother : last.id ≠ target.id := by
          apply Ne.symm
          exact hapart _ (List.mem_map_of_mem hold) _ (by simp)
        rw [if_neg (by simpa using hother)]
        exact ih hdistinct hold
      · rw [List.mem_singleton.mp hlast, if_pos (by simp)]

/-- A graph built from a snapshot knows the last definition of each target. -/
theorem getElem?_targets_ofSnapshot (snapshot : List BuildTarget) (id : TargetId) :
    (ofSnapshot snapshot).targets[id]? = (definitions snapshot)[id]?.map BuildTarget.pruned := by
  induction snapshot using List.reverseRecOn with
  | nil => simp [ofSnapshot, definitions, empty]
  | append_singleton snapshot last ih =>
    rw [ofSnapshot_concat, definitions_concat, getElem?_targets_insert,
      Std.ExtTreeMap.getElem?_insert]
    simp only [Std.LawfulEqOrd.compare_eq_iff_eq]
    split
    · rfl
    · exact ih

/-- The order of a snapshot does not matter for what the graph knows. -/
theorem known_ofSnapshot_of_perm {current : List BuildTarget} (distinct : DistinctIds current)
    (perm : snapshot.Perm current) : (ofSnapshot snapshot).known = (ofSnapshot current).known := by
  have hdistinct : DistinctIds snapshot := (perm.map _).nodup_iff.mpr distinct
  funext id
  have hsame : (definitions snapshot)[id]? = (definitions current)[id]? := by
    apply Option.ext
    intro target
    rw [definitions_eq_some_iff hdistinct, definitions_eq_some_iff distinct, perm.mem_iff]
  rw [known, known, getElem?_targets_ofSnapshot, getElem?_targets_ofSnapshot, hsame]

theorem wired_ofSnapshot (distinct : DistinctIds snapshot) : (ofSnapshot snapshot).Wired := by
  induction snapshot using List.reverseRecOn with
  | nil => exact wired_empty
  | append_singleton snapshot last ih =>
    rw [DistinctIds, List.map_append, List.nodup_append] at distinct
    obtain ⟨hdistinct, -, hapart⟩ := distinct
    rw [ofSnapshot_concat]
    apply (ih hdistinct).insert
    rw [getElem?_targets_ofSnapshot, Option.map_eq_none_iff, Option.eq_none_iff_forall_ne_some]
    intro target htarget
    obtain ⟨hmem, hid⟩ := mem_of_definitions htarget
    exact hapart _ (List.mem_map_of_mem hmem) _ (by simp) hid

/-- Whatever list of its definitions a graph is built from, it becomes what it is. -/
theorem Wired.ofSnapshot_eq (h : graph.Wired)
    (hperm : snapshot.Perm (graph.targets.toList.map Prod.snd)) : ofSnapshot snapshot = graph := by
  have hids : (graph.targets.toList.map Prod.snd).map (·.id) =
      graph.targets.toList.map Prod.fst := by
    rw [List.map_map]
    apply List.map_congr_left
    rintro ⟨id, target⟩ hmem
    exact (h.filed id target (Std.ExtTreeMap.mem_toList_iff_getElem?_eq_some.mp hmem)).1
  have hdistinct : DistinctIds snapshot := by
    rw [DistinctIds, (hperm.map _).nodup_iff, hids, List.Nodup, List.pairwise_map]
    apply graph.targets.distinct_keys_toList.imp
    intro a b hdiffer heq
    exact hdiffer (by simp [heq])
  apply (wired_ofSnapshot hdistinct).ext h
  funext id
  unfold known
  have hlisted : ∀ target, (definitions snapshot)[id]? = some target ↔
      graph.targets[id]? = some target := by
    intro target
    rw [definitions_eq_some_iff hdistinct, hperm.mem_iff, List.mem_map]
    constructor
    · rintro ⟨⟨⟨key, found⟩, hmem, rfl⟩, rfl⟩
      have hfound := Std.ExtTreeMap.mem_toList_iff_getElem?_eq_some.mp hmem
      rwa [(h.filed key found hfound).1]
    · intro htarget
      exact ⟨⟨(id, target), Std.ExtTreeMap.mem_toList_iff_getElem?_eq_some.mpr htarget, rfl⟩,
        (h.filed id target htarget).1⟩
  rw [getElem?_targets_ofSnapshot, Option.ext hlisted]
  cases hknown : graph.targets[id]? with
  | none => rfl
  | some target =>
    obtain ⟨hid, hself⟩ := h.filed id target hknown
    rw [Option.map_some, BuildTarget.pruned_of_not_mem (hid ▸ hself)]

/-! ## Events -/

variable {table : Std.ExtTreeMap TargetId BuildTarget} {event : TargetEvent}
variable {definition : Option BuildTarget}

/-- A definition that comes with an event is that of the event's target. -/
def Suits (definition : Option BuildTarget) (event : TargetEvent) : Prop :=
  ∀ id target, event.target = some id → definition = some target → target.id = id

theorem apply_named (graph : TargetGraph) (id : TargetId) (kind : TargetEventKind)
    (definition : Option BuildTarget) :
    graph.apply ⟨some id, kind⟩ definition =
      match kind.remaining definition with
      | none => (graph.remove id, .only (graph.affectedBy id))
      | some target =>
        ((graph.remove id).insert target,
          .only (graph.affectedBy id ∪ ((graph.remove id).insert target).affectedBy id)) := by
  cases kind <;> cases definition <;> rfl

theorem apply_unnamed (graph : TargetGraph) (kind : TargetEventKind)
    (definition : Option BuildTarget) : graph.apply ⟨none, kind⟩ definition = (graph, .all) := rfl

theorem known_apply {kind : TargetEventKind} (suits : Suits definition ⟨some id, kind⟩) :
    (graph.apply ⟨some id, kind⟩ definition).1.known =
      Function.update graph.known id ((kind.remaining definition).map BuildTarget.pruned) := by
  funext found
  have hremoved := getElem?_targets_remove graph id found
  rw [apply_named, Function.update_apply]
  cases hleft : kind.remaining definition with
  | none =>
    simp only [known, hremoved, eq_comm (a := found), Option.map_none]
  | some target =>
    have hid : target.id = id := by
      apply suits id target rfl
      cases kind <;> simp_all [TargetEventKind.remaining]
    simp only [known, getElem?_targets_insert, hremoved, hid, eq_comm (a := found),
      Option.map_some]
    split <;> rfl

theorem Wired.apply (h : graph.Wired) (suits : Suits definition event) :
    (graph.apply event definition).1.Wired := by
  obtain ⟨target, kind⟩ := event
  cases target with
  | none => exact h
  | some id =>
    rw [apply_named]
    cases hleft : kind.remaining definition with
    | none => exact h.remove id
    | some target =>
      have hid : target.id = id := by
        apply suits id target rfl
        cases kind <;> simp_all [TargetEventKind.remaining]
      apply (h.remove id).insert
      rw [getElem?_targets_remove, if_pos hid.symm]

/-- The graph after an event on a target whose definition is looked up in a table. -/
def advance (table : Std.ExtTreeMap TargetId BuildTarget) (graph : TargetGraph)
    (event : TargetEvent) : TargetGraph :=
  (graph.apply event (event.target.bind fun id => table[id]?)).1

theorem applySnapshot_fst (graph : TargetGraph) (events : List TargetEvent)
    (snapshot : List BuildTarget) (rebuild : Bool) :
    (graph.applySnapshot events snapshot rebuild).1 =
      if rebuild then ofSnapshot snapshot
      else events.foldl (advance (definitions snapshot)) graph := by
  have hfold : ∀ (affected : Affected), (events.foldl
      (fun (found : TargetGraph × Affected) event =>
        ((found.1.apply event (event.target.bind fun id => (definitions snapshot)[id]?)).1,
          found.2.merge
            (found.1.apply event (event.target.bind fun id => (definitions snapshot)[id]?)).2))
      (graph, affected)).1 = events.foldl (advance (definitions snapshot)) graph := by
    induction events generalizing graph with
    | nil => exact fun _ => rfl
    | cons event events ih => exact fun affected => ih _ _
  unfold applySnapshot
  cases rebuild with
  | true => rfl
  | false => exact hfold .none

theorem suits_definitions (snapshot : List BuildTarget) (event : TargetEvent) :
    Suits (event.target.bind fun id => (definitions snapshot)[id]?) event := by
  intro id target hid htarget
  rw [hid, Option.bind_some] at htarget
  exact (mem_of_definitions htarget).2

/-- An event replaces what a graph knows of its target by what is left of it. -/
theorem known_advance (snapshot : List BuildTarget) (graph : TargetGraph) (event : TargetEvent) :
    (advance (definitions snapshot) graph event).known =
      event.target.elim graph.known fun id =>
        Function.update graph.known id
          ((event.kind.remaining (definitions snapshot)[id]?).map BuildTarget.pruned) := by
  have hsuits := suits_definitions snapshot event
  obtain ⟨target, kind⟩ := event
  cases target with
  | none => rfl
  | some id => exact known_apply hsuits

theorem Wired.foldl_advance (h : graph.Wired) (snapshot : List BuildTarget)
    (events : List TargetEvent) : (events.foldl (advance (definitions snapshot)) graph).Wired := by
  induction events generalizing graph with
  | nil => exact h
  | cons event events ih => exact ih (h.apply (suits_definitions snapshot event))

theorem Wired.applySnapshot (h : graph.Wired) (distinct : DistinctIds snapshot)
    (events : List TargetEvent) (rebuild : Bool) :
    (graph.applySnapshot events snapshot rebuild).1.Wired := by
  rw [applySnapshot_fst]
  split
  · exact wired_ofSnapshot distinct
  · exact h.foldl_advance snapshot events

/-! ## Whatever happens to a graph -/

/-- What can happen to a graph. -/
inductive Change where
  /-- It is built anew. -/
  | rebuild (snapshot : List BuildTarget)
  /-- It takes in an event. -/
  | event (event : TargetEvent) (definition : Option BuildTarget)
  /-- It takes in events with definitions from a snapshot. -/
  | batch (events : List TargetEvent) (snapshot : List BuildTarget) (rebuild : Bool)

/-- The graph after a change. -/
def perform (graph : TargetGraph) : Change → TargetGraph
  | .rebuild snapshot => ofSnapshot snapshot
  | .event event definition => (graph.apply event definition).1
  | .batch events snapshot rebuild => (graph.applySnapshot events snapshot rebuild).1

/-- What build systems keep to: a snapshot lists each target once, and a definition that
comes with an event is that of the event's target. -/
def Change.Proper : Change → Prop
  | .rebuild snapshot => DistinctIds snapshot
  | .event event definition => Suits definition event
  | .batch _ snapshot _ => DistinctIds snapshot

theorem Wired.perform (h : graph.Wired) {change : Change} (proper : change.Proper) :
    (graph.perform change).Wired := by
  cases change with
  | rebuild snapshot => exact wired_ofSnapshot proper
  | event event definition => exact h.apply proper
  | batch events snapshot rebuild => exact h.applySnapshot proper events rebuild

/-- The graph after changes, beginning with no targets. -/
def after (changes : List Change) : TargetGraph :=
  changes.foldl perform empty

theorem wired_after {changes : List Change} (proper : ∀ change ∈ changes, change.Proper) :
    (after changes).Wired := by
  induction changes using List.reverseRecOn with
  | nil => exact wired_empty
  | append_singleton changes last ih =>
    rw [after, List.foldl_append]
    apply Wired.perform
    · exact ih fun change hchange => proper change (List.mem_append_left _ hchange)
    · exact proper last (by simp)

theorem mem_knownDocuments_iff {relation : TargetId → Document → Prop}
    (h : Indexes graph.owners relation) (document : Document) :
    document ∈ graph.knownDocuments ↔ ∃ id, relation id document := by
  rw [knownDocuments, Std.ExtTreeSet.mem_ofList, List.contains_iff_mem,
    Std.ExtTreeMap.mem_keys, h.mem_iff]

theorem mem_knownDocuments (h : graph.Wired) (document : Document) :
    document ∈ graph.knownDocuments ↔ ∃ id, graph.Compiles id document :=
  mem_knownDocuments_iff h.owners document

/-- A graph that was kept up to date is the graph built anew.  Whatever has happened to it,
its targets are stored under their own identity and without a dependency on themselves; its
tables say exactly which known targets depend on a target and which compile a document, and
keep no empty set; built from its definitions, in any order, it is the same; and the
documents it knows are the sources of its targets. -/
theorem maintained_eq_rebuilt (changes : List Change)
    (proper : ∀ change ∈ changes, change.Proper) :
    let graph := after changes
    (∀ (id : TargetId) (target : BuildTarget), graph.targets[id]? = some target →
      target.id = id ∧ id ∉ target.dependencies) ∧
    ((∀ id dependency, id ∈ under graph.dependents dependency ↔
        ∃ target, graph.targets[id]? = some target ∧ dependency ∈ target.dependencies) ∧
      ∀ (dependency : TargetId) (ids : TargetSet),
        graph.dependents[dependency]? = some ids → ids ≠ ∅) ∧
    ((∀ id document, id ∈ under graph.owners document ↔
        ∃ target, graph.targets[id]? = some target ∧ document ∈ target.sources) ∧
      ∀ (document : Document) (ids : TargetSet),
        graph.owners[document]? = some ids → ids ≠ ∅) ∧
    (∀ snapshot : List BuildTarget, snapshot.Perm (graph.targets.toList.map Prod.snd) →
      ofSnapshot snapshot = graph) ∧
    ∀ document, document ∈ graph.knownDocuments ↔
      ∃ (id : TargetId) (target : BuildTarget),
        graph.targets[id]? = some target ∧ document ∈ target.sources := by
  intro graph
  have h : graph.Wired := wired_after proper
  exact ⟨h.filed, ⟨h.dependents.entered, h.dependents.inhabited⟩,
    ⟨h.owners.entered, h.owners.inhabited⟩, fun snapshot hperm => h.ofSnapshot_eq hperm,
    mem_knownDocuments h⟩

/-- A target of which only the names matter: of the target, of its sources and of what it
depends on. -/
def named (name : String) (sources dependencies : List String) : BuildTarget where
  id := ⟨name⟩
  displayName := name
  sources := Std.ExtTreeSet.ofList (sources.map Document.mk)
  dependencies := Std.ExtTreeSet.ofList (dependencies.map TargetId.mk)

/-- Two targets that come to depend on each other: one of them depends on itself as well,
and the other is removed and created again. -/
def recreation : List Change :=
  [.rebuild [named "app" ["file:///a.c"] ["app", "core"], named "core" ["file:///c.c"] []],
    .event ⟨some ⟨"core"⟩, .removed⟩ none,
    .batch [⟨some ⟨"core"⟩, .created⟩] [named "core" ["file:///c.c"] ["app"]] false]

theorem maintained_eq_rebuilt_recreation :
    (∀ change ∈ recreation, change.Proper) ∧
      ofSnapshot ((after recreation).targets.toList.map Prod.snd) = after recreation ∧
      (⟨"app"⟩ : TargetId) ∈ under (after recreation).dependents ⟨"core"⟩ ∧
      (⟨"core"⟩ : TargetId) ∈ under (after recreation).dependents ⟨"app"⟩ := by
  have hproper : ∀ change ∈ recreation, change.Proper := by
    intro change hchange
    simp only [recreation, List.mem_cons, List.not_mem_nil, or_false] at hchange
    obtain rfl | rfl | rfl := hchange
    · show List.Nodup _
      decide
    · exact fun id target _ hnone => nomatch hnone
    · show List.Nodup _
      decide
  obtain ⟨-, ⟨hdependents, -⟩, -, hrebuilt, -⟩ := maintained_eq_rebuilt recreation hproper
  refine ⟨hproper, hrebuilt _ (.refl _), ?_, ?_⟩
  · exact (hdependents _ _).mpr ⟨_, rfl, by decide⟩
  · exact (hdependents _ _).mpr ⟨_, rfl, by decide⟩

end TargetGraph

end SettingsBroker
