/-
# Snapshots that list a target again

A snapshot may list a target several times, and its last definition is the one that counts: the
events of a batch are looked up there, and so are the targets of a graph that is built anew.  Not
so its tables.  Entering a target does not take out an earlier definition, so that the edges and
the documents of all definitions are entered side by side, under the one target.

A graph is therefore the one that the last definitions alone give exactly if these still have
whatever an earlier definition of their target had.
-/

import Mathlib.Data.List.Induction
import SettingsBroker.Proofs.Graph.Affected

namespace SettingsBroker

open Relation

namespace TargetGraph

/-! ## Last definitions -/

/-- The last definition of each target in a snapshot, in order. -/
def latest : List BuildTarget → List BuildTarget
  | [] => []
  | target :: later =>
    if target.id ∈ later.map (·.id) then latest later else target :: latest later

variable {snapshot later : List BuildTarget} {target last : BuildTarget} {id : TargetId}

theorem mem_ids_latest (snapshot : List BuildTarget) (id : TargetId) :
    id ∈ (latest snapshot).map (·.id) ↔ id ∈ snapshot.map (·.id) := by
  induction snapshot with
  | nil => rfl
  | cons target later ih =>
    rw [latest]
    split
    · next hlater =>
      rw [ih, List.map_cons, List.mem_cons]
      exact (or_iff_right_of_imp fun hid => hid ▸ hlater).symm
    · rw [List.map_cons, List.map_cons, List.mem_cons, List.mem_cons, ih]

theorem distinctIds_latest (snapshot : List BuildTarget) : DistinctIds (latest snapshot) := by
  induction snapshot with
  | nil => exact List.nodup_nil
  | cons target later ih =>
    rw [latest]
    split
    · exact ih
    · next hnew =>
      rw [DistinctIds, List.map_cons, List.nodup_cons, mem_ids_latest]
      exact ⟨hnew, ih⟩

theorem mem_of_mem_latest (h : target ∈ latest snapshot) : target ∈ snapshot := by
  induction snapshot with
  | nil => exact h
  | cons first later ih =>
    rw [latest] at h
    split at h
    · exact List.mem_cons_of_mem first (ih h)
    · obtain rfl | hlater := List.mem_cons.mp h
      · exact List.mem_cons_self
      · exact List.mem_cons_of_mem first (ih hlater)

/-- A definition counts unless a later one is found. -/
theorem getElem?_definitions_cons (target : BuildTarget) (later : List BuildTarget)
    (id : TargetId) : (definitions (target :: later))[id]? =
      (definitions later)[id]?.or (if target.id = id then some target else none) := by
  induction later using List.reverseRecOn with
  | nil => simp [definitions, Std.ExtTreeMap.getElem?_insert]
  | append_singleton later last ih =>
    rw [← List.cons_append, definitions_concat, definitions_concat,
      Std.ExtTreeMap.getElem?_insert, Std.ExtTreeMap.getElem?_insert, ih]
    split <;> simp

theorem definitions_eq_none_iff (snapshot : List BuildTarget) (id : TargetId) :
    (definitions snapshot)[id]? = none ↔ id ∉ snapshot.map (·.id) := by
  induction snapshot with
  | nil => simp [definitions]
  | cons target later ih =>
    rw [getElem?_definitions_cons, Option.or_eq_none_iff, ih]
    simp [not_or, and_comm, eq_comm]

/-- Every lookup finds a last definition. -/
theorem definitions_latest (snapshot : List BuildTarget) :
    definitions (latest snapshot) = definitions snapshot := by
  induction snapshot with
  | nil => rfl
  | cons target later ih =>
    apply Std.ExtTreeMap.ext_getElem?
    intro id
    rw [latest, getElem?_definitions_cons]
    split
    · next hlater =>
      rw [ih]
      cases hfound : (definitions later)[id]? with
      | some found => rfl
      | none =>
        have hother : target.id ≠ id := by
          rintro rfl
          exact (definitions_eq_none_iff later target.id).mp hfound hlater
        rw [if_neg hother]
        rfl
    · rw [getElem?_definitions_cons, ih]

theorem exists_latest (h : target ∈ snapshot) : ∃ last ∈ latest snapshot, last.id = target.id := by
  have hid : target.id ∈ (latest snapshot).map (·.id) :=
    (mem_ids_latest snapshot target.id).mpr (List.mem_map_of_mem h)
  exact List.mem_map.mp hid

/-! ## Tables of all definitions -/

section Tables

variable {α : Type} [Ord α] [Std.TransOrd α]
variable {part : BuildTarget → Std.ExtTreeSet α} {table : Std.ExtTreeMap α TargetSet}

/-- Some definition of a target in a snapshot has a key in a part of it. -/
def Defines (snapshot : List BuildTarget) (part : BuildTarget → Std.ExtTreeSet α) (id : TargetId)
    (key : α) : Prop :=
  ∃ target ∈ snapshot, target.id = id ∧ key ∈ part target.pruned

theorem defines_concat {key : α} : Defines (snapshot ++ [target]) part id key ↔
    Defines snapshot part id key ∨ (id = target.id ∧ key ∈ part target.pruned) := by
  simp only [Defines, List.mem_append, List.mem_singleton, or_and_right, exists_or,
    exists_eq_left, eq_comm (a := id)]

variable [Std.LawfulEqOrd α] [DecidableEq α]

/-- What a definition has is entered beside what the earlier ones had. -/
theorem Indexes.concat (h : Indexes table (Defines snapshot part)) (target : BuildTarget) :
    Indexes ((part target.pruned).toList.foldl (TargetGraph.link target.id) table)
      (Defines (snapshot ++ [target]) part) := by
  apply (h.foldl_link target.id (part target.pruned).toList).of_iff
  intro id key
  rw [defines_concat, Std.ExtTreeSet.mem_toList]

end Tables

theorem indexes_dependents_ofSnapshot (snapshot : List BuildTarget) :
    Indexes (ofSnapshot snapshot).dependents (Defines snapshot BuildTarget.dependencies) := by
  induction snapshot using List.reverseRecOn with
  | nil => exact indexes_empty.of_iff (by simp [Defines])
  | append_singleton snapshot last ih =>
    rw [ofSnapshot_concat]
    exact ih.concat last

theorem indexes_owners_ofSnapshot (snapshot : List BuildTarget) :
    Indexes (ofSnapshot snapshot).owners (Defines snapshot BuildTarget.sources) := by
  induction snapshot using List.reverseRecOn with
  | nil => exact indexes_empty.of_iff (by simp [Defines])
  | append_singleton snapshot last ih =>
    rw [ofSnapshot_concat]
    exact ih.concat last

/-- A change affects the documents of last definitions, along chains of edges of all of them. -/
theorem mem_affectedBy_ofSnapshot (snapshot : List BuildTarget) (id : TargetId)
    (document : Document) : document ∈ (ofSnapshot snapshot).affectedBy id ↔
      ∃ last ∈ latest snapshot, document ∈ last.sources ∧
        ReflTransGen (Defines snapshot BuildTarget.dependencies) last.id id := by
  have hcompiles : ∀ owner, (ofSnapshot snapshot).Compiles owner document ↔
      ∃ last ∈ latest snapshot, last.id = owner ∧ document ∈ last.sources := by
    intro owner
    rw [Compiles, Names, getElem?_targets_ofSnapshot, ← definitions_latest]
    constructor
    · rintro ⟨target, htarget, hsource⟩
      obtain ⟨last, hlast, rfl⟩ := Option.map_eq_some_iff.mp htarget
      obtain ⟨hmem, hid⟩ := mem_of_definitions hlast
      exact ⟨last, hmem, hid, hsource⟩
    · rintro ⟨last, hmem, hid, hsource⟩
      have hlast := (definitions_eq_some_iff (distinctIds_latest snapshot)).mpr ⟨hmem, hid⟩
      exact ⟨last.pruned, by rw [hlast, Option.map_some], hsource⟩
  rw [mem_affectedBy_iff (indexes_dependents_ofSnapshot snapshot)]
  simp only [hcompiles]
  constructor
  · rintro ⟨owner, ⟨last, hmem, rfl, hsource⟩, hchain⟩
    exact ⟨last, hmem, hsource, hchain⟩
  · rintro ⟨last, hmem, hsource, hchain⟩
    exact ⟨last.id, ⟨last, hmem, rfl, hsource⟩, hchain⟩

/-- The last definition of each target still has what an earlier one had in a part of it. -/
def Retains {α : Type} [Ord α] [Std.TransOrd α] (snapshot : List BuildTarget)
    (part : BuildTarget → Std.ExtTreeSet α) : Prop :=
  ∀ target ∈ snapshot, ∀ last ∈ latest snapshot, last.id = target.id →
    ∀ key ∈ part target.pruned, key ∈ part last.pruned

/-- The last definitions alone fill a table as all definitions do exactly if they retain what
these had. -/
theorem Indexes.eq_iff_retains {α : Type} [Ord α] [Std.TransOrd α] [Std.LawfulEqOrd α]
    {part : BuildTarget → Std.ExtTreeSet α} {table again : Std.ExtTreeMap α TargetSet}
    (h : Indexes table (Defines snapshot part))
    (hagain : Indexes again (Defines (latest snapshot) part)) :
    table = again ↔ Retains snapshot part := by
  constructor
  · rintro rfl target hmem last hlast hid key hkey
    have hentered : target.id ∈ under table key :=
      (h.entered target.id key).mpr ⟨target, hmem, rfl, hkey⟩
    obtain ⟨found, hfound, hsame, hkept⟩ := (hagain.entered target.id key).mp hentered
    -- A target has one last definition only.
    have hsole : found = last :=
      List.inj_on_of_nodup_map (distinctIds_latest snapshot) hfound hlast (hsame.trans hid.symm)
    rwa [← hsole]
  · intro retains
    apply h.unique
    apply hagain.of_iff
    intro id key
    constructor
    · rintro ⟨target, hmem, hid, hkey⟩
      exact ⟨target, mem_of_mem_latest hmem, hid, hkey⟩
    · rintro ⟨target, hmem, rfl, hkey⟩
      obtain ⟨last, hlast, hid⟩ := exists_latest hmem
      exact ⟨last, hlast, hid, retains target hmem last hlast hid key hkey⟩

/-- A dependency on the target itself is not entered and need not be retained. -/
theorem retains_dependencies_iff (snapshot : List BuildTarget) :
    Retains snapshot BuildTarget.dependencies ↔
      ∀ target ∈ snapshot, ∀ last ∈ latest snapshot, last.id = target.id →
        ∀ id ∈ target.dependencies, id ≠ target.id → id ∈ last.dependencies := by
  constructor
  · intro retains target hmem last hlast hid id hneeds hother
    have hpruned := BuildTarget.mem_pruned_dependencies.mpr ⟨hother, hneeds⟩
    have hkept := retains target hmem last hlast hid id hpruned
    exact (BuildTarget.mem_pruned_dependencies.mp hkept).2
  · intro hkept target hmem last hlast hid id hpruned
    obtain ⟨hother, hneeds⟩ := BuildTarget.mem_pruned_dependencies.mp hpruned
    exact BuildTarget.mem_pruned_dependencies.mpr
      ⟨hid ▸ hother, hkept target hmem last hlast hid id hneeds hother⟩

theorem targets_ofSnapshot_latest (snapshot : List BuildTarget) :
    (ofSnapshot (latest snapshot)).targets = (ofSnapshot snapshot).targets := by
  apply Std.ExtTreeMap.ext_getElem?
  intro id
  rw [getElem?_targets_ofSnapshot, getElem?_targets_ofSnapshot, definitions_latest]

theorem ofSnapshot_eq_iff_retains (snapshot : List BuildTarget) :
    ofSnapshot snapshot = ofSnapshot (latest snapshot) ↔
      Retains snapshot BuildTarget.dependencies ∧ Retains snapshot BuildTarget.sources := by
  rw [← (indexes_dependents_ofSnapshot snapshot).eq_iff_retains
      (indexes_dependents_ofSnapshot (latest snapshot)),
    ← (indexes_owners_ofSnapshot snapshot).eq_iff_retains
      (indexes_owners_ofSnapshot (latest snapshot))]
  constructor
  · intro heq
    rw [← heq]
    exact ⟨rfl, rfl⟩
  · rintro ⟨hdependents, howners⟩
    calc ofSnapshot snapshot
        = ⟨(ofSnapshot snapshot).targets, (ofSnapshot snapshot).dependents,
            (ofSnapshot snapshot).owners⟩ := rfl
      _ = ofSnapshot (latest snapshot) := by
        rw [← targets_ofSnapshot_latest, hdependents, howners]

/-! ## Events that create every target -/

/-- A batch that looks its targets up in a snapshot finds last definitions only. -/
theorem applySnapshot_latest (graph : TargetGraph) (events : List TargetEvent)
    (snapshot : List BuildTarget) :
    graph.applySnapshot events (latest snapshot) false =
      graph.applySnapshot events snapshot false := by
  simp only [applySnapshot, definitions_latest, Bool.false_eq_true, if_false]

/-- After events that create targets, a graph knows their last definitions. -/
theorem known_foldl_created (snapshot : List BuildTarget) (ids : List TargetId)
    (graph : TargetGraph) (id : TargetId) :
    ((ids.map fun id => ⟨some id, .created⟩).foldl (advance (definitions snapshot)) graph).known id =
      if id ∈ ids then (definitions snapshot)[id]?.map BuildTarget.pruned else graph.known id := by
  induction ids generalizing graph with
  | nil => simp
  | cons first ids ih =>
    rw [List.map_cons, List.foldl_cons, ih, known_advance, Option.elim_some, Function.update_apply]
    by_cases hrest : id ∈ ids
    · simp [hrest]
    · by_cases hfirst : id = first <;> simp [hrest, hfirst, TargetEventKind.remaining]

/-- A graph that takes in the creation of every target of a snapshot is built from the last
definitions. -/
theorem applySnapshot_created (snapshot : List BuildTarget) :
    (empty.applySnapshot (snapshot.map fun target => ⟨some target.id, .created⟩) snapshot false).1 =
      ofSnapshot (latest snapshot) := by
  have hevents : (snapshot.map fun target => (⟨some target.id, .created⟩ : TargetEvent)) =
      (snapshot.map (·.id)).map fun id => ⟨some id, .created⟩ := by
    rw [List.map_map]
    rfl
  rw [applySnapshot_fst, if_neg (by simp), hevents]
  apply (wired_empty.foldl_advance snapshot _).ext (wired_ofSnapshot (distinctIds_latest snapshot))
  funext id
  have hlatest : (ofSnapshot (latest snapshot)).known id =
      (definitions snapshot)[id]?.map BuildTarget.pruned := by
    rw [known, getElem?_targets_ofSnapshot, definitions_latest]
  rw [known_foldl_created, hlatest]
  split
  · rfl
  · next hunlisted =>
    rw [(definitions_eq_none_iff snapshot id).mpr hunlisted]
    rfl

/-- Building a graph from a snapshot that lists targets again.  The graph has the last definition
of each target; but in its tables stand the edges and the documents of all definitions, under their
target, and the documents of all of them are known.  It is the graph that the last definitions
alone give if and only if these still have what the earlier definitions of their targets had.  A
batch of events looks up last definitions only, and one that creates every target of the
snapshot leads to the graph that these give. -/
theorem rebuilt_from_latest_iff (snapshot : List BuildTarget) :
    let graph := ofSnapshot snapshot
    let once := ofSnapshot (latest snapshot)
    (graph = once ↔
      ∀ target ∈ snapshot, ∀ last ∈ latest snapshot, last.id = target.id →
        (∀ id ∈ target.dependencies, id ≠ target.id → id ∈ last.dependencies) ∧
        ∀ document ∈ target.sources, document ∈ last.sources) ∧
    graph.targets = once.targets ∧
    (∀ id dependency, id ∈ under graph.dependents dependency ↔
      ∃ target ∈ snapshot, target.id = id ∧ dependency ≠ id ∧ dependency ∈ target.dependencies) ∧
    (∀ id document, id ∈ under graph.owners document ↔
      ∃ target ∈ snapshot, target.id = id ∧ document ∈ target.sources) ∧
    (∀ document, document ∈ graph.knownDocuments ↔
      ∃ target ∈ snapshot, document ∈ target.sources) ∧
    (∀ id document, document ∈ graph.affectedBy id ↔
      ∃ last ∈ latest snapshot, document ∈ last.sources ∧
        ReflTransGen (fun dependent dependency => dependent ∈ under graph.dependents dependency)
          last.id id) ∧
    (∀ (other : TargetGraph) (events : List TargetEvent),
      other.applySnapshot events snapshot false =
        other.applySnapshot events (latest snapshot) false) ∧
    (empty.applySnapshot (snapshot.map fun target => ⟨some target.id, .created⟩) snapshot
      false).1 = once := by
  intro graph once
  have hdependents := indexes_dependents_ofSnapshot snapshot
  have howners := indexes_owners_ofSnapshot snapshot
  refine ⟨?same, (targets_ofSnapshot_latest snapshot).symm, ?dependents, howners.entered,
    ?known, ?affected, fun other events => (applySnapshot_latest other events snapshot).symm,
    applySnapshot_created snapshot⟩
  case same =>
    rw [ofSnapshot_eq_iff_retains, retains_dependencies_iff]
    constructor
    · rintro ⟨hedges, hsources⟩ target hmem last hlast hid
      exact ⟨hedges target hmem last hlast hid, hsources target hmem last hlast hid⟩
    · intro hkept
      exact ⟨fun target hmem last hlast hid => (hkept target hmem last hlast hid).1,
        fun target hmem last hlast hid => (hkept target hmem last hlast hid).2⟩
  case dependents =>
    intro id dependency
    apply (hdependents.entered id dependency).trans
    refine exists_congr fun target => and_congr_right fun _ => and_congr_right fun hid => ?_
    rw [BuildTarget.mem_pruned_dependencies, hid]
  case known =>
    intro document
    apply (mem_knownDocuments_iff howners document).trans
    constructor
    · rintro ⟨id, target, hmem, -, hsource⟩
      exact ⟨target, hmem, hsource⟩
    · rintro ⟨target, hmem, hsource⟩
      exact ⟨target.id, target, hmem, rfl, hsource⟩
  case affected =>
    intro id document
    have hedges : (fun dependent dependency => dependent ∈ under graph.dependents dependency) =
        Defines snapshot BuildTarget.dependencies := by
      funext dependent dependency
      exact propext (hdependents.entered dependent dependency)
    rw [hedges]
    exact mem_affectedBy_ofSnapshot snapshot id document

/-- A target that is listed again with a document and a dependency more, and one that is listed
again as it was but for a dependency on itself. -/
def grown : List BuildTarget :=
  [named "app" ["file:///a.c"] [], named "core" ["file:///c.c"] ["core"],
    named "app" ["file:///a.c", "file:///b.c"] ["core"], named "core" ["file:///c.c"] []]

theorem rebuilt_from_latest_iff_grown :
    (∀ target ∈ grown, ∀ last ∈ latest grown, last.id = target.id →
        (∀ id ∈ target.dependencies, id ≠ target.id → id ∈ last.dependencies) ∧
        ∀ document ∈ target.sources, document ∈ last.sources) ∧
      ofSnapshot grown = ofSnapshot (latest grown) := by
  have hkept : ∀ target ∈ grown, ∀ last ∈ latest grown, last.id = target.id →
      (∀ id ∈ target.dependencies.toList, id ≠ target.id → id ∈ last.dependencies) ∧
      ∀ document ∈ target.sources.toList, document ∈ last.sources := by
    decide +kernel
  simp only [Std.ExtTreeSet.mem_toList] at hkept
  exact ⟨hkept, (rebuilt_from_latest_iff grown).1.mpr hkept⟩

/-- A target that is listed again with another document and without its dependency. -/
def replaced : List BuildTarget :=
  [named "app" ["file:///a.c"] ["core"], named "core" ["file:///c.c"] [],
    named "app" ["file:///b.c"] []]

/-- A graph that is built from a snapshot need not be the one that the last definitions give: a
document stays known that no target has, and a target is taken to depend on another as it did
before. -/
theorem replaced_not_forgotten :
    (¬ ∀ snapshot : List BuildTarget, ofSnapshot snapshot = ofSnapshot (latest snapshot)) ∧
      (⟨"file:///a.c"⟩ : Document) ∈ (ofSnapshot replaced).knownDocuments ∧
      (⟨"file:///a.c"⟩ : Document) ∉ (ofSnapshot (latest replaced)).knownDocuments ∧
      (⟨"file:///b.c"⟩ : Document) ∈ (ofSnapshot replaced).affectedBy ⟨"core"⟩ ∧
      (⟨"file:///b.c"⟩ : Document) ∉ (ofSnapshot (latest replaced)).affectedBy ⟨"core"⟩ := by
  have hkept : (⟨"file:///a.c"⟩ : Document) ∈ (ofSnapshot replaced).knownDocuments := by
    decide +kernel
  have hgone : (⟨"file:///a.c"⟩ : Document) ∉ (ofSnapshot (latest replaced)).knownDocuments := by
    decide +kernel
  refine ⟨fun hclaim => hgone (hclaim replaced ▸ hkept), hkept, hgone, ?_, ?_⟩
  · apply (mem_affectedBy_ofSnapshot replaced ⟨"core"⟩ ⟨"file:///b.c"⟩).mpr
    have hedge : Defines replaced BuildTarget.dependencies ⟨"app"⟩ ⟨"core"⟩ :=
      ⟨named "app" ["file:///a.c"] ["core"], by simp [replaced], rfl, by decide⟩
    exact ⟨named "app" ["file:///b.c"] [], by decide +kernel, by decide, .single hedge⟩
  · intro hmem
    obtain ⟨last, hlast, hsource, hchain⟩ :=
      (mem_affectedBy_ofSnapshot (latest replaced) ⟨"core"⟩ ⟨"file:///b.c"⟩).mp hmem
    obtain hself | ⟨next, ⟨target, htarget, -, hneeds⟩, -⟩ := hchain.cases_head
    · have hother : ∀ last ∈ latest (latest replaced), last.id = ⟨"core"⟩ →
          ⟨"file:///b.c"⟩ ∉ last.sources := by decide +kernel
      exact hother last hlast hself hsource
    · have hnone : ∀ target ∈ latest replaced, target.dependencies.toList = [] := by
        decide +kernel
      have hedge := (BuildTarget.mem_pruned_dependencies.mp hneeds).2
      rw [← Std.ExtTreeSet.mem_toList, hnone target htarget] at hedge
      cases hedge

end TargetGraph

end SettingsBroker
