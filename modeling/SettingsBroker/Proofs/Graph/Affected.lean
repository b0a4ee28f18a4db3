/-
# What a batch of target events affects

A target affects the sources of all targets from which a chain of dependencies leads to it.
The events of a batch are taken in one after another, and each is measured on the graph that
the earlier ones have left, where chains may already be broken or rewired.  Nothing is missed
by that: a chain that an event breaks runs through the event's own target, so the event has
reported its documents.  Where no target has two events nothing is reported that the batch as
a whole does not affect, and the order of the events does not matter.

One lemma carries all of it, `affects_of_agree`: between two graphs that differ in some
targets only, an affected document stays affected or is affected by one of these targets.
-/

import Mathlib.Data.List.Perm.Basic
import SettingsBroker.Proofs.Graph.Reach
import SettingsBroker.Proofs.Graph.Wiring

namespace SettingsBroker

open Relation

namespace TargetGraph

variable {graph other : TargetGraph} {id : TargetId} {document : Document}

/-! ## Chains of dependencies -/

/-- From a target that compiles a document a chain of dependencies leads to a target. -/
def Affects (graph : TargetGraph) (id : TargetId) (document : Document) : Prop :=
  ∃ owner, graph.Compiles owner document ∧ ReflTransGen graph.DependsOn owner id

theorem Affects.of_compiles (h : graph.Compiles id document) : graph.Affects id document :=
  ⟨id, h, .refl⟩

section Walk

variable {relation : TargetId → TargetId → Prop}

/-- The walk over the dependents of a target goes along chains of edges, backwards. -/
theorem mem_dependentsOf_iff (h : Indexes graph.dependents relation) {owner : TargetId} :
    owner ∈ graph.dependentsOf id ↔ ReflTransGen relation owner id := by
  have hedge : Graph.Edge (graph.dependents.map fun _ ids => ids.toList) =
      Function.swap relation := by
    funext target dependent
    show _ = relation dependent target
    rw [← h.entered, under, Graph.Edge, Std.ExtTreeMap.getElem?_map]
    cases graph.dependents[target]? with
    | none => simp
    | some ids => simp
  rw [dependentsOf, Graph.mem_reach_iff, hedge]
  simp only [List.mem_singleton, exists_eq_left, reflTransGen_swap]

theorem mem_affectedBy_iff (h : Indexes graph.dependents relation) :
    document ∈ graph.affectedBy id ↔
      ∃ owner, graph.Compiles owner document ∧ ReflTransGen relation owner id := by
  have hfold : ∀ (ids : List TargetId) {collect : DocumentSet → TargetId → DocumentSet},
      (∀ documents id, document ∈ collect documents id ↔
        document ∈ documents ∨ graph.Compiles id document) →
      ∀ documents, document ∈ ids.foldl collect documents ↔
        document ∈ documents ∨ ∃ owner ∈ ids, graph.Compiles owner document := by
    intro ids collect hcollect
    induction ids with
    | nil => simp
    | cons first ids ih =>
      intro documents
      rw [List.foldl_cons, ih, hcollect]
      simp [or_assoc]
  apply (hfold (graph.dependentsOf id).toList ?_ ∅).trans
  · simp only [Std.ExtTreeSet.not_mem_empty, false_or, Std.ExtTreeSet.mem_toList,
      mem_dependentsOf_iff h, and_comm]
  · intro documents id
    unfold Compiles Names
    cases hfound : graph.targets[id]? with
    | none => simp
    | some target => simp [Std.ExtTreeSet.mem_union_iff]

end Walk

theorem Wired.mem_affectedBy (h : graph.Wired) :
    document ∈ graph.affectedBy id ↔ graph.Affects id document :=
  mem_affectedBy_iff h.dependents

/-- Between graphs that differ in some targets only, a document that a target affects is still
affected by it or by one of these targets, unless one of these compiles it. -/
theorem affects_of_agree {touched : TargetId → Prop}
    (agree : ∀ id, ¬ touched id → graph.known id = other.known id)
    (h : graph.Affects id document) :
    (∃ owner, touched owner ∧ graph.Compiles owner document) ∨ other.Affects id document ∨
      ∃ target, touched target ∧ other.Affects target document := by
  obtain ⟨owner, hcompiles, hchain⟩ := h
  by_cases howner : touched owner
  · exact Or.inl ⟨owner, howner, hcompiles⟩
  right
  have hother : other.Compiles owner document := by
    obtain ⟨target, htarget, hsource⟩ := hcompiles
    exact ⟨target, (agree owner howner).symm.trans htarget, hsource⟩
  have hsame : ∀ source target, ¬ touched source → graph.DependsOn source target →
      other.DependsOn source target := by
    rintro source target hsource ⟨found, hfound, hdepends⟩
    exact ⟨found, (agree source hsource).symm.trans hfound, hdepends⟩
  obtain hreached | ⟨target, htouched, hreached⟩ := Graph.follow hsame hchain
  · exact Or.inl ⟨owner, hother, hreached⟩
  · exact Or.inr ⟨target, htouched, owner, hother, hreached⟩

/-- With fewer targets fewer documents are affected. -/
theorem Affects.mono (h : graph.Affects id document)
    (kept : ∀ id target, graph.known id = some target → other.known id = some target) :
    other.Affects id document := by
  obtain ⟨owner, ⟨target, htarget, hsource⟩, hchain⟩ := h
  refine ⟨owner, ⟨target, kept owner target htarget, hsource⟩, ?_⟩
  apply ReflTransGen.mono _ _ _ hchain
  rintro dependent dependency ⟨found, hfound, hdepends⟩
  exact ⟨found, kept dependent found hfound, hdepends⟩

/-! ## One event -/

variable {event : TargetEvent} {definition : Option BuildTarget}

/-- An event reports what its target affected before and what it affects afterwards. -/
theorem contains_apply_named {kind : TargetEventKind} (h : graph.Wired)
    (suits : Suits definition ⟨some id, kind⟩) :
    (graph.apply ⟨some id, kind⟩ definition).2.contains document = true ↔
      graph.Affects id document ∨
        (graph.apply ⟨some id, kind⟩ definition).1.Affects id document := by
  have hwired := h.apply suits
  rw [apply_named] at hwired ⊢
  cases hleft : kind.remaining definition with
  | none =>
    -- What is affected without the target was affected with it.
    have hfewer : (graph.remove id).Affects id document → graph.Affects id document := by
      intro haffects
      apply haffects.mono
      intro found target htarget
      rw [known, getElem?_targets_remove] at htarget
      split at htarget
      · cases htarget
      · exact htarget
    rw [Affected.contains, Std.ExtTreeSet.contains_iff_mem, h.mem_affectedBy]
    exact (or_iff_left_of_imp hfewer).symm
  | some target =>
    rw [hleft] at hwired
    rw [Affected.contains, Std.ExtTreeSet.contains_iff_mem, Std.ExtTreeSet.mem_union_iff,
      h.mem_affectedBy, hwired.mem_affectedBy]

/-- An event leaves all other targets alone. -/
theorem known_advance_of_ne {snapshot : List BuildTarget} (hother : event.target ≠ some id) :
    (advance (definitions snapshot) graph event).known id = graph.known id := by
  rw [known_advance]
  cases htarget : event.target with
  | none => rfl
  | some named =>
    have hne : id ≠ named := fun heq => hother (htarget.trans (congrArg some heq.symm))
    rw [Option.elim_some, Function.update_of_ne hne]

/-! ## Batches -/

variable {snapshot : List BuildTarget} {events : List TargetEvent}

/-- What each event of a batch reports, in order. -/
def reports (table : Std.ExtTreeMap TargetId BuildTarget) (graph : TargetGraph) :
    List TargetEvent → List Affected
  | [] => []
  | event :: events =>
    (graph.apply event (event.target.bind fun id => table[id]?)).2 ::
      reports table (advance table graph event) events

theorem reports_append (table : Std.ExtTreeMap TargetId BuildTarget) (graph : TargetGraph)
    (first second : List TargetEvent) :
    reports table graph (first ++ second) =
      reports table graph first ++ reports table (first.foldl (advance table) graph) second := by
  induction first generalizing graph with
  | nil => rfl
  | cons event first ih =>
    rw [List.cons_append, reports, ih]
    rfl

theorem applySnapshot_snd (graph : TargetGraph) (events : List TargetEvent)
    (snapshot : List BuildTarget) (rebuild : Bool) :
    (graph.applySnapshot events snapshot rebuild).2 =
      (reports (definitions snapshot) graph events).foldl Affected.merge .none := by
  have hfold : ∀ (affected : Affected), (events.foldl
      (fun (found : TargetGraph × Affected) event =>
        ((found.1.apply event (event.target.bind fun id => (definitions snapshot)[id]?)).1,
          found.2.merge
            (found.1.apply event (event.target.bind fun id => (definitions snapshot)[id]?)).2))
      (graph, affected)).2 =
        (reports (definitions snapshot) graph events).foldl Affected.merge affected := by
    induction events generalizing graph with
    | nil => exact fun _ => rfl
    | cons event events ih => exact fun affected => ih _ _
  exact hfold .none

theorem contains_foldl_merge (affected : Affected) (more : List Affected) (document : Document) :
    (more.foldl Affected.merge affected).contains document = true ↔
      affected.contains document = true ∨ ∃ one ∈ more, one.contains document = true := by
  induction more generalizing affected with
  | nil => simp
  | cons first more ih =>
    rw [List.foldl_cons, ih, Affected.contains_merge, Bool.or_eq_true, or_assoc]
    simp

theorem foldl_merge_eq_all_iff (affected : Affected) (more : List Affected) :
    more.foldl Affected.merge affected = .all ↔ affected = .all ∨ .all ∈ more := by
  induction more generalizing affected with
  | nil => simp
  | cons first more ih =>
    rw [List.foldl_cons, ih, List.mem_cons]
    cases affected <;> cases first <;> simp [Affected.merge]

theorem all_mem_reports_iff (table : Std.ExtTreeMap TargetId BuildTarget) (graph : TargetGraph)
    (events : List TargetEvent) :
    .all ∈ reports table graph events ↔ ∃ event ∈ events, event.target = none := by
  induction events generalizing graph with
  | nil => simp [reports]
  | cons event events ih =>
    have hhead : (graph.apply event (event.target.bind fun id => table[id]?)).2 = .all ↔
        event.target = none := by
      obtain ⟨target, kind⟩ := event
      cases target with
      | none => simp [apply_unnamed]
      | some id =>
        rw [apply_named]
        split <;> simp
    rw [reports, List.mem_cons, eq_comm, hhead, ih]
    simp

/-- The targets that events name. -/
def namedBy (events : List TargetEvent) : List TargetId :=
  events.filterMap (·.target)

/-- An event of a batch reports a document. -/
def Reported (snapshot : List BuildTarget) (graph : TargetGraph) (events : List TargetEvent)
    (document : Document) : Prop :=
  ∃ affected ∈ reports (definitions snapshot) graph events, affected.contains document = true

theorem reported_append {first second : List TargetEvent} :
    Reported snapshot graph (first ++ second) document ↔
      Reported snapshot graph first document ∨
        Reported snapshot (first.foldl (advance (definitions snapshot)) graph) second document := by
  unfold Reported
  rw [reports_append]
  simp only [List.mem_append, or_and_right, exists_or]

/-- An event reports its document on the graph that it finds or on the one that it leaves. -/
theorem reported_singleton (h : graph.Wired) :
    Reported snapshot graph [event] document ↔
      ∀ id, event.target = some id → graph.Affects id document ∨
        (advance (definitions snapshot) graph event).Affects id document := by
  have hsuits := suits_definitions snapshot event
  unfold Reported advance
  simp only [reports, List.mem_singleton, exists_eq_left]
  obtain ⟨target, kind⟩ := event
  cases target with
  | none => simp [apply_unnamed, Affected.contains]
  | some id =>
    rw [contains_apply_named h hsuits]
    simp

theorem known_foldl_advance_of_not_mem (graph : TargetGraph) (hother : id ∉ namedBy events) :
    (events.foldl (advance (definitions snapshot)) graph).known id = graph.known id := by
  induction events generalizing graph with
  | nil => rfl
  | cons event events ih =>
    have hhead : event.target ≠ some id := by
      intro heq
      exact hother (List.mem_filterMap.mpr ⟨event, List.mem_cons_self, heq⟩)
    have hrest : id ∉ namedBy events := by
      intro hmem
      obtain ⟨later, hlater, heq⟩ := List.mem_filterMap.mp hmem
      exact hother (List.mem_filterMap.mpr ⟨later, List.mem_cons_of_mem _ hlater, heq⟩)
    rw [List.foldl_cons, ih _ hrest, known_advance_of_ne hhead]

/-- A document that a target affects on one side of an event, before it or after it, is
affected on the other side as well or is reported by the event. -/
theorem affects_advance_or_reported (h : graph.Wired) :
    (graph.Affects id document →
      (advance (definitions snapshot) graph event).Affects id document ∨
        Reported snapshot graph [event] document) ∧
    ((advance (definitions snapshot) graph event).Affects id document →
      graph.Affects id document ∨ Reported snapshot graph [event] document) := by
  rw [reported_singleton h]
  cases htarget : event.target with
  | none => simp
  | some named =>
    have hagree : ∀ other, ¬ other = named →
        (advance (definitions snapshot) graph event).known other = graph.known other := by
      intro other hother
      apply known_advance_of_ne
      rw [htarget]
      exact fun heq => hother (Option.some.inj heq).symm
    simp only [Option.some.injEq, forall_eq']
    constructor
    · intro haffects
      obtain ⟨owner, rfl, hcompiles⟩ | hkept | ⟨target, rfl, hreached⟩ :=
        affects_of_agree (fun other hother => (hagree other hother).symm) haffects
      · exact Or.inr (Or.inl (.of_compiles hcompiles))
      · exact Or.inl hkept
      · exact Or.inr (Or.inr hreached)
    · intro haffects
      obtain ⟨owner, rfl, hcompiles⟩ | hkept | ⟨target, rfl, hreached⟩ :=
        affects_of_agree hagree haffects
      · exact Or.inr (Or.inr (.of_compiles hcompiles))
      · exact Or.inl hkept
      · exact Or.inr (Or.inl hreached)

/-- What a target with an event affected before the batch is reported. -/
theorem reported_of_affects_before (h : graph.Wired) (named : id ∈ namedBy events)
    (haffects : graph.Affects id document) : Reported snapshot graph events document := by
  induction events generalizing graph with
  | nil => cases named
  | cons event events ih =>
    rw [← List.singleton_append, reported_append]
    by_cases hrest : id ∈ namedBy events
    · obtain hkept | hreported := (affects_advance_or_reported h).1 haffects
      · exact Or.inr (ih (h.foldl_advance snapshot [event]) hrest hkept)
      · exact Or.inl hreported
    · left
      rw [reported_singleton h]
      intro target htarget
      have hid : id = target := by
        unfold namedBy at named hrest
        rw [List.filterMap_cons_some htarget, List.mem_cons] at named
        exact named.resolve_right hrest
      exact Or.inl (hid ▸ haffects)

/-- What a target with an event affects after the batch is reported. -/
theorem reported_of_affects_after (h : graph.Wired) (named : id ∈ namedBy events)
    (haffects : (events.foldl (advance (definitions snapshot)) graph).Affects id document) :
    Reported snapshot graph events document := by
  induction events using List.reverseRecOn with
  | nil => cases named
  | append_singleton events event ih =>
    have hwired := h.foldl_advance snapshot events
    rw [List.foldl_append] at haffects
    rw [reported_append]
    by_cases hrest : id ∈ namedBy events
    · obtain hkept | hreported := (affects_advance_or_reported hwired).2 haffects
      · exact Or.inl (ih hrest hkept)
      · exact Or.inr hreported
    · right
      rw [reported_singleton hwired]
      intro target htarget
      have hid : id = target := by
        unfold namedBy at named hrest
        rw [List.filterMap_append, List.mem_append, List.filterMap_cons_some htarget] at named
        simpa using named.resolve_left hrest
      exact Or.inr (hid ▸ haffects)

/-- Where no target has two events, what is affected part way through a batch is affected
before it or after it. -/
theorem affects_of_part_way {first second : List TargetEvent}
    (once : (namedBy (first ++ second)).Nodup) (named : id ∈ namedBy (first ++ second))
    (haffects : (first.foldl (advance (definitions snapshot)) graph).Affects id document) :
    ∃ target ∈ namedBy (first ++ second), graph.Affects target document ∨
      ((first ++ second).foldl (advance (definitions snapshot)) graph).Affects target document := by
  have hparts : namedBy (first ++ second) = namedBy first ++ namedBy second :=
    List.filterMap_append
  rw [hparts] at once named ⊢
  obtain ⟨owner, howner, hcompiles⟩ | hkept | ⟨target, htarget, hreached⟩ :=
    affects_of_agree (fun _ => known_foldl_advance_of_not_mem graph) haffects
  · -- The owner has had its event, so that the rest of the batch leaves it alone.
    have hrest : owner ∉ namedBy second :=
      fun hmem => (List.nodup_append.mp once).2.2 owner howner owner hmem rfl
    refine ⟨owner, List.mem_append_left _ howner, Or.inr (.of_compiles ?_)⟩
    obtain ⟨target, htarget, hsource⟩ := hcompiles
    rw [List.foldl_append]
    exact ⟨target, (known_foldl_advance_of_not_mem _ hrest).trans htarget, hsource⟩
  · exact ⟨id, named, Or.inl hkept⟩
  · exact ⟨target, List.mem_append_left _ htarget, Or.inl hreached⟩

/-- Where no target has two events, a batch whose events are all named reports exactly what
these targets affect before it and after it. -/
theorem reported_iff (h : graph.Wired) (allNamed : ∀ event ∈ events, event.target ≠ none)
    (once : (namedBy events).Nodup) :
    Reported snapshot graph events document ↔
      ∃ target ∈ namedBy events, graph.Affects target document ∨
        (events.foldl (advance (definitions snapshot)) graph).Affects target document := by
  constructor
  · intro hreported
    obtain ⟨first, event, second, rfl, hevent⟩ : ∃ first event second,
        events = first ++ event :: second ∧
          Reported snapshot (first.foldl (advance (definitions snapshot)) graph) [event]
            document := by
      clear allNamed once
      induction events using List.reverseRecOn with
      | nil => simp [Reported, reports] at hreported
      | append_singleton events last ih =>
        obtain hold | hlast := reported_append.mp hreported
        · obtain ⟨first, event, second, rfl, hevent⟩ := ih hold
          exact ⟨first, event, second ++ [last], by simp, hevent⟩
        · exact ⟨events, last, [], rfl, hlast⟩
    obtain ⟨id, hid⟩ := Option.ne_none_iff_exists'.mp (allNamed event (by simp))
    have hnamed : id ∈ namedBy (first ++ event :: second) :=
      List.mem_filterMap.mpr ⟨event, by simp, hid⟩
    rw [reported_singleton (h.foldl_advance snapshot first)] at hevent
    obtain hbefore | hafter := hevent id hid
    · exact affects_of_part_way once hnamed hbefore
    · have hsplit : first ++ event :: second = (first ++ [event]) ++ second := by simp
      rw [hsplit] at once hnamed ⊢
      apply affects_of_part_way once hnamed
      rwa [List.foldl_append]
  · rintro ⟨target, hnamed, hbefore | hafter⟩
    · exact reported_of_affects_before h hnamed hbefore
    · exact reported_of_affects_after h hnamed hafter

/-- Events on different targets may be taken in in either order. -/
theorem Wired.advance_comm (h : graph.Wired) {first second : TargetEvent}
    (once : (namedBy [first, second]).Nodup) :
    advance (definitions snapshot) (advance (definitions snapshot) graph first) second =
      advance (definitions snapshot) (advance (definitions snapshot) graph second) first := by
  apply (h.foldl_advance snapshot [first, second]).ext (h.foldl_advance snapshot [second, first])
  simp only [List.foldl_cons, List.foldl_nil, known_advance]
  cases hfirst : first.target with
  | none => rfl
  | some one =>
    cases hsecond : second.target with
    | none => rfl
    | some another =>
      have hne : one ≠ another := by
        rintro rfl
        simp [namedBy, hfirst, hsecond] at once
      simp only [Option.elim_some]
      exact Function.update_comm hne _ _ _

/-- Where no target has two events, their order does not matter for the graph. -/
theorem Wired.foldl_advance_perm (h : graph.Wired) {reordered : List TargetEvent}
    (perm : reordered.Perm events) (once : (namedBy reordered).Nodup) :
    reordered.foldl (advance (definitions snapshot)) graph =
      events.foldl (advance (definitions snapshot)) graph := by
  induction perm generalizing graph with
  | nil => rfl
  | @cons event first second _ ih =>
    apply ih (h.foldl_advance snapshot [event])
    exact once.sublist ((List.sublist_cons_self event first).filterMap _)
  | swap first second rest =>
    have hpair : (namedBy [second, first]).Nodup :=
      once.sublist (((List.nil_sublist rest).cons_cons first |>.cons_cons second).filterMap _)
    exact congrArg (rest.foldl (advance (definitions snapshot))) (h.advance_comm hpair)
  | trans hfirst _ ihFirst ihSecond =>
    exact (ihFirst h once).trans (ihSecond h ((hfirst.filterMap _).nodup_iff.mp once))

/-- A batch reports everything exactly if one of its events is not named. -/
theorem applySnapshot_eq_all_iff (graph : TargetGraph) (events : List TargetEvent)
    (snapshot : List BuildTarget) (rebuild : Bool) :
    (graph.applySnapshot events snapshot rebuild).2 = .all ↔
      ∃ event ∈ events, event.target = none := by
  rw [applySnapshot_snd, foldl_merge_eq_all_iff, all_mem_reports_iff]
  simp [Affected.none]

/-- A batch whose events are all named reports what its events report. -/
theorem exists_documents_reported (graph : TargetGraph) (snapshot : List BuildTarget)
    (rebuild : Bool) (allNamed : ∀ event ∈ events, event.target ≠ none) :
    ∃ documents, (graph.applySnapshot events snapshot rebuild).2 = .only documents ∧
      ∀ document, document ∈ documents ↔ Reported snapshot graph events document := by
  have hsnd := applySnapshot_snd graph events snapshot rebuild
  cases hresult : (graph.applySnapshot events snapshot rebuild).2 with
  | all =>
    obtain ⟨event, hevent, hnone⟩ := (applySnapshot_eq_all_iff graph events snapshot _).mp hresult
    exact absurd hnone (allNamed event hevent)
  | only documents =>
    refine ⟨documents, rfl, fun document => ?_⟩
    have hmem := contains_foldl_merge .none (reports (definitions snapshot) graph events) document
    rw [← hsnd, hresult, Affected.contains, Std.ExtTreeSet.contains_iff_mem] at hmem
    rw [hmem]
    simp [Affected.none, Affected.contains, Reported]

/-- A batch of target events reports the right documents.  Take any graph that can come about
and any batch.  If all events are named, some documents are reported, among them all that a
target with an event affected before the first event or affects after the last one; and if no
target has two events, the documents are exactly these, and any order of the events leads to
the same documents and the same graph.  If an event is not named, everything is reported. -/
theorem batch_reports_affected (changes : List Change)
    (proper : ∀ change ∈ changes, change.Proper) (events : List TargetEvent)
    (snapshot : List BuildTarget) (rebuild : Bool) :
    let graph := after changes
    let last := (graph.applySnapshot events snapshot false).1
    ((∀ event ∈ events, event.target ≠ none) →
      ∃ documents, (graph.applySnapshot events snapshot rebuild).2 = .only documents ∧
        (∀ id ∈ namedBy events, ∀ document,
          document ∈ graph.affectedBy id ∨ document ∈ last.affectedBy id →
            document ∈ documents) ∧
        ((namedBy events).Nodup →
          (∀ document, document ∈ documents ↔ ∃ id ∈ namedBy events,
            document ∈ graph.affectedBy id ∨ document ∈ last.affectedBy id) ∧
          ∀ reordered, reordered.Perm events →
            graph.applySnapshot reordered snapshot rebuild =
              graph.applySnapshot events snapshot rebuild)) ∧
    ((∃ event ∈ events, event.target = none) →
      (graph.applySnapshot events snapshot rebuild).2 = .all) := by
  intro graph last
  have h : graph.Wired := wired_after proper
  have hlast : ∀ id document, document ∈ last.affectedBy id ↔
      (events.foldl (advance (definitions snapshot)) graph).Affects id document := by
    intro id document
    rw [← (h.foldl_advance snapshot events).mem_affectedBy]
    exact iff_of_eq (congrArg (document ∈ ·.affectedBy id)
      (applySnapshot_fst graph events snapshot false))
  refine ⟨fun allNamed => ?_, (applySnapshot_eq_all_iff graph events snapshot rebuild).mpr⟩
  obtain ⟨documents, hdocuments, hreported⟩ :=
    exists_documents_reported graph snapshot rebuild allNamed
  simp only [h.mem_affectedBy, hlast]
  refine ⟨documents, hdocuments, ?_, fun once => ⟨?_, ?_⟩⟩
  · rintro id hid document (hbefore | hafter)
    · exact (hreported document).mpr (reported_of_affects_before h hid hbefore)
    · exact (hreported document).mpr (reported_of_affects_after h hid hafter)
  · intro document
    rw [hreported, reported_iff h allNamed once]
  · intro reordered hperm
    have hnamed : (namedBy reordered).Perm (namedBy events) := hperm.filterMap _
    have honce : (namedBy reordered).Nodup := hnamed.nodup_iff.mpr once
    have hallNamed : ∀ event ∈ reordered, event.target ≠ none :=
      fun event hevent => allNamed event (hperm.mem_iff.mp hevent)
    have hgraph : reordered.foldl (advance (definitions snapshot)) graph =
        events.foldl (advance (definitions snapshot)) graph := h.foldl_advance_perm hperm honce
    obtain ⟨others, hothers, hagain⟩ :=
      exists_documents_reported graph snapshot rebuild hallNamed
    have hsame : others = documents := by
      apply Std.ExtTreeSet.ext_mem
      intro document
      rw [hagain, hreported, reported_iff h hallNamed honce, reported_iff h allNamed once, hgraph]
      simp only [hnamed.mem_iff]
    apply Prod.ext
    · rw [applySnapshot_fst, applySnapshot_fst, hgraph]
    · rw [hothers, hdocuments, hsame]

/-- Two targets, one of which depends on the other. -/
def joined : List Change :=
  [.rebuild [named "app" ["file:///a.c"] ["core"], named "core" ["file:///c.c"] []]]

/-- Both targets change, first the one that depends on the other. -/
def severing : List TargetEvent :=
  [⟨some ⟨"app"⟩, .changed⟩, ⟨some ⟨"core"⟩, .changed⟩]

/-- The targets when neither depends on the other. -/
def severed : List BuildTarget :=
  [named "app" ["file:///a.c"] [], named "core" ["file:///c.c"] []]

theorem batch_reports_affected_severed :
    (∀ change ∈ joined, change.Proper) ∧ (∀ event ∈ severing, event.target ≠ none) ∧
      (namedBy severing).Nodup ∧
      (∃ documents, ((after joined).applySnapshot severing severed true).2 = .only documents ∧
        (⟨"file:///a.c"⟩ : Document) ∈ documents) ∧
      (after joined).applySnapshot severing.reverse severed true =
        (after joined).applySnapshot severing severed true ∧
      ((after joined).applySnapshot [⟨none, .changed⟩] severed true).2 = .all := by
  have hproper : ∀ change ∈ joined, change.Proper := by
    intro change hchange
    rw [List.mem_singleton.mp hchange]
    show List.Nodup _
    decide
  have hnamed : ∀ event ∈ severing, event.target ≠ none := by decide
  have honce : (namedBy severing).Nodup := by decide
  obtain ⟨documents, hdocuments, hcontains, hexact⟩ :=
    (batch_reports_affected joined hproper severing severed true).1 hnamed
  -- Before the batch a chain leads from the first target to the second.
  have haffects : (after joined).Affects ⟨"core"⟩ ⟨"file:///a.c"⟩ :=
    ⟨⟨"app"⟩, ⟨_, rfl, by decide⟩, .single ⟨_, rfl, by decide⟩⟩
  refine ⟨hproper, hnamed, honce, ⟨documents, hdocuments, ?_⟩, ?_, ?_⟩
  · apply hcontains ⟨"core"⟩ (by decide)
    exact Or.inl ((wired_after hproper).mem_affectedBy.mpr haffects)
  · exact (hexact honce).2 _ severing.reverse_perm
  · exact (batch_reports_affected joined hproper [⟨none, .changed⟩] severed true).2 (by simp)

end TargetGraph

end SettingsBroker
