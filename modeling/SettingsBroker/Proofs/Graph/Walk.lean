/-
# The walk over dependents, turn by turn

What a target affects can be gathered with a line of targets: the first of the line is taken
out, and unless it was seen before, its sources are taken down and its dependents are put at
the end. This module proves that such a walk ends on every graph, since a target brings its
dependents into the line only once, and that what it has taken down then is what the graph
says the target affects. The order in which dependents are lined up is left open. A target
may stand in the line several times, and one that was removed may still have dependents.
-/

import SettingsBroker.Proofs.Graph.Affected

namespace SettingsBroker

open Relation

namespace TargetGraph

variable {graph : TargetGraph} {id node : TargetId} {document : Document}

/-- A walk part way through. -/
structure Walk where
  seen : TargetSet
  /-- The targets that stand in line. -/
  waiting : List TargetId
  /-- The sources taken down. -/
  found : DocumentSet

/-- A walk that begins at a target. -/
def Walk.start (id : TargetId) : Walk :=
  ⟨∅, [id], ∅⟩

/-- The sources of a target, if it is known. -/
def sourcesOf (graph : TargetGraph) (id : TargetId) : DocumentSet :=
  (graph.known id).elim ∅ BuildTarget.sources

/-- One turn of a walk. -/
inductive Turn (graph : TargetGraph) : Walk → Walk → Prop where
  /-- The first of the line was seen before. -/
  | again {seen : TargetSet} {waiting : List TargetId} {found : DocumentSet} {id : TargetId}
      (old : id ∈ seen) : Turn graph ⟨seen, id :: waiting, found⟩ ⟨seen, waiting, found⟩
  /-- The first of the line is seen, and its dependents, in some order, go to the end of the line
  as far as they were not seen. -/
  | fresh {seen : TargetSet} {waiting : List TargetId} {found : DocumentSet} {id : TargetId}
      (new : id ∉ seen) (order : List TargetId)
      (listed : order.Perm (under graph.dependents id).toList) :
      Turn graph ⟨seen, id :: waiting, found⟩
        ⟨seen.insert id, waiting ++ order.filter fun dependent => dependent ∉ seen.insert id,
          found ∪ graph.sourcesOf id⟩

/-- Some turns from the beginning have led to a walk. -/
inductive Run (graph : TargetGraph) (id : TargetId) : Nat → Walk → Prop where
  | start : Run graph id 0 (.start id)
  | turn {turns : Nat} {walk next : Walk} :
      Run graph id turns walk → Turn graph walk next → Run graph id (turns + 1) next

/-- A walk with a target in line can take a turn. -/
theorem exists_turn {walk : Walk} (h : walk.waiting ≠ []) : ∃ next, Turn graph walk next := by
  obtain ⟨seen, waiting, found⟩ := walk
  obtain ⟨first, waiting, rfl⟩ := List.exists_cons_of_ne_nil h
  by_cases hseen : first ∈ seen
  · exact ⟨_, .again hseen⟩
  · exact ⟨_, .fresh hseen _ (.refl _)⟩

/-! ## The walk ends -/

/-- How many dependents are entered under targets that were not seen. -/
def dependentsLeft (seen : TargetSet) : List (TargetId × TargetSet) → Nat
  | [] => 0
  | (id, ids) :: entries => (if id ∈ seen then 0 else ids.size) + dependentsLeft seen entries

theorem dependentsLeft_insert_le (seen : TargetSet) (id : TargetId)
    (entries : List (TargetId × TargetSet)) :
    dependentsLeft (seen.insert id) entries ≤ dependentsLeft seen entries := by
  induction entries with
  | nil => exact Nat.le_refl 0
  | cons entry entries ih =>
    refine Nat.add_le_add ?_ ih
    by_cases hseen : entry.1 ∈ seen
    · rw [if_pos (Graph.mem_insert_iff.mpr (Or.inr hseen))]
      exact Nat.zero_le _
    · rw [if_neg hseen]
      split
      · exact Nat.zero_le _
      · exact Nat.le_refl _

/-- Seeing a target spends its dependents. -/
theorem dependentsLeft_insert {seen ids : TargetSet} {entries : List (TargetId × TargetSet)}
    (new : id ∉ seen) (entered : (id, ids) ∈ entries) :
    dependentsLeft (seen.insert id) entries + ids.size ≤ dependentsLeft seen entries := by
  induction entries with
  | nil => cases entered
  | cons entry entries ih =>
    obtain rfl | entered := List.mem_cons.mp entered
    · have hrest := dependentsLeft_insert_le seen id entries
      rw [dependentsLeft, dependentsLeft, if_pos (Graph.mem_insert_iff.mpr (Or.inl rfl)),
        if_neg new]
      omega
    · have hrest := ih entered
      have hentry := dependentsLeft_insert_le seen id [entry]
      simp only [dependentsLeft] at hentry ⊢
      omega

/-- What a walk can still spend: the targets in line and the dependents that can be lined up. -/
def Walk.weight (graph : TargetGraph) (walk : Walk) : Nat :=
  dependentsLeft walk.seen graph.dependents.toList + walk.waiting.length

theorem Turn.weight_lt {walk next : Walk} (h : Turn graph walk next) :
    next.weight graph < walk.weight graph := by
  cases h with
  | again old => simp [Walk.weight]
  | @fresh seen waiting found id new order listed =>
    have hlined : (order.filter fun dependent => dependent ∉ seen.insert id).length ≤
        (under graph.dependents id).size := by
      rw [← Std.ExtTreeSet.length_toList, ← listed.length_eq]
      exact List.length_filter_le ..
    have hleft : dependentsLeft (seen.insert id) graph.dependents.toList +
        (under graph.dependents id).size ≤ dependentsLeft seen graph.dependents.toList := by
      unfold under
      cases hentered : graph.dependents[id]? with
      | none => exact dependentsLeft_insert_le seen id _
      | some ids =>
        exact dependentsLeft_insert new
          (Std.ExtTreeMap.mem_toList_iff_getElem?_eq_some.mpr hentered)
    simp only [Walk.weight, List.length_append, List.length_cons]
    omega

/-- How many dependents are entered in a graph. -/
def dependentCount (graph : TargetGraph) : Nat :=
  dependentsLeft ∅ graph.dependents.toList

theorem weight_start (graph : TargetGraph) (id : TargetId) :
    (Walk.start id).weight graph = graph.dependentCount + 1 := rfl

theorem Run.turns_le {turns : Nat} {walk : Walk} (h : Run graph id turns walk) :
    turns + walk.weight graph ≤ graph.dependentCount + 1 := by
  induction h with
  | start => exact Nat.le_of_eq (by rw [weight_start, Nat.zero_add])
  | turn _ hturn ih =>
    have hless := hturn.weight_lt
    omega

/-! ## What the walk has found -/

theorem mem_sourcesOf_iff : document ∈ graph.sourcesOf id ↔ graph.Compiles id document := by
  unfold sourcesOf known Compiles Names
  cases graph.targets[id]? with
  | none => simp
  | some target => simp

/-- A walk has come along chains of dependencies: all that it has seen and lined up leads to the
target it began at, nothing that depends on what it has seen is left out, and the sources of what
it has seen are taken down. -/
structure Walk.Along (graph : TargetGraph) (id : TargetId) (walk : Walk) : Prop where
  begun : id ∈ walk.seen ∨ id ∈ walk.waiting
  led : ∀ node, node ∈ walk.seen ∨ node ∈ walk.waiting → ReflTransGen graph.DependsOn node id
  closed : ∀ node ∈ walk.seen, ∀ dependent, graph.DependsOn dependent node →
    dependent ∈ walk.seen ∨ dependent ∈ walk.waiting
  gathered : ∀ document, document ∈ walk.found ↔
    ∃ owner ∈ walk.seen, graph.Compiles owner document

theorem along_start (graph : TargetGraph) (id : TargetId) : (Walk.start id).Along graph id where
  begun := Or.inr (List.mem_singleton_self id)
  led := by
    rintro node (hseen | hwaits)
    · exact absurd hseen Std.ExtTreeSet.not_mem_empty
    · rw [List.mem_singleton.mp hwaits]
  closed := fun node hseen => absurd hseen Std.ExtTreeSet.not_mem_empty
  gathered := by simp [Walk.start]

/-- One turn goes on along chains of dependencies. -/
theorem Walk.Along.turn {walk next : Walk} (wired : graph.Wired) (h : walk.Along graph id)
    (hturn : Turn graph walk next) : next.Along graph id := by
  cases hturn with
  | @again seen waiting found first old =>
    -- The target taken out of the line was seen, so that nothing drops out.
    have hkept : ∀ node, node ∈ seen ∨ node ∈ first :: waiting → node ∈ seen ∨ node ∈ waiting := by
      rintro node (hseen | hwaits)
      · exact Or.inl hseen
      · obtain rfl | hwaits := List.mem_cons.mp hwaits
        · exact Or.inl old
        · exact Or.inr hwaits
    constructor
    case begun => exact hkept id h.begun
    case led => exact fun node hnode => h.led node (hnode.imp_right (List.mem_cons_of_mem _))
    case closed =>
      exact fun node hseen dependent hdepends => hkept _ (h.closed node hseen dependent hdepends)
    case gathered => exact h.gathered
  | @fresh seen waiting found first new order listed =>
    have hdependents : ∀ dependent, dependent ∈ order ↔ graph.DependsOn dependent first := by
      intro dependent
      rw [listed.mem_iff, Std.ExtTreeSet.mem_toList, wired.dependents.entered]
    have hlined : ∀ dependent, dependent ∈ order → dependent ∈ seen.insert first ∨
        dependent ∈ waiting ++ order.filter fun dependent => dependent ∉ seen.insert first := by
      intro dependent hdependent
      by_cases hseen : dependent ∈ seen.insert first
      · exact Or.inl hseen
      · refine Or.inr (List.mem_append_right _ ?_)
        exact List.mem_filter.mpr ⟨hdependent, decide_eq_true hseen⟩
    have hkept : ∀ node, node ∈ seen ∨ node ∈ first :: waiting → node ∈ seen.insert first ∨
        node ∈ waiting ++ order.filter fun dependent => dependent ∉ seen.insert first := by
      rintro node (hseen | hwaits)
      · exact Or.inl (Graph.mem_insert_iff.mpr (Or.inr hseen))
      · obtain rfl | hwaits := List.mem_cons.mp hwaits
        · exact Or.inl (Graph.mem_insert_iff.mpr (Or.inl rfl))
        · exact Or.inr (List.mem_append_left _ hwaits)
    have hfirst : ReflTransGen graph.DependsOn first id := h.led first (Or.inr List.mem_cons_self)
    constructor
    case begun => exact hkept id h.begun
    case led =>
      rintro node (hseen | hwaits)
      · obtain rfl | hseen := Graph.mem_insert_iff.mp hseen
        · exact hfirst
        · exact h.led node (Or.inl hseen)
      · obtain hwaits | hadded := List.mem_append.mp hwaits
        · exact h.led node (Or.inr (List.mem_cons_of_mem _ hwaits))
        · exact .head ((hdependents node).mp (List.mem_filter.mp hadded).1) hfirst
    case closed =>
      intro node hseen dependent hdepends
      obtain rfl | hseen := Graph.mem_insert_iff.mp hseen
      · exact hlined dependent ((hdependents dependent).mpr hdepends)
      · exact hkept dependent (h.closed node hseen dependent hdepends)
    case gathered =>
      intro document
      rw [Std.ExtTreeSet.mem_union_iff, h.gathered, mem_sourcesOf_iff]
      simp only [Graph.mem_insert_iff, or_and_right, exists_or, exists_eq_left]
      exact or_comm

theorem Run.along {turns : Nat} {walk : Walk} (wired : graph.Wired)
    (h : Run graph id turns walk) : walk.Along graph id := by
  induction h with
  | start => exact along_start graph id
  | turn _ hturn ih => exact ih.turn wired hturn

/-- A walk with nobody left in line has found what its target affects. -/
theorem Walk.Along.found_eq {walk : Walk} (wired : graph.Wired) (h : walk.Along graph id)
    (done : walk.waiting = []) : walk.found = graph.affectedBy id := by
  have hseen : ∀ node, node ∈ walk.seen ∨ node ∈ walk.waiting → node ∈ walk.seen := by
    intro node hnode
    rw [done] at hnode
    exact hnode.resolve_right List.not_mem_nil
  have hreached : ∀ node, node ∈ walk.seen ↔ ReflTransGen graph.DependsOn node id := by
    intro node
    refine ⟨fun hnode => h.led node (Or.inl hnode), fun hchain => ?_⟩
    induction hchain using ReflTransGen.head_induction_on with
    | refl => exact hseen id h.begun
    | head hdepends _ ih => exact hseen _ (h.closed _ ih _ hdepends)
  apply Std.ExtTreeSet.ext_mem
  intro document
  rw [h.gathered, wired.mem_affectedBy]
  simp only [hreached, Affects, and_comm]

/-! ## What a target affects -/

/-- Whatever has happened to a graph, and whichever target it is asked about: a document is
affected exactly if a known target compiles it that is the target itself or from which a chain of
dependencies leads to it. The walk over the dependents finds these documents, in whatever order it
lines them up: it takes at most one turn for its target and one for each dependent that is entered,
can go on as long as somebody is in line, and has found all in the end. -/
theorem affectedBy_closure (changes : List Change) (proper : ∀ change ∈ changes, change.Proper)
    (id : TargetId) :
    let graph := after changes
    (∀ document, document ∈ graph.affectedBy id ↔
      ∃ owner target, graph.targets[owner]? = some target ∧ document ∈ target.sources ∧
        (owner = id ∨ TransGen graph.DependsOn owner id)) ∧
    ∀ turns walk, Run graph id turns walk →
      turns ≤ graph.dependentCount + 1 ∧
      (walk.waiting ≠ [] → ∃ next, Turn graph walk next) ∧
      (walk.waiting = [] → walk.found = graph.affectedBy id) := by
  intro graph
  have wired : graph.Wired := wired_after proper
  constructor
  · intro document
    rw [wired.mem_affectedBy]
    simp only [Affects, Compiles, Names, reflTransGen_iff_eq_or_transGen, eq_comm (a := id)]
    constructor
    · rintro ⟨owner, ⟨target, htarget, hsource⟩, hchain⟩
      exact ⟨owner, target, htarget, hsource, hchain⟩
    · rintro ⟨owner, target, htarget, hsource, hchain⟩
      exact ⟨owner, ⟨target, htarget, hsource⟩, hchain⟩
  · intro turns walk hrun
    have hturns := hrun.turns_le
    exact ⟨by omega, exists_turn, (hrun.along wired).found_eq wired⟩

/-- Two targets that depend on each other, one above them, and below them one that was removed while
they depend on it. -/
def ring : List Change :=
  [.rebuild [named "top" ["file:///top.c"] ["app"], named "app" ["file:///a.c"] ["core"],
      named "core" ["file:///c.c"] ["app", "base"], named "base" ["file:///b.c"] []],
    .event ⟨some ⟨"base"⟩, .removed⟩ none]

theorem affectedBy_closure_ring :
    (∀ change ∈ ring, change.Proper) ∧ (after ring).targets[(⟨"base"⟩ : TargetId)]? = none ∧
      (⟨"file:///top.c"⟩ : Document) ∈ (after ring).affectedBy ⟨"base"⟩ ∧
      ∀ turns walk, Run (after ring) ⟨"base"⟩ turns walk →
        turns ≤ (after ring).dependentCount + 1 ∧
        (walk.waiting ≠ [] → ∃ next, Turn (after ring) walk next) ∧
        (walk.waiting = [] → walk.found = (after ring).affectedBy ⟨"base"⟩) := by
  have hproper : ∀ change ∈ ring, change.Proper := by
    intro change hchange
    simp only [ring, List.mem_cons, List.not_mem_nil, or_false] at hchange
    obtain rfl | rfl := hchange
    · show List.Nodup _
      decide
    · exact fun id target _ hnone => nomatch hnone
  obtain ⟨haffected, hruns⟩ := affectedBy_closure ring hproper ⟨"base"⟩
  refine ⟨hproper, rfl, ?_, hruns⟩
  rw [haffected]
  refine ⟨⟨"top"⟩, _, rfl, by decide, Or.inr ?_⟩
  have htop : (after ring).DependsOn ⟨"top"⟩ ⟨"app"⟩ := ⟨_, rfl, by decide⟩
  have happ : (after ring).DependsOn ⟨"app"⟩ ⟨"core"⟩ := ⟨_, rfl, by decide⟩
  have hcore : (after ring).DependsOn ⟨"core"⟩ ⟨"base"⟩ := ⟨_, rfl, by decide⟩
  exact .tail (.tail (.single htop) happ) hcore

end TargetGraph

end SettingsBroker
