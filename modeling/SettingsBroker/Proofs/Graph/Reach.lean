/-
# A walk finds what chains of edges lead to

A walk takes edges out of the map as it uses them, so that it goes on with fewer and fewer
edges.  That loses nothing: a node that was seen has had its edges used, and their ends wait
or were seen.  What the walk has seen in the end is therefore closed under the edges of the
map it began with, and it is no more than what chains of these edges lead to.
-/

import Mathlib.Logic.Relation
import SettingsBroker.Graph.Reach

namespace SettingsBroker.Graph

open Relation

/-- A chain can be followed up to the first node on it from which the links are not the same. -/
theorem follow {α : Type} {links others : α → α → Prop} {touched : α → Prop} {start node : α}
    (agree : ∀ source target, ¬ touched source → links source target → others source target)
    (chain : ReflTransGen links start node) :
    ReflTransGen others start node ∨ ∃ found, touched found ∧ ReflTransGen others start found := by
  induction chain with
  | refl => exact Or.inl .refl
  | @tail middle last _ hlink ih =>
    obtain hreached | hfound := ih
    · by_cases hmiddle : touched middle
      · exact Or.inr ⟨middle, hmiddle, hreached⟩
      · exact Or.inl (hreached.tail (agree middle last hmiddle hlink))
    · exact Or.inr hfound

variable {α : Type} [Ord α] [Std.TransOrd α]
variable {edges all left : Std.ExtTreeMap α (List α)} {seen : Std.ExtTreeSet α}
variable {waiting next : List α} {node start : α}

/-- An edge leads from one node to another. -/
def Edge (edges : Std.ExtTreeMap α (List α)) (source target : α) : Prop :=
  ∃ next, edges[source]? = some next ∧ target ∈ next

theorem Edge.of_erase {source target : α} (h : Edge (edges.erase start) source target) :
    Edge edges source target := by
  obtain ⟨next, hnext, htarget⟩ := h
  rw [Std.ExtTreeMap.getElem?_erase] at hnext
  split at hnext
  · cases hnext
  · exact ⟨next, hnext, htarget⟩

theorem subset_reach (h : node ∈ seen) : node ∈ reach edges seen waiting := by
  fun_induction reach edges seen waiting with
  | case1 => exact h
  | case2 edges seen start waiting hseen ih => exact ih h
  | case3 edges seen start waiting hunseen hnone ih => exact ih (by simp [h])
  | case4 edges seen start waiting hunseen next hsome ih => exact ih (by simp [h])

variable [Std.LawfulEqOrd α]

theorem mem_insert_iff : node ∈ seen.insert start ↔ node = start ∨ node ∈ seen := by
  rw [Std.ExtTreeSet.mem_insert, Std.LawfulEqOrd.compare_eq_iff_eq, eq_comm]

/-- What a walk sees, chains of edges lead to. -/
theorem reach_sound (h : node ∈ reach edges seen waiting) :
    node ∈ seen ∨ ∃ start ∈ waiting, ReflTransGen (Edge edges) start node := by
  fun_induction reach edges seen waiting with
  | case1 => exact Or.inl h
  | case2 edges seen start waiting hseen ih =>
    obtain hold | ⟨first, hfirst, hchain⟩ := ih h
    · exact Or.inl hold
    · exact Or.inr ⟨first, List.mem_cons_of_mem _ hfirst, hchain⟩
  | case3 edges seen start waiting hunseen hnone ih =>
    obtain hold | ⟨first, hfirst, hchain⟩ := ih h
    · obtain rfl | hold := mem_insert_iff.mp hold
      · exact Or.inr ⟨node, List.mem_cons_self, .refl⟩
      · exact Or.inl hold
    · exact Or.inr ⟨first, List.mem_cons_of_mem _ hfirst, hchain⟩
  | case4 edges seen start waiting hunseen next hsome ih =>
    obtain hold | ⟨first, hfirst, hchain⟩ := ih h
    · obtain rfl | hold := mem_insert_iff.mp hold
      · exact Or.inr ⟨node, List.mem_cons_self, .refl⟩
      · exact Or.inl hold
    · have hlifted : ReflTransGen (Edge edges) first node :=
        ReflTransGen.mono (fun _ _ hedge => hedge.of_erase) _ _ hchain
      obtain hfirst | hfirst := List.mem_append.mp hfirst
      · exact Or.inr ⟨start, List.mem_cons_self, .head ⟨next, hsome, hfirst⟩ hlifted⟩
      · exact Or.inr ⟨first, List.mem_cons_of_mem _ hfirst, hlifted⟩

/-- A walk part way through: nodes that were not seen have all their edges left, and the
edges of those that were seen lead to nodes that were seen or wait. -/
structure PartWay (all edges : Std.ExtTreeMap α (List α)) (seen : Std.ExtTreeSet α)
    (waiting : List α) : Prop where
  unused : ∀ node, node ∉ seen → edges[node]? = all[node]?
  used : ∀ source ∈ seen, ∀ target, Edge all source target → target ∈ seen ∨ target ∈ waiting

/-- Seeing a node uses its edges. -/
theorem PartWay.see (h : PartWay all edges seen (start :: waiting))
    (kept : ∀ node, node ∉ seen.insert start → left[node]? = edges[node]?)
    (ends : ∀ target, Edge all start target → target ∈ next) :
    PartWay all left (seen.insert start) (next ++ waiting) := by
  constructor
  · intro node hnode
    rw [kept node hnode]
    exact h.unused node fun hseen => hnode (mem_insert_iff.mpr (Or.inr hseen))
  · intro source hsource target hedge
    rw [mem_insert_iff, List.mem_append]
    obtain rfl | hsource := mem_insert_iff.mp hsource
    · exact Or.inr (Or.inl (ends target hedge))
    · obtain hseen | hwaits := h.used source hsource target hedge
      · exact Or.inl (Or.inr hseen)
      · obtain rfl | hwaits := List.mem_cons.mp hwaits
        · exact Or.inl (Or.inl rfl)
        · exact Or.inr (Or.inr hwaits)

/-- A walk sees all that waits, and with a node all that an edge leads to from it. -/
theorem reach_closed (h : PartWay all edges seen waiting) :
    (∀ node ∈ waiting, node ∈ reach edges seen waiting) ∧
      ∀ source ∈ reach edges seen waiting, ∀ target, Edge all source target →
        target ∈ reach edges seen waiting := by
  fun_induction reach edges seen waiting with
  | case1 edges seen =>
    constructor
    · intro node hnode
      cases hnode
    · intro source hsource target hedge
      exact (h.used source hsource target hedge).resolve_right List.not_mem_nil
  | case2 edges seen start waiting hseen ih =>
    have hrest : PartWay all edges seen waiting := by
      refine ⟨h.unused, fun source hsource target hedge => ?_⟩
      obtain hold | hwaits := h.used source hsource target hedge
      · exact Or.inl hold
      · obtain rfl | hwaits := List.mem_cons.mp hwaits
        · exact Or.inl hseen
        · exact Or.inr hwaits
    obtain ⟨hwaiting, hclosed⟩ := ih hrest
    refine ⟨fun node hnode => ?_, hclosed⟩
    obtain rfl | hnode := List.mem_cons.mp hnode
    · exact subset_reach hseen
    · exact hwaiting node hnode
  | case3 edges seen start waiting hunseen hnone ih =>
    have hleft : all[start]? = none := (h.unused start hunseen).symm.trans hnone
    have hrest : PartWay all edges (seen.insert start) ([] ++ waiting) := by
      apply h.see (fun _ _ => rfl)
      rintro target ⟨next, hsome, -⟩
      cases hleft.symm.trans hsome
    obtain ⟨hwaiting, hclosed⟩ := ih hrest
    refine ⟨fun node hnode => ?_, hclosed⟩
    obtain rfl | hnode := List.mem_cons.mp hnode
    · exact subset_reach (mem_insert_iff.mpr (Or.inl rfl))
    · exact hwaiting node hnode
  | case4 edges seen start waiting hunseen next hsome ih =>
    have hleft : all[start]? = some next := (h.unused start hunseen).symm.trans hsome
    have hrest : PartWay all (edges.erase start) (seen.insert start) (next ++ waiting) := by
      apply h.see
      · intro node hnode
        have hother : start ≠ node := fun heq => hnode (mem_insert_iff.mpr (Or.inl heq.symm))
        rw [Std.ExtTreeMap.getElem?_erase, if_neg (by simpa using hother)]
      · rintro target ⟨found, hfound, htarget⟩
        rwa [Option.some.inj (hleft.symm.trans hfound)]
    obtain ⟨hwaiting, hclosed⟩ := ih hrest
    refine ⟨fun node hnode => ?_, hclosed⟩
    obtain rfl | hnode := List.mem_cons.mp hnode
    · exact subset_reach (mem_insert_iff.mpr (Or.inl rfl))
    · exact hwaiting node (List.mem_append_right _ hnode)

/-- A walk sees exactly what chains of edges lead to from the nodes it starts with. -/
theorem mem_reach_iff :
    node ∈ reach edges ∅ waiting ↔ ∃ start ∈ waiting, ReflTransGen (Edge edges) start node := by
  constructor
  · intro h
    exact (reach_sound h).resolve_left Std.ExtTreeSet.not_mem_empty
  · rintro ⟨start, hstart, hchain⟩
    have hbegin : PartWay edges edges ∅ waiting :=
      ⟨fun _ _ => rfl, fun source hsource => absurd hsource Std.ExtTreeSet.not_mem_empty⟩
    obtain ⟨hwaiting, hclosed⟩ := reach_closed hbegin
    induction hchain with
    | refl => exact hwaiting start hstart
    | tail _ hedge ih => exact hclosed _ ih _ hedge

end SettingsBroker.Graph
