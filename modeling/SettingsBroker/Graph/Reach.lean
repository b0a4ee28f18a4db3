/-
# Walking a graph

All nodes that can be reached from some nodes along edges.  The walk keeps the
map of edges that it has not used yet; each node uses its edges once, so the
walk ends on any graph, with cycles and with nodes that have no edges at all.
-/

import Std.Data.ExtTreeMap
import Std.Data.ExtTreeSet

namespace SettingsBroker.Graph

variable {α : Type} [Ord α] [Std.TransOrd α]

/-- The nodes of `seen` and all that is reached from the waiting nodes along
edges that have not been used. -/
def reach (edges : Std.ExtTreeMap α (List α)) (seen : Std.ExtTreeSet α) :
    List α → Std.ExtTreeSet α
  | [] => seen
  | node :: waiting =>
    if seen.contains node then reach edges seen waiting
    else
      match _h : edges[node]? with
      | none => reach edges (seen.insert node) waiting
      | some next => reach (edges.erase node) (seen.insert node) (next ++ waiting)
  termination_by waiting => (edges.size, waiting.length)
  decreasing_by
    · exact Prod.Lex.right _ (by simp)
    · exact Prod.Lex.right _ (by simp)
    · refine Prod.Lex.left _ _ ?_
      have hmem : node ∈ edges := by
        rw [Std.ExtTreeMap.mem_iff_isSome_getElem?, _h]; rfl
      have hpos : 0 < edges.size := by
        rcases Nat.eq_zero_or_pos edges.size with h | h
        · rw [Std.ExtTreeMap.eq_empty_iff_size_eq_zero.mpr h] at hmem
          simp at hmem
        · exact h
      rw [Std.ExtTreeMap.size_erase, if_pos (Std.ExtTreeMap.mem_iff_contains.mp hmem)]
      omega

end SettingsBroker.Graph
