/-
# Normal paths

The names that are left of a path once dots and parent steps are gone are names in earnest:
none is empty, a dot or two dots, and none has a separator in it.  The absolute path that they
spell has exactly these names again, whether or not a separator follows the last one.

The parent of an absolute path has the same components but for the last, however the path and its
end are spelled.
-/

import Mathlib.Data.List.Basic
import Mathlib.Data.List.DropRight
import SettingsBroker.FilePath

namespace SettingsBroker

open Text (Bytes)

/-- No piece of a list has anything in it at which the list was cut. -/
theorem not_cut_of_mem_splitOnP {α : Type} {cut : α → Bool} {list piece : List α} {a : α}
    (hpiece : piece ∈ list.splitOnP cut) (ha : a ∈ piece) : cut a = false := by
  induction list generalizing piece with
  | nil =>
    rw [List.splitOnP_nil, List.mem_singleton] at hpiece
    rw [hpiece] at ha
    cases ha
  | cons first rest ih =>
    rw [List.splitOnP_cons_eq_if_modifyHead] at hpiece
    split at hpiece
    · obtain rfl | hrest := List.mem_cons.mp hpiece
      · cases ha
      · exact ih hrest ha
    · next hfirst =>
      obtain ⟨head, tail, hsplit⟩ := List.exists_cons_of_ne_nil (List.splitOnP_ne_nil cut rest)
      rw [hsplit, List.modifyHead_cons] at hpiece
      obtain rfl | hrest := List.mem_cons.mp hpiece
      · obtain rfl | hhead := List.mem_cons.mp ha
        · exact Bool.not_eq_true _ ▸ hfirst
        · exact ih (hsplit ▸ List.mem_cons_self) hhead
      · exact ih (hsplit ▸ List.mem_cons_of_mem _ hrest) ha

/-- Pieces that are strung together are found again by cutting. -/
theorem splitOnP_append_flatMap {α : Type} {cut : α → Bool} {separator : α}
    (hcut : cut separator = true) {piece : List α} {pieces : List (List α)}
    (h : ∀ part ∈ piece :: pieces, ∀ a ∈ part, cut a = false) :
    (piece ++ pieces.flatMap (separator :: ·)).splitOnP cut = piece :: pieces := by
  have hpiece : ∀ a ∈ piece, cut a = false := h piece List.mem_cons_self
  induction pieces generalizing piece with
  | nil => rw [List.flatMap_nil, List.append_nil, List.splitOnP_eq_singleton hpiece]
  | cons next pieces ih =>
    have hrest : ∀ part ∈ next :: pieces, ∀ a ∈ part, cut a = false :=
      fun part hpart => h part (List.mem_cons_of_mem _ hpart)
    rw [List.flatMap_cons, List.cons_append,
      List.splitOnP_append_cons_of_forall_mem hpiece separator hcut,
      ih hrest (hrest next List.mem_cons_self)]

namespace FilePath

variable {bytes piece name : Bytes} {listed names : List Bytes} {p : FilePath}

/-- What can be a name of a normal path. -/
structure IsName (name : Bytes) : Prop where
  ne_nil : name ≠ []
  ne_dot : name ≠ dot
  ne_dots : name ≠ dots
  unbroken : separator ∉ name

/-! ## Names that remain -/

theorem partOf?_eq_name_iff : partOf? piece = some (.name name) ↔
    piece = name ∧ name ≠ [] ∧ name ≠ dot ∧ name ≠ dots := by
  unfold partOf?
  grind

theorem partOf?_of_isName (h : IsName name) : partOf? name = some (.name name) :=
  partOf?_eq_name_iff.mpr ⟨rfl, h.ne_nil, h.ne_dot, h.ne_dots⟩

theorem separator_not_mem_of_mem_pieces (h : piece ∈ pieces bytes) : separator ∉ piece := by
  rw [pieces, List.splitOn_eq_splitOnP] at h
  intro hmem
  have hcut := not_cut_of_mem_splitOnP h hmem
  simp at hcut

theorem isName_of_mem_parts (h : PathPart.name name ∈ p.parts) : IsName name := by
  obtain ⟨piece, hpiece, hpart⟩ : ∃ piece ∈ pieces p.bytes, partOf? piece = some (.name name) := by
    unfold parts at h
    split at h
    · obtain hroot | hrest := List.mem_cons.mp h
      · cases hroot
      · exact List.mem_filterMap.mp hrest
    · split at h
      · next first rest hpieces =>
        obtain hlead | hrest := List.mem_append.mp h
        · refine ⟨first, hpieces ▸ List.mem_cons_self, ?_⟩
          split at hlead
          · simp at hlead
          · exact Option.mem_toList.mp hlead
        · obtain ⟨piece, hpiece, hpart⟩ := List.mem_filterMap.mp hrest
          exact ⟨piece, hpieces ▸ List.mem_cons_of_mem _ hpiece, hpart⟩
      · cases h
  obtain ⟨rfl, hne, hdot, hdots⟩ := partOf?_eq_name_iff.mp hpart
  exact ⟨hne, hdot, hdots, separator_not_mem_of_mem_pieces hpiece⟩

/-- A name that is kept was kept before or is the part that was taken in. -/
theorem mem_climb {kept : List Bytes} {part : PathPart} (h : name ∈ climb kept part) :
    name ∈ kept ∨ part = .name name := by
  cases part with
  | root => cases h
  | here => exact Or.inl h
  | up => exact Or.inl (List.mem_of_mem_tail h)
  | name piece =>
    obtain rfl | hkept := List.mem_cons.mp h
    · exact Or.inr rfl
    · exact Or.inl hkept

theorem isName_of_mem_names (h : name ∈ p.names) : IsName name := by
  have hfold : ∀ (parts : List PathPart) (kept : List Bytes), name ∈ parts.foldl climb kept →
      name ∈ kept ∨ .name name ∈ parts := by
    intro parts
    induction parts with
    | nil => exact fun kept hkept => Or.inl hkept
    | cons part parts ih =>
      intro kept hmem
      obtain hclimb | hrest := ih _ hmem
      · obtain hkept | rfl := mem_climb hclimb
        · exact Or.inl hkept
        · exact Or.inr List.mem_cons_self
      · exact Or.inr (List.mem_cons_of_mem _ hrest)
  rw [FilePath.names, List.mem_reverse] at h
  exact isName_of_mem_parts ((hfold _ _ h).resolve_left List.not_mem_nil)

/-! ## Components after the root -/

/-- The components of a path whose pieces all stand inside it. -/
def innerParts (p : FilePath) : List PathPart :=
  (pieces p.bytes).filterMap partOf?

theorem parts_of_isAbsolute (h : p.isAbsolute = true) : p.parts = .root :: p.innerParts := by
  rw [parts, if_pos h, innerParts]

theorem innerParts_append_separator (front back : Bytes) :
    innerParts ⟨front ++ separator :: back⟩ = innerParts ⟨front⟩ ++ innerParts ⟨back⟩ := by
  have hpieces : pieces (front ++ separator :: back) = pieces front ++ pieces back :=
    List.splitOn_append_cons_self front back
  rw [innerParts, hpieces, List.filterMap_append, innerParts, innerParts]

/-! ## Names that are spelled -/

theorem isAbsolute_rooted (h : listed ≠ []) : isAbsolute ⟨rooted listed⟩ = true := by
  cases listed with
  | nil => exact absurd rfl h
  | cons first rest => simp [isAbsolute, rooted]

theorem pieces_rooted (unbroken : ∀ piece ∈ listed, separator ∉ piece) :
    pieces (rooted listed) = [] :: listed := by
  rw [pieces, List.splitOn_eq_splitOnP, rooted, ← List.nil_append (List.flatMap _ _)]
  apply @splitOnP_append_flatMap _ (· == separator) _ (beq_self_eq_true _)
  intro piece hpiece byte hbyte
  obtain rfl | hpiece := List.mem_cons.mp hpiece
  · cases hbyte
  · rw [beq_eq_false_iff_ne]
    rintro rfl
    exact unbroken piece hpiece hbyte

theorem parts_rooted (hne : listed ≠ []) (unbroken : ∀ piece ∈ listed, separator ∉ piece) :
    parts ⟨rooted listed⟩ = .root :: listed.filterMap partOf? := by
  rw [parts_of_isAbsolute (isAbsolute_rooted hne), innerParts, pieces_rooted unbroken]
  rfl

theorem foldl_climb_names (names kept : List Bytes) :
    (names.map PathPart.name).foldl climb kept = names.reverse ++ kept := by
  induction names generalizing kept with
  | nil => rfl
  | cons name names ih => simp [climb, ih]

/-- The components of the path that names spell are these names, after the root. -/
theorem parts_rooted_names (hne : names ≠ []) (h : ∀ name ∈ names, IsName name) :
    parts ⟨rooted names⟩ = .root :: names.map .name := by
  have hparts : names.filterMap partOf? = names.map PathPart.name := by
    rw [← List.filterMap_eq_map]
    exact List.filterMap_congr fun name hname => partOf?_of_isName (h name hname)
  rw [parts_rooted hne fun name hname => (h name hname).unbroken, hparts]

/-- A path without dots and parent steps has its own names. -/
theorem names_of_parts (h : p.parts = .root :: names.map .name) : p.names = names := by
  rw [FilePath.names, h, List.foldl_cons, foldl_climb_names]
  simp [climb]

theorem isAbsolute_append (h : isAbsolute ⟨bytes⟩ = true) (more : Bytes) :
    isAbsolute ⟨bytes ++ more⟩ = true := by
  cases bytes with
  | nil => cases h
  | cons first rest => exact h

/-- A separator at the end of an absolute path adds nothing to it. -/
theorem parts_append_separator (h : isAbsolute ⟨bytes⟩ = true) :
    parts ⟨bytes ++ [separator]⟩ = parts ⟨bytes⟩ := by
  have hempty : innerParts ⟨[]⟩ = [] := rfl
  rw [parts_of_isAbsolute (isAbsolute_append h _), parts_of_isAbsolute h,
    innerParts_append_separator, hempty, List.append_nil]

/-! ## Parents -/

theorem partOf?_eq_none_iff : partOf? piece = none ↔ piece = [] ∨ piece = dot := by
  unfold partOf?
  grind

theorem dropIdle_subset (body : List Bytes) : dropIdle body ⊆ body :=
  (List.rdropWhile_prefix _ body).subset

theorem dropIdle_concat (body : List Bytes) (piece : Bytes) :
    dropIdle (body ++ [piece]) =
      if partOf? piece = none then dropIdle body else body ++ [piece] := by
  have hconcat := List.rdropWhile_concat
    (fun piece : Bytes => decide (piece = [] ∨ piece = dot)) body piece
  exact hconcat.trans (if_congr (by rw [decide_eq_true_eq, partOf?_eq_none_iff]) rfl rfl)

/-- What is left after dropping ends in a piece that leaves a component. -/
theorem dropIdle_cases (body : List Bytes) :
    dropIdle body = [] ∨
      ∃ front last part, dropIdle body = front ++ [last] ∧ partOf? last = some part := by
  induction body using List.reverseRecOn with
  | nil => exact Or.inl rfl
  | append_singleton body piece ih =>
    rw [dropIdle_concat]
    cases hpart : partOf? piece with
    | none =>
      rw [if_pos rfl]
      exact ih
    | some part =>
      rw [if_neg (Option.some_ne_none part)]
      exact Or.inr ⟨body, piece, part, rfl, hpart⟩

/-- What is dropped leaves no component. -/
theorem filterMap_dropIdle (body : List Bytes) :
    (dropIdle body).filterMap partOf? = body.filterMap partOf? := by
  induction body using List.reverseRecOn with
  | nil => rfl
  | append_singleton body piece ih =>
    rw [dropIdle_concat]
    split
    · next hpart =>
      rw [ih, List.filterMap_append, List.filterMap_cons_none hpart, List.filterMap_nil,
        List.append_nil]
    · rfl

/-- The parent of an absolute path has its components but for the last; the root has none. -/
theorem parent?_of_isAbsolute (h : p.isAbsolute = true) :
    p.parent?.map parts =
      if p.innerParts = [] then none else some (.root :: p.innerParts.dropLast) := by
  obtain ⟨body, hpieces⟩ : ∃ body, pieces p.bytes = [] :: body := by
    obtain ⟨bytes⟩ := p
    cases bytes with
    | nil => cases h
    | cons first rest =>
      obtain rfl : first = separator := by simpa [isAbsolute] using h
      exact ⟨pieces rest, List.splitOn_append_cons_self [] rest⟩
  have hinner : p.innerParts = (dropIdle body).filterMap partOf? := by
    rw [filterMap_dropIdle, innerParts, hpieces]
    rfl
  unfold parent?
  simp only [h, hpieces]
  obtain hnil | ⟨front, last, part, hkept, hpart⟩ := dropIdle_cases body
  · rw [hinner, hnil]
    rfl
  · have hparts : p.innerParts = front.filterMap partOf? ++ [part] := by
      rw [hinner, hkept, List.filterMap_append, List.filterMap_cons_some hpart,
        List.filterMap_nil]
    have hunbroken : ∀ piece ∈ dropIdle front, separator ∉ piece := by
      intro piece hpiece
      have hbody : piece ∈ body := by
        apply dropIdle_subset body
        rw [hkept]
        exact List.mem_append_left _ (dropIdle_subset front hpiece)
      exact separator_not_mem_of_mem_pieces (hpieces ▸ List.mem_cons_of_mem _ hbody)
    rw [hparts, if_neg (by simp), List.dropLast_concat, hkept, ← filterMap_dropIdle front]
    split
    · next hnil => exact absurd hnil (by simp)
    · rw [List.dropLast_concat]
      split
      · next hnil =>
        rw [hnil]
        rfl
      · next hne => rw [Option.map_some, parts_rooted hne hunbroken]

end FilePath

end SettingsBroker
