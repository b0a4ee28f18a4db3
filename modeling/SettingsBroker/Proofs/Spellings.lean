/-
# Spellings of one path

Which paths share a document is said here without the walk that finds their names.  The
components of a path are settled one at a time: a dot goes anywhere, a parent step goes with the
name right before it, and a parent step right after the root goes alone.  In whatever order this
is done, a list that begins at the root ends in one list of names.

Two paths have one document exactly if their components, seen from the current directory, settle
to the same names.  The document gives these names back whatever their bytes are, since no name
is lost in the encoded text and no separator at its end adds one.
-/

import Mathlib.Logic.Relation
import SettingsBroker.Proofs.Document

namespace SettingsBroker

open Relation
open Text (Bytes)

/-! ## Settling components -/

/-- One component is taken out, and a name with it where a parent step leads out of it. -/
inductive Shortens : List PathPart → List PathPart → Prop where
  /-- A dot stays where it is. -/
  | dot (front back : List PathPart) : Shortens (front ++ .here :: back) (front ++ back)
  /-- A parent step takes the name before it away. -/
  | climb (front back : List PathPart) (name : Bytes) :
    Shortens (front ++ .name name :: .up :: back) (front ++ back)
  /-- Nothing is above the root. -/
  | top (back : List PathPart) : Shortens (.root :: .up :: back) (.root :: back)

/-- Components that can be shortened until nothing but the root and names is left. -/
def Settles (parts : List PathPart) (names : List Bytes) : Prop :=
  ReflTransGen Shortens parts (.root :: names.map .name)

section Settling

variable {parts shorter : List PathPart} {names : List Bytes}

/-- What is taken out makes no difference to the names that a walk keeps. -/
theorem Shortens.foldl_climb (h : Shortens parts shorter) (kept : List Bytes) :
    parts.foldl FilePath.climb kept = shorter.foldl FilePath.climb kept := by
  cases h with
  | dot front back => simp only [List.foldl_append, List.foldl_cons, FilePath.climb]
  | climb front back name =>
    simp only [List.foldl_append, List.foldl_cons, FilePath.climb, List.tail_cons]
  | top back => rfl

theorem foldl_climb_of_shortens (h : ReflTransGen Shortens parts shorter) (kept : List Bytes) :
    parts.foldl FilePath.climb kept = shorter.foldl FilePath.climb kept := by
  induction h with
  | refl => rfl
  | tail _ hlast ih => rw [ih, hlast.foldl_climb kept]

/-- A walk is a way to settle: the names it has kept stand before what is still to come. -/
theorem shortens_foldl_climb (hroot : .root ∉ parts) (kept : List Bytes) :
    ReflTransGen Shortens (.root :: (kept.reverse.map .name ++ parts))
      (.root :: (parts.foldl FilePath.climb kept).reverse.map .name) := by
  -- over what is still to come: each component is the first one that can be taken out
  induction parts generalizing kept with
  | nil => rw [List.append_nil, List.foldl_nil]
  | cons part parts ih =>
    have hpart := List.ne_of_not_mem_cons hroot
    specialize ih (List.not_mem_of_not_mem_cons hroot)
    rw [List.foldl_cons]
    cases part with
    | root => exact absurd rfl hpart
    | here =>
      exact (ih kept).head (.dot (.root :: kept.reverse.map .name) parts)
    | up =>
      cases kept with
      | nil => exact (ih []).head (.top parts)
      | cons last kept =>
        rw [List.reverse_cons, List.map_append, List.append_assoc]
        exact (ih kept).head (.climb (.root :: kept.reverse.map .name) parts last)
    | name piece =>
      have hkept := ih (piece :: kept)
      rw [List.reverse_cons, List.map_append, List.append_assoc] at hkept
      exact hkept

/-- Components after the root settle in one way only, to the names that a walk over them keeps. -/
theorem settles_iff (hroot : .root ∉ parts) :
    Settles (.root :: parts) names ↔ names = (parts.foldl FilePath.climb []).reverse := by
  constructor
  · intro h
    have hfold := foldl_climb_of_shortens h []
    rw [List.foldl_cons, List.foldl_cons, FilePath.foldl_climb_names] at hfold
    simp only [FilePath.climb, List.append_nil] at hfold
    rw [hfold, List.reverse_reverse]
  · rintro rfl
    exact shortens_foldl_climb hroot []

end Settling

/-! ## Components seen from a directory -/

namespace FilePath

variable {current p : FilePath} {names : List Bytes}

/-- The components of a path, after those of the current directory unless it is absolute. -/
def seenFrom (p current : FilePath) : List PathPart :=
  if p.isAbsolute then p.parts else current.parts ++ p.parts

theorem root_not_mem_innerParts (p : FilePath) : .root ∉ p.innerParts := by
  intro h
  obtain ⟨piece, -, hpart⟩ := List.mem_filterMap.mp h
  unfold partOf? at hpart
  grind

/-- A relative path may have a dot in front, where it would have none further inside. -/
theorem parts_of_not_isAbsolute (h : ¬ p.isAbsolute = true) :
    p.parts = p.innerParts ∨ p.parts = .here :: p.innerParts := by
  rw [parts, if_neg h, innerParts]
  cases pieces p.bytes with
  | nil => exact Or.inl rfl
  | cons first rest =>
    dsimp only
    split
    · next hdot =>
      have hnone : partOf? first = none := if_pos (Or.inr hdot)
      rw [List.filterMap_cons_none hnone]
      exact Or.inr rfl
    · left
      cases hpart : partOf? first with
      | none => rw [List.filterMap_cons_none hpart, Option.toList_none, List.nil_append]
      | some part => rw [List.filterMap_cons_some hpart, Option.toList_some, List.singleton_append]

/-- A join writes a separator between the two paths unless there is one. -/
theorem join_cases (hcurrent : current.isAbsolute = true) (h : ¬ p.isAbsolute = true) :
    ∃ front, current.join p = ⟨front ++ separator :: p.bytes⟩ ∧
      (current.bytes = front ∨ current.bytes = front ++ [separator]) := by
  rw [join, if_neg h]
  cases hlast : current.bytes.getLast? with
  | none =>
    rw [isAbsolute, List.getLast?_eq_none_iff.mp hlast] at hcurrent
    cases hcurrent
  | some last =>
    dsimp only
    split
    · next hseparator =>
      obtain ⟨front, hfront⟩ := List.getLast?_eq_some_iff.mp hlast
      rw [beq_iff_eq.mp hseparator] at hfront
      exact ⟨front, by rw [hfront, List.append_assoc, List.singleton_append], Or.inr hfront⟩
    · exact ⟨current.bytes, rfl, Or.inl rfl⟩

/-- A relative path brings its components with it, but for a dot in front. -/
theorem parts_join (hcurrent : current.isAbsolute = true) (h : ¬ p.isAbsolute = true) :
    (current.join p).parts = current.parts ++ p.innerParts := by
  obtain ⟨bytes⟩ := current
  obtain ⟨front, hjoin, hbytes⟩ := join_cases hcurrent h
  obtain ⟨hfront, hjoined⟩ : innerParts ⟨bytes⟩ = innerParts ⟨front⟩ ∧
      isAbsolute ⟨front ++ separator :: p.bytes⟩ = true := by
    obtain rfl | rfl := hbytes
    · exact ⟨rfl, isAbsolute_append hcurrent _⟩
    · have hempty : innerParts ⟨[]⟩ = [] := rfl
      refine ⟨by rw [innerParts_append_separator, hempty, List.append_nil], ?_⟩
      rw [← List.singleton_append, ← List.append_assoc]
      exact isAbsolute_append hcurrent _
  rw [hjoin, parts_of_isAbsolute hjoined, parts_of_isAbsolute hcurrent,
    innerParts_append_separator, hfront, List.cons_append]

/-- The components seen from a directory begin at the root, and a walk over them keeps the names
of the path made absolute. -/
theorem exists_seenFrom (p : FilePath) (hcurrent : current.isAbsolute = true) :
    ∃ rest, p.seenFrom current = .root :: rest ∧ .root ∉ rest ∧
      (absolute current p).names = (rest.foldl climb []).reverse := by
  by_cases h : p.isAbsolute = true
  · rw [seenFrom, if_pos h, absolute, if_pos h, FilePath.names, parts_of_isAbsolute h]
    exact ⟨p.innerParts, rfl, root_not_mem_innerParts p, rfl⟩
  · rw [seenFrom, if_neg h, absolute, if_neg h, FilePath.names, parts_join hcurrent h,
      parts_of_isAbsolute hcurrent]
    refine ⟨current.innerParts ++ p.parts, rfl, ?_, ?_⟩
    · have hfront := root_not_mem_innerParts current
      have hback := root_not_mem_innerParts p
      obtain hparts | hparts := parts_of_not_isAbsolute h <;> simp [hparts, hfront, hback]
    · obtain hparts | hparts := parts_of_not_isAbsolute h
      · rw [hparts]
        rfl
      · rw [hparts, (Shortens.dot current.innerParts p.innerParts).foldl_climb []]
        rfl

/-- The components of a path seen from a directory settle in one way. -/
theorem settles_seenFrom_iff (hcurrent : current.isAbsolute = true) :
    Settles (p.seenFrom current) names ↔ names = (absolute current p).names := by
  obtain ⟨rest, hseen, hroot, hnames⟩ := exists_seenFrom p hcurrent
  rw [hseen, settles_iff hroot, hnames]

/-- The normal form of a path has the root and its names for components. -/
theorem parts_normal (current p : FilePath) :
    (normal current p).parts = .root :: (absolute current p).names.map .name := by
  have hnames : ∀ name ∈ (absolute current p).names, IsName name := fun _ => isName_of_mem_names
  rw [normal]
  cases hlist : (absolute current p).names with
  | nil => decide
  | cons name names =>
    rw [hlist] at hnames
    exact parts_rooted_names (List.cons_ne_nil name names) hnames

end FilePath

/-! ## Documents of paths -/

namespace PathPart

/-- How a component is spelled. -/
def spelling : PathPart → Bytes
  | root => [FilePath.separator]
  | here => FilePath.dot
  | up => FilePath.dots
  | name bytes => bytes

end PathPart

namespace Document

/-- The document that a path is written as, component by component; only an absolute path can
be. -/
def written? (p : FilePath) : Option Document :=
  match p.parts with
  | .root :: rest => some (ofNames (rest.map PathPart.spelling))
  | _ => none

theorem written?_normal (current p : FilePath) :
    written? (FilePath.normal current p) = some (ofPath current p) := by
  have hspelled (names : List Bytes) : (names.map PathPart.name).map PathPart.spelling = names := by
    rw [List.map_map]
    exact List.map_id names
  rw [written?, FilePath.parts_normal]
  dsimp only
  rw [hspelled, ofPath]

/-- Every path has a document, which is that of its settled names: seen from one current
directory, two paths have one document exactly if they settle to the same names.  The document's
path is the normal form of the path, and the document of that is the same again. -/
theorem ofPath_eq_iff_settles (current : FilePath) (hcurrent : current.isAbsolute = true) :
    (∀ p : FilePath, ∃ names,
      (∀ listed, Settles (p.seenFrom current) listed ↔ listed = names) ∧
      written? (FilePath.normal current p) = some (ofPath current p) ∧
      (FilePath.normal current p).parts = .root :: names.map .name ∧
      ∃ found, (ofPath current p).path? = some found ∧
        found.parts = .root :: names.map .name ∧
        ∀ other, written? (FilePath.normal other found) = some (ofPath current p)) ∧
    ∀ p q : FilePath, ofPath current p = ofPath current q ↔
      ∃ names, Settles (p.seenFrom current) names ∧ Settles (q.seenFrom current) names := by
  constructor
  · intro p
    have hnames := names_isName (FilePath.absolute current p)
    obtain ⟨found, hfound, hparts⟩ := path?_parts_ofNames hnames
    refine ⟨_, fun listed => FilePath.settles_seenFrom_iff hcurrent, written?_normal current p,
      FilePath.parts_normal current p, found, hfound, hparts, fun other => ?_⟩
    rw [written?_normal, ofPath, FilePath.absolute, if_pos (isAbsolute_of_path? hfound),
      FilePath.names_of_parts hparts, ofPath]
  · intro p q
    constructor
    · intro h
      have hnames := ofNames_inj (names_isName _) (names_isName _) h
      exact ⟨_, (FilePath.settles_seenFrom_iff hcurrent).mpr rfl,
        (FilePath.settles_seenFrom_iff hcurrent).mpr hnames⟩
    · rintro ⟨names, hp, hq⟩
      rw [FilePath.settles_seenFrom_iff hcurrent] at hp hq
      rw [ofPath, ofPath, ← hp, ← hq]

/-- A relative path that climbs past the root, with a byte that is no text, a percent sign and a
tab in one name and a drive for the last, and another spelling of it. -/
theorem ofPath_eq_iff_settles_climbing :
    let current := FilePath.ofString "/work/src"
    let odd : Bytes := [0xFF, 0x25, 0x09]
    let p : FilePath := ⟨Text.utf8 ".././../../" ++ odd ++ Text.utf8 "/./D:"⟩
    let q : FilePath := ⟨Text.utf8 "//" ++ odd ++ Text.utf8 "/x/..//D:/"⟩
    current.isAbsolute = true ∧ ofPath current p = ⟨"file:///%FF%25%09/D:"⟩ ∧
      (∃ names, Settles (p.seenFrom current) names ∧ Settles (q.seenFrom current) names) ∧
      ∃ found, (⟨"file:///%FF%25%09/D:"⟩ : Document).path? = some found ∧
        found.parts = [.root, .name odd, .name [0x44, 0x3A]] := by
  intro current odd p q
  have hcurrent : current.isAbsolute = true := by decide +kernel
  have hp : ofPath current p = ⟨"file:///%FF%25%09/D:"⟩ := by decide +kernel
  have hq : ofPath current q = ⟨"file:///%FF%25%09/D:"⟩ := by decide +kernel
  have hnormal : (FilePath.normal current p).parts =
      [.root, .name odd, .name [0x44, 0x3A]] := by decide +kernel
  obtain ⟨hdocument, hsame⟩ := ofPath_eq_iff_settles current hcurrent
  obtain ⟨names, -, -, hparts, found, hfound, hnames, -⟩ := hdocument p
  rw [hp] at hfound
  exact ⟨hcurrent, hp, (hsame p q).mp (hp.trans hq.symm), found, hfound,
    hnames.trans (hparts.symm.trans hnormal)⟩

end Document

end SettingsBroker
