/-
# Documents and their text

A document is kept as a text, and the same document is to be found again from that text. For a
document with a path this leads through the reader of URIs: the text is read, the segments are
decoded into a path, the path is brought into normal form and written again. The document of a path
comes back from this unchanged, whatever its names are made of. Every document with a path that was
read from a text is the document of that path, and so it comes back as well.

The normal form of a document is the document of its path, or the document itself if it has none.
Reading a text yields normal forms only.
-/

import SettingsBroker.Document
import SettingsBroker.Proofs.Uri.LocalFile

namespace SettingsBroker

open Text (Bytes)
open FilePath (IsName)
open Uri (IsFile IsSegment joined segmentOf)

namespace Document

variable {names : List Bytes} {uri : Uri} {kept : List String} {host : Uri.Host}
variable {document : Document} {body : List Char}

/-! ## Finding the path in the text -/

theorem pathText_of_text (h : document.text.toList = "file://".toList ++ '/' :: body) :
    document.pathText = ('/' :: body).takeWhile fun c => !Uri.isPathEnd c := by
  unfold pathText
  rw [h]
  rfl

theorem isPrefixOf_text_iff {rest : List Char}
    (h : document.text.toList = "file://".toList ++ rest) :
    "file:///".toList.isPrefixOf document.text.toList = true ↔ ∃ body, rest = '/' :: body := by
  have hfront : "file:///".toList = "file://".toList ++ ['/'] := rfl
  rw [List.isPrefixOf_iff_prefix, h, hfront, List.prefix_append_right_inj]
  constructor
  · rintro ⟨body, rfl⟩
    exact ⟨body, rfl⟩
  · rintro ⟨body, rfl⟩
    exact ⟨body, rfl⟩

theorem splitOn_joined (hne : kept ≠ []) (h : ∀ text ∈ kept, IsSegment text) :
    ((joined kept).drop 1).splitOn '/' = kept.map String.toList := by
  obtain ⟨first, rest, rfl⟩ := List.exists_cons_of_ne_nil hne
  have hjoined : (joined (first :: rest)).drop 1 =
      first.toList ++ (rest.map String.toList).flatMap ('/' :: ·) := by
    rw [joined, List.flatMap_cons, List.cons_append, List.drop_one, List.tail_cons,
      List.flatMap_map]
  rw [hjoined, List.splitOn_eq_splitOnP, List.map_cons]
  apply @splitOnP_append_flatMap _ (· == '/') _ (beq_self_eq_true _)
  intro letters hletters c hc
  rw [← List.map_cons] at hletters
  obtain ⟨text, htext, rfl⟩ := List.mem_map.mp hletters
  rw [beq_eq_false_iff_ne]
  exact (h text htext c hc).1

theorem takeWhile_joined (h : ∀ text ∈ kept, IsSegment text) :
    (joined kept ++ uri.ending.toList).takeWhile (fun c => !Uri.isPathEnd c) = joined kept := by
  rw [List.takeWhile_append_of_pos, uri.takeWhile_ending, List.append_nil]
  intro c hc
  obtain ⟨text, htext, hc⟩ := List.mem_flatMap.mp hc
  obtain rfl | hc := List.mem_cons.mp hc
  · rfl
  · rw [(h text htext c hc).2]
    rfl

/-- The path of a file's URI is found in its text. -/
theorem path?_of_isFile (h : IsFile uri host kept) : (ofUri uri).path? = pathOfUri? uri := by
  have htext : (ofUri uri).text.toList =
      "file://".toList ++ (host.text.toList ++ (joined kept ++ uri.ending.toList)) :=
    Uri.text_of_isFile h
  obtain ⟨body, hbody⟩ : ∃ body, joined kept = '/' :: body := by
    obtain ⟨first, rest, rfl⟩ := List.exists_cons_of_ne_nil h.ne_nil
    exact ⟨_, rfl⟩
  have hpath : pathOfUri? uri =
      if host.isEmpty then some (pathOfSegments (kept.map String.toList)) else none := by
    rw [pathOfUri?, h.scheme, h.authority, h.path]
    rfl
  obtain rfl | ⟨c, tail, hhost, hslash⟩ := h.begins
  · have hempty : (Uri.Host.name "").text.toList = [] := rfl
    rw [hempty, List.nil_append] at htext
    have hfound : (ofUri uri).pathText = joined kept := by
      have htext' := htext
      rw [hbody, List.cons_append] at htext'
      rw [pathText_of_text htext', ← List.cons_append, ← hbody]
      exact takeWhile_joined h.segments
    rw [path?, if_pos ((isPrefixOf_text_iff htext).mpr ⟨_, by rw [hbody]; rfl⟩), hfound,
      splitOn_joined h.ne_nil h.segments, hpath]
    rfl
  · rw [path?, if_neg, hpath, if_neg]
    · intro hempty
      rw [Uri.Host.isEmpty, decide_eq_true_eq] at hempty
      rw [hempty] at hhost
      cases hhost
    · rw [isPrefixOf_text_iff htext, hhost]
      rintro ⟨body, hbody⟩
      exact hslash (List.cons.inj hbody).1

/-- A text up to its first colon, such as the scheme of a URI. -/
theorem takeWhile_colon {front : List Char} (h : ':' ∉ front) (rest : List Char) :
    (front ++ ':' :: rest).takeWhile (· ≠ ':') = front := by
  rw [List.takeWhile_append_of_pos]
  · simp
  · intro c hc
    have hother : c ≠ ':' := fun heq => h (heq ▸ hc)
    simpa using hother

theorem path?_of_not_file (h : uri.scheme ≠ "file" ∧ ':' ∉ uri.scheme.toList) :
    (ofUri uri).path? = none ∧ pathOfUri? uri = none := by
  obtain ⟨rest, htext⟩ := Uri.exists_text_eq uri
  constructor
  · rw [path?, if_neg]
    rw [List.isPrefixOf_iff_prefix]
    rintro ⟨body, hbody⟩
    apply h.1
    have hfront : "file:///".toList ++ body = "file".toList ++ ':' :: ("///".toList ++ body) := rfl
    have htext : (ofUri uri).text.toList = uri.scheme.toList ++ ':' :: rest := htext
    rw [hfront, htext] at hbody
    rw [← String.toList_inj, ← takeWhile_colon h.2 rest, ← hbody]
    exact takeWhile_colon (by decide) _
  · unfold pathOfUri?
    split
    · next hfile _ _ => exact absurd hfile h.1
    · rfl

theorem path?_ofUri {input : String} (h : Uri.read input = .ok uri) :
    (ofUri uri).path? = pathOfUri? uri := by
  obtain ⟨host, kept, hfile⟩ | hother := Uri.read_cases h
  · exact path?_of_isFile hfile
  · rw [(path?_of_not_file hother).1, (path?_of_not_file hother).2]

/-! ## The document of a path -/

/-- The segments that names are written as; the root is one that is empty. -/
def segmentsOf (names : List Bytes) : List String :=
  match names with
  | [] => [""]
  | _ => names.map fun name => String.ofList (segmentOf name)

/-- The URI of the file at a path. -/
def uriOf (names : List Bytes) : Uri :=
  ⟨"file", some Uri.localAuthority, .segments (segmentsOf names), none, none⟩

theorem segmentsOf_of_ne_nil (h : names ≠ []) :
    segmentsOf names = names.map fun name => String.ofList (segmentOf name) := by
  cases names with
  | nil => exact absurd rfl h
  | cons name names => rfl

theorem isFile_uriOf (names : List Bytes) : IsFile (uriOf names) (.name "") (segmentsOf names) where
  scheme := rfl
  authority := rfl
  path := rfl
  begins := Or.inl rfl
  ne_nil := by
    cases names <;> exact List.cons_ne_nil _ _
  segments := by
    intro text htext c hc
    cases names with
    | nil =>
      rw [List.mem_singleton.mp htext] at hc
      cases hc
    | cons name names =>
      obtain ⟨name, -, rfl⟩ := List.mem_map.mp htext
      rw [String.toList_ofList] at hc
      obtain ⟨-, -, hslash, hend, -⟩ :=
        Uri.plain_of_isNameCharacter (Text.isNameCharacter_of_mem hc)
      refine ⟨?_, hend⟩
      rintro rfl
      cases hslash

theorem joined_segmentsOf (h : names ≠ []) :
    joined (segmentsOf names) = names.flatMap encodeName := by
  rw [segmentsOf_of_ne_nil h, joined, List.flatMap_map]
  apply List.flatMap_congr
  intro name _
  rw [String.toList_ofList, encodeName, segmentOf]

theorem ofUri_uriOf (names : List Bytes) : ofUri (uriOf names) = ofNames names := by
  have htext : (uriOf names).text.toList = "file://".toList ++ joined (segmentsOf names) := by
    rw [Uri.text_of_isFile (isFile_uriOf names)]
    have hending : (uriOf names).ending.toList = [] := rfl
    have hhost : (Uri.Host.name "").text.toList = [] := rfl
    rw [hending, hhost, List.nil_append, List.append_nil]
  rw [ofUri, ← String.ofList_toList (s := (uriOf names).text), htext]
  cases names with
  | nil => rfl
  | cons name names =>
    rw [joined_segmentsOf (List.cons_ne_nil _ _), String.ofList_append, String.ofList_toList]
    rfl

theorem pathOfSegments_cases (segments : List (List Char)) :
    let bytes := FilePath.rooted
      (segments.map fun segment => Text.percentDecode (Text.utf8 (String.ofList segment)))
    pathOfSegments segments = ⟨bytes⟩ ∨
      pathOfSegments segments = ⟨bytes ++ [FilePath.separator]⟩ := by
  intro bytes
  have hbytes : bytes = segments.flatMap fun segment =>
      FilePath.separator :: Text.percentDecode (Text.utf8 (String.ofList segment)) :=
    List.flatMap_map ..
  unfold pathOfSegments
  rw [← hbytes]
  dsimp only
  split
  · split
    · exact Or.inr rfl
    · exact Or.inl rfl
  · exact Or.inl rfl

theorem parts_pathOfSegments (h : ∀ name ∈ names, IsName name) :
    (pathOfSegments ((segmentsOf names).map String.toList)).parts = .root :: names.map .name := by
  obtain ⟨listed, hlisted, hdecode, hparts⟩ : ∃ listed : List Bytes, listed ≠ [] ∧
      ((segmentsOf names).map String.toList).map (fun segment =>
        Text.percentDecode (Text.utf8 (String.ofList segment))) = listed ∧
      FilePath.parts ⟨FilePath.rooted listed⟩ = .root :: names.map .name := by
    cases names with
    | nil => exact ⟨[[]], List.cons_ne_nil _ _, by decide +kernel, by decide +kernel⟩
    | cons name names =>
      refine ⟨name :: names, List.cons_ne_nil _ _, ?_, FilePath.parts_rooted_names (by simp) h⟩
      rw [segmentsOf_of_ne_nil (List.cons_ne_nil _ _), List.map_map, List.map_map]
      have hname : ((fun segment => Text.percentDecode (Text.utf8 (String.ofList segment))) ∘
          String.toList) ∘ (fun name => String.ofList (segmentOf name)) = id := by
        funext name
        simp only [Function.comp_apply, String.toList_ofList, Uri.decode_segmentOf, id]
      rw [hname, List.map_id]
  obtain hpath | hpath := pathOfSegments_cases ((segmentsOf names).map String.toList)
  · rw [hpath, hdecode, hparts]
  · rw [hpath, hdecode, FilePath.parts_append_separator (FilePath.isAbsolute_rooted hlisted),
      hparts]

theorem names_pathOfSegments (h : ∀ name ∈ names, IsName name) :
    (pathOfSegments ((segmentsOf names).map String.toList)).names = names :=
  FilePath.names_of_parts (parts_pathOfSegments h)

theorem isFileCharacter_of_mem {c : Char} (h : c ∈ names.flatMap encodeName) :
    Uri.IsFileCharacter c := by
  obtain ⟨name, -, hc⟩ := List.mem_flatMap.mp h
  obtain rfl | hc := List.mem_cons.mp hc
  · exact Or.inr rfl
  · exact Or.inl (Text.isNameCharacter_of_mem hc)

/-- The text of a path's document is read as the URI of the file at the path. -/
theorem read_ofNames (h : ∀ name ∈ names, IsName name) :
    Uri.read (ofNames names).text = .ok (uriOf names) := by
  cases names with
  | nil =>
    have hempty : ∀ c ∈ ([] : List Char), Uri.IsFileCharacter c := fun c hc => nomatch hc
    exact Uri.read_body hempty
  | cons name names =>
    have htext : (ofNames (name :: names)).text =
        String.ofList ("file:///".toList ++ (segmentOf name ++ names.flatMap encodeName)) := by
      have hnames : (ofNames (name :: names)).text =
          "file://" ++ String.ofList ((name :: names).flatMap encodeName) := rfl
      rw [hnames, ← String.toList_inj, String.toList_append]
      simp only [String.toList_ofList, List.flatMap_cons]
      rfl
    have hsplit : (segmentOf name ++ names.flatMap encodeName).splitOnP (Uri.isSlash .file) =
        (name :: names).map segmentOf := by
      have hrest : names.flatMap encodeName = (names.map segmentOf).flatMap ('/' :: ·) := by
        rw [List.flatMap_map]
        rfl
      rw [hrest, List.map_cons]
      apply splitOnP_append_flatMap rfl
      intro segment hsegment c hc
      rw [← List.map_cons] at hsegment
      obtain ⟨name, -, rfl⟩ := List.mem_map.mp hsegment
      exact (Uri.plain_of_isNameCharacter (Text.isNameCharacter_of_mem hc)).2.2.1
    rw [htext, Uri.read_body, Uri.kept_readSegments (List.cons_ne_nil _ _) h hsplit]
    · rfl
    · intro c hc
      obtain hfirst | hrest := List.mem_append.mp hc
      · exact Or.inl (Text.isNameCharacter_of_mem hfirst)
      · exact isFileCharacter_of_mem hrest

theorem pathOfUri?_uriOf (names : List Bytes) :
    pathOfUri? (uriOf names) = some (pathOfSegments ((segmentsOf names).map String.toList)) := rfl

/-- The path of a path's document is in normal form. -/
theorem path?_parts_ofNames (h : ∀ name ∈ names, IsName name) :
    ∃ path, (ofNames names).path? = some path ∧ path.parts = .root :: names.map .name := by
  refine ⟨_, ?_, parts_pathOfSegments h⟩
  rw [← ofUri_uriOf, path?_of_isFile (isFile_uriOf names), pathOfUri?_uriOf]

/-- The path of a path's document has the names of the path. -/
theorem path?_ofNames (h : ∀ name ∈ names, IsName name) :
    ∃ path, (ofNames names).path? = some path ∧ path.names = names := by
  obtain ⟨path, hpath, hparts⟩ := path?_parts_ofNames h
  exact ⟨path, hpath, FilePath.names_of_parts hparts⟩

theorem ofNames_inj {others : List Bytes} (h : ∀ name ∈ names, IsName name)
    (hothers : ∀ name ∈ others, IsName name) (heq : ofNames names = ofNames others) :
    names = others := by
  obtain ⟨path, hpath, rfl⟩ := path?_ofNames h
  obtain ⟨other, hother, rfl⟩ := path?_ofNames hothers
  rw [heq, hother] at hpath
  rw [Option.some.inj hpath]

/-- The text of a path's document is read as that document. -/
theorem parse_ofNames (h : ∀ name ∈ names, IsName name) :
    parse (ofNames names).text = .ok (ofNames names) := by
  rw [parse, read_ofNames h]
  simp only [pathOfUri?_uriOf, names_pathOfSegments h]

/-! ## Reading documents -/

theorem names_isName (path : FilePath) : ∀ name ∈ path.names, IsName name :=
  fun _ => FilePath.isName_of_mem_names

/-- What is read and what is stored come from one URI. -/
theorem parse_eq_ok {text : String} (h : Uri.read text = .ok uri) :
    parse text = .ok ((pathOfUri? uri).elim (ofUri uri) fun path => ofNames path.names) := by
  rw [parse, h]
  dsimp only
  cases pathOfUri? uri <;> rfl

/-- The document of a document's path, if it has one. -/
def normalised (document : Document) : Document :=
  document.path?.elim document fun path => ofNames path.names

theorem normalised_ofNames (h : ∀ name ∈ names, IsName name) :
    (ofNames names).normalised = ofNames names := by
  obtain ⟨path, hpath, hnames⟩ := path?_ofNames h
  rw [normalised, hpath, Option.elim_some, hnames]

theorem normalised_normalised (document : Document) :
    document.normalised.normalised = document.normalised := by
  cases hpath : document.path? with
  | none =>
    have hself : document.normalised = document := by rw [normalised, hpath, Option.elim_none]
    rw [hself, hself]
  | some path =>
    have hnames : document.normalised = ofNames path.names := by
      rw [normalised, hpath, Option.elim_some]
    rw [hnames, normalised_ofNames (names_isName path)]

/-- Reading a text gives the normal form of what the text is stored as. -/
theorem toOption_parse (text : String) :
    (parse text).toOption = (ofStored? text).map normalised := by
  cases hread : Uri.read text with
  | error refusal =>
    rw [parse, ofStored?, hread]
    rfl
  | ok uri =>
    rw [parse_eq_ok hread, ofStored?, hread, ← path?_ofUri hread]
    rfl

theorem isAbsolute_of_path? {path : FilePath} (h : document.path? = some path) :
    path.isAbsolute = true := by
  unfold path? at h
  split at h
  · obtain rfl := Option.some.inj h
    have hsegments : (document.pathText.drop 1).splitOn '/' ≠ [] := by
      rw [List.splitOn_eq_splitOnP]
      exact List.splitOnP_ne_nil _ _
    have hrooted := FilePath.isAbsolute_rooted
      (mt List.map_eq_nil_iff.mp hsegments :
        ((document.pathText.drop 1).splitOn '/').map (fun segment =>
          Text.percentDecode (Text.utf8 (String.ofList segment))) ≠ [])
    obtain hpath | hpath := pathOfSegments_cases ((document.pathText.drop 1).splitOn '/')
    · rw [hpath]
      exact hrooted
    · rw [hpath]
      exact FilePath.isAbsolute_append hrooted _
  · cases h

/-- Whatever is read as a document with a path is the document of that path. -/
theorem ofPath_path?_of_parse {text : String} {path : FilePath} (h : parse text = .ok document)
    (hpath : document.path? = some path) (current : FilePath) :
    ofPath current path = document := by
  have hstored := toOption_parse text
  rw [h] at hstored
  obtain ⟨stored, -, hnormal⟩ := Option.map_eq_some_iff.mp hstored.symm
  have hfixed : document.normalised = document := by
    rw [← hnormal, normalised_normalised]
  rw [ofPath, FilePath.absolute, if_pos (isAbsolute_of_path? hpath), ← hfixed, normalised, hpath,
    Option.elim_some]

/-- A document survives its own text.  The document of any path is read again from its text; and
so is every document with a path that was read from a text, which is the document of that path from
wherever it is seen. -/
theorem reread_from_text (current path : FilePath) (text : String) :
    parse (ofPath current path).text = .ok (ofPath current path) ∧
    ∀ document found, parse text = .ok document → document.path? = some found →
      parse document.text = .ok document ∧ ∀ elsewhere, ofPath elsewhere found = document := by
  have hpath : ∀ current path : FilePath,
      parse (ofPath current path).text = .ok (ofPath current path) :=
    fun current path => parse_ofNames (names_isName (FilePath.absolute current path))
  refine ⟨hpath current path, fun document found hparse hfound => ?_⟩
  have hdocument := ofPath_path?_of_parse hparse hfound
  refine ⟨?_, hdocument⟩
  rw [← hdocument found]
  exact hpath found found

/-- A text with idle and climbing segments, an encoded bar behind a letter, an encoded sign and a
query; its document has the bar as it is. -/
theorem reread_from_text_climbing :
    let path := FilePath.ofString "/C|/a+b.c"
    parse "file:///work/..//C%7C/./src/../a%2Bb.c?q" = .ok ⟨"file:///C|/a+b.c"⟩ ∧
      (⟨"file:///C|/a+b.c"⟩ : Document).path? = some path ∧
      parse "file:///C|/a+b.c" = .ok ⟨"file:///C|/a+b.c"⟩ ∧
      ∀ elsewhere, ofPath elsewhere path = ⟨"file:///C|/a+b.c"⟩ := by
  intro path
  have hparse : parse "file:///work/..//C%7C/./src/../a%2Bb.c?q" = .ok ⟨"file:///C|/a+b.c"⟩ := by
    decide +kernel
  have hpath : (⟨"file:///C|/a+b.c"⟩ : Document).path? = some path := by
    decide +kernel
  exact ⟨hparse, hpath, (reread_from_text path path _).2 _ path hparse hpath⟩

end Document

end SettingsBroker
