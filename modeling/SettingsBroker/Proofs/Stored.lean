/-
# Stored documents

A document can be read from its text or taken from a stored form, and the two
readings refuse the same texts. A stored document keeps its URI as it stands,
while reading a text leads through the path of the file. So the two agree where
the stored URI has no path on this host or is already the one its path is given,
and nowhere else. The sources of stored targets are stored documents.
-/

import SettingsBroker.Proofs.Document
import SettingsBroker.Stored

namespace SettingsBroker

namespace Document

variable {stored document : Document} {text : String}

/-- Storing takes a text for a document if reading it does, and reading gives its normal form. -/
theorem toOption_parse_eq_ofJson? (text : String) :
    (parse text).toOption = (ofJson? (.string (some text))).map normalised :=
  toOption_parse text

theorem ofPath_of_isAbsolute {path : FilePath} (h : path.isAbsolute = true)
    (current : FilePath) : ofPath current path = ofNames path.names := by
  rw [ofPath, FilePath.absolute, if_pos h]

/-- A document is in normal form if it has no path or is the document of a path. -/
theorem normalised_eq_self_iff :
    document.normalised = document ↔
      document.path? = none ∨ ∃ current path, document = ofPath current path := by
  constructor
  · intro h
    cases hpath : document.path? with
    | none => exact Or.inl rfl
    | some path =>
      rw [normalised, hpath, Option.elim_some] at h
      exact Or.inr ⟨path, path, by rw [ofPath_of_isAbsolute (isAbsolute_of_path? hpath), h]⟩
  · rintro (hnone | ⟨current, path, rfl⟩)
    · rw [normalised, hnone, Option.elim_none]
    · exact normalised_ofNames (names_isName _)

theorem parse_eq_ok_iff (h : ofJson? (.string (some text)) = some stored) :
    parse text = .ok stored ↔
      stored.path? = none ∨ ∃ current path, stored = ofPath current path := by
  have hread : (parse text).toOption = some stored.normalised := by
    rw [toOption_parse_eq_ofJson?, h, Option.map_some]
  rw [← normalised_eq_self_iff]
  cases hparse : parse text with
  | error failure =>
    rw [hparse] at hread
    cases hread
  | ok document =>
    rw [hparse] at hread
    rw [Except.ok.injEq, Option.some.inj hread]

/-- Whatever is taken for a stored document is a text. -/
theorem exists_text_of_ofJson? {json : Json} (h : ofJson? json = some stored) :
    ∃ text, json = .string (some text) := by
  obtain ⟨text, htext, -⟩ := Option.bind_eq_some_iff.mp h
  unfold Json.text? at htext
  split at htext
  · exact ⟨text, by rw [htext]⟩
  · cases htext

end Document

/-! ## Sources of stored targets -/

theorem exists_of_mem_mapM {α β : Type} {decode : α → Option β} {values : List α}
    {items : List β} {item : β} (h : values.mapM decode = some items) (hitem : item ∈ items) :
    ∃ value ∈ values, decode value = some item := by
  induction values generalizing items with
  | nil =>
    obtain rfl : [] = items := Option.some.inj h
    cases hitem
  | cons value values ih =>
    rw [List.mapM_cons] at h
    obtain ⟨first, hfirst, h⟩ := Option.bind_eq_some_iff.mp h
    obtain ⟨rest, hrest, h⟩ := Option.bind_eq_some_iff.mp h
    obtain rfl : first :: rest = items := Option.some.inj h
    obtain rfl | hitem := List.mem_cons.mp hitem
    · exact ⟨value, List.mem_cons_self, hfirst⟩
    · obtain ⟨value, hvalue, hdecode⟩ := ih hrest hitem
      exact ⟨value, List.mem_cons_of_mem _ hvalue, hdecode⟩

theorem exists_of_mem_list? {α : Type} {decode : Json → Option α} {json : Json} {items : List α}
    {item : α} (h : Json.list? decode json = some items) (hitem : item ∈ items) :
    ∃ value, decode value = some item := by
  unfold Json.list? at h
  split at h
  · obtain ⟨value, -, hvalue⟩ := exists_of_mem_mapM h hitem
    exact ⟨value, hvalue⟩
  · cases h

theorem exists_of_mem_withDefault {α : Type} {record : Json.Record} {name : String}
    {decode : Json → Option α} {items : List α} {item : α}
    (h : record.withDefault name [] (Json.list? decode) = some items) (hitem : item ∈ items) :
    ∃ value, decode value = some item := by
  unfold Json.Record.withDefault at h
  split at h
  · obtain rfl : [] = items := Option.some.inj h
    cases hitem
  · exact exists_of_mem_list? h hitem

namespace BuildTarget

variable {json : Json} {target : BuildTarget} {document : Document}

/-- The sources of a stored target are stored documents, each as it was written. -/
theorem exists_text_of_mem_sources (h : ofJson? json = some target)
    (hmem : document ∈ target.sources) :
    ∃ text, Document.ofJson? (.string (some text)) = some document := by
  obtain ⟨record, -, h⟩ := Option.bind_eq_some_iff.mp h
  obtain ⟨id, -, h⟩ := Option.bind_eq_some_iff.mp h
  obtain ⟨displayName, -, h⟩ := Option.bind_eq_some_iff.mp h
  obtain ⟨sources, hsources, h⟩ := Option.bind_eq_some_iff.mp h
  obtain ⟨dependencies, -, h⟩ := Option.bind_eq_some_iff.mp h
  obtain rfl := Option.some.inj h
  have hlisted : document ∈ sources := by
    rw [Std.ExtTreeSet.mem_ofList] at hmem
    simpa using hmem
  obtain ⟨value, hvalue⟩ := exists_of_mem_withDefault hsources hlisted
  obtain ⟨text, rfl⟩ := Document.exists_text_of_ofJson? hvalue
  exact ⟨text, hvalue⟩

/-- A stored target whose only source has a sign encoded that paths are written without encoding. -/
def respelled : Json :=
  .object [(some "id", .string (some "T")), (some "display_name", .string (some "T")),
    (some "sources", .array [.string (some "file:///work/./a%2Bb.c?q")])]

end BuildTarget

/-! ## Both readings -/

namespace Document

/-- Reading a text and taking it for a stored document succeed on the same texts, and what is read
is the document of the path of what is stored. The two are equal exactly if what is stored has no
path or is already the document of one. The sources of stored targets are stored documents of which
the same holds. -/
theorem stored_agrees_iff (text : String) (json : Json) :
    (parse text).toOption = (ofJson? (.string (some text))).map normalised ∧
    (∀ stored, ofJson? (.string (some text)) = some stored →
      (parse text = .ok stored ↔
        stored.path? = none ∨ ∃ current path, stored = ofPath current path)) ∧
    ∀ target, BuildTarget.ofJson? json = some target → ∀ document ∈ target.sources,
      ∃ spelled, ofJson? (.string (some spelled)) = some document ∧
        (parse spelled = .ok document ↔
          document.path? = none ∨ ∃ current path, document = ofPath current path) := by
  refine ⟨toOption_parse_eq_ofJson? text, fun stored => parse_eq_ok_iff, ?_⟩
  intro target htarget document hmem
  obtain ⟨spelled, hstored⟩ := BuildTarget.exists_text_of_mem_sources htarget hmem
  exact ⟨spelled, hstored, parse_eq_ok_iff hstored⟩

/-- A document as it is written for its path, and a stored target. -/
theorem stored_agrees_iff_respelled :
    (parse "file:///work/a+b.c" = .ok ⟨"file:///work/a+b.c"⟩ ↔
      (⟨"file:///work/a+b.c"⟩ : Document).path? = none ∨
        ∃ current path, (⟨"file:///work/a+b.c"⟩ : Document) = ofPath current path) ∧
    ∃ target, BuildTarget.ofJson? BuildTarget.respelled = some target ∧
      target.sources.toList = [⟨"file:///work/a%2Bb.c?q"⟩] ∧
      ∀ document ∈ target.sources, ∃ spelled, ofJson? (.string (some spelled)) = some document ∧
        (parse spelled = .ok document ↔
          document.path? = none ∨ ∃ current path, document = ofPath current path) := by
  have hstored : ofJson? (.string (some "file:///work/a+b.c")) = some ⟨"file:///work/a+b.c"⟩ := by
    decide +kernel
  have hsources : (BuildTarget.ofJson? BuildTarget.respelled).map (·.sources.toList) =
      some [⟨"file:///work/a%2Bb.c?q"⟩] := by
    decide +kernel
  obtain ⟨target, htarget, hlist⟩ := Option.map_eq_some_iff.mp hsources
  obtain ⟨-, hread, hdecoded⟩ := stored_agrees_iff "file:///work/a+b.c" BuildTarget.respelled
  exact ⟨hread _ hstored, target, htarget, hlist, hdecoded target htarget⟩

/-- The same text is stored as one document and read as another, and the stored one is the source
of a stored target. -/
theorem stored_not_always_parsed :
    let text := "file:///work/./a%2Bb.c?q"
    ofJson? (.string (some text)) = some ⟨"file:///work/a%2Bb.c?q"⟩ ∧
      parse text = .ok ⟨"file:///work/a+b.c"⟩ ∧
      (BuildTarget.ofJson? BuildTarget.respelled).map (·.sources.toList) =
        some [⟨"file:///work/a%2Bb.c?q"⟩] := by
  intro text
  exact ⟨by decide +kernel, by decide +kernel, by decide +kernel⟩

end Document

end SettingsBroker
