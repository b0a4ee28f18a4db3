/-
# The last usable entry counts

What a compilation database says of a document can be read off its entries as they are written.
An entry is usable if its command has at least one word.  Of the usable entries whose file is the
document, the last one gives the command, and all other entries might as well not be there.

Each entry sets at most one document (`getElem?_add`).  From this it follows which changes to the
entries leave the database as it is: leaving out an entry that is not usable, letting neighbours
for different documents change places, and spelling a file in another way.
-/

import Mathlib.Data.List.Basic
import Mathlib.Logic.Relation
import SettingsBroker.CompileDatabase

namespace SettingsBroker

/-! ## What an entry says -/

namespace CompileEntry

variable {current : FilePath} {entry again : CompileEntry} {words : List String}
  {document : Document} {command : CompileCommand}

/-- The words of an entry's command: its list, if there is one, and else its command line as it is
split. -/
inductive Calls (entry : CompileEntry) : List String → Prop where
  | listed {words : List String} : entry.arguments = some words → entry.Calls words
  | split {line : String} : entry.arguments = none → entry.command = some line →
      entry.Calls (CommandLine.split line)

/-- An entry is usable if its command names a compiler. -/
def Usable (entry : CompileEntry) : Prop :=
  ∃ compiler arguments, entry.Calls (compiler :: arguments)

/-- An entry gives the command of a document: its file is the document, the compiler is dropped,
and the rest is run in its directory. -/
def Gives (current : FilePath) (entry : CompileEntry) (document : Document)
    (command : CompileCommand) : Prop :=
  Document.ofPath current (entry.directory.join entry.file) = document ∧
    entry.directory = command.directory ∧
    ∃ compiler, entry.Calls (compiler :: command.arguments)

/-- Two entries differ at most in how their file is spelled: once their paths are absolute and
normal, these have the same names. -/
structure Respells (current : FilePath) (entry again : CompileEntry) : Prop where
  names : (FilePath.absolute current (entry.directory.join entry.file)).names =
    (FilePath.absolute current (again.directory.join again.file)).names
  directory : entry.directory = again.directory
  arguments : entry.arguments = again.arguments
  command : entry.command = again.command

theorem words_eq_cons_iff {compiler : String} {arguments : List String} :
    entry.words = compiler :: arguments ↔ entry.Calls (compiler :: arguments) := by
  obtain ⟨directory, file, listed, line⟩ := entry
  constructor
  · intro h
    cases listed with
    | some words =>
      obtain rfl : words = compiler :: arguments := h
      exact .listed rfl
    | none =>
      cases line with
      | some line =>
        obtain h : CommandLine.split line = compiler :: arguments := h
        exact h ▸ .split rfl rfl
      | none => cases h
  · intro h
    generalize hwords : compiler :: arguments = words at h
    cases h with
    | listed hlisted =>
      cases hlisted
      rfl
    | split hnone hline =>
      cases hnone
      cases hline
      rfl

theorem usable_iff : entry.Usable ↔ entry.words ≠ [] := by
  rw [List.ne_nil_iff_exists_cons]
  exact exists_congr fun _ => exists_congr fun _ => words_eq_cons_iff.symm

/-- The command that an entry gives a document, if it gives it one. -/
def given? (current : FilePath) (document : Document) (entry : CompileEntry) :
    Option CompileCommand :=
  if entry.document current = document then
    match entry.words with
    | [] => none
    | _ :: arguments => some ⟨entry.directory, arguments⟩
  else none

theorem given?_eq_some_iff :
    entry.given? current document = some command ↔ entry.Gives current document command := by
  rw [given?, Gives]
  split
  · next hdocument =>
    simp only [← words_eq_cons_iff]
    have hfile : Document.ofPath current (entry.directory.join entry.file) = document := hdocument
    obtain ⟨directory, arguments⟩ := command
    cases entry.words <;> simp [hfile]
  · next hdocument =>
    have hfile : ¬ Document.ofPath current (entry.directory.join entry.file) = document := hdocument
    simp [hfile]

theorem given?_eq_none_iff :
    entry.given? current document = none ↔ ∀ command, ¬ entry.Gives current document command := by
  rw [Option.eq_none_iff_forall_ne_some]
  exact forall_congr' fun command => not_congr given?_eq_some_iff

end CompileEntry

namespace CompileDatabase

variable {current : FilePath} {database : CompileDatabase} {entry again first second : CompileEntry}
  {entries others : List CompileEntry} {document : Document} {command : CompileCommand}

/-- An entry gives a document its command or leaves it as it is. -/
theorem getElem?_add (database : CompileDatabase) (entry : CompileEntry) (document : Document) :
    (add current database entry)[document]? =
      (entry.given? current document).or database[document]? := by
  rw [CompileEntry.given?]
  cases hwords : entry.words with
  | nil => simp [add, hwords]
  | cons compiler arguments =>
    simp only [add, hwords, Std.ExtTreeMap.getElem?_insert, Std.compare_eq_iff_eq]
    split <;> rfl

theorem getElem?_foldl_add (entries : List CompileEntry) (database : CompileDatabase)
    (document : Document) :
    (entries.foldl (add current) database)[document]? =
      (entries.reverse.findSome? (CompileEntry.given? current document)).or
        database[document]? := by
  induction entries generalizing database with
  | nil => rfl
  | cons entry entries ih =>
    rw [List.foldl_cons, ih, getElem?_add, List.reverse_cons, List.findSome?_append,
      Option.or_assoc, List.findSome?_singleton]

/-- The last usable entry for a document gives its command. -/
theorem getElem?_ofEntries_eq_some_iff :
    (ofEntries current entries)[document]? = some command ↔
      ∃ before entry after, entries = before ++ entry :: after ∧
        entry.Gives current document command ∧
        ∀ later ∈ after, ∀ other, ¬ later.Gives current document other := by
  rw [ofEntries, getElem?_foldl_add, Std.ExtTreeMap.getElem?_empty, Option.or_none,
    List.findSome?_eq_some_iff]
  constructor
  · rintro ⟨after, entry, before, hentries, hgiven, hafter⟩
    refine ⟨before.reverse, entry, after.reverse, ?_, CompileEntry.given?_eq_some_iff.mp hgiven, ?_⟩
    · simpa using congrArg List.reverse hentries
    · intro later hlater
      exact CompileEntry.given?_eq_none_iff.mp (hafter later (List.mem_reverse.mp hlater))
  · rintro ⟨before, entry, after, rfl, hgives, hafter⟩
    refine ⟨after.reverse, entry, before.reverse, by simp,
      CompileEntry.given?_eq_some_iff.mpr hgives, ?_⟩
    intro later hlater
    exact CompileEntry.given?_eq_none_iff.mpr (hafter later (List.mem_reverse.mp hlater))

/-! ## Changes that make no difference -/

/-- A change to a list of entries that concerns the order of entries for different documents, the
spelling of a file, or an entry that is not usable. -/
inductive Alters (current : FilePath) : List CompileEntry → List CompileEntry → Prop where
  /-- Neighbours for different documents change places. -/
  | swap (before after : List CompileEntry) {first second : CompileEntry} :
      first.document current ≠ second.document current →
      Alters current (before ++ first :: second :: after) (before ++ second :: first :: after)
  /-- A file is spelled in another way. -/
  | respell (before after : List CompileEntry) {entry again : CompileEntry} :
      entry.Respells current again →
      Alters current (before ++ entry :: after) (before ++ again :: after)
  /-- An entry that is not usable is left out. -/
  | leave (before after : List CompileEntry) {entry : CompileEntry} : ¬ entry.Usable →
      Alters current (before ++ entry :: after) (before ++ after)

theorem add_comm (h : first.document current ≠ second.document current) :
    add current (add current database first) second =
      add current (add current database second) first := by
  apply Std.ExtTreeMap.ext_getElem?
  intro document
  rw [getElem?_add, getElem?_add, getElem?_add, getElem?_add, ← Option.or_assoc,
    ← Option.or_assoc]
  by_cases hfirst : first.document current = document
  · have hsecond : second.given? current document = none := if_neg fun hsame =>
      h (hfirst.trans hsame.symm)
    rw [hsecond, Option.none_or, Option.or_none]
  · have hnone : first.given? current document = none := if_neg hfirst
    rw [hnone, Option.none_or, Option.or_none]

theorem add_of_respells (h : entry.Respells current again) :
    add current database entry = add current database again := by
  have hdocument : entry.document current = again.document current :=
    congrArg Document.ofNames h.names
  have hwords : entry.words = again.words := by
    rw [CompileEntry.words, CompileEntry.words, h.arguments, h.command]
  rw [add, add, hdocument, hwords, h.directory]

theorem add_of_not_usable (h : ¬ entry.Usable) : add current database entry = database := by
  have hwords : entry.words = [] := by
    rwa [CompileEntry.usable_iff, Decidable.not_not] at h
  rw [add, hwords]

theorem ofEntries_of_alters (h : Alters current entries others) :
    ofEntries current entries = ofEntries current others := by
  cases h with
  | swap before after hdocuments =>
    simp only [ofEntries, List.foldl_append, List.foldl_cons, add_comm hdocuments]
  | respell before after hrespells =>
    simp only [ofEntries, List.foldl_append, List.foldl_cons, add_of_respells hrespells]
  | leave before after hunusable =>
    simp only [ofEntries, List.foldl_append, List.foldl_cons, add_of_not_usable hunusable]

theorem ofEntries_of_eqvGen (h : Relation.EqvGen (Alters current) entries others) :
    ofEntries current entries = ofEntries current others := by
  induction h with
  | rel entries others halters => exact ofEntries_of_alters halters
  | refl entries => rfl
  | symm entries others _ ih => exact ih.symm
  | trans entries between others _ _ ihleft ihright => exact ihleft.trans ihright

/-! ## Reading a database -/

/-- The paths of the usable entries can be seen from a directory: it is the current one, or no
path is relative. -/
def Shows (here : Whereabouts) (current : FilePath) (entries : List CompileEntry) : Prop :=
  here = .ok current ∨
    ∀ entry ∈ entries, entry.Usable → (entry.directory.join entry.file).isAbsolute = true

theorem ofEntries_of_isAbsolute (other : FilePath) (h : ∀ entry ∈ entries, entry.Usable →
      (entry.directory.join entry.file).isAbsolute = true) :
    ofEntries current entries = ofEntries other entries := by
  refine List.foldl_ext _ _ _ fun database entry hentry => ?_
  by_cases husable : entry.Usable
  · have hdocument : entry.document current = entry.document other :=
      Document.ofPath_eq_of_isAbsolute (h entry hentry husable) current other
    rw [add, add, hdocument]
  · rw [add_of_not_usable husable, add_of_not_usable husable]

theorem all_isAbsolute_iff (entries : List CompileEntry) :
    ((entries.filter fun entry => !entry.words.isEmpty).map CompileEntry.path).all
        FilePath.isAbsolute = true ↔
      ∀ entry ∈ entries, entry.Usable → (entry.directory.join entry.file).isAbsolute = true := by
  simp [CompileEntry.usable_iff, CompileEntry.path, or_iff_not_imp_left]

theorem ofEntries?_of_shows {here : Whereabouts} (h : Shows here current entries) :
    ofEntries? here entries = .ok (ofEntries current entries) := by
  obtain rfl | habsolute := h
  · rfl
  · cases here with
    | ok other => exact congrArg Except.ok (ofEntries_of_isAbsolute current habsolute)
    | error cause =>
      rw [ofEntries?, Whereabouts.seeing, if_pos ((all_isAbsolute_iff entries).mpr habsolute)]
      exact congrArg Except.ok (ofEntries_of_isAbsolute current habsolute)

/-- Only where the current directory cannot be told do documents stay unknown. -/
theorem ofEntries?_eq_error_iff {here : Whereabouts} {failure : Failure} :
    ofEntries? here entries = .error failure ↔ ∃ cause, here = .error cause ∧
      failure = .io cause ∧ ∃ entry ∈ entries, entry.Usable ∧
        (entry.directory.join entry.file).isAbsolute = false := by
  have hall := all_isAbsolute_iff entries
  cases here with
  | ok current => simp [ofEntries?, Whereabouts.seeing, Except.map]
  | error cause =>
    rw [ofEntries?, Whereabouts.seeing]
    split
    · next habsolute =>
      have hnone := hall.mp habsolute
      constructor
      · nofun
      · rintro ⟨-, -, -, entry, hentry, husable, hrelative⟩
        rw [hnone entry hentry husable] at hrelative
        cases hrelative
    · next hrelative =>
      rw [hall] at hrelative
      simp only [not_forall, Bool.not_eq_true] at hrelative
      obtain ⟨entry, hentry, husable, hpath⟩ := hrelative
      constructor
      · intro h
        cases h
        exact ⟨cause, rfl, rfl, entry, hentry, husable, hpath⟩
      · rintro ⟨other, hother, rfl, -⟩
        cases hother
        rfl

theorem mem_sources_target {document : Document} : document ∈ database.target.sources ↔
    ∃ command, database[document]? = some command := by
  rw [target, Std.ExtTreeSet.mem_ofList, List.contains_iff_mem, Std.ExtTreeMap.mem_keys,
    Std.ExtTreeMap.mem_iff_isSome_getElem?, Option.isSome_iff_exists]

/-- A text that lists entries is read as a database unless a usable entry has a relative path and
the current directory cannot be told.  A document has the command that the last usable entry whose
file it is gives it, and the documents that have a command are the sources of the one target.
Other lists of entries that differ only in the order of entries for different documents, in how
files are spelled and in entries that are not usable are read as the same database. -/
theorem last_usable_entry_counts {text : String}
    (written : (Json.read text).bind (Json.list? CompileEntry.ofJson?) = some entries)
    (here : Whereabouts) :
    match parse here text with
    | .error failure => ∃ cause, here = .error cause ∧ failure = .io cause ∧
        ∃ entry ∈ entries, entry.Usable ∧ (entry.directory.join entry.file).isAbsolute = false
    | .ok database => ∀ current, Shows here current entries →
        (∀ document command, database[document]? = some command ↔
          ∃ before entry after, entries = before ++ entry :: after ∧
            entry.Gives current document command ∧
            ∀ later ∈ after, ∀ other, ¬ later.Gives current document other) ∧
        (∀ document, document ∈ database.target.sources ↔
          ∃ command, database[document]? = some command) ∧
        ∀ there other others,
          (Json.read other).bind (Json.list? CompileEntry.ofJson?) = some others →
          Shows there current others → Relation.EqvGen (Alters current) entries others →
          parse there other = .ok database := by
  rw [parse, written]
  split
  · next failure hparse => exact ofEntries?_eq_error_iff.mp hparse
  · next database hparse =>
    intro current hshows
    obtain rfl : ofEntries current entries = database :=
      Except.ok.inj ((ofEntries?_of_shows hshows).symm.trans hparse)
    refine ⟨fun document command => getElem?_ofEntries_eq_some_iff,
      fun document => mem_sources_target, ?_⟩
    intro there other others hwritten hthere halters
    rw [parse, hwritten, ofEntries_of_eqvGen halters]
    exact ofEntries?_of_shows hthere

/-- Three entries for one file, the last of them without words. -/
def overridden : String :=
  "[\x7b\"directory\": \"/w/build\", \"file\": \"../a.c\", \"command\": \"cc -DOLD\"\x7d,
    \x7b\"directory\": \"/w\", \"file\": \"./a.c\", \"arguments\": [\"cc\", \"-DNEW\"], \"command\": \"cc\"\x7d,
    \x7b\"directory\": \"/w\", \"file\": \"/w/a.c\", \"arguments\": []\x7d]"

/-- The second entry counts. -/
theorem last_usable_entry_counts_overridden :
    ∃ entries database, (Json.read overridden).bind (Json.list? CompileEntry.ofJson?) = some entries ∧
      parse (.ok (.ofString "/")) overridden = .ok database ∧
      database[(⟨"file:///w/a.c"⟩ : Document)]? = some ⟨.ofString "/w", ["-DNEW"]⟩ := by
  have hread : (Json.read overridden).bind (Json.list? CompileEntry.ofJson?) = some
      [⟨.ofString "/w/build", .ofString "../a.c", none, some "cc -DOLD"⟩,
        ⟨.ofString "/w", .ofString "./a.c", some ["cc", "-DNEW"], some "cc"⟩,
        ⟨.ofString "/w", .ofString "/w/a.c", some [], none⟩] := by
    decide +kernel
  have htold := last_usable_entry_counts hread (.ok (.ofString "/"))
  cases hparse : parse (.ok (.ofString "/")) overridden with
  | error failure =>
    rw [hparse] at htold
    obtain ⟨cause, hhere, -⟩ := htold
    cases hhere
  | ok database =>
    rw [hparse] at htold
    obtain ⟨hcommand, -⟩ := htold (.ofString "/") (.inl rfl)
    refine ⟨_, database, hread, rfl, (hcommand _ _).mpr ⟨[_], _, [_], rfl, ?_, ?_⟩⟩
    · exact CompileEntry.given?_eq_some_iff.mp (by decide +kernel)
    · intro later hlater
      rw [List.mem_singleton.mp hlater]
      exact CompileEntry.given?_eq_none_iff.mp (by decide +kernel)

end CompileDatabase

end SettingsBroker
