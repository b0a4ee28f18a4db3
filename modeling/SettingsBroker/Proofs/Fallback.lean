/-
# What fallback settings depend on

Fallback settings are computed from a document, that is, from the encoded text of its path. In terms
of the path itself they depend on two things: the extension of its last name, in which the case of
letters does not count, and the directory that it is in. The rest of the path leaves no trace in
them: neither the other names nor their bytes, and no separator that is added to a name which looks
like a drive when the text is read as a path again.
-/

import SettingsBroker.Fallback
import SettingsBroker.Proofs.Extension
import SettingsBroker.Proofs.Spellings

namespace SettingsBroker

open Text (Bytes)

variable {names : List Bytes}

/-- Two extensions that agree up to the case of letters, or two that are missing, have one
language. -/
theorem Language.elim_ofEnding_congr {extension other : Option Bytes}
    (h : extension.map (·.map Text.lowerByte) = other.map (·.map Text.lowerByte)) :
    extension.elim .other ofEnding = other.elim .other ofEnding := by
  cases extension with
  | none =>
    cases other with
    | none => rfl
    | some other => cases h
  | some ending =>
    cases other with
    | none => cases h
    | some other => exact ofEnding_congr (Option.some.inj h)

namespace FallbackOptions

section Parts

variable (options : FallbackOptions) (document : Document)

@[simp]
theorem compute_language : (options.compute document).language = Language.ofDocument document :=
  rfl

@[simp]
theorem compute_arguments : (options.compute document).arguments =
    options.arguments (Language.ofDocument document) := rfl

@[simp]
theorem compute_directory : (options.compute document).directory = directory document := rfl

@[simp]
theorem compute_isFallback : (options.compute document).isFallback = true := rfl

@[simp]
theorem compute_backend : (options.compute document).backend = none := rfl

end Parts

/-- The directory of a document is the parent of its path, or the current one for the root. -/
theorem parts_directory {document : Document} {path : FilePath}
    (h : document.path? = some path) :
    (directory document).parts =
      if path.parts.dropLast = [] then [.here] else path.parts.dropLast := by
  have habsolute := Document.isAbsolute_of_path? h
  have hparent := FilePath.parent?_of_isAbsolute habsolute
  rw [directory, h, Option.bind_some, FilePath.parts_of_isAbsolute habsolute]
  cases hinner : path.innerParts with
  | nil =>
    rw [hinner, if_pos rfl, Option.map_eq_none_iff] at hparent
    rw [hparent]
    decide +kernel
  | cons part rest =>
    rw [hinner, if_neg (List.cons_ne_nil _ _), Option.map_eq_some_iff] at hparent
    obtain ⟨parent, hfound, hparts⟩ := hparent
    rw [hfound, Option.getD_some, hparts]
    rfl

theorem parts_directory_ofPath (current p : FilePath) :
    (directory (Document.ofPath current p)).parts =
      if (FilePath.normal current p).parts.dropLast = [] then [.here]
      else (FilePath.normal current p).parts.dropLast := by
  obtain ⟨path, hpath, hparts⟩ :=
    Document.path?_parts_ofNames (Document.names_isName (FilePath.absolute current p))
  rw [FilePath.parts_normal, ← hparts]
  exact parts_directory hpath

theorem language_ofPath (current p : FilePath) :
    Language.ofDocument (Document.ofPath current p) =
      (FilePath.normal current p).extension?.elim .other Language.ofEnding := by
  rw [Document.ofPath, Language.ofDocument_ofNames (Document.names_isName _),
    FilePath.extension?_of_parts (FilePath.parts_normal current p)]

/-- Fallback settings depend on the extension and the directory of a path and on nothing else in it.
The language is that of the extension, which is what follows the last dot of the last name with
something on both sides, and is other where there is none; the working directory is the parent of
the path in normal form, or the current directory for the root.  Two paths whose extensions agree
up to the case of letters have the same language and the same arguments, and the same settings
altogether if they are in the same directory. -/
theorem settings_from_extension_and_parent (options : FallbackOptions) (current p : FilePath) :
    let normal := FilePath.normal current p
    let document := Document.ofPath current p
    (∀ ending, normal.extension? = some ending ↔
      ∃ stem, normal.parts.getLast? = some (.name (stem ++ FilePath.dotByte :: ending)) ∧
        stem ≠ [] ∧ ending ≠ [] ∧ FilePath.dotByte ∉ ending) ∧
    Language.ofDocument document = normal.extension?.elim .other Language.ofEnding ∧
    (options.compute document).directory.parts =
      (if normal.parts = [.root] then [.here] else normal.parts.dropLast) ∧
    ∀ elsewhere q : FilePath,
      (FilePath.normal elsewhere q).extension?.map (·.map Text.lowerByte) =
        normal.extension?.map (·.map Text.lowerByte) →
      let other := Document.ofPath elsewhere q
      Language.ofDocument other = Language.ofDocument document ∧
      (options.compute other).arguments = (options.compute document).arguments ∧
      ((FilePath.normal elsewhere q).parts.dropLast = normal.parts.dropLast →
        (options.compute other).same (options.compute document) = true) := by
  intro normal document
  have hdirectory := parts_directory_ofPath current p
  refine ⟨fun ending => FilePath.extension?_eq_some_iff, language_ofPath current p, ?_, ?_⟩
  · have hroot : normal.parts.dropLast = [] ↔ normal.parts = [.root] := by
      simp only [normal, FilePath.parts_normal]
      cases (FilePath.absolute current p).names <;> simp
    rw [compute_directory, hdirectory]
    exact if_congr hroot rfl rfl
  · intro elsewhere q hextension other
    have hlanguage : Language.ofDocument other = Language.ofDocument document := by
      rw [language_ofPath, language_ofPath]
      exact Language.elim_ofEnding_congr hextension
    have harguments : (options.compute other).arguments = (options.compute document).arguments := by
      rw [compute_arguments, compute_arguments, hlanguage]
    refine ⟨hlanguage, harguments, fun hparent => ?_⟩
    have hother := parts_directory_ofPath elsewhere q
    rw [hparent, ← hdirectory] at hother
    simp only [BuildSettings.same_iff, compute_language, compute_directory, compute_isFallback,
      compute_backend]
    exact ⟨harguments, hother, hlanguage, trivial, trivial⟩

/-- A relative path with an escape sign in its directory and its extension in capitals, and an
absolute one into that directory whose name is no text. -/
theorem settings_from_extension_and_parent_capitals :
    let current := FilePath.ofString "/work/src"
    let p := FilePath.ofString "../lib%2Ec/./x.tar.CPP"
    let q : FilePath := ⟨Text.utf8 "/work/lib%2Ec/" ++ [0xFF] ++ Text.utf8 ".cpp"⟩
    (FilePath.normal current q).extension?.map (·.map Text.lowerByte) =
        (FilePath.normal current p).extension?.map (·.map Text.lowerByte) ∧
      (FilePath.normal current q).parts.dropLast = (FilePath.normal current p).parts.dropLast ∧
      Language.ofDocument (Document.ofPath current p) = .cpp ∧
      (FallbackOptions.empty.compute (Document.ofPath current q)).same
        (FallbackOptions.empty.compute (Document.ofPath current p)) = true := by
  intro current p q
  have hextension : (FilePath.normal current q).extension?.map (·.map Text.lowerByte) =
      (FilePath.normal current p).extension?.map (·.map Text.lowerByte) := by decide +kernel
  have hparent : (FilePath.normal current q).parts.dropLast =
      (FilePath.normal current p).parts.dropLast := by decide +kernel
  have hcpp : (FilePath.normal current p).extension?.elim .other Language.ofEnding = .cpp := by
    decide +kernel
  obtain ⟨-, hlanguage, -, hsame⟩ := settings_from_extension_and_parent .empty current p
  exact ⟨hextension, hparent, hlanguage.trans hcpp, (hsame current q hextension).2.2 hparent⟩

end FallbackOptions

end SettingsBroker
