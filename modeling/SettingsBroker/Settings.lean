/-
# Build settings

The compiler invocation of one document: arguments, working directory and
language, with the build system that answered, or the mark that the settings
are a local guess.  Settings are values; a changed invocation is a new value.
Two values are *the same* when they agree up to the spelling of the directory.
-/

import SettingsBroker.Language

namespace SettingsBroker

/-- The build system behind an answer. -/
inductive BackendId where
  | compilationDatabase
  | packageManager
  | fallbackOnly
  /-- Any other build system, by its name. -/
  | other (name : String)
  deriving DecidableEq, Inhabited, Repr

/-- How a build system is named in messages. -/
def BackendId.display : BackendId → String
  | .compilationDatabase => "compilation-database"
  | .packageManager => "package-manager"
  | .fallbackOnly => "fallback-only"
  | .other name => name

/-- The compiler invocation of one document. -/
structure BuildSettings where
  /-- The compiler's arguments, without the compiler itself. -/
  arguments : List String
  /-- The directory that the compiler runs in. -/
  directory : FilePath
  language : Language
  /-- Whether the settings are a local guess. -/
  isFallback : Bool
  backend : Option BackendId
  deriving Inhabited, Repr

namespace BuildSettings

/-- Settings that a build system answered. -/
def answered (backend : BackendId) (language : Language) (arguments : List String)
    (directory : FilePath) : BuildSettings :=
  ⟨arguments, directory, language, false, some backend⟩

/-- Settings guessed without a build system. -/
def guessed (language : Language) (arguments : List String) (directory : FilePath) :
    BuildSettings :=
  ⟨arguments, directory, language, true, none⟩

/-- Two settings are the same when all parts agree and the directories have
the same components. -/
def same (a b : BuildSettings) : Bool :=
  a.arguments == b.arguments && a.directory.same b.directory && a.language == b.language
    && a.isFallback == b.isFallback && a.backend == b.backend

instance : BEq BuildSettings := ⟨same⟩

theorem same_iff {a b : BuildSettings} :
    a.same b = true ↔ a.arguments = b.arguments ∧ a.directory.parts = b.directory.parts ∧
      a.language = b.language ∧ a.isFallback = b.isFallback ∧ a.backend = b.backend := by
  simp [same, FilePath.same, and_assoc]

theorem same_refl (a : BuildSettings) : a.same a = true :=
  same_iff.mpr ⟨rfl, rfl, rfl, rfl, rfl⟩

theorem same_trans {a b c : BuildSettings} (hab : a.same b = true) (hbc : b.same c = true) :
    a.same c = true := by
  rw [same_iff] at hab hbc ⊢
  obtain ⟨harguments, hdirectory, hlanguage, hfallback, hbackend⟩ := hab
  rwa [harguments, hdirectory, hlanguage, hfallback, hbackend]

end BuildSettings

end SettingsBroker
