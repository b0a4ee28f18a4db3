/-
# Fallback settings

The best guess that can be made without a build system.  It depends on the
extension of the document, on its directory and on options that are fixed in
advance, and never on the rest of the document's path.
-/

import SettingsBroker.Settings

namespace SettingsBroker

/-- What the fallback settings are made from besides the document. -/
structure FallbackOptions where
  /-- Added for C and Objective-C. -/
  cFlags : List String
  /-- Added for C++ and Objective-C++. -/
  cxxFlags : List String
  swiftFlags : List String
  /-- The root of the software development kit. -/
  sdk : Option FilePath
  deriving DecidableEq, Inhabited, Repr

namespace FallbackOptions

/-- No options at all. -/
def empty : FallbackOptions := ⟨[], [], [], none⟩

/-- The arguments that choose a language and its standard. -/
def standard : Language → List String
  | .c => ["-std=c11"]
  | .cpp => ["-std=c++17"]
  | .objC => ["-x", "objective-c"]
  | .objCpp => ["-x", "objective-c++", "-std=c++17"]
  | .swift | .other => []

/-- The arguments that name the software development kit. -/
def sdkArguments (options : FallbackOptions) (language : Language) : List String :=
  match options.sdk with
  | none => []
  | some sdk =>
    match language with
    | .swift => ["-sdk", sdk.display]
    | .c | .cpp | .objC | .objCpp => ["-isysroot", sdk.display]
    | .other => []

/-- The extra arguments for a language. -/
def flags (options : FallbackOptions) : Language → List String
  | .c | .objC => options.cFlags
  | .cpp | .objCpp => options.cxxFlags
  | .swift => options.swiftFlags
  | .other => []

/-- All fallback arguments for a language. -/
def arguments (options : FallbackOptions) (language : Language) : List String :=
  standard language ++ options.sdkArguments language ++ options.flags language

/-- The directory in which a document would be compiled: that of its file, or
the current one if there is no such directory. -/
def directory (document : Document) : FilePath :=
  (document.path?.bind FilePath.parent?).getD (FilePath.ofString ".")

/-- The fallback settings of a document. -/
def compute (options : FallbackOptions) (document : Document) : BuildSettings :=
  let language := Language.ofDocument document
  .guessed language (options.arguments language) (directory document)

end FallbackOptions

end SettingsBroker
