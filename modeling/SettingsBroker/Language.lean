/-
# Languages

The language of a document is told from its extension alone.
-/

import SettingsBroker.Document

namespace SettingsBroker

inductive Language where
  | swift
  | c
  | cpp
  | objC
  | objCpp
  /-- Anything that is not known by its extension. -/
  | other
  deriving DecidableEq, Inhabited, Repr

namespace Language

def name : Language → String
  | .swift => "swift"
  | .c => "c"
  | .cpp => "cpp"
  | .objC => "objc"
  | .objCpp => "objcpp"
  | .other => "other"

def all : List Language := [.swift, .c, .cpp, .objC, .objCpp, .other]

/-- The language with a given name. -/
def ofName? (name : String) : Option Language :=
  all.find? (·.name = name)

/-- The language of an extension, given without the dot and in any case. -/
def ofExtension (extension : String) : Language :=
  match String.ofList (extension.toList.map Char.toLower) with
  | "swift" => .swift
  | "c" | "h" => .c
  | "cpp" | "cc" | "cxx" | "c++" | "hpp" | "hh" | "hxx" => .cpp
  | "m" => .objC
  | "mm" => .objCpp
  | _ => .other

def ofDocument (document : Document) : Language :=
  (document.extension?.map ofExtension).getD .other

/-- Whether a language takes the options of the C family. -/
def isCFamily : Language → Bool
  | .c | .cpp | .objC | .objCpp => true
  | .swift | .other => false

/-- A language is found by its name. -/
theorem ofName?_name (language : Language) : ofName? language.name = some language := by
  cases language <;> decide

end Language

end SettingsBroker
