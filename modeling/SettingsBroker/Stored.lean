/-
# Stored forms

How the values that requests, plans and configurations are made of are taken
from JSON.  A stored document keeps the URI it was stored with.
-/

import SettingsBroker.Fallback
import SettingsBroker.Json.Record
import SettingsBroker.Target

namespace SettingsBroker

/-- A path stored as text. -/
def FilePath.ofJson? (json : Json) : Option FilePath :=
  json.text?.map FilePath.ofString

/-- A stored document. -/
def Document.ofJson? (json : Json) : Option Document :=
  json.text?.bind Document.ofStored?

/-- A language by its name. -/
def Language.ofJson? (json : Json) : Option Language :=
  json.choice?.bind Language.ofName?

/-- A kind of event by its name. -/
def TargetEventKind.ofJson? (json : Json) : Option TargetEventKind :=
  json.choice?.bind TargetEventKind.ofName?

/-- A build system: one of the known ones, or any other by its name. -/
def BackendId.ofJson? (json : Json) : Option BackendId :=
  match json with
  | .object [(some "Other", name)] => name.text?.map .other
  | _ =>
    match json.choice? with
    | some "CompilationDatabase" => some .compilationDatabase
    | some "PackageManager" => some .packageManager
    | some "FallbackOnly" => some .fallbackOnly
    | _ => none

/-- A stored target identity. -/
def TargetId.ofJson? (json : Json) : Option TargetId :=
  json.text?.map TargetId.mk

/-- A stored event. -/
def TargetEvent.ofJson? (json : Json) : Option TargetEvent := do
  let r ← json.record? ["target", "kind"] false
  return ⟨← r.optional "target" TargetId.ofJson?, ← r.required "kind" TargetEventKind.ofJson?⟩

/-- A stored target. -/
def BuildTarget.ofJson? (json : Json) : Option BuildTarget := do
  let r ← json.record? ["id", "display_name", "sources", "dependencies"] false
  return {
    id := ← r.required "id" TargetId.ofJson?
    displayName := ← r.required "display_name" Json.text?
    sources := .ofList (← r.withDefault "sources" [] (Json.list? Document.ofJson?))
    dependencies := .ofList (← r.withDefault "dependencies" [] (Json.list? TargetId.ofJson?)) }

/-- Stored fallback options. -/
def FallbackOptions.ofJson? (longer : Bool) (json : Json) : Option FallbackOptions := do
  let r ← json.record? ["c_flags", "cxx_flags", "swift_flags", "sdk"] longer
  let flags := fun name => r.withDefault name [] (Json.list? Json.text?)
  return {
    cFlags := ← flags "c_flags"
    cxxFlags := ← flags "cxx_flags"
    swiftFlags := ← flags "swift_flags"
    sdk := ← r.withDefault "sdk" none (Json.nullable? FilePath.ofJson?) }

end SettingsBroker
