/-
# Reading JSON

Builds the tree of a JSON text from its tokens.  The containers that are still
open are kept on a list, so that nesting is bounded by the text alone.
-/

import SettingsBroker.Json.Token

namespace SettingsBroker.Json

open Text (Bytes)

/-- A container that is still open, its parts the latest first. -/
inductive Frame where
  | items (done : List Json)
  | members (done : List (Option String × Json)) (name : Option String)
  deriving Repr

/-- What the text must go on with. -/
inductive Want where
  | value
  /-- A value or the end of the array just opened. -/
  | firstItem
  /-- A name or the end of the object just opened. -/
  | firstMember
  | member
  | colon
  /-- A comma or the end of the container. -/
  | more
  /-- The end of the text. -/
  | done (value : Json)
  deriving Repr

/-- Hands a finished value to the innermost open container. -/
def give (value : Json) : List Frame → Want × List Frame
  | [] => (.done value, [])
  | .items done :: open_ => (.more, .items (value :: done) :: open_)
  | .members done name :: open_ => (.more, .members ((name, value) :: done) none :: open_)

def take (want : Want) (frames : List Frame) (token : Token) : Option (Want × List Frame) :=
  match want, token, frames with
  | .value, .atom value, _ | .firstItem, .atom value, _ => some (give value frames)
  | .value, .openArray, _ | .firstItem, .openArray, _ => some (.firstItem, .items [] :: frames)
  | .value, .openObject, _ | .firstItem, .openObject, _ =>
    some (.firstMember, .members [] none :: frames)
  | .firstItem, .closeArray, .items done :: outer
  | .more, .closeArray, .items done :: outer => some (give (.array done.reverse) outer)
  | .firstMember, .closeObject, .members done _ :: outer
  | .more, .closeObject, .members done _ :: outer => some (give (.object done.reverse) outer)
  | .firstMember, .atom (.string name), .members done _ :: outer
  | .member, .atom (.string name), .members done _ :: outer =>
    some (.colon, .members done name :: outer)
  | .colon, .colon, _ => some (.value, frames)
  | .more, .comma, .items _ :: _ => some (.value, frames)
  | .more, .comma, .members _ _ :: _ => some (.member, frames)
  | _, _, _ => none

/-- Builds the tree from the tokens that are left. -/
def build (want : Want) (frames : List Frame) : List Token → Option Json
  | [] =>
    match want with
    | .done value => some value
    | _ => none
  | token :: rest =>
    match take want frames token with
    | none => none
    | some (want, frames) => build want frames rest

/-- Reads a JSON text given by its bytes. -/
def readBytes (bytes : Bytes) : Option Json :=
  (scan bytes).bind (build .value [])

def read (text : String) : Option Json :=
  readBytes (Text.utf8 text)

end SettingsBroker.Json
