/-
# Taking values out of JSON

What a value must look like to be taken for a text, a whole number, a list, a
choice or a record.  A record may be written as an object or as an array of its
fields in order.  In an object unknown names are skipped and no known name may
be repeated; in an array fields may be left out at the end only where they have
a default.
-/

import SettingsBroker.Json.Reader

namespace SettingsBroker.Json

def text? : Json → Option String
  | .string text => text
  | _ => none

/-- The largest number that a counter holds. -/
def counterLimit : Nat := Nat.pow 2 64 - 1

/-- The value of a whole number that is spelled with digits only and fits a
counter. -/
def counter? : Json → Option Nat
  | .number spelling =>
    if spelling.toList.all Char.isDigit then
      let n := spelling.toList.foldl (fun acc c => acc * 10 + (c.toNat - '0'.toNat)) 0
      if n ≤ counterLimit then some n else none
    else none
  | _ => none

/-- A value that may be null. -/
def nullable? {α : Type} (decode : Json → Option α) : Json → Option (Option α)
  | .null => some none
  | value => (decode value).map some

def list? {α : Type} (decode : Json → Option α) : Json → Option (List α)
  | .array items => items.mapM decode
  | _ => none

/-- The name of a choice without content, written as a text or as an object
with that name and null. -/
def choice? : Json → Option String
  | .string text => text
  | .object [(name, .null)] => name
  | _ => none

/-- The fields of a record that were given. -/
structure Record where
  /-- Whether the record was written as an array. -/
  positional : Bool
  given : List (String × Json)

/-- Reads a record whose fields have the given names.  `longer` says whether an
array may go on after the last field. -/
def record? (names : List String) (longer : Bool) : Json → Option Record
  | .array items =>
    if longer ∨ items.length ≤ names.length then some ⟨true, names.zip items⟩ else none
  | .object members => do
    let named ← members.mapM fun (name, value) => name.map fun name => (name, value)
    let given := named.filter fun (name, _) => names.contains name
    if (given.map (·.1)).Nodup then some ⟨false, given⟩ else none
  | _ => none

namespace Record

/-- The value of a field, if it was given. -/
def find? (r : Record) (name : String) : Option Json :=
  r.given.lookup name

/-- A field that must be given. -/
def required {α : Type} (r : Record) (name : String) (decode : Json → Option α) : Option α :=
  (r.find? name).bind decode

/-- A field that has a default. -/
def withDefault {α : Type} (r : Record) (name : String) (default : α) (decode : Json → Option α) :
    Option α :=
  match r.find? name with
  | none => some default
  | some value => decode value

/-- A field that may be left out of an object, but not of an array. -/
def optional {α : Type} (r : Record) (name : String) (decode : Json → Option α) :
    Option (Option α) :=
  match r.find? name with
  | none => if r.positional then none else some none
  | some value => nullable? decode value

end Record

end SettingsBroker.Json
