/-
# TOML tables

The tables of a TOML text while it is being read.  A table can be opened by a
header, come into being on the way to a deeper one, or be written by dotted
names; what was written in one way cannot be added to in another, and nothing
is written twice.
-/

import SettingsBroker.Json

namespace SettingsBroker.Toml

/-- What stands under a name of a table. -/
inductive Entry where
  /-- A value, which is complete; tables in braces and arrays in brackets are
  values too. -/
  | value (json : Json)
  /-- A table with its members in order of appearance.  `opened` says whether a
  header has opened it and `dotted` whether dotted names have written it. -/
  | table (opened dotted : Bool) (members : List (String × Entry))
  /-- A row of tables opened by double headers, the last one open. -/
  | tables (rows : List (List (String × Entry)))
  deriving Inhabited

abbrev Members := List (String × Entry)

namespace Members

/-- Puts an entry under a name, in the place of an earlier one. -/
def put (members : Members) (name : String) (entry : Entry) : Members :=
  if members.any (·.1 = name) then
    members.map fun m => if m.1 = name then (name, entry) else m
  else members ++ [(name, entry)]

/-- Changes the last row of a row of tables. -/
def onLast (change : Members → Option Members) (rows : List Members) : Option (List Members) :=
  rows.getLast?.bind fun last => (change last).map fun last => rows.dropLast ++ [last]

/-- Writes a value under dotted names, making the tables in between. -/
def write (json : Json) (name : String) : List String → Members → Option Members
  | [], members =>
    if members.any (·.1 = name) then none else some (members.put name (.value json))
  | step :: path, members =>
    match members.lookup step with
    | none => (write json name path []).map fun inner => members.put step (.table false true inner)
    | some (.table opened dotted inner) =>
      if opened ∨ (path = [] ∧ ¬ dotted) then none
      else (write json name path inner).map fun inner =>
        members.put step (.table opened dotted inner)
    | some (.tables rows) =>
      if path = [] then none
      else (onLast (write json name path) rows).map fun rows => members.put step (.tables rows)
    | some (.value _) => none

/-- Opens a table by a header. -/
def openTable (name : String) (members : Members) : Option Members :=
  match members.lookup name with
  | none => some (members.put name (.table true false []))
  | some (.table false false inner) => some (members.put name (.table true false inner))
  | some _ => none

/-- Opens one more row by a double header. -/
def openRow (name : String) (members : Members) : Option Members :=
  match members.lookup name with
  | none => some (members.put name (.tables [[]]))
  | some (.tables rows) => some (members.put name (.tables (rows ++ [[]])))
  | some _ => none

/-- Makes a change inside the table under a path, making the tables on the way
that are missing. -/
def inside (change : Members → Option Members) : List String → Members → Option Members
  | [], members => change members
  | step :: path, members =>
    match members.lookup step with
    | none => (inside change path []).map fun inner => members.put step (.table false false inner)
    | some (.table opened dotted inner) =>
      (inside change path inner).map fun inner => members.put step (.table opened dotted inner)
    | some (.tables rows) =>
      (onLast (inside change path) rows).map fun rows => members.put step (.tables rows)
    | some (.value _) => none

end Members

mutual

def Entry.toJson : Entry → Json
  | .value json => json
  | .table _ _ members => .object (Entry.membersToJson members)
  | .tables rows => .array (Entry.rowsToJson rows)

/-- The members of a finished table. -/
def Entry.membersToJson : List (String × Entry) → List (Option String × Json)
  | [] => []
  | (name, entry) :: rest => (some name, entry.toJson) :: Entry.membersToJson rest

/-- The tables of a finished row. -/
def Entry.rowsToJson : List (List (String × Entry)) → List Json
  | [] => []
  | members :: rest => .object (Entry.membersToJson members) :: Entry.rowsToJson rest

end

end SettingsBroker.Toml
