/-
# Command lines

Splits the text of a command into words as a shell would, with single quotes,
double quotes and backslashes, and without expansions.
-/

import SettingsBroker.Text.Blank

namespace SettingsBroker.CommandLine

/-- Where in a command line a character stands. -/
inductive Place where
  /-- Outside quotes. -/
  | bare
  /-- In single quotes. -/
  | single
  /-- In double quotes. -/
  | double
  deriving DecidableEq, Repr

/-- Whether a backslash in double quotes escapes the character. -/
def isEscapable (c : Char) : Bool :=
  c = '"' || c = '\\' || c = '$' || c = '\x60'

/-- Splits what is left of a command line.  `word` is the word being read, its
characters the latest first, if one has begun. -/
def splitFrom (place : Place) (word : Option (List Char)) : List Char → List (List Char)
  | [] => (word.map List.reverse).toList
  | c :: rest =>
    let read := word.getD []
    match place with
    | .single =>
      if c = '\'' then splitFrom .bare (some read) rest
      else splitFrom .single (some (c :: read)) rest
    | .double =>
      if c = '"' then splitFrom .bare (some read) rest
      else if c = '\\' then
        match rest with
        | next :: rest =>
          if isEscapable next then splitFrom .double (some (next :: read)) rest
          else splitFrom .double (some (next :: '\\' :: read)) rest
        | [] => splitFrom .double (some ('\\' :: read)) []
      else splitFrom .double (some (c :: read)) rest
    | .bare =>
      if c = '\'' then splitFrom .single (some read) rest
      else if c = '"' then splitFrom .double (some read) rest
      else if c = '\\' then
        match rest with
        | next :: rest => splitFrom .bare (some (next :: read)) rest
        | [] => splitFrom .bare (some read) []
      else if Text.isBlank c then
        match word with
        | some read => read.reverse :: splitFrom .bare none rest
        | none => splitFrom .bare none rest
      else splitFrom .bare (some (c :: read)) rest

/-- The words of a command line. -/
def split (command : String) : List String :=
  (splitFrom .bare none command.toList).map String.ofList

end SettingsBroker.CommandLine
