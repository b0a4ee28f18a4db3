/-
# Compilation databases

A compilation database lists, for each document, the command that compiles it.
Of several usable entries for one document the last one counts.  An entry gives
its command as a list of words or as a command line; the list is preferred, and
the first word, the compiler, is dropped.
-/

import SettingsBroker.CommandLine
import SettingsBroker.EventStream
import SettingsBroker.FileContent
import SettingsBroker.Settings
import SettingsBroker.Stored
import Std.Data.ExtTreeMap

namespace SettingsBroker

/-- An entry as it is written. -/
structure CompileEntry where
  /-- The directory that the compiler runs in. -/
  directory : FilePath
  /-- The source file, seen from the directory. -/
  file : FilePath
  /-- The command as words. -/
  arguments : Option (List String)
  /-- The command as a command line. -/
  command : Option String
  deriving DecidableEq, Repr

namespace CompileEntry

def ofJson? (json : Json) : Option CompileEntry := do
  let r ← json.record? ["directory", "file", "arguments", "command"] false
  return {
    directory := ← r.required "directory" FilePath.ofJson?
    file := ← r.required "file" FilePath.ofJson?
    arguments := ← r.withDefault "arguments" none (Json.nullable? (Json.list? Json.text?))
    command := ← r.withDefault "command" none (Json.nullable? Json.text?) }

/-- The words of the command, with the compiler in front. -/
def words (entry : CompileEntry) : List String :=
  match entry.arguments, entry.command with
  | some arguments, _ => arguments
  | none, some command => CommandLine.split command
  | none, none => []

def path (entry : CompileEntry) : FilePath :=
  entry.directory.join entry.file

/-- The document that the entry is about. -/
def document (current : FilePath) (entry : CompileEntry) : Document :=
  Document.ofPath current entry.path

end CompileEntry

/-- The command that compiles one document. -/
structure CompileCommand where
  directory : FilePath
  /-- The compiler's arguments, without the compiler itself. -/
  arguments : List String
  deriving DecidableEq, Inhabited, Repr

/-- Two commands are the same when their arguments are equal and their
directories have the same components. -/
def CompileCommand.same (a b : CompileCommand) : Bool :=
  a.directory.same b.directory && a.arguments == b.arguments

/-- The commands by document. -/
abbrev CompileDatabase := Std.ExtTreeMap Document CompileCommand

namespace CompileDatabase

/-- Takes in one entry; an entry without words is skipped. -/
def add (current : FilePath) (database : CompileDatabase) (entry : CompileEntry) :
    CompileDatabase :=
  match entry.words with
  | [] => database
  | _ :: arguments => database.insert (entry.document current) ⟨entry.directory, arguments⟩

/-- The database with the given entries. -/
def ofEntries (current : FilePath) (entries : List CompileEntry) : CompileDatabase :=
  entries.foldl (add current) ∅

/-- The database with the given entries, if their documents can be told. -/
def ofEntries? (here : Whereabouts) (entries : List CompileEntry) :
    Except Failure CompileDatabase :=
  let used := entries.filter fun entry => !entry.words.isEmpty
  (here.seeing (used.map CompileEntry.path)).map fun current => ofEntries current entries

/-- The database in a JSON text. -/
def parse (here : Whereabouts) (text : String) : Except Failure CompileDatabase :=
  match (Json.read text).bind (Json.list? CompileEntry.ofJson?) with
  | some entries => ofEntries? here entries
  | none => .error .json

def load (here : Whereabouts) (file : FileContent) : Except Failure CompileDatabase :=
  file.text.bind (parse here)

/-- Whether a document has the same command, or none, in two databases. -/
def agree (a b : CompileDatabase) (document : Document) : Bool :=
  match a[document]?, b[document]? with
  | some x, some y => x.same y
  | none, none => true
  | _, _ => false

/-- The documents that were added, were removed or have a different command. -/
def changed (before after : CompileDatabase) : DocumentSet :=
  .ofList ((before.keys ++ after.keys).filter fun document => !agree before after document)

def settings? (database : CompileDatabase) (document : Document) : Option BuildSettings :=
  database[document]?.map fun command =>
    .answered .compilationDatabase (Language.ofDocument document) command.arguments
      command.directory

def fileName : String := "compile_commands.json"

/-- The one target, to which every document belongs. -/
def target (database : CompileDatabase) : BuildTarget :=
  ⟨⟨"compile_commands"⟩, "Compilation database", .ofList database.keys, ∅⟩

/-- The database file of a directory: in the directory itself or else in its
`build` directory. -/
def search (isFile : FilePath → Bool) (directory : FilePath) : Option FilePath :=
  let name := FilePath.ofString fileName
  [directory.join name, (directory.join (FilePath.ofString "build")).join name].find? isFile

end CompileDatabase

/-- A database that is read from a file again and again, and its reports. -/
structure CompileSource where
  /-- The database as it was read last. -/
  database : CompileDatabase
  events : EventStream BuildEvent

namespace CompileSource

/-- Opens a database file. -/
def openFile (here : Whereabouts) (file : FileContent) (capacity : Nat) :
    Except Failure CompileSource :=
  (CompileDatabase.load here file).map fun database => ⟨database, .empty capacity⟩

/-- Reads the file again.  If any document changed, the target and then the
documents are reported; a file that cannot be read changes nothing. -/
def reload (source : CompileSource) (here : Whereabouts) (file : FileContent) :
    CompileSource × Except Failure DocumentSet :=
  match CompileDatabase.load here file with
  | .error failure => (source, .error failure)
  | .ok database =>
    let changed := CompileDatabase.changed source.database database
    let reports :=
      if changed.isEmpty then []
      else [.targetsChanged [⟨some database.target.id, .changed⟩], .settingsChanged changed]
    (⟨database, source.events.sendAll reports⟩, .ok changed)

end CompileSource

end SettingsBroker
