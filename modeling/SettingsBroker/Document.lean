/-
# Documents

A document is identified by the written form of its URI, and every
per-document table is keyed by that text.  A document on the local file system
is named after its normalised path, so that all spellings of one path, and the
`file` URIs of that path, are one document.

The path, file name and extension are found in the text again; the file name
and extension are the encoded ones.
-/

import SettingsBroker.Error
import SettingsBroker.FilePath
import SettingsBroker.Uri.Reader

namespace SettingsBroker

open Text (Bytes)

/-- The identity of a source document: the written form of its URI. -/
structure Document where
  text : String
  deriving DecidableEq, Inhabited, Repr

/-- Documents are ordered by their text. -/
instance : Ord Document := ⟨fun a b => compare a.text b.text⟩

instance : Std.TransOrd Document where
  eq_swap := (inferInstance : Std.TransOrd String).eq_swap
  isLE_trans h k := (inferInstance : Std.TransOrd String).isLE_trans h k

instance : Std.LawfulEqOrd Document where
  eq_of_compare {a b} h := by
    cases a; cases b
    exact congrArg Document.mk (Std.LawfulEqOrd.eq_of_compare h)

/-- Where paths are seen from: the current directory, or why it cannot be told. -/
abbrev Whereabouts := Except IoCause FilePath

/-- A current directory that can be told. -/
instance : Coe FilePath Whereabouts := ⟨.ok⟩

/-- A directory from which the documents of paths are found.  Where the current one
cannot be told, any will do as long as no path is relative. -/
def Whereabouts.seeing (here : Whereabouts) (paths : List FilePath) :
    Except Failure FilePath :=
  match here with
  | .ok current => .ok current
  | .error cause =>
    if paths.all FilePath.isAbsolute then .ok ⟨[FilePath.separator]⟩ else .error (.io cause)

namespace Document

/-! ## Documents on the file system -/

/-- How one name of a path is written in a URI. -/
def encodeName (name : Bytes) : List Char :=
  '/' :: Text.percentEncode Text.EncodeSet.pathSegment name

/-- The document with the given names as its absolute path. -/
def ofNames (names : List Bytes) : Document :=
  match names with
  | [] => ⟨"file:///"⟩
  | _ => ⟨"file://" ++ String.ofList (names.flatMap encodeName)⟩

/-- The document of a path, which is seen from the current directory and
normalised without looking at any file. -/
def ofPath (current p : FilePath) : Document :=
  ofNames (FilePath.absolute current p).names

/-- Only a relative path is seen from the current directory. -/
theorem ofPath_eq_of_isAbsolute {p : FilePath} (absolute : p.isAbsolute = true)
    (current other : FilePath) : ofPath current p = ofPath other p := by
  simp only [ofPath, FilePath.absolute, if_pos absolute]

/-- The path that encoded segments spell.  A path that ends like a drive letter
gets a separator at its end. -/
def pathOfSegments (segments : List (List Char)) : FilePath :=
  let bytes := segments.flatMap fun segment =>
    FilePath.separator :: Text.percentDecode (Text.utf8 (String.ofList segment))
  match bytes.reverse with
  | mark :: letter :: _ :: _ =>
    if (mark == 0x3A || mark == 0x7C) && (Char.ofNat letter.toNat).isAlpha then
      ⟨bytes ++ [FilePath.separator]⟩
    else ⟨bytes⟩
  | _ => ⟨bytes⟩

/-! ## Documents from URIs -/

/-- The document that a URI names as it stands. -/
def ofUri (uri : Uri) : Document :=
  ⟨uri.text⟩

/-- The path of a `file` URI on this host. -/
def pathOfUri? (uri : Uri) : Option FilePath :=
  match uri.scheme, uri.authority, uri.path with
  | "file", some authority, .segments names =>
    if authority.host.isEmpty then some (pathOfSegments (names.map String.toList)) else none
  | _, _, _ => none

/-- Reads a URI as a document.  A `file` URI on this host is normalised through
its path, which drops its query and fragment. -/
def parse (uri : String) : Except Failure Document :=
  match Uri.read uri with
  | .error refusal => .error (.invalidDocument (uri ++ ": " ++ refusal.message))
  | .ok parsed =>
    match pathOfUri? parsed with
    | some path => .ok (ofNames path.names)
    | none => .ok (ofUri parsed)

/-- Reads the URI of a stored document, which is kept as it stands. -/
def ofStored? (uri : String) : Option Document :=
  (Uri.read uri).toOption.map ofUri

/-! ## Reading the text again -/

/-- The path in the text, still encoded. -/
def pathText (d : Document) : List Char :=
  let afterScheme := (d.text.toList.dropWhile (· ≠ ':')).drop 1
  let path :=
    match afterScheme with
    | '/' :: '/' :: rest => rest.dropWhile (fun c => c ≠ '/' ∧ c ≠ '?' ∧ c ≠ '#')
    | _ => afterScheme
  path.takeWhile (fun c => !Uri.isPathEnd c)

/-- The file path of a document on the local file system. -/
def path? (d : Document) : Option FilePath :=
  if "file:///".toList.isPrefixOf d.text.toList then
    some (pathOfSegments ((d.pathText.drop 1).splitOn '/'))
  else none

/-- The last segment of the path, encoded, unless it is empty. -/
def fileName? (d : Document) : Option String :=
  match (d.pathText.reverse.takeWhile (· ≠ '/')).reverse with
  | [] => none
  | name => some (String.ofList name)

/-- The lower-case extension of the file name: what follows its last dot, if
there is something on both sides. -/
def extension? (d : Document) : Option String := do
  let name ← d.fileName?
  let chars := name.toList
  let extension := (chars.reverse.takeWhile (· ≠ '.')).reverse
  if extension = [] ∨ chars.length ≤ extension.length + 1 then none
  else some (String.ofList (extension.map Char.toLower))

end Document

end SettingsBroker
