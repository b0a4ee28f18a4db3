/-
# File paths

A file path is any byte sequence.  It is read as a list of components: a root,
a leading dot, parent steps and names.  Empty pieces and dots elsewhere leave
no component, so several spellings share one component list, and two paths are
*the same* when their component lists are.  Joining and taking the parent keep
the spelling of what they do not touch.

Normalising removes dots and lets each parent step take away the name before
it, without looking at any file; nothing climbs above the root.
-/

import SettingsBroker.Text.Utf8

namespace SettingsBroker

open Text (Bytes)

/-- A path as it was spelled. -/
structure FilePath where
  bytes : Bytes
  deriving DecidableEq, Inhabited, Repr

inductive PathPart where
  | root
  /-- A dot at the start of a relative path. -/
  | here
  /-- A step to the parent directory. -/
  | up
  /-- A name, which is neither empty nor a dot nor two dots. -/
  | name (bytes : Bytes)
  deriving DecidableEq, Inhabited, Repr

namespace FilePath

/-- The byte that separates components. -/
def separator : UInt8 := 0x2F

/-- The byte sequence of a single dot. -/
def dot : Bytes := [0x2E]

/-- The byte sequence of two dots. -/
def dots : Bytes := [0x2E, 0x2E]

def ofString (text : String) : FilePath :=
  ⟨Text.utf8 text⟩

/-- The path as text, with ill-formed pieces replaced. -/
def display (p : FilePath) : String :=
  Text.lossy p.bytes

/-- Cuts a byte sequence at every separator; the pieces may be empty. -/
def pieces (bytes : Bytes) : List Bytes :=
  bytes.splitOn separator

/-- Puts a separator before every piece and strings them together. -/
def rooted (parts : List Bytes) : Bytes :=
  parts.flatMap (separator :: ·)

/-- Whether the path starts at the root. -/
def isAbsolute (p : FilePath) : Bool :=
  p.bytes.head? == some separator

/-- The component of a piece that is not the first of a relative path. -/
def partOf? (piece : Bytes) : Option PathPart :=
  if piece = [] ∨ piece = dot then none
  else if piece = dots then some .up
  else some (.name piece)

/-- The components of a path. -/
def parts (p : FilePath) : List PathPart :=
  if p.isAbsolute then .root :: (pieces p.bytes).filterMap partOf?
  else
    match pieces p.bytes with
    | first :: rest =>
      let lead := if first = dot then some .here else partOf? first
      lead.toList ++ rest.filterMap partOf?
    | [] => []

/-- Two paths are the same when they have the same components. -/
def same (p q : FilePath) : Bool :=
  p.parts == q.parts

instance : BEq FilePath := ⟨same⟩

/-- The path `q` seen from the directory `p`.  An absolute `q` stands for
itself, and an empty `q` still appends a separator. -/
def join (p q : FilePath) : FilePath :=
  if q.isAbsolute then q
  else
    match p.bytes.getLast? with
    | none => q
    | some last =>
      if last == separator then ⟨p.bytes ++ q.bytes⟩
      else ⟨p.bytes ++ separator :: q.bytes⟩

/-- Drops the pieces at the end that leave no component. -/
def dropIdle (body : List Bytes) : List Bytes :=
  (body.reverse.dropWhile (fun piece => piece = [] ∨ piece = dot)).reverse

/-- Strings pieces together with a separator between neighbours. -/
def joinPieces (body : List Bytes) : Bytes :=
  [separator].intercalate body

/-- The path without its last component, spelled as before; the root and the
empty path have no parent. -/
def parent? (p : FilePath) : Option FilePath :=
  match p.isAbsolute, pieces p.bytes with
  | true, _ :: body =>
    match dropIdle body with
    | [] => none
    | kept =>
      match dropIdle kept.dropLast with
      | [] => some ⟨[separator]⟩
      | front => some ⟨rooted front⟩
  | false, first :: body =>
    match dropIdle body with
    | [] => if first = [] then none else some ⟨[]⟩
    | kept => some ⟨joinPieces (first :: dropIdle kept.dropLast)⟩
  | _, [] => none

/-! ## Normal form -/

/-- One component applied to the names kept so far, the latest first. -/
def climb (kept : List Bytes) : PathPart → List Bytes
  | .root => []
  | .here => kept
  | .up => kept.tail
  | .name piece => piece :: kept

/-- The names that remain of a path once dots are dropped and each parent step
has removed the name before it. -/
def names (p : FilePath) : List Bytes :=
  (p.parts.foldl climb []).reverse

/-- The absolute path with the given names. -/
def ofNames (names : List Bytes) : FilePath :=
  match names with
  | [] => ⟨[separator]⟩
  | _ => ⟨rooted names⟩

/-- The path made absolute from a current directory. -/
def absolute (current p : FilePath) : FilePath :=
  if p.isAbsolute then p else current.join p

/-- The normal form of a path seen from a current directory. -/
def normal (current p : FilePath) : FilePath :=
  ofNames (absolute current p).names

end FilePath

end SettingsBroker
