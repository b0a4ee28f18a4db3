/-
# Reading URIs

The living standard's reading of an absolute URI: blanks around the text and
tabs and line ends inside it are ignored, the scheme is lower-cased, dot
segments of the path are resolved, and what may not stand for itself is
percent-encoded.  The six special schemes also take a backslash for a slash
and, `file` apart, have a domain name as host.

A `file` URI keeps a drive letter: the first segment of its path is one when it
is a letter and a colon or bar, it stays as it is written, the host is then
dropped, and no parent step removes a segment of that form.
-/

import SettingsBroker.Uri

namespace SettingsBroker.Uri

open Text (EncodeSet)

/-! ## Schemes -/

/-- How a scheme's URIs are read. -/
inductive SchemeKind where
  | file
  /-- The schemes of the network, which always have a domain name as host. -/
  | network
  | other
  deriving DecidableEq, Repr

/-- The kind of a scheme, given in lower case. -/
def SchemeKind.ofScheme (scheme : String) : SchemeKind :=
  if scheme = "file" then .file
  else if ["http", "https", "ws", "wss", "ftp"].contains scheme then .network
  else .other

/-- Whether a scheme is one of the six special ones. -/
def SchemeKind.isSpecial (kind : SchemeKind) : Bool :=
  kind ≠ .other

/-- The port that a scheme has when its URIs name none. -/
def defaultPort? (scheme : String) : Option Nat :=
  match scheme with
  | "http" | "ws" => some 80
  | "https" | "wss" => some 443
  | "ftp" => some 21
  | _ => none

/-- Whether a character may stand in a scheme. -/
def isSchemeCharacter (c : Char) : Bool :=
  c.isAlphanum || c = '+' || c = '-' || c = '.'

/-- Splits a text into its scheme, in lower case, and what follows the colon. -/
def splitScheme? (text : List Char) : Option (String × List Char) :=
  if text.head?.any Char.isAlpha then
    match text.dropWhile isSchemeCharacter with
    | ':' :: rest =>
      some (String.ofList ((text.takeWhile isSchemeCharacter).map Char.toLower), rest)
    | _ => none
  else none

/-! ## Characters that are ignored -/

/-- Control characters and the space, which are dropped at both ends. -/
def isEdge (c : Char) : Bool :=
  c.toNat ≤ 0x20

/-- Tabs and line ends, which are dropped everywhere. -/
def isIgnored (c : Char) : Bool :=
  c = '\t' || c = '\n' || c = '\r'

/-- The text without the control characters and spaces at its ends. -/
def trimEdges (text : List Char) : List Char :=
  ((text.dropWhile isEdge).reverse.dropWhile isEdge).reverse

/-! ## Paths -/

/-- Whether a character ends a segment. -/
def isSlash (kind : SchemeKind) (c : Char) : Bool :=
  c = '/' || (c = '\\' && kind.isSpecial)

/-- Whether a character ends a path. -/
def isPathEnd (c : Char) : Bool :=
  c = '?' || c = '#'

/-- The ways to write a single dot segment. -/
def isDotSegment (segment : String) : Bool :=
  [".", "%2e", "%2E"].contains segment

/-- The ways to write a double dot segment. -/
def isDotsSegment (segment : String) : Bool :=
  ["..", "%2e%2e", "%2e%2E", "%2E%2e", "%2E%2E", "%2e.", "%2E.", ".%2e", ".%2E"].contains segment

/-- Whether a segment is a drive letter: a letter and a colon or bar. -/
def isDriveLetter (segment : String) : Bool :=
  match segment.toList with
  | [letter, mark] => letter.isAlpha && (mark = ':' || mark = '|')
  | _ => false

/-- Whether a segment that a slash follows begins like a drive letter. -/
def beginsWithDriveLetter (segment : String) : Bool :=
  match segment.toList with
  | [letter, mark] => letter.isAlpha && (mark = ':' || mark = '|')
  | letter :: mark :: next :: _ =>
    letter.isAlpha && (mark = ':' || mark = '|') && next = '\\'
  | _ => false

/-- The segments kept after a parent step: the last one goes, unless it is a
drive letter. -/
def dropSegment (kept : List String) : List String :=
  match kept.getLast? with
  | some last => if beginsWithDriveLetter last then kept else kept.dropLast
  | none => kept

/-- The text without the characters that are ignored. -/
def visible (text : List Char) : List Char :=
  text.filter (fun c => !isIgnored c)

/-- A segment in its written form. -/
def encodeSegment (segment : List Char) : String :=
  String.ofList ((visible segment).flatMap (Text.percentChar EncodeSet.path))

/-- Cuts off a drive letter that an ignored character parts from the rest of
its segment. -/
def cutDrive? (segment : List Char) : Option (String × List Char) :=
  match segment.dropWhile isIgnored with
  | letter :: rest =>
    match rest.dropWhile isIgnored with
    | ':' :: c :: tail =>
      if letter.isAlpha && isIgnored c && tail.any (fun c => !isIgnored c) then
        some (String.ofList [letter, ':'], tail)
      else none
    | _ => none
  | [] => none

/-- A path being read: the segments so far and whether a drive letter was found
in front, which takes the host away. -/
structure PathReading where
  kept : List String
  /-- Whether the first segment is a drive letter. -/
  drive : Bool
  deriving DecidableEq, Repr

namespace PathReading

/-- Takes in one more segment; `more` says whether a slash follows it. -/
def step (kind : SchemeKind) (r : PathReading) (segment : String) (more : Bool) : PathReading :=
  let close := fun kept : List String => if more then kept else kept ++ [""]
  if isDotsSegment segment then ⟨close (dropSegment r.kept), r.drive⟩
  else if isDotSegment segment then ⟨close r.kept, r.drive⟩
  else
    let drive := kind = .file && r.kept.isEmpty && isDriveLetter segment
    ⟨r.kept ++ [segment], r.drive || drive⟩

/-- Takes in one more segment as it stands in the text.  The first segment of
a `file` path ends early where an ignored character follows a drive letter. -/
def stepRaw (kind : SchemeKind) (r : PathReading) (segment : List Char) (more : Bool) :
    PathReading :=
  match (if kind = .file ∧ r.kept = [] then cutDrive? segment else none) with
  | some (drive, rest) => ({ r with kept := [drive] } : PathReading).step kind (encodeSegment rest) more
  | none => r.step kind (encodeSegment segment) more

/-- Takes in a row of segments, of which the last is not followed by a slash. -/
def steps (kind : SchemeKind) (r : PathReading) : List (List Char) → PathReading
  | [] => r
  | [segment] => r.stepRaw kind segment false
  | segment :: rest => (r.stepRaw kind segment true).steps kind rest

end PathReading

/-- Reads the text of a path after its first slash.  The path of a `file` URI
does not begin with empty segments. -/
def readSegments (kind : SchemeKind) (text : List Char) : PathReading :=
  let reading := PathReading.steps kind ⟨[], false⟩ (text.splitOnP (isSlash kind))
  match kind with
  | .file =>
    match reading.kept.dropWhile (· = "") with
    | [] => { reading with kept := [""] }
    | kept => { reading with kept }
  | _ => reading

/-! ## Query and fragment -/

/-- What follows the path: query and fragment, encoded. -/
def readEnding (kind : SchemeKind) (text : List Char) : Option String × Option String :=
  let encode := fun (set : EncodeSet) (part : List Char) =>
    String.ofList ((visible part).flatMap (Text.percentChar set))
  match text with
  | '?' :: rest =>
    let set := if kind.isSpecial then EncodeSet.specialQuery else EncodeSet.query
    let query := encode set (rest.takeWhile (· ≠ '#'))
    match rest.dropWhile (· ≠ '#') with
    | '#' :: fragment => (some query, some (encode EncodeSet.fragment fragment))
    | _ => (some query, none)
  | '#' :: fragment => (none, some (encode EncodeSet.fragment fragment))
  | _ => (none, none)

/-- Path, query and fragment of a URI with an authority.  A special URI has at
least the root as its path. -/
def readRest (kind : SchemeKind) (text : List Char) :
    PathReading × Option String × Option String :=
  let path := (text.takeWhile (fun c => !isPathEnd c)).dropWhile isIgnored
  let ending := readEnding kind (text.dropWhile (fun c => !isPathEnd c))
  match path with
  | [] => (if kind.isSpecial then ⟨[""], false⟩ else ⟨[], false⟩, ending)
  | c :: rest => (readSegments kind (if isSlash kind c then rest else path), ending)

/-! ## Authorities -/

/-- Whether a character ends an authority. -/
def isAuthorityEnd (kind : SchemeKind) (c : Char) : Bool :=
  isSlash kind c || isPathEnd c

/-- Splits an authority at its last at sign, if it has one. -/
def splitCredentials (text : List Char) : Option (List Char) × List Char :=
  let address := (text.reverse.takeWhile (· ≠ '@')).reverse
  if address.length = text.length then (none, text)
  else (some (text.take (text.length - address.length - 1)), address)

/-- User name and password, encoded; an empty password is left out. -/
def readCredentials (text : List Char) : String × Option String :=
  let encode := fun part : List Char =>
    String.ofList (part.flatMap (Text.percentChar EncodeSet.userInfo))
  let user := encode (text.takeWhile (· ≠ ':'))
  match text.dropWhile (· ≠ ':') with
  | _ :: c :: password => (user, some (encode (c :: password)))
  | _ => (user, none)

/-- Splits host and port: the port begins at the first colon outside brackets. -/
def splitPort (inBrackets : Bool) : List Char → List Char × Option (List Char)
  | [] => ([], none)
  | c :: rest =>
    if c = ':' ∧ ¬ inBrackets then ([], some rest)
    else
      let inside := if c = '[' then true else if c = ']' then false else inBrackets
      let (host, port) := splitPort inside rest
      (c :: host, port)

/-- The number that a port spells; a port without digits or equal to the
scheme's own is absent. -/
def readPort (scheme : String) (text : List Char) : Except Refusal (Option Nat) :=
  if text.all Char.isDigit then
    let port := numeral 10 text
    if port > 65535 then .error .badPort
    else if text = [] ∨ some port = defaultPort? scheme then .ok none
    else .ok (some port)
  else .error .badPort

/-- Reads the authority of a scheme other than `file` and returns what is left
after the port.  `ends` says whether the authority ends the text. -/
def readAuthority (scheme : String) (kind : SchemeKind) (text : List Char) (ends : Bool) :
    Except Refusal (Authority × List Char) := do
  let (credentials, address) := splitCredentials text
  if credentials = some [] ∧ address = [] ∧ ¬ ends then throw .emptyHost
  let (user, password) := (credentials.map readCredentials).getD ("", none)
  let (hostText, portText) := splitPort false address
  if kind = .network ∧ hostText = [] then throw .emptyHost
  let host ← if kind = .network then Host.ofDomain hostText else Host.ofUninterpreted hostText
  if host.isEmpty ∧ portText.isSome then throw .emptyHost
  let digits := (portText.getD []).takeWhile (· ≠ '\\')
  let left := (portText.getD []).dropWhile (· ≠ '\\')
  let port ← readPort scheme digits
  if host.isEmpty ∧ (user ≠ "" ∨ password.isSome) then throw .emptyHost
  return (⟨user, password, host, port⟩, left)

/-! ## Whole URIs -/

/-- Reads what follows the slashes of a URI with an authority. -/
def readWithAuthority (scheme : String) (kind : SchemeKind) (text : List Char) :
    Except Refusal Uri := do
  let rest := text.dropWhile (fun c => !isAuthorityEnd kind c)
  let (authority, left) ←
    readAuthority scheme kind (text.takeWhile (fun c => !isAuthorityEnd kind c)) rest.isEmpty
  let (reading, query, fragment) := readRest kind (left ++ rest)
  return ⟨scheme, some authority, .segments reading.kept, query, fragment⟩

/-- Reads what follows the colon of a URI without an authority: a path that
begins with a slash has segments, any other is plain. -/
def readWithoutAuthority (scheme : String) (text : List Char) : Uri :=
  let path :=
    match text.takeWhile (fun c => !isPathEnd c) with
    | '/' :: body => Path.segments (readSegments .other body).kept
    | plain => Path.plain (String.ofList (plain.flatMap (Text.percentChar EncodeSet.controls)))
  let (query, fragment) := readEnding .other (text.dropWhile (fun c => !isPathEnd c))
  ⟨scheme, none, path, query, fragment⟩

/-- The authority of a local file. -/
def localAuthority : Authority := ⟨"", none, .name "", none⟩

/-- A `file` URI with the given host, unless a drive letter takes it away. -/
def fileUri (host : Host) (text : List Char) : Uri :=
  let (reading, query, fragment) := readRest .file text
  let host := if reading.drive then .name "" else host
  ⟨"file", some { localAuthority with host }, .segments reading.kept, query, fragment⟩

/-- Drops the first slash and the ignored characters before it. -/
def dropSlash (text : List Char) : List Char :=
  (text.dropWhile isIgnored).drop 1

/-- Reads what follows the colon of a `file` URI.  Two slashes introduce a
host, where a drive letter is no host and `localhost` is none either. -/
def readFile (text : List Char) : Except Refusal Uri := do
  if ((visible text).takeWhile (isSlash .file)).length < 2 then
    return fileUri (.name "") text
  let text := dropSlash (dropSlash text)
  let hostText := visible (text.takeWhile (fun c => !isAuthorityEnd .file c))
  if isDriveLetter (String.ofList hostText) then return fileUri (.name "") text
  let rest := text.dropWhile (fun c => !isAuthorityEnd .file c)
  if hostText = [] then return fileUri (.name "") rest
  let host ← Host.ofDomain hostText
  return fileUri (if host = .name "localhost" then .name "" else host) rest

/-- Reads an absolute URI. -/
def read (input : String) : Except Refusal Uri :=
  let text := trimEdges input.toList
  match splitScheme? (visible text) with
  | none => .error .noScheme
  | some (scheme, rest) =>
    match SchemeKind.ofScheme scheme with
    | .file => readFile ((text.dropWhile (· ≠ ':')).drop 1)
    | .network => readWithAuthority scheme .network (rest.dropWhile (isSlash .network))
    | .other =>
      match rest with
      | '/' :: '/' :: body => readWithAuthority scheme .other body
      | _ => .ok (readWithoutAuthority scheme rest)

end SettingsBroker.Uri
