/-
# Reading TOML

Reads a TOML text as the tree of its values.  Arrays and tables in braces may
be nested only so deep.  A text that breaks any rule is refused as a whole.
-/

import SettingsBroker.Toml.Scalar
import SettingsBroker.Toml.Table

namespace SettingsBroker.Toml

/-- How deep arrays and tables in braces may be nested. -/
def depthLimit : Nat := 80

/-! ## Space and comments -/

/-- Whether a character is space within a line. -/
def isSpace (c : Char) : Bool := c = ' ' || c = '\t'

/-- Whether a character may stand in a comment or string. -/
def isPrintable (c : Char) : Bool :=
  c = '\t' || (0x20 ≤ c.toNat && c.toNat ≠ 0x7F)

/-- Drops the space at the front. -/
def dropSpace (cs : List Char) : List Char :=
  cs.dropWhile isSpace

/-- Drops a line end. -/
def dropLineEnd? : List Char → Option (List Char)
  | '\n' :: rest => some rest
  | '\r' :: '\n' :: rest => some rest
  | _ => none

/-- Drops a comment, up to the end of its line. -/
def dropComment (cs : List Char) : List Char :=
  match cs with
  | '#' :: rest => rest.dropWhile isPrintable
  | _ => cs

/-- Drops the end of a line: space, a comment, and the line end or the end of
the text. -/
def endLine? (cs : List Char) : Option (List Char) :=
  match dropComment (dropSpace cs) with
  | [] => some []
  | rest => dropLineEnd? rest

/-- Drops space, comments and line ends. -/
def dropBlank : Nat → List Char → List Char
  | 0, cs => cs
  | fuel + 1, cs =>
    let rest := dropComment (dropSpace cs)
    match dropLineEnd? rest with
    | some rest => dropBlank fuel rest
    | none => rest

/-! ## Strings -/

/-- The character with a given number, if there is one. -/
def character? (n : Nat) : Option Char :=
  if n < 0xD800 ∨ (0xDFFF < n ∧ n ≤ 0x10FFFF) then some (Char.ofNat n) else none

/-- Reads an escape with a fixed number of hexadecimal digits. -/
def hexEscape? (n : Nat) (cs : List Char) : Option (Char × List Char) :=
  let digits := cs.take n
  if digits.length = n ∧ digits.all Uri.isHexDigit then
    (character? (Uri.numeral 16 digits)).map fun c => (c, cs.drop n)
  else none

/-- Reads what follows a backslash. -/
def escape? : List Char → Option (Char × List Char)
  | 'b' :: rest => some ('\x08', rest)
  | 't' :: rest => some ('\t', rest)
  | 'n' :: rest => some ('\n', rest)
  | 'f' :: rest => some ('\x0c', rest)
  | 'r' :: rest => some ('\r', rest)
  | 'e' :: rest => some ('\x1b', rest)
  | '"' :: rest => some ('"', rest)
  | '\\' :: rest => some ('\\', rest)
  | 'x' :: rest => hexEscape? 2 rest
  | 'u' :: rest => hexEscape? 4 rest
  | 'U' :: rest => hexEscape? 8 rest
  | _ => none

/-- Reads the rest of a string on one line; the text read comes the latest
first. -/
def lineString (quote : Char) (read : List Char) : Nat → List Char → Option (String × List Char)
  | 0, _ => none
  | _, [] => none
  | fuel + 1, c :: rest =>
    if c = quote then some (String.ofList read.reverse, rest)
    else if c = '\\' ∧ quote = '"' then
      (escape? rest).bind fun (c, rest) => lineString quote (c :: read) fuel rest
    else if isPrintable c then lineString quote (c :: read) fuel rest
    else none

/-- Drops space and line ends after a backslash at the end of a line; there
must be a line end. -/
def dropFold? (cs : List Char) : Option (List Char) :=
  (dropLineEnd? (dropSpace cs)).map fun rest =>
    rest.dropWhile (fun c => isSpace c || c = '\n' || c = '\r')

/-- Reads the rest of a string over several lines.  Up to two quotes may stand
directly before the closing three. -/
def blockString (quote : Char) (read : List Char) : Nat → List Char → Option (String × List Char)
  | 0, _ => none
  | _, [] => none
  | fuel + 1, c :: rest =>
    if c = quote then
      let quotes := (c :: rest).takeWhile (· = quote)
      let after := (c :: rest).dropWhile (· = quote)
      if quotes.length < 3 then blockString quote (quotes ++ read) fuel after
      else if quotes.length ≤ 5 then
        some (String.ofList (quotes.drop 3 ++ read).reverse, after)
      else none
    else if c = '\\' ∧ quote = '"' then
      match dropFold? rest with
      | some rest => blockString quote read fuel rest
      | none => (escape? rest).bind fun (c, rest) => blockString quote (c :: read) fuel rest
    else
      match dropLineEnd? (c :: rest) with
      | some rest => blockString quote ('\n' :: read) fuel rest
      | none => if isPrintable c then blockString quote (c :: read) fuel rest else none

/-- Reads a string that begins with a quote. -/
def string? (fuel : Nat) (cs : List Char) : Option (String × List Char) :=
  match cs with
  | c :: rest =>
    if c = '"' ∨ c = '\'' then
      match rest with
      | d :: e :: block =>
        if d = c ∧ e = c then blockString c [] fuel ((dropLineEnd? block).getD block)
        else lineString c [] fuel rest
      | _ => lineString c [] fuel rest
    else none
  | [] => none

/-! ## Names -/

/-- Whether a character may stand in a name without quotes. -/
def isBare (c : Char) : Bool :=
  c.isAlphanum || c = '_' || c = '-'

/-- Reads one name. -/
def name? (fuel : Nat) (cs : List Char) : Option (String × List Char) :=
  match cs with
  | '"' :: rest => lineString '"' [] fuel rest
  | '\'' :: rest => lineString '\'' [] fuel rest
  | _ =>
    match cs.takeWhile isBare with
    | [] => none
    | bare => some (String.ofList bare, cs.dropWhile isBare)

/-- Reads names with dots between them: all but the last, the last, and the
rest of the text. -/
def names? : Nat → List Char → Option (List String × String × List Char)
  | 0, _ => none
  | fuel + 1, cs => do
    let (first, rest) ← name? (fuel + 1) (dropSpace cs)
    match dropSpace rest with
    | '.' :: more =>
      let (path, last, rest) ← names? fuel more
      return (first :: path, last, rest)
    | rest => return ([], first, rest)

/-! ## Values -/

/-- Whether a character may stand in an unquoted scalar. -/
def isScalarCharacter (c : Char) : Bool :=
  c.isAlphanum || c = '_' || c = '-' || c = '+' || c = '.' || c = ':'

/-- Reads an unquoted scalar.  One space may part a date from a time. -/
def word? (cs : List Char) : Option (Json × List Char) :=
  let word := cs.takeWhile isScalarCharacter
  let rest := cs.dropWhile isScalarCharacter
  match date? word, rest with
  | some [], ' ' :: c :: more =>
    if c.isDigit then
      let time := (c :: more).takeWhile isScalarCharacter
      (scalar? (word ++ ' ' :: time)).map fun v => (v, (c :: more).dropWhile isScalarCharacter)
    else (scalar? word).map fun v => (v, rest)
  | _, _ => (scalar? word).map fun v => (v, rest)

mutual

/-- Reads a value; `depth` more levels may be opened. -/
def value? (depth : Nat) : Nat → List Char → Option (Json × List Char)
  | 0, _ => none
  | fuel + 1, cs =>
    match cs with
    | '[' :: rest => if depth = 0 then none else items? (depth - 1) [] fuel rest
    | '{' :: rest => if depth = 0 then none else pairs? (depth - 1) [] fuel rest
    | '"' :: _ | '\'' :: _ =>
      (string? (fuel + 1) cs).map fun (text, rest) => (.string (some text), rest)
    | _ => word? cs

/-- Reads the rest of an array; the items read come the latest first. -/
def items? (depth : Nat) (read : List Json) : Nat → List Char → Option (Json × List Char)
  | 0, _ => none
  | fuel + 1, cs =>
    match dropBlank (fuel + 1) cs with
    | ']' :: rest => some (.array read.reverse, rest)
    | cs => do
      let (item, rest) ← value? depth fuel cs
      match dropBlank (fuel + 1) rest with
      | ',' :: rest => items? depth (item :: read) fuel rest
      | ']' :: rest => some (.array (item :: read).reverse, rest)
      | _ => none

/-- Reads the rest of a table in braces. -/
def pairs? (depth : Nat) (read : Members) : Nat → List Char → Option (Json × List Char)
  | 0, _ => none
  | fuel + 1, cs =>
    match dropBlank (fuel + 1) cs with
    | '}' :: rest => some (.object (Entry.membersToJson read), rest)
    | cs => do
      let (path, last, rest) ← names? (fuel + 1) cs
      let rest ← expect? '=' rest
      let (json, rest) ← value? depth fuel (dropSpace rest)
      let read ← read.write json last path
      match dropBlank (fuel + 1) rest with
      | ',' :: rest => pairs? depth read fuel rest
      | '}' :: rest => some (.object (Entry.membersToJson read), rest)
      | _ => none

end

/-! ## Documents -/

/-- A document being read: its tables and the path of the one that is open. -/
structure Reading where
  root : Members
  /-- The path of the open table. -/
  path : List String

/-- Reads one line, which for a value may go over several. -/
def line? (fuel : Nat) (r : Reading) (cs : List Char) : Option (Reading × List Char) :=
  match dropSpace cs with
  | '[' :: '[' :: rest => do
    let (path, last, rest) ← names? fuel rest
    let rest ← expect? ']' rest
    let rest ← expect? ']' rest
    let root ← Members.inside (Members.openRow last) path r.root
    return (⟨root, path ++ [last]⟩, ← endLine? rest)
  | '[' :: rest => do
    let (path, last, rest) ← names? fuel rest
    let rest ← expect? ']' rest
    let root ← Members.inside (Members.openTable last) path r.root
    return (⟨root, path ++ [last]⟩, ← endLine? rest)
  | cs =>
    match endLine? cs with
    | some rest => some (r, rest)
    | none => do
      let (path, last, rest) ← names? fuel cs
      let rest ← expect? '=' rest
      let (json, rest) ← value? depthLimit fuel (dropSpace rest)
      let root ← Members.inside (Members.write json last path) r.path r.root
      return ({ r with root }, ← endLine? rest)

/-- Reads the lines that are left. -/
def lines? (r : Reading) : Nat → List Char → Option Reading
  | _, [] => some r
  | 0, _ => none
  | fuel + 1, cs => (line? (fuel + 1) r cs).bind fun (r, rest) => lines? r fuel rest

/-- Reads a TOML text as the tree of its values.  A byte order mark at the
front is skipped. -/
def read (text : String) : Option Json :=
  let cs := match text.toList with
    | '\uFEFF' :: rest => rest
    | cs => cs
  (lines? ⟨[], []⟩ (cs.length + 1) cs).map fun r => .object (Entry.membersToJson r.root)

end SettingsBroker.Toml
