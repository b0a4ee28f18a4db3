/-
# JSON tokens

Cuts the bytes of a JSON text into tokens in one pass.  The scanner is an
automaton: each byte moves it from mode to mode, so it never looks ahead and
nests nowhere.
-/

import SettingsBroker.Json
import SettingsBroker.Text.Percent

namespace SettingsBroker.Json

open Text (Bytes)

inductive Token where
  | openArray
  | closeArray
  | openObject
  | closeObject
  | comma
  | colon
  /-- A value without parts. -/
  | atom (value : Json)
  deriving Inhabited, Repr

/-! ## Strings -/

/-- One piece of a string: a byte of the text or the unit that an escape
names. -/
inductive Piece where
  | byte (b : UInt8)
  | unit (u : Nat)
  deriving DecidableEq, Repr

/-- The bytes of a piece sequence.  Two units that form a pair are one
character; half a pair spells nothing. -/
def spell : List Piece → Option Bytes
  | [] => some []
  | .byte b :: rest => (spell rest).map (b :: ·)
  | .unit high :: .unit low :: rest =>
    if 0xD800 ≤ high ∧ high ≤ 0xDBFF then
      if 0xDC00 ≤ low ∧ low ≤ 0xDFFF then
        let c := Char.ofNat (0x10000 + (high - 0xD800) * 0x400 + (low - 0xDC00))
        (spell rest).map (Text.utf8 (String.singleton c) ++ ·)
      else none
    else if 0xDC00 ≤ high ∧ high ≤ 0xDFFF then none
    else (spell (.unit low :: rest)).map (Text.utf8 (String.singleton (Char.ofNat high)) ++ ·)
  | .unit u :: rest =>
    if 0xD800 ≤ u ∧ u ≤ 0xDFFF then none
    else (spell rest).map (Text.utf8 (String.singleton (Char.ofNat u)) ++ ·)
  termination_by pieces => pieces.length

/-- The text that a piece sequence spells, if it spells one. -/
def textOf (pieces : List Piece) : Option String :=
  (spell pieces).bind Text.ofUtf8?

/-- The unit that a one-letter escape names. -/
def escaped? (b : UInt8) : Option UInt8 :=
  match Char.ofNat b.toNat with
  | '"' => some 0x22
  | '\\' => some 0x5C
  | '/' => some 0x2F
  | 'b' => some 0x08
  | 'f' => some 0x0C
  | 'n' => some 0x0A
  | 'r' => some 0x0D
  | 't' => some 0x09
  | _ => none

/-! ## Words and numbers -/

/-- Drops the digits at the front; there must be one. -/
def dropDigits? (cs : List Char) : Option (List Char) :=
  if cs.head?.any Char.isDigit then some (cs.dropWhile Char.isDigit) else none

/-- Whether a spelling has the form of a number: no leading zeros, no bare
point and no bare exponent. -/
def isNumber (spelling : List Char) : Bool :=
  let unsigned := match spelling with
    | '-' :: rest => rest
    | _ => spelling
  let afterWhole := match unsigned with
    | '0' :: rest => some rest
    | _ => dropDigits? unsigned
  let afterFraction := afterWhole.bind fun
    | '.' :: rest => dropDigits? rest
    | rest => some rest
  let afterExponent := afterFraction.bind fun
    | e :: rest =>
      if e = 'e' ∨ e = 'E' then
        match rest with
        | sign :: digits => dropDigits? (if sign = '+' ∨ sign = '-' then digits else rest)
        | [] => none
      else none
    | [] => some []
  afterExponent = some []

/-- The value of a word or number. -/
def atom? (spelling : List Char) : Option Json :=
  match String.ofList spelling with
  | "null" => some .null
  | "true" => some (.bool true)
  | "false" => some (.bool false)
  | word => if isNumber spelling then some (.number word) else none

/-! ## The scanner -/

/-- What the scanner is in the middle of; the parts read so far are kept the
latest first. -/
inductive Mode where
  /-- Between tokens. -/
  | gap
  /-- In a word or number. -/
  | word (read : List Char)
  | string (read : List Piece)
  /-- In a string, after a backslash. -/
  | escape (read : List Piece)
  /-- In a string, in a numeric escape of which some digits are missing. -/
  | unit (read : List Piece) (missing : Nat) (value : Nat)
  deriving Repr

/-- The token of a mark that stands for itself. -/
def mark? (c : Char) : Option Token :=
  match c with
  | '[' => some .openArray
  | ']' => some .closeArray
  | '{' => some .openObject
  | '}' => some .closeObject
  | ',' => some .comma
  | ':' => some .colon
  | _ => none

/-- Whether a character is insignificant between tokens. -/
def isGap (c : Char) : Bool :=
  c = ' ' || c = '\n' || c = '\t' || c = '\r'

/-- Whether a character may stand in a word or number. -/
def isWordCharacter (c : Char) : Bool :=
  c.isAlphanum || c = '-' || c = '+' || c = '.'

/-- Takes in one byte between tokens; the tokens read so far come the latest
first. -/
def enter (tokens : List Token) (b : UInt8) : Option (Mode × List Token) :=
  let c := Char.ofNat b.toNat
  if isGap c then some (.gap, tokens)
  else if c = '"' then some (.string [], tokens)
  else if isWordCharacter c then some (.word [c], tokens)
  else (mark? c).map fun token => (.gap, token :: tokens)

def advance (mode : Mode) (tokens : List Token) (b : UInt8) : Option (Mode × List Token) :=
  let c := Char.ofNat b.toNat
  match mode with
  | .gap => enter tokens b
  | .word read =>
    if isWordCharacter c then some (.word (c :: read), tokens)
    else (atom? read.reverse).bind fun value => enter (.atom value :: tokens) b
  | .string read =>
    if c = '"' then some (.gap, .atom (.string (textOf read.reverse)) :: tokens)
    else if c = '\\' then some (.escape read, tokens)
    else if b < 0x20 then none
    else some (.string (.byte b :: read), tokens)
  | .escape read =>
    if c = 'u' then some (.unit read 4 0, tokens)
    else (escaped? b).map fun value => (.string (.byte value :: read), tokens)
  | .unit read missing value =>
    (Text.hexValue? b).map fun digit =>
      let value := value * 16 + digit.toNat
      if missing ≤ 1 then (.string (.unit value :: read), tokens)
      else (.unit read (missing - 1) value, tokens)

/-- Scans the rest of a text. -/
def scanFrom (mode : Mode) (tokens : List Token) : Bytes → Option (List Token)
  | [] =>
    match mode with
    | .gap => some tokens.reverse
    | .word read => (atom? read.reverse).map fun value => (Token.atom value :: tokens).reverse
    | _ => none
  | b :: rest =>
    match advance mode tokens b with
    | none => none
    | some (mode, tokens) => scanFrom mode tokens rest

def scan (bytes : Bytes) : Option (List Token) :=
  scanFrom .gap [] bytes

end SettingsBroker.Json
