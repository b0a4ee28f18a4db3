/-
# Programs

A program run to its end: the way it ended and what it wrote.  The programs
here do nothing but write, so that a run is a function of the words it is given
and of what it reads.
-/

import SettingsBroker.Error
import SettingsBroker.Text.Utf8

namespace SettingsBroker

open Text (Bytes)

inductive ExitStatus where
  | code (code : Nat)
  | signal (number : Nat)
  deriving DecidableEq, Repr

/-- What a program that has ended leaves. -/
structure ProgramRun where
  status : ExitStatus
  out : Bytes
  err : Bytes
  deriving DecidableEq, Repr

namespace ExitStatus

/-- The names of the signals, counted from one. -/
def signalNames : List String :=
  ["HUP", "INT", "QUIT", "ILL", "TRAP", "ABRT", "BUS", "FPE", "KILL", "USR1", "SEGV", "USR2",
    "PIPE", "ALRM", "TERM", "STKFLT", "CHLD", "CONT", "STOP", "TSTP", "TTIN", "TTOU", "URG",
    "XCPU", "XFSZ", "VTALRM", "PROF", "WINCH", "IO", "PWR", "SYS"]

/-- The number of the signal with a name. -/
def signalNumber? (name : String) : Option Nat :=
  (signalNames.findIdx? (· = name)).map (· + 1)

/-- A way to end in words. -/
def display : ExitStatus → String
  | .code n => "exit status: " ++ toString n
  | .signal number =>
    match number, signalNames[number - 1]? with
    | _ + 1, some name => "signal: " ++ toString number ++ " (SIG" ++ name ++ ")"
    | _, _ => "signal: " ++ toString number

end ExitStatus

namespace ProgramRun

/-- A run that writes nothing. -/
def silent (code : Nat) : ProgramRun := ⟨.code code, [], []⟩

/-- A run that writes output and ends well. -/
def writing (out : Bytes) : ProgramRun := ⟨.code 0, out, []⟩

/-- A run that complains. -/
def complaining (code : Nat) (complaint : String) : ProgramRun :=
  ⟨.code code, [], Text.utf8 (complaint ++ "\n")⟩

end ProgramRun

namespace Program

/-- The byte of a number, modulo 256. -/
def byte (n : Nat) : UInt8 := n.toUInt8

/-- The digits of a number in some base at the start of a text, at most `count`
of them, as the value and the rest; nothing if there are none. -/
def leadingNumber? (base count : Nat) (cs : List Char) : Option (Nat × List Char) :=
  let value (c : Char) : Nat :=
    if '0' ≤ c ∧ c ≤ '9' then c.toNat - '0'.toNat
    else if 'a' ≤ c.toLower ∧ c.toLower ≤ 'f' then c.toLower.toNat - 'a'.toNat + 10
    else base
  let digits := (cs.take count).takeWhile (value · < base)
  if digits.isEmpty then none
  else some (digits.foldl (fun acc c => acc * base + value c) 0, cs.drop digits.length)

/-- The character that a backslash and a letter stand for. -/
def letterEscape? : Char → Option Char
  | 'a' => some '\x07'
  | 'b' => some '\x08'
  | 'e' => some '\x1b'
  | 'f' => some '\x0c'
  | 'n' => some '\n'
  | 'r' => some '\r'
  | 't' => some '\t'
  | 'v' => some '\x0b'
  | '\\' => some '\\'
  | _ => none

/-- Replaces backslash escapes.  Bytes are written in base eight, with up to three
digits, which follow a zero if `zeroFirst`, or with `\x` in base sixteen. -/
def unescape (zeroFirst : Bool) : Nat → List Char → Bytes
  | 0, _ => []
  | _, [] => []
  | fuel + 1, '\\' :: c :: rest =>
    match letterEscape? c with
    | some plain => Text.utf8 plain.toString ++ unescape zeroFirst fuel rest
    | none =>
      let number :=
        if c = 'x' then leadingNumber? 16 2 rest
        else if zeroFirst then (if c = '0' then some ((leadingNumber? 8 3 rest).getD (0, rest)) else none)
        else leadingNumber? 8 3 (c :: rest)
      match number with
      | some (n, rest) => byte n :: unescape zeroFirst fuel rest
      | none => Text.utf8 (String.ofList ['\\', c]) ++ unescape zeroFirst fuel rest
  | fuel + 1, c :: rest => Text.utf8 c.toString ++ unescape zeroFirst fuel rest

/-- A text with its escapes replaced. -/
def unescaped (zeroFirst : Bool) (text : String) : Bytes :=
  unescape zeroFirst text.length text.toList

/-- The output of words with blanks between them, and a line end unless the first
word is `-n`. -/
def echo (escapes : Bool) (words : List String) : Bytes :=
  let (words, lineEnd) := match words with
    | "-n" :: rest => (rest, ([] : Bytes))
    | words => (words, [byte 0x0A])
  let line := " ".intercalate words
  (if escapes then unescaped true line else Text.utf8 line) ++ lineEnd

/-- One pass of a format over words: the output and the words that are left. -/
def formatOnce : Nat → List Char → List String → Bytes × List String
  | 0, _, words => ([], words)
  | _, [], words => ([], words)
  | fuel + 1, '%' :: '%' :: rest, words =>
    let (out, words) := formatOnce fuel rest words
    (0x25 :: out, words)
  | fuel + 1, '%' :: c :: rest, words =>
    let word := words.headD ""
    let written := match c with
      | 's' => Text.utf8 word
      | 'b' => unescaped true word
      | 'c' => (Text.utf8 word).take 1
      | _ => Text.utf8 (if word.isEmpty then "0" else word)
    let (out, words) := formatOnce fuel rest words.tail
    (written ++ out, words)
  | fuel + 1, '\\' :: c :: rest, words =>
    let literal := c :: rest.takeWhile fun d => d ≠ '%' ∧ d ≠ '\\'
    let (out, words) := formatOnce fuel (rest.drop (literal.length - 1)) words
    (unescaped false (String.ofList ('\\' :: literal)) ++ out, words)
  | fuel + 1, c :: rest, words =>
    let (out, words) := formatOnce fuel rest words
    (Text.utf8 c.toString ++ out, words)

/-- The output of a format, which is used again while words are left. -/
def format (text : String) : Nat → List String → Bytes
  | 0, _ => []
  | fuel + 1, words =>
    let (out, left) := formatOnce text.length text.toList words
    if left.isEmpty ∨ left.length = words.length then out else out ++ format text fuel left

/-- What the names give when files are strung together: only the empty device
can be read, and no name at all reads the input. -/
def concatenate (input : Bytes) (names : List String) : ProgramRun :=
  if names.isEmpty then .writing input
  else
    names.foldl
      (fun run name =>
        if name = "-" then { run with out := run.out ++ input }
        else if name = "/dev/null" then run
        else { run with
          status := .code 1
          err := run.err ++ Text.utf8 ("cat: " ++ name ++ ": No such file or directory\n") })
      (.silent 0)

/-- Runs one of the programs that need no interpreter. -/
def plain? (name : String) (words : List String) (input : Bytes) : Option ProgramRun :=
  match name with
  | "true" | "sleep" => some (.silent 0)
  | "false" => some (.silent 1)
  | "echo" => some (.writing (echo false words))
  | "cat" => some (concatenate input words)
  | "printf" =>
    some (match words with
      | [] => .complaining 1 "printf: missing operand"
      | text :: rest => .writing (format text (rest.length + 1) rest))
  | _ => none

end Program

end SettingsBroker
