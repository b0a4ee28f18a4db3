/-
# A small shell

Runs command lines made of plain commands: words with quotes and variables,
redirections, pipes, and lists joined by `;`, `&&` and `||`.  The shell can end
itself by a code or by a signal.
-/

import SettingsBroker.Program
import SettingsBroker.Text.Blank

namespace SettingsBroker.Shell

open Text (Bytes)

/-! ## Tokens -/

/-- A piece of a word. -/
inductive Piece where
  /-- Characters that stand for themselves. -/
  | text (chars : List Char)
  | variable (name : List Char)
  deriving DecidableEq, Repr

/-- Where a redirection leads. -/
inductive Target where
  /-- To where another channel leads. -/
  | channel (number : Nat)
  | file
  deriving DecidableEq, Repr

/-- A token of a script. -/
inductive Token where
  /-- A word; it stays even if it is empty when it is `quoted`. -/
  | word (pieces : List Piece) (quoted : Bool)
  /-- A list operator or a pipe. -/
  | operator (text : String)
  /-- A redirection of a channel; the file name, if any, is the next word. -/
  | redirect (channel : Nat) (target : Target)
  deriving DecidableEq, Repr

/-- The name of a variable after a dollar sign, and the rest. -/
def nameAfterDollar? : List Char → Option (List Char × List Char)
  | '$' :: rest => some (['$'], rest)
  | '?' :: rest => some (['?'], rest)
  | '{' :: rest => some (rest.takeWhile (· ≠ '}'), (rest.dropWhile (· ≠ '}')).drop 1)
  | cs =>
    let isName := fun c : Char => c.isAlphanum || c = '_'
    match cs.takeWhile isName with
    | [] => none
    | name => some (name, cs.dropWhile isName)

/-- The pieces of text in double quotes, and what follows the closing quote. -/
def quotedPieces : Nat → List Char → List Piece × List Char
  | 0, cs => ([], cs)
  | _, [] => ([], [])
  | _, '"' :: rest => ([], rest)
  | fuel + 1, '\\' :: c :: rest =>
    let (pieces, left) := quotedPieces fuel rest
    let plain := c = '"' || c = '\\' || c = '$' || c = '\x60'
    (.text (if plain then [c] else ['\\', c]) :: pieces, left)
  | fuel + 1, '$' :: rest =>
    match nameAfterDollar? rest with
    | some (name, rest) =>
      let (pieces, left) := quotedPieces fuel rest
      (.variable name :: pieces, left)
    | none =>
      let (pieces, left) := quotedPieces fuel rest
      (.text ['$'] :: pieces, left)
  | fuel + 1, c :: rest =>
    let (pieces, left) := quotedPieces fuel rest
    (.text [c] :: pieces, left)

/-- Whether a character ends a word. -/
def endsWord (c : Char) : Bool :=
  Text.isBlank c || c = ';' || c = '&' || c = '|' || c = '<' || c = '>'

/-- The pieces of a word, whether any of it is quoted, and what follows it. -/
def wordPieces : Nat → List Char → List Piece × Bool × List Char
  | 0, cs => ([], false, cs)
  | _, [] => ([], false, [])
  | fuel + 1, c :: rest =>
    if c = '\'' then
      let (pieces, _, left) := wordPieces fuel ((rest.dropWhile (· ≠ '\'')).drop 1)
      (.text (rest.takeWhile (· ≠ '\'')) :: pieces, true, left)
    else if c = '"' then
      let (inner, rest) := quotedPieces rest.length rest
      let (pieces, _, left) := wordPieces fuel rest
      (inner ++ pieces, true, left)
    else if c = '\\' then
      let (pieces, _, left) := wordPieces fuel (rest.drop 1)
      (.text (rest.take 1) :: pieces, true, left)
    else if endsWord c then ([], false, c :: rest)
    else if c = '$' then
      match nameAfterDollar? rest with
      | some (name, rest) =>
        let (pieces, quoted, left) := wordPieces fuel rest
        (.variable name :: pieces, quoted, left)
      | none =>
        let (pieces, quoted, left) := wordPieces fuel rest
        (.text [c] :: pieces, quoted, left)
    else
      let (pieces, quoted, left) := wordPieces fuel rest
      (.text [c] :: pieces, quoted, left)

/-- A redirection and what follows it, if the text begins with one. -/
def redirect? (cs : List Char) : Option (Token × List Char) :=
  let (number, rest) := match cs with
    | c :: rest =>
      match rest with
      | '>' :: _ => if c.isDigit then (some (c.toNat - '0'.toNat), rest) else (none, cs)
      | _ => (none, cs)
    | [] => (none, cs)
  match rest with
  | '>' :: '&' :: d :: rest =>
    if d.isDigit then some (.redirect (number.getD 1) (.channel (d.toNat - '0'.toNat)), rest) else none
  | '>' :: '>' :: rest => some (.redirect (number.getD 1) .file, rest)
  | '>' :: rest => some (.redirect (number.getD 1) .file, rest)
  | '<' :: rest => some (.redirect 0 .file, rest)
  | _ => none

/-- The tokens of a script. -/
def tokens : Nat → List Char → List Token
  | 0, _ => []
  | _, [] => []
  | fuel + 1, c :: rest =>
    match redirect? (c :: rest) with
    | some (token, left) => token :: tokens fuel left
    | none =>
      match c, rest with
      | '&', '&' :: rest => .operator "&&" :: tokens fuel rest
      | '|', '|' :: rest => .operator "||" :: tokens fuel rest
      | '|', rest => .operator "|" :: tokens fuel rest
      | ';', rest | '\n', rest | '&', rest => .operator ";" :: tokens fuel rest
      | '#', rest => tokens fuel (rest.dropWhile (· ≠ '\n'))
      | c, rest =>
        if Text.isBlank c then tokens fuel rest
        else
          let (pieces, quoted, left) := wordPieces (rest.length + 1) (c :: rest)
          .word pieces quoted :: tokens fuel left

/-! ## Running -/

/-- The number by which the shell knows itself. -/
def ownNumber : String := "4711"

/-- A shell that runs a script. -/
structure State where
  /-- The code of the last command. -/
  code : Nat
  bindings : List (List Char × String)
  out : Bytes
  err : Bytes
  /-- How the shell ended, if it has. -/
  ended : Option ExitStatus

/-- The value of a variable. -/
def State.value (s : State) (name : List Char) : String :=
  if name = ['$'] then ownNumber
  else if name = ['?'] then toString s.code
  else (s.bindings.lookup name).getD ""

/-- The text of a word. -/
def State.expand (s : State) (pieces : List Piece) : String :=
  String.join (pieces.map fun
    | .text chars => String.ofList chars
    | .variable name => s.value name)

/-- The words and redirections of a command. -/
def State.words (s : State) : List Token → List String × List (Nat × Target)
  | [] => ([], [])
  | .redirect channel .file :: .word _ _ :: rest =>
    let (words, redirects) := s.words rest
    (words, (channel, .file) :: redirects)
  | .redirect channel target :: rest =>
    let (words, redirects) := s.words rest
    (words, (channel, target) :: redirects)
  | .word pieces quoted :: rest =>
    let (words, redirects) := s.words rest
    let text := s.expand pieces
    (if text.isEmpty ∧ !quoted then words else text :: words, redirects)
  | .operator _ :: rest => s.words rest

/-- The number of a signal given by number or by name. -/
def signalOf? (text : String) : Option Nat :=
  match text.toNat? with
  | some number => some number
  | none => ExitStatus.signalNumber? (text.dropPrefix "SIG").toString

/-- The effect of sending the shell a signal. -/
def kill (words : List String) : ProgramRun × Option ExitStatus :=
  let (signal, receivers) := match words with
    | "-s" :: name :: rest => (signalOf? name, rest)
    | first :: rest =>
      match first.toList with
      | '-' :: name => (signalOf? (String.ofList name), rest)
      | _ => (some 15, words)
    | [] => (some 15, [])
  match signal with
  | some 0 => (.silent 0, none)
  | some number =>
    if receivers.contains ownNumber then (.silent 0, some (.signal number))
    else (.complaining 1 "sh: 1: kill: No such process", none)
  | none => (.complaining 1 "sh: 1: kill: Illegal option", none)

/-- Runs one command and says whether the shell ends with it. -/
def State.command (s : State) (words : List String) (input : Bytes) :
    ProgramRun × Option ExitStatus :=
  match words with
  | [] | ":" :: _ => (.silent 0, none)
  | "exit" :: rest =>
    match rest with
    | [] => (.silent s.code, some (.code s.code))
    | text :: _ =>
      match text.toNat? with
      | some code => (.silent (code % 256), some (.code (code % 256)))
      | none => (.complaining 2 ("sh: 1: exit: Illegal number: " ++ text), some (.code 2))
  | "kill" :: rest => kill rest
  | "echo" :: rest => (.writing (Program.echo true rest), none)
  | name :: rest =>
    match Program.plain? name rest input with
    | some run => (run, none)
    | none => (.complaining 127 ("sh: 1: " ++ name ++ ": not found"), none)

/-- The channels after redirections: where output and complaints go, as the
number of a channel or nowhere. -/
def channels (redirects : List (Nat × Target)) : Option Nat × Option Nat :=
  redirects.foldl
    (fun (out, err) (channel, target) =>
      let goal := match target with
        | .channel 1 => out
        | .channel 2 => err
        | _ => none
      match channel with
      | 1 => (goal, err)
      | 2 => (out, goal)
      | _ => (out, err))
    (some 1, some 2)

/-- Runs the commands of a pipe, each of which reads what the one before it
writes. -/
def State.pipe (s : State) (input : Bytes) : List (List Token) → State
  | [] => s
  | command :: rest =>
    let (words, redirects) := s.words command
    let assigned := words.takeWhile fun word => word.contains '=' && !word.startsWith "="
    let (run, ended) := s.command (words.drop assigned.length) input
    let bindings := assigned.map fun word =>
      (word.toList.takeWhile (· ≠ '='), String.ofList ((word.toList.dropWhile (· ≠ '=')).drop 1))
    let (out, err) := channels redirects
    let written := fun channel =>
      (if out = some channel then run.out else []) ++ (if err = some channel then run.err else [])
    let code := match run.status with
      | .code code => code
      | .signal number => 128 + number
    let next := { s with code, bindings := bindings ++ s.bindings, err := s.err ++ written 2 }
    match rest with
    | [] => { next with out := s.out ++ written 1, ended }
    | _ => next.pipe (written 1) rest

/-- Cuts tokens at the operators for which `cuts` holds: the first part, and the
later ones with the operators before them. -/
def cutAt (cuts : String → Bool) : List Token → List Token × List (String × List Token)
  | [] => ([], [])
  | .operator text :: rest =>
    let (first, later) := cutAt cuts rest
    if cuts text then ([], (text, first) :: later) else (.operator text :: first, later)
  | token :: rest =>
    let (first, later) := cutAt cuts rest
    (token :: first, later)

/-- Runs the pipe after an operator if the operator asks for it. -/
def State.item (s : State) (operator : String) (pipe : List Token) : State :=
  let wanted :=
    match operator with
    | "&&" => s.code == 0
    | "||" => s.code != 0
    | _ => true
  let (first, later) := cutAt (· = "|") pipe
  if s.ended.isNone && wanted && !pipe.isEmpty then s.pipe [] (first :: later.map (·.2)) else s

/-- Runs a script to its end. -/
def run (script : String) : ProgramRun :=
  let (first, later) := cutAt (· ≠ "|") (tokens script.length script.toList)
  let fresh : State := ⟨0, [], [], [], none⟩
  let s := ((";", first) :: later).foldl (fun s (operator, pipe) => State.item s operator pipe) fresh
  ⟨s.ended.getD (.code s.code), s.out, s.err⟩

end SettingsBroker.Shell

namespace SettingsBroker.Program

/-- The directories and other files that are no programs. -/
def notExecutable : List String :=
  ["", ".", "..", "/bin", "/dev", "/dev/null", "/etc", "/etc/hosts", "/etc/passwd", "/home", "/lib",
    "/opt", "/proc", "/root", "/sbin", "/sys", "/tmp", "/usr", "/usr/bin", "/usr/lib", "/usr/local",
    "/var"]

/-- The directories in which programs are found. -/
def folders : List String :=
  ["/bin/", "/usr/bin/"]

/-- The bare name of a program that is named by its path. -/
def bareName (name : String) : String :=
  match folders.find? (fun folder => name.startsWith folder) with
  | some folder => (name.drop folder.length).toString
  | none => name

/-- The name without separators at its end. -/
def withoutSlashes (name : String) : String :=
  String.ofList (name.toList.reverse.dropWhile (· = '/')).reverse

/-- Runs a program with words. -/
def run (name : String) (words : List String) : Except IoCause ProgramRun :=
  match bareName name, words with
  | "sh", "-c" :: script :: _ | "dash", "-c" :: script :: _ | "bash", "-c" :: script :: _ =>
    .ok (Shell.run script)
  | "sh", "-ec" :: script :: _ => .ok (Shell.run script)
  | "sh", [] | "dash", [] | "bash", [] => .ok (.silent 0)
  | bare, _ =>
    match plain? bare words [] with
    | some run => .ok run
    | none =>
      if name ≠ "" ∧ notExecutable.contains (withoutSlashes name) then .error .permissionDenied
      else .error .notFound

end SettingsBroker.Program
