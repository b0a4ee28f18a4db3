/-
# Labels in ASCII

A label with characters outside ASCII is written with its ASCII characters in
front and the others behind them, each as the distance that one has to go from
the one before: round after round through all positions of the label, with a
higher character in each round.  Distances are numbers in base thirty-six with
the lowest digit first, where a digit below a threshold is the last one, and
the thresholds adapt to the distances seen so far.
-/

namespace SettingsBroker.Uri.Domain.Punycode

/-- The digit of a value below thirty-six. -/
def digit (value : Nat) : Char :=
  if value < 26 then Char.ofNat ('a'.toNat + value) else Char.ofNat ('0'.toNat + (value - 26))

def digitValue? (c : Char) : Option Nat :=
  if 'a' ≤ c ∧ c ≤ 'z' then some (c.toNat - 'a'.toNat)
  else if 'A' ≤ c ∧ c ≤ 'Z' then some (c.toNat - 'A'.toNat)
  else if '0' ≤ c ∧ c ≤ '9' then some (c.toNat - '0'.toNat + 26)
  else none

/-- The threshold of the digit at a position, which counts in steps of
thirty-six. -/
def threshold (bias position : Nat) : Nat :=
  min 26 (max 1 (position - bias))

/-- Shrinks a distance until it is small and counts the steps in thirty-sixes. -/
def shrink (distance steps : Nat) : Nat × Nat :=
  if h : 455 < distance then shrink (distance / 35) (steps + 36) else (distance, steps)
  termination_by distance
  decreasing_by omega

/-- The bias after a distance; `count` characters are placed now. -/
def adapt (distance count : Nat) (isFirst : Bool) : Nat :=
  let halved := if isFirst then distance / 700 else distance / 2
  let (small, steps) := shrink (halved + halved / count) 0
  steps + 36 * small / (small + 38)

/-- A distance in digits, from a position on. -/
def writeNumber (bias : Nat) : Nat → Nat → Nat → List Char
  | 0, _, _ => []
  | bound + 1, position, n =>
    let t := threshold bias position
    if n < t then [digit n]
    else digit (t + (n - t) % (36 - t)) :: writeNumber bias bound (position + 36) ((n - t) / (36 - t))

/-- What has been written, with what is needed to go on. -/
structure Writing where
  digits : List Char
  /-- The distance gone since the last character was placed. -/
  distance : Nat
  bias : Nat
  /-- The number of characters placed. -/
  count : Nat

/-- Goes past one character of the label in the round of a character. -/
def pass (ascii round : Nat) (w : Writing) (c : Char) : Writing :=
  if c.toNat < round then { w with distance := w.distance + 1 }
  else if c.toNat = round then
    { digits := w.digits ++ writeNumber w.bias (w.distance + 1) 36 w.distance
      distance := 0
      bias := adapt w.distance (w.count + 1) (w.count = ascii)
      count := w.count + 1 }
  else w

/-- Makes the rounds of the given characters; `next` is the character whose round
would be next. -/
def makeRounds (label : List Char) (ascii : Nat) (next : Nat) (w : Writing) : List Nat → Writing
  | [] => w
  | round :: rest =>
    let start := { w with distance := w.distance + (round - next) * (w.count + 1) }
    let done := label.foldl (pass ascii round) start
    makeRounds label ascii (round + 1) { done with distance := done.distance + 1 } rest

/-- Whether a character is an ASCII character. -/
def isAscii (c : Char) : Bool :=
  c.toNat < 0x80

/-- A label in ASCII. -/
def encode (label : List Char) : List Char :=
  let plain := label.filter isAscii
  let rounds := ((label.filter (!isAscii ·)).map Char.toNat).mergeSort.eraseDups
  let written := makeRounds label plain.length 0x80 ⟨[], 0, 72, plain.length⟩ rounds
  plain ++ (if plain.isEmpty then [] else ['-']) ++ written.digits

/-- Reads a number from a position on: the value, which adds to `sum`, and the rest. -/
def readNumber? (bias : Nat) : Nat → Nat → Nat → List Char → Option (Nat × List Char)
  | _, _, _, [] => none
  | position, weight, sum, c :: rest =>
    match digitValue? c with
    | none => none
    | some value =>
      let t := threshold bias position
      let sum := sum + value * weight
      if value < t then some (sum, rest)
      else readNumber? bias (position + 36) (weight * (36 - t)) sum rest

/-- The largest value of a character. -/
def lastCharacter : Nat := 0x10FFFF

/-- Places the characters that digits describe among those placed before. -/
def place? : Nat → List Char → Nat → Nat → Nat → List Char → Option (List Char)
  | _, placed, _, _, _, [] => some placed
  | 0, _, _, _, _, _ => none
  | bound + 1, placed, round, position, bias, digits => do
    let (target, rest) ← readNumber? bias 36 1 position digits
    let size := placed.length + 1
    let round := round + target / size
    if round > lastCharacter ∨ (0xD800 ≤ round ∧ round < 0xE000) then none
    else
      let place := target % size
      place? bound (placed.take place ++ Char.ofNat round :: placed.drop place) round (place + 1)
        (adapt (target - position) size (position = 0)) rest

/-- The label that a label in ASCII stands for. -/
def decode? (text : List Char) : Option (List Char) :=
  let digits := (text.reverse.takeWhile (· ≠ '-')).reverse
  let plain := (text.take (text.length - digits.length)).dropLast
  place? text.length plain 0x80 0 72 digits

end SettingsBroker.Uri.Domain.Punycode
