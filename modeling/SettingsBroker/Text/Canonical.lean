/-
# Canonical composition

Some texts are spelled differently and are the same nevertheless: a letter with
a mark on it can be one character or two, and marks in different places can
come in any order.  The composed form takes letters and marks apart, puts the
marks in order by their classes, and puts together what can be put together.
-/

import SettingsBroker.Text.Canonical.Table
import SettingsBroker.Text.Table

namespace SettingsBroker.Text.Canonical

/-- The runs of combining classes. -/
def classRuns : List (Nat × Nat × Nat) := Table.triples (Table.numbers classTable)

/-- The composed pairs. -/
def composedPairs : List (Nat × Nat × Nat) := Table.triples (Table.numbers pairTable)

/-- The combining class of a character; zero for one that begins something new. -/
def combiningClass (c : Nat) : Nat := Table.value classRuns c

/-! ## Hangul

Syllables are put together from a leading consonant, a vowel and perhaps a
trailing consonant, by arithmetic. -/

/-- The first syllable. -/
def syllableBase : Nat := 0xAC00

/-- The first leading consonant. -/
def leadBase : Nat := 0x1100

/-- The first vowel. -/
def vowelBase : Nat := 0x1161

/-- The position before the first trailing consonant. -/
def trailBase : Nat := 0x11A7

/-- The parts of a syllable, if the character is one. -/
def syllableParts? (c : Nat) : Option (List Nat) :=
  if syllableBase ≤ c ∧ c < syllableBase + 11172 then
    let index := c - syllableBase
    let trail := index % 28
    some ([leadBase + index / 588, vowelBase + index % 588 / 28]
      ++ if trail = 0 then [] else [trailBase + trail])
  else none

/-- The syllable of a leading consonant and a vowel, or of a syllable without
trailing consonant and one. -/
def syllable? (a b : Nat) : Option Nat :=
  if leadBase ≤ a ∧ a < leadBase + 19 ∧ vowelBase ≤ b ∧ b < vowelBase + 21 then
    some (syllableBase + ((a - leadBase) * 21 + (b - vowelBase)) * 28)
  else if syllableBase ≤ a ∧ a < syllableBase + 11172 ∧ (a - syllableBase) % 28 = 0
      ∧ trailBase < b ∧ b < trailBase + 28 then
    some (a + (b - trailBase))
  else none

/-! ## The composed form -/

/-- A character taken apart, to a depth that no character exceeds. -/
def takeApart : Nat → Nat → List Nat
  | 0, c => [c]
  | depth + 1, c =>
    match syllableParts? c with
    | some parts => parts
    | none =>
      match composedPairs.find? (fun (_, _, whole) => whole = c) with
      | some (a, b, _) => takeApart depth a ++ [b]
      | none => [c]

/-- Puts a mark among the marks before it, the latest first: after those of a
class that is not higher. -/
def insertMark (mark : Nat) : List Nat → List Nat
  | [] => [mark]
  | last :: earlier =>
    if combiningClass mark < combiningClass last then last :: insertMark mark earlier
    else mark :: last :: earlier

/-- Puts marks in order by their classes; `marks` are those since the last
character that is none, the latest first. -/
def orderFrom (marks : List Nat) : List Nat → List Nat
  | [] => marks.reverse
  | c :: rest =>
    if combiningClass c = 0 then marks.reverse ++ c :: orderFrom [] rest
    else orderFrom (insertMark c marks) rest

/-- The character that two characters compose to. -/
def compose? (a b : Nat) : Option Nat :=
  match syllable? a b with
  | some whole => some whole
  | none => (composedPairs.find? fun (x, y, _) => x = a ∧ y = b).map (·.2.2)

/-- Puts together what can be put together after a character that began
something new; `between` are the marks that stayed apart, the latest first. -/
def composeFrom (first : Nat) (between : List Nat) : List Nat → List Nat
  | [] => first :: between.reverse
  | c :: rest =>
    let k := combiningClass c
    let free := match between with
      | [] => true
      | last :: _ => combiningClass last < k
    match (if free then compose? first c else none) with
    | some whole => composeFrom whole between rest
    | none =>
      if k = 0 then first :: between.reverse ++ composeFrom c [] rest
      else composeFrom first (c :: between) rest

/-- Puts together what can be put together. -/
def composeAll (cs : List Nat) : List Nat :=
  let marks := cs.takeWhile (combiningClass · ≠ 0)
  match cs.dropWhile (combiningClass · ≠ 0) with
  | [] => marks
  | first :: rest => marks ++ composeFrom first [] rest

/-- The composed form of a text.  ASCII characters never combine. -/
def composed (text : List Char) : List Char :=
  if text.all (·.toNat < 0x80) then text
  else
    let apart := text.flatMap fun c => takeApart 4 c.toNat
    (composeAll (orderFrom [] apart)).map Char.ofNat

end SettingsBroker.Text.Canonical
