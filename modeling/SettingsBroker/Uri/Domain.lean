/-
# Domain names

The host of a URI with a special scheme is a domain name: labels with dots
between them.  Its characters are mapped and composed first.  A label with
characters outside ASCII is written in ASCII behind the mark `xn--`, and a label
that is given so must stand for one that could be written so.  The whole name
must not contain a character that would end or confuse the host.
-/

import SettingsBroker.Text.Canonical
import SettingsBroker.Text.Percent
import SettingsBroker.Text.Script
import SettingsBroker.Uri.Domain.Mapping
import SettingsBroker.Uri.Domain.Punycode

namespace SettingsBroker.Uri

open Text (Bytes)
open Text.Script

namespace Domain

/-! ## Joiners

Two characters that cannot be seen control how their neighbours join.  They may
follow a mark that takes away a vowel; the one that parts its neighbours may
also stand between letters that would join otherwise. -/

/-- The character that parts its neighbours. -/
def nonJoiner : Char := '\u200C'

/-- The character that joins its neighbours. -/
def joiner : Char := '\u200D'

/-- The combining class of the marks that take away a vowel. -/
def vowelKiller : Nat := 9

/-- Whether the next letter, past those that count as absent, joins on the given
side. -/
def joinsWith (ways : List Joining) (letters : List Char) : Bool :=
  match letters.dropWhile (joining · = .transparent) with
  | [] => false
  | c :: _ => ways.contains (joining c)

/-- Whether the joiners of a label stand where they may; `before` is what comes
before, the latest first. -/
def joinersFit (before : List Char) : List Char → Bool
  | [] => true
  | c :: rest =>
    let afterKiller := before.head?.any (Text.Canonical.combiningClass ·.toNat = vowelKiller)
    let fits :=
      if c = nonJoiner then
        afterKiller || (joinsWith [.following, .both] before && joinsWith [.preceding, .both] rest)
      else c != joiner || afterKiller
    fits && joinersFit (c :: before) rest

/-! ## Directions -/

/-- Whether a label has characters that are written from right to left. -/
def isRightToLeft (label : List Char) : Bool :=
  label.any fun c => [.right, .arabicLetter, .arabicNumber].contains (direction c)

/-- The directions that go with any others. -/
def companions : List Direction := [.number, .numberSign, .neutral, .mark]

/-- Whether a label stays readable in a name with labels of both directions: its
characters go with its first one, and its last one holds it together. -/
def directionsFit (label : List Char) : Bool :=
  let directions := label.map direction
  let last := (directions.reverse.dropWhile (· = .mark)).head?
  let within := fun allowed : List Direction =>
    directions.all (allowed ++ companions).contains
  match directions with
  | [] => true
  | .left :: _ => within [.left] && last.any ([.left, .number].contains ·)
  | first :: _ =>
    [.right, .arabicLetter].contains first && within [.right, .arabicLetter, .arabicNumber]
      && last.any ([.right, .arabicLetter, .number, .arabicNumber].contains ·)
      && !(directions.contains .number && directions.contains .arabicNumber)

/-! ## Labels -/

/-- A label as it is meant and as it is written. -/
structure Label where
  meant : List Char
  written : List Char
  deriving DecidableEq, Repr

/-- The mark of a label written in ASCII. -/
def mark : List Char := "xn--".toList

/-- Whether a label may be meant: it does not begin with a mark, and its joiners
stand where they may. -/
def isSound (label : List Char) : Bool :=
  !label.head?.any isMark && joinersFit [] label

/-- Whether a label is unchanged by mapping and composing. -/
def isStable (label : List Char) : Bool :=
  label.all (treatment · = .kept) && Text.Canonical.composed label = label

/-- Reads a label whose characters have been mapped and composed. -/
def Label.read? (label : List Char) : Option Label :=
  if mark.isPrefixOf label then
    match Punycode.decode? (label.drop mark.length) with
    | some meant =>
      if !meant.all Punycode.isAscii && isStable meant && isSound meant then some ⟨meant, label⟩
      else none
    | none => none
  else if label.all Punycode.isAscii then some ⟨label, label⟩
  else if isSound label then some ⟨label, mark ++ Punycode.encode label⟩
  else none

/-- The ASCII characters that no domain name may contain. -/
def isForbidden (c : Char) : Bool :=
  c.toNat ≤ 0x20 || c.toNat == 0x7F || "%#/:<>?@[\\]^|".toList.contains c

end Domain

/-- The written form of a domain name, if it is one. -/
def domain? (raw : Bytes) : Option String := do
  let name ← Text.ofUtf8? raw
  let mapped ← Domain.mapped? name.toList
  let labels ← ((Text.Canonical.composed mapped).splitOn '.').mapM Domain.Label.read?
  let written := ['.'].intercalate (labels.map (·.written))
  if written.any Domain.isForbidden then none
  else if labels.any (Domain.isRightToLeft ·.meant)
      && !labels.all (Domain.directionsFit ·.meant) then none
  else some (String.ofList written)

end SettingsBroker.Uri
