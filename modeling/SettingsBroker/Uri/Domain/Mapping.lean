/-
# Mapping domain names

Before a domain name is looked at, its characters are mapped: capitals become
small, variants become the plain characters, and some characters are ignored.
-/

import SettingsBroker.Text.Table
import SettingsBroker.Uri.Domain.Table

namespace SettingsBroker.Uri.Domain

open Text

/-- What becomes of a character of a domain name. -/
inductive Treatment where
  | kept
  | ignored
  | replaced (characters : List Nat)
  | refused
  deriving DecidableEq, Repr

/-- The runs of ignored characters. -/
def ignoredRuns : List (Nat × Nat) := Table.pairs (Table.numbers ignoredTable)

/-- The runs of characters that may not occur. -/
def disallowedRuns : List (Nat × Nat) := Table.pairs (Table.numbers disallowedTable)

/-- The runs of characters mapped to one character each. -/
def singleRuns : List (Nat × Nat × Nat × Nat) := Table.quadruples (Table.numbers singleTable)

/-- Rows made of a character, a length and so many targets. -/
def expansionRows : Nat → List Nat → List (Nat × List Nat)
  | bound + 1, c :: length :: rest =>
    (c, rest.take length) :: expansionRows bound (rest.drop length)
  | _, _ => []

/-- The characters mapped to several, with their targets. -/
def expansions : List (Nat × List Nat) :=
  let numbers := Table.numbers expansionTable
  expansionRows numbers.length numbers

/-- The one character that a character is mapped to, if there is one. -/
def single? (c : Nat) : Option Nat :=
  (singleRuns.find? fun (first, length, distance, _) =>
      first ≤ c && c < first + length * distance && (c - first) % distance == 0).map
    fun (first, _, _, target) => target + (c - first)

/-- What becomes of a character of a domain name. -/
def treatment (c : Char) : Treatment :=
  let n := c.toNat
  if n < 0x80 then
    if c.isUpper then .replaced [c.toLower.toNat] else .kept
  else if Table.contains ignoredRuns n then .ignored
  else if Table.contains disallowedRuns n then .refused
  else
    match single? n with
    | some target => .replaced [target]
    | none =>
      match expansions.lookup n with
      | some targets => .replaced targets
      | none => .kept

/-- The mapped form of a domain name, if all its characters may occur. -/
def mapped? (name : List Char) : Option (List Char) :=
  (name.mapM fun c =>
    match treatment c with
    | .kept => some [c]
    | .ignored => some []
    | .replaced targets => some (targets.map Char.ofNat)
    | .refused => none).map List.flatten

end SettingsBroker.Uri.Domain
