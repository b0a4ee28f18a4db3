/-
# Properties of writing

The direction in which characters are written, the ways in which they join with
their neighbours, and which of them are marks on others.
-/

import SettingsBroker.Text.Script.Table
import SettingsBroker.Text.Table

namespace SettingsBroker.Text.Script

/-- The direction of a character. -/
inductive Direction where
  /-- Letters written from left to right. -/
  | left
  /-- Letters written from right to left. -/
  | right
  /-- Arabic letters. -/
  | arabicLetter
  /-- Arabic digits. -/
  | arabicNumber
  /-- European digits. -/
  | number
  /-- What stands between digits or before them: signs, separators and terms. -/
  | numberSign
  /-- Marks, which take the direction of what they stand on. -/
  | mark
  /-- What has no direction of its own. -/
  | neutral
  /-- White space and commands to change the direction. -/
  | control
  deriving DecidableEq, Repr

/-- The runs of directions. -/
def directionRuns : List (Nat × Nat × Nat) := Table.triples (Table.numbers directionTable)

/-- The direction of a character. -/
def direction (c : Char) : Direction :=
  match Table.value directionRuns c.toNat with
  | 0 => .left
  | 1 => .right
  | 2 => .arabicLetter
  | 3 => .arabicNumber
  | 4 => .number
  | 5 | 6 | 7 => .numberSign
  | 8 | 9 => .neutral
  | 10 => .mark
  | _ => .control

/-- The way in which a character joins with its neighbours. -/
inductive Joining where
  /-- Not at all. -/
  | none
  /-- Whatever its neighbours are. -/
  | causing
  /-- On both sides. -/
  | both
  /-- With what follows it. -/
  | following
  /-- With what comes before it. -/
  | preceding
  /-- As if it were not there. -/
  | transparent
  deriving DecidableEq, Repr

/-- The runs of ways to join. -/
def joiningRuns : List (Nat × Nat × Nat) := Table.triples (Table.numbers joiningTable)

/-- The way in which a character joins with its neighbours. -/
def joining (c : Char) : Joining :=
  match Table.value joiningRuns c.toNat with
  | 1 => .causing
  | 2 => .both
  | 3 => .following
  | 4 => .preceding
  | 5 => .transparent
  | _ => .none

/-- The runs of marks. -/
def markRuns : List (Nat × Nat) := Table.pairs (Table.numbers markTable)

/-- Whether a character is a mark on another. -/
def isMark (c : Char) : Bool :=
  Table.contains markRuns c.toNat

end SettingsBroker.Text.Script
