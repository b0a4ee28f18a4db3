/-
# Tables of characters

The tables of the character properties are texts: numbers in base sixteen with
blanks between them, in rows of a fixed width.  Most rows describe a run of
characters by its first one and its length.
-/

namespace SettingsBroker.Text.Table

/-- The numbers of a table that go on with the given text, where `begun` is the
number being read, if one is. -/
def numbersFrom (begun : Option Nat) : List Char → List Nat
  | [] => begun.toList
  | c :: rest =>
    if '0' ≤ c ∧ c ≤ '9' then numbersFrom (some (begun.getD 0 * 16 + (c.toNat - '0'.toNat))) rest
    else if 'a' ≤ c ∧ c ≤ 'f' then
      numbersFrom (some (begun.getD 0 * 16 + (c.toNat - 'a'.toNat + 10))) rest
    else begun.toList ++ numbersFrom none rest

/-- The numbers of a table. -/
def numbers (text : String) : List Nat :=
  numbersFrom none text.toList

/-- Numbers in rows of two. -/
def pairs : List Nat → List (Nat × Nat)
  | a :: b :: rest => (a, b) :: pairs rest
  | _ => []

/-- Numbers in rows of three. -/
def triples : List Nat → List (Nat × Nat × Nat)
  | a :: b :: c :: rest => (a, b, c) :: triples rest
  | _ => []

/-- Numbers in rows of four. -/
def quadruples : List Nat → List (Nat × Nat × Nat × Nat)
  | a :: b :: c :: d :: rest => (a, b, c, d) :: quadruples rest
  | _ => []

/-- Whether a character is in one of the runs. -/
def contains (runs : List (Nat × Nat)) (c : Nat) : Bool :=
  runs.any fun (first, length) => first ≤ c && c < first + length

/-- The value of the run that a character is in, or zero. -/
def value (runs : List (Nat × Nat × Nat)) (c : Nat) : Nat :=
  ((runs.find? fun (first, length, _) => first ≤ c && c < first + length).map (·.2.2)).getD 0

end SettingsBroker.Text.Table
