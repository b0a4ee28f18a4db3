/-
# TOML scalars

The values of a TOML text that have no parts: truth values, numbers, dates and
times, written without quotes.  Numbers may be grouped by underscores between
digits.  A number too large for any machine type is no value.
-/

import SettingsBroker.Json
import SettingsBroker.Uri.Address

namespace SettingsBroker.Toml

open Uri (numeral isHexDigit)

/-- The digits of a group of digits, in which single underscores may stand
between digits. -/
def digits? (isDigit : Char → Bool) : List Char → Option (List Char)
  | [] => none
  | [c] => if isDigit c then some [c] else none
  | c :: '_' :: rest =>
    if isDigit c then (digits? isDigit rest).map (c :: ·) else none
  | c :: rest => if isDigit c then (digits? isDigit rest).map (c :: ·) else none

/-- Whether a digit is a binary one. -/
def isBinaryDigit (c : Char) : Bool := c = '0' || c = '1'

/-- Whether a digit is an octal one. -/
def isOctalDigit (c : Char) : Bool := '0' ≤ c && c ≤ '7'

/-- Digits without a leading zero. -/
def whole? (cs : List Char) : Option (List Char) :=
  (digits? Char.isDigit cs).bind fun digits =>
    if digits.head? = some '0' ∧ digits.length > 1 then none else some digits

/-- Splits off a sign; `true` is the minus. -/
def splitSign : List Char → Bool × List Char
  | '-' :: rest => (true, rest)
  | '+' :: rest => (false, rest)
  | cs => (false, cs)

/-- The value of an integer. -/
def integer? (cs : List Char) : Option Int :=
  let value : Option Int :=
    match cs with
    | '0' :: 'x' :: rest => (digits? isHexDigit rest).map fun ds => Int.ofNat (numeral 16 ds)
    | '0' :: 'o' :: rest => (digits? isOctalDigit rest).map fun ds => Int.ofNat (numeral 8 ds)
    | '0' :: 'b' :: rest => (digits? isBinaryDigit rest).map fun ds => Int.ofNat (numeral 2 ds)
    | _ =>
      let (negative, rest) := splitSign cs
      (whole? rest).map fun ds =>
        if negative then - Int.ofNat (numeral 10 ds) else Int.ofNat (numeral 10 ds)
  value.bind fun n => if -Int.pow 2 127 ≤ n ∧ n < Int.pow 2 128 then some n else none

/-- Whether `mantissa · 10 ^ exponent` is too large for a double. -/
def overflows (mantissa : Nat) (exponent : Int) : Bool :=
  let size := Int.ofNat (Nat.toDigits 10 mantissa).length + exponent
  if mantissa = 0 ∨ size < 300 then false
  else if size > 310 then true
  else
    let bound := Nat.pow 2 1024 - Nat.pow 2 970
    if exponent ≥ 0 then mantissa * Nat.pow 10 exponent.toNat ≥ bound
    else mantissa ≥ bound * Nat.pow 10 (-exponent).toNat

/-- Whether the text is a finite fraction or a power notation that a double can
hold, or one of the special numbers. -/
def isFloat (cs : List Char) : Bool :=
  let (_, unsigned) := splitSign cs
  if unsigned = "inf".toList ∨ unsigned = "nan".toList then true
  else
    let isExponent := fun c => c = 'e' || c = 'E'
    let head := unsigned.takeWhile (fun c => !isExponent c)
    let exponent? : Option Int :=
      match unsigned.dropWhile (fun c => !isExponent c) with
      | [] => some 0
      | _ :: tail =>
        let (negative, rest) := splitSign tail
        (digits? Char.isDigit rest).map fun ds =>
          if negative then - Int.ofNat (numeral 10 ds) else Int.ofNat (numeral 10 ds)
    let parts? : Option (List Char × List Char) :=
      match head.dropWhile (· ≠ '.') with
      | [] => (whole? head).map fun ds => (ds, [])
      | _ :: fraction => do
        let ds ← whole? (head.takeWhile (· ≠ '.'))
        let fs ← digits? Char.isDigit fraction
        return (ds, fs)
    let marked := unsigned.any (fun c => c = '.' || isExponent c)
    match exponent?, parts? with
    | some exponent, some (ds, fs) =>
      marked && !overflows (numeral 10 (ds ++ fs)) (exponent - Int.ofNat fs.length)
    | _, _ => false

/-! ## Dates and times -/

/-- The number that exactly `n` digits at the front spell, and the rest. -/
def fixed? (n : Nat) (cs : List Char) : Option (Nat × List Char) :=
  let digits := cs.take n
  if digits.length = n ∧ digits.all Char.isDigit then some (numeral 10 digits, cs.drop n) else none

/-- Drops one expected character. -/
def expect? (c : Char) : List Char → Option (List Char)
  | d :: rest => if c = d then some rest else none
  | [] => none

/-- The number of days in a month. -/
def daysIn (year month : Nat) : Nat :=
  if month = 2 then
    if year % 4 = 0 ∧ (year % 100 ≠ 0 ∨ year % 400 = 0) then 29 else 28
  else if month = 4 ∨ month = 6 ∨ month = 9 ∨ month = 11 then 30
  else 31

/-- Drops a date of the calendar. -/
def date? (cs : List Char) : Option (List Char) := do
  let (year, cs) ← fixed? 4 cs
  let cs ← expect? '-' cs
  let (month, cs) ← fixed? 2 cs
  let cs ← expect? '-' cs
  let (day, cs) ← fixed? 2 cs
  if 1 ≤ month ∧ month ≤ 12 ∧ 1 ≤ day ∧ day ≤ daysIn year month then some cs else none

/-- Drops a time of day; seconds, and their fraction, may be left out. -/
def time? (cs : List Char) : Option (List Char) := do
  let (hour, cs) ← fixed? 2 cs
  let cs ← expect? ':' cs
  let (minute, cs) ← fixed? 2 cs
  if hour > 23 ∨ minute > 59 then none
  match cs with
  | ':' :: rest =>
    let (second, rest) ← fixed? 2 rest
    if second > 60 then none
    match rest with
    | '.' :: fraction =>
      let after := fraction.dropWhile Char.isDigit
      if after.length = fraction.length then none else some after
    | _ => some rest
  | _ => some cs

/-- Whether the text is a distance from universal time. -/
def isOffset (cs : List Char) : Bool :=
  match cs with
  | ['Z'] | ['z'] => true
  | sign :: rest =>
    let distance? := do
      let (hours, rest) ← fixed? 2 rest
      let rest ← expect? ':' rest
      let (minutes, rest) ← fixed? 2 rest
      if rest = [] then some (hours * 60 + minutes) else none
    (sign = '+' || sign = '-') && distance?.any (· ≤ 24 * 60)
  | [] => false

/-- Whether the text is a date, a time, or both with or without an offset. -/
def isMoment (cs : List Char) : Bool :=
  match date? cs with
  | some [] => true
  | some (delimiter :: rest) =>
    (delimiter = 'T' || delimiter = 't' || delimiter = ' ')
      && (time? rest).any (fun after => after = [] || isOffset after)
  | none => time? cs = some []

/-- The value of an unquoted scalar.  A moment counts as an object without
members. -/
def scalar? (cs : List Char) : Option Json :=
  match String.ofList cs with
  | "true" => some (.bool true)
  | "false" => some (.bool false)
  | word =>
    match integer? cs with
    | some n => some (.number (toString n))
    | none =>
      if isFloat cs then some (.number word)
      else if isMoment cs then some (.object [])
      else none

end SettingsBroker.Toml
