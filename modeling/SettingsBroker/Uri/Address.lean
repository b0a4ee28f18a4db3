/-
# Internet addresses as hosts

A host that ends in a number is an IPv4 address in one of its loose spellings:
one to four parts, each decimal, octal or hexadecimal, the last part filling
the bytes that are left.  A host in brackets is an IPv6 address: eight groups,
one run of zero groups abbreviated, the last two groups possibly spelled as an
IPv4 address.  Both have one written form.
-/

namespace SettingsBroker.Uri

/-- The value of a digit in bases up to sixteen. -/
def digitValue (c : Char) : Nat :=
  if c.isDigit then c.toNat - '0'.toNat
  else if 'a' ≤ c ∧ c ≤ 'f' then c.toNat - 'a'.toNat + 10
  else c.toNat - 'A'.toNat + 10

/-- Whether a character is a hexadecimal digit. -/
def isHexDigit (c : Char) : Bool :=
  c.isDigit || ('a' ≤ c && c ≤ 'f') || ('A' ≤ c && c ≤ 'F')

/-- The number that digits spell in a base. -/
def numeral (base : Nat) (digits : List Char) : Nat :=
  digits.foldl (fun acc c => acc * base + digitValue c) 0

/-- The lower-case hexadecimal spelling of a number, without leading zeros. -/
def hexadecimal (n : Nat) : String :=
  String.ofList (Nat.toDigits 16 n)

/-! ## IPv4 -/

/-- The number that one part of an IPv4 spelling stands for: `0x` marks
hexadecimal and a leading zero octal, and a bare mark is zero. -/
def ipv4Part? (part : List Char) : Option Nat :=
  match part with
  | [] => none
  | '0' :: x :: digits =>
    if x = 'x' ∨ x = 'X' then
      if digits.all isHexDigit then some (numeral 16 digits) else none
    else if (x :: digits).all (fun c => '0' ≤ c && c ≤ '7') then some (numeral 8 (x :: digits))
    else none
  | digits => if digits.all Char.isDigit then some (numeral 10 digits) else none

/-- The dot-separated parts of a host, where one dot at the very end does not
count. -/
def hostParts (host : List Char) : List (List Char) :=
  let parts := host.splitOn '.'
  if parts.getLast? = some [] ∧ parts.length > 1 then parts.dropLast else parts

/-- Whether a host has to be read as an IPv4 address: its last part is a row
of digits or a number in another base. -/
def endsInNumber (host : List Char) : Bool :=
  match (hostParts host).getLast? with
  | none | some [] => false
  | some last => last.all Char.isDigit || (ipv4Part? last).isSome

/-- The value of an IPv4 address, if the spelling is one. -/
def ipv4? (host : List Char) : Option Nat := do
  let parts := hostParts host
  if parts.length > 4 then none
  let numbers ← parts.mapM ipv4Part?
  let last ← numbers.getLast?
  let front := numbers.dropLast
  if front.any (· > 255) then none
  if last ≥ Nat.pow 256 (4 - front.length) then none
  some (front.zipIdx.foldl (fun acc (n, i) => acc + n * Nat.pow 256 (3 - i)) last)

/-- The dotted decimal form of an IPv4 address. -/
def ipv4Text (address : Nat) : String :=
  ".".intercalate ([3, 2, 1, 0].map fun i => toString (address / Nat.pow 256 i % 256))

/-! ## IPv6 -/

/-- The two groups that a strict dotted decimal ending stands for. -/
def ipv4Groups? (tail : List Char) : Option (List Nat) := do
  let octets ← (tail.splitOn '.').mapM fun part =>
    if part ≠ [] ∧ part.all Char.isDigit ∧ part.length ≤ 3
        ∧ (part.length = 1 ∨ part.head? ≠ some '0') ∧ numeral 10 part ≤ 255
    then some (numeral 10 part) else none
  match octets with
  | [a, b, c, d] => some [a * 256 + b, c * 256 + d]
  | _ => none

/-- Reads the groups of an IPv6 address.  `gap` is the number of groups up to
the abbreviated run, whose first zero group is among the groups `done`. -/
def ipv6Groups (gap : Option Nat) (done : List Nat) (text : List Char) :
    Option (Option Nat × List Nat) :=
  match text with
  | [] => some (gap, done)
  | c :: rest =>
    if done.length = 8 then none
    else if c = ':' then
      if gap.isSome then none else ipv6Groups (some (done.length + 1)) (done ++ [0]) rest
    else
      let digits := ((c :: rest).take 4).takeWhile isHexDigit
      match _h : (c :: rest).drop digits.length with
      | [] => some (gap, done ++ [numeral 16 digits])
      | '.' :: _ =>
        if digits = [] ∨ done.length > 6 then none
        else (ipv4Groups? (c :: rest)).map fun groups => (gap, done ++ groups)
      | ':' :: after =>
        if after = [] then none
        else ipv6Groups gap (done ++ [numeral 16 digits]) after
      | _ => none
  termination_by text.length
  decreasing_by
    · simp
    · have := congrArg List.length _h
      simp only [List.length_drop, List.length_cons] at this
      simp only [List.length_cons]
      omega

/-- The eight groups of an IPv6 address, if the text between the brackets is
one. -/
def ipv6? (text : List Char) : Option (List Nat) :=
  let start :=
    match text with
    | ':' :: ':' :: rest => ipv6Groups (some 1) [0] rest
    | ':' :: _ | [] | [_] => none
    | _ => ipv6Groups none [] text
  match start with
  | none => none
  | some (none, groups) => if groups.length = 8 then some groups else none
  | some (some gap, groups) =>
    if groups.length ≤ 8 then
      some (groups.take gap ++ List.replicate (8 - groups.length) 0 ++ groups.drop gap)
    else none

/-- The number of zero groups at the head of a list. -/
def zeroRun (groups : List Nat) : Nat :=
  (groups.takeWhile (· = 0)).length

/-- The position and length of the longest run of zero groups, the first of
the longest if there are several. -/
def longestZeroRun (groups : List Nat) : Nat × Nat :=
  (List.range groups.length).foldl
    (fun best i =>
      let run := zeroRun (groups.drop i)
      if run > best.2 then (i, run) else best)
    (0, 0)

/-- The written form of an IPv6 address, without brackets: lower-case groups
without leading zeros, the longest run of two or more zero groups abbreviated. -/
def ipv6Text (groups : List Nat) : String :=
  let written := fun part => ":".intercalate (part.map hexadecimal)
  let (start, run) := longestZeroRun groups
  if run < 2 then written groups
  else written (groups.take start) ++ "::" ++ written (groups.drop (start + run))

end SettingsBroker.Uri
