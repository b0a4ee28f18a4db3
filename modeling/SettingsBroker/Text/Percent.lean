/-
# Percent encoding

A byte that may not stand for itself in a URI is written as a percent sign and
two upper-case hexadecimal digits.  Which ASCII bytes are written so depends on
the place in the URI; bytes outside ASCII always are.  Decoding turns every
well-formed triple back and leaves all else as it stands.
-/

import SettingsBroker.Text.Utf8

namespace SettingsBroker.Text

/-- The upper-case hexadecimal digit of a value below sixteen. -/
def hexDigit (n : Nat) : Char :=
  if n < 10 then Char.ofNat ('0'.toNat + n) else Char.ofNat ('A'.toNat + (n - 10))

/-- The value of a hexadecimal digit of either case, given as a byte. -/
def hexValue? (b : UInt8) : Option UInt8 :=
  if 0x30 ≤ b && b ≤ 0x39 then some (b - 0x30)
  else if 0x41 ≤ b && b ≤ 0x46 then some (b - 0x41 + 10)
  else if 0x61 ≤ b && b ≤ 0x66 then some (b - 0x61 + 10)
  else none

/-- A set of ASCII bytes that are written with a percent sign. -/
abbrev EncodeSet := UInt8 → Bool

namespace EncodeSet

/-- Control characters and the delete character. -/
def controls : EncodeSet := fun b => b < 0x20 || b == 0x7F

/-- A set with the characters of a text added. -/
def adding (set : EncodeSet) (characters : String) : EncodeSet := fun b =>
  set b || characters.toList.any (fun c => c.toNat == b.toNat)

/-- What is encoded in a fragment. -/
def fragment : EncodeSet := controls.adding " \"<>\x60"

/-- What is encoded in a path. -/
def path : EncodeSet := fragment.adding "#?\x7b\x7d"

/-- What is encoded in the name of one path segment, so that neither the
separators nor the escape sign of the URI can come from a file name. -/
def pathSegment : EncodeSet := path.adding "/%\\"

/-- What is encoded in a user name or password. -/
def userInfo : EncodeSet := path.adding "/:;=@[\\]^|"

/-- What is encoded in a query. -/
def query : EncodeSet := controls.adding " \"#<>"

/-- What is encoded in the query of a URI with a special scheme. -/
def specialQuery : EncodeSet := query.adding "'"

end EncodeSet

/-- The triple that stands for one byte. -/
def percentTriple (b : UInt8) : List Char :=
  ['%', hexDigit (b.toNat / 16), hexDigit (b.toNat % 16)]

/-- Writes one byte, as itself or as a triple. -/
def percentByte (set : EncodeSet) (b : UInt8) : List Char :=
  if 0x80 ≤ b || set b then percentTriple b else [Char.ofNat b.toNat]

/-- Writes a byte sequence with the bytes of the set encoded. -/
def percentEncode (set : EncodeSet) (bytes : Bytes) : List Char :=
  bytes.flatMap (percentByte set)

/-- Writes the UTF-8 bytes of one character. -/
def percentChar (set : EncodeSet) (c : Char) : List Char :=
  percentEncode set (utf8 (String.singleton c))

/-- Turns every percent sign that two hexadecimal digits follow back into the
byte they spell; all other bytes stay. -/
def percentDecode : Bytes → Bytes
  | [] => []
  | b :: rest =>
    if b == 0x25 then
      match rest with
      | h :: l :: tail =>
        match hexValue? h, hexValue? l with
        | some high, some low => (high * 16 + low) :: percentDecode tail
        | _, _ => b :: percentDecode (h :: l :: tail)
      | short => b :: percentDecode short
    else b :: percentDecode rest
  termination_by bytes => bytes.length

end SettingsBroker.Text
