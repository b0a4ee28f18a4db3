/-
# Bytes and text

File paths and the output of programs are bytes, while arguments, messages and
identifiers are text.  This module joins the two: the bytes of a text, the text
that a byte sequence spells if it is well formed, and the lossy reading that
puts one replacement character in the place of each maximal ill-formed piece.
-/

namespace SettingsBroker.Text

/-- A byte sequence, kept as a list so that paths and payloads can be taken
apart by recursion. -/
abbrev Bytes := List UInt8

/-- The UTF-8 encoding of a text. -/
def utf8 (text : String) : Bytes :=
  text.toUTF8.toList

/-- The text that a byte sequence spells, if it is well-formed UTF-8. -/
def ofUtf8? (bytes : Bytes) : Option String :=
  String.fromUTF8? ⟨bytes.toArray⟩

/-- The character that stands for an ill-formed piece. -/
def replacement : Char := '\uFFFD'

/-- Whether a byte continues a multi-byte character. -/
def isContinuation (b : UInt8) : Bool :=
  0x80 ≤ b && b ≤ 0xBF

/-- The second bytes that may follow a lead byte.  The bounds exclude overlong
forms, surrogates and values above the last code point. -/
def isSecond (lead b : UInt8) : Bool :=
  if lead == 0xE0 then 0xA0 ≤ b && b ≤ 0xBF
  else if lead == 0xED then 0x80 ≤ b && b ≤ 0x9F
  else if lead == 0xF0 then 0x90 ≤ b && b ≤ 0xBF
  else if lead == 0xF4 then 0x80 ≤ b && b ≤ 0x8F
  else isContinuation b

/-- How many bytes a character with this lead byte has; zero for a byte that
leads nothing. -/
def width (lead : UInt8) : Nat :=
  if lead < 0x80 then 1
  else if 0xC2 ≤ lead && lead ≤ 0xDF then 2
  else if 0xE0 ≤ lead && lead ≤ 0xEF then 3
  else if 0xF0 ≤ lead && lead ≤ 0xF4 then 4
  else 0

/-- The code point made of a lead byte's payload and continuation bytes. -/
def assemble (lead : Nat) (continuation : List UInt8) : Char :=
  Char.ofNat (continuation.foldl (fun acc b => acc * 64 + (b.toNat - 0x80)) lead)

/-- Reads bytes as text, with one replacement character for each maximal
ill-formed piece: a lead byte and the continuation bytes that still fit it, or
a single byte that leads nothing. -/
def lossyChars : Bytes → List Char
  | [] => []
  | b0 :: rest =>
    match width b0 with
    | 1 => Char.ofNat b0.toNat :: lossyChars rest
    | 2 =>
      match rest with
      | b1 :: r1 =>
        if isSecond b0 b1 then assemble (b0.toNat - 0xC0) [b1] :: lossyChars r1
        else replacement :: lossyChars (b1 :: r1)
      | [] => [replacement]
    | 3 =>
      match rest with
      | b1 :: b2 :: r2 =>
        if isSecond b0 b1 then
          if isContinuation b2 then assemble (b0.toNat - 0xE0) [b1, b2] :: lossyChars r2
          else replacement :: lossyChars (b2 :: r2)
        else replacement :: lossyChars (b1 :: b2 :: r2)
      | [b1] =>
        if isSecond b0 b1 then [replacement] else replacement :: lossyChars [b1]
      | [] => [replacement]
    | 4 =>
      match rest with
      | b1 :: b2 :: b3 :: r3 =>
        if isSecond b0 b1 then
          if isContinuation b2 then
            if isContinuation b3 then assemble (b0.toNat - 0xF0) [b1, b2, b3] :: lossyChars r3
            else replacement :: lossyChars (b3 :: r3)
          else replacement :: lossyChars (b2 :: b3 :: r3)
        else replacement :: lossyChars (b1 :: b2 :: b3 :: r3)
      | [b1, b2] =>
        if isSecond b0 b1 then
          if isContinuation b2 then [replacement] else replacement :: lossyChars [b2]
        else replacement :: lossyChars [b1, b2]
      | [b1] =>
        if isSecond b0 b1 then [replacement] else replacement :: lossyChars [b1]
      | [] => [replacement]
    | _ => replacement :: lossyChars rest
  termination_by bytes => bytes.length

/-- The lossy reading as a text. -/
def lossy (bytes : Bytes) : String :=
  String.ofList (lossyChars bytes)

end SettingsBroker.Text
