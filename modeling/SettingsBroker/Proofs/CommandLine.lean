/-
# Quoted command lines

A word of a command line is written in pieces: text in single quotes, text in double quotes
with a backslash before each character that would not stand for itself there, a character after
a backslash, and a character that needs none of this.  An empty word still takes a piece, such as
a pair of quotes.  Blanks stand between words, and may stand before the first and after the last.

However a list of words is written, splitting the line gives the words again.  A piece begins and
ends outside quotes, so that what it adds to the word does not depend on the pieces around it
(`splitFrom_piece`).
-/

import Mathlib.Data.List.Basic
import SettingsBroker.CommandLine

namespace SettingsBroker.CommandLine

/-! ## How words are written -/

/-- A character that stands for itself outside quotes. -/
structure IsPlain (c : Char) : Prop where
  not_blank : Text.isBlank c = false
  ne_single : c ≠ '\''
  ne_double : c ≠ '"'
  ne_backslash : c ≠ '\\'

inductive Piece where
  /-- Text in single quotes. -/
  | single (text : List Char) (unquoted : '\'' ∉ text)
  /-- Text in double quotes. -/
  | double (text : List Char)
  /-- A character after a backslash. -/
  | escaped (c : Char)
  /-- A character that stands for itself. -/
  | plain (c : Char) (isPlain : IsPlain c)

/-- How a character is written in double quotes. -/
def guarded (c : Char) : List Char :=
  if c ∈ ['"', '\\', '$', '\x60'] then ['\\', c] else [c]

namespace Piece

/-- What the piece adds to its word. -/
def text : Piece → List Char
  | single text _ => text
  | double text => text
  | escaped c => [c]
  | plain c _ => [c]

def written : Piece → List Char
  | single text _ => '\'' :: (text ++ ['\''])
  | double text => '"' :: (text.flatMap guarded ++ ['"'])
  | escaped c => ['\\', c]
  | plain c _ => [c]

end Piece

/-- A word in pieces. -/
structure QuotedWord where
  /-- The pieces, one right after the other. -/
  pieces : List Piece
  /-- Nothing at all is no word. -/
  begun : pieces ≠ []

def QuotedWord.text (word : QuotedWord) : List Char :=
  word.pieces.flatMap Piece.text

def QuotedWord.written (word : QuotedWord) : List Char :=
  word.pieces.flatMap Piece.written

/-- Any number of blank characters. -/
abbrev Blanks := { run : List Char // ∀ c ∈ run, Text.isBlank c = true }

/-- A command line in which words are written. -/
structure QuotedLine where
  /-- The blanks before the first word. -/
  lead : Blanks
  /-- The words, each with the blanks after it. -/
  entries : List (QuotedWord × Blanks)
  /-- Only the last word may be followed by nothing. -/
  apart : ∀ entry ∈ entries.dropLast, entry.2.val ≠ []

namespace QuotedLine

/-- The words of the line. -/
def words (line : QuotedLine) : List String :=
  line.entries.map fun entry => String.ofList entry.1.text

/-- How the line is written. -/
def written (line : QuotedLine) : String :=
  String.ofList (line.lead.val
    ++ line.entries.flatMap fun entry => entry.1.written ++ entry.2.val)

end QuotedLine

/-! ## How they are read -/

variable {read rest text : List Char} {word : Option (List Char)} {c : Char}

/-- A character outside quotes, unless the one after it is read with it. -/
theorem splitFrom_bare_cons (h : c ≠ '\\') :
    splitFrom .bare word (c :: rest) =
      if c = '\'' then splitFrom .single (some (word.getD [])) rest
      else if c = '"' then splitFrom .double (some (word.getD [])) rest
      else if Text.isBlank c then (word.map List.reverse).toList ++ splitFrom .bare none rest
      else splitFrom .bare (some (c :: word.getD [])) rest := by
  cases rest <;> cases word <;> simp [splitFrom, h]

/-- A character in double quotes, unless the one after it is read with it. -/
theorem splitFrom_double_cons (h : c ≠ '\\') :
    splitFrom .double word (c :: rest) =
      if c = '"' then splitFrom .bare (some (word.getD [])) rest
      else splitFrom .double (some (c :: word.getD [])) rest := by
  cases rest <;> simp [splitFrom, h]

theorem splitFrom_single (unquoted : '\'' ∉ text) :
    splitFrom .single (some read) (text ++ '\'' :: rest) =
      splitFrom .bare (some (text.reverse ++ read)) rest := by
  induction text generalizing read with
  | nil => simp [splitFrom]
  | cons c text ih =>
    have hc : c ≠ '\'' := fun h => unquoted (h ▸ List.mem_cons_self)
    have htext : '\'' ∉ text := fun h => unquoted (List.mem_cons_of_mem c h)
    simp [splitFrom, hc, ih htext]

theorem splitFrom_guarded :
    splitFrom .double (some read) (guarded c ++ rest) =
      splitFrom .double (some (c :: read)) rest := by
  by_cases hc : c ∈ ['"', '\\', '$', '\x60']
  · have hescapable : isEscapable c = true := by simpa [isEscapable, or_assoc] using hc
    simp [guarded, hc, splitFrom, hescapable]
  · have hquote : c ≠ '"' := by
      rintro rfl
      exact hc (by decide)
    have hbackslash : c ≠ '\\' := by
      rintro rfl
      exact hc (by decide)
    simp [guarded, hc, splitFrom_double_cons hbackslash, hquote]

theorem splitFrom_double :
    splitFrom .double (some read) (text.flatMap guarded ++ '"' :: rest) =
      splitFrom .bare (some (text.reverse ++ read)) rest := by
  induction text generalizing read with
  | nil => simp [splitFrom_double_cons]
  | cons c text ih =>
    rw [List.flatMap_cons, List.append_assoc, splitFrom_guarded, ih]
    simp

/-- Outside quotes a piece adds its text to the word, whether or not the word had begun. -/
theorem splitFrom_piece (piece : Piece) :
    splitFrom .bare word (piece.written ++ rest) =
      splitFrom .bare (some (piece.text.reverse ++ word.getD [])) rest := by
  cases piece with
  | single text unquoted =>
    simp [Piece.written, Piece.text, splitFrom_bare_cons, splitFrom_single unquoted]
  | double text => simp [Piece.written, Piece.text, splitFrom_bare_cons, splitFrom_double]
  | escaped c => cases word <;> simp [Piece.written, Piece.text, splitFrom]
  | plain c h =>
    simp [Piece.written, Piece.text, splitFrom_bare_cons h.ne_backslash, h.ne_single,
      h.ne_double, h.not_blank]

theorem splitFrom_pieces (pieces : List Piece) :
    splitFrom .bare (some read) (pieces.flatMap Piece.written ++ rest) =
      splitFrom .bare (some ((pieces.flatMap Piece.text).reverse ++ read)) rest := by
  induction pieces generalizing read with
  | nil => rfl
  | cons piece pieces ih =>
    rw [List.flatMap_cons, List.append_assoc, splitFrom_piece, ih]
    simp

theorem splitFrom_word (quoted : QuotedWord) :
    splitFrom .bare none (quoted.written ++ rest) =
      splitFrom .bare (some quoted.text.reverse) rest := by
  obtain ⟨pieces, begun⟩ := quoted
  cases pieces with
  | nil => exact absurd rfl begun
  | cons piece pieces =>
    rw [QuotedWord.written, QuotedWord.text, List.flatMap_cons, List.append_assoc,
      splitFrom_piece, splitFrom_pieces]
    simp

/-- A blank outside quotes ends the word, if one has begun. -/
theorem splitFrom_blank (h : Text.isBlank c = true) :
    splitFrom .bare word (c :: rest) =
      (word.map List.reverse).toList ++ splitFrom .bare none rest := by
  have hsingle : c ≠ '\'' := by
    rintro rfl
    exact absurd h (by decide)
  have hdouble : c ≠ '"' := by
    rintro rfl
    exact absurd h (by decide)
  have hbackslash : c ≠ '\\' := by
    rintro rfl
    exact absurd h (by decide)
  rw [splitFrom_bare_cons hbackslash, if_neg hsingle, if_neg hdouble, if_pos h]

theorem splitFrom_blanks (blanks : Blanks) :
    splitFrom .bare none (blanks.val ++ rest) = splitFrom .bare none rest := by
  obtain ⟨run, hrun⟩ := blanks
  induction run with
  | nil => rfl
  | cons c run ih =>
    rw [List.cons_append, splitFrom_blank (hrun c List.mem_cons_self)]
    exact ih fun other hother => hrun other (List.mem_cons_of_mem c hother)

/-- A word is over at blanks that follow it, and at the end of the line. -/
theorem splitFrom_after (blanks : Blanks) (h : blanks.val ≠ [] ∨ rest = []) :
    splitFrom .bare (some read) (blanks.val ++ rest) =
      read.reverse :: splitFrom .bare none rest := by
  obtain ⟨run, hrun⟩ := blanks
  cases run with
  | nil =>
    obtain rfl : rest = [] := h.resolve_left fun hne => hne rfl
    rfl
  | cons c run =>
    have hcut : splitFrom .bare none (run ++ rest) = splitFrom .bare none rest :=
      splitFrom_blanks ⟨run, fun other hother => hrun other (List.mem_cons_of_mem c hother)⟩
    rw [List.cons_append, splitFrom_blank (hrun c List.mem_cons_self), hcut]
    rfl

theorem splitFrom_entries {entries : List (QuotedWord × Blanks)}
    (apart : ∀ entry ∈ entries.dropLast, entry.2.val ≠ []) :
    splitFrom .bare none (entries.flatMap fun entry => entry.1.written ++ entry.2.val) =
      entries.map fun entry => entry.1.text := by
  induction entries with
  | nil => rfl
  | cons entry entries ih =>
    have hafter : entry.2.val ≠ [] ∨
        (entries.flatMap fun entry => entry.1.written ++ entry.2.val) = [] := by
      cases entries with
      | nil => exact Or.inr rfl
      | cons next entries => exact Or.inl (apart entry List.mem_cons_self)
    have hrest : ∀ later ∈ entries.dropLast, later.2.val ≠ [] := by
      cases entries with
      | nil => exact fun later hlater => absurd hlater List.not_mem_nil
      | cons next entries => exact fun later hlater => apart later (List.mem_cons_of_mem entry hlater)
    rw [List.flatMap_cons, List.append_assoc, splitFrom_word, splitFrom_after _ hafter,
      ih hrest, List.reverse_reverse, List.map_cons]

/-- A single space. -/
def space : Blanks :=
  ⟨[' '], fun c hc => by
    rw [List.mem_singleton.mp hc]
    decide⟩

/-- A line in which the given words stand in double quotes, with a space after each. -/
def QuotedLine.ofWords (words : List String) : QuotedLine where
  lead := ⟨[], by simp⟩
  entries := words.map fun word => (⟨[.double word.toList], by simp⟩, space)
  apart := by
    intro entry hentry
    obtain ⟨word, -, rfl⟩ := List.mem_map.mp (List.dropLast_subset _ hentry)
    exact List.cons_ne_nil _ _

theorem QuotedLine.words_ofWords (words : List String) : (ofWords words).words = words := by
  simp [QuotedLine.words, ofWords, QuotedWord.text, Piece.text, Function.comp_def]

/-- Splitting inverts quoting.  In whatever way a list of words is written, splitting the line
gives exactly these words in their order, and every list of words can be written. -/
theorem split_written :
    (∀ line : QuotedLine, split line.written = line.words) ∧
      ∀ words : List String, ∃ line : QuotedLine, line.words = words := by
  refine ⟨fun line => ?_, fun words => ⟨.ofWords words, QuotedLine.words_ofWords words⟩⟩
  rw [split, QuotedLine.written, String.toList_ofList, splitFrom_blanks,
    splitFrom_entries line.apart, List.map_map]
  rfl

example : split " cc  -D'a b'\\ c\"\\$\" '' " = ["cc", "-Da b c$", ""] := by cbv

end SettingsBroker.CommandLine
