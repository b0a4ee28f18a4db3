/-
# Extensions in names and in text

The extension of a document is cut from its text, in which the last name of the path stands encoded.
The encoding neither makes a dot nor hides one, so that what is cut out is the encoded extension of
the name itself.  A known extension is written with letters and plus signs, which the encoding
leaves alone, and an extension that is changed by the encoding has an escape sign in it, which no
known extension has.  So the language is that of the extension as it stands in the name, whatever
bytes the name is made of, and the case of its letters makes no difference.
-/

import SettingsBroker.Language
import SettingsBroker.Proofs.Document

namespace SettingsBroker

open Text (Bytes EncodeSet)
open Uri (segmentOf)

/-! ## After the last mark -/

section Ending

variable {α β : Type} [DecidableEq α] [DecidableEq β] {mark : α} {list stem ending : List α}

/-- What follows the last mark in a list, if there is something on both sides. -/
def ending? (mark : α) (list : List α) : Option (List α) :=
  let ending := (list.reverse.takeWhile (· ≠ mark)).reverse
  if ending = [] ∨ list.length ≤ ending.length + 1 then none else some ending

theorem takeWhile_reverse_of_not_mem (h : mark ∉ list) :
    list.reverse.takeWhile (· ≠ mark) = list.reverse := by
  rw [List.takeWhile_eq_self_iff]
  intro item hitem
  have hother : item ≠ mark := fun heq => h (heq ▸ List.mem_reverse.mp hitem)
  simpa using hother

theorem takeWhile_reverse_append_cons (h : mark ∉ ending) :
    ((stem ++ mark :: ending).reverse.takeWhile (· ≠ mark)).reverse = ending := by
  have hcut := takeWhile_reverse_of_not_mem h
  rw [List.takeWhile_eq_self_iff] at hcut
  rw [List.reverse_append, List.reverse_cons, List.append_assoc,
    List.takeWhile_append_of_pos hcut]
  simp

theorem ending?_of_not_mem (h : mark ∉ list) : ending? mark list = none := by
  rw [ending?, takeWhile_reverse_of_not_mem h, List.reverse_reverse, if_pos]
  exact Or.inr (Nat.le_succ _)

theorem ending?_append_cons (h : mark ∉ ending) :
    ending? mark (stem ++ mark :: ending) =
      if stem = [] ∨ ending = [] then none else some ending := by
  have hlength : (stem ++ mark :: ending).length ≤ ending.length + 1 ↔ stem = [] := by
    rw [List.length_append, List.length_cons, ← List.length_eq_zero_iff]
    omega
  rw [ending?, takeWhile_reverse_append_cons h]
  exact if_congr (by rw [hlength, or_comm]) rfl rfl

/-- A list has a last mark or none. -/
theorem not_mem_or_exists_last (mark : α) (list : List α) :
    mark ∉ list ∨ ∃ stem ending, list = stem ++ mark :: ending ∧ mark ∉ ending := by
  by_cases h : mark ∈ list
  · obtain ⟨ending, stem, hlist, hlast⟩ := List.eq_append_cons_of_mem (List.mem_reverse.mpr h)
    refine Or.inr ⟨stem.reverse, ending.reverse, ?_, by simpa using hlast⟩
    rw [← List.reverse_reverse list, hlist]
    simp
  · exact Or.inl h

theorem ending?_eq_some_iff : ending? mark list = some ending ↔
    ∃ stem, list = stem ++ mark :: ending ∧ stem ≠ [] ∧ ending ≠ [] ∧ mark ∉ ending := by
  constructor
  · intro h
    obtain habsent | ⟨stem, found, rfl, hlast⟩ := not_mem_or_exists_last mark list
    · rw [ending?_of_not_mem habsent] at h
      cases h
    · rw [ending?_append_cons hlast] at h
      split at h
      · cases h
      · next hboth =>
        obtain rfl := Option.some.inj h
        rw [not_or] at hboth
        exact ⟨stem, rfl, hboth.1, hboth.2, hlast⟩
  · rintro ⟨stem, rfl, hstem, hending, hlast⟩
    rw [ending?_append_cons hlast, if_neg (by simp [hstem, hending])]

/-- Writing each item out, the mark as a mark and anything else without one, writes out what follows
the last mark. -/
theorem ending?_flatMap {sign : β} {write : β → List α} (hsign : write sign = [mark])
    (hother : ∀ item, item ≠ sign → mark ∉ write item) (hne : ∀ item, write item ≠ [])
    (list : List β) :
    ending? mark (list.flatMap write) = (ending? sign list).map (·.flatMap write) := by
  have habsent : ∀ {items : List β}, sign ∉ items → mark ∉ items.flatMap write := by
    intro items hitems hmem
    obtain ⟨item, hitem, hwritten⟩ := List.mem_flatMap.mp hmem
    exact hother item (fun heq => hitems (heq ▸ hitem)) hwritten
  have hempty : ∀ items : List β, items.flatMap write = [] ↔ items = [] := by
    intro items
    rw [List.flatMap_eq_nil_iff, List.eq_nil_iff_forall_not_mem]
    exact forall₂_congr fun item _ => iff_false_intro (hne item)
  obtain hnone | ⟨stem, ending, rfl, hlast⟩ := not_mem_or_exists_last sign list
  · rw [ending?_of_not_mem hnone, ending?_of_not_mem (habsent hnone), Option.map_none]
  · rw [List.flatMap_append, List.flatMap_cons, hsign, List.singleton_append,
      ending?_append_cons hlast, ending?_append_cons (habsent hlast)]
    simp only [hempty]
    split <;> rfl

end Ending

/-! ## The extension of a path -/

namespace FilePath

/-- The byte before an extension. -/
def dotByte : UInt8 := 0x2E

/-- The extension of a path: what follows the last dot in its last name, if there is something on
both sides. -/
def extension? (p : FilePath) : Option Bytes :=
  match p.parts.getLast? with
  | some (.name name) => ending? dotByte name
  | _ => none

theorem extension?_eq_some_iff {p : FilePath} {ending : Bytes} : p.extension? = some ending ↔
    ∃ stem, p.parts.getLast? = some (.name (stem ++ dotByte :: ending)) ∧
      stem ≠ [] ∧ ending ≠ [] ∧ dotByte ∉ ending := by
  rw [extension?]
  constructor
  · intro h
    split at h
    · next name hlast =>
      obtain ⟨stem, rfl, hboth⟩ := ending?_eq_some_iff.mp h
      exact ⟨stem, hlast, hboth⟩
    · cases h
  · rintro ⟨stem, hlast, hboth⟩
    rw [hlast]
    exact ending?_eq_some_iff.mpr ⟨stem, rfl, hboth⟩

theorem extension?_of_parts {p : FilePath} {names : List Bytes}
    (h : p.parts = .root :: names.map .name) :
    p.extension? = names.getLast?.bind (ending? dotByte) := by
  rw [extension?, h]
  cases hlast : names.getLast? with
  | none =>
    rw [List.getLast?_eq_none_iff.mp hlast]
    rfl
  | some name =>
    obtain ⟨front, rfl⟩ := List.getLast?_eq_some_iff.mp hlast
    rw [List.map_append, List.map_singleton, ← List.cons_append, List.getLast?_concat]
    rfl

end FilePath

namespace Document

variable {names : List Bytes}

theorem pathText_ofNames (names : List Bytes) :
    (ofNames names).pathText = Uri.joined (segmentsOf names) := by
  have hfile := isFile_uriOf names
  have htext := Uri.text_of_isFile hfile
  obtain ⟨body, hbody⟩ : ∃ body, Uri.joined (segmentsOf names) = '/' :: body := by
    obtain ⟨first, rest, hlist⟩ := List.exists_cons_of_ne_nil hfile.ne_nil
    rw [hlist]
    exact ⟨_, rfl⟩
  have hstart : (ofUri (uriOf names)).text.toList =
      "file://".toList ++ '/' :: (body ++ (uriOf names).ending.toList) := by
    rw [← List.cons_append, ← hbody]
    exact htext
  have hcut : (Uri.joined (segmentsOf names) ++ (uriOf names).ending.toList).takeWhile
      (fun c => !Uri.isPathEnd c) = Uri.joined (segmentsOf names) :=
    takeWhile_joined hfile.segments
  rw [← hcut, ← ofUri_uriOf, pathText_of_text hstart, hbody, List.cons_append]

/-- The file name in the text is the last name, encoded. -/
theorem fileName?_ofNames (h : ∀ name ∈ names, FilePath.IsName name) :
    (ofNames names).fileName? = names.getLast?.map fun name => String.ofList (segmentOf name) := by
  rw [fileName?, pathText_ofNames]
  obtain rfl | ⟨front, last, rfl⟩ := List.eq_nil_or_concat' names
  · rfl
  · have hlast : '/' ∉ segmentOf last := by
      intro hmem
      have hslash := (Uri.plain_of_isNameCharacter (Text.isNameCharacter_of_mem hmem)).2.2.1
      cases hslash
    have hne : segmentOf last ≠ [] := Uri.segmentOf_ne_nil (h last (by simp)).ne_nil
    have hjoined : Uri.joined (segmentsOf (front ++ [last])) =
        front.flatMap encodeName ++ '/' :: segmentOf last := by
      rw [joined_segmentsOf (by simp), List.flatMap_append, List.flatMap_singleton]
      rfl
    rw [hjoined, takeWhile_reverse_append_cons hlast, List.getLast?_concat, Option.map_some]
    split
    · next hnil => exact absurd hnil hne
    · rfl

theorem extension?_eq (document : Document) :
    document.extension? = (document.fileName?.bind fun name => ending? '.' name.toList).map
      fun ending => String.ofList (ending.map Char.toLower) := by
  unfold extension? ending?
  cases document.fileName? with
  | none => rfl
  | some name =>
    simp only [Option.bind_eq_bind, Option.bind_some]
    split <;> rfl

/-- The encoding keeps dots and makes none. -/
theorem ending?_segmentOf (name : Bytes) :
    ending? '.' (segmentOf name) = (ending? FilePath.dotByte name).map segmentOf := by
  apply ending?_flatMap
  · decide
  · intro b hb hmem
    obtain ⟨-, hsign | ⟨n, hn, hdigit⟩ | ⟨hbyte, -⟩⟩ := Text.mem_percentByte hmem
    · cases hsign
    · have hdigits : ∀ n < 16, '.' ≠ Text.hexDigit n := by decide
      exact hdigits n hn hdigit
    · exact hb hbyte.symm
  · intro b
    obtain htriple | ⟨c, hplain, -⟩ := Text.percentByte_cases EncodeSet.pathSegment b
    · rw [htriple]
      exact List.cons_ne_nil _ _
    · rw [hplain]
      exact List.cons_ne_nil _ _

theorem extension?_ofNames (h : ∀ name ∈ names, FilePath.IsName name) :
    (ofNames names).extension? = (names.getLast?.bind (ending? FilePath.dotByte)).map
      fun ending => String.ofList ((segmentOf ending).map Char.toLower) := by
  rw [extension?_eq, fileName?_ofNames h]
  cases names.getLast? with
  | none => rfl
  | some name =>
    rw [Option.map_some, Option.bind_some, Option.bind_some, String.toList_ofList,
      ending?_segmentOf, Option.map_map]
    rfl

end Document

/-! ## The language of an extension -/

namespace Text

theorem toList_eq (array : ByteArray) : array.toList = array.data.toList := by
  have hself : array.data.toList.toByteArray = array := ByteArray.ext (by simp)
  rw [← hself, toList_toByteArray, hself]

theorem ofUtf8?_eq_some_iff {bytes : Bytes} {text : String} :
    ofUtf8? bytes = some text ↔ utf8 text = bytes := by
  have hbytes : (⟨bytes.toArray⟩ : ByteArray) = bytes.toByteArray := ByteArray.ext (by simp)
  rw [ofUtf8?, hbytes, String.fromUTF8?, utf8, String.toUTF8_eq_toByteArray]
  constructor
  · intro h
    split at h
    · rw [← Option.some.inj h]
      exact toList_toByteArray bytes
    · cases h
  · rintro rfl
    have hself : text.toByteArray.toList.toByteArray = text.toByteArray := by
      rw [toList_eq]
      exact ByteArray.ext (by simp)
    simp only [hself]
    rw [dif_pos text.isValidUTF8]
    rfl

/-- The lower-case letter of a byte that stands for an upper-case one; any other byte as it is. -/
def lowerByte (b : UInt8) : UInt8 :=
  if 0x41 ≤ b && b ≤ 0x5A then b + 0x20 else b

/-- A character that a name is written with as it stands. -/
def IsPlain (c : Char) : Prop :=
  c.toNat < 0x80 ∧ EncodeSet.pathSegment (UInt8.ofNat c.toNat) = false

instance (c : Char) : Decidable (IsPlain c) := inferInstanceAs (Decidable (_ ∧ _))

theorem isPlain_of_toLower {c : Char} (h : IsPlain c.toLower) : IsPlain c := by
  by_cases hupper : c.isUpper = true
  · have hletters : ∀ n < 0x80, (Char.ofNat n).isUpper = true → IsPlain (Char.ofNat n) := by
      decide +kernel
    have hlow : c.toNat < 0x80 := by
      have hbounds : 'A'.val ≤ c.val ∧ c.val ≤ 'Z'.val := of_decide_eq_true hupper
      have hnat : c.val.toNat ≤ 'Z'.val.toNat := hbounds.2
      exact Nat.lt_of_le_of_lt hnat (by decide)
    rw [← Char.ofNat_toNat c] at hupper ⊢
    exact hletters c.toNat hlow hupper
  · have hself : c.toLower = c := dif_neg fun hletter => hupper (decide_eq_true hletter)
    rwa [hself] at h

theorem percentEncode_utf8 (set : EncodeSet) (text : List Char) :
    percentEncode set (utf8 (String.ofList text)) = text.flatMap (percentChar set) := by
  rw [utf8_ofList, percentEncode, List.flatMap_assoc]
  apply List.flatMap_congr
  intro c _
  rw [percentChar, String.singleton_eq_ofList, utf8_ofList, List.flatMap_singleton, percentEncode]

/-- What needs no encoding is written as it stands. -/
theorem segmentOf_utf8 {text : String} (h : ∀ c ∈ text.toList, IsPlain c) :
    segmentOf (utf8 text) = text.toList := by
  rw [segmentOf, ← String.ofList_toList (s := text), percentEncode_utf8, String.toList_ofList]
  exact flatMap_percentChar_of_not_set h

theorem percentDecode_of_not_mem {bytes : Bytes} (h : 0x25 ∉ bytes) :
    percentDecode bytes = bytes := by
  induction bytes with
  | nil => rw [percentDecode]
  | cons b bytes ih =>
    rw [List.mem_cons, not_or] at h
    rw [percentDecode_cons_of_ne (Ne.symm h.1), ih h.2]

/-- What is written without the escape sign is written as it stands. -/
theorem utf8_segmentOf {name : Bytes} (h : '%' ∉ segmentOf name) :
    utf8 (String.ofList (segmentOf name)) = name := by
  have hbytes : utf8 (String.ofList (segmentOf name)) = asciiBytes (segmentOf name) :=
    utf8_of_ascii fun c hc => (isNameCharacter_of_mem hc).1
  have habsent : 0x25 ∉ asciiBytes (segmentOf name) := by
    intro hmem
    obtain ⟨c, hc, hbyte⟩ := List.mem_map.mp hmem
    have hascii := (isNameCharacter_of_mem hc).1
    have hsign : c = '%' := by
      rw [← Char.ofNat_toNat c, ← toNat_ofNat_of_ascii hascii, hbyte]
      rfl
    exact h (hsign ▸ hc)
  rw [hbytes, ← percentDecode_of_not_mem habsent, ← hbytes, Uri.decode_segmentOf]

/-- The case of a letter is the same before and after the encoding. -/
theorem map_toLower_segmentOf (name : Bytes) :
    (segmentOf (name.map lowerByte)).map Char.toLower = (segmentOf name).map Char.toLower := by
  have hbytes : ∀ n < 256,
      (percentByte EncodeSet.pathSegment (lowerByte (UInt8.ofNat n))).map Char.toLower =
        (percentByte EncodeSet.pathSegment (UInt8.ofNat n)).map Char.toLower := by
    decide +kernel
  rw [segmentOf, segmentOf, percentEncode, percentEncode, List.flatMap_map, List.map_flatMap,
    List.map_flatMap]
  apply List.flatMap_congr
  intro b _
  have hbyte := hbytes b.toNat b.toNat_lt
  rwa [UInt8.ofNat_toNat] at hbyte

end Text

namespace Language

/-- The extensions that are known. -/
def known : List String :=
  ["swift", "c", "h", "cpp", "cc", "cxx", "c++", "hpp", "hh", "hxx", "m", "mm"]

theorem mem_known_of_ne_other {extension : String} (h : ofExtension extension ≠ .other) :
    String.ofList (extension.toList.map Char.toLower) ∈ known := by
  unfold ofExtension at h
  split at h <;> simp_all [known]

/-- A known extension needs no encoding. -/
theorem isPlain_of_ne_other {extension : String} (h : ofExtension extension ≠ .other) :
    ∀ c ∈ extension.toList, Text.IsPlain c := by
  have hknown : ∀ text ∈ known, text.toList.all (fun c => decide (Text.IsPlain c)) = true := by
    decide +kernel
  intro c hc
  have hplain := hknown _ (mem_known_of_ne_other h)
  rw [String.toList_ofList, List.all_eq_true] at hplain
  exact Text.isPlain_of_toLower (of_decide_eq_true (hplain c.toLower (List.mem_map_of_mem hc)))

/-- The case of letters makes no difference. -/
theorem ofExtension_congr {extension other : List Char}
    (h : extension.map Char.toLower = other.map Char.toLower) :
    ofExtension (String.ofList extension) = ofExtension (String.ofList other) := by
  unfold ofExtension
  rw [String.toList_ofList, String.toList_ofList, h]

/-- The language of an extension in bytes, which need not be text. -/
def ofEnding (ending : Bytes) : Language :=
  ((Text.ofUtf8? ending).map ofExtension).getD .other

/-- A known extension is found in its encoded form, and an extension that is changed by the
encoding is not known. -/
theorem ofExtension_segmentOf (ending : Bytes) :
    ofExtension (String.ofList (segmentOf ending)) = ofEnding ending := by
  have hsign : ¬ Text.IsPlain '%' := by decide +kernel
  by_cases hmem : '%' ∈ segmentOf ending
  · -- the escape sign keeps both sides from being known
    have hencoded : ofExtension (String.ofList (segmentOf ending)) = .other := by
      by_contra hne
      exact hsign (isPlain_of_ne_other hne '%' (by rwa [String.toList_ofList]))
    rw [hencoded, ofEnding]
    cases htext : Text.ofUtf8? ending with
    | none => rfl
    | some text =>
      by_contra hne
      have hplain := isPlain_of_ne_other (Ne.symm hne)
      rw [← Text.ofUtf8?_eq_some_iff.mp htext, Text.segmentOf_utf8 hplain] at hmem
      exact hsign (hplain '%' hmem)
  · rw [ofEnding, Text.ofUtf8?_eq_some_iff.mpr (Text.utf8_segmentOf hmem)]
    rfl

theorem ofEnding_congr {ending other : Bytes}
    (h : ending.map Text.lowerByte = other.map Text.lowerByte) :
    ofEnding ending = ofEnding other := by
  rw [← ofExtension_segmentOf, ← ofExtension_segmentOf]
  apply ofExtension_congr
  rw [← Text.map_toLower_segmentOf, h, Text.map_toLower_segmentOf]

/-- The language of a path's document is that of the extension of the path. -/
theorem ofDocument_ofNames {names : List Bytes} (h : ∀ name ∈ names, FilePath.IsName name) :
    ofDocument (Document.ofNames names) =
      (names.getLast?.bind (ending? FilePath.dotByte)).elim .other ofEnding := by
  rw [ofDocument, Document.extension?_ofNames h, Option.map_map]
  cases names.getLast?.bind (ending? FilePath.dotByte) with
  | none => rfl
  | some ending =>
    have hlower : ofExtension (String.ofList ((segmentOf ending).map Char.toLower)) =
        ofExtension (String.ofList (segmentOf ending)) := by
      apply ofExtension_congr
      have hagain : ∀ n < 0x80, (Char.ofNat n).toLower.toLower = (Char.ofNat n).toLower := by
        decide +kernel
      rw [List.map_map]
      apply List.map_congr_left
      intro c hc
      have hletter := hagain c.toNat (Text.isNameCharacter_of_mem hc).1
      rwa [Char.ofNat_toNat] at hletter
    rw [Option.elim_some, ← ofExtension_segmentOf, ← hlower, Option.map_some, Option.getD_some,
      Function.comp_apply]

end Language

end SettingsBroker
