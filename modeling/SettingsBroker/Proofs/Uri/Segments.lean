/-
# The segments of a file path

The names of a path are written as segments of a URI, and a reader of the URI finds these segments
again: it ignores none of their characters, takes none of them for a dot or two dots, cuts none of
them and encodes none of them a second time. A first name that looks like a drive letter is no
exception, since a drive letter stays as it is written.

Whatever else a path was read from, its segments have no slash in them and nothing that would end
a path.
-/

import Mathlib.Data.List.TakeWhile
import SettingsBroker.Proofs.FilePath
import SettingsBroker.Proofs.Text.Percent
import SettingsBroker.Uri.Reader

namespace SettingsBroker.Uri

open FilePath (IsName)
open Text

variable {c : Char} {name : Bytes} {names : List Bytes} {reading : PathReading}
variable {segment : List Char}

/-! ## Characters of names -/

/-- A reader leaves the characters of names alone. -/
theorem plain_of_isNameCharacter (h : IsNameCharacter c) :
    isEdge c = false ∧ isIgnored c = false ∧ isSlash .file c = false ∧ isPathEnd c = false ∧
      EncodeSet.path (UInt8.ofNat c.toNat) = false := by
  have hcharacters : ∀ n < 0x80, n = '%'.toNat ∨ EncodeSet.pathSegment (UInt8.ofNat n) = false →
      isEdge (Char.ofNat n) = false ∧ isIgnored (Char.ofNat n) = false ∧
        isSlash .file (Char.ofNat n) = false ∧ isPathEnd (Char.ofNat n) = false ∧
          EncodeSet.path (UInt8.ofNat n) = false := by
    decide +kernel
  obtain ⟨hascii, hplain⟩ := h
  have hc := hcharacters c.toNat hascii (hplain.imp_left (congrArg Char.toNat))
  rwa [Char.ofNat_toNat] at hc

/-- The segment that a name is written as. -/
def segmentOf (name : Bytes) : List Char :=
  percentEncode EncodeSet.pathSegment name

theorem decode_segmentOf (name : Bytes) :
    percentDecode (utf8 (String.ofList (segmentOf name))) = name :=
  percentDecode_percentEncode (by decide +kernel) name

theorem visible_segmentOf (name : Bytes) : visible (segmentOf name) = segmentOf name := by
  rw [visible, List.filter_eq_self]
  intro c hc
  simp [(plain_of_isNameCharacter (isNameCharacter_of_mem hc)).2.1]

theorem encodeSegment_segmentOf (name : Bytes) :
    encodeSegment (segmentOf name) = String.ofList (segmentOf name) := by
  rw [encodeSegment, visible_segmentOf, flatMap_percentChar_of_not_set]
  intro c hc
  have hname := isNameCharacter_of_mem hc
  exact ⟨hname.1, (plain_of_isNameCharacter hname).2.2.2.2⟩

theorem segmentOf_ne_nil (h : name ≠ []) : segmentOf name ≠ [] := by
  intro hnil
  apply h
  rw [← decode_segmentOf name, hnil]
  decide +kernel

/-- A name is not written as something that stands for anything else. -/
theorem segmentOf_not_mem {spellings : List String} {part : Bytes}
    (spelled : ∀ text ∈ spellings, percentDecode (utf8 text) = part) (h : name ≠ part) :
    String.ofList (segmentOf name) ∉ spellings := by
  intro hmem
  apply h
  rw [← decode_segmentOf name]
  exact spelled _ hmem

theorem not_isDotSegment (h : IsName name) :
    isDotSegment (String.ofList (segmentOf name)) = false := by
  rw [Bool.eq_false_iff]
  intro hdot
  exact segmentOf_not_mem (by decide +kernel) h.ne_dot (List.contains_iff_mem.mp hdot)

theorem not_isDotsSegment (h : IsName name) :
    isDotsSegment (String.ofList (segmentOf name)) = false := by
  rw [Bool.eq_false_iff]
  intro hdots
  exact segmentOf_not_mem (by decide +kernel) h.ne_dots (List.contains_iff_mem.mp hdots)

theorem dropWhile_eq_self {drops : Char → Bool} {text : List Char}
    (h : ∀ c ∈ text, drops c = false) : text.dropWhile drops = text := by
  rw [List.dropWhile_eq_self_iff]
  intro hlength
  rw [h _ (List.getElem_mem hlength)]
  exact Bool.false_ne_true

theorem cutDrive?_eq_none (h : ∀ c ∈ segment, isIgnored c = false) : cutDrive? segment = none := by
  unfold cutDrive?
  rw [dropWhile_eq_self h]
  cases segment with
  | nil => rfl
  | cons letter rest =>
    have hrest : ∀ c ∈ rest, isIgnored c = false := fun c hc => h c (List.mem_cons_of_mem _ hc)
    simp only [dropWhile_eq_self hrest]
    split
    · next c tail => simp [hrest c (by simp)]
    · rfl

/-! ## Reading names -/

/-- A name is kept as the segment that it is written as. -/
theorem kept_stepRaw_segmentOf (h : IsName name) (reading : PathReading) (more : Bool) :
    (reading.stepRaw .file (segmentOf name) more).kept =
      reading.kept ++ [String.ofList (segmentOf name)] := by
  have hplain : cutDrive? (segmentOf name) = none := by
    apply cutDrive?_eq_none
    exact fun c hc => (plain_of_isNameCharacter (isNameCharacter_of_mem hc)).2.1
  unfold PathReading.stepRaw PathReading.step
  simp only [hplain, ite_self, encodeSegment_segmentOf, not_isDotSegment h, not_isDotsSegment h,
    Bool.false_eq_true, if_false]

theorem steps_cons (kind : SchemeKind) (reading : PathReading) (segment : List Char)
    (rest : List (List Char)) : reading.steps kind (segment :: rest) =
      (reading.stepRaw kind segment !rest.isEmpty).steps kind rest := by
  cases rest with
  | nil => rfl
  | cons second rest => rw [PathReading.steps]; exacts [rfl, List.cons_ne_nil _ _]

theorem kept_steps (h : ∀ name ∈ names, IsName name) (reading : PathReading) :
    (reading.steps .file (names.map segmentOf)).kept =
      reading.kept ++ names.map fun name => String.ofList (segmentOf name) := by
  induction names generalizing reading with
  | nil => simp [PathReading.steps]
  | cons name names ih =>
    have hname : IsName name := h name List.mem_cons_self
    have hrest : ∀ other ∈ names, IsName other :=
      fun other hother => h other (List.mem_cons_of_mem _ hother)
    rw [List.map_cons, steps_cons, ih hrest, kept_stepRaw_segmentOf hname, List.append_assoc]
    rfl

/-- What is read where names are written. -/
theorem kept_readSegments {text : List Char} (hne : names ≠ []) (h : ∀ name ∈ names, IsName name)
    (htext : text.splitOnP (isSlash .file) = names.map segmentOf) :
    (readSegments .file text).kept = names.map fun name => String.ofList (segmentOf name) := by
  cases names with
  | nil => exact absurd rfl hne
  | cons name names =>
    have hfirst : String.ofList (segmentOf name) ≠ "" := by
      simpa using segmentOf_ne_nil (h name List.mem_cons_self).ne_nil
    unfold readSegments
    rw [htext]
    simp only [kept_steps h]
    simp [hfirst]

/-! ## What is left in segments -/

/-- A text that ends where its segment ends. -/
def IsSegment (text : String) : Prop :=
  ∀ c ∈ text.toList, c ≠ '/' ∧ isPathEnd c = false

theorem isSegment_encodeSegment (h : ∀ c ∈ segment, isSlash .file c = false) :
    IsSegment (encodeSegment segment) := by
  intro c hc
  rw [encodeSegment, String.toList_ofList] at hc
  obtain ⟨letter, hletter, hc⟩ := List.mem_flatMap.mp hc
  have hslash : letter ≠ '/' := by
    rintro rfl
    exact absurd (h _ (List.mem_of_mem_filter hletter)) (by decide)
  rw [percentChar, String.singleton_eq_ofList, utf8_ofList, List.flatMap_singleton] at hc
  obtain ⟨b, hb, hc⟩ := List.mem_flatMap.mp hc
  obtain ⟨hascii, rfl | ⟨n, hn, rfl⟩ | ⟨hbyte, hset⟩⟩ := mem_percentByte hc
  · decide
  · have hdigits : ∀ n < 16, hexDigit n ≠ '/' ∧ isPathEnd (hexDigit n) = false := by decide
    exact hdigits n hn
  · constructor
    · rintro rfl
      apply hslash
      have hnat := toNat_eq_of_mem_utf8EncodeChar hb
      rw [← hbyte] at hnat
      exact Char.toNat_inj.mp (hnat (by decide))
    · rw [← hbyte] at hset
      rw [isPathEnd, Bool.or_eq_false_iff, decide_eq_false_iff_not, decide_eq_false_iff_not]
      constructor
      · rintro rfl
        exact absurd hset (by decide +kernel)
      · rintro rfl
        exact absurd hset (by decide +kernel)

theorem mem_of_mem_dropSegment {kept : List String} {text : String}
    (h : text ∈ dropSegment kept) : text ∈ kept := by
  unfold dropSegment at h
  split at h
  · split at h
    · exact h
    · exact (List.dropLast_sublist _).subset h
  · exact h

theorem isSegment_step {kind : SchemeKind} {text : String}
    (h : ∀ kept ∈ reading.kept, IsSegment kept) (htext : IsSegment text) (more : Bool) :
    ∀ kept ∈ (reading.step kind text more).kept, IsSegment kept := by
  have hclose : ∀ list : List String, (∀ kept ∈ list, IsSegment kept) →
      ∀ kept ∈ (if more then list else list ++ [""]), IsSegment kept := by
    intro list hlist kept hkept
    split at hkept
    · exact hlist kept hkept
    · obtain hkept | hlast := List.mem_append.mp hkept
      · exact hlist kept hkept
      · rw [List.mem_singleton.mp hlast]
        exact fun c hc => nomatch hc
  unfold PathReading.step
  dsimp only
  split
  · exact hclose _ fun kept hkept => h kept (mem_of_mem_dropSegment hkept)
  split
  · exact hclose _ h
  · intro kept hkept
    obtain hkept | hlast := List.mem_append.mp hkept
    · exact h kept hkept
    · rwa [List.mem_singleton.mp hlast]

theorem of_cutDrive?_eq_some {drive : String} {rest : List Char}
    (h : cutDrive? segment = some (drive, rest)) :
    IsSegment drive ∧ ∀ c ∈ rest, c ∈ segment := by
  unfold cutDrive? at h
  split at h
  · next letter after hsegment =>
    split at h
    · next c tail hafter =>
      split at h
      · next hdrive =>
        simp only [Bool.and_eq_true] at hdrive
        obtain ⟨rfl, rfl⟩ := Prod.mk.inj (Option.some.inj h)
        constructor
        · intro c hc
          simp only [String.toList_ofList, List.mem_cons, List.not_mem_nil, or_false] at hc
          obtain rfl | rfl := hc
          · rw [isPathEnd, Bool.or_eq_false_iff, decide_eq_false_iff_not, decide_eq_false_iff_not]
            refine ⟨?_, ?_, ?_⟩ <;> rintro rfl <;> exact absurd hdrive.1.1 (by decide)
          · decide
        · intro c hc
          have hmem : c ∈ after :=
            (List.dropWhile_suffix isIgnored).subset (hafter ▸ by simp [hc])
          exact (List.dropWhile_suffix isIgnored).subset (hsegment ▸ List.mem_cons_of_mem _ hmem)
      · cases h
    · cases h
  · cases h

theorem isSegment_stepRaw (h : ∀ kept ∈ reading.kept, IsSegment kept)
    (hsegment : ∀ c ∈ segment, isSlash .file c = false) (more : Bool) :
    ∀ kept ∈ (reading.stepRaw .file segment more).kept, IsSegment kept := by
  unfold PathReading.stepRaw
  split
  · next drive rest hcut =>
    split at hcut
    · obtain ⟨hdrive, hrest⟩ := of_cutDrive?_eq_some hcut
      apply isSegment_step
      · simpa using hdrive
      · exact isSegment_encodeSegment fun c hc => hsegment c (hrest c hc)
    · cases hcut
  · exact isSegment_step h (isSegment_encodeSegment hsegment) more

theorem isSegment_steps {segments : List (List Char)} (h : ∀ kept ∈ reading.kept, IsSegment kept)
    (hsegments : ∀ segment ∈ segments, ∀ c ∈ segment, isSlash .file c = false) :
    ∀ kept ∈ (reading.steps .file segments).kept, IsSegment kept := by
  induction segments generalizing reading with
  | nil => exact h
  | cons segment segments ih =>
    rw [steps_cons]
    apply ih
    · exact isSegment_stepRaw h (hsegments segment List.mem_cons_self) _
    · exact fun other hother => hsegments other (List.mem_cons_of_mem _ hother)

/-- The path of a file has segments, and each ends where it ends. -/
theorem isSegment_readSegments (text : List Char) :
    (readSegments .file text).kept ≠ [] ∧
      ∀ kept ∈ (readSegments .file text).kept, IsSegment kept := by
  have hsteps : ∀ kept ∈ (PathReading.steps .file ⟨[], false⟩
      (text.splitOnP (isSlash .file))).kept, IsSegment kept := by
    apply isSegment_steps
    · exact fun kept hkept => nomatch hkept
    · exact fun segment hsegment c hc => not_cut_of_mem_splitOnP hsegment hc
  unfold readSegments
  dsimp only
  split
  · refine ⟨List.cons_ne_nil _ _, fun kept hkept => ?_⟩
    rw [List.mem_singleton.mp hkept]
    exact fun c hc => nomatch hc
  · next hne =>
    refine ⟨hne, fun kept hkept => hsteps kept ?_⟩
    exact (List.dropWhile_suffix _).subset hkept

end SettingsBroker.Uri
