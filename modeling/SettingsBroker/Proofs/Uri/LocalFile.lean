/-
# URIs of local files

The text of a local path's URI is its scheme, two slashes and the segments. Such a text is read
back as it stands. In general the URI of a file has a host, which is empty or begins with something
other than a slash, so that the place where the path begins can be seen in the text, as can the
place where it ends. A URI that is not of a file has another scheme, and its text shows that too.
-/

import SettingsBroker.Proofs.Uri.Segments

namespace SettingsBroker.Uri

open FilePath (IsName)
open Text

variable {c : Char} {text body : List Char} {names : List Bytes}

theorem trimEdges_eq_self (h : ∀ c ∈ text, isEdge c = false) : trimEdges text = text := by
  rw [trimEdges, dropWhile_eq_self h, dropWhile_eq_self, List.reverse_reverse]
  exact fun c hc => h c (List.mem_reverse.mp hc)

theorem visible_eq_self (h : ∀ c ∈ text, isIgnored c = false) : visible text = text := by
  rw [visible, List.filter_eq_self]
  exact fun c hc => by rw [h c hc]; rfl

/-- What a URI of a local file is written with. -/
def IsFileCharacter (c : Char) : Prop :=
  IsNameCharacter c ∨ c = '/'

theorem IsFileCharacter.plain (h : IsFileCharacter c) :
    isEdge c = false ∧ isIgnored c = false ∧ isPathEnd c = false := by
  obtain hname | rfl := h
  · obtain ⟨hedge, hignored, -, hend, -⟩ := plain_of_isNameCharacter hname
    exact ⟨hedge, hignored, hend⟩
  · decide

/-- A path in a text without query and fragment. -/
theorem readRest_body (h : ∀ c ∈ body, IsFileCharacter c) :
    readRest .file ('/' :: body) = (readSegments .file body, none, none) := by
  have htext : ∀ c ∈ '/' :: body, isPathEnd c = false ∧ isIgnored c = false := by
    intro c hc
    obtain rfl | hc := List.mem_cons.mp hc
    · decide
    · exact ⟨(h c hc).plain.2.2, (h c hc).plain.2.1⟩
  have hpath : ('/' :: body).takeWhile (fun c => !isPathEnd c) = '/' :: body := by
    rw [List.takeWhile_eq_self_iff]
    exact fun c hc => by rw [(htext c hc).1]; rfl
  have hending : ('/' :: body).dropWhile (fun c => !isPathEnd c) = [] := by
    rw [List.dropWhile_eq_nil_iff]
    exact fun c hc => by rw [(htext c hc).1]; rfl
  unfold readRest
  rw [hpath, hending, dropWhile_eq_self fun c hc => (htext c hc).2]
  rfl

theorem readFile_body (h : ∀ c ∈ body, IsFileCharacter c) :
    readFile ('/' :: '/' :: '/' :: body) =
      .ok ⟨"file", some localAuthority, .segments (readSegments .file body).kept, none, none⟩ := by
  have hslashes :
      ¬ ((visible ('/' :: '/' :: '/' :: body)).takeWhile (isSlash .file)).length < 2 := by
    have hvisible : visible ('/' :: '/' :: '/' :: body) = '/' :: '/' :: '/' :: visible body := rfl
    have hslash : isSlash .file '/' = true := rfl
    simp only [hvisible, List.takeWhile_cons, hslash, if_true, List.length_cons]
    omega
  have hdrop : dropSlash (dropSlash ('/' :: '/' :: '/' :: body)) = '/' :: body := rfl
  have hhost : ('/' :: body).takeWhile (fun c => !isAuthorityEnd .file c) = [] := rfl
  have hrest : ('/' :: body).dropWhile (fun c => !isAuthorityEnd .file c) = '/' :: body := rfl
  have huri : fileUri (.name "") ('/' :: body) =
      ⟨"file", some localAuthority, .segments (readSegments .file body).kept, none, none⟩ := by
    unfold fileUri
    rw [readRest_body h]
    simp [localAuthority]
  unfold readFile
  simp only [if_neg hslashes, hdrop, hhost, hrest, huri]
  rfl

theorem read_body (h : ∀ c ∈ body, IsFileCharacter c) :
    read (String.ofList ("file:///".toList ++ body)) =
      .ok ⟨"file", some localAuthority, .segments (readSegments .file body).kept, none, none⟩ := by
  have hplain : ∀ c ∈ "file:///".toList ++ body, isEdge c = false ∧ isIgnored c = false := by
    intro c hc
    obtain hc | hc := List.mem_append.mp hc
    · have hfront : "file:///".toList.all (fun c => !isEdge c && !isIgnored c) = true := by
        decide +kernel
      simpa using List.all_eq_true.mp hfront c hc
    · exact ⟨(h c hc).plain.1, (h c hc).plain.2.1⟩
  have htrim : trimEdges ("file:///".toList ++ body) = "file:///".toList ++ body :=
    trimEdges_eq_self fun c hc => (hplain c hc).1
  have hvisible : visible ("file:///".toList ++ body) = "file:///".toList ++ body :=
    visible_eq_self fun c hc => (hplain c hc).2
  have hscheme : splitScheme? ("file:///".toList ++ body) =
      some ("file", '/' :: '/' :: '/' :: body) := rfl
  have hafter : (("file:///".toList ++ body).dropWhile (· ≠ ':')).drop 1 =
      '/' :: '/' :: '/' :: body := rfl
  have hkind : SchemeKind.ofScheme "file" = .file := rfl
  unfold read
  simp only [String.toList_ofList, htrim, hvisible, hscheme, hkind, hafter]
  exact readFile_body h

/-! ## Hosts of files -/

theorem not_isForbidden_of_domain? {raw : Bytes} {domain : String} (h : domain? raw = some domain) :
    ∀ c ∈ domain.toList, Domain.isForbidden c = false := by
  unfold domain? at h
  simp only [Option.bind_eq_bind, Option.bind_eq_some_iff] at h
  obtain ⟨name, -, mapped, -, labels, -, hwritten⟩ := h
  split at hwritten
  · cases hwritten
  · next hplain =>
    split at hwritten
    · cases hwritten
    · obtain rfl := Option.some.inj hwritten
      rw [String.toList_ofList]
      simpa using hplain

/-- A host that is there does not begin with a slash. -/
def Host.Begins (host : Host) : Prop :=
  ∃ c rest, host.text.toList = c :: rest ∧ c ≠ '/'

theorem begins_ofBracketed {inner : List Char} {host : Host}
    (h : Host.ofBracketed inner = .ok host) : host.Begins := by
  unfold Host.ofBracketed at h
  split at h
  · split at h
    · next groups _ =>
      obtain rfl := Except.ok.inj h
      refine ⟨'[', (ipv6Text groups ++ "]").toList, ?_, by decide⟩
      rw [Host.text, String.append_assoc, String.toList_append]
      rfl
    · cases h
  · cases h

theorem begins_ipv4Text (address : Nat) :
    ∃ c rest, (ipv4Text address).toList = c :: rest ∧ c ≠ '/' := by
  obtain ⟨c, rest, hdigits⟩ := List.exists_cons_of_ne_nil
    (Nat.toDigits_ne_nil (n := address / Nat.pow 256 3 % 256) (b := 10))
  have hdigit : c.isDigit = true :=
    Nat.isDigit_of_mem_toDigits (by decide) (by decide) (hdigits ▸ List.mem_cons_self)
  unfold ipv4Text
  simp only [List.map_cons, String.intercalate_cons_cons, String.toList_append,
    Nat.toString_eq_ofList_toDigits, String.toList_ofList, hdigits]
  refine ⟨c, _, by simp only [List.cons_append]; rfl, ?_⟩
  rintro rfl
  cases hdigit

theorem begins_ofDomain {text : List Char} {host : Host} (h : Host.ofDomain text = .ok host) :
    host.Begins := by
  unfold Host.ofDomain at h
  split at h
  · exact begins_ofBracketed h
  · split at h
    · cases h
    · next domain hdomain =>
      split at h
      · cases h
      · next hne =>
        split at h
        · split at h
          · next address _ =>
            obtain rfl := Except.ok.inj h
            exact begins_ipv4Text address
          · cases h
        · obtain rfl := Except.ok.inj h
          obtain ⟨c, rest, hlist⟩ := List.exists_cons_of_ne_nil
            (fun hnil => hne (String.toList_eq_nil_iff.mp hnil) : domain.toList ≠ [])
          refine ⟨c, rest, hlist, ?_⟩
          rintro rfl
          have hforbidden := not_isForbidden_of_domain? hdomain '/' (hlist ▸ List.mem_cons_self)
          exact absurd hforbidden (by decide)

/-! ## What is read of a file -/

/-- What the URI of a file looks like. -/
structure IsFile (uri : Uri) (host : Host) (kept : List String) : Prop where
  scheme : uri.scheme = "file"
  authority : uri.authority = some { localAuthority with host }
  path : uri.path = .segments kept
  begins : host = .name "" ∨ host.Begins
  ne_nil : kept ≠ []
  segments : ∀ text ∈ kept, IsSegment text

theorem isFile_fileUri {given : Host} (h : given = .name "" ∨ given.Begins) (text : List Char) :
    ∃ host kept, IsFile (fileUri given text) host kept := by
  have hrest : (readRest .file text).1.kept ≠ [] ∧
      ∀ kept ∈ (readRest .file text).1.kept, IsSegment kept := by
    unfold readRest
    dsimp only
    split
    · refine ⟨List.cons_ne_nil _ _, fun kept hkept => ?_⟩
      rw [List.mem_singleton.mp hkept]
      intro c hc
      cases hc
    · exact isSegment_readSegments _
  have hbegins : ∀ drive : Bool,
      (if drive then .name "" else given) = Host.name "" ∨
        (if drive then .name "" else given : Host).Begins := by
    intro drive
    cases drive with
    | true => exact Or.inl rfl
    | false => exact h
  exact ⟨_, _, rfl, rfl, rfl, hbegins _, hrest.1, hrest.2⟩

theorem isFile_readFile {uri : Uri} (h : readFile text = .ok uri) :
    ∃ host kept, IsFile uri host kept := by
  unfold readFile at h
  split at h
  · obtain rfl := Except.ok.inj h
    exact isFile_fileUri (Or.inl rfl) _
  dsimp only [bind, Except.bind, pure, Except.pure] at h
  split at h
  · obtain rfl := Except.ok.inj h
    exact isFile_fileUri (Or.inl rfl) _
  split at h
  · obtain rfl := Except.ok.inj h
    exact isFile_fileUri (Or.inl rfl) _
  split at h
  · cases h
  · next host hhost =>
    obtain rfl := Except.ok.inj h
    apply isFile_fileUri
    split
    · exact Or.inl rfl
    · exact Or.inr (begins_ofDomain hhost)

/-! ## The text of a file's URI -/

/-- The text of segments, each behind a slash. -/
def joined (kept : List String) : List Char :=
  kept.flatMap fun text => '/' :: text.toList

/-- What follows the path in the text of a URI. -/
def ending (uri : Uri) : String :=
  (match uri.query with
    | some query => "?" ++ query
    | none => "") ++
  match uri.fragment with
    | some fragment => "#" ++ fragment
    | none => ""

theorem takeWhile_ending (uri : Uri) :
    uri.ending.toList.takeWhile (fun c => !isPathEnd c) = [] := by
  unfold ending
  cases uri.query with
  | none => cases uri.fragment <;> simp [isPathEnd]
  | some query => simp [isPathEnd]

theorem text_of_isFile {uri : Uri} {host : Host} {kept : List String} (h : IsFile uri host kept) :
    uri.text.toList =
      "file://".toList ++ (host.text.toList ++ (joined kept ++ uri.ending.toList)) := by
  have hhead : uri.headText.toList = "file://".toList ++ host.text.toList := by
    have hauthority : ({ localAuthority with host } : Authority).text = host.text := by
      simp [Authority.text, localAuthority]
    have hscheme : uri.headText = "file://" ++ host.text := by
      unfold headText
      rw [h.authority, h.scheme]
      simp only [hauthority]
      rfl
    rw [hscheme, String.toList_append]
  have hpath : uri.path.text.toList = joined kept := by
    rw [h.path, Path.text, String.toList_join, joined, List.flatMap_map]
    simp
  have htext : uri.text = uri.headText ++ uri.path.text ++ uri.ending := by
    rw [ending, ← String.append_assoc]
    rfl
  rw [htext, String.toList_append, String.toList_append, hhead, hpath, List.append_assoc,
    List.append_assoc]

/-! ## What is read of anything else -/

theorem not_mem_scheme {scheme : String} {rest : List Char}
    (h : splitScheme? text = some (scheme, rest)) : ':' ∉ scheme.toList := by
  have hcharacter : ∀ c, isSchemeCharacter c = true → c.toLower ≠ ':' := by
    intro c hc hlower
    delta Char.toLower at hlower
    split at hlower
    · next hupper =>
      have hlow : 65 ≤ c.val.toNat := hupper.1
      have hhigh : c.val.toNat ≤ 90 := hupper.2
      have hnat : (c.val + ('a'.val - 'A'.val)).toNat = 58 := congrArg Char.toNat hlower
      have hstep : ('a'.val - 'A'.val).toNat = 32 := rfl
      rw [UInt32.toNat_add, hstep] at hnat
      omega
    · rw [hlower] at hc
      cases hc
  unfold splitScheme? at h
  split at h
  · split at h
    · obtain ⟨rfl, -⟩ := Prod.mk.inj (Option.some.inj h)
      rw [String.toList_ofList]
      intro hmem
      obtain ⟨c, hc, hlower⟩ := List.mem_map.mp hmem
      exact hcharacter c (List.mem_takeWhile_imp hc) hlower
    · cases h
  · cases h

theorem scheme_readWithAuthority {scheme : String} {kind : SchemeKind} {uri : Uri}
    (h : readWithAuthority scheme kind text = .ok uri) : uri.scheme = scheme := by
  unfold readWithAuthority at h
  simp only [bind, Except.bind, pure, Except.pure] at h
  split at h
  · cases h
  · rw [← Except.ok.inj h]

/-- The text of a URI begins with its scheme. -/
theorem exists_text_eq (uri : Uri) :
    ∃ rest, uri.text.toList = uri.scheme.toList ++ ':' :: rest := by
  have hhead : ∃ rest, uri.headText = uri.scheme ++ (":" ++ rest) := by
    unfold headText
    split
    · exact ⟨"//" ++ _, by rw [String.append_assoc]; rfl⟩
    · exact ⟨"/.", by rfl⟩
    · exact ⟨"", rfl⟩
  obtain ⟨rest, hrest⟩ := hhead
  unfold text
  simp only [hrest, String.toList_append, List.append_assoc]
  exact ⟨_, rfl⟩

/-- A URI that is read is one of a file, or its scheme is another. -/
theorem read_cases {input : String} {uri : Uri} (h : read input = .ok uri) :
    (∃ host kept, IsFile uri host kept) ∨ (uri.scheme ≠ "file" ∧ ':' ∉ uri.scheme.toList) := by
  unfold read at h
  dsimp only at h
  split at h
  · cases h
  · next scheme rest hscheme =>
    have hcolon := not_mem_scheme hscheme
    split at h
    · exact Or.inl (isFile_readFile h)
    · next hkind =>
      rw [scheme_readWithAuthority h]
      refine Or.inr ⟨?_, hcolon⟩
      rintro rfl
      cases hkind
    · next hkind =>
      have hother : scheme ≠ "file" := by
        rintro rfl
        cases hkind
      split at h
      · rw [scheme_readWithAuthority h]
        exact Or.inr ⟨hother, hcolon⟩
      · rw [← Except.ok.inj h]
        exact Or.inr ⟨hother, hcolon⟩

end SettingsBroker.Uri
