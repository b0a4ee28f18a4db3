/-
# What a batch says

A batch is the exact sum of the reports that were absorbed into it.  Each of its three parts is
told from the reports of its own kind: settings as a union, dependencies as a union in which
"everything" swallows the rest, and targets as a digest of all events in the order in which they
came, unless one report could not tell what happened.

Two consequences follow for neighbouring reports.  Two of one kind can be put together before
they are absorbed, and two of different kinds can change places.
-/

import Mathlib.Data.List.Induction
import SettingsBroker.ChangeBatch

namespace SettingsBroker

/-! ## Digests of target events -/

/-- A list says in short what events said: each target once, in the order in which the targets
first came up, with the last event on it.  Events that name no target are events on one. -/
structure Digest (events listed : List TargetEvent) : Prop where
  targets : listed.map (·.target) = (events.map (·.target)).eraseDups
  distinct : (listed.map (·.target)).Nodup
  latest : ∀ event ∈ listed, ∃ before after, events = before ++ event :: after ∧
    ∀ later ∈ after, later.target ≠ event.target

theorem eraseDups_concat {α : Type} [BEq α] [LawfulBEq α] (list : List α) (a : α) :
    (list ++ [a]).eraseDups = if a ∈ list then list.eraseDups else list.eraseDups ++ [a] := by
  rw [List.eraseDups_append, List.removeAll]
  by_cases h : a ∈ list <;> simp [h, List.eraseDups_cons]

namespace TargetChanges

variable {noted events : List TargetEvent} {event : TargetEvent}

theorem map_target_note (noted : List TargetEvent) (event : TargetEvent) :
    (note noted event).map (·.target) =
      if event.target ∈ noted.map (·.target) then noted.map (·.target)
      else noted.map (·.target) ++ [event.target] := by
  induction noted with
  | nil => rfl
  | cons first rest ih =>
    by_cases hfirst : first.target = event.target
    · simp [note, hfirst]
    · have hother : ¬ event.target = first.target := fun h => hfirst h.symm
      simp only [note, if_neg hfirst, List.map_cons, ih, List.mem_cons, hother, false_or]
      split <;> rfl

/-- The event on a target that is noted is the new one, if it is on that target. -/
theorem mem_note (distinct : (noted.map (·.target)).Nodup) {kept : TargetEvent}
    (h : kept ∈ note noted event) : kept = event ∨ kept ∈ noted ∧ kept.target ≠ event.target := by
  induction noted with
  | nil => exact Or.inl (List.mem_singleton.mp h)
  | cons first rest ih =>
    rw [List.map_cons, List.nodup_cons] at distinct
    rw [note] at h
    split at h
    · next hfirst =>
      obtain rfl | hrest := List.mem_cons.mp h
      · exact Or.inl (by rw [hfirst])
      · refine Or.inr ⟨List.mem_cons_of_mem _ hrest, fun hsame => distinct.1 ?_⟩
        rw [hfirst, ← hsame]
        exact List.mem_map_of_mem hrest
    · next hfirst =>
      obtain rfl | hrest := List.mem_cons.mp h
      · exact Or.inr ⟨List.mem_cons_self, hfirst⟩
      · exact (ih distinct.2 hrest).imp id fun hkept => ⟨List.mem_cons_of_mem _ hkept.1, hkept.2⟩

/-- One more event is noted in a digest. -/
theorem digest_note (h : Digest events noted) (event : TargetEvent) :
    Digest (events ++ [event]) (note noted event) := by
  have htargets : (note noted event).map (·.target) =
      ((events ++ [event]).map (·.target)).eraseDups := by
    rw [map_target_note, h.targets, List.map_append, List.map_singleton, eraseDups_concat]
    simp only [List.mem_eraseDups]
  refine ⟨htargets, ?_, ?_⟩
  · rw [map_target_note]
    split
    · exact h.distinct
    · next hnew => exact List.nodup_append.mpr ⟨h.distinct, by simp, by simpa using hnew⟩
  · intro kept hkept
    obtain rfl | ⟨hold, hother⟩ := mem_note h.distinct hkept
    · exact ⟨events, [], rfl, by simp⟩
    · obtain ⟨before, after, rfl, hafter⟩ := h.latest kept hold
      refine ⟨before, after ++ [event], by simp, fun later hlater => ?_⟩
      obtain hlater | hlater := List.mem_append.mp hlater
      · exact hafter later hlater
      · rw [List.mem_singleton.mp hlater]
        exact hother.symm

theorem digest_foldl_note (h : Digest events noted) (more : List TargetEvent) :
    Digest (events ++ more) (more.foldl note noted) := by
  induction more generalizing events noted with
  | nil => rwa [List.append_nil]
  | cons event more ih => simpa using ih (digest_note h event)

theorem digest_nil : Digest [] [] := ⟨rfl, List.nodup_nil, by simp⟩

end TargetChanges

/-! ## Neighbouring reports -/

/-- What two reports on targets say, the first of them before the second. -/
def TargetChanges.followedBy : TargetChanges → TargetChanges → TargetChanges
  | .listed first, .listed second => .listed (first ++ second)
  | _, _ => .unknown

namespace ChangeReport

/-- The events that a report lists. -/
def events : ChangeReport → List TargetEvent
  | .targets (.listed events) => events
  | _ => []

/-- A report that says what two reports of one kind say. -/
def and? : ChangeReport → ChangeReport → Option ChangeReport
  | .settings first, .settings second => some (.settings (first ∪ second))
  | .dependencies first, .dependencies second => some (.dependencies (first.merge second))
  | .targets first, .targets second => some (.targets (first.followedBy second))
  | _, _ => none

end ChangeReport

theorem DocumentSet.union_assoc (a b c : DocumentSet) : a ∪ b ∪ c = a ∪ (b ∪ c) :=
  Std.ExtTreeSet.ext_mem fun document => by simp [or_assoc]

namespace Affected

variable {a b : Affected} {documents : DocumentSet}

theorem merge_assoc (a b c : Affected) : (a.merge b).merge c = a.merge (b.merge c) := by
  cases a <;> cases b <;> cases c <;> simp [merge, DocumentSet.union_assoc]

theorem merge_eq_all_iff : a.merge b = .all ↔ a = .all ∨ b = .all := by
  cases a <;> cases b <;> simp [merge]

theorem merge_eq_only_iff : a.merge b = .only documents ↔
    ∃ mine theirs, a = .only mine ∧ b = .only theirs ∧ mine ∪ theirs = documents := by
  cases a <;> cases b <;> simp [merge]

theorem isEmpty_merge : (a.merge b).isEmpty = (a.isEmpty && b.isEmpty) := by
  cases a <;> cases b <;> simp [merge, isEmpty]

end Affected

theorem TargetChanges.merge_merge (before : Option TargetChanges) (first second : TargetChanges) :
    merge (some (merge before first)) second = merge before (first.followedBy second) := by
  obtain _ | _ | noted := before <;> cases first <;> cases second <;>
    simp [merge, followedBy, summary]

namespace ChangeBatch

variable {batch : ChangeBatch} {reports : List ChangeReport} {report first second : ChangeReport}

theorem ofReports_concat (reports : List ChangeReport) (report : ChangeReport) :
    ofReports (reports ++ [report]) = (ofReports reports).absorb report :=
  List.foldl_append

/-- Reports of one kind are absorbed together as they are one by one. -/
theorem absorb_and? {both : ChangeReport} (h : first.and? second = some both) :
    (batch.absorb first).absorb second = batch.absorb both := by
  cases first with
  | settings mine =>
    cases second <;> cases h
    simp only [absorb, DocumentSet.union_assoc]
  | dependencies mine =>
    cases second <;> cases h
    simp only [absorb, Option.getD_some, Affected.merge_assoc]
  | targets mine =>
    cases second <;> cases h
    simp only [absorb, TargetChanges.merge_merge]

/-- Reports of different kinds are absorbed in either order. -/
theorem absorb_comm (h : first.and? second = none) :
    (batch.absorb first).absorb second = (batch.absorb second).absorb first := by
  cases first <;> cases second <;> first | rfl | cases h

/-! ## The parts of a batch -/

/-- The documents in the settings part are those that some report named. -/
def SumsSettings (reports : List ChangeReport) (settings : DocumentSet) : Prop :=
  ∀ document, document ∈ settings ↔
    ∃ documents, .settings documents ∈ reports ∧ document ∈ documents

/-- The dependencies part is absent if nothing was reported, everything if that was reported,
and else the documents that some report named. -/
structure SumsDependencies (reports : List ChangeReport) (dependencies : Option Affected) :
    Prop where
  none_iff : dependencies = none ↔ ∀ affected, .dependencies affected ∉ reports
  all_iff : dependencies = some .all ↔ .dependencies .all ∈ reports
  only : ∀ documents, dependencies = some (.only documents) → ∀ document,
    document ∈ documents ↔ ∃ part, .dependencies (.only part) ∈ reports ∧ document ∈ part

/-- The targets part is absent if nothing was reported, unknown if that was reported, and else a
digest of all events. -/
structure SumsTargets (reports : List ChangeReport) (targets : Option TargetChanges) : Prop where
  none_iff : targets = none ↔ ∀ changes, .targets changes ∉ reports
  unknown_iff : targets = some .unknown ↔ .targets .unknown ∈ reports
  listed : ∀ listed, targets = some (.listed listed) →
    Digest (reports.flatMap ChangeReport.events) listed

theorem sumsSettings_absorb (h : SumsSettings reports batch.settings) (report : ChangeReport) :
    SumsSettings (reports ++ [report]) (batch.absorb report).settings := by
  intro document
  cases report <;> simp [absorb, h document, or_and_right, exists_or]

theorem SumsDependencies.merge {dependencies : Option Affected}
    (h : SumsDependencies reports dependencies) (affected : Affected) :
    SumsDependencies (reports ++ [.dependencies affected])
      (some ((dependencies.getD .none).merge affected)) where
  none_iff := by
    simp only [reduceCtorEq, false_iff, not_forall, not_not]
    exact ⟨affected, List.mem_append_right _ List.mem_cons_self⟩
  all_iff := by
    rw [Option.some_inj, Affected.merge_eq_all_iff, List.mem_append, ← h.all_iff]
    cases dependencies <;> simp [Affected.none, eq_comm]
  only documents hdocuments document := by
    obtain ⟨mine, theirs, hmine, rfl, rfl⟩ :=
      Affected.merge_eq_only_iff.mp (Option.some_inj.mp hdocuments)
    have hbefore : document ∈ mine ↔
        ∃ part, .dependencies (.only part) ∈ reports ∧ document ∈ part := by
      cases dependencies with
      | none =>
        have hnone := h.none_iff.mp rfl
        cases hmine
        simp [hnone]
      | some before => exact h.only mine (congrArg some hmine) document
    simp [hbefore, or_and_right, exists_or]

/-- Reports of another kind are not summed up. -/
theorem SumsDependencies.keep {dependencies : Option Affected}
    (h : SumsDependencies reports dependencies)
    (other : ∀ affected, report ≠ .dependencies affected) :
    SumsDependencies (reports ++ [report]) dependencies where
  none_iff := by simpa [(other _).symm] using h.none_iff
  all_iff := by simpa [(other _).symm] using h.all_iff
  only := by simpa [(other _).symm] using h.only

theorem sumsDependencies_absorb (h : SumsDependencies reports batch.dependencies)
    (report : ChangeReport) :
    SumsDependencies (reports ++ [report]) (batch.absorb report).dependencies := by
  cases report with
  | dependencies affected => exact h.merge affected
  | settings documents => exact h.keep nofun
  | targets changes => exact h.keep nofun

theorem events_eq_nil (h : ∀ changes, .targets changes ∉ reports) :
    reports.flatMap ChangeReport.events = [] := by
  rw [List.flatMap_eq_nil_iff]
  intro report hreport
  cases report with
  | targets changes => exact absurd hreport (h changes)
  | settings documents => rfl
  | dependencies affected => rfl

theorem SumsTargets.merge {targets : Option TargetChanges} (h : SumsTargets reports targets)
    (changes : TargetChanges) :
    SumsTargets (reports ++ [.targets changes]) (some (TargetChanges.merge targets changes)) where
  none_iff := by
    simp only [reduceCtorEq, false_iff, not_forall, not_not]
    exact ⟨changes, List.mem_append_right _ List.mem_cons_self⟩
  unknown_iff := by
    rw [List.mem_append, ← h.unknown_iff]
    obtain _ | _ | noted := targets <;> cases changes <;> simp [TargetChanges.merge]
  listed listed hlisted := by
    rw [List.flatMap_append, List.flatMap_singleton]
    cases changes with
    | unknown => obtain _ | _ | noted := targets <;> cases hlisted
    | listed more =>
      obtain _ | _ | noted := targets
      · cases hlisted
        rw [events_eq_nil (h.none_iff.mp rfl)]
        exact TargetChanges.digest_foldl_note TargetChanges.digest_nil more
      · cases hlisted
      · cases hlisted
        exact TargetChanges.digest_foldl_note (h.listed noted rfl) more

/-- Reports of another kind are not summed up. -/
theorem SumsTargets.keep {targets : Option TargetChanges} (h : SumsTargets reports targets)
    (other : ∀ changes, report ≠ .targets changes) :
    SumsTargets (reports ++ [report]) targets where
  none_iff := by simpa [(other _).symm] using h.none_iff
  unknown_iff := by simpa [(other _).symm] using h.unknown_iff
  listed listed hlisted := by
    have hevents : [report].flatMap ChangeReport.events = [] :=
      events_eq_nil fun changes h => other changes (List.mem_singleton.mp h).symm
    rw [List.flatMap_append, hevents, List.append_nil]
    exact h.listed listed hlisted

theorem sumsTargets_absorb (h : SumsTargets reports batch.targets) (report : ChangeReport) :
    SumsTargets (reports ++ [report]) (batch.absorb report).targets := by
  cases report with
  | targets changes => exact h.merge changes
  | settings documents => exact h.keep nofun
  | dependencies affected => exact h.keep nofun

/-! ## Batches that say nothing -/

theorem isEmpty_eq (batch : ChangeBatch) :
    batch.isEmpty = (batch.settings.isEmpty && batch.dependencies.all Affected.isEmpty
      && batch.targets.all TargetChanges.isEmpty) := by
  obtain ⟨settings, dependencies, targets⟩ := batch
  rw [Bool.eq_iff_iff, isEmpty, parts, List.isEmpty_iff, List.filter_eq_nil_iff]
  cases dependencies <;> cases targets <;> simp [ChangeReport.isEmpty, and_assoc]

theorem isEmpty_foldl_note (noted events : List TargetEvent) :
    (events.foldl TargetChanges.note noted).isEmpty = (noted.isEmpty && events.isEmpty) := by
  induction events generalizing noted with
  | nil => simp
  | cons event events ih =>
    have hnote : (TargetChanges.note noted event).isEmpty = false := by
      cases noted with
      | nil => rfl
      | cons first rest =>
        rw [TargetChanges.note]
        split <;> rfl
    simp [ih, hnote]

theorem isEmpty_merge (before : Option TargetChanges) (changes : TargetChanges) :
    (TargetChanges.merge before changes).isEmpty =
      (before.all TargetChanges.isEmpty && changes.isEmpty) := by
  obtain _ | _ | noted := before <;> cases changes <;>
    simp [TargetChanges.merge, TargetChanges.isEmpty, TargetChanges.summary, isEmpty_foldl_note]

/-- A batch says nothing as long as it has absorbed nothing but reports that say nothing. -/
theorem isEmpty_absorb (batch : ChangeBatch) (report : ChangeReport) :
    (batch.absorb report).isEmpty = (batch.isEmpty && report.isEmpty) := by
  rw [isEmpty_eq, isEmpty_eq]
  cases report with
  | settings documents =>
    simp only [absorb, ChangeReport.isEmpty, Std.ExtTreeSet.isEmpty_union]
    ac_rfl
  | dependencies affected =>
    have hnone : (batch.dependencies.getD .none).isEmpty =
        batch.dependencies.all Affected.isEmpty := by
      cases batch.dependencies <;> rfl
    simp only [absorb, ChangeReport.isEmpty, Option.all_some, Affected.isEmpty_merge, hnone]
    ac_rfl
  | targets changes =>
    simp only [absorb, ChangeReport.isEmpty, Option.all_some, isEmpty_merge]
    ac_rfl

theorem isEmpty_ofReports (reports : List ChangeReport) :
    (ofReports reports).isEmpty = reports.all ChangeReport.isEmpty := by
  induction reports using List.reverseRecOn with
  | nil => rfl
  | append_singleton reports report ih => simp [ofReports_concat, isEmpty_absorb, ih]

/-! ## What a batch says -/

/-- The three parts of a batch sum up what was reported. -/
structure Sums (reports : List ChangeReport) (batch : ChangeBatch) : Prop where
  settings : SumsSettings reports batch.settings
  dependencies : SumsDependencies reports batch.dependencies
  targets : SumsTargets reports batch.targets

theorem sums_empty : Sums [] empty where
  settings := fun document => by simp [empty]
  dependencies := ⟨by simp [empty], by simp [empty], by simp [empty]⟩
  targets := ⟨by simp [empty], by simp [empty], by simp [empty]⟩

theorem Sums.absorb (h : Sums reports batch) (report : ChangeReport) :
    Sums (reports ++ [report]) (batch.absorb report) where
  settings := sumsSettings_absorb h.settings report
  dependencies := sumsDependencies_absorb h.dependencies report
  targets := sumsTargets_absorb h.targets report

theorem sums_ofReports (reports : List ChangeReport) : Sums reports (ofReports reports) := by
  induction reports using List.reverseRecOn with
  | nil => exact sums_empty
  | append_singleton reports report ih =>
    rw [ofReports_concat]
    exact ih.absorb report

/-- A batch is the exact sum of the reports absorbed into it, and says nothing only if none of
them says anything.  It stays the same when two neighbours of one kind are put together, and when
two neighbours of different kinds change places. -/
theorem batch_sums_reports :
    (∀ reports, Sums reports (ofReports reports) ∧
      ((ofReports reports).isEmpty = true ↔ ∀ report ∈ reports, report.isEmpty = true)) ∧
    ∀ before first second after,
      ofReports (before ++ first :: second :: after) =
        match first.and? second with
        | some both => ofReports (before ++ both :: after)
        | none => ofReports (before ++ second :: first :: after) := by
  refine ⟨fun reports => ⟨sums_ofReports reports, ?_⟩, fun before first second after => ?_⟩
  · rw [isEmpty_ofReports, List.all_eq_true]
  · cases hboth : first.and? second with
    | some both => simp only [ofReports, List.foldl_append, List.foldl_cons, absorb_and? hboth]
    | none => simp only [ofReports, List.foldl_append, List.foldl_cons, absorb_comm hboth]

end ChangeBatch

end SettingsBroker
