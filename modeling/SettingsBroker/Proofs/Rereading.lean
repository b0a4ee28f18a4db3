/-
# What a build system says when it has read again

A compilation database is read from a file and a plan is brought by a package manager, and both
can be told to read again.  What they find then is compared with what they had: the documents
for which they would now give another answer are reported, after what happened to targets, and
where there is nothing to report nothing is said.

A reading that fails leaves no trace but words in the log.  Two plan sources that differ only in
what they have reported and counted are `Alike`, and alike sources give the same answers for
ever.

Nothing is assumed of the time in between: what is read, and from where relative paths are seen,
may be anything at each reading.
-/

import SettingsBroker.Proofs.Broker.World
import SettingsBroker.Proofs.Plan.Changed
import SettingsBroker.Proofs.Plan.Loads

namespace SettingsBroker

open ResolvedPlan (sharing)

/-- What is reported when targets and documents have changed: the targets and then the
documents, each unless there are none. -/
def changeReports (events : List TargetEvent) (changed : DocumentSet) : List BuildEvent :=
  (if events.isEmpty then [] else [.targetsChanged events])
    ++ (if changed.isEmpty then [] else [.settingsChanged changed])

/-! ## Compilation databases -/

namespace CompileDatabase

variable {before after : CompileDatabase} {document : Document}

/-- Two databases agree on a document where they answer the same. -/
theorem agree_iff_sameAnswer : before.agree after document = true ↔
    SameAnswer (before.settings? document) (after.settings? document) := by
  refine ⟨sameAnswer_of_agree, fun hsame => ?_⟩
  rw [settings?, settings?] at hsame
  rw [agree]
  cases hold : before[document]? with
  | none =>
    cases hnew : after[document]? with
    | none => rfl
    | some new =>
      rw [hold, hnew] at hsame
      cases hsame
  | some old =>
    cases hnew : after[document]? with
    | none =>
      rw [hold, hnew] at hsame
      cases hsame
    | some new =>
      rw [hold, hnew] at hsame
      cases hsame with
      | some hsettings =>
        obtain ⟨harguments, hdirectory, -⟩ := BuildSettings.same_iff.mp hsettings
        exact Bool.and_eq_true_iff.mpr ⟨beq_iff_eq.mpr hdirectory, beq_iff_eq.mpr harguments⟩

/-- What has changed between two databases is exactly where they answer differently. -/
theorem mem_changed_iff_not_sameAnswer : document ∈ before.changed after ↔
    ¬ SameAnswer (before.settings? document) (after.settings? document) := by
  constructor
  · intro hchanged hsame
    rw [changed, Std.ExtTreeSet.mem_ofList, List.contains_iff_mem, List.mem_filter] at hchanged
    simp [agree_iff_sameAnswer.mpr hsame] at hchanged
  · intro hdiffer
    by_contra hkept
    exact hdiffer (sameAnswer_of_not_changed hkept)

end CompileDatabase

/-! ## Plans -/

namespace ResolvedPlan

variable {before after : ResolvedPlan} {document : Document}

/-- Two plans agree on a document where they answer the same. -/
theorem agree_iff_sameAnswer : before.agree after document = true ↔
    SameAnswer (before.settings? document) (after.settings? document) := by
  rw [agree]
  cases before.settings? document <;> cases after.settings? document <;> simp [SameAnswer]

/-- What has changed between two plans is exactly where they answer differently. -/
theorem mem_changed_iff_not_sameAnswer : document ∈ before.changed after ↔
    ¬ SameAnswer (before.settings? document) (after.settings? document) := by
  rw [mem_changed_iff, ← agree_iff_sameAnswer, Bool.not_eq_true]

/-- The events of a reload name the targets to which something happened, and say what. -/
theorem mem_targetEvents_iff_happened {event : TargetEvent} :
    event ∈ before.targetEvents after ↔
      ∃ id kind, event = ⟨some id, kind⟩ ∧ before.happened after id = some kind := by
  rw [mem_targetEvents_iff]
  refine exists_congr fun id => ?_
  rw [Option.map_eq_some_iff]
  exact exists_congr fun kind => by rw [and_comm, eq_comm]

end ResolvedPlan

namespace PlanSource

variable {source other : PlanSource}

/-! ## Plan sources that answer alike -/

/-- Two sources that differ at most in what they have reported and counted. -/
structure Alike (source other : PlanSource) : Prop where
  /-- They see relative paths from the same place. -/
  here : source.here = other.here
  root : source.root = other.root
  plan : source.plan = other.plan

namespace Alike

theorem emit (source : PlanSource) (events : List BuildEvent) (resolutions : Nat) :
    Alike (PlanSource.emit { source with resolutions } events) source :=
  ⟨rfl, rfl, rfl⟩

theorem answer? (h : source.Alike other) (request : PlanRequest) :
    source.answer? request = other.answer? request := by
  cases request <;> simp [PlanSource.answer?, h.plan]

theorem beginLoad (h : source.Alike other) : source.beginLoad.Alike other.beginLoad :=
  ⟨h.here, h.root, h.plan⟩

theorem adopt (h : source.Alike other) (request : PlanRequest) (plan : ResolvedPlan) :
    (source.adopt request plan).1.Alike (other.adopt request plan).1 ∧
      (source.adopt request plan).2 = (other.adopt request plan).2 := by
  cases request with
  | settings document => exact ⟨⟨h.here, h.root, rfl⟩, rfl⟩
  | targets => exact ⟨⟨h.here, h.root, rfl⟩, rfl⟩
  | reload =>
    refine ⟨⟨h.here, h.root, rfl⟩, ?_⟩
    simp only [PlanSource.adopt, h.plan]

theorem endLoad (h : source.Alike other) (request : PlanRequest) (load : PlanLoad) :
    (source.endLoad request load).1.Alike (other.endLoad request load).1 ∧
      (source.endLoad request load).2 = (other.endLoad request load).2 := by
  cases load with
  | error failure => exact ⟨⟨h.here, h.root, h.plan⟩, rfl⟩
  | ok written =>
    simp only [PlanSource.endLoad, h.here, h.root]
    cases ResolvedPlan.ofPlan? other.here other.root written with
    | error failure => exact ⟨h, rfl⟩
    | ok plan => exact h.adopt request plan

/-- Alike sources give the same answer and stay alike. -/
theorem ask (h : source.Alike other) (request : PlanRequest) (load : PlanLoad) :
    (source.ask request load).1.Alike (other.ask request load).1 ∧
      (source.ask request load).2 = (other.ask request load).2 := by
  rw [PlanSource.ask, PlanSource.ask, h.answer? request]
  cases other.answer? request with
  | some answer => exact ⟨h, rfl⟩
  | none => exact h.beginLoad.endLoad request load

end Alike

/-! ## Sessions -/

/-- A request, with what it finds in case the package manager has to be asked. -/
structure Visit where
  request : PlanRequest
  /-- What the package manager says. -/
  load : PlanLoad
  /-- Where a relative root is seen from. -/
  here : Whereabouts

/-- Answers the request of a visit. -/
def visit (source : PlanSource) (v : Visit) : PlanSource × PlanAnswer :=
  { source with here := v.here }.ask v.request v.load

/-- The answers to visits, one after the other. -/
def replies (source : PlanSource) : List Visit → List PlanAnswer
  | [] => []
  | v :: later => (source.visit v).2 :: (source.visit v).1.replies later

/-- Alike sources give the same answers for ever. -/
theorem Alike.replies (h : source.Alike other) (visits : List Visit) :
    source.replies visits = other.replies visits := by
  induction visits generalizing source other with
  | nil => rfl
  | cons v later ih =>
    have hmoved : Alike { source with here := v.here } { other with here := v.here } :=
      ⟨rfl, h.root, h.plan⟩
    obtain ⟨hnext, hanswer⟩ := hmoved.ask v.request v.load
    rw [PlanSource.replies, PlanSource.replies]
    exact congrArg₂ List.cons hanswer (ih hnext)

/-! ## What a source says of documents -/

/-- The settings of a document are told from the plan that is kept. -/
def Tells (source : PlanSource) (document : Document) (found : Option BuildSettings) : Prop :=
  ∀ load, source.ask (.settings document) load = (source, .settings found)

theorem tells_of_plan {plan : ResolvedPlan} (kept : source.plan = some plan)
    (document : Document) : source.Tells document (plan.settings? document) := by
  intro load
  simp [ask, answer?, kept]

end PlanSource

/-- To read again is to report exactly what changes.  A compilation database reports the
documents for which it answers differently, after its one target, unless there are none; a file
that cannot be read changes nothing at all.  A plan source that has a plan reports the targets
to which something happened and then the documents for which it answers differently, each unless
there are none; if no new plan can be told, then only words are reported, and every later
request is answered as if the reload had not been made. -/
theorem reload_tells_changes :
    (∀ (source : CompileSource) (here : Whereabouts) (file : FileContent),
      match source.reload here file with
      | (next, .ok changed) =>
        (∀ document, document ∈ changed ↔
          ¬ SameAnswer (source.database.settings? document)
            (next.database.settings? document)) ∧
        next.events = source.events.sendAll (changeReports
          (if changed.isEmpty then [] else [⟨some ⟨"compile_commands"⟩, .changed⟩]) changed)
      | (next, .error _) => next = source) ∧
    ∀ (source : PlanSource) (plan : ResolvedPlan) (load : PlanLoad), source.plan = some plan →
      match source.ask .reload load with
      | (next, .reloaded events) =>
        ∃ after words changed, next.plan = some after ∧ OnlyWords words ∧
          next.events = source.events.sendAll (words ++ changeReports events changed) ∧
          (∀ event, event ∈ events ↔
            ∃ id kind, event = ⟨some id, kind⟩ ∧ plan.happened after id = some kind) ∧
          ∀ document, ∃ old new, source.Tells document old ∧ next.Tells document new ∧
            (document ∈ changed ↔ ¬ SameAnswer old new)
      | (next, .failed _) =>
        (∃ words, OnlyWords words ∧ next.events = source.events.sendAll words) ∧
          ∀ visits, next.replies visits = source.replies visits
      | _ => False := by
  refine ⟨fun source here file => ?_, fun source plan load kept => ?_⟩
  · rw [CompileSource.reload]
    cases CompileDatabase.load here file with
    | error failure => rfl
    | ok database =>
      refine ⟨fun document => CompileDatabase.mem_changed_iff_not_sameAnswer, ?_⟩
      rw [changeReports]
      cases (CompileDatabase.changed source.database database).isEmpty <;> rfl
  · obtain ⟨failure, words, hwords, hask⟩ | ⟨after, words, hwords, hask⟩ :=
      source.ask_reload_cases load
    · rw [hask]
      exact ⟨⟨words, hwords, rfl⟩, (PlanSource.Alike.emit source words _).replies⟩
    · rw [hask, kept]
      refine ⟨after, words, plan.changed after, rfl, hwords, rfl,
        fun event => ResolvedPlan.mem_targetEvents_iff_happened, fun document => ?_⟩
      exact ⟨_, _, PlanSource.tells_of_plan kept document, PlanSource.tells_of_plan rfl document,
        ResolvedPlan.mem_changed_iff_not_sameAnswer⟩

/-- A source with a plan in which one target lists a document. -/
def sharingSource : PlanSource where
  here := .ok (.ofString "/")
  root := .ofString "/pkg"
  plan := some (.ofPlan (.ofString "/") (.ofString "/pkg") (sharing ["lib"]))
  resolutions := 1
  events := .empty 16

/-- A second target is reported as new. -/
theorem reload_tells_changes_shared :
    ∃ next events words changed,
      sharingSource.ask .reload (.ok (sharing ["lib", "app"])) =
        (next, .reloaded events) ∧
      next.events = sharingSource.events.sendAll (words ++ changeReports events changed) ∧
      ⟨some ⟨"app"⟩, .created⟩ ∈ events := by
  let before := ResolvedPlan.ofPlan (.ofString "/") (.ofString "/pkg") (sharing ["lib"])
  let after := ResolvedPlan.ofPlan (.ofString "/") (.ofString "/pkg") (sharing ["lib", "app"])
  have hnew : before.happened after ⟨"app"⟩ = some .created := by decide +kernel
  obtain ⟨next, events, hask, hplan⟩ : ∃ next events,
      sharingSource.ask .reload (.ok (sharing ["lib", "app"])) = (next, .reloaded events) ∧
        next.plan = some after := ⟨_, _, rfl, rfl⟩
  have htold := reload_tells_changes.2 sharingSource before (.ok (sharing ["lib", "app"])) rfl
  rw [hask] at htold
  obtain ⟨found, words, changed, hfound, -, hevents, hhappened, -⟩ := htold
  obtain rfl : after = found := Option.some.inj (hplan.symm.trans hfound)
  exact ⟨next, events, words, changed, hask, hevents, (hhappened _).mpr ⟨_, _, rfl, hnew⟩⟩

end SettingsBroker
