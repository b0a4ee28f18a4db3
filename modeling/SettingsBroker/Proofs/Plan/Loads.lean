/-
# How a load ends

Asking the package manager ends in one of two ways.  If it fails, nothing is left of it but
words in the log and the count.  If it brings a plan, the plan is kept from then on and
answers the request for which it was asked; only a reload has more to report.
-/

import SettingsBroker.PlanSource

namespace SettingsBroker

/-- Whether an event is progress in words. -/
def BuildEvent.isWords : BuildEvent → Bool
  | .log .. => true
  | .settingsChanged _ | .dependenciesUpdated _ | .targetsChanged _ => false

/-- Nothing but progress in words. -/
def OnlyWords (events : List BuildEvent) : Prop :=
  ∀ event ∈ events, event.isWords = true

theorem OnlyWords.append {events later : List BuildEvent} (first : OnlyWords events)
    (second : OnlyWords later) : OnlyWords (events ++ later) :=
  List.forall_mem_append.mpr ⟨first, second⟩

theorem EventStream.sendAll_append {α : Type} (stream : EventStream α) (events later : List α) :
    stream.sendAll (events ++ later) = (stream.sendAll events).sendAll later :=
  List.foldl_append

namespace PlanSource

variable (source : PlanSource) (request : PlanRequest) (plan : ResolvedPlan) (load : PlanLoad)

theorem emit_append (events later : List BuildEvent) :
    source.emit (events ++ later) = (source.emit events).emit later := by
  simp only [emit, EventStream.sendAll_append]

theorem log_eq_emit (message : String) :
    ∃ words, OnlyWords words ∧ source.log message = source.emit words :=
  ⟨[_], List.forall_mem_singleton.mpr rfl, rfl⟩

/-- To begin is to count and to say so. -/
theorem beginLoad_eq_emit :
    ∃ words, OnlyWords words ∧
      source.beginLoad = emit { source with resolutions := source.resolutions + 1 } words :=
  log_eq_emit { source with resolutions := source.resolutions + 1 }
    ("Resolving build plan in " ++ source.root.display)

@[simp]
theorem beginLoad_resolutions : source.beginLoad.resolutions = source.resolutions + 1 := rfl

/-! ## Taking over a plan -/

@[simp]
theorem adopt_plan : (source.adopt request plan).1.plan = some plan := by
  cases request <;> rfl

@[simp]
theorem adopt_resolutions : (source.adopt request plan).1.resolutions = source.resolutions := by
  cases request <;> rfl

/-- Anything but a reload is answered as it would be answered afterwards. -/
theorem answer?_adopt (lazily : request ≠ .reload) :
    (source.adopt request plan).1.answer? request = some (source.adopt request plan).2 := by
  cases request with
  | settings document => rfl
  | targets => rfl
  | reload => exact absurd rfl lazily

/-! ## The end of a load -/

/-- A load fails, with words in the log, or brings a plan. -/
theorem endLoad_cases :
    (∃ failure words, OnlyWords words ∧
      source.endLoad request load = (source.emit words, .failed failure)) ∨
    ∃ plan, source.endLoad request load = source.adopt request plan := by
  cases load with
  | error failure =>
    obtain ⟨words, hwords, hlog⟩ :=
      source.log_eq_emit ("Build plan resolution failed: " ++ failure.message)
    exact Or.inl ⟨failure, words, hwords, congrArg (·, PlanAnswer.failed failure) hlog⟩
  | ok written =>
    cases hplan : ResolvedPlan.ofPlan? source.here source.root written with
    | error failure =>
      have hend : source.endLoad request (.ok written) = (source, .failed failure) := by
        simp only [endLoad, hplan]
      exact Or.inl ⟨failure, [], List.forall_mem_nil _, hend⟩
    | ok plan =>
      have hend : source.endLoad request (.ok written) = source.adopt request plan := by
        simp only [endLoad, hplan]
      exact Or.inr ⟨plan, hend⟩

/-- A reload fails and keeps the plan, or it replaces the plan and reports what that changes. -/
theorem ask_reload_cases :
    (∃ failure words, OnlyWords words ∧
      source.ask .reload load =
        ({ source with resolutions := source.resolutions + 1 }.emit words, .failed failure)) ∨
    ∃ plan words, OnlyWords words ∧
      source.ask .reload load =
        ({ source with resolutions := source.resolutions + 1, plan := some plan }.emit
            (words ++ reloadReports source.plan plan),
          .reloaded (reloadEvents source.plan plan)) := by
  have hask : source.ask .reload load = source.beginLoad.endLoad .reload load := rfl
  obtain ⟨begun, hbegun, hbegin⟩ := source.beginLoad_eq_emit
  obtain ⟨failure, words, hwords, hend⟩ | ⟨plan, hend⟩ :=
    source.beginLoad.endLoad_cases .reload load
  · refine Or.inl ⟨failure, begun ++ words, hbegun.append hwords, ?_⟩
    rw [hask, hend, hbegin, emit_append]
  · obtain ⟨words, hwords, hlog⟩ := log_eq_emit { source.beginLoad with plan := some plan }
      ("Resolved " ++ toString plan.targets.size ++ " targets")
    refine Or.inr ⟨plan, begun ++ words, hbegun.append hwords, ?_⟩
    have hadopt : source.beginLoad.adopt .reload plan =
        (({ source.beginLoad with plan := some plan }.log
            ("Resolved " ++ toString plan.targets.size ++ " targets")).emit
              (reloadReports source.plan plan),
          .reloaded (reloadEvents source.plan plan)) := rfl
    rw [hask, hend, hadopt, hlog, hbegin, emit_append, emit_append]
    rfl

end PlanSource

end SettingsBroker
