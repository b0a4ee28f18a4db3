/-
# What the cache holds

What the cache holds for a document follows from the results that were taken in
since the document was last forgotten, and from nothing else: there is an entry if
there was a result; its settings are those of the last answer, or the fallback
settings while every query has failed; and the view shows the same.

The cache itself keeps no record of results.  It looks at its entry to decide
whether a failure puts anything in place, so that the proof has to follow the entry
from one result to the next.
-/

import SettingsBroker.Broker
import SettingsBroker.Proofs.Cache.Advance
import SettingsBroker.Proofs.Cache.Awaited

namespace SettingsBroker

namespace CacheEvent

/-- The result that an event takes in. -/
def result? : CacheEvent → Option QueryResult
  | .accepted _ result _ => some result
  | _ => none

/-- The results that were taken in since a document was last forgotten, in order. -/
def takenIn (events : List CacheEvent) : List QueryResult :=
  (sinceForgotten events).filterMap result?

@[simp]
theorem takenIn_nil : takenIn [] = [] := rfl

@[simp]
theorem takenIn_evicted (events : List CacheEvent) : takenIn (events ++ [.evicted]) = [] := by
  simp [takenIn]

theorem takenIn_append_of_kept (events : List CacheEvent) {later : List CacheEvent}
    (kept : .evicted ∉ later) :
    takenIn (events ++ later) = takenIn events ++ later.filterMap result? := by
  rw [takenIn, sinceForgotten_append_of_kept events kept, List.filterMap_append, takenIn]

/-- The settings that results leave in place where there were none: the last answer, or
the fallback settings if all of them are failures. -/
def settingsInPlace (fallback : BuildSettings) (results : List QueryResult) :
    Option BuildSettings :=
  if results.isEmpty then none
  else some ((results.filterMap Except.toOption).getLast?.join.getD fallback)

theorem settingsInPlace_concat_ok (fallback : BuildSettings) (results : List QueryResult)
    (answer : Option BuildSettings) :
    settingsInPlace fallback (results ++ [.ok answer]) = some (answer.getD fallback) := by
  simp [settingsInPlace, Except.toOption]

/-- Failures leave what is in place, and put the fallback settings where nothing is. -/
theorem settingsInPlace_append_errors (fallback : BuildSettings) (results : List QueryResult)
    {failures : List QueryResult} (hfailed : failures.filterMap Except.toOption = []) :
    settingsInPlace fallback (results ++ failures) =
      if failures.isEmpty then settingsInPlace fallback results
      else some ((settingsInPlace fallback results).getD fallback) := by
  have hanswers : (results ++ failures).filterMap Except.toOption =
      results.filterMap Except.toOption := by
    rw [List.filterMap_append, hfailed, List.append_nil]
  unfold settingsInPlace
  rw [hanswers]
  cases failures with
  | nil => rw [List.append_nil]; rfl
  | cons failure failures =>
    cases results with
    | nil => rfl
    | cons result results => rfl

end CacheEvent

open CacheEvent

variable {fallback : BuildSettings} {n : Nat} {slot : Slot} {events : List CacheEvent}

/-- When a result is taken in, it is settled against what the earlier ones left in
place. -/
theorem Slot.land_inPlace {results : List QueryResult}
    (h : slot.entry.map (·.settings) = settingsInPlace fallback results) (result : QueryResult) :
    (slot.land fallback result).entry.map (·.settings) =
      settingsInPlace fallback (results ++ [result]) := by
  obtain ⟨entry, hentry, hsettings⟩ := slot.land_entry fallback result
  rw [hentry, Option.map_some, hsettings]
  cases result with
  | ok answer => rw [settingsInPlace_concat_ok]; rfl
  | error failure =>
    have hfailed : [(.error failure : QueryResult)].filterMap Except.toOption = [] := rfl
    rw [settingsInPlace_append_errors _ _ hfailed, ← h]
    rfl

theorem Life.inPlace (life : Life fallback n slot events) :
    slot.entry.map (·.settings) = settingsInPlace fallback (takenIn events) := by
  induction life with
  | start => rfl
  | elsewhere life grown ih => exact ih
  | joined waiter life running ih =>
    rw [takenIn_append_of_kept _ (by simp)]
    simpa [result?, List.filterMap_cons] using ih
  | asked waiter life idle ih =>
    rw [takenIn_append_of_kept _ (by simp)]
    simpa [result?, List.filterMap_cons, Slot.begin] using ih
  | landed result hasGone life running valid ih =>
    rw [takenIn_append_of_kept _ (by simp)]
    simpa [result?, List.filterMap_map, Function.comp_def] using Slot.land_inPlace ih result
  | followed result hasGone life running invalid ih =>
    rw [List.append_assoc, takenIn_append_of_kept _ (by simp)]
    simpa [result?, List.filterMap_cons, List.filterMap_map, Function.comp_def, Slot.begin]
      using Slot.land_inPlace ih result
  | refused generation life other ih =>
    rw [takenIn_append_of_kept _ (by simp)]
    simpa [result?, List.filterMap_cons] using ih
  | outdated life running ih =>
    rw [takenIn_append_of_kept _ (by simp)]
    simpa [result?, List.filterMap_cons, Slot.markStale, Function.comp_def] using ih
  | renewed life idle cached ih =>
    rw [takenIn_append_of_kept _ (by simp)]
    simpa [result?, List.filterMap_cons, Slot.begin, Slot.markStale, Function.comp_def] using ih
  | ignored life idle absent ih =>
    rw [takenIn_append_of_kept _ (by simp)]
    simpa [result?, List.filterMap_cons] using ih
  | noted life ih => exact ih
  | evicted life ih =>
    rw [← List.append_assoc, takenIn_evicted]
    rfl

namespace History

theorem options_perform (h : History) (op : CacheOp) :
    (h.perform op).cache.options = h.cache.options := by
  rw [perform_cache]
  cases op with
  | join document waiter => exact h.cache.options_join document waiter
  | complete document generation result =>
    rcases h.cache.current_or_other document generation with ⟨flight, hflight, rfl⟩ | hother
    · rw [outcome_complete_of_current result hflight]
      exact (Cache.complete_of_current h.hasGone result hflight).2.2.2
    · rw [outcome_complete_of_not_current result hother]
  | invalidate documents => exact (Cache.Advance.invalidate h.cache documents).options
  | invalidateAll => exact (Cache.Advance.invalidateAll h.cache).options
  | noteFallbackServed document => rfl
  | evict document => rfl
  | hangUp waiter => rfl

/-- Fallback settings are made from the options that the cache was started with. -/
theorem fallback_after (options : FallbackOptions) (ops : List CacheOp) (document : Document) :
    (after options ops).cache.fallback document = options.compute document := by
  have hfold : ∀ h : History, (ops.foldl perform h).cache.options = h.cache.options := by
    induction ops with
    | nil => exact fun h => rfl
    | cons op ops ih => exact fun h => (ih (h.perform op)).trans (h.options_perform op)
  unfold Cache.fallback
  rw [after, hfold]
  rfl

end History

/-- The broker answers a caller at once if and only if there is an entry, and then with
its settings. -/
theorem Broker.answer_mem_resolve_iff (broker : Broker) (document : Document) (waiter : Waiter)
    (settings : BuildSettings) :
    .answer waiter settings ∈ (broker.resolve document waiter).2 ↔
      broker.cache.entries[document]?.map (·.settings) = some settings := by
  unfold resolve
  cases hentry : broker.cache.entries[document]? with
  | some entry => simp [wants, eq_comm]
  | none => simp [startQueries]

namespace History

variable (options : FallbackOptions) (ops : List CacheOp) (document : Document)

theorem entry_after :
    (after options ops).cache.entries[document]?.map (·.settings) =
      settingsInPlace (options.compute document)
        (takenIn ((after options ops).about document)) := by
  have hlife := (lives_after options ops document).inPlace
  rwa [fallback_after] at hlife

theorem view_after :
    (after options ops).cache.view[document]? =
      (after options ops).cache.entries[document]?.map (·.settings) :=
  (lives_after options ops document).shown_eq

/-- Settings that are in place stay there while no answer is taken in and the document is
not forgotten. -/
theorem entry_kept {more : List CacheOp} {later : List CacheEvent} {settings : BuildSettings}
    (hlater : (after options (ops ++ more)).about document =
      (after options ops).about document ++ later)
    (hkept : .evicted ∉ later)
    (hunanswered : ∀ generation answer followUp,
      .accepted generation (.ok answer) followUp ∉ later)
    (hstored : (after options ops).cache.entries[document]?.map (·.settings) = some settings) :
    (after options (ops ++ more)).cache.entries[document]?.map (·.settings) = some settings := by
  have hfailed : (later.filterMap result?).filterMap Except.toOption = [] := by
    refine List.filterMap_eq_nil_iff.mpr fun result hresult => ?_
    obtain ⟨event, hevent, htaken⟩ := List.mem_filterMap.mp hresult
    cases event with
    | accepted generation found followUp =>
      obtain rfl := Option.some.inj htaken
      cases found with
      | ok answer => exact absurd hevent (hunanswered generation answer followUp)
      | error failure => rfl
    | _ => cases htaken
  rw [entry_after] at hstored
  rw [entry_after, hlater, takenIn_append_of_kept _ hkept,
    settingsInPlace_append_errors _ _ hfailed, hstored]
  split <;> rfl

/-- What the cache holds, exactly.  In every history, and for every document, there is an
entry if and only if a result was taken in since the document was last forgotten.  Its
settings are those of the last answer among these results, or the fallback settings where
the answer was no opinion or all of them are failures; and the view shows the same, so
that a caller that looks at the view gets what the broker would answer.  Where a document
has settings, nothing but another answer replaces them, and nothing but forgetting the
document drops them. -/
theorem contents_determined_by_results (options : FallbackOptions) (ops : List CacheOp)
    (document : Document) :
    let h := after options ops
    let results := takenIn (h.about document)
    let settings? := settingsInPlace (options.compute document) results
    (h.cache.entries[document]?.isSome ↔ results ≠ []) ∧
    h.cache.entries[document]?.map (·.settings) = settings? ∧
    h.cache.view[document]? = settings? ∧
    (∀ broker : Broker, broker.cache = h.cache → ∀ waiter settings,
      .answer waiter settings ∈ (broker.resolve document waiter).2 ↔
        h.cache.view[document]? = some settings) ∧
    ∀ more later settings,
      (after options (ops ++ more)).about document = h.about document ++ later →
      .evicted ∉ later →
      (∀ generation answer followUp, .accepted generation (.ok answer) followUp ∉ later) →
      h.cache.view[document]? = some settings →
      (after options (ops ++ more)).cache.view[document]? = some settings ∧
        (after options (ops ++ more)).cache.entries[document]?.map (·.settings) =
          some settings := by
  intro h results settings?
  have hentry : h.cache.entries[document]?.map (·.settings) = settings? :=
    entry_after options ops document
  have hview := view_after options ops document
  refine ⟨?_, hentry, hview.trans hentry, ?_, ?_⟩
  · have hsome : h.cache.entries[document]?.isSome = settings?.isSome := by
      rw [← hentry, Option.isSome_map]
    rw [hsome]
    simp [settings?, settingsInPlace]
  · intro broker hcache waiter settings
    rw [broker.answer_mem_resolve_iff, hcache, hview]
  · intro more later settings hlater hkept hunanswered hstored
    rw [hview] at hstored
    have hstill := entry_kept options ops document hlater hkept hunanswered hstored
    exact ⟨(view_after options (ops ++ more) document).trans hstill, hstill⟩

/-- A document is asked for and answered. -/
def answeredOnce (document : Document) (settings : BuildSettings) : List CacheOp :=
  [.join document 1, .complete document 1 (.ok (some settings))]

/-- A document is invalidated, and the query that is to renew its settings fails. -/
def failingRefresh (document : Document) : List CacheOp :=
  [.invalidate [document], .complete document 2 (.error (.backend "no answer"))]

/-- What then happens to the document. -/
def failedRefresh : List CacheEvent :=
  [.invalidated, .began 2, .accepted 2 (.error (.backend "no answer")) none]

theorem contents_determined_by_results_failing_refresh :
    (after .empty (answeredOnce ⟨"file:///a.c"⟩ default ++
        failingRefresh ⟨"file:///a.c"⟩)).about ⟨"file:///a.c"⟩ =
      (after .empty (answeredOnce ⟨"file:///a.c"⟩ default)).about ⟨"file:///a.c"⟩ ++
        failedRefresh ∧
      .evicted ∉ failedRefresh ∧
      (∀ generation answer followUp,
        .accepted generation (.ok answer) followUp ∉ failedRefresh) ∧
      (after .empty (answeredOnce ⟨"file:///a.c"⟩ default)).cache.view[
        (⟨"file:///a.c"⟩ : Document)]? = some default ∧
      (after .empty (answeredOnce ⟨"file:///a.c"⟩ default ++
        failingRefresh ⟨"file:///a.c"⟩)).cache.view[(⟨"file:///a.c"⟩ : Document)]? =
          some default := by
  have hkept : .evicted ∉ failedRefresh := by simp [failedRefresh]
  have hunanswered : ∀ generation answer followUp,
      .accepted generation (.ok answer) followUp ∉ failedRefresh := by simp [failedRefresh]
  obtain ⟨-, -, -, -, hstays⟩ :=
    contents_determined_by_results .empty (answeredOnce ⟨"file:///a.c"⟩ default) ⟨"file:///a.c"⟩
  have hstored := hstays (failingRefresh ⟨"file:///a.c"⟩) failedRefresh default rfl hkept
    hunanswered rfl
  exact ⟨rfl, hkept, hunanswered, rfl, hstored.1⟩

end History

end SettingsBroker
