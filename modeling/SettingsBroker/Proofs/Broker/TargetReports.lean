/-
# What is reported about targets

Two things are reported about targets: the events that a fetch has brought back, with the
documents that they affect, and that everything may have changed.  Which of them a step pushes
follows from what its message says about targets.  `pushed_handle` says so for every message
that says something, and `listed_handle` that no other message reports target events.

A turn of the broker settles what becomes of events: some are reported in it, some discarded.
-/

import SettingsBroker.Proofs.Broker.Fetches
import SettingsBroker.Proofs.Broker.Reports

namespace SettingsBroker

open BrokerEffect

namespace BrokerEffect

theorem pushed_append (effects later : List BrokerEffect) :
    pushed (effects ++ later) = pushed effects ++ pushed later :=
  List.filterMap_append

/-- Reports that say nothing are not pushed. -/
theorem pushed_map_report (reports : List ChangeReport) :
    pushed (reports.map report) = reports.filter (!·.isEmpty) := by
  rw [pushed, List.filterMap_map, ← List.filterMap_eq_filter]
  apply List.filterMap_congr
  intro news _
  cases hempty : news.isEmpty <;> simp [pushed?, hempty, Option.guard]

end BrokerEffect

/-- The target events in a report that lists some. -/
def ChangeReport.listed? : ChangeReport → Option (List TargetEvent)
  | .targets (.listed events) => some events
  | _ => none

/-- That everything may have changed, as it is reported. -/
def everythingReports : List ChangeReport :=
  [.dependencies .all, .targets .unknown]

/-- The reports of target events and of the documents that they affect, as far as they say
something. -/
def eventReports (affected : Affected) (events : List TargetEvent) : List ChangeReport :=
  [.dependencies affected, .targets (.listed events)].filter (!·.isEmpty)

namespace TargetNews

/-- The events that arrive with news. -/
def arriving : TargetNews → List TargetEvent
  | .named events => events
  | .nothing | .everything | .fetched .. => []

/-- The events that are reported on news. -/
def reported : TargetNews → List TargetEvent
  | .fetched fetch (.ok _) => fetch.events
  | .fetched _ (.error _) | .nothing | .named _ | .everything => []

/-- The events that are discarded on news when some are pending. -/
def discarded (pending : List TargetEvent) : TargetNews → List TargetEvent
  | .fetched fetch (.error _) => fetch.events
  | .everything => pending
  | .fetched _ (.ok _) | .nothing | .named _ => []

/-- What is reported on news. -/
def reports (graph : TargetGraph) : TargetNews → List ChangeReport
  | .nothing | .named _ => []
  | .everything => everythingReports
  | .fetched fetch (.ok snapshot) =>
    eventReports (graph.applySnapshot fetch.events snapshot fetch.rebuild).2 fetch.events
  | .fetched fetch (.error _) => if fetch.events.isEmpty then [] else everythingReports

end TargetNews

namespace Broker

theorem pushed_andThen (step : Step) (next : Broker → Step) :
    pushed (step.andThen next).2 = pushed step.2 ++ pushed (next step.1).2 :=
  pushed_append _ _

theorem pushed_startQueries (broker : Broker) (queries : List (Document × Nat)) :
    pushed (broker.startQueries queries).2 = [] := by
  simp [startQueries, pushed, pushed?]

theorem pushed_fetchTargets (broker : Broker) : pushed broker.fetchTargets.2 = [] := by
  unfold fetchTargets
  split <;> rfl

theorem pushed_notifyEverything (broker : Broker) :
    pushed broker.notifyEverything.2 = everythingReports := by
  rw [notifyEverything, pushed_andThen, invalidateAll, pushed_startQueries]
  rfl

theorem pushed_everythingChanged (broker : Broker) :
    pushed broker.everythingChanged.2 = everythingReports := by
  rw [everythingChanged, pushed_andThen, pushed_notifyEverything, pushed_fetchTargets,
    List.append_nil]

theorem pushed_applyTargets (broker : Broker) (fetch : TargetFetch)
    (result : Except Failure (List BuildTarget)) :
    pushed (broker.applyTargets fetch.events fetch.rebuild result).2 =
      (TargetNews.fetched fetch result).reports broker.graph := by
  obtain ⟨events, rebuild⟩ := fetch
  cases result with
  | error failure =>
    cases events with
    | nil => rfl
    | cons event events => exact pushed_notifyEverything broker
  | ok snapshot =>
    cases events with
    | nil => rfl
    | cons event events =>
      simp only [applyTargets]
      rw [pushed_andThen]
      split
      · next hall =>
        rw [invalidateAll, pushed_startQueries, TargetNews.reports, hall]
        exact pushed_map_report [.dependencies .all, .targets (.listed (event :: events))]
      · next documents honly =>
        rw [invalidate, pushed_startQueries, TargetNews.reports, honly]
        exact pushed_map_report
          [.dependencies (.only documents), .targets (.listed (event :: events))]

/-- What is pushed on news about targets. -/
theorem pushed_handle (broker : Broker) {message : BrokerMessage}
    (told : message.news ≠ .nothing) :
    pushed (broker.handle message).2 = message.news.reports broker.graph := by
  cases message with
  | command command => exact absurd rfl told
  | notice notice gone =>
    cases notice with
    | queryFinished document generation result => exact absurd rfl told
    | event event =>
      cases event with
      | targetsChanged events =>
        simp only [handle, handleNotice, handleEvent, BrokerMessage.news, BrokerNotice.news,
          BuildEvent.news, TargetNews.ofEvents]
        split
        · exact pushed_everythingChanged broker
        · exact pushed_fetchTargets _
      | _ => exact absurd rfl told
    | lagged missed => exact pushed_everythingChanged broker
    | streamClosed => exact pushed_everythingChanged broker
    | targetsFetched events rebuild result =>
      simp only [handle, handleNotice]
      rw [pushed_andThen, pushed_fetchTargets, List.append_nil]
      exact pushed_applyTargets { broker with fetching := false } ⟨events, rebuild⟩ result

/-- A step whose effects report no target events. -/
theorem listed_eq_nil {effects : List BrokerEffect}
    (h : ∀ changes, .report (.targets changes) ∉ effects) :
    (pushed effects).filterMap ChangeReport.listed? = [] := by
  rw [List.filterMap_eq_nil_iff]
  intro report hreport
  obtain ⟨effect, heffect, hpushed⟩ := List.mem_filterMap.mp hreport
  cases effect with
  | report news =>
    obtain ⟨-, rfl⟩ : _ ∧ news = report := by simpa [pushed?] using hpushed
    cases news with
    | targets changes => exact absurd heffect (h changes)
    | _ => rfl
  | _ => cases hpushed

theorem targets_not_mem_finishQuery (broker : Broker) (gone : Waiter → Bool)
    (document : Document) (generation : Nat) (result : QueryResult) (changes : TargetChanges) :
    .report (.targets changes) ∉ (broker.finishQuery gone document generation result).2 := by
  unfold finishQuery
  split
  · exact List.not_mem_nil
  · next cache completion _ =>
    simp only [Step.andThen, wants, startQueries, List.mem_append, List.mem_map, not_or]
    refine ⟨⟨?_, ?_⟩, ?_⟩
    · rintro ⟨answer, -, hanswer⟩
      cases hanswer
    · rintro ⟨query, -, hquery⟩
      cases hquery
    · split <;> simp

theorem targets_not_mem_handleCommand (broker : Broker) (command : BrokerCommand)
    (changes : TargetChanges) :
    .report (.targets changes) ∉ (broker.handleCommand command).2 := by
  cases command with
  | resolve document waiter =>
    simp only [handleCommand, resolve]
    split <;> simp [wants, startQueries]
  | _ => simp [handleCommand, invalidate, wants, startQueries, Step.andThen]

/-- Where nothing is said about targets, no target events are reported. -/
theorem listed_handle (broker : Broker) {message : BrokerMessage}
    (quiet : message.news = .nothing) :
    (pushed (broker.handle message).2).filterMap ChangeReport.listed? = [] := by
  apply listed_eq_nil
  intro changes
  cases message with
  | command command => exact targets_not_mem_handleCommand broker command changes
  | notice notice gone =>
    cases notice with
    | queryFinished document generation result =>
      exact targets_not_mem_finishQuery broker gone document generation result changes
    | event event =>
      cases event with
      | settingsChanged documents =>
        simp [handle, handleNotice, handleEvent, invalidate, startQueries]
      | dependenciesUpdated affected => simp [handle, handleNotice, handleEvent, wants]
      | targetsChanged events =>
        simp only [BrokerMessage.news, BrokerNotice.news, BuildEvent.news, TargetNews.ofEvents]
          at quiet
        split at quiet <;> cases quiet
      | log task message => simp [handle, handleNotice, handleEvent, wants]
    | _ => cases quiet

end Broker

/-! ## Turns -/

/-- A turn of the broker: the broker before, and the message that it handles. -/
structure BrokerTurn where
  before : Broker
  message : BrokerMessage

namespace BrokerTurn

/-- What is pushed in a turn. -/
def pushes (turn : BrokerTurn) : List ChangeReport :=
  pushed (turn.before.handle turn.message).2

/-- The lists of target events that are pushed in a turn. -/
def listed (turn : BrokerTurn) : List (List TargetEvent) :=
  turn.pushes.filterMap ChangeReport.listed?

/-- In a turn these events are reported, and those are discarded. -/
structure Settles (turn : BrokerTurn) (reported discarded : List TargetEvent) : Prop where
  /-- What is reported is pushed as one list, and no other list is pushed. -/
  together : turn.listed = if reported.isEmpty then [] else [reported]
  /-- It was brought back by a fetch, and the documents that it affects are pushed with it. -/
  affected : reported ≠ [] → ∃ rebuild snapshot gone,
    turn.message = .notice (.targetsFetched reported rebuild (.ok snapshot)) gone ∧
      turn.pushes =
        eventReports (turn.before.graph.applySnapshot reported snapshot rebuild).2 reported
  /-- Where something is discarded, everything may have changed. -/
  everything : discarded ≠ [] → turn.pushes = everythingReports

end BrokerTurn

theorem listed_eventReports (affected : Affected) (events : List TargetEvent) :
    (eventReports affected events).filterMap ChangeReport.listed? =
      if events.isEmpty then [] else [events] := by
  rw [eventReports, List.filterMap_filter]
  cases events <;> simp [ChangeReport.isEmpty, ChangeReport.listed?, TargetChanges.isEmpty]

/-- Only a fetch that has ended says so. -/
theorem BrokerMessage.eq_of_news_fetched {message : BrokerMessage} {fetch : TargetFetch}
    {result : Except Failure (List BuildTarget)} (h : message.news = .fetched fetch result) :
    ∃ gone, message = .notice (.targetsFetched fetch.events fetch.rebuild result) gone := by
  cases message with
  | command command => cases h
  | notice notice gone =>
    cases notice with
    | event event => exact absurd h (event.news_ne_fetched fetch result)
    | targetsFetched events rebuild brought =>
      obtain ⟨rfl, rfl⟩ := TargetNews.fetched.inj h
      exact ⟨gone, rfl⟩
    | _ => cases h

/-- What a turn reports and discards follows from the news. -/
theorem BrokerTurn.settles (broker : Broker) (message : BrokerMessage) :
    (⟨broker, message⟩ : BrokerTurn).Settles message.news.reported
      (message.news.discarded broker.pendingEvents) := by
  by_cases hquiet : message.news = .nothing
  · refine ⟨?_, ?_, ?_⟩
    · rw [hquiet]
      exact broker.listed_handle hquiet
    · exact fun hreported => absurd (by rw [hquiet]; rfl) hreported
    · exact fun hdiscarded => absurd (by rw [hquiet]; rfl) hdiscarded
  · have hpushed := broker.pushed_handle hquiet
    generalize hnews : message.news = news at *
    cases news with
    | nothing => exact absurd rfl hquiet
    | named events =>
      exact ⟨congrArg (List.filterMap ChangeReport.listed?) hpushed, absurd rfl, absurd rfl⟩
    | everything =>
      exact ⟨congrArg (List.filterMap ChangeReport.listed?) hpushed, absurd rfl, fun _ => hpushed⟩
    | fetched fetch result =>
      obtain ⟨gone, hmessage⟩ := BrokerMessage.eq_of_news_fetched hnews
      cases result with
      | ok snapshot =>
        refine ⟨?_, fun _ => ⟨_, snapshot, gone, hmessage, hpushed⟩, absurd rfl⟩
        exact (congrArg (List.filterMap ChangeReport.listed?) hpushed).trans
          (listed_eventReports _ _)
      | error failure =>
        refine ⟨?_, absurd rfl, fun hdiscarded => hpushed.trans (if_neg ?_)⟩
        · refine (congrArg (List.filterMap ChangeReport.listed?) hpushed).trans ?_
          rw [TargetNews.reports]
          split <;> rfl
        · rwa [List.isEmpty_iff]

end SettingsBroker
