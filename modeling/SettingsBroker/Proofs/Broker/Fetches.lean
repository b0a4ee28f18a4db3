/-
# Fetches of targets

Of all that the broker keeps, only four things have to do with targets: the graph, whether a
fetch is on its way, and the events and the rebuild that wait for the next one.  They make up
a desk of their own.  What arrives at the broker matters to the desk in one of four ways: not
at all, as events on named targets, as word that everything may have changed, or as the end of
a fetch.

`handle_desk` says so for every message, with the fetch that begins.  What is proved about
targets starts from it and never goes through the messages again.
-/

import SettingsBroker.Proofs.Broker.Ledger
import SettingsBroker.Proofs.Graph.Wiring

namespace SettingsBroker

/-- What a fetch of targets takes along. -/
structure TargetFetch where
  events : List TargetEvent
  rebuild : Bool
  deriving DecidableEq

namespace TargetFetch

/-- A fetch without anything to take along. -/
def empty : TargetFetch := ⟨[], false⟩

/-- Whether there is nothing to take along. -/
def isEmpty (fetch : TargetFetch) : Bool :=
  fetch.events.isEmpty && !fetch.rebuild

theorem isEmpty_iff {fetch : TargetFetch} : fetch.isEmpty = true ↔ fetch = empty := by
  obtain ⟨events, rebuild⟩ := fetch
  simp [isEmpty, empty]

end TargetFetch

namespace BrokerEffect

/-- The fetch that an effect begins, if it begins one. -/
def fetch? : BrokerEffect → Option TargetFetch
  | .fetchTargets events rebuild => some ⟨events, rebuild⟩
  | _ => none

/-- The fetches that effects begin, in order. -/
def fetches (effects : List BrokerEffect) : List TargetFetch :=
  effects.filterMap fetch?

@[simp]
theorem fetches_nil : fetches [] = [] := rfl

@[simp]
theorem fetches_append (effects later : List BrokerEffect) :
    fetches (effects ++ later) = fetches effects ++ fetches later :=
  List.filterMap_append

theorem fetches_eq_nil {effects : List BrokerEffect}
    (h : ∀ effect ∈ effects, effect.fetch? = none) : fetches effects = [] :=
  List.filterMap_eq_nil_iff.mpr h

end BrokerEffect

open BrokerEffect

/-- What a message says about targets. -/
inductive TargetNews where
  | nothing
  /-- These events happened, each on a target with a name. -/
  | named (events : List TargetEvent)
  /-- Everything may have changed. -/
  | everything
  | fetched (fetch : TargetFetch) (result : Except Failure (List BuildTarget))

/-- What a report of target events says. -/
def TargetNews.ofEvents (events : List TargetEvent) : TargetNews :=
  if events.any (·.target.isNone) then .everything else .named events

/-- What an event of the build system says about targets. -/
def BuildEvent.news : BuildEvent → TargetNews
  | .targetsChanged events => .ofEvents events
  | _ => .nothing

/-- No event ends a fetch. -/
theorem BuildEvent.news_ne_fetched (event : BuildEvent) (fetch : TargetFetch)
    (result : Except Failure (List BuildTarget)) : event.news ≠ .fetched fetch result := by
  cases event with
  | targetsChanged events =>
    rw [news, TargetNews.ofEvents]
    split <;> exact nofun
  | _ => exact nofun

/-- What a notice says about targets. -/
def BrokerNotice.news : BrokerNotice → TargetNews
  | .queryFinished .. => .nothing
  | .event reported => reported.news
  | .lagged _ | .streamClosed => .everything
  | .targetsFetched events rebuild result => .fetched ⟨events, rebuild⟩ result

/-- What a message says about targets.  Commands say nothing. -/
def BrokerMessage.news : BrokerMessage → TargetNews
  | .command _ => .nothing
  | .notice arrived _ => arrived.news

/-- The part of the broker that has to do with targets. -/
structure TargetDesk where
  graph : TargetGraph
  fetching : Bool
  /-- What the next fetch takes along. -/
  pending : TargetFetch

namespace TargetDesk

variable {desk : TargetDesk}

/-- Begins a fetch, unless one is on its way or there is no reason to. -/
def dispatch (desk : TargetDesk) : TargetDesk × List TargetFetch :=
  if desk.fetching || desk.pending.isEmpty then (desk, [])
  else ({ desk with fetching := true, pending := .empty }, [desk.pending])

/-- The graph after a fetch has ended.  A fetch that failed tells nothing about targets. -/
def graphAfter (desk : TargetDesk) (fetch : TargetFetch) :
    Except Failure (List BuildTarget) → TargetGraph
  | .ok snapshot => (desk.graph.applySnapshot fetch.events snapshot fetch.rebuild).1
  | .error _ => desk.graph

/-- The desk after news, and the fetches that begin. -/
def handle (desk : TargetDesk) : TargetNews → TargetDesk × List TargetFetch
  | .nothing => (desk, [])
  | .named events =>
    { desk with pending := ⟨desk.pending.events ++ events, desk.pending.rebuild⟩ }.dispatch
  | .everything => { desk with pending := ⟨[], true⟩ }.dispatch
  | .fetched fetch result =>
    { desk with graph := desk.graphAfter fetch result, fetching := false }.dispatch

/-- A desk stays as it is, or it has been idle with something to take along and all of it goes
with a fetch. -/
theorem dispatch_cases (desk : TargetDesk) :
    ((desk.fetching = true ∨ desk.pending = .empty) ∧ desk.dispatch = (desk, [])) ∨
      desk.fetching = false ∧
        desk.dispatch = ({ desk with fetching := true, pending := .empty }, [desk.pending]) := by
  unfold dispatch
  split
  · next hstay =>
    left
    rw [Bool.or_eq_true, TargetFetch.isEmpty_iff] at hstay
    exact ⟨hstay, rfl⟩
  · next hgo =>
    right
    rw [Bool.or_eq_true, not_or, Bool.not_eq_true] at hgo
    exact ⟨hgo.1, rfl⟩

theorem graph_dispatch (desk : TargetDesk) : desk.dispatch.1.graph = desk.graph := by
  obtain ⟨-, hstay⟩ | ⟨-, hgo⟩ := desk.dispatch_cases
  · rw [hstay]
  · rw [hgo]

/-- Only the end of a fetch changes the graph. -/
theorem graph_handle {news : TargetNews} (other : ∀ fetch result, news ≠ .fetched fetch result) :
    (desk.handle news).1.graph = desk.graph := by
  cases news with
  | nothing => rfl
  | named events => exact graph_dispatch _
  | everything => exact graph_dispatch _
  | fetched fetch result => exact absurd rfl (other fetch result)

/-- The desk knows of the fetches that are on their way: there is one while it says so and
none otherwise, and nothing waits for the next one while none is. -/
structure Booked {α : Type} (desk : TargetDesk) (running : List α) : Prop where
  counted : running.length = desk.fetching.toNat
  idle : desk.fetching = false → desk.pending = .empty

section Booked

variable {α : Type} {running : List α}

theorem Booked.dispatch (counted : running.length = desk.fetching.toNat)
    (launch : TargetFetch → α) :
    desk.dispatch.1.Booked (running ++ desk.dispatch.2.map launch) := by
  obtain ⟨hstay, hdispatch⟩ | ⟨hidle, hdispatch⟩ := desk.dispatch_cases
  · rw [hdispatch, List.map_nil, List.append_nil]
    refine ⟨counted, fun hidle => hstay.resolve_left ?_⟩
    rw [hidle]
    exact Bool.false_ne_true
  · rw [hidle] at counted
    rw [hdispatch]
    exact ⟨by simp [counted], by simp⟩

/-- News other than the end of a fetch. -/
theorem Booked.handle (h : desk.Booked running) (news : TargetNews) (launch : TargetFetch → α)
    (other : ∀ fetch result, news ≠ .fetched fetch result) :
    (desk.handle news).1.Booked (running ++ (desk.handle news).2.map launch) := by
  cases news with
  | nothing =>
    rw [TargetDesk.handle, List.map_nil, List.append_nil]
    exact h
  | named events =>
    apply dispatch
    exact h.counted
  | everything =>
    apply dispatch
    exact h.counted
  | fetched fetch result => exact absurd rfl (other fetch result)

/-- The fetch that ends is the only one. -/
theorem Booked.alone {before after : List α} {ended : α}
    (h : desk.Booked (before ++ ended :: after)) :
    before = [] ∧ after = [] ∧ desk.fetching = true := by
  have hcounted := h.counted
  rw [List.length_append, List.length_cons] at hcounted
  cases hfetching : desk.fetching with
  | false =>
    rw [hfetching, Bool.toNat_false] at hcounted
    omega
  | true =>
    rw [hfetching, Bool.toNat_true] at hcounted
    exact ⟨List.eq_nil_of_length_eq_zero (by omega), List.eq_nil_of_length_eq_zero (by omega), rfl⟩

/-- Nothing waits while no fetch is on its way. -/
theorem Booked.pending_of_nil (h : desk.Booked ([] : List α)) : desk.pending = .empty := by
  apply h.idle
  cases hfetching : desk.fetching with
  | false => rfl
  | true =>
    have hcounted := h.counted
    rw [hfetching] at hcounted
    cases hcounted

theorem Booked.fetched {before after : List α} {ended : α}
    (h : desk.Booked (before ++ ended :: after)) (fetch : TargetFetch)
    (result : Except Failure (List BuildTarget)) (launch : TargetFetch → α) :
    (desk.handle (.fetched fetch result)).1.Booked
      (before ++ after ++ (desk.handle (.fetched fetch result)).2.map launch) := by
  obtain ⟨rfl, rfl, -⟩ := h.alone
  exact .dispatch rfl launch

end Booked

end TargetDesk

namespace Broker

/-- What of a broker has to do with targets. -/
def desk (broker : Broker) : TargetDesk :=
  ⟨broker.graph, broker.fetching, ⟨broker.pendingEvents, broker.pendingRebuild⟩⟩

/-- The desk after a step, and the fetches that the step begins. -/
def Step.desk (step : Step) : TargetDesk × List TargetFetch :=
  (step.1.desk, fetches step.2)

@[simp]
theorem desk_fetchTargets (broker : Broker) : broker.fetchTargets.desk = broker.desk.dispatch := by
  have hcondition : (broker.fetching || (broker.pendingEvents.isEmpty && !broker.pendingRebuild)) =
      (broker.desk.fetching || broker.desk.pending.isEmpty) := rfl
  unfold fetchTargets TargetDesk.dispatch
  rw [hcondition]
  split <;> rfl

/-- Where a step leaves the desk alone and begins no fetch, only what follows counts. -/
theorem desk_andThen {step : Step} {desk : TargetDesk} (next : Broker → Step)
    (h : step.desk = (desk, [])) : (step.andThen next).desk = (next step.1).desk := by
  have hfetches : fetches step.2 = [] := congrArg Prod.snd h
  simp [Step.desk, Step.andThen, hfetches]

theorem desk_wants (broker : Broker) {effects : List BrokerEffect}
    (heffects : ∀ effect ∈ effects, effect.fetch? = none) :
    (broker.wants effects).desk = (broker.desk, []) :=
  Prod.ext rfl (fetches_eq_nil heffects)

theorem desk_startQueries (broker : Broker) (queries : List (Document × Nat)) :
    (broker.startQueries queries).desk = (broker.desk, []) := by
  apply Prod.ext
  · rfl
  · apply fetches_eq_nil
    intro effect heffect
    obtain ⟨query, -, rfl⟩ := List.mem_map.mp heffect
    rfl

theorem desk_notifyEverything (broker : Broker) :
    broker.notifyEverything.desk = (broker.desk, []) := by
  have hqueries : broker.invalidateAll.desk = (broker.desk, []) := desk_startQueries _ _
  rw [notifyEverything, desk_andThen _ hqueries, desk_wants _ (by simp [fetch?])]
  exact congrArg (·, []) (congrArg Prod.fst hqueries)

theorem desk_everythingChanged (broker : Broker) :
    broker.everythingChanged.desk = { broker.desk with pending := ⟨[], true⟩ }.dispatch := by
  have hnotified := desk_notifyEverything broker
  rw [everythingChanged, desk_andThen _ hnotified, desk_fetchTargets]
  have hdesk : broker.notifyEverything.1.desk = broker.desk := congrArg Prod.fst hnotified
  rw [← hdesk]
  rfl

theorem desk_applyTargets (broker : Broker) (events : List TargetEvent) (rebuild : Bool)
    (result : Except Failure (List BuildTarget)) :
    (broker.applyTargets events rebuild result).desk =
      ({ broker.desk with graph := broker.desk.graphAfter ⟨events, rebuild⟩ result }, []) := by
  cases result with
  | error failure =>
    cases events with
    | nil => rfl
    | cons event events => exact desk_notifyEverything broker
  | ok snapshot =>
    cases events with
    | nil => cases rebuild <;> rfl
    | cons event events =>
      simp only [applyTargets]
      split
      · rw [invalidateAll, desk_andThen _ (desk_startQueries _ _), desk_wants _ (by simp [fetch?])]
        rfl
      · rw [invalidate, desk_andThen _ (desk_startQueries _ _), desk_wants _ (by simp [fetch?])]
        rfl

theorem desk_finishQuery (broker : Broker) (gone : Waiter → Bool) (document : Document)
    (generation : Nat) (result : QueryResult) :
    (broker.finishQuery gone document generation result).desk = (broker.desk, []) := by
  unfold finishQuery
  split
  · rfl
  · next cache completion _ =>
    have hanswers : (({ broker with cache } : Broker).wants (completion.sent.map
        fun answer => BrokerEffect.answer answer.1 answer.2)).desk = (broker.desk, []) := by
      apply desk_wants
      intro effect heffect
      obtain ⟨answer, -, rfl⟩ := List.mem_map.mp heffect
      rfl
    have hfollow := (desk_andThen (·.startQueries (completion.requery.map
      fun generation => (document, generation)).toList) hanswers).trans (desk_startQueries _ _)
    exact (desk_andThen _ hfollow).trans (desk_wants _ (by split <;> simp [fetch?]))

theorem desk_handleCommand (broker : Broker) (command : BrokerCommand) :
    (broker.handleCommand command).desk = (broker.desk, []) := by
  cases command with
  | resolve document waiter =>
    simp only [handleCommand, resolve]
    split
    · exact desk_wants broker (by simp [fetch?])
    · exact desk_startQueries _ _
  | invalidate documents receipt =>
    rw [handleCommand, invalidate, desk_andThen _ (desk_startQueries _ _)]
    exact desk_wants _ (by simp [fetch?])
  | evict document receipt =>
    apply desk_wants
    intro effect heffect
    simp only [List.mem_append, List.mem_map, List.mem_singleton] at heffect
    obtain ⟨waiter, -, rfl⟩ | rfl := heffect
    · rfl
    · rfl
  | _ => rfl

/-- What arrives at the broker arrives at its desk as news, and nothing else does. -/
theorem handle_desk (broker : Broker) (message : BrokerMessage) :
    (broker.handle message).desk = broker.desk.handle message.news := by
  cases message with
  | command command => exact desk_handleCommand broker command
  | notice notice gone =>
    cases notice with
    | queryFinished document generation result =>
      exact desk_finishQuery broker gone document generation result
    | event event =>
      cases event with
      | settingsChanged documents => exact desk_startQueries _ _
      | dependenciesUpdated affected => rfl
      | targetsChanged events =>
        simp only [handle, handleNotice, handleEvent, BrokerMessage.news, BrokerNotice.news,
          BuildEvent.news, TargetNews.ofEvents]
        split
        · exact desk_everythingChanged broker
        · exact desk_fetchTargets _
      | log task message => rfl
    | lagged missed => exact desk_everythingChanged broker
    | streamClosed => exact desk_everythingChanged broker
    | targetsFetched events rebuild result =>
      have happlied :=
        desk_applyTargets { broker with fetching := false } events rebuild result
      simp only [handle, handleNotice]
      rw [desk_andThen _ happlied, desk_fetchTargets]
      exact congrArg TargetDesk.dispatch (congrArg Prod.fst happlied)

theorem desk_handle (broker : Broker) (message : BrokerMessage) :
    (broker.handle message).1.desk = (broker.desk.handle message.news).1 :=
  congrArg Prod.fst (broker.handle_desk message)

theorem fetches_handle (broker : Broker) (message : BrokerMessage) :
    fetches (broker.handle message).2 = (broker.desk.handle message.news).2 :=
  congrArg Prod.snd (broker.handle_desk message)

end Broker

end SettingsBroker
