/-
# What a step of the broker does to the cache

Whatever arrives, unless it is the result of a query or a request to forget a
document, the broker's cache only moves on, and the queries that the cache has
begun are exactly those that the step wants started.  This module proves it for
every command and every notice, and adds what a result that is taken in leads
to.  Nothing here looks into the operations of the cache; they are known by how
they advance it.
-/

import SettingsBroker.Broker
import SettingsBroker.Proofs.Cache.Advance

namespace SettingsBroker

namespace BrokerEffect

/-- The query that an effect starts, if it starts one. -/
def startedQuery? : BrokerEffect → Option (Document × Nat)
  | .startQuery document generation => some (document, generation)
  | _ => none

/-- The queries that effects start, in order. -/
def started (effects : List BrokerEffect) : List (Document × Nat) :=
  effects.filterMap startedQuery?

@[simp]
theorem started_nil : started [] = [] := rfl

@[simp]
theorem started_append (effects later : List BrokerEffect) :
    started (effects ++ later) = started effects ++ started later :=
  List.filterMap_append

/-- Effects that start no query. -/
theorem started_eq_nil {effects : List BrokerEffect}
    (h : ∀ effect ∈ effects, effect.startedQuery? = none) : started effects = [] :=
  List.filterMap_eq_nil_iff.mpr h

theorem started_map_eq_nil {α : Type} (items : List α) {effect : α → BrokerEffect}
    (h : ∀ item, (effect item).startedQuery? = none) : started (items.map effect) = [] := by
  refine started_eq_nil fun found hfound => ?_
  obtain ⟨item, -, rfl⟩ := List.mem_map.mp hfound
  exact h item

end BrokerEffect

open BrokerEffect

/-- A notice announces a document when it says, or must be taken to say, that the
document's settings may have changed. -/
def BrokerNotice.Announces (document : Document) : BrokerNotice → Prop
  | .event (.settingsChanged documents) => document ∈ documents
  | .lagged _ => True
  | _ => False

namespace Broker

/-- A step that takes in no result and forgets no document: the cache moves on,
and what it has begun is started and counted. -/
structure Steady (touched : Document → Prop) (broker : Broker) (step : Step) : Prop where
  /-- The cache moves on by the queries that are started. -/
  advance : broker.cache.Advance touched step.1.cache (started step.2)
  /-- The queries that are started are counted. -/
  counted : step.1.queries = broker.queries + (started step.2).length

/-- No document is touched. -/
abbrev untouched : Document → Prop := fun _ => False

@[simp]
theorem started_startQueries (broker : Broker) (queries : List (Document × Nat)) :
    started (broker.startQueries queries).2 = queries := by
  simp [startQueries, started, startedQuery?, Function.comp_def]

namespace Steady

variable {broker : Broker} {step : Step} {touched again : Document → Prop}

theorem of_iff (h : broker.Steady touched step) (hiff : ∀ document, touched document ↔
    again document) : broker.Steady again step :=
  ⟨h.advance.of_iff hiff, h.counted⟩

/-- A step that leaves the cache alone and starts no query. -/
theorem of_quiet (hcache : step.1.cache = broker.cache) (hqueries : step.1.queries = broker.queries)
    (heffects : ∀ effect ∈ step.2, effect.startedQuery? = none) :
    broker.Steady untouched step := by
  have hstarted := started_eq_nil heffects
  constructor
  · rw [hcache, hstarted]
    exact .refl broker.cache
  · rw [hqueries, hstarted]
    rfl

theorem andThen {next : Broker → Step} (first : broker.Steady touched step)
    (second : step.1.Steady again (next step.1)) :
    broker.Steady (fun document => touched document ∨ again document) (step.andThen next) := by
  constructor
  · rw [Step.andThen, started_append]
    exact first.advance.trans second.advance
  · rw [Step.andThen, started_append, List.length_append, second.counted, first.counted,
      Nat.add_assoc]

/-- Going on with something that leaves the cache alone. -/
theorem andThen_quiet {next : Broker → Step} (first : broker.Steady touched step)
    (second : step.1.Steady untouched (next step.1)) :
    broker.Steady touched (step.andThen next) :=
  (first.andThen second).of_iff fun _ => or_iff_left not_false

/-- Starting the queries that the cache has begun. -/
theorem startQueries {cache : Cache} {queries : List (Document × Nat)}
    (h : broker.cache.Advance touched cache queries) :
    broker.Steady touched (({ broker with cache } : Broker).startQueries queries) := by
  constructor
  · rw [started_startQueries]
    exact h
  · rw [started_startQueries]
    rfl

theorem wants (broker : Broker) {effects : List BrokerEffect}
    (heffects : ∀ effect ∈ effects, effect.startedQuery? = none) :
    broker.Steady untouched (broker.wants effects) :=
  of_quiet rfl rfl heffects

theorem fetchTargets (broker : Broker) : broker.Steady untouched broker.fetchTargets := by
  unfold Broker.fetchTargets
  split
  · exact of_quiet rfl rfl (by simp)
  · exact of_quiet rfl rfl (by simp [startedQuery?])

theorem invalidate (broker : Broker) (documents : List Document) :
    broker.Steady (· ∈ documents) (broker.invalidate documents) :=
  startQueries (.invalidate broker.cache documents)

theorem invalidateAll (broker : Broker) :
    broker.Steady (fun _ => True) broker.invalidateAll :=
  startQueries (.invalidateAll broker.cache)

theorem notifyEverything (broker : Broker) :
    broker.Steady (fun _ => True) broker.notifyEverything :=
  (invalidateAll broker).andThen_quiet (wants _ (by simp [startedQuery?]))

theorem everythingChanged (broker : Broker) :
    broker.Steady (fun _ => True) broker.everythingChanged := by
  refine (notifyEverything broker).andThen_quiet ?_
  -- Dropping the pending events does not show in the cache.
  have hfetch := fetchTargets
    { broker.notifyEverything.1 with pendingEvents := [], pendingRebuild := true }
  exact ⟨hfetch.advance, hfetch.counted⟩

theorem applyTargets (broker : Broker) (events : List TargetEvent) (rebuild : Bool)
    (result : Except Failure (List BuildTarget)) :
    ∃ touched, broker.Steady touched (broker.applyTargets events rebuild result) := by
  cases result with
  | error failure =>
    cases events with
    | nil => exact ⟨_, of_quiet rfl rfl (by simp [Broker.applyTargets])⟩
    | cons event events => exact ⟨_, notifyEverything broker⟩
  | ok snapshot =>
    cases events with
    | nil =>
      refine ⟨_, of_quiet ?_ ?_ (by simp [Broker.applyTargets])⟩
      · simp only [Broker.applyTargets]
        split <;> rfl
      · simp only [Broker.applyTargets]
        split <;> rfl
    | cons event events =>
      -- The new graph decides which documents are touched and changes nothing else.
      let graph := (broker.graph.applySnapshot (event :: events) snapshot rebuild).1
      simp only [Broker.applyTargets]
      split
      · have hall := invalidateAll { broker with graph }
        exact ⟨_, Steady.andThen_quiet ⟨hall.advance, hall.counted⟩
          (wants _ (by simp [startedQuery?]))⟩
      · next documents haffected =>
        have hlisted := invalidate { broker with graph } documents.toList
        exact ⟨_, Steady.andThen_quiet ⟨hlisted.advance, hlisted.counted⟩
          (wants _ (by simp [startedQuery?]))⟩

theorem handleEvent (broker : Broker) (event : BuildEvent) :
    ∃ touched, broker.Steady touched (broker.handleEvent event) ∧
      ∀ document, (BrokerNotice.event event).Announces document → touched document := by
  cases event with
  | settingsChanged documents =>
    refine ⟨_, invalidate broker documents.toList, fun document hannounced => ?_⟩
    exact Std.ExtTreeSet.mem_toList.mpr hannounced
  | dependenciesUpdated affected => exact ⟨_, wants broker (by simp [startedQuery?]), fun _ => id⟩
  | targetsChanged events =>
    simp only [Broker.handleEvent]
    split
    · exact ⟨_, everythingChanged broker, fun _ => False.elim⟩
    · have hfetch := fetchTargets { broker with pendingEvents := broker.pendingEvents ++ events }
      exact ⟨_, ⟨hfetch.advance, hfetch.counted⟩, fun _ => False.elim⟩
  | log task message => exact ⟨_, wants broker (by simp [startedQuery?]), fun _ => id⟩

/-- Every notice but the result of a query moves the cache on, and touches what it
announces. -/
theorem handleNotice (broker : Broker) (gone : Waiter → Bool) (notice : BrokerNotice)
    (hother : ∀ document generation result,
      notice ≠ .queryFinished document generation result) :
    ∃ touched, broker.Steady touched (broker.handleNotice gone notice) ∧
      ∀ document, notice.Announces document → touched document := by
  cases notice with
  | queryFinished document generation result =>
    exact absurd rfl (hother document generation result)
  | event event => exact handleEvent broker event
  | lagged missed => exact ⟨_, everythingChanged broker, fun _ => id⟩
  | streamClosed => exact ⟨_, everythingChanged broker, fun _ => False.elim⟩
  | targetsFetched events rebuild result =>
    obtain ⟨touched, happlied⟩ :=
      applyTargets { broker with fetching := false } events rebuild result
    have hstep : broker.Steady touched
        (({ broker with fetching := false } : Broker).applyTargets events rebuild result) :=
      ⟨happlied.advance, happlied.counted⟩
    exact ⟨touched, hstep.andThen_quiet (fetchTargets _), fun _ => False.elim⟩

theorem resolve (broker : Broker) (document : Document) (waiter : Waiter) :
    broker.Steady untouched (broker.resolve document waiter) := by
  unfold Broker.resolve
  split
  · exact wants broker (by simp [startedQuery?])
  · exact startQueries (.join broker.cache document waiter)

/-- Every command but the one to forget a document moves the cache on. -/
theorem handleCommand (broker : Broker) (command : BrokerCommand)
    (hother : ∀ document receipt, command ≠ .evict document receipt) :
    ∃ touched, broker.Steady touched (broker.handleCommand command) := by
  cases command with
  | resolve document waiter => exact ⟨_, resolve broker document waiter⟩
  | fallbackServed document => exact ⟨_, .noteFallbackServed broker.cache document, rfl⟩
  | invalidate documents receipt =>
    refine ⟨(· ∈ documents), ?_⟩
    rw [Broker.handleCommand]
    exact (invalidate broker documents).andThen_quiet (wants _ (by simp [startedQuery?]))
  | evict document receipt => exact absurd rfl (hother document receipt)
  | state document receipt => exact ⟨_, wants broker (by simp [startedQuery?])⟩
  | stats receipt => exact ⟨_, wants broker (by simp [startedQuery?])⟩
  | shutdown => exact ⟨_, of_quiet rfl rfl (by simp [Broker.handleCommand])⟩

end Steady

/-! ## Results and forgetting -/

variable {broker : Broker} {document : Document}

/-- A result that is not that of the query on its way is dropped. -/
theorem finishQuery_of_not_current (gone : Waiter → Bool) {generation : Nat}
    (result : QueryResult)
    (hother : ∀ flight, broker.cache.flights[document]? = some flight →
      flight.generation ≠ generation) :
    broker.finishQuery gone document generation result = (broker, []) := by
  unfold finishQuery
  rw [Cache.complete_of_not_current gone result hother]

/-- The query that follows the one on its way, if one does. -/
def followUp (broker : Broker) (document : Document) (flight : Flight) : List (Document × Nat) :=
  if flight.requery then [(document, broker.cache.lastGeneration + 1)] else []

/-- A step that takes in the result of the query on its way: it ends that query, and
the query that follows is begun, started and counted. -/
structure Landed (broker : Broker) (document : Document) (flight : Flight)
    (result : QueryResult) (step : Step) : Prop where
  /-- The result lands, and a query follows if the answer may be outdated. -/
  self : step.1.cache.slot document =
    if flight.requery then
      ((broker.cache.slot document).land (broker.cache.fallback document) result).begin
        (broker.cache.lastGeneration + 1) []
    else (broker.cache.slot document).land (broker.cache.fallback document) result
  /-- Nothing else changes. -/
  elsewhere : ∀ other, other ≠ document → step.1.cache.slot other = broker.cache.slot other
  /-- The generation of the query that follows is counted. -/
  numbered : step.1.cache.lastGeneration =
    broker.cache.lastGeneration + (broker.followUp document flight).length
  /-- Fallback settings are made from the same options. -/
  options : step.1.cache.options = broker.cache.options
  /-- The query that follows is started. -/
  started_eq : started step.2 = broker.followUp document flight
  /-- The query that follows is counted. -/
  counted : step.1.queries = broker.queries + (broker.followUp document flight).length

theorem finishQuery_of_current (gone : Waiter → Bool) {flight : Flight} (result : QueryResult)
    (hflight : broker.cache.flights[document]? = some flight) :
    broker.Landed document flight result
      (broker.finishQuery gone document flight.generation result) := by
  obtain ⟨hcompletion, hslot, hlast, hoptions⟩ :=
    Cache.complete_of_current gone result hflight
  unfold finishQuery
  split
  · next hnone =>
    rw [hnone] at hcompletion
    cases hcompletion
  · next cache completion hcomplete =>
    rw [hcomplete] at hcompletion hslot hlast hoptions
    obtain rfl := Option.some.inj hcompletion
    have hfollow : ((broker.cache.completion gone document flight result).requery.map
        fun generation => (document, generation)).toList = broker.followUp document flight := by
      unfold Cache.completion followUp
      split <;> rfl
    constructor
    case self =>
      have hself := congrFun hslot document
      rw [Function.update_self, Slot.complete, Cache.slot_flight, hflight] at hself
      exact hself
    case elsewhere =>
      intro other hother
      have hrest := congrFun hslot other
      rw [Function.update_of_ne hother] at hrest
      exact hrest
    case numbered =>
      simp only [Step.andThen, wants, startQueries]
      rw [hlast]
      unfold Cache.completion followUp
      split <;> rfl
    case options => exact hoptions
    case started_eq =>
      simp only [Step.andThen, wants, started_append, started_startQueries]
      rw [started_map_eq_nil _ fun _ => rfl, List.nil_append,
        started_eq_nil (by split <;> simp [startedQuery?]), List.append_nil, hfollow]
    case counted =>
      rw [← hfollow]
      rfl

/-- Forgetting a document starts no query. -/
theorem started_evict (broker : Broker) (document : Document) (receipt : Receipt) :
    started (broker.handleCommand (.evict document receipt)).2 = [] := by
  simp only [handleCommand, wants, started_append]
  rw [started_map_eq_nil _ fun _ => rfl]
  rfl

end Broker

end SettingsBroker
