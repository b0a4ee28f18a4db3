/-
# Calm steps of the broker

Of all that can arrive at the broker, only the result of the query on its way and a
request to forget a document change what is stored.  Every other step is calm: each
document keeps its settings and its waiting callers, and no changed settings are
reported.

`handle_cases` says so for every message.  The theorems about stored settings and about
waiting callers start from it and never go through the messages again.
-/

import SettingsBroker.Proofs.Broker.Ledger
import SettingsBroker.Proofs.Cache.Keeps

namespace SettingsBroker

namespace BrokerEffect

/-- Whether an effect reports that the settings of a document changed. -/
def tells (document : Document) : BrokerEffect → Bool
  | .report (.settings documents) => documents.contains document
  | _ => false

/-- Whether effects report that the settings of a document changed. -/
def told (document : Document) (effects : List BrokerEffect) : Bool :=
  effects.any (tells document)

@[simp]
theorem told_nil (document : Document) : told document [] = false := rfl

@[simp]
theorem told_append (document : Document) (effects later : List BrokerEffect) :
    told document (effects ++ later) = (told document effects || told document later) :=
  List.any_append

end BrokerEffect

open BrokerEffect

namespace Broker

/-- A step after which every document has what it had, and that reports no changed
settings. -/
structure Calm (broker : Broker) (step : Step) : Prop where
  keeps : broker.cache.Keeps step.1.cache
  /-- Fallback settings are made from the same options. -/
  options : step.1.cache.options = broker.cache.options
  /-- No changed settings are reported. -/
  silent : ∀ document, told document step.2 = false

namespace Calm

variable {broker : Broker} {step : Step}

/-- A step that leaves the cache alone and reports no changed settings. -/
theorem of_same (hcache : step.1.cache = broker.cache)
    (silent : ∀ document, told document step.2 = false) : broker.Calm step := by
  refine ⟨?_, congrArg Cache.options hcache, silent⟩
  rw [hcache]
  exact .refl broker.cache

theorem andThen {next : Broker → Step} (first : broker.Calm step)
    (second : step.1.Calm (next step.1)) : broker.Calm (step.andThen next) := by
  refine ⟨first.keeps.trans second.keeps, second.options.trans first.options, fun document => ?_⟩
  rw [Step.andThen, told_append, first.silent, second.silent]
  rfl

theorem startQueries {cache : Cache} (keeps : broker.cache.Keeps cache)
    (options : cache.options = broker.cache.options) (queries : List (Document × Nat)) :
    broker.Calm (({ broker with cache } : Broker).startQueries queries) :=
  ⟨keeps, options, fun document => by
    simp [Broker.startQueries, told, tells, Function.comp_def]⟩

theorem fetchTargets (broker : Broker) : broker.Calm broker.fetchTargets := by
  unfold Broker.fetchTargets
  split
  · exact of_same rfl fun _ => rfl
  · exact of_same rfl fun _ => rfl

theorem invalidate (broker : Broker) (documents : List Document) :
    broker.Calm (broker.invalidate documents) :=
  startQueries (.invalidate broker.cache documents)
    (Cache.Advance.invalidate broker.cache documents).options _

theorem invalidateAll (broker : Broker) : broker.Calm broker.invalidateAll :=
  startQueries (.invalidateAll broker.cache) (Cache.Advance.invalidateAll broker.cache).options _

theorem notifyEverything (broker : Broker) : broker.Calm broker.notifyEverything :=
  (invalidateAll broker).andThen (of_same rfl fun _ => rfl)

theorem everythingChanged (broker : Broker) : broker.Calm broker.everythingChanged := by
  refine (notifyEverything broker).andThen ?_
  have hfetch := fetchTargets
    { broker.notifyEverything.1 with pendingEvents := [], pendingRebuild := true }
  exact ⟨hfetch.keeps, hfetch.options, hfetch.silent⟩

theorem applyTargets (broker : Broker) (events : List TargetEvent) (rebuild : Bool)
    (result : Except Failure (List BuildTarget)) :
    broker.Calm (broker.applyTargets events rebuild result) := by
  cases result with
  | error failure =>
    cases events with
    | nil => exact of_same rfl fun _ => rfl
    | cons event events => exact notifyEverything broker
  | ok snapshot =>
    cases events with
    | nil =>
      refine of_same ?_ fun _ => rfl
      simp only [Broker.applyTargets]
      split <;> rfl
    | cons event events =>
      simp only [Broker.applyTargets]
      split
      · have hall := invalidateAll
          { broker with graph := (broker.graph.applySnapshot (event :: events) snapshot rebuild).1 }
        exact Calm.andThen ⟨hall.keeps, hall.options, hall.silent⟩ (of_same rfl fun _ => rfl)
      · next documents haffected =>
        have hlisted := invalidate
          { broker with graph := (broker.graph.applySnapshot (event :: events) snapshot rebuild).1 }
          documents.toList
        exact Calm.andThen ⟨hlisted.keeps, hlisted.options, hlisted.silent⟩
          (of_same rfl fun _ => rfl)

theorem handleEvent (broker : Broker) (event : BuildEvent) :
    broker.Calm (broker.handleEvent event) := by
  cases event with
  | settingsChanged documents => exact invalidate broker documents.toList
  | dependenciesUpdated affected => exact of_same rfl fun _ => rfl
  | targetsChanged events =>
    simp only [Broker.handleEvent]
    split
    · exact everythingChanged broker
    · have hfetch := fetchTargets { broker with pendingEvents := broker.pendingEvents ++ events }
      exact ⟨hfetch.keeps, hfetch.options, hfetch.silent⟩
  | log task message => exact of_same rfl fun _ => rfl

theorem resolve (broker : Broker) (document : Document) (waiter : Waiter) :
    broker.Calm (broker.resolve document waiter) := by
  unfold Broker.resolve
  split
  · exact of_same rfl fun _ => rfl
  · exact startQueries (.join broker.cache document waiter)
      (broker.cache.options_join document waiter) _

end Calm

/-- A step is calm unless it takes in the result of the query on its way or forgets a
document. -/
theorem handle_cases (broker : Broker) (message : BrokerMessage) :
    broker.Calm (broker.handle message) ∨
      (∃ document flight result gone,
        message = .notice (.queryFinished document flight.generation result) gone ∧
          broker.cache.flights[document]? = some flight) ∨
      ∃ document receipt, message = .command (.evict document receipt) := by
  cases message with
  | command command =>
    cases command with
    | resolve document waiter => exact .inl (.resolve broker document waiter)
    | fallbackServed document =>
      exact .inl ⟨.noteFallbackServed broker.cache document, rfl, fun _ => rfl⟩
    | invalidate documents receipt =>
      have hstep : broker.Calm
          ((broker.invalidate documents).andThen (·.wants [.acknowledge receipt .done])) :=
        (Calm.invalidate broker documents).andThen (.of_same rfl fun _ => rfl)
      exact .inl hstep
    | evict document receipt => exact .inr (.inr ⟨document, receipt, rfl⟩)
    | state document receipt => exact .inl (.of_same rfl fun _ => rfl)
    | stats receipt => exact .inl (.of_same rfl fun _ => rfl)
    | shutdown => exact .inl (.of_same rfl fun _ => rfl)
  | notice notice gone =>
    cases notice with
    | queryFinished document generation result =>
      rcases broker.cache.current_or_other document generation with
        ⟨flight, hflight, rfl⟩ | hother
      · exact .inr (.inl ⟨document, flight, result, gone, rfl, hflight⟩)
      · have hdropped := finishQuery_of_not_current gone result hother
        refine .inl (.of_same ?_ fun _ => ?_)
        · simp [handle, handleNotice, hdropped]
        · simp [handle, handleNotice, hdropped]
    | event event => exact .inl (.handleEvent broker event)
    | lagged missed => exact .inl (.everythingChanged broker)
    | streamClosed => exact .inl (.everythingChanged broker)
    | targetsFetched events rebuild result =>
      have happlied := Calm.applyTargets { broker with fetching := false } events rebuild result
      have hstep : broker.Calm
          (({ broker with fetching := false } : Broker).applyTargets events rebuild result) :=
        ⟨happlied.keeps, happlied.options, happlied.silent⟩
      exact .inl (hstep.andThen (.fetchTargets _))

end Broker

end SettingsBroker
