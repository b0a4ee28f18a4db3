/-
# Queries on their way and queries still to end

For the broker a query is on its way because its cache says so; outside it is a
task that was started and has still to say what it came to.  The two must agree:
a document with a query that nobody runs would wait for ever, and a query of
which the cache does not know would ask the build system for nothing.

A ledger runs the broker and keeps the other side: which queries were started,
which of them have not ended, which results were taken in, and which documents
were ever forgotten.  Messages arrive in any order, except that only a query
that was started and has not ended can end.
-/

import Mathlib.Data.List.Nodup
import SettingsBroker.Proofs.Broker.Steady

namespace SettingsBroker

open BrokerEffect

/-- What can arrive at the broker. -/
inductive BrokerMessage where
  | command (command : BrokerCommand)
  /-- A notice, when some callers have gone away. -/
  | notice (notice : BrokerNotice) (gone : Waiter → Bool)

namespace BrokerMessage

/-- The query whose end a message tells. -/
def ended? : BrokerMessage → Option (Document × Nat)
  | .notice (.queryFinished document generation _) _ => some (document, generation)
  | _ => none

/-- The document that a message asks to forget. -/
def forgotten? : BrokerMessage → Option Document
  | .command (.evict document _) => some document
  | _ => none

end BrokerMessage

namespace Broker

/-- Takes in whatever arrives. -/
def handle (broker : Broker) : BrokerMessage → Step
  | .command command => broker.handleCommand command
  | .notice notice gone => broker.handleNotice gone notice

/-- The query whose result the cache takes in with a message. -/
def accepts? (broker : Broker) : BrokerMessage → Option (Document × Nat)
  | .notice (.queryFinished document generation result) gone =>
    if (broker.cache.complete gone document generation result).2.isSome then
      some (document, generation)
    else none
  | _ => none

end Broker

/-- A broker with the queries that it has had started. -/
structure Ledger where
  broker : Broker
  /-- The queries that were started, in order. -/
  started : List (Document × Nat)
  /-- Those that have not ended. -/
  unfinished : List (Document × Nat)
  /-- Those whose results were taken in, in that order. -/
  accepted : List (Document × Nat)
  forgotten : List Document

namespace Ledger

/-- The ledger of a broker that was just started. -/
def start (options : FallbackOptions) : Ledger where
  broker := (Broker.start options).1
  started := BrokerEffect.started (Broker.start options).2
  unfinished := BrokerEffect.started (Broker.start options).2
  accepted := []
  forgotten := []

/-- The ledger after a message. -/
def handle (ledger : Ledger) (message : BrokerMessage) : Ledger where
  broker := (ledger.broker.handle message).1
  started := ledger.started ++ BrokerEffect.started (ledger.broker.handle message).2
  unfinished := message.ended?.elim ledger.unfinished ledger.unfinished.erase ++
    BrokerEffect.started (ledger.broker.handle message).2
  accepted := ledger.accepted ++ (ledger.broker.accepts? message).toList
  forgotten := ledger.forgotten ++ message.forgotten?.toList

/-- The ledger of a broker at which messages have arrived in order. -/
def after (options : FallbackOptions) (messages : List BrokerMessage) : Ledger :=
  messages.foldl handle (start options)

/-- The books are in order. -/
structure Sound (ledger : Ledger) : Prop where
  /-- Queries are numbered as they are started. -/
  numbered : ledger.started.map Prod.snd = List.range' 1 ledger.broker.cache.lastGeneration
  /-- The broker counts the queries that it has started. -/
  counted : ledger.broker.queries = ledger.started.length
  /-- Only what was started is to end, and only once. -/
  sublist : ledger.unfinished.Sublist ledger.started
  /-- The query on its way for a document has still to end. -/
  asked : ∀ document flight, ledger.broker.cache.flights[document]? = some flight →
    (document, flight.generation) ∈ ledger.unfinished
  /-- Only what was started is taken in. -/
  acceptedStarted : ∀ query ∈ ledger.accepted, query ∈ ledger.started
  /-- What was taken in has ended. -/
  acceptedEnded : ∀ query ∈ ledger.accepted, query ∉ ledger.unfinished
  /-- Nothing is taken in twice. -/
  acceptedOnce : ledger.accepted.Nodup
  /-- For a document that was never forgotten only the query on its way has
  still to end. -/
  current : ∀ document generation, (document, generation) ∈ ledger.unfinished →
    document ∉ ledger.forgotten →
    ∃ flight, ledger.broker.cache.flights[document]? = some flight ∧
      flight.generation = generation

namespace Sound

variable {ledger : Ledger}

theorem startedOnce (h : ledger.Sound) : (ledger.started.map Prod.snd).Nodup := by
  rw [h.numbered]
  exact List.nodup_range'

theorem unfinishedOnce (h : ledger.Sound) : ledger.unfinished.Nodup :=
  (h.startedOnce.of_map Prod.snd).sublist h.sublist

/-- The generations of started queries have been given. -/
theorem started_le (h : ledger.Sound) {document : Document} {generation : Nat}
    (hstarted : (document, generation) ∈ ledger.started) :
    generation ≤ ledger.broker.cache.lastGeneration := by
  have hmem : generation ∈ ledger.started.map Prod.snd := List.mem_map_of_mem hstarted
  rw [h.numbered, List.mem_range'_1] at hmem
  omega

theorem start (options : FallbackOptions) : (start options).Sound where
  numbered := rfl
  counted := rfl
  sublist := .refl _
  asked := fun document flight hflight => by
    have hempty := Cache.slot_empty options document
    have hidle : ((Cache.empty options).slot document).flight = some flight := hflight
    rw [hempty] at hidle
    cases hidle
  acceptedStarted := fun query hquery => by cases hquery
  acceptedEnded := fun query hquery => by cases hquery
  acceptedOnce := .nil
  current := fun document generation hmem => by cases hmem

/-- The books stay in order when the cache moves on and what it has begun is
started and counted. -/
theorem advance (h : ledger.Sound) {broker : Broker} {queries : List (Document × Nat)}
    {touched : Document → Prop}
    (hadvance : ledger.broker.cache.Advance touched broker.cache queries)
    (hcounted : broker.queries = ledger.broker.queries + queries.length) :
    ({ ledger with
        broker
        started := ledger.started ++ queries
        unfinished := ledger.unfinished ++ queries } : Ledger).Sound := by
  constructor
  case numbered =>
    simp only
    rw [List.map_append, h.numbered, hadvance.numbered, hadvance.counted,
      Nat.add_comm ledger.broker.cache.lastGeneration 1, List.range'_append_1]
  case counted =>
    simp only
    rw [hcounted, h.counted, List.length_append]
  case sublist => exact h.sublist.append (.refl _)
  case asked =>
    intro document flight hflight
    rw [List.mem_append]
    have hslot := hadvance.slots document
    generalize hgenerations : Cache.generationsOf queries document = generations at hslot
    cases hslot with
    | carried before after same =>
      obtain rfl := Option.some.inj (hflight.symm.trans after)
      left
      rw [same]
      exact h.asked document _ before
    | begun before after =>
      obtain rfl := Option.some.inj (hflight.symm.trans after)
      right
      rw [← Cache.mem_generationsOf, hgenerations]
      exact List.mem_singleton_self _
    | idle before after => cases hflight.symm.trans after
  case acceptedStarted =>
    exact fun query hquery => List.mem_append_left _ (h.acceptedStarted query hquery)
  case acceptedEnded =>
    intro query hquery hmem
    rcases List.mem_append.mp hmem with hold | hnew
    · exact h.acceptedEnded query hquery hold
    · have hgiven := h.started_le (h.acceptedStarted query hquery)
      have hlater := (hadvance.generation_mem hnew).1
      omega
  case acceptedOnce => exact h.acceptedOnce
  case current =>
    intro document generation hmem hkept
    have hslot := hadvance.slots document
    generalize hgenerations : Cache.generationsOf queries document = generations at hslot
    rcases List.mem_append.mp hmem with hold | hnew
    · obtain ⟨flight, hflight, rfl⟩ := h.current document generation hold hkept
      cases hslot with
      | carried before after same =>
        obtain rfl := Option.some.inj (hflight.symm.trans before)
        exact ⟨_, after, same⟩
      | begun before => cases hflight.symm.trans before
      | idle before => cases hflight.symm.trans before
    · rw [← Cache.mem_generationsOf, hgenerations] at hnew
      cases hslot with
      | carried => cases hnew
      | begun before after => exact ⟨_, after, (List.mem_singleton.mp hnew).symm⟩
      | idle => cases hnew

/-- The books stay in order when a document is forgotten: its query goes on, but
nothing more is said of it. -/
theorem forget (h : ledger.Sound) (document : Document) :
    ({ ledger with
        broker := { ledger.broker with cache := (ledger.broker.cache.evict document).1 }
        forgotten := ledger.forgotten ++ [document] } : Ledger).Sound := by
  have hslot := ledger.broker.cache.slot_evict document
  refine ⟨h.numbered, h.counted, h.sublist, ?_, h.acceptedStarted, h.acceptedEnded,
    h.acceptedOnce, ?_⟩
  · intro other flight hflight
    rw [← Cache.slot_flight, hslot] at hflight
    by_cases hother : other = document
    · subst hother
      rw [Function.update_self] at hflight
      cases hflight
    · rw [Function.update_of_ne hother] at hflight
      exact h.asked other flight hflight
  · intro other generation hmem hkept
    rw [List.mem_append, List.mem_singleton, not_or] at hkept
    obtain ⟨hkept, hother⟩ := hkept
    rw [← Cache.slot_flight, hslot, Function.update_of_ne hother]
    exact h.current other generation hmem hkept

/-- The books stay in order when a query ends whose result is dropped. -/
theorem drop (h : ledger.Sound) {document : Document} {generation : Nat}
    (hother : ∀ flight, ledger.broker.cache.flights[document]? = some flight →
      flight.generation ≠ generation) :
    ({ ledger with unfinished := ledger.unfinished.erase (document, generation) } :
      Ledger).Sound := by
  refine ⟨h.numbered, h.counted, (List.erase_sublist).trans h.sublist, ?_, h.acceptedStarted,
    ?_, h.acceptedOnce, ?_⟩
  · intro found flight hflight
    refine (List.mem_erase_of_ne ?_).mpr (h.asked found flight hflight)
    intro heq
    obtain ⟨rfl, hsame⟩ := Prod.mk.inj heq
    exact hother flight hflight hsame
  · exact fun query hquery hmem => h.acceptedEnded query hquery (List.mem_of_mem_erase hmem)
  · exact fun found number hmem hkept => h.current found number (List.mem_of_mem_erase hmem) hkept

/-- The books stay in order when the query on its way ends: its result is taken
in, and the query that follows, if one does, takes its place. -/
theorem land (h : ledger.Sound) {document : Document} {flight : Flight} (gone : Waiter → Bool)
    (result : QueryResult) (hflight : ledger.broker.cache.flights[document]? = some flight) :
    ({ ledger with
        broker := (ledger.broker.finishQuery gone document flight.generation result).1
        started := ledger.started ++ ledger.broker.followUp document flight
        unfinished := ledger.unfinished.erase (document, flight.generation) ++
          ledger.broker.followUp document flight
        accepted := ledger.accepted ++ [(document, flight.generation)] } : Ledger).Sound := by
  have hlanded := Broker.finishQuery_of_current gone result hflight
  have hasked := h.asked document flight hflight
  have hgiven := h.started_le (h.sublist.subset hasked)
  -- Afterwards a query is on its way for the document exactly if one follows.
  have hnext : ((ledger.broker.finishQuery gone document flight.generation
      result).1.cache.slot document).flight =
      if flight.requery then some ⟨ledger.broker.cache.lastGeneration + 1, [], false, false⟩
      else none := by
    rw [hlanded.self]
    split
    · rfl
    · exact Slot.land_flight _ _ _
  have hfollow : ∀ other number, (other, number) ∈ ledger.broker.followUp document flight ↔
      flight.requery = true ∧ other = document ∧
        number = ledger.broker.cache.lastGeneration + 1 := by
    intro other number
    unfold Broker.followUp
    split <;> simp [*]
  constructor
  case numbered =>
    simp only
    rw [List.map_append, h.numbered, hlanded.numbered]
    unfold Broker.followUp
    split
    · rw [List.length_singleton, List.range'_1_concat, Nat.add_comm 1]
      rfl
    · simp
  case counted =>
    simp only
    rw [hlanded.counted, h.counted, List.length_append]
  case sublist => exact (List.erase_sublist.trans h.sublist).append (.refl _)
  case asked =>
    intro other next hother
    rw [List.mem_append]
    rw [← Cache.slot_flight] at hother
    by_cases hself : other = document
    · subst hself
      rw [hnext] at hother
      right
      rw [hfollow]
      split at hother
      · obtain rfl := Option.some.inj hother
        exact ⟨‹_›, rfl, rfl⟩
      · cases hother
    · rw [hlanded.elsewhere other hself, Cache.slot_flight] at hother
      left
      refine (List.mem_erase_of_ne ?_).mpr (h.asked other next hother)
      exact fun heq => hself (Prod.mk.inj heq).1
  case acceptedStarted =>
    intro query hquery
    rcases List.mem_append.mp hquery with hold | hnew
    · exact List.mem_append_left _ (h.acceptedStarted query hold)
    · rw [List.mem_singleton.mp hnew]
      exact List.mem_append_left _ (h.sublist.subset hasked)
  case acceptedEnded =>
    rintro ⟨other, number⟩ hquery hmem
    have hnumber : number ≤ ledger.broker.cache.lastGeneration := by
      rcases List.mem_append.mp hquery with hold | hnew
      · exact h.started_le (h.acceptedStarted _ hold)
      · obtain ⟨-, rfl⟩ := Prod.mk.inj (List.mem_singleton.mp hnew)
        exact hgiven
    rcases List.mem_append.mp hmem with hunfinished | hlater
    · rcases List.mem_append.mp hquery with hold | hnew
      · exact h.acceptedEnded _ hold (List.mem_of_mem_erase hunfinished)
      · rw [List.mem_singleton.mp hnew] at hunfinished
        exact h.unfinishedOnce.not_mem_erase hunfinished
    · have hlarge := ((hfollow other number).mp hlater).2.2
      omega
  case acceptedOnce =>
    refine List.nodup_append.mpr ⟨h.acceptedOnce, List.nodup_singleton _, ?_⟩
    rintro query hold _ hnew rfl
    rw [List.mem_singleton.mp hnew] at hold
    exact h.acceptedEnded _ hold hasked
  case current =>
    intro other number hmem hkept
    rw [← Cache.slot_flight]
    rcases List.mem_append.mp hmem with hold | hlater
    · have hcurrent := h.current other number (List.mem_of_mem_erase hold) hkept
      by_cases hself : other = document
      · -- The only query that the document had to end is the one that has ended.
        subst hself
        obtain ⟨found, hfound, rfl⟩ := hcurrent
        obtain rfl := Option.some.inj (hflight.symm.trans hfound)
        exact absurd hold h.unfinishedOnce.not_mem_erase
      · rw [hlanded.elsewhere other hself]
        exact hcurrent
    · obtain ⟨hrequery, rfl, rfl⟩ := (hfollow other number).mp hlater
      rw [hnext, if_pos hrequery]
      exact ⟨_, rfl, rfl⟩

/-- The books stay in order when a query ends. -/
theorem finish (h : ledger.Sound) {document : Document} {generation : Nat}
    (result : QueryResult) (gone : Waiter → Bool) :
    (ledger.handle (.notice (.queryFinished document generation result) gone)).Sound := by
  rcases ledger.broker.cache.current_or_other document generation with
    ⟨flight, hflight, rfl⟩ | hother
  · have hcompletion := (Cache.complete_of_current gone result hflight).1
    have hstarted := (Broker.finishQuery_of_current gone result hflight).started_eq
    have hafter : ledger.handle
        (.notice (.queryFinished document flight.generation result) gone) =
        { ledger with
          broker := (ledger.broker.finishQuery gone document flight.generation result).1
          started := ledger.started ++ ledger.broker.followUp document flight
          unfinished := ledger.unfinished.erase (document, flight.generation) ++
            ledger.broker.followUp document flight
          accepted := ledger.accepted ++ [(document, flight.generation)] } := by
      simp [handle, Broker.handle, Broker.handleNotice, hstarted, BrokerMessage.ended?,
        BrokerMessage.forgotten?, Broker.accepts?, hcompletion]
    rw [hafter]
    exact h.land gone result hflight
  · have hafter : ledger.handle (.notice (.queryFinished document generation result) gone) =
        { ledger with unfinished := ledger.unfinished.erase (document, generation) } := by
      simp [handle, Broker.handle, Broker.handleNotice, BrokerMessage.ended?,
        BrokerMessage.forgotten?, Broker.accepts?, Broker.finishQuery_of_not_current gone result
        hother, Cache.complete_of_not_current gone result hother]
    rw [hafter]
    exact h.drop hother

/-- The books stay in order when a message moves the cache on. -/
theorem steady (h : ledger.Sound) {message : BrokerMessage} {touched : Document → Prop}
    (hsteady : ledger.broker.Steady touched (ledger.broker.handle message))
    (hended : message.ended? = none) (haccepted : ledger.broker.accepts? message = none)
    (hforgotten : message.forgotten? = none) : (ledger.handle message).Sound := by
  have hafter : ledger.handle message =
      { ledger with
        broker := (ledger.broker.handle message).1
        started := ledger.started ++ BrokerEffect.started (ledger.broker.handle message).2
        unfinished := ledger.unfinished ++
          BrokerEffect.started (ledger.broker.handle message).2 } := by
    simp [handle, hended, haccepted, hforgotten]
  rw [hafter]
  exact h.advance hsteady.advance hsteady.counted

/-- The books stay in order whatever arrives. -/
theorem handle (h : ledger.Sound) (message : BrokerMessage) : (ledger.handle message).Sound := by
  cases message with
  | command command =>
    have hsteady := Broker.Steady.handleCommand ledger.broker command
    cases command with
    | evict document receipt =>
      have hstarted := Broker.started_evict ledger.broker document receipt
      have hafter : ledger.handle (.command (.evict document receipt)) =
          { ledger with
            broker := { ledger.broker with cache := (ledger.broker.cache.evict document).1 }
            forgotten := ledger.forgotten ++ [document] } := by
        simp [Ledger.handle, Broker.handle, hstarted, BrokerMessage.ended?,
          BrokerMessage.forgotten?, Broker.accepts?]
        rfl
      rw [hafter]
      exact h.forget document
    | _ =>
      obtain ⟨touched, hsteady⟩ := hsteady (by nofun)
      exact h.steady hsteady rfl rfl rfl
  | notice notice gone =>
    have hsteady := Broker.Steady.handleNotice ledger.broker gone notice
    cases notice with
    | queryFinished document generation result => exact h.finish result gone
    | _ =>
      obtain ⟨touched, hsteady, -⟩ := hsteady (by nofun)
      exact h.steady hsteady rfl rfl rfl

end Sound

/-- The books are in order whatever has arrived. -/
theorem sound_after (options : FallbackOptions) (messages : List BrokerMessage) :
    (after options messages).Sound := by
  have hfold : ∀ ledger : Ledger, ledger.Sound → (messages.foldl handle ledger).Sound := by
    induction messages with
    | nil => exact fun ledger hsound => hsound
    | cons message messages ih => exact fun ledger hsound => ih _ (hsound.handle message)
  exact hfold _ (.start options)

/-- Queries on their way and queries still to end match.  Whatever has arrived,
the query on its way for a document is one that was started and has still to
end, exactly once; started queries have different generations, are as many as the
generations given and as the broker counts; no result is taken in twice; and a
document that was never forgotten has at most one query still to end. -/
theorem flights_match_queries (options : FallbackOptions) (messages : List BrokerMessage) :
    let ledger := after options messages
    (∀ document flight, ledger.broker.cache.flights[document]? = some flight →
      (document, flight.generation) ∈ ledger.started ∧
        ledger.unfinished.count (document, flight.generation) = 1) ∧
    (ledger.started.map Prod.snd).Nodup ∧
    ledger.accepted.Nodup ∧
    (ledger.broker.queries = ledger.started.length ∧
      ledger.broker.queries = ledger.broker.cache.lastGeneration) ∧
    ∀ document, document ∉ ledger.forgotten →
      (ledger.unfinished.filter (·.1 = document)).length ≤ 1 := by
  intro ledger
  have h : ledger.Sound := sound_after options messages
  refine ⟨?_, h.startedOnce, h.acceptedOnce, ⟨h.counted, ?_⟩, ?_⟩
  · intro document flight hflight
    have hasked := h.asked document flight hflight
    exact ⟨h.sublist.subset hasked, List.count_eq_one_of_mem h.unfinishedOnce hasked⟩
  · have hlength := congrArg List.length h.numbered
    rw [List.length_map, List.length_range'] at hlength
    rw [h.counted, hlength]
  · intro document hkept
    -- All of them are the query on its way.
    have hall : ∀ first ∈ ledger.unfinished.filter (·.1 = document),
        ∀ second ∈ ledger.unfinished.filter (·.1 = document), first = second := by
      rintro ⟨_, first⟩ hfirst ⟨_, second⟩ hsecond
      simp only [List.mem_filter, decide_eq_true_eq] at hfirst hsecond
      obtain ⟨hfirst, rfl⟩ := hfirst
      obtain ⟨hsecond, rfl⟩ := hsecond
      obtain ⟨flight, hflight, rfl⟩ := h.current _ first hfirst hkept
      obtain ⟨found, hfound, rfl⟩ := h.current _ second hsecond hkept
      rw [Option.some.inj (hflight.symm.trans hfound)]
    have honce := h.unfinishedOnce.filter (·.1 = document)
    generalize ledger.unfinished.filter (·.1 = document) = queries at hall honce
    match queries, hall, honce with
    | [], _, _ => exact Nat.zero_le 1
    | [_], _, _ => exact Nat.le_refl 1
    | first :: second :: rest, hall, honce =>
      have hsame := hall first (by simp) second (by simp)
      simp [hsame] at honce

end Ledger

end SettingsBroker
