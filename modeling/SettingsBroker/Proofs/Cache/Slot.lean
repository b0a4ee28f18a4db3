/-
# The cache as one document sees it

The cache keeps three tables.  For one document they come to a slot: its entry,
its query on the way and what the view shows.  Every operation on the cache
changes a single slot and is a function of that slot; all that documents share
is the counter from which generations are drawn.

This module gives the slot side of each operation and proves, operation by
operation, that the tables change as the slot does.  Later modules reason about
slots and do not open the operations again.
-/

import Mathlib.Logic.Function.Basic
import SettingsBroker.Cache

namespace SettingsBroker

/-- What the cache holds for one document. -/
@[ext]
structure Slot where
  entry : Option CacheEntry
  flight : Option Flight
  /-- What the view shows. -/
  shown : Option BuildSettings

namespace Slot

/-- Nothing is known and nothing is asked. -/
def empty : Slot := ⟨none, none, none⟩

/-- Begins a query with a given generation. -/
def begin (slot : Slot) (generation : Nat) (waiters : List Waiter) : Slot :=
  { slot with flight := some ⟨generation, waiters, false, false⟩ }

/-- Lets a caller wait; `generation` is that of the query that is begun if none
is on its way. -/
def join (slot : Slot) (generation : Nat) (waiter : Waiter) : Slot :=
  match slot.flight with
  | some flight =>
    { slot with flight := some { flight with waiters := flight.waiters ++ [waiter] } }
  | none => slot.begin generation [waiter]

/-- Notes on the query on its way that a caller was served fallback settings. -/
def noteFallbackServed (slot : Slot) : Slot :=
  { slot with flight := slot.flight.map fun flight => { flight with fallbackServed := true } }

def markStale (slot : Slot) : Slot :=
  { slot with entry := slot.entry.map fun entry => { entry with stale := true } }

/-- Marks the slot invalid; `generation` is that of the query that is begun if
there is an entry and no query on its way. -/
def invalidate (slot : Slot) (generation : Nat) : Slot :=
  match slot.flight with
  | some flight => { slot.markStale with flight := some { flight with requery := true } }
  | none => if slot.entry.isSome then slot.markStale.begin generation [] else slot

/-- The settings that a result puts in place, if it puts any. -/
def fresh? (slot : Slot) (fallback : BuildSettings) (result : QueryResult) :
    Option BuildSettings :=
  match result with
  | .ok answer => some (answer.getD fallback)
  | .error _ => if slot.entry.isSome then none else some fallback

/-- The slot after the query on its way has ended with a result. -/
def land (slot : Slot) (fallback : BuildSettings) (result : QueryResult) : Slot :=
  match slot.fresh? fallback result with
  | some settings => ⟨some ⟨settings, false⟩, none, some settings⟩
  | none => { slot with flight := none }

/-- The slot after the query on its way has ended with a result; `generation` is
that of the query that follows if the answer may be outdated. -/
def complete (slot : Slot) (fallback : BuildSettings) (generation : Nat)
    (result : QueryResult) : Slot :=
  if slot.flight.any (·.requery) then (slot.land fallback result).begin generation []
  else slot.land fallback result

/-- The settings in place after a result has been taken in. -/
def settled (slot : Slot) (fallback : BuildSettings) (result : QueryResult) : BuildSettings :=
  match result with
  | .ok answer => answer.getD fallback
  | .error _ => (slot.entry.map (·.settings)).getD fallback

/-- An accepted result always leaves an entry behind, whose settings are the
settled ones: where a failure stores nothing, there was an entry before. -/
theorem land_entry (slot : Slot) (fallback : BuildSettings) (result : QueryResult) :
    ∃ entry, (slot.land fallback result).entry = some entry ∧
      entry.settings = slot.settled fallback result := by
  cases result with
  | ok answer => exact ⟨⟨answer.getD fallback, false⟩, rfl, rfl⟩
  | error failure =>
    cases hentry : slot.entry with
    | none => exact ⟨⟨fallback, false⟩, by simp [land, fresh?, hentry], by simp [settled, hentry]⟩
    | some entry => exact ⟨entry, by simp [land, fresh?, hentry], by simp [settled, hentry]⟩

@[simp]
theorem land_flight (slot : Slot) (fallback : BuildSettings) (result : QueryResult) :
    (slot.land fallback result).flight = none := by
  unfold land
  split <;> rfl

/-- An answer of the build system is stored as it is and is not stale. -/
theorem land_ok (slot : Slot) (fallback : BuildSettings) (answer : Option BuildSettings) :
    slot.land fallback (.ok answer) =
      ⟨some ⟨answer.getD fallback, false⟩, none, some (answer.getD fallback)⟩ := rfl

end Slot

namespace Cache

/-- What the cache holds for a document. -/
def slot (cache : Cache) (document : Document) : Slot :=
  ⟨cache.entries[document]?, cache.flights[document]?, cache.view[document]?⟩

@[simp]
theorem slot_entry (cache : Cache) (document : Document) :
    (cache.slot document).entry = cache.entries[document]? := rfl

@[simp]
theorem slot_flight (cache : Cache) (document : Document) :
    (cache.slot document).flight = cache.flights[document]? := rfl

@[simp]
theorem slot_shown (cache : Cache) (document : Document) :
    (cache.slot document).shown = cache.view[document]? := rfl

@[simp]
theorem slot_empty (options : FallbackOptions) (document : Document) :
    (Cache.empty options).slot document = .empty := by
  simp [slot, Cache.empty, Slot.empty]

/-! ## One slot at a time -/

variable (cache : Cache) (document : Document)

/-- Tables that differ only under one document have the same slots elsewhere. -/
private theorem slot_eq_update {before after : Cache} {document : Document} {target : Slot}
    (hself : after.slot document = target)
    (hrest : ∀ other, document ≠ other → after.slot other = before.slot other) :
    after.slot = Function.update before.slot document target := by
  funext other
  by_cases h : document = other
  · subst h
    rw [Function.update_self, hself]
  · rw [Function.update_of_ne (Ne.symm h), hrest other h]

theorem slot_begin (waiters : List Waiter) :
    (cache.begin document waiters).1.slot =
      Function.update cache.slot document
        ((cache.slot document).begin (cache.lastGeneration + 1) waiters) := by
  apply slot_eq_update
  · simp [begin, slot, Slot.begin]
  · intro other h
    simp [begin, slot, Std.ExtTreeMap.getElem?_insert, h]

theorem slot_join (waiter : Waiter) :
    (cache.join document waiter).1.slot =
      Function.update cache.slot document
        ((cache.slot document).join (cache.lastGeneration + 1) waiter) := by
  cases hflight : cache.flights[document]? with
  | none =>
    simp only [join, hflight, slot_begin, Slot.join, slot_flight]
  | some flight =>
    apply slot_eq_update
    · simp [join, hflight, slot, Slot.join]
    · intro other h
      simp [join, hflight, slot, Std.ExtTreeMap.getElem?_insert, h]

theorem slot_noteFallbackServed :
    (cache.noteFallbackServed document).slot =
      Function.update cache.slot document (cache.slot document).noteFallbackServed := by
  apply slot_eq_update
  · simp [noteFallbackServed, slot, Slot.noteFallbackServed]
  · intro other h
    simp [noteFallbackServed, slot, Std.ExtTreeMap.getElem?_modify, h]

theorem slot_evict :
    (cache.evict document).1.slot = Function.update cache.slot document .empty := by
  apply slot_eq_update
  · simp [evict, slot, Slot.empty]
  · intro other h
    simp [evict, slot, Std.ExtTreeMap.getElem?_erase, h]

/-- Marking the entries is the first half of invalidating. -/
private theorem slot_markStale :
    ({ cache with
        entries := cache.entries.modify document fun entry => { entry with stale := true } }
        : Cache).slot =
      Function.update cache.slot document (cache.slot document).markStale := by
  apply slot_eq_update
  · simp [slot, Slot.markStale]
  · intro other h
    simp [slot, Std.ExtTreeMap.getElem?_modify, h]

theorem slot_invalidateOne :
    (cache.invalidateOne document).1.slot =
      Function.update cache.slot document
        ((cache.slot document).invalidate (cache.lastGeneration + 1)) := by
  cases hflight : cache.flights[document]? with
  | some flight =>
    apply slot_eq_update
    · simp [invalidateOne, hflight, slot, Slot.invalidate, Slot.markStale]
    · intro other h
      simp [invalidateOne, hflight, slot, Std.ExtTreeMap.getElem?_insert,
        Std.ExtTreeMap.getElem?_modify, h]
  | none =>
    cases hentry : cache.entries[document]? with
    | none =>
      -- Modifying an absent entry leaves the table as it is.
      apply slot_eq_update
      · simp [invalidateOne, hflight, hentry, slot, Slot.invalidate,
          Std.ExtTreeMap.contains_eq_isSome_getElem?]
      · intro other h
        simp [invalidateOne, hflight, hentry, slot, Std.ExtTreeMap.getElem?_modify, h,
          Std.ExtTreeMap.contains_eq_isSome_getElem?]
    | some entry =>
      have hcontains : cache.entries.contains document = true := by
        simp [Std.ExtTreeMap.contains_eq_isSome_getElem?, hentry]
      simp only [invalidateOne, hflight, hcontains, if_true, slot_begin, slot_markStale,
        Function.update_self, Function.update_idem, Slot.invalidate, slot_flight, slot_entry,
        hentry, Option.isSome_some]

/-! ## Generations and options -/

/-- A query is begun by waiting when none is on its way. -/
theorem join_started (waiter : Waiter) :
    (cache.join document waiter).2 =
      if cache.flights[document]?.isSome then none else some (cache.lastGeneration + 1) := by
  cases hflight : cache.flights[document]? <;> simp [join, hflight, begin]

/-- A query is begun by invalidating when none is on its way and there is an
entry. -/
theorem invalidateOne_started :
    (cache.invalidateOne document).2 =
      if cache.flights[document]?.isNone ∧ cache.entries[document]?.isSome then
        some (cache.lastGeneration + 1)
      else none := by
  cases hflight : cache.flights[document]? <;> cases hentry : cache.entries[document]? <;>
    simp [invalidateOne, hflight, hentry, begin, Std.ExtTreeMap.contains_eq_isSome_getElem?]

theorem lastGeneration_join (waiter : Waiter) :
    (cache.join document waiter).1.lastGeneration =
      (cache.join document waiter).2.getD cache.lastGeneration := by
  cases hflight : cache.flights[document]? <;> simp [join, hflight, begin]

theorem lastGeneration_invalidateOne :
    (cache.invalidateOne document).1.lastGeneration =
      (cache.invalidateOne document).2.getD cache.lastGeneration := by
  cases hflight : cache.flights[document]? <;> cases hentry : cache.entries[document]? <;>
    simp [invalidateOne, hflight, hentry, begin, Std.ExtTreeMap.contains_eq_isSome_getElem?]

@[simp]
theorem options_join (waiter : Waiter) :
    (cache.join document waiter).1.options = cache.options := by
  cases hflight : cache.flights[document]? <;> simp [join, hflight, begin]

@[simp]
theorem options_invalidateOne :
    (cache.invalidateOne document).1.options = cache.options := by
  cases hflight : cache.flights[document]? <;> cases hentry : cache.entries[document]? <;>
    simp [invalidateOne, hflight, hentry, begin, Std.ExtTreeMap.contains_eq_isSome_getElem?]

/-! ## Taking in results -/

variable {cache document}

/-- A generation is that of the query on its way or it is not. -/
theorem current_or_other (cache : Cache) (document : Document) (generation : Nat) :
    (∃ flight, cache.flights[document]? = some flight ∧ flight.generation = generation) ∨
      ∀ flight, cache.flights[document]? = some flight → flight.generation ≠ generation := by
  by_cases hcurrent : ∃ flight, cache.flights[document]? = some flight ∧
      flight.generation = generation
  · exact Or.inl hcurrent
  · exact Or.inr fun flight hflight hsame => hcurrent ⟨flight, hflight, hsame⟩

/-- A result whose generation is not that of the query on its way changes
nothing. -/
theorem complete_of_not_current (gone : Waiter → Bool) {generation : Nat} (result : QueryResult)
    (hother : ∀ flight, cache.flights[document]? = some flight →
      flight.generation ≠ generation) :
    cache.complete gone document generation result = (cache, none) := by
  cases hflight : cache.flights[document]? with
  | none => simp [complete, hflight]
  | some flight => simp [complete, hflight, hother flight hflight]

/-- The cache when the query on its way has ended and before another follows. -/
private def landed (cache : Cache) (document : Document) (result : QueryResult) : Cache :=
  match cache.fresh? document result with
  | some settings =>
    ({ cache with flights := cache.flights.erase document } : Cache).store document settings
  | none => { cache with flights := cache.flights.erase document }

private theorem slot_landed (cache : Cache) (document : Document) (result : QueryResult) :
    (cache.landed document result).slot =
      Function.update cache.slot document
        ((cache.slot document).land (cache.fallback document) result) := by
  have hfresh : cache.fresh? document result =
      (cache.slot document).fresh? (cache.fallback document) result := by
    cases result with
    | ok answer => cases answer <;> rfl
    | error failure =>
      cases hentry : cache.entries[document]? <;> simp [fresh?, Slot.fresh?, hentry]
  unfold landed
  rw [hfresh]
  apply slot_eq_update
  · unfold Slot.land
    split <;> simp [slot, store, *]
  · intro other h
    split <;> simp [slot, store, Std.ExtTreeMap.getElem?_insert, Std.ExtTreeMap.getElem?_erase, h]

private theorem counters_landed (cache : Cache) (document : Document) (result : QueryResult) :
    (cache.landed document result).lastGeneration = cache.lastGeneration ∧
      (cache.landed document result).options = cache.options := by
  unfold landed
  split <;> exact ⟨rfl, rfl⟩

/-- Every caller that waited is sent the settings that are in place afterwards. -/
private theorem sent_landed (cache : Cache) (document : Document) (result : QueryResult)
    (waiters : List Waiter) :
    (match (cache.landed document result).entries[document]? with
      | some entry => waiters.map fun waiter => (waiter, entry.settings)
      | none => []) =
      waiters.map fun waiter =>
        (waiter, (cache.slot document).settled (cache.fallback document) result) := by
  obtain ⟨entry, hentry, hsettings⟩ :=
    (cache.slot document).land_entry (cache.fallback document) result
  have hself : (cache.landed document result).slot document =
      (cache.slot document).land (cache.fallback document) result := by
    rw [slot_landed, Function.update_self]
  have hfound : (cache.landed document result).entries[document]? = some entry := by
    rw [← slot_entry, hself, hentry]
  simp only [hfound, hsettings]

/-- What comes of the result of the query on its way: a query follows exactly
if one was asked for, and every caller that waited is sent the settings in place
afterwards. -/
def completion (cache : Cache) (gone : Waiter → Bool) (document : Document) (flight : Flight)
    (result : QueryResult) : Completion where
  changed :=
    cache.isChange document (cache.entries[document]?.map (·.settings))
      (cache.fresh? document result) (flight.fallbackServed || flight.waiters.any gone)
  requery := if flight.requery then some (cache.lastGeneration + 1) else none
  sent := flight.waiters.map fun waiter =>
    (waiter, (cache.slot document).settled (cache.fallback document) result)

private theorem complete_eq (gone : Waiter → Bool) {flight : Flight} (result : QueryResult)
    (hflight : cache.flights[document]? = some flight) :
    cache.complete gone document flight.generation result =
      if flight.requery then
        (((cache.landed document result).begin document []).1,
          some (cache.completion gone document flight result))
      else
        (cache.landed document result, some (cache.completion gone document flight result)) := by
  have hsent := sent_landed cache document result flight.waiters
  have hgone : flight.waiters.any gone =
      (flight.waiters.map fun waiter =>
        (waiter, (cache.slot document).settled (cache.fallback document) result)).any
          fun answer => gone answer.1 := by
    rw [List.any_map]
    rfl
  have hlast := (counters_landed cache document result).1
  unfold completion
  rw [hgone, ← hsent, ← hlast]
  unfold complete landed
  simp only [hflight, ne_eq, not_true_eq_false, if_false]
  cases cache.fresh? document result <;> by_cases hrequery : flight.requery = true <;>
    simp only [hrequery, if_true, if_false, Bool.false_eq_true] <;> rfl

/-- The result of the query on its way is taken in, and the slot changes as the
slot operation says. -/
theorem complete_of_current (gone : Waiter → Bool) {flight : Flight} (result : QueryResult)
    (hflight : cache.flights[document]? = some flight) :
    (cache.complete gone document flight.generation result).2 =
        some (cache.completion gone document flight result) ∧
      (cache.complete gone document flight.generation result).1.slot =
        Function.update cache.slot document
          ((cache.slot document).complete (cache.fallback document) (cache.lastGeneration + 1)
            result) ∧
      (cache.complete gone document flight.generation result).1.lastGeneration =
        (cache.completion gone document flight result).requery.getD cache.lastGeneration ∧
      (cache.complete gone document flight.generation result).1.options = cache.options := by
  obtain ⟨hlast, hoptions⟩ := counters_landed cache document result
  rw [complete_eq gone result hflight]
  by_cases hrequery : flight.requery = true
  · rw [if_pos hrequery]
    refine ⟨rfl, ?_, by simp [begin, hlast, completion, hrequery], hoptions⟩
    rw [slot_begin, slot_landed, Function.update_self, Function.update_idem, hlast]
    simp [Slot.complete, hflight, hrequery]
  · rw [if_neg hrequery]
    refine ⟨rfl, ?_, by simp [hlast, completion, hrequery], hoptions⟩
    rw [slot_landed]
    simp [Slot.complete, hflight, hrequery]

end Cache

end SettingsBroker
