/-
# How the cache moves on between results

As long as no result is taken in and nothing is forgotten, the cache only moves
on: a query that is on its way stays on its way, queries are begun where none
was, and a document without a query keeps its entry.  This module says exactly
how, in one relation that can be chained, so that what is true of single
operations is true of whatever the broker does with the cache in one step.

The relation also says which documents were touched, that is, invalidated: a
touched document is left with a query to come, or with nothing.
-/

import SettingsBroker.Proofs.Cache.Slot

namespace SettingsBroker

/-- How a slot moves on; the generations are those of the queries begun for it. -/
inductive Slot.Advance (touched : Prop) (slot next : Slot) : List Nat → Prop where
  | /-- A query stays on its way. -/
    carried {old new : Flight} (before : slot.flight = some old) (after : next.flight = some new)
      (same : new.generation = old.generation)
      (requery : new.requery = true ↔ old.requery = true ∨ touched) :
      Slot.Advance touched slot next []
  | /-- A query is begun. -/
    begun {new : Flight} (before : slot.flight = none) (after : next.flight = some new) :
      Slot.Advance touched slot next [new.generation]
  | /-- There is still no query, and the entry is the same. -/
    idle (before : slot.flight = none) (after : next.flight = none)
      (kept : next.entry = slot.entry) (absent : touched → slot.entry = none) :
      Slot.Advance touched slot next []

namespace Slot.Advance

variable {slot middle next : Slot} {touched again : Prop} {generations later : List Nat}

theorem refl (slot : Slot) : slot.Advance False slot [] := by
  cases hflight : slot.flight with
  | none => exact .idle hflight hflight rfl False.elim
  | some flight => exact .carried hflight hflight rfl (by simp)

/-- A query that was begun is carried afterwards, so that at most one is begun. -/
theorem trans (first : slot.Advance touched middle generations)
    (second : middle.Advance again next later) :
    slot.Advance (touched ∨ again) next (generations ++ later) := by
  cases first with
  | carried before between same requery =>
    cases second with
    | carried between' after same' requery' =>
      obtain rfl := Option.some.inj (between.symm.trans between')
      refine .carried before after (same'.trans same) ?_
      rw [requery', requery, or_assoc]
    | begun between' => cases between.symm.trans between'
    | idle between' => cases between.symm.trans between'
  | begun before between =>
    cases second with
    | carried between' after same' requery' =>
      obtain rfl := Option.some.inj (between.symm.trans between')
      rw [List.append_nil, ← same']
      exact .begun before after
    | begun between' => cases between.symm.trans between'
    | idle between' => cases between.symm.trans between'
  | idle before between kept absent =>
    cases second with
    | carried between' => cases between.symm.trans between'
    | begun between' after => exact .begun before after
    | idle between' after kept' absent' =>
      refine .idle before after (kept'.trans kept) ?_
      rintro (htouched | hagain)
      · exact absent htouched
      · rw [← kept]
        exact absent' hagain

theorem join (slot : Slot) (generation : Nat) (waiter : Waiter) :
    slot.Advance False (slot.join generation waiter)
      (if slot.flight.isSome then none else some generation).toList := by
  cases hflight : slot.flight with
  | none =>
    have hnext : (slot.join generation waiter).flight =
        some ⟨generation, [waiter], false, false⟩ := by
      simp [Slot.join, hflight, Slot.begin]
    exact .begun hflight hnext
  | some flight =>
    have hnext : (slot.join generation waiter).flight =
        some { flight with waiters := flight.waiters ++ [waiter] } := by
      simp [Slot.join, hflight]
    exact .carried hflight hnext rfl (by simp)

theorem noteFallbackServed (slot : Slot) : slot.Advance False slot.noteFallbackServed [] := by
  cases hflight : slot.flight with
  | none => exact .idle hflight (by simp [Slot.noteFallbackServed, hflight]) rfl False.elim
  | some flight =>
    have hnext : slot.noteFallbackServed.flight = some { flight with fallbackServed := true } := by
      simp [Slot.noteFallbackServed, hflight]
    exact .carried hflight hnext rfl (by simp)

/-- Invalidating touches: a query on its way will be followed by another, an
entry gets a query, and where there is neither, nothing happens. -/
theorem invalidate (slot : Slot) (generation : Nat) :
    slot.Advance True (slot.invalidate generation)
      (if slot.flight.isNone ∧ slot.entry.isSome then some generation else none).toList := by
  cases hflight : slot.flight with
  | some flight =>
    have hnext : (slot.invalidate generation).flight = some { flight with requery := true } := by
      simp [Slot.invalidate, hflight]
    simpa using carried hflight hnext rfl (by simp)
  | none =>
    cases hentry : slot.entry with
    | some entry =>
      have hnext : (slot.invalidate generation).flight =
          some ⟨generation, [], false, false⟩ := by
        simp [Slot.invalidate, hflight, hentry, Slot.begin]
      simpa using begun hflight hnext
    | none =>
      have hnext : slot.invalidate generation = slot := by
        simp [Slot.invalidate, hflight, hentry]
      rw [hnext]
      exact .idle hflight hflight rfl fun _ => hentry

theorem of_iff (h : slot.Advance touched next generations) (hiff : touched ↔ again) :
    slot.Advance again next generations := by
  rwa [← propext hiff]

/-- Where there is nothing to renew, it makes no difference whether the slot was
touched. -/
theorem of_absent (h : slot.Advance touched next generations) (hflight : slot.flight = none)
    (hentry : slot.entry = none) : slot.Advance again next generations := by
  cases h with
  | carried before => cases hflight.symm.trans before
  | begun before after => exact .begun before after
  | idle before after kept absent => exact .idle before after kept fun _ => hentry

end Slot.Advance

namespace Cache

/-- The generations of the queries begun for a document. -/
def generationsOf (started : List (Document × Nat)) (document : Document) : List Nat :=
  started.filterMap fun (other, generation) =>
    if other = document then some generation else none

/-- How a cache moves on; the queries are those that were begun, in order, and
their generations follow the last one given. -/
structure Advance (touched : Document → Prop) (before after : Cache)
    (started : List (Document × Nat)) : Prop where
  /-- Every slot moves on. -/
  slots : ∀ document, (before.slot document).Advance (touched document) (after.slot document)
    (generationsOf started document)
  /-- Generations are given in order. -/
  numbered : started.map Prod.snd = List.range' (before.lastGeneration + 1) started.length
  /-- The last generation given is counted. -/
  counted : after.lastGeneration = before.lastGeneration + started.length
  /-- Fallback settings are made from the same options. -/
  options : after.options = before.options

theorem generationsOf_append (started later : List (Document × Nat)) (document : Document) :
    generationsOf (started ++ later) document =
      generationsOf started document ++ generationsOf later document :=
  List.filterMap_append

theorem mem_generationsOf {started : List (Document × Nat)} {document : Document}
    {generation : Nat} :
    generation ∈ generationsOf started document ↔ (document, generation) ∈ started := by
  simp [generationsOf]

namespace Advance

variable {before middle after : Cache} {touched again : Document → Prop}
  {started later : List (Document × Nat)}

theorem refl (cache : Cache) : cache.Advance (fun _ => False) cache [] where
  slots := fun document => .refl (cache.slot document)
  numbered := rfl
  counted := rfl
  options := rfl

theorem trans (first : before.Advance touched middle started)
    (second : middle.Advance again after later) :
    before.Advance (fun document => touched document ∨ again document) after
      (started ++ later) where
  slots := fun document => by
    rw [generationsOf_append]
    exact (first.slots document).trans (second.slots document)
  numbered := by
    rw [List.map_append, first.numbered, second.numbered, first.counted, List.length_append,
      ← List.range'_append_1]
    congr 2
    omega
  counted := by
    rw [second.counted, first.counted, List.length_append, Nat.add_assoc]
  options := second.options.trans first.options

/-- The generations of the queries that are begun lie between the last ones given
before and after. -/
theorem generation_mem (h : before.Advance touched after started) {document : Document}
    {generation : Nat} (hstarted : (document, generation) ∈ started) :
    before.lastGeneration < generation ∧ generation ≤ after.lastGeneration := by
  have hmem : generation ∈ started.map Prod.snd := List.mem_map_of_mem hstarted
  rw [h.numbered, List.mem_range'_1] at hmem
  rw [h.counted]
  omega

/-- Only what is known of the touched documents matters. -/
theorem of_iff (h : before.Advance touched after started)
    (hiff : ∀ document, touched document ↔ again document) :
    before.Advance again after started where
  slots := fun document => (h.slots document).of_iff (hiff document)
  numbered := h.numbered
  counted := h.counted
  options := h.options

/-- An operation on one document moves the cache on if it moves that slot on and
begins at most one query, with the next generation. -/
theorem of_update {document : Document} {slot : Slot} {started : Option Nat} {touched : Prop}
    (hslot : after.slot = Function.update before.slot document slot)
    (hadvance : (before.slot document).Advance touched slot started.toList)
    (hstarted : ∀ generation, started = some generation →
      generation = before.lastGeneration + 1)
    (hlast : after.lastGeneration = started.getD before.lastGeneration)
    (hoptions : after.options = before.options) :
    before.Advance (fun other => other = document ∧ touched) after
      (started.map fun generation => (document, generation)).toList := by
  refine ⟨?_, ?_, ?_, hoptions⟩
  · intro other
    rw [hslot]
    by_cases hother : other = document
    · subst hother
      rw [Function.update_self]
      have hgenerations : generationsOf
          (started.map fun generation => (other, generation)).toList other = started.toList := by
        cases started <;> simp [generationsOf]
      rw [hgenerations]
      exact hadvance.of_iff (by simp)
    · rw [Function.update_of_ne hother]
      have hgenerations : generationsOf
          (started.map fun generation => (document, generation)).toList other = [] := by
        cases started <;> simp [generationsOf, Ne.symm hother]
      rw [hgenerations]
      exact (Slot.Advance.refl _).of_iff (by simp [hother])
  · cases hcase : started with
    | none => rfl
    | some generation => simp [hstarted generation hcase]
  · cases hcase : started with
    | none => simp [hlast, hcase]
    | some generation => simp [hlast, hcase, hstarted generation hcase]

theorem join (cache : Cache) (document : Document) (waiter : Waiter) :
    cache.Advance (fun _ => False) (cache.join document waiter).1
      ((cache.join document waiter).2.map fun generation => (document, generation)).toList := by
  have hstarted := cache.join_started document waiter
  have hslot : (cache.slot document).Advance False
      ((cache.slot document).join (cache.lastGeneration + 1) waiter)
      (cache.join document waiter).2.toList := by
    rw [hstarted]
    exact Slot.Advance.join (cache.slot document) (cache.lastGeneration + 1) waiter
  have hnumber : ∀ generation, (cache.join document waiter).2 = some generation →
      generation = cache.lastGeneration + 1 := by
    intro generation hgeneration
    rw [hstarted] at hgeneration
    split at hgeneration
    · cases hgeneration
    · exact (Option.some.inj hgeneration).symm
  have hupdate := of_update (cache.slot_join document waiter) hslot hnumber
    (cache.lastGeneration_join document waiter) (cache.options_join document waiter)
  exact hupdate.of_iff (by simp)

theorem noteFallbackServed (cache : Cache) (document : Document) :
    cache.Advance (fun _ => False) (cache.noteFallbackServed document) [] := by
  have hslot : (cache.slot document).Advance False (cache.slot document).noteFallbackServed
      (none : Option Nat).toList := Slot.Advance.noteFallbackServed (cache.slot document)
  have hupdate := of_update (cache.slot_noteFallbackServed document) hslot (by simp) rfl rfl
  exact hupdate.of_iff (by simp)

theorem invalidateOne (cache : Cache) (document : Document) :
    cache.Advance (· = document) (cache.invalidateOne document).1
      ((cache.invalidateOne document).2.map fun generation => (document, generation)).toList := by
  have hstarted := cache.invalidateOne_started document
  have hslot : (cache.slot document).Advance True
      ((cache.slot document).invalidate (cache.lastGeneration + 1))
      (cache.invalidateOne document).2.toList := by
    rw [hstarted]
    exact Slot.Advance.invalidate (cache.slot document) (cache.lastGeneration + 1)
  have hnumber : ∀ generation, (cache.invalidateOne document).2 = some generation →
      generation = cache.lastGeneration + 1 := by
    intro generation hgeneration
    rw [hstarted] at hgeneration
    split at hgeneration
    · exact (Option.some.inj hgeneration).symm
    · cases hgeneration
  have hupdate := of_update (cache.slot_invalidateOne document) hslot hnumber
    (cache.lastGeneration_invalidateOne document) (cache.options_invalidateOne document)
  exact hupdate.of_iff (by simp)

theorem invalidate (cache : Cache) (documents : List Document) :
    cache.Advance (· ∈ documents) (cache.invalidate documents).1
      (cache.invalidate documents).2 := by
  induction documents generalizing cache with
  | nil => exact (refl cache).of_iff (by simp)
  | cons document rest ih =>
    have hrest := (invalidateOne cache document).trans (ih (cache.invalidateOne document).1)
    exact hrest.of_iff (by simp)

/-- Invalidating everything touches every document: one that is not listed has
neither an entry nor a query. -/
theorem invalidateAll (cache : Cache) :
    cache.Advance (fun _ => True) cache.invalidateAll.1 cache.invalidateAll.2 := by
  have hlisted := invalidate cache (cache.entries.keys ++ cache.flights.keys)
  refine ⟨fun document => ?_, hlisted.numbered, hlisted.counted, hlisted.options⟩
  have hslot := hlisted.slots document
  by_cases hmem : document ∈ cache.entries.keys ++ cache.flights.keys
  · exact hslot.of_iff (iff_true_intro hmem)
  · have habsent : cache.entries[document]? = none ∧ cache.flights[document]? = none := by
      simpa using hmem
    exact hslot.of_absent habsent.2 habsent.1

end Advance

end Cache

end SettingsBroker
