/-
# What a document keeps

A document keeps its settings, in the entry and in the view, and everybody who waits
for it goes on waiting, unless a result is taken in or the document is forgotten.  Only
the stale mark, the course of queries and the number of waiting callers change.

`Cache.Advance` says how queries move on; this module adds what does not move.
-/

import SettingsBroker.Proofs.Cache.Waiters

namespace SettingsBroker

/-- A slot shows the same settings as before, and those who waited still wait. -/
structure Slot.Keeps (slot next : Slot) : Prop where
  /-- The settings of the entry are the same. -/
  settings : next.entry.map (·.settings) = slot.entry.map (·.settings)
  /-- The view shows the same. -/
  shown : next.shown = slot.shown
  /-- Nobody stops waiting. -/
  waiting : ∀ waiter ∈ slot.waiting, waiter ∈ next.waiting

namespace Slot.Keeps

variable {slot middle next : Slot}

theorem refl (slot : Slot) : slot.Keeps slot := ⟨rfl, rfl, fun _ => id⟩

theorem trans (first : slot.Keeps middle) (second : middle.Keeps next) : slot.Keeps next :=
  ⟨second.settings.trans first.settings, second.shown.trans first.shown,
    fun waiter hwaits => second.waiting waiter (first.waiting waiter hwaits)⟩

/-- Where no query is on its way nobody waits, so that one may begin. -/
theorem begin (idle : slot.flight = none) (generation : Nat) (waiters : List Waiter) :
    slot.Keeps (slot.begin generation waiters) :=
  ⟨rfl, rfl, by simp [Slot.waiting_of_idle idle]⟩

theorem join (slot : Slot) (generation : Nat) (waiter : Waiter) :
    slot.Keeps (slot.join generation waiter) := by
  unfold Slot.join
  split
  · next flight hflight => exact ⟨rfl, rfl, by simp +contextual [Slot.waiting, hflight]⟩
  · next hflight => exact .begin hflight generation [waiter]

theorem noteFallbackServed (slot : Slot) : slot.Keeps slot.noteFallbackServed :=
  ⟨rfl, rfl, by simp [Slot.waiting, Slot.noteFallbackServed, Function.comp_def]⟩

theorem markStale (slot : Slot) : slot.Keeps slot.markStale :=
  ⟨by simp [Slot.markStale, Function.comp_def], rfl, fun _ => id⟩

theorem invalidate (slot : Slot) (generation : Nat) :
    slot.Keeps (slot.invalidate generation) := by
  have hmarked := markStale slot
  unfold Slot.invalidate
  split
  · next flight hflight =>
    exact ⟨hmarked.settings, hmarked.shown, by simp [Slot.waiting, hflight]⟩
  · next hflight =>
    split
    · have hidle : slot.markStale.flight = none := hflight
      exact hmarked.trans (.begin hidle generation [])
    · exact refl slot

end Slot.Keeps

namespace Cache

/-- Every document keeps what it has. -/
def Keeps (before after : Cache) : Prop :=
  ∀ document, (before.slot document).Keeps (after.slot document)

namespace Keeps

variable {before middle after : Cache}

theorem refl (cache : Cache) : cache.Keeps cache := fun document => .refl (cache.slot document)

theorem trans (first : before.Keeps middle) (second : middle.Keeps after) : before.Keeps after :=
  fun document => (first document).trans (second document)

/-- An operation on one document keeps what all have if it does so there. -/
theorem of_update {document : Document} {slot : Slot}
    (hslot : after.slot = Function.update before.slot document slot)
    (hkeeps : (before.slot document).Keeps slot) : before.Keeps after := by
  intro other
  rw [hslot]
  by_cases hother : other = document
  · subst hother
    rwa [Function.update_self]
  · rw [Function.update_of_ne hother]
    exact .refl _

theorem join (cache : Cache) (document : Document) (waiter : Waiter) :
    cache.Keeps (cache.join document waiter).1 :=
  of_update (cache.slot_join document waiter) (.join _ _ waiter)

theorem noteFallbackServed (cache : Cache) (document : Document) :
    cache.Keeps (cache.noteFallbackServed document) :=
  of_update (cache.slot_noteFallbackServed document) (.noteFallbackServed _)

theorem invalidate (cache : Cache) (documents : List Document) :
    cache.Keeps (cache.invalidate documents).1 := by
  induction documents generalizing cache with
  | nil => exact refl cache
  | cons document rest ih =>
    have hfirst : cache.Keeps (cache.invalidateOne document).1 :=
      of_update (cache.slot_invalidateOne document) (.invalidate _ _)
    exact hfirst.trans (ih (cache.invalidateOne document).1)

theorem invalidateAll (cache : Cache) : cache.Keeps cache.invalidateAll.1 :=
  invalidate cache _

end Keeps

end Cache

end SettingsBroker
