/-
# What becomes of waiting callers

A caller that waits for a document is held by the query on its way until that
query's result is taken in, which answers it, or the document is forgotten,
which leaves it without an answer.  This module keeps the books: however the
operations are mixed, nobody who waits is lost, answered twice or answered for
another document.

Two facts carry the books.  Beginning a query never displaces one that is on its
way, so that no list of waiting callers is dropped on the side; and a result
that is taken in always leaves an entry, so that there is something to answer
with even when the query has failed.
-/

import Mathlib.Data.List.Nodup
import SettingsBroker.Proofs.Cache.History

namespace SettingsBroker

namespace CacheEvent

/-- The caller that began to wait in an event. -/
def joiner? : CacheEvent → Option Waiter
  | .joined waiter => some waiter
  | _ => none

/-- The callers that began to wait, in order. -/
def joiners (events : List CacheEvent) : List Waiter :=
  events.filterMap joiner?

/-- The answers that were sent, in order. -/
def answers (events : List CacheEvent) : List (Waiter × BuildSettings) :=
  events.filterMap fun
    | .sent waiter settings _ => some (waiter, settings)
    | _ => none

/-- The callers that were left without an answer, in order. -/
def abandoned (events : List CacheEvent) : List Waiter :=
  events.filterMap fun
    | .closed waiter => some waiter
    | _ => none

variable (events later : List CacheEvent)

@[simp]
theorem joiners_append : joiners (events ++ later) = joiners events ++ joiners later :=
  List.filterMap_append

@[simp]
theorem answers_append : answers (events ++ later) = answers events ++ answers later :=
  List.filterMap_append

@[simp]
theorem abandoned_append : abandoned (events ++ later) = abandoned events ++ abandoned later :=
  List.filterMap_append

variable (waiters : List Waiter)

/-- Taking in a result answers every caller and does nothing else to callers. -/
theorem answers_landing (generation : Nat) (result : QueryResult) (followUp : Option Nat)
    (settings : BuildSettings) (lost : Waiter → Bool) :
    answers (accepted generation result followUp ::
      waiters.map fun waiter => sent waiter settings (lost waiter)) =
      waiters.map (·, settings) := by
  simp [answers, List.filterMap_map]

theorem joiners_landing (generation : Nat) (result : QueryResult) (followUp : Option Nat)
    (settings : BuildSettings) (lost : Waiter → Bool) :
    joiners (accepted generation result followUp ::
      waiters.map fun waiter => sent waiter settings (lost waiter)) = [] := by
  simp [joiners, joiner?]

theorem abandoned_landing (generation : Nat) (result : QueryResult) (followUp : Option Nat)
    (settings : BuildSettings) (lost : Waiter → Bool) :
    abandoned (accepted generation result followUp ::
      waiters.map fun waiter => sent waiter settings (lost waiter)) = [] := by
  simp [abandoned, List.filterMap_map]

/-- Forgetting leaves every caller without an answer and does nothing else to
callers. -/
theorem abandoned_closing : abandoned (waiters.map closed ++ [evicted]) = waiters := by
  simp [abandoned, List.filterMap_map]

theorem joiners_closing : joiners (waiters.map closed ++ [evicted]) = [] := by
  simp [joiners, joiner?, List.filterMap_map]

theorem answers_closing : answers (waiters.map closed ++ [evicted]) = [] := by
  simp [answers, List.filterMap_map]

end CacheEvent

open CacheEvent

/-- The callers that wait for the query on its way. -/
def Slot.waiting (slot : Slot) : List Waiter :=
  (slot.flight.map (·.waiters)).getD []

theorem Slot.waiting_of_flight {slot : Slot} {flight : Flight} (h : slot.flight = some flight) :
    slot.waiting = flight.waiters := by
  rw [waiting, h]
  rfl

theorem Slot.waiting_of_idle {slot : Slot} (h : slot.flight = none) : slot.waiting = [] := by
  rw [waiting, h]
  rfl

/-- What the view shows follows the entry when a result is taken in. -/
theorem Slot.land_shown {slot : Slot} (h : slot.shown = slot.entry.map (·.settings))
    (fallback : BuildSettings) (result : QueryResult) :
    (slot.land fallback result).shown =
      (slot.land fallback result).entry.map (·.settings) := by
  unfold land
  split
  · rfl
  · exact h

variable {fallback : BuildSettings} {n : Nat} {slot : Slot} {events : List CacheEvent}

/-- How often a caller began to wait is how often it is waiting, was answered or
was left without an answer. -/
def Balanced (waiter : Waiter) (slot : Slot) (events : List CacheEvent) : Prop :=
  (joiners events).count waiter =
    slot.waiting.count waiter + ((answers events).map Prod.fst).count waiter +
      (abandoned events).count waiter

/-- The books still balance when those who began to wait are waiting and those
who no longer wait were answered or left without an answer. -/
theorem Balanced.append {waiter : Waiter} {next : Slot} {later : List CacheEvent}
    (h : Balanced waiter slot events)
    (hlater : slot.waiting.count waiter + (joiners later).count waiter =
      next.waiting.count waiter + ((answers later).map Prod.fst).count waiter +
        (abandoned later).count waiter) :
    Balanced waiter next (events ++ later) := by
  unfold Balanced at h ⊢
  simp only [joiners_append, answers_append, abandoned_append, List.map_append,
    List.count_append]
  omega

/-- The books of one document balance at every moment of its life. -/
theorem Life.balanced (life : Life fallback n slot events) (waiter : Waiter) :
    Balanced waiter slot events := by
  induction life with
  | start => rfl
  | elsewhere life grown ih => exact ih
  | joined other life running ih =>
    apply ih.append
    rw [Slot.waiting_of_flight running]
    simp [joiners, joiner?, answers, abandoned, Slot.waiting]
  | asked other life idle ih =>
    apply ih.append
    rw [Slot.waiting_of_idle idle]
    simp [joiners, joiner?, List.filterMap_cons, answers, abandoned, Slot.waiting, Slot.begin]
  | landed result hasGone life running valid ih =>
    apply ih.append
    rw [joiners_landing, answers_landing, abandoned_landing, Slot.waiting_of_flight running,
      Slot.waiting_of_idle (Slot.land_flight _ _ _)]
    simp [Function.comp_def]
  | followed result hasGone life running invalid ih =>
    rw [List.append_assoc]
    apply ih.append
    rw [joiners_append, answers_append, abandoned_append, joiners_landing, answers_landing,
      abandoned_landing, Slot.waiting_of_flight running]
    simp [joiners, joiner?, List.filterMap_cons, answers, abandoned, Slot.waiting, Slot.begin,
      Function.comp_def]
  | refused generation life other ih =>
    apply ih.append
    simp [joiners, joiner?, List.filterMap_cons, answers, abandoned]
  | outdated life running ih =>
    apply ih.append
    rw [Slot.waiting_of_flight running]
    simp [joiners, joiner?, List.filterMap_cons, answers, abandoned, Slot.waiting]
  | renewed life idle cached ih =>
    apply ih.append
    rw [Slot.waiting_of_idle idle]
    simp [joiners, joiner?, List.filterMap_cons, answers, abandoned, Slot.waiting, Slot.begin]
  | ignored life idle absent ih =>
    apply ih.append
    simp [joiners, joiner?, List.filterMap_cons, answers, abandoned]
  | noted life ih =>
    unfold Balanced at ih ⊢
    simpa [Slot.waiting, Slot.noteFallbackServed, Function.comp_def] using ih
  | evicted life ih =>
    apply ih.append
    rw [joiners_closing, answers_closing, abandoned_closing]
    simp [Slot.waiting, Slot.empty]

/-- The view shows the settings of the entry. -/
theorem Life.shown_eq (life : Life fallback n slot events) :
    slot.shown = slot.entry.map (·.settings) := by
  induction life with
  | start => rfl
  | elsewhere life grown ih => exact ih
  | joined other life running ih => exact ih
  | asked other life idle ih => exact ih
  | landed result hasGone life running valid ih => exact Slot.land_shown ih _ _
  | followed result hasGone life running invalid ih => exact Slot.land_shown ih _ _
  | refused generation life other ih => exact ih
  | outdated life running ih => simpa [Slot.markStale, Function.comp_def] using ih
  | renewed life idle cached ih => simpa [Slot.markStale, Slot.begin, Function.comp_def] using ih
  | ignored life idle absent ih => exact ih
  | noted life ih => exact ih
  | evicted life ih => rfl

/-! ## Who was given to wait -/

namespace History

/-- The caller that an operation gives to wait, with its document. -/
def given? : CacheOp → Option (Document × Waiter)
  | .join document waiter => some (document, waiter)
  | _ => none

/-- The caller that began to wait in an event, with its document. -/
def joined? (event : Document × CacheEvent) : Option (Document × Waiter) :=
  (joiner? event.2).map (event.1, ·)

/-- Every caller is given to wait once: what it gives is its own end of a channel,
which it cannot give again. -/
def GivenOnce (ops : List CacheOp) : Prop :=
  ((ops.filterMap given?).map Prod.snd).Nodup

instance (ops : List CacheOp) : Decidable (GivenOnce ops) :=
  inferInstanceAs (Decidable (List.Nodup _))

/-- What can happen to a document in an operation, and to whom it happens. -/
inductive Happens (h : History) : CacheOp → Document → CacheEvent → Prop where
  | /-- A caller begins to wait where it was given. -/
    joined {document : Document} {waiter : Waiter} :
      Happens h (.join document waiter) document (.joined waiter)
  | /-- A query is begun. -/
    began {op : CacheOp} {document : Document} {generation : Nat} :
      Happens h op document (.began generation)
  | /-- A document is invalidated. -/
    invalidated {op : CacheOp} {document : Document} : Happens h op document .invalidated
  | /-- A result is dropped. -/
    refused {document : Document} {generation : Nat} {result : QueryResult} :
      Happens h (.complete document generation result) document (.refused generation)
  | /-- The result of the query on its way is taken in. -/
    accepted {document : Document} {flight : Flight} {result : QueryResult}
      {followUp : Option Nat} (running : h.cache.flights[document]? = some flight) :
      Happens h (.complete document flight.generation result) document
        (.accepted flight.generation result followUp)
  | /-- A caller that waits for the query on its way is sent the settled settings. -/
    sent {document : Document} {flight : Flight} {result : QueryResult} {waiter : Waiter}
      (running : h.cache.flights[document]? = some flight) (waits : waiter ∈ flight.waiters) :
      Happens h (.complete document flight.generation result) document
        (.sent waiter ((h.cache.slot document).settled (h.cache.fallback document) result)
          (h.hasGone waiter))
  | /-- A caller is left without an answer when its document is forgotten. -/
    closed {document : Document} {waiter : Waiter} :
      Happens h (.evict document) document (.closed waiter)
  | /-- A document is forgotten. -/
    evicted {document : Document} : Happens h (.evict document) document .evicted

theorem happens_of_mem_begun {h : History} {op : CacheOp} {document : Document}
    {generation : Option Nat} {event : CacheEvent} (hmem : event ∈ begun generation) :
    h.Happens op document event := by
  cases generation with
  | none => simp [begun] at hmem
  | some number =>
    obtain rfl : event = .began number := by simpa [begun] using hmem
    exact .began

theorem happens_of_mem_invalidations {h : History} {op : CacheOp} {cache : Cache}
    {documents : List Document} {document : Document} {event : CacheEvent}
    (hmem : (document, event) ∈ invalidations cache documents) : h.Happens op document event := by
  induction documents generalizing cache with
  | nil => simp [invalidations] at hmem
  | cons first rest ih =>
    rw [invalidations, List.mem_append] at hmem
    rcases hmem with hfirst | hrest
    · simp only [List.mem_map, List.mem_cons, Prod.mk.injEq] at hfirst
      obtain ⟨found, rfl | hbegun, rfl, rfl⟩ := hfirst
      · exact .invalidated
      · exact happens_of_mem_begun hbegun
    · exact ih hrest

/-- Nothing else is among the events of an operation. -/
theorem happens_of_mem {h : History} {op : CacheOp} {document : Document} {event : CacheEvent}
    (hmem : (document, event) ∈ (h.outcome op).2) : h.Happens op document event := by
  cases op with
  | join asked waiter =>
    simp only [outcome, List.mem_map, List.mem_cons, Prod.mk.injEq] at hmem
    obtain ⟨found, rfl | hbegun, rfl, rfl⟩ := hmem
    · exact .joined
    · exact happens_of_mem_begun hbegun
  | complete asked generation result =>
    rcases h.cache.current_or_other asked generation with ⟨flight, hflight, rfl⟩ | hother
    · rw [outcome_complete_of_current result hflight] at hmem
      simp only [List.mem_map, List.mem_append, List.mem_cons, Prod.mk.injEq] at hmem
      obtain ⟨found, (rfl | ⟨waiter, hwaiter, rfl⟩) | hbegun, rfl, rfl⟩ := hmem
      · exact .accepted hflight
      · exact .sent hflight hwaiter
      · exact happens_of_mem_begun hbegun
    · rw [outcome_complete_of_not_current result hother] at hmem
      simp only [List.mem_singleton, Prod.mk.injEq] at hmem
      obtain ⟨rfl, rfl⟩ := hmem
      exact .refused
  | invalidate documents => exact happens_of_mem_invalidations hmem
  | invalidateAll => exact happens_of_mem_invalidations hmem
  | noteFallbackServed asked => simp [outcome] at hmem
  | evict asked =>
    simp only [outcome, List.map_append, List.map_map, List.mem_append, List.mem_map,
      List.mem_singleton, List.map_cons, List.map_nil, Function.comp_apply, Prod.mk.injEq] at hmem
    obtain ⟨waiter, -, rfl, rfl⟩ | ⟨rfl, rfl⟩ := hmem
    · exact .closed
    · exact .evicted
  | hangUp waiter => simp [outcome] at hmem

/-- An operation lets exactly those callers wait that it is given. -/
theorem filterMap_joined_outcome (h : History) (op : CacheOp) :
    (h.outcome op).2.filterMap joined? = (given? op).toList := by
  by_cases hjoin : ∃ document waiter, op = .join document waiter
  · obtain ⟨document, waiter, rfl⟩ := hjoin
    cases hstarted : (h.cache.join document waiter).2 <;>
      simp [outcome, hstarted, begun, joined?, joiner?, given?]
  · have hgiven : given? op = none := by
      cases op with
      | join document waiter => exact absurd ⟨document, waiter, rfl⟩ hjoin
      | _ => rfl
    rw [hgiven, Option.toList_none, List.filterMap_eq_nil_iff]
    rintro ⟨document, event⟩ hmem
    cases happens_of_mem hmem with
    | joined => exact absurd ⟨_, _, rfl⟩ hjoin
    | _ => rfl

/-- The callers that began to wait are those that were given. -/
theorem filterMap_joined_after (options : FallbackOptions) (ops : List CacheOp) :
    (after options ops).events.filterMap joined? = ops.filterMap given? := by
  have hfold : ∀ h : History, (ops.foldl perform h).events.filterMap joined? =
      h.events.filterMap joined? ++ ops.filterMap given? := by
    induction ops with
    | nil => simp
    | cons op ops ih =>
      intro h
      rw [List.foldl_cons, ih, perform_events, List.filterMap_append, filterMap_joined_outcome,
        List.append_assoc]
      cases hgiven : given? op <;> simp [hgiven]
  exact hfold (start options)

/-- A caller waits at a document as often as it was given there. -/
theorem count_joiners_about (options : FallbackOptions) (ops : List CacheOp)
    (document : Document) (waiter : Waiter) :
    (joiners ((after options ops).about document)).count waiter =
      (ops.filterMap given?).count (document, waiter) := by
  rw [← filterMap_joined_after options ops]
  unfold about
  induction (after options ops).events with
  | nil => rfl
  | cons event events ih =>
    obtain ⟨found, event⟩ := event
    unfold joiners at ih ⊢
    by_cases hfound : found = document <;> cases hjoiner : joiner? event <;>
      simp [joined?, hfound, hjoiner, List.count_cons, ih]

/-- Where a caller stands with a document: how often it waits for the query on
its way, was sent an answer and was left without one. -/
@[ext]
structure Standing where
  /-- How often the caller waits. -/
  waiting : Nat
  /-- How often the caller was sent an answer. -/
  answered : Nat
  /-- How often the caller was left without an answer. -/
  abandoned : Nat
  deriving DecidableEq, Repr

/-- Where a caller stands with a document in a history. -/
def standing (h : History) (document : Document) (waiter : Waiter) : Standing where
  waiting := (h.cache.waiting document).count waiter
  answered := ((answers (h.about document)).map Prod.fst).count waiter
  abandoned := (CacheEvent.abandoned (h.about document)).count waiter

/-- The three ways to stand add up to how often the caller was given. -/
theorem standing_sum (options : FallbackOptions) (ops : List CacheOp) (document : Document)
    (waiter : Waiter) :
    ((after options ops).standing document waiter).waiting +
        ((after options ops).standing document waiter).answered +
        ((after options ops).standing document waiter).abandoned =
      (ops.filterMap given?).count (document, waiter) := by
  rw [← count_joiners_about options]
  exact ((lives_after options ops document).balanced waiter).symm

/-- The caller waits. -/
def Standing.held : Standing := ⟨1, 0, 0⟩

/-- The caller was sent one answer. -/
def Standing.served : Standing := ⟨0, 1, 0⟩

/-- The caller was left without an answer. -/
def Standing.forsaken : Standing := ⟨0, 0, 1⟩

/-- The caller has nothing to do with the document. -/
def Standing.stranger : Standing := ⟨0, 0, 0⟩

/-- A caller that is given once stands one way with its document and has nothing
to do with any other. -/
theorem standing_of_givenOnce {ops : List CacheOp} (once : GivenOnce ops)
    (options : FallbackOptions) {document : Document} {waiter : Waiter}
    (hgiven : (document, waiter) ∈ ops.filterMap given?) :
    ((after options ops).standing document waiter = .held ∨
        (after options ops).standing document waiter = .served ∨
        (after options ops).standing document waiter = .forsaken) ∧
      ∀ other, other ≠ document → (after options ops).standing other waiter = .stranger := by
  have hpairs : (ops.filterMap given?).Nodup := once.of_map Prod.snd
  constructor
  · have hsum := standing_sum options ops document waiter
    rw [List.count_eq_one_of_mem hpairs hgiven] at hsum
    simp only [Standing.ext_iff, Standing.held, Standing.served, Standing.forsaken]
    omega
  · intro other hother
    have habsent : (other, waiter) ∉ ops.filterMap given? := by
      intro hmem
      have hsame := List.inj_on_of_nodup_map once hmem hgiven rfl
      exact hother (congrArg Prod.fst hsame)
    have hsum := standing_sum options ops other waiter
    rw [List.count_eq_zero_of_not_mem habsent] at hsum
    simp only [Standing.ext_iff, Standing.stranger]
    omega

/-! ## Who is answered, and with what -/

/-- A result that is taken in leaves the settled settings in the entry and in
the view. -/
theorem settled_of_current {h : History} {document : Document} {flight : Flight}
    (hlives : h.Lives) (hflight : h.cache.flights[document]? = some flight)
    (result : QueryResult) :
    let next := (h.perform (.complete document flight.generation result)).cache
    let settings := (h.cache.slot document).settled (h.cache.fallback document) result
    (∃ entry, next.entries[document]? = some entry ∧ entry.settings = settings) ∧
      next.view[document]? = some settings := by
  intro next settings
  obtain ⟨-, hslot, -, -⟩ := Cache.complete_of_current h.hasGone result hflight
  have hnext : next.slot document = (h.cache.slot document).complete (h.cache.fallback document)
      (h.cache.lastGeneration + 1) result := by
    have hcache : next = (h.cache.complete h.hasGone document flight.generation result).1 := by
      simp only [next, perform_cache, outcome_complete_of_current result hflight]
    rw [hcache, hslot, Function.update_self]
  obtain ⟨entry, hentry, hsettings⟩ :=
    (h.cache.slot document).land_entry (h.cache.fallback document) result
  have hstored : next.entries[document]? = some entry := by
    rw [← Cache.slot_entry, hnext]
    unfold Slot.complete
    split
    · exact hentry
    · exact hentry
  refine ⟨⟨entry, hstored, hsettings⟩, ?_⟩
  have hshown := (hlives.perform (.complete document flight.generation result) document).shown_eq
  rw [Cache.slot_shown, Cache.slot_entry, hstored, Option.map_some, hsettings] at hshown
  exact hshown

/-- An answer is sent only where a result is taken in, to a caller that waits for
it, with the settings that are in place afterwards. -/
theorem sent_spec {h : History} (hlives : h.Lives) {op : CacheOp} {document : Document}
    {waiter : Waiter} {settings : BuildSettings} {lost : Bool}
    (hmem : (document, .sent waiter settings lost) ∈ (h.outcome op).2) :
    (∃ generation result followUp, op = .complete document generation result ∧
        (document, .accepted generation result followUp) ∈ (h.outcome op).2) ∧
      waiter ∈ h.cache.waiting document ∧ lost = h.hasGone waiter ∧
      (∃ entry, (h.perform op).cache.entries[document]? = some entry ∧
        entry.settings = settings) ∧
      (h.perform op).cache.view[document]? = some settings := by
  cases happens_of_mem hmem with
  | @sent _ flight result _ running waits =>
    obtain ⟨hentry, hview⟩ := settled_of_current hlives running result
    refine ⟨⟨flight.generation, result,
      if flight.requery then some (h.cache.lastGeneration + 1) else none, rfl, ?_⟩, ?_, rfl,
      hentry, hview⟩
    · rw [outcome_complete_of_current result running]
      exact List.mem_cons_self
    · rw [Cache.waiting, running]
      exact waits

/-- Only forgetting a document leaves callers without an answer. -/
theorem closed_spec {h : History} {op : CacheOp} {document : Document} {waiter : Waiter}
    (hmem : (document, .closed waiter) ∈ (h.outcome op).2) : op = .evict document := by
  cases happens_of_mem hmem with
  | closed => rfl

/-- Taking in a result answers every caller that waits. -/
theorem accepted_spec {h : History} {op : CacheOp} {document : Document} {generation : Nat}
    {result : QueryResult} {followUp : Option Nat}
    (hmem : (document, .accepted generation result followUp) ∈ (h.outcome op).2) :
    op = .complete document generation result ∧
      ∀ waiter ∈ h.cache.waiting document, ∃ settings lost,
        (document, .sent waiter settings lost) ∈ (h.outcome op).2 := by
  cases happens_of_mem hmem with
  | accepted running =>
    refine ⟨rfl, fun waiter hwaiter =>
      ⟨(h.cache.slot document).settled (h.cache.fallback document) result,
        h.hasGone waiter, ?_⟩⟩
    rw [Cache.waiting, running] at hwaiter
    rw [outcome_complete_of_current result running]
    exact List.mem_map_of_mem (List.mem_append_left _
      (List.mem_cons_of_mem _ (List.mem_map_of_mem hwaiter)))

/-- No caller is lost, answered twice or answered for another document.  In every
history in which a caller is given once, it stands one way with its document and
has nothing to do with others.  An answer is sent only where a result is taken
in, with the settings that are then in the entry and in the view, and is lost if
the caller had gone away; only forgetting a document leaves a caller without one;
and taking in a result answers everybody who waits. -/
theorem callers_accounted_for (options : FallbackOptions) (ops : List CacheOp)
    (once : GivenOnce ops) :
    (∀ document waiter, (document, waiter) ∈ ops.filterMap given? →
      ((after options ops).standing document waiter = .held ∨
        (after options ops).standing document waiter = .served ∨
        (after options ops).standing document waiter = .forsaken) ∧
      ∀ other, other ≠ document → (after options ops).standing other waiter = .stranger) ∧
    (∀ op document waiter settings lost,
      (document, .sent waiter settings lost) ∈ ((after options ops).outcome op).2 →
      (∃ generation result followUp, op = .complete document generation result ∧
        (document, .accepted generation result followUp) ∈ ((after options ops).outcome op).2) ∧
      waiter ∈ (after options ops).cache.waiting document ∧
      lost = (after options ops).hasGone waiter ∧
      (∃ entry, ((after options ops).perform op).cache.entries[document]? = some entry ∧
        entry.settings = settings) ∧
      ((after options ops).perform op).cache.view[document]? = some settings) ∧
    (∀ op document waiter,
      (document, .closed waiter) ∈ ((after options ops).outcome op).2 → op = .evict document) ∧
    ∀ op document generation result followUp,
      (document, .accepted generation result followUp) ∈ ((after options ops).outcome op).2 →
      op = .complete document generation result ∧
      ∀ waiter ∈ (after options ops).cache.waiting document, ∃ settings lost,
        (document, .sent waiter settings lost) ∈ ((after options ops).outcome op).2 := by
  refine ⟨?_, ?_, ?_, ?_⟩
  · intro document waiter hgiven
    exact standing_of_givenOnce once options hgiven
  · intro op document waiter settings lost hmem
    exact sent_spec (lives_after options ops) hmem
  · intro op document waiter hmem
    exact closed_spec hmem
  · intro op document generation result followUp hmem
    exact accepted_spec hmem

/-- Two callers wait for one document, the second of them goes away, and the
query fails; a third waits for a document that is forgotten, and a fourth goes on
waiting. -/
def gatheringCallers : List CacheOp :=
  [.join ⟨"file:///a.c"⟩ 1, .join ⟨"file:///a.c"⟩ 2, .join ⟨"file:///b.c"⟩ 3, .hangUp 2,
    .complete ⟨"file:///a.c"⟩ 1 (.error (.backend "no answer")), .evict ⟨"file:///b.c"⟩,
    .join ⟨"file:///b.c"⟩ 4]

theorem callers_accounted_for_gathering :
    GivenOnce gatheringCallers ∧
      (after .empty gatheringCallers).standing ⟨"file:///a.c"⟩ 1 = .served ∧
      (after .empty gatheringCallers).standing ⟨"file:///a.c"⟩ 2 = .served ∧
      (after .empty gatheringCallers).standing ⟨"file:///b.c"⟩ 3 = .forsaken ∧
      (after .empty gatheringCallers).standing ⟨"file:///b.c"⟩ 4 = .held ∧
      (after .empty gatheringCallers).standing ⟨"file:///a.c"⟩ 3 = .stranger := by
  have once : GivenOnce gatheringCallers := by decide +kernel
  obtain ⟨hstanding, -⟩ := callers_accounted_for .empty gatheringCallers once
  have hstranger := (hstanding ⟨"file:///b.c"⟩ 3 (by decide +kernel)).2 ⟨"file:///a.c"⟩ (by decide)
  exact ⟨once, by decide +kernel, by decide +kernel, by decide +kernel, by decide +kernel,
    hstranger⟩

end History

end SettingsBroker
