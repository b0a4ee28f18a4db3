/-
# Histories of the cache

A history is a cache together with everything that has happened to it so far,
event by event.  It is driven by a list of operations, in any order and with any
arguments; the cache is changed by the operations of the cache themselves, and
the events are only a record beside it.

The central fact is that a history can be read document by document.  What has
happened to one document is a life: a run of a small machine on its slot, for
which all other documents are no more than a generation counter that moves on.
Properties of every history are therefore proved by induction on lives.
-/

import SettingsBroker.Proofs.Cache.Slot

namespace SettingsBroker

/-- What can be done to the cache, and callers that go away. -/
inductive CacheOp where
  /-- A caller waits for the query of a document. -/
  | join (document : Document) (waiter : Waiter)
  /-- The result of a query is taken in. -/
  | complete (document : Document) (generation : Nat) (result : QueryResult)
  | invalidate (documents : List Document)
  | invalidateAll
  | noteFallbackServed (document : Document)
  | evict (document : Document)
  /-- A waiting caller goes away. -/
  | hangUp (waiter : Waiter)

/-- What happens to a document. -/
inductive CacheEvent where
  | joined (waiter : Waiter)
  | began (generation : Nat)
  | invalidated
  /-- The result of the query on its way was taken in; `followUp` is the query
  begun in its place. -/
  | accepted (generation : Nat) (result : QueryResult) (followUp : Option Nat)
  /-- A result was dropped. -/
  | refused (generation : Nat)
  /-- A caller was sent settings, which are lost if it had gone away. -/
  | sent (waiter : Waiter) (settings : BuildSettings) (lost : Bool)
  /-- A caller was left without an answer. -/
  | closed (waiter : Waiter)
  | evicted

/-- A cache and what has happened to it. -/
structure History where
  cache : Cache
  /-- The callers that have gone away. -/
  gone : List Waiter
  /-- Everything that has happened, in order. -/
  events : List (Document × CacheEvent)

namespace History

/-- The history of a new cache. -/
def start (options : FallbackOptions) : History := ⟨.empty options, [], []⟩

/-- Whether a caller has gone away. -/
def hasGone (h : History) (waiter : Waiter) : Bool := h.gone.contains waiter

/-- The event of a query that was begun, if one was. -/
def begun (generation : Option Nat) : List CacheEvent :=
  (generation.map CacheEvent.began).toList

/-- The events of a result that was taken in. -/
def landing (hasGone : Waiter → Bool) (generation : Nat) (result : QueryResult)
    (completion : Completion) : List CacheEvent :=
  .accepted generation result completion.requery ::
    (completion.sent.map fun (waiter, settings) =>
      CacheEvent.sent waiter settings (hasGone waiter)) ++ begun completion.requery

/-- The events of documents that are invalidated one after another. -/
def invalidations (cache : Cache) : List Document → List (Document × CacheEvent)
  | [] => []
  | document :: rest =>
    let (cache, generation) := cache.invalidateOne document
    (CacheEvent.invalidated :: begun generation).map (document, ·) ++ invalidations cache rest

/-- The cache after an operation, and what happens in it. -/
def outcome (h : History) : CacheOp → Cache × List (Document × CacheEvent)
  | .join document waiter =>
    let (cache, generation) := h.cache.join document waiter
    (cache, (CacheEvent.joined waiter :: begun generation).map (document, ·))
  | .complete document generation result =>
    match h.cache.complete h.hasGone document generation result with
    | (cache, none) => (cache, [(document, .refused generation)])
    | (cache, some completion) =>
      (cache, (landing h.hasGone generation result completion).map (document, ·))
  | .invalidate documents =>
    ((h.cache.invalidate documents).1, invalidations h.cache documents)
  | .invalidateAll =>
    (h.cache.invalidateAll.1,
      invalidations h.cache (h.cache.entries.keys ++ h.cache.flights.keys))
  | .noteFallbackServed document => (h.cache.noteFallbackServed document, [])
  | .evict document =>
    ((h.cache.evict document).1,
      ((h.cache.waiting document).map CacheEvent.closed ++ [CacheEvent.evicted]).map (document, ·))
  | .hangUp _ => (h.cache, [])

/-- The callers that go away in an operation. -/
def leaving : CacheOp → List Waiter
  | .hangUp waiter => [waiter]
  | _ => []

/-- The history after one more operation. -/
def perform (h : History) (op : CacheOp) : History where
  cache := (h.outcome op).1
  gone := h.gone ++ leaving op
  events := h.events ++ (h.outcome op).2

@[simp]
theorem perform_cache (h : History) (op : CacheOp) :
    (h.perform op).cache = (h.outcome op).1 := rfl

@[simp]
theorem perform_events (h : History) (op : CacheOp) :
    (h.perform op).events = h.events ++ (h.outcome op).2 := rfl

/-- The history of a cache to which operations were done in order. -/
def after (options : FallbackOptions) (ops : List CacheOp) : History :=
  ops.foldl perform (start options)

/-- What has happened to one document. -/
def about (h : History) (document : Document) : List CacheEvent :=
  h.events.filterMap fun (other, event) => if other = document then some event else none

end History

/-! ## The life of a document -/

/-- A life of a document: its slot and what has happened to it, when generations
up to a number have been given, to it or to others.  Of an operation on another
document it notices at most that the number has grown. -/
inductive Life (fallback : BuildSettings) : Nat → Slot → List CacheEvent → Prop where
  | /-- Nothing has happened. -/
    start : Life fallback 0 .empty []
  | /-- Something happened to other documents. -/
    elsewhere {n m : Nat} {slot : Slot} {events : List CacheEvent}
      (life : Life fallback n slot events) (grown : n ≤ m) : Life fallback m slot events
  | /-- A caller waits for the query on its way. -/
    joined {n : Nat} {slot : Slot} {events : List CacheEvent} {flight : Flight} (waiter : Waiter)
      (life : Life fallback n slot events) (running : slot.flight = some flight) :
      Life fallback n
        { slot with flight := some { flight with waiters := flight.waiters ++ [waiter] } }
        (events ++ [.joined waiter])
  | /-- A caller waits, and a query is begun for it. -/
    asked {n : Nat} {slot : Slot} {events : List CacheEvent} (waiter : Waiter)
      (life : Life fallback n slot events) (idle : slot.flight = none) :
      Life fallback (n + 1) (slot.begin (n + 1) [waiter])
        (events ++ [.joined waiter, .began (n + 1)])
  | /-- The result of a query is taken in, and none follows. -/
    landed {n : Nat} {slot : Slot} {events : List CacheEvent} {flight : Flight}
      (result : QueryResult) (hasGone : Waiter → Bool)
      (life : Life fallback n slot events) (running : slot.flight = some flight)
      (valid : flight.requery = false) :
      Life fallback n (slot.land fallback result)
        (events ++ (.accepted flight.generation result none ::
          flight.waiters.map fun waiter =>
            .sent waiter (slot.settled fallback result) (hasGone waiter)))
  | /-- The result of a query that was invalidated meanwhile is taken in, and
    another query follows. -/
    followed {n : Nat} {slot : Slot} {events : List CacheEvent} {flight : Flight}
      (result : QueryResult) (hasGone : Waiter → Bool)
      (life : Life fallback n slot events) (running : slot.flight = some flight)
      (invalid : flight.requery = true) :
      Life fallback (n + 1) ((slot.land fallback result).begin (n + 1) [])
        (events ++ (.accepted flight.generation result (some (n + 1)) ::
          flight.waiters.map fun waiter =>
            .sent waiter (slot.settled fallback result) (hasGone waiter)) ++ [.began (n + 1)])
  | /-- A result is dropped that is not that of the query on its way. -/
    refused {n : Nat} {slot : Slot} {events : List CacheEvent} (generation : Nat)
      (life : Life fallback n slot events)
      (other : ∀ flight, slot.flight = some flight → flight.generation ≠ generation) :
      Life fallback n slot (events ++ [.refused generation])
  | /-- The document is invalidated while a query is on its way. -/
    outdated {n : Nat} {slot : Slot} {events : List CacheEvent} {flight : Flight}
      (life : Life fallback n slot events) (running : slot.flight = some flight) :
      Life fallback n { slot.markStale with flight := some { flight with requery := true } }
        (events ++ [.invalidated])
  | /-- The document is invalidated, and a query is begun to renew its entry. -/
    renewed {n : Nat} {slot : Slot} {events : List CacheEvent} {entry : CacheEntry}
      (life : Life fallback n slot events) (idle : slot.flight = none)
      (cached : slot.entry = some entry) :
      Life fallback (n + 1) (slot.markStale.begin (n + 1) [])
        (events ++ [.invalidated, .began (n + 1)])
  | /-- The document is invalidated and there is nothing to renew. -/
    ignored {n : Nat} {slot : Slot} {events : List CacheEvent}
      (life : Life fallback n slot events) (idle : slot.flight = none)
      (absent : slot.entry = none) :
      Life fallback n slot (events ++ [.invalidated])
  | /-- A caller was served fallback settings. -/
    noted {n : Nat} {slot : Slot} {events : List CacheEvent}
      (life : Life fallback n slot events) :
      Life fallback n slot.noteFallbackServed events
  | /-- The document is forgotten, and those that waited are left without an
    answer. -/
    evicted {n : Nat} {slot : Slot} {events : List CacheEvent}
      (life : Life fallback n slot events) :
      Life fallback n .empty
        (events ++ (((slot.flight.map (·.waiters)).getD []).map .closed ++ [.evicted]))

namespace History

/-- Every document of a history has a life. -/
def Lives (h : History) : Prop :=
  ∀ document, Life (h.cache.fallback document) h.cache.lastGeneration (h.cache.slot document)
    (h.about document)

variable {h next : History} {document : Document} {events : List CacheEvent} {slot : Slot}

theorem about_append_self (hevents : next.events = h.events ++ events.map (document, ·)) :
    next.about document = h.about document ++ events := by
  have hown : (fun entry : Document × CacheEvent =>
      if entry.1 = document then some entry.2 else none) ∘ (document, ·) = some :=
    funext fun event => if_pos rfl
  rw [about, hevents, List.filterMap_append, List.filterMap_map]
  exact congrArg (h.about document ++ ·)
    ((congrArg (List.filterMap · events) hown).trans List.filterMap_some)

theorem about_append_other {other : Document} (hne : document ≠ other)
    (hevents : next.events = h.events ++ events.map (document, ·)) :
    next.about other = h.about other := by
  have hnone : (events.map (document, ·)).filterMap (fun entry : Document × CacheEvent =>
      if entry.1 = other then some entry.2 else none) = [] := by
    rw [List.filterMap_map, List.filterMap_eq_nil_iff]
    exact fun event _ => if_neg hne
  rw [about, hevents, List.filterMap_append]
  exact (congrArg (h.about other ++ ·) hnone).trans (List.append_nil _)

/-- What is done to one document goes on with its life and is elsewhere for the
others. -/
theorem Lives.turn (hlives : h.Lives)
    (hslot : next.cache.slot = Function.update h.cache.slot document slot)
    (hoptions : next.cache.options = h.cache.options)
    (hgrown : h.cache.lastGeneration ≤ next.cache.lastGeneration)
    (hevents : next.events = h.events ++ events.map (document, ·))
    (hlife : Life (h.cache.fallback document) next.cache.lastGeneration slot
      (h.about document ++ events)) :
    next.Lives := by
  have hfallback : next.cache.fallback = h.cache.fallback := by
    funext other
    simp only [Cache.fallback, hoptions]
  intro other
  rw [hfallback, hslot]
  by_cases hself : other = document
  · subst hself
    rw [Function.update_self, about_append_self hevents]
    exact hlife
  · rw [Function.update_of_ne hself, about_append_other (Ne.symm hself) hevents]
    exact (hlives other).elsewhere hgrown

theorem lives_start (options : FallbackOptions) : (start options).Lives := by
  intro document
  rw [start, Cache.slot_empty]
  exact .start

theorem Lives.join (hlives : h.Lives) (document : Document) (waiter : Waiter) :
    (h.perform (.join document waiter)).Lives := by
  have hstarted := h.cache.join_started document waiter
  have hlast := h.cache.lastGeneration_join document waiter
  have hlife := hlives document
  cases hflight : h.cache.flights[document]? with
  | none =>
    simp only [hflight, Option.isSome_none, Bool.false_eq_true, if_false] at hstarted
    rw [hstarted, Option.getD_some] at hlast
    refine hlives.turn (h.cache.slot_join document waiter) (h.cache.options_join document waiter)
      (by simp only [perform_cache, outcome, hlast]; omega) rfl ?_
    simp only [perform_cache, outcome, hlast, hstarted, begun, Slot.join, Cache.slot_flight, hflight]
    exact hlife.asked waiter hflight
  | some flight =>
    simp only [hflight, Option.isSome_some, if_true] at hstarted
    rw [hstarted, Option.getD_none] at hlast
    refine hlives.turn (h.cache.slot_join document waiter) (h.cache.options_join document waiter)
      (Nat.le_of_eq (by simp only [perform_cache, outcome, hlast])) rfl ?_
    simp only [perform_cache, outcome, hlast, hstarted, begun, Slot.join, Cache.slot_flight, hflight]
    exact hlife.joined waiter hflight

/-- The outcome of a result that is that of the query on its way. -/
theorem outcome_complete_of_current {flight : Flight} (result : QueryResult)
    (hflight : h.cache.flights[document]? = some flight) :
    h.outcome (.complete document flight.generation result) =
      ((h.cache.complete h.hasGone document flight.generation result).1,
        ((CacheEvent.accepted flight.generation result
            (if flight.requery then some (h.cache.lastGeneration + 1) else none) ::
          flight.waiters.map fun waiter =>
            CacheEvent.sent waiter
              ((h.cache.slot document).settled (h.cache.fallback document) result)
              (h.hasGone waiter)) ++
          begun (if flight.requery then some (h.cache.lastGeneration + 1) else none)).map
            (document, ·)) := by
  have hcompletion := (Cache.complete_of_current h.hasGone result hflight).1
  simp only [outcome]
  split
  · simp_all
  · next completion hcomplete =>
    rw [hcomplete] at hcompletion
    obtain rfl := Option.some.inj hcompletion
    simp [hcomplete, landing, Cache.completion, Function.comp_def]

/-- The outcome of a result that is not that of the query on its way. -/
theorem outcome_complete_of_not_current {generation : Nat} (result : QueryResult)
    (hother : ∀ flight, h.cache.flights[document]? = some flight →
      flight.generation ≠ generation) :
    h.outcome (.complete document generation result) =
      (h.cache, [(document, .refused generation)]) := by
  simp only [outcome, Cache.complete_of_not_current h.hasGone result hother]

theorem Lives.complete (hlives : h.Lives) (document : Document) (generation : Nat)
    (result : QueryResult) : (h.perform (.complete document generation result)).Lives := by
  have hlife := hlives document
  rcases h.cache.current_or_other document generation with ⟨flight, hflight, rfl⟩ | hother
  · have houtcome := outcome_complete_of_current result hflight
    obtain ⟨-, hslot, hlast, hoptions⟩ := Cache.complete_of_current h.hasGone result hflight
    simp only [Slot.complete, Cache.slot_flight, hflight, Option.any_some] at hslot
    simp only [Cache.completion] at hlast
    by_cases hrequery : flight.requery = true
    · simp only [hrequery, if_true, Option.getD_some] at houtcome hslot hlast
      refine hlives.turn (by rw [perform_cache, houtcome]; exact hslot)
        (by rw [perform_cache, houtcome]; exact hoptions)
        (by rw [perform_cache, houtcome]; simp only [hlast]; omega)
        (by rw [perform_events, houtcome]) ?_
      simp only [perform_cache, houtcome, hlast, ← List.append_assoc]
      exact hlife.followed result h.hasGone hflight hrequery
    · simp only [hrequery, Bool.false_eq_true, if_false, Option.getD_none] at houtcome hslot hlast
      refine hlives.turn (by rw [perform_cache, houtcome]; exact hslot)
        (by rw [perform_cache, houtcome]; exact hoptions)
        (by rw [perform_cache, houtcome]; exact Nat.le_of_eq hlast.symm)
        (by rw [perform_events, houtcome]) ?_
      simp only [perform_cache, houtcome, hlast, begun, Option.map_none, Option.toList_none,
        List.append_nil]
      exact hlife.landed result h.hasGone hflight (by simpa using hrequery)
  · have houtcome := outcome_complete_of_not_current result hother
    have hcache : (h.perform (.complete document generation result)).cache = h.cache := by
      rw [perform_cache, houtcome]
    have hslot : (h.perform (.complete document generation result)).cache.slot =
        Function.update h.cache.slot document (h.cache.slot document) := by
      rw [hcache, Function.update_eq_self]
    have hevents : (h.perform (.complete document generation result)).events =
        h.events ++ [CacheEvent.refused generation].map (document, ·) := by
      rw [perform_events, houtcome]
      rfl
    refine hlives.turn hslot (by rw [hcache]) (Nat.le_of_eq (by rw [hcache])) hevents ?_
    rw [hcache]
    exact hlife.refused generation hother

theorem Lives.noteFallbackServed (hlives : h.Lives) (document : Document) :
    (h.perform (.noteFallbackServed document)).Lives := by
  have hevents : (h.perform (.noteFallbackServed document)).events =
      h.events ++ ([] : List CacheEvent).map (document, ·) := rfl
  refine hlives.turn (h.cache.slot_noteFallbackServed document) rfl (Nat.le_refl _) hevents ?_
  rw [List.append_nil]
  exact (hlives document).noted

theorem Lives.evict (hlives : h.Lives) (document : Document) :
    (h.perform (.evict document)).Lives :=
  hlives.turn (h.cache.slot_evict document) rfl (Nat.le_refl _) rfl (hlives document).evicted

/-- One document of a list is invalidated. -/
theorem Lives.invalidateOne (hlives : h.Lives) (document : Document) :
    ({ h with
        cache := (h.cache.invalidateOne document).1
        events := h.events ++
          (CacheEvent.invalidated :: begun (h.cache.invalidateOne document).2).map
            (document, ·) } : History).Lives := by
  have hstarted := h.cache.invalidateOne_started document
  have hlast := h.cache.lastGeneration_invalidateOne document
  have hslot := h.cache.slot_invalidateOne document
  have hoptions := h.cache.options_invalidateOne document
  have hlife := hlives document
  cases hflight : h.cache.flights[document]? with
  | some flight =>
    simp only [hflight, Option.isNone_some, Bool.false_eq_true, false_and, if_false] at hstarted
    rw [hstarted, Option.getD_none] at hlast
    refine hlives.turn hslot hoptions (Nat.le_of_eq hlast.symm) rfl ?_
    simp only [hlast, hstarted, begun, Slot.invalidate, Cache.slot_flight, hflight]
    exact hlife.outdated hflight
  | none =>
    cases hentry : h.cache.entries[document]? with
    | some entry =>
      simp only [hflight, hentry, Option.isNone_none, Option.isSome_some, and_self,
        if_true] at hstarted
      rw [hstarted, Option.getD_some] at hlast
      refine hlives.turn hslot hoptions (by simp only [hlast]; omega) rfl ?_
      simp only [hlast, hstarted, begun, Slot.invalidate, Cache.slot_flight, Cache.slot_entry,
        hflight, hentry, Option.isSome_some, if_true]
      exact hlife.renewed hflight hentry
    | none =>
      simp only [hflight, hentry, Option.isSome_none, Bool.false_eq_true, and_false,
        if_false] at hstarted
      rw [hstarted, Option.getD_none] at hlast
      refine hlives.turn hslot hoptions (Nat.le_of_eq hlast.symm) rfl ?_
      simp only [hlast, hstarted, begun, Slot.invalidate, Cache.slot_flight, Cache.slot_entry,
        hflight, hentry, Option.isSome_none, Bool.false_eq_true, if_false]
      exact hlife.ignored hflight hentry

/-- Documents are invalidated one after another, so that a later one, or a
repeated one, finds what the earlier ones left behind. -/
theorem Lives.invalidate (hlives : h.Lives) (documents : List Document) :
    ({ h with
        cache := (h.cache.invalidate documents).1
        events := h.events ++ invalidations h.cache documents } : History).Lives := by
  induction documents generalizing h with
  | nil => simpa [Cache.invalidate, invalidations] using hlives
  | cons document rest ih =>
    have hrest := ih (hlives.invalidateOne document)
    simp only [List.append_assoc] at hrest
    exact hrest

/-- Callers that go away leave no trace in the life of a document. -/
theorem Lives.of_same (hlives : h.Lives) (hcache : next.cache = h.cache)
    (hevents : next.events = h.events) : next.Lives := by
  intro document
  simp only [about, hcache, hevents]
  exact hlives document

theorem Lives.perform (hlives : h.Lives) (op : CacheOp) : (h.perform op).Lives := by
  cases op with
  | join document waiter => exact hlives.join document waiter
  | complete document generation result => exact hlives.complete document generation result
  | invalidate documents => exact (hlives.invalidate documents).of_same rfl rfl
  | invalidateAll => exact (hlives.invalidate _).of_same rfl rfl
  | noteFallbackServed document => exact hlives.noteFallbackServed document
  | evict document => exact hlives.evict document
  | hangUp waiter => exact hlives.of_same rfl (List.append_nil _)

/-- Whatever is done to a cache, every document has a life. -/
theorem lives_after (options : FallbackOptions) (ops : List CacheOp) :
    (after options ops).Lives := by
  have hfold : ∀ h : History, h.Lives → (ops.foldl History.perform h).Lives := by
    induction ops with
    | nil => exact fun h hlives => hlives
    | cons op ops ih => exact fun h hlives => ih _ (hlives.perform op)
  exact hfold _ (lives_start options)

end History

end SettingsBroker
