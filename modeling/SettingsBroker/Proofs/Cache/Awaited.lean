/-
# Results that come too late

A document awaits the result of at most one query.  A query is spent when its
result was taken in or its document was forgotten after it began, and whatever
is then still said of it changes nothing, even if another query for the same
document is on its way.

Nothing but the generation tells the two queries apart.  It suffices because
generations only grow: a query that begins later has a larger one than every
query that began, or whose result was taken in, before it.
-/

import Mathlib.Data.List.Induction
import SettingsBroker.Proofs.Cache.Waiters

namespace SettingsBroker

namespace CacheEvent

/-- The generation that an event begins or takes in. -/
def number? : CacheEvent → Option Nat
  | .began generation => some generation
  | .accepted generation _ _ => some generation
  | _ => none

/-- Whether an event neither begins nor ends a query. -/
def IsNeutral (event : CacheEvent) : Prop :=
  event.number? = none ∧ event ≠ .evicted

/-- Takes one more event into what has happened since a document was last
forgotten. -/
def keepSpell (events : List CacheEvent) : CacheEvent → List CacheEvent
  | .evicted => []
  | event => events ++ [event]

/-- What has happened to a document since it was last forgotten. -/
def sinceForgotten (events : List CacheEvent) : List CacheEvent :=
  events.foldl keepSpell []

theorem foldl_keepSpell_of_kept (spell : List CacheEvent) {later : List CacheEvent}
    (kept : .evicted ∉ later) : later.foldl keepSpell spell = spell ++ later := by
  induction later generalizing spell with
  | nil => simp
  | cons event later ih =>
    rw [List.mem_cons, not_or] at kept
    have hkeep : keepSpell spell event = spell ++ [event] := by
      cases event with
      | evicted => exact absurd rfl kept.1
      | _ => rfl
    rw [List.foldl_cons, hkeep, ih _ kept.2, List.append_assoc, List.singleton_append]

theorem sinceForgotten_append_of_kept (events : List CacheEvent) {later : List CacheEvent}
    (kept : .evicted ∉ later) :
    sinceForgotten (events ++ later) = sinceForgotten events ++ later := by
  unfold sinceForgotten
  rw [List.foldl_append, foldl_keepSpell_of_kept _ kept]

@[simp]
theorem sinceForgotten_evicted (events : List CacheEvent) :
    sinceForgotten (events ++ [.evicted]) = [] := by
  simp [sinceForgotten, keepSpell]

theorem foldl_keepSpell_subset (spell later : List CacheEvent) :
    later.foldl keepSpell spell ⊆ spell ++ later := by
  induction later generalizing spell with
  | nil => simp
  | cons event later ih =>
    apply List.Subset.trans (ih (keepSpell spell event))
    cases event <;> simp [keepSpell]

theorem sinceForgotten_subset (events : List CacheEvent) : sinceForgotten events ⊆ events :=
  foldl_keepSpell_subset [] events

/-- Nothing of what happened before a document was forgotten is left. -/
theorem sinceForgotten_subset_later (events later : List CacheEvent) :
    sinceForgotten (events ++ .evicted :: later) ⊆ later := by
  unfold sinceForgotten
  rw [List.foldl_append, List.foldl_cons]
  exact foldl_keepSpell_subset [] later

end CacheEvent

open CacheEvent

variable {fallback : BuildSettings} {n : Nat} {slot next : Slot} {events later : List CacheEvent}

/-! ## Generations grow -/

/-- An event comes before a query that has a larger generation. -/
def Precedes (earlier later : CacheEvent) : Prop :=
  ∀ old new, earlier.number? = some old → later = .began new → old < new

/-- Generations have been given, and each query has a larger one than all that was
begun or taken in before it. -/
structure Numbered (n : Nat) (events : List CacheEvent) : Prop where
  /-- No generation is larger than the last one given. -/
  bounded : ∀ event ∈ events, ∀ generation, event.number? = some generation → generation ≤ n
  /-- Generations grow. -/
  growing : events.Pairwise Precedes

namespace Numbered

theorem mono {m : Nat} (h : Numbered n events) (grown : n ≤ m) : Numbered m events :=
  ⟨fun event hevent generation hnumber =>
    Nat.le_trans (h.bounded event hevent generation hnumber) grown, h.growing⟩

theorem concat (h : Numbered n events) {m : Nat} {event : CacheEvent} (grown : n ≤ m)
    (given : ∀ generation, event.number? = some generation → generation ≤ m)
    (fresh : ∀ generation, event = .began generation → n < generation) :
    Numbered m (events ++ [event]) := by
  constructor
  · intro found hfound generation hnumber
    rcases List.mem_append.mp hfound with hold | hnew
    · exact Nat.le_trans (h.bounded found hold generation hnumber) grown
    · rw [List.mem_singleton.mp hnew] at hnumber
      exact given generation hnumber
  · refine List.pairwise_append.mpr ⟨h.growing, List.pairwise_singleton _ _, ?_⟩
    intro first hfirst second hsecond old new hold hnew
    rw [List.mem_singleton.mp hsecond] at hnew
    exact Nat.lt_of_le_of_lt (h.bounded first hfirst old hold) (fresh new hnew)

theorem append_of_neutral (h : Numbered n events)
    (neutral : ∀ event ∈ later, event.IsNeutral) : Numbered n (events ++ later) := by
  induction later generalizing events with
  | nil => rwa [List.append_nil]
  | cons event later ih =>
    obtain ⟨hnumber, -⟩ := neutral event List.mem_cons_self
    have hevent : Numbered n (events ++ [event]) := by
      refine h.concat (Nat.le_refl n) ?_ ?_
      · intro generation hgeneration
        rw [hnumber] at hgeneration
        cases hgeneration
      · rintro generation rfl
        cases hnumber
    rw [List.append_cons]
    exact ih hevent fun other hother => neutral other (List.mem_cons_of_mem _ hother)

end Numbered

/-! ## The query that is awaited -/

/-- A query is open when it has begun since its document was last forgotten and its
result was not taken in. -/
def IsOpen (events : List CacheEvent) (generation : Nat) : Prop :=
  .began generation ∈ sinceForgotten events ∧
    ∀ result followUp, .accepted generation result followUp ∉ events

/-- The query on its way is the one that is open, and generations grow. -/
structure Tracked (n : Nat) (slot : Slot) (events : List CacheEvent) : Prop
    extends Numbered n events where
  /-- The open query is on its way. -/
  awaited : ∀ generation,
    slot.flight.map (·.generation) = some generation ↔ IsOpen events generation

namespace Tracked

theorem of_flight (h : Tracked n slot events)
    (same : next.flight.map (·.generation) = slot.flight.map (·.generation)) :
    Tracked n next events :=
  ⟨h.toNumbered, same ▸ h.awaited⟩

theorem open_of_running (h : Tracked n slot events) {flight : Flight}
    (running : slot.flight = some flight) : IsOpen events flight.generation := by
  rw [← h.awaited, running]
  rfl

theorem flight_le (h : Tracked n slot events) {flight : Flight}
    (running : slot.flight = some flight) : flight.generation ≤ n := by
  have hbegan := sinceForgotten_subset events (h.open_of_running running).1
  exact h.bounded _ hbegan flight.generation rfl

/-- Where no query is on its way, none is open. -/
theorem not_open_of_idle (h : Tracked n slot events) (idle : slot.flight = none)
    (generation : Nat) : ¬ IsOpen events generation := by
  rw [← h.awaited, idle]
  simp

theorem append_of_neutral (h : Tracked n slot events)
    (neutral : ∀ event ∈ later, event.IsNeutral) : Tracked n slot (events ++ later) := by
  refine ⟨h.toNumbered.append_of_neutral neutral, fun generation => ?_⟩
  have hkept : .evicted ∉ later := fun hmem => (neutral _ hmem).2 rfl
  have hbegan : .began generation ∉ later := fun hmem => by cases (neutral _ hmem).1
  have haccepted : ∀ result followUp, .accepted generation result followUp ∉ later :=
    fun result followUp hmem => by cases (neutral _ hmem).1
  rw [h.awaited]
  unfold IsOpen
  rw [sinceForgotten_append_of_kept events hkept]
  simp [hbegan, haccepted]

/-- A query that begins where none is on its way is open, and the only one. -/
theorem begin (h : Tracked n slot events) (idle : slot.flight = none) (waiters : List Waiter) :
    Tracked (n + 1) (slot.begin (n + 1) waiters) (events ++ [.began (n + 1)]) := by
  have hnumbered : Numbered (n + 1) (events ++ [.began (n + 1)]) := by
    refine h.toNumbered.concat (Nat.le_succ n) ?_ ?_
    · rintro generation hgeneration
      exact Nat.le_of_eq (Option.some.inj hgeneration).symm
    · rintro generation hgeneration
      rw [← CacheEvent.began.inj hgeneration]
      exact Nat.lt_succ_self n
  have hkept : CacheEvent.evicted ∉ [CacheEvent.began (n + 1)] := by simp
  refine ⟨hnumbered, fun generation => ?_⟩
  unfold IsOpen
  rw [sinceForgotten_append_of_kept events hkept]
  constructor
  · intro hflight
    obtain rfl : n + 1 = generation := Option.some.inj hflight
    refine ⟨by simp, fun result followUp hmem => ?_⟩
    have hold : CacheEvent.accepted (n + 1) result followUp ∈ events := by simpa using hmem
    exact absurd (h.bounded _ hold (n + 1) rfl) (Nat.not_succ_le_self n)
  · rintro ⟨hbegan, hunanswered⟩
    rcases List.mem_append.mp hbegan with hold | hnew
    · refine absurd ⟨hold, fun result followUp hmem => ?_⟩ (h.not_open_of_idle idle generation)
      exact hunanswered result followUp (List.mem_append_left _ hmem)
    · obtain rfl : generation = n + 1 := by simpa using hnew
      rfl

/-- When its result is taken in, the query on its way is no longer open, and no other
one is. -/
theorem accept (h : Tracked n slot events) {flight : Flight} (running : slot.flight = some flight)
    (idle : next.flight = none) (result : QueryResult) (followUp : Option Nat) :
    Tracked n next (events ++ [.accepted flight.generation result followUp]) := by
  have hnumbered : Numbered n (events ++ [.accepted flight.generation result followUp]) := by
    refine h.toNumbered.concat (Nat.le_refl n) ?_ (by simp)
    rintro generation hgeneration
    rw [← Option.some.inj hgeneration]
    exact h.flight_le running
  have hkept : CacheEvent.evicted ∉ [CacheEvent.accepted flight.generation result followUp] := by
    simp
  refine ⟨hnumbered, fun generation => ⟨fun hnone => by simp [idle] at hnone, ?_⟩⟩
  rintro ⟨hbegan, hunanswered⟩
  rw [sinceForgotten_append_of_kept events hkept] at hbegan
  have hopen : IsOpen events generation := by
    refine ⟨by simpa using hbegan, fun result followUp hmem => ?_⟩
    exact hunanswered result followUp (List.mem_append_left _ hmem)
  rw [← h.awaited, running] at hopen
  obtain rfl : flight.generation = generation := Option.some.inj hopen
  exact absurd (List.mem_append_right _ (List.mem_singleton_self _)) (hunanswered result followUp)

theorem forget (h : Tracked n slot events) : Tracked n .empty (events ++ [.evicted]) := by
  refine ⟨h.toNumbered.concat (Nat.le_refl n) (by simp [number?]) (by simp), fun generation => ?_⟩
  simp [IsOpen, Slot.empty]

end Tracked

theorem isNeutral_sent (waiters : List Waiter) (settings : BuildSettings) (lost : Waiter → Bool) :
    ∀ event ∈ waiters.map fun waiter => sent waiter settings (lost waiter),
      event.IsNeutral := by
  simp [IsNeutral, number?]

theorem isNeutral_closed (waiters : List Waiter) :
    ∀ event ∈ waiters.map closed, event.IsNeutral := by
  simp [IsNeutral, number?]

theorem Life.tracked (life : Life fallback n slot events) : Tracked n slot events := by
  have hnoted : ∀ event ∈ [CacheEvent.invalidated], event.IsNeutral := by
    simp [IsNeutral, number?]
  induction life with
  | start => exact ⟨⟨by simp, .nil⟩, by simp [Slot.empty, IsOpen, sinceForgotten]⟩
  | elsewhere life grown ih => exact ⟨ih.toNumbered.mono grown, ih.awaited⟩
  | @joined n slot events flight waiter life running ih =>
    have hjoined : Tracked n slot (events ++ [.joined waiter]) :=
      ih.append_of_neutral (by simp [IsNeutral, number?])
    exact hjoined.of_flight (by simp [running])
  | @asked n slot events waiter life idle ih =>
    have hjoined : Tracked n slot (events ++ [.joined waiter]) :=
      ih.append_of_neutral (by simp [IsNeutral, number?])
    simpa using hjoined.begin idle [waiter]
  | @landed n slot events flight result hasGone life running valid ih =>
    have haccepted := ih.accept running (Slot.land_flight slot fallback result) result none
    rw [List.append_cons events]
    exact haccepted.append_of_neutral (isNeutral_sent _ _ _)
  | @followed n slot events flight result hasGone life running invalid ih =>
    have haccepted := ih.accept running (Slot.land_flight slot fallback result) result
      (some (n + 1))
    rw [List.append_cons events]
    exact (haccepted.append_of_neutral (isNeutral_sent _ _ _)).begin (Slot.land_flight _ _ _) []
  | refused generation life other ih =>
    exact ih.append_of_neutral (by simp [IsNeutral, number?])
  | outdated life running ih =>
    exact (ih.append_of_neutral hnoted).of_flight (by simp [running])
  | @renewed n slot events entry life idle cached ih =>
    have hmarked : Tracked n slot.markStale (events ++ [.invalidated]) :=
      (ih.append_of_neutral hnoted).of_flight rfl
    simpa using hmarked.begin idle []
  | ignored life idle absent ih => exact ih.append_of_neutral hnoted
  | noted life ih =>
    exact ih.of_flight (by simp [Slot.noteFallbackServed, Function.comp_def])
  | evicted life ih =>
    rw [← List.append_assoc]
    exact (ih.append_of_neutral (isNeutral_closed _)).forget

namespace History

/-! ## Runs -/

/-- What has happened to a document is only ever added to. -/
theorem about_prefix (options : FallbackOptions) (ops more : List CacheOp) (document : Document) :
    (after options ops).about document <+: (after options (ops ++ more)).about document := by
  have hevents : ∀ h : History, h.events <+: (more.foldl perform h).events := by
    induction more with
    | nil => exact fun h => List.prefix_rfl
    | cons op more ih => exact fun h => (List.prefix_append _ _).trans (ih (h.perform op))
  unfold after
  rw [List.foldl_append]
  exact (hevents _).filterMap _

theorem about_concat (options : FallbackOptions) (ops : List CacheOp) (op : CacheOp)
    (document : Document) :
    (after options (ops ++ [op])).about document =
      (after options ops).about document ++
        ((after options ops).outcome op).2.filterMap fun (other, event) =>
          if other = document then some event else none := by
  simp [after, about]

/-- Where an operation does not forget a document, nothing in it does. -/
theorem evicted_not_mem_outcome {h : History} {op : CacheOp} {document : Document}
    (kept : op ≠ .evict document) : (document, .evicted) ∉ (h.outcome op).2 := by
  intro hmem
  cases happens_of_mem hmem with
  | evicted => exact kept rfl

/-- The result of a query is no longer awaited, or never was. -/
inductive Spent (options : FallbackOptions) (document : Document) (generation : Nat) :
    List CacheOp → Prop where
  | /-- The document was forgotten after the query had begun. -/
    forgotten (earlier later : List CacheOp)
      (began : .began generation ∈ (after options earlier).about document) :
      Spent options document generation (earlier ++ .evict document :: later)
  | /-- The result was taken in. -/
    takenIn {ops : List CacheOp} {result : QueryResult} {followUp : Option Nat}
      (accepted : .accepted generation result followUp ∈ (after options ops).about document) :
      Spent options document generation ops
  | /-- No such query was begun for the document. -/
    unknown {ops : List CacheOp}
      (never : .began generation ∉ (after options ops).about document) :
      Spent options document generation ops

/-- A query that has begun, but not since the document was last forgotten, had begun
before the document was forgotten. -/
theorem exists_evict_of_not_mem (options : FallbackOptions) (ops : List CacheOp)
    (document : Document) (generation : Nat)
    (hbegan : .began generation ∈ (after options ops).about document)
    (hold : .began generation ∉ sinceForgotten ((after options ops).about document)) :
    ∃ earlier later, ops = earlier ++ .evict document :: later ∧
      .began generation ∈ (after options earlier).about document := by
  induction ops using List.reverseRecOn with
  | nil => simp [after, start, about] at hbegan
  | append_singleton ops op ih =>
    rw [about_concat] at hbegan hold
    by_cases hforgets : op = .evict document
    · subst hforgets
      refine ⟨ops, [], rfl, ?_⟩
      simpa [outcome, List.filterMap_append, List.filterMap_map, Function.comp_def] using hbegan
    · have hkept : CacheEvent.evicted ∉ ((after options ops).outcome op).2.filterMap
          fun (other, event) => if other = document then some event else none := by
        simpa using evicted_not_mem_outcome hforgets
      rw [sinceForgotten_append_of_kept _ hkept, List.mem_append, not_or] at hold
      have hearlier := (List.mem_append.mp hbegan).resolve_right hold.2
      obtain ⟨earlier, later, rfl, hfound⟩ := ih hearlier hold.1
      exact ⟨earlier, later ++ [op], by simp, hfound⟩

/-- A query that had begun before the document was forgotten cannot begin again
afterwards, for its generation would have to grow. -/
theorem not_mem_sinceForgotten (options : FallbackOptions) (earlier later : List CacheOp)
    (document : Document) (generation : Nat)
    (hbegan : .began generation ∈ (after options earlier).about document) :
    .began generation ∉
      sinceForgotten ((after options (earlier ++ .evict document :: later)).about document) := by
  obtain ⟨rest, hrest⟩ :=
    about_prefix options (earlier ++ [.evict document]) later document
  have hevict : ((after options earlier).outcome (.evict document)).2.filterMap
      (fun (other, event) => if other = document then some event else none) =
      ((after options earlier).cache.waiting document).map .closed ++ [.evicted] := by
    simp [outcome, List.filterMap_append, List.filterMap_map, Function.comp_def]
  rw [about_concat, hevict] at hrest
  have hlife := lives_after options (earlier ++ .evict document :: later) document
  have hgrowing := hlife.tracked.growing
  rw [List.append_cons, ← hrest, List.append_assoc, List.append_assoc, List.singleton_append,
    ← List.append_assoc] at hgrowing ⊢
  intro hmem
  have hagain := List.mem_cons_of_mem .evicted (sinceForgotten_subset_later _ _ hmem)
  have hfirst := List.mem_append_left
    (((after options earlier).cache.waiting document).map CacheEvent.closed) hbegan
  have hless := (List.pairwise_append.mp hgrowing).2.2 _ hfirst _ hagain
  exact Nat.lt_irrefl generation (hless generation generation rfl rfl)

theorem Spent.not_open {options : FallbackOptions} {document : Document} {generation : Nat}
    {ops : List CacheOp} (spent : Spent options document generation ops) :
    ¬ IsOpen ((after options ops).about document) generation := by
  rintro ⟨hbegan, hunanswered⟩
  cases spent with
  | forgotten earlier later began =>
    exact not_mem_sinceForgotten options earlier later document generation began hbegan
  | takenIn accepted => exact hunanswered _ _ accepted
  | unknown never => exact never (sinceForgotten_subset _ hbegan)

theorem spent_of_not_open {options : FallbackOptions} {document : Document} {generation : Nat}
    {ops : List CacheOp} (hclosed : ¬ IsOpen ((after options ops).about document) generation) :
    Spent options document generation ops := by
  by_cases hbegan : .began generation ∈ (after options ops).about document
  · by_cases haccepted : ∃ result followUp,
        .accepted generation result followUp ∈ (after options ops).about document
    · obtain ⟨result, followUp, hmem⟩ := haccepted
      exact .takenIn hmem
    · have hold : .began generation ∉ sinceForgotten ((after options ops).about document) :=
        fun hmem => hclosed ⟨hmem, fun result followUp haccept =>
          haccepted ⟨result, followUp, haccept⟩⟩
      obtain ⟨earlier, later, rfl, hearlier⟩ :=
        exists_evict_of_not_mem options ops document generation hbegan hold
      exact .forgotten earlier later hearlier
  · exact .unknown hbegan

/-- A result is dropped, and leaves the cache exactly as it is, if and only if it is
that of a spent query: one that began before the document was last forgotten, one
whose result was taken in, or one that never began.  Nothing that was done in
between makes a difference. -/
theorem result_dropped_iff_spent (options : FallbackOptions) (ops : List CacheOp)
    (document : Document) (generation : Nat) (gone : Waiter → Bool) (result : QueryResult) :
    (after options ops).cache.complete gone document generation result =
        ((after options ops).cache, none) ↔
      Spent options document generation ops := by
  have htracked := (lives_after options ops document).tracked
  rcases (after options ops).cache.current_or_other document generation with
    ⟨flight, hflight, rfl⟩ | hother
  · have hcompletion := (Cache.complete_of_current gone result hflight).1
    constructor
    · intro hdropped
      rw [hdropped] at hcompletion
      cases hcompletion
    · intro hspent
      exact absurd (htracked.open_of_running hflight) hspent.not_open
  · refine iff_of_true (Cache.complete_of_not_current gone result hother) (spent_of_not_open ?_)
    rw [← htracked.awaited, Option.map_eq_some_iff]
    rintro ⟨flight, hflight, hsame⟩
    exact hother flight hflight hsame

end History

end SettingsBroker
