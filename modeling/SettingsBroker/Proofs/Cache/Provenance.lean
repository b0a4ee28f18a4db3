/-
# Where stored settings come from

An entry holds what some query came to.  Whether it may be outdated depends on
when that query began: settings are current if their query began after the
document was last invalidated.  The stale mark of an entry is meant to tell the
two cases apart, and this module says exactly how far it does.

An entry without the mark is current, with one exception.  When a document is
invalidated while a query is on its way, the answer of that query is stored
without the mark and another query follows.  If the one that follows fails, the
entry stays as it is: it is outdated and not marked stale.
-/

import SettingsBroker.Proofs.Cache.History

namespace SettingsBroker

namespace CacheEvent

/-- Takes one more event into the queries begun since the last invalidation. -/
def keepCurrent (queries : List Nat) : CacheEvent → List Nat
  | .began generation => queries ++ [generation]
  | .invalidated => []
  | _ => queries

/-- The queries of a document that were begun after it was last invalidated. -/
def currentQueries (events : List CacheEvent) : List Nat :=
  events.foldl keepCurrent []

/-- A query whose result was taken in. -/
structure Origin where
  generation : Nat
  result : QueryResult
  /-- The query begun in its place when its result was taken in. -/
  followUp : Option Nat

/-- The settings that a result puts in place of none. -/
def Origin.settings (fallback : BuildSettings) (origin : Origin) : BuildSettings :=
  match origin.result with
  | .ok answer => answer.getD fallback
  | .error _ => fallback

/-- Takes one more event into the query whose result is stored.  A failure is
stored only where nothing was. -/
def keepOrigin (origin : Option Origin) : CacheEvent → Option Origin
  | .accepted generation (.ok answer) followUp => some ⟨generation, .ok answer, followUp⟩
  | .accepted generation (.error failure) followUp =>
    origin.or (some ⟨generation, .error failure, followUp⟩)
  | .evicted => none
  | _ => origin

/-- The query whose result a document has stored. -/
def origin? (events : List CacheEvent) : Option Origin :=
  events.foldl keepOrigin none

variable (events : List CacheEvent)

@[simp]
theorem currentQueries_append (later : List CacheEvent) :
    currentQueries (events ++ later) = later.foldl keepCurrent (currentQueries events) :=
  List.foldl_append

@[simp]
theorem origin?_append (later : List CacheEvent) :
    origin? (events ++ later) = later.foldl keepOrigin (origin? events) :=
  List.foldl_append

/-- Answers to callers are neither queries nor results. -/
@[simp]
theorem foldl_keepCurrent_sent (queries : List Nat) (waiters : List Waiter)
    (settings : BuildSettings) (lost : Waiter → Bool) :
    (waiters.map fun waiter => sent waiter settings (lost waiter)).foldl keepCurrent queries =
      queries := by
  induction waiters with
  | nil => rfl
  | cons waiter rest ih => exact ih

@[simp]
theorem foldl_keepOrigin_sent (origin : Option Origin) (waiters : List Waiter)
    (settings : BuildSettings) (lost : Waiter → Bool) :
    (waiters.map fun waiter => sent waiter settings (lost waiter)).foldl keepOrigin origin =
      origin := by
  induction waiters with
  | nil => rfl
  | cons waiter rest ih => exact ih

@[simp]
theorem foldl_keepCurrent_closed (queries : List Nat) (waiters : List Waiter) :
    (waiters.map closed).foldl keepCurrent queries = queries := by
  induction waiters with
  | nil => rfl
  | cons waiter rest ih => exact ih

/-- Taking in a result begins no query. -/
theorem currentQueries_landing (generation : Nat) (result : QueryResult) (followUp : Option Nat)
    (waiters : List Waiter) (settings : BuildSettings) (lost : Waiter → Bool) :
    currentQueries (events ++ (accepted generation result followUp ::
      waiters.map fun waiter => sent waiter settings (lost waiter))) =
      currentQueries events := by
  rw [currentQueries_append, List.foldl_cons, foldl_keepCurrent_sent]
  rfl

theorem origin?_landing (generation : Nat) (result : QueryResult) (followUp : Option Nat)
    (waiters : List Waiter) (settings : BuildSettings) (lost : Waiter → Bool) :
    origin? (events ++ (accepted generation result followUp ::
      waiters.map fun waiter => sent waiter settings (lost waiter))) =
      keepOrigin (origin? events) (accepted generation result followUp) := by
  rw [origin?_append, List.foldl_cons, foldl_keepOrigin_sent]

end CacheEvent

open CacheEvent

variable {fallback : BuildSettings} {n : Nat} {slot : Slot} {events : List CacheEvent}

/-- What is known of an entry that is not marked stale: it is current unless its
query had another follow it, and then that other one is on its way or has
failed. -/
structure Unmarked (slot : Slot) (events : List CacheEvent) (origin : Origin) : Prop where
  /-- The query on its way was not invalidated, or else the entry were marked. -/
  valid : ∀ flight, slot.flight = some flight → flight.requery = false
  /-- Without a query that followed, the entry is current. -/
  current : origin.followUp = none → origin.generation ∈ currentQueries events
  /-- With one, the entry is outdated until that one has an answer. -/
  outdated : ∀ generation, origin.followUp = some generation →
    origin.generation ∉ currentQueries events ∧
      ((∃ flight, slot.flight = some flight ∧ flight.generation = generation) ∨
        ∃ failure, accepted generation (.error failure) none ∈ events)

/-- What every life keeps true of stored settings and of the query on its way. -/
structure Provenance (fallback : BuildSettings) (n : Nat) (slot : Slot)
    (events : List CacheEvent) : Prop where
  /-- Queries have generations that were given. -/
  current_le : ∀ generation ∈ currentQueries events, generation ≤ n
  /-- So has the one on its way. -/
  flight_le : ∀ flight, slot.flight = some flight → flight.generation ≤ n
  /-- The query on its way knows whether it is current. -/
  requery_iff : ∀ flight, slot.flight = some flight →
    (flight.requery = false ↔ flight.generation ∈ currentQueries events)
  /-- Without an entry no result is stored. -/
  absent : slot.entry = none → origin? events = none
  /-- An entry holds what its query came to. -/
  stored : ∀ entry, slot.entry = some entry → ∃ origin, origin? events = some origin ∧
    entry.settings = origin.settings fallback ∧ origin.generation ≤ n ∧
    (entry.stale = false → Unmarked slot events origin)

/-- The parts of a flight that its waiting callers and their fortunes do not
touch. -/
def Slot.course (slot : Slot) : Option (Nat × Bool) :=
  slot.flight.map fun flight => (flight.generation, flight.requery)

theorem Slot.course_eq_some {generation : Nat} {requery : Bool} :
    slot.course = some (generation, requery) ↔
      ∃ flight, slot.flight = some flight ∧ flight.generation = generation ∧
        flight.requery = requery := by
  simp [Slot.course]

/-- Nothing changes for stored settings when neither the entry nor the course of
the query changes and no query, invalidation or result is among the events. -/
theorem Provenance.quiet {next : Slot} {later : List CacheEvent}
    (h : Provenance fallback n slot events) (hentry : next.entry = slot.entry)
    (hcourse : next.course = slot.course)
    (hqueries : later.foldl keepCurrent (currentQueries events) = currentQueries events)
    (horigin : later.foldl keepOrigin (origin? events) = origin? events) :
    Provenance fallback n next (events ++ later) := by
  have hback : ∀ flight, next.flight = some flight → ∃ old, slot.flight = some old ∧
      old.generation = flight.generation ∧ old.requery = flight.requery := by
    intro flight hflight
    rw [← Slot.course_eq_some, ← hcourse, Slot.course_eq_some]
    exact ⟨flight, hflight, rfl, rfl⟩
  constructor
  · rw [currentQueries_append, hqueries]
    exact h.current_le
  · intro flight hflight
    obtain ⟨old, hold, hgeneration, -⟩ := hback flight hflight
    exact hgeneration ▸ h.flight_le old hold
  · intro flight hflight
    obtain ⟨old, hold, hgeneration, hrequery⟩ := hback flight hflight
    rw [currentQueries_append, hqueries, ← hgeneration, ← hrequery]
    exact h.requery_iff old hold
  · intro hnone
    rw [origin?_append, horigin]
    exact h.absent (hentry ▸ hnone)
  · intro entry hstored
    obtain ⟨origin, hfound, hsettings, hle, hunmarked⟩ := h.stored entry (hentry ▸ hstored)
    refine ⟨origin, by rw [origin?_append, horigin, hfound], hsettings, hle, fun hfresh => ?_⟩
    obtain ⟨hvalid, hcurrent, houtdated⟩ := hunmarked hfresh
    refine ⟨?_, ?_, ?_⟩
    · intro flight hflight
      obtain ⟨old, hold, -, hrequery⟩ := hback flight hflight
      exact hrequery ▸ hvalid old hold
    · rw [currentQueries_append, hqueries]
      exact hcurrent
    · intro generation hfollow
      rw [currentQueries_append, hqueries]
      obtain ⟨hold, hflying | ⟨failure, hfailed⟩⟩ := houtdated generation hfollow
      · obtain ⟨flight, hflight, hgeneration⟩ := hflying
        obtain ⟨new, hnew, hsame, -⟩ := Slot.course_eq_some.mp
          (hcourse.trans (Slot.course_eq_some.mpr ⟨flight, hflight, rfl, rfl⟩))
        exact ⟨hold, Or.inl ⟨new, hnew, hsame.trans hgeneration⟩⟩
      · exact ⟨hold, Or.inr ⟨failure, List.mem_append_left _ hfailed⟩⟩

/-- A query begun where none was on its way is current. -/
theorem Provenance.begin (h : Provenance fallback n slot events) (idle : slot.flight = none)
    (waiters : List Waiter) :
    Provenance fallback (n + 1) (slot.begin (n + 1) waiters) (events ++ [.began (n + 1)]) := by
  have hqueries : currentQueries (events ++ [.began (n + 1)]) =
      currentQueries events ++ [n + 1] := currentQueries_append events _
  have horigins : origin? (events ++ [.began (n + 1)]) = origin? events :=
    origin?_append events _
  constructor
  · intro generation hgeneration
    rw [hqueries, List.mem_append, List.mem_singleton] at hgeneration
    rcases hgeneration with hold | rfl
    · exact Nat.le_succ_of_le (h.current_le generation hold)
    · exact Nat.le_refl _
  · intro flight hflight
    obtain rfl := Option.some.inj hflight
    exact Nat.le_refl _
  · intro flight hflight
    obtain rfl := Option.some.inj hflight
    simp [hqueries]
  · intro hnone
    rw [horigins]
    exact h.absent hnone
  · intro entry hentry
    obtain ⟨origin, hfound, hsettings, hle, hunmarked⟩ := h.stored entry hentry
    refine ⟨origin, horigins.trans hfound, hsettings, Nat.le_succ_of_le hle, fun hfresh => ?_⟩
    obtain ⟨-, hcurrent, houtdated⟩ := hunmarked hfresh
    refine ⟨?_, ?_, ?_⟩
    · intro flight hflight
      obtain rfl := Option.some.inj hflight
      rfl
    · intro hfollow
      rw [hqueries]
      exact List.mem_append_left _ (hcurrent hfollow)
    · intro generation hfollow
      obtain ⟨hold, ⟨flight, hflight, -⟩ | ⟨failure, hfailed⟩⟩ := houtdated generation hfollow
      · rw [idle] at hflight
        cases hflight
      · refine ⟨?_, Or.inr ⟨failure, List.mem_append_left _ hfailed⟩⟩
        rw [hqueries, List.mem_append, List.mem_singleton]
        rintro (hcurrent | heq)
        · exact hold hcurrent
        · omega

/-- After an invalidation nothing is current: an entry is marked, and a query on
its way is to be followed by another. -/
theorem Provenance.invalidate {next : Slot} (h : Provenance fallback n slot events)
    (hentry : next.entry = slot.markStale.entry)
    (hflight : ∀ flight, next.flight = some flight →
      flight.requery = true ∧ flight.generation ≤ n) :
    Provenance fallback n next (events ++ [.invalidated]) := by
  have hqueries : currentQueries (events ++ [.invalidated]) = [] :=
    currentQueries_append events _
  have horigins : origin? (events ++ [.invalidated]) = origin? events := origin?_append events _
  constructor
  · rw [hqueries]
    simp
  · exact fun flight hnext => (hflight flight hnext).2
  · intro flight hnext
    simp [hqueries, (hflight flight hnext).1]
  · intro hnone
    rw [horigins]
    apply h.absent
    simpa [hentry, Slot.markStale] using hnone
  · intro entry hnext
    simp only [hentry, Slot.markStale, Option.map_eq_some_iff] at hnext
    obtain ⟨old, hold, rfl⟩ := hnext
    obtain ⟨origin, hfound, hsettings, hle, -⟩ := h.stored old hold
    exact ⟨origin, horigins.trans hfound, hsettings, hle, fun hfresh => by simp at hfresh⟩

/-- The entry after a result was taken in, and where it comes from: the result
itself, or the query before if the result is a failure and there was an entry. -/
theorem Provenance.land_entry (h : Provenance fallback n slot events) (generation : Nat)
    (result : QueryResult) (followUp : Option Nat) {entry : CacheEntry}
    (hentry : (slot.land fallback result).entry = some entry) :
    (keepOrigin (origin? events) (.accepted generation result followUp) =
        some ⟨generation, result, followUp⟩ ∧
      entry = ⟨Origin.settings fallback ⟨generation, result, followUp⟩, false⟩) ∨
    (keepOrigin (origin? events) (.accepted generation result followUp) = origin? events ∧
      slot.entry = some entry ∧ ∃ failure, result = .error failure) := by
  cases result with
  | ok answer =>
    left
    obtain rfl := Option.some.inj hentry
    exact ⟨rfl, rfl⟩
  | error failure =>
    cases hold : slot.entry with
    | none =>
      left
      simp only [Slot.land, Slot.fresh?, hold, Option.isSome_none, Bool.false_eq_true, if_false,
        Option.some.injEq] at hentry
      simp [keepOrigin, h.absent hold, Origin.settings, hentry]
    | some old =>
      right
      obtain ⟨origin, hfound, -⟩ := h.stored old hold
      simp only [Slot.land, Slot.fresh?, hold, Option.isSome_some, if_true] at hentry
      exact ⟨by simp [keepOrigin, hfound], hentry, failure, rfl⟩

/-- Taking in a result leaves an entry, so that an absent one is no case. -/
private theorem land_entry_ne_none (result : QueryResult) :
    (slot.land fallback result).entry ≠ none := by
  obtain ⟨entry, hentry, -⟩ := slot.land_entry fallback result
  simp [hentry]

/-- The result of a current query makes a current entry. -/
theorem Provenance.land (h : Provenance fallback n slot events) {flight : Flight}
    (running : slot.flight = some flight) (valid : flight.requery = false)
    (result : QueryResult) (lost : Waiter → Bool) (settings : BuildSettings) :
    Provenance fallback n (slot.land fallback result)
      (events ++ (.accepted flight.generation result none ::
        flight.waiters.map fun waiter => .sent waiter settings (lost waiter))) := by
  have hcurrent := (h.requery_iff flight running).mp valid
  have hqueries := currentQueries_landing events flight.generation result none flight.waiters
    settings lost
  have horigins := origin?_landing events flight.generation result none flight.waiters
    settings lost
  refine ⟨by rw [hqueries]; exact h.current_le, by simp, by simp,
    fun hnone => absurd hnone (land_entry_ne_none result), fun entry hentry => ?_⟩
  rw [horigins]
  rcases h.land_entry flight.generation result none hentry with
    ⟨hnew, rfl⟩ | ⟨hkept, hold, failure, rfl⟩
  · refine ⟨_, hnew, rfl, h.flight_le flight running, fun _ => ⟨by simp, ?_, by simp⟩⟩
    intro _
    rw [hqueries]
    exact hcurrent
  · obtain ⟨origin, hfound, hsettings, hle, hunmarked⟩ := h.stored entry hold
    refine ⟨origin, hkept.trans hfound, hsettings, hle, fun hfresh => ⟨by simp, ?_, ?_⟩⟩
    · intro hfollow
      rw [hqueries]
      exact (hunmarked hfresh).current hfollow
    · intro generation hfollow
      rw [hqueries]
      obtain ⟨houtdated, hfate⟩ := (hunmarked hfresh).outdated generation hfollow
      refine ⟨houtdated, Or.inr ?_⟩
      rcases hfate with ⟨flying, hflying, rfl⟩ | ⟨cause, hfailed⟩
      -- The query that was to renew the entry is the one that has just failed.
      · obtain rfl := Option.some.inj (running.symm.trans hflying)
        exact ⟨failure, by simp⟩
      · exact ⟨cause, List.mem_append_left _ hfailed⟩

/-- The result of an outdated query makes an outdated entry, with the query
that follows on its way. -/
theorem Provenance.follow (h : Provenance fallback n slot events) {flight : Flight}
    (running : slot.flight = some flight) (invalid : flight.requery = true)
    (result : QueryResult) (lost : Waiter → Bool) (settings : BuildSettings) :
    Provenance fallback (n + 1) ((slot.land fallback result).begin (n + 1) [])
      (events ++ (.accepted flight.generation result (some (n + 1)) ::
        flight.waiters.map fun waiter => .sent waiter settings (lost waiter)) ++
        [.began (n + 1)]) := by
  have hle := h.flight_le flight running
  have hold : flight.generation ∉ currentQueries events := by
    rw [← h.requery_iff flight running, invalid]
    simp
  have hqueries : currentQueries (events ++ (.accepted flight.generation result (some (n + 1)) ::
      flight.waiters.map fun waiter => .sent waiter settings (lost waiter)) ++
      [.began (n + 1)]) = currentQueries events ++ [n + 1] := by
    rw [currentQueries_append, currentQueries_landing]
    rfl
  have horigins : origin? (events ++ (.accepted flight.generation result (some (n + 1)) ::
      flight.waiters.map fun waiter => .sent waiter settings (lost waiter)) ++
      [.began (n + 1)]) =
      keepOrigin (origin? events) (.accepted flight.generation result (some (n + 1))) := by
    rw [origin?_append, origin?_landing]
    rfl
  constructor
  · intro generation hgeneration
    rw [hqueries, List.mem_append, List.mem_singleton] at hgeneration
    rcases hgeneration with hcurrent | rfl
    · exact Nat.le_succ_of_le (h.current_le generation hcurrent)
    · exact Nat.le_refl _
  · intro next hnext
    obtain rfl := Option.some.inj hnext
    exact Nat.le_refl _
  · intro next hnext
    obtain rfl := Option.some.inj hnext
    rw [hqueries]
    simp
  · exact fun hnone => absurd hnone (land_entry_ne_none result)
  · intro entry hentry
    rw [horigins]
    rcases h.land_entry flight.generation result (some (n + 1)) hentry with
      ⟨hnew, rfl⟩ | ⟨hkept, hentry, -⟩
    · refine ⟨_, hnew, rfl, Nat.le_succ_of_le hle, fun _ => ⟨?_, by simp, ?_⟩⟩
      · intro next hnext
        obtain rfl := Option.some.inj hnext
        rfl
      · intro generation hfollow
        obtain rfl := Option.some.inj hfollow
        refine ⟨?_, Or.inl ⟨_, rfl, rfl⟩⟩
        rw [hqueries, List.mem_append, List.mem_singleton]
        rintro (hcurrent | heq)
        · exact hold hcurrent
        · exact absurd heq (Nat.ne_of_lt (Nat.lt_succ_of_le hle))
    · obtain ⟨origin, hfound, hsettings, hgiven, hunmarked⟩ := h.stored entry hentry
      refine ⟨origin, hkept.trans hfound, hsettings, Nat.le_succ_of_le hgiven, fun hfresh => ?_⟩
      -- An entry without the mark has no invalidated query beside it.
      have hvalid := (hunmarked hfresh).valid flight running
      rw [invalid] at hvalid
      cases hvalid

theorem Life.provenance (life : Life fallback n slot events) :
    Provenance fallback n slot events := by
  induction life with
  | start =>
    exact ⟨by simp [currentQueries], by simp [Slot.empty], by simp [Slot.empty],
      fun _ => rfl, by simp [Slot.empty]⟩
  | elsewhere _ grown ih =>
    refine ⟨fun g hg => Nat.le_trans (ih.current_le g hg) grown,
      fun f hf => Nat.le_trans (ih.flight_le f hf) grown, ih.requery_iff, ih.absent, ?_⟩
    intro entry hentry
    obtain ⟨origin, horigin, hsettings, hle, hunmarked⟩ := ih.stored entry hentry
    exact ⟨origin, horigin, hsettings, Nat.le_trans hle grown, hunmarked⟩
  | joined waiter life running ih => exact ih.quiet rfl (by simp [Slot.course, running]) rfl rfl
  | @asked n slot events waiter life idle ih =>
    have hjoined : Provenance fallback n slot (events ++ [.joined waiter]) :=
      ih.quiet rfl rfl rfl rfl
    simpa using hjoined.begin idle [waiter]
  | landed result hasGone life running valid ih => exact ih.land running valid result hasGone _
  | followed result hasGone life running invalid ih =>
    exact ih.follow running invalid result hasGone _
  | refused generation life other ih => exact ih.quiet rfl rfl rfl rfl
  | outdated life running ih =>
    have hle := ih.flight_le _ running
    refine ih.invalidate rfl fun flight hflight => ?_
    obtain rfl := Option.some.inj hflight
    exact ⟨rfl, hle⟩
  | @renewed n slot events entry life idle cached ih =>
    have hmarked : Provenance fallback n slot.markStale (events ++ [.invalidated]) :=
      ih.invalidate rfl (by simp [Slot.markStale, idle])
    simpa using hmarked.begin idle []
  | ignored life idle absent ih =>
    exact ih.invalidate (by simp [Slot.markStale, absent]) (by simp [idle])
  | @noted n slot events life ih =>
    have hnoted : Provenance fallback n slot.noteFallbackServed (events ++ []) :=
      ih.quiet rfl (by simp [Slot.course, Slot.noteFallbackServed, Function.comp_def]) rfl rfl
    rwa [List.append_nil] at hnoted
  | evicted life ih =>
    refine ⟨?_, by simp [Slot.empty], by simp [Slot.empty], ?_, by simp [Slot.empty]⟩
    · rw [currentQueries_append, List.foldl_append, foldl_keepCurrent_closed]
      exact ih.current_le
    · intro _
      simp [keepOrigin]

namespace History

/-- The stale mark of an entry, exactly.  In every history an entry without the
mark and without a query on its way holds what its query came to, and that query
began after the last invalidation if and only if no other followed it when its
result was taken in.  If another did, that one has failed. -/
theorem unmarked_entry_current_iff (options : FallbackOptions) (ops : List CacheOp)
    (document : Document) (entry : CacheEntry)
    (hentry : (after options ops).cache.entries[document]? = some entry)
    (hunmarked : entry.stale = false)
    (hidle : (after options ops).cache.flights[document]? = none) :
    ∃ origin, origin? ((after options ops).about document) = some origin ∧
      entry.settings = origin.settings ((after options ops).cache.fallback document) ∧
      (origin.generation ∈ currentQueries ((after options ops).about document) ↔
        origin.followUp = none) ∧
      ∀ generation, origin.followUp = some generation →
        ∃ failure, accepted generation (.error failure) none ∈
          (after options ops).about document := by
  have hprovenance := (lives_after options ops document).provenance
  obtain ⟨origin, hfound, hsettings, -, hknown⟩ := hprovenance.stored entry hentry
  obtain ⟨-, hcurrent, houtdated⟩ := hknown hunmarked
  refine ⟨origin, hfound, hsettings, ⟨?_, hcurrent⟩, ?_⟩
  · intro hmember
    cases hfollow : origin.followUp with
    | none => rfl
    | some generation => exact absurd hmember (houtdated generation hfollow).1
  · intro generation hfollow
    obtain ⟨-, ⟨flight, hflight, -⟩ | hfailed⟩ := houtdated generation hfollow
    · rw [Cache.slot_flight, hidle] at hflight
      cases hflight
    · exact hfailed

/-- A document is asked for, invalidated meanwhile, answered, and the query that
follows fails. -/
def overtaken (document : Document) (settings : BuildSettings) : List CacheOp :=
  [.join document 1, .invalidate [document], .complete document 1 (.ok (some settings)),
    .complete document 2 (.error (.backend "no answer"))]

theorem unmarked_entry_current_iff_overtaken :
    (after .empty (overtaken ⟨"file:///a.c"⟩ default)).cache.entries[
        (⟨"file:///a.c"⟩ : Document)]? = some ⟨default, false⟩ ∧
      (after .empty (overtaken ⟨"file:///a.c"⟩ default)).cache.flights[
        (⟨"file:///a.c"⟩ : Document)]? = none ∧
      ∃ origin,
        origin? ((after .empty (overtaken ⟨"file:///a.c"⟩ default)).about ⟨"file:///a.c"⟩) =
          some origin ∧
        origin.followUp = some 2 ∧
        (origin.generation ∈ currentQueries
            ((after .empty (overtaken ⟨"file:///a.c"⟩ default)).about ⟨"file:///a.c"⟩) ↔
          origin.followUp = none) := by
  obtain ⟨origin, hfound, -, hiff, -⟩ := unmarked_entry_current_iff .empty
    (overtaken ⟨"file:///a.c"⟩ default) ⟨"file:///a.c"⟩ ⟨default, false⟩ rfl rfl rfl
  refine ⟨rfl, rfl, origin, hfound, ?_, hiff⟩
  have hknown : some origin = some ⟨1, .ok (some default), some 2⟩ := hfound.symm
  rw [Option.some.inj hknown]

/-- An entry without the stale mark and without a query on its way need not be
current: where the query that follows an outdated one fails, the outdated answer
stays, unmarked. -/
theorem unmarked_entry_not_always_current :
    ¬ ∀ (options : FallbackOptions) (ops : List CacheOp) (document : Document)
      (entry : CacheEntry),
      (after options ops).cache.entries[document]? = some entry → entry.stale = false →
      (after options ops).cache.flights[document]? = none →
      ∃ origin, origin? ((after options ops).about document) = some origin ∧
        origin.generation ∈ currentQueries ((after options ops).about document) := by
  intro hclaim
  obtain ⟨origin, hfound, hcurrent⟩ := hclaim .empty (overtaken ⟨"file:///a.c"⟩ default)
    ⟨"file:///a.c"⟩ ⟨default, false⟩ rfl rfl rfl
  have hknown : some origin = some ⟨1, .ok (some default), some 2⟩ := hfound.symm
  have hqueries : currentQueries
      ((after .empty (overtaken ⟨"file:///a.c"⟩ default)).about ⟨"file:///a.c"⟩) = [2] := rfl
  rw [Option.some.inj hknown, hqueries] at hcurrent
  simp at hcurrent

end History

end SettingsBroker
