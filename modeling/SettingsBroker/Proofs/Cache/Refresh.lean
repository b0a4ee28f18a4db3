/-
# Stale settings and who renews them

Settings that are marked stale are served until a query replaces them, so that a stale document
which nobody asks for again would be served outdated for ever.  The mark is set by one operation,
the query is begun or awaited by others, and whether another query follows is decided by a third;
this module shows that they never come apart.  A stale document that is not being asked for is one
whose last query has failed, and it was not invalidated while that query ran, nor has it been since.

The argument looks at what has happened since the query on its way began: nothing that ends a
query, and an invalidation only if another query is to follow.  For the queries themselves it looks
at the run of operations instead, one at a time.  A query of a document that has settings was on
its way before, or was begun just now; and settings come into being only when a query ends, so that
a query never sees the first settings of its document.
-/

import SettingsBroker.Proofs.Cache.Alone
import SettingsBroker.Proofs.Cache.Invalidation
import SettingsBroker.Proofs.Cache.Keeps
import SettingsBroker.Proofs.Cache.Provenance

namespace SettingsBroker

namespace CacheEvent

/-- Nothing in the events begins or ends a query, and none is an invalidation. -/
def Undisturbed (events : List CacheEvent) : Prop :=
  (∀ event ∈ events, event.IsNeutral) ∧ .invalidated ∉ events

/-- The last query whose result was taken in has failed.  The document was not invalidated from the
time when that query began, which is the only one of its generation, until now. -/
def LastQueryFailed (events : List CacheEvent) : Prop :=
  ∃ before generation meanwhile failure since,
    events = before ++ .began generation :: meanwhile ++
      .accepted generation (.error failure) none :: since ∧
    .began generation ∉ before ∧ Undisturbed meanwhile ∧ Undisturbed since

variable {events later : List CacheEvent}

theorem Undisturbed.append (h : Undisturbed events) (hlater : Undisturbed later) :
    Undisturbed (events ++ later) := by
  refine ⟨fun event hevent => ?_, by simp [h.2, hlater.2]⟩
  obtain hold | hnew := List.mem_append.mp hevent
  · exact h.1 event hold
  · exact hlater.1 event hnew

theorem undisturbed_sent (waiters : List Waiter) (settings : BuildSettings)
    (lost : Waiter → Bool) :
    Undisturbed (waiters.map fun waiter => sent waiter settings (lost waiter)) :=
  ⟨isNeutral_sent waiters settings lost, by simp⟩

theorem LastQueryFailed.append (h : LastQueryFailed events) (hlater : Undisturbed later) :
    LastQueryFailed (events ++ later) := by
  obtain ⟨before, generation, meanwhile, failure, since, rfl, hfirst, hmeanwhile, hsince⟩ := h
  exact ⟨before, generation, meanwhile, failure, since ++ later,
    by rw [List.append_assoc, List.cons_append], hfirst, hmeanwhile, hsince.append hlater⟩

end CacheEvent

open CacheEvent

variable {fallback : BuildSettings} {n : Nat} {slot next : Slot} {events later : List CacheEvent}

/-! ## From the beginning of a query to its end -/

/-- A generation that begins a query has not begun one before. -/
theorem Numbered.began_not_mem {generation : Nat}
    (h : Numbered n (events ++ .began generation :: later)) : .began generation ∉ events := by
  intro hmem
  have hless := (List.pairwise_append.mp h.growing).2.2 _ hmem _ List.mem_cons_self
  exact Nat.lt_irrefl generation (hless generation generation rfl rfl)

/-- What every life keeps true of the query on its way and of stale settings. -/
structure Refreshing (slot : Slot) (events : List CacheEvent) : Prop where
  /-- The query on its way has begun, and nothing has ended it; the document was invalidated
  meanwhile only if another query is to follow. -/
  running : ∀ flight, slot.flight = some flight → ∃ before meanwhile,
    events = before ++ .began flight.generation :: meanwhile ∧
    (∀ event ∈ meanwhile, event.IsNeutral) ∧ (flight.requery = false → .invalidated ∉ meanwhile)
  /-- Where settings are stale and nothing is asked, the last query has failed. -/
  failed : ∀ entry, slot.entry = some entry → entry.stale = true → slot.flight = none →
    LastQueryFailed events

namespace Refreshing

/-- Whatever happened before, a query that begins now has just begun. -/
theorem begin (slot : Slot) (events : List CacheEvent) (generation : Nat)
    (waiters : List Waiter) :
    Refreshing (slot.begin generation waiters) (events ++ [.began generation]) where
  running flight hflight := by
    obtain rfl := Option.some.inj hflight
    exact ⟨events, [], rfl, by simp, by simp⟩
  failed _ _ _ hidle := nomatch hidle

/-- Nothing changes when the settings and the course of the query stay and nothing happens to
either. -/
theorem quiet (h : Refreshing slot events) (hentry : next.entry = slot.entry)
    (hcourse : next.course = slot.course) (undisturbed : Undisturbed later) :
    Refreshing next (events ++ later) where
  running flight hflight := by
    obtain ⟨old, hold, hgeneration, hrequery⟩ := Slot.course_eq_some.mp
      (hcourse.symm.trans (Slot.course_eq_some.mpr ⟨flight, hflight, rfl, rfl⟩))
    obtain ⟨before, meanwhile, rfl, hneutral, hvalid⟩ := h.running old hold
    refine ⟨before, meanwhile ++ later, by simp [hgeneration], fun event hevent => ?_, ?_⟩
    · obtain hearlier | hnew := List.mem_append.mp hevent
      · exact hneutral event hearlier
      · exact undisturbed.1 event hnew
    · intro hunmarked
      simp [hvalid (hrequery.trans hunmarked), undisturbed.2]
  failed entry hstored hstale hidle := by
    have hslot : slot.flight = none := by simpa [Slot.course, hidle] using hcourse.symm
    exact (h.failed entry (hentry ▸ hstored) hstale hslot).append undisturbed

/-- An invalidation while a query runs asks for another to follow. -/
theorem outdate (h : Refreshing slot events) {flight : Flight}
    (running : slot.flight = some flight) :
    Refreshing { slot.markStale with flight := some { flight with requery := true } }
      (events ++ [.invalidated]) where
  running marked hmarked := by
    obtain rfl := Option.some.inj hmarked
    obtain ⟨before, meanwhile, rfl, hneutral, -⟩ := h.running flight running
    refine ⟨before, meanwhile ++ [.invalidated], by simp, fun event hevent => ?_, nofun⟩
    obtain hearlier | hnew := List.mem_append.mp hevent
    · exact hneutral event hearlier
    · rw [List.mem_singleton.mp hnew]
      exact ⟨rfl, nofun⟩
  failed _ _ _ hidle := nomatch hidle

/-- Only a failure leaves the mark in place when a query ends, and where no other follows, the
document was not invalidated while that query ran. -/
theorem land (h : Refreshing slot events) (numbered : Numbered n events) {flight : Flight}
    (running : slot.flight = some flight) (valid : flight.requery = false) (result : QueryResult)
    (settings : BuildSettings) (lost : Waiter → Bool) :
    Refreshing (slot.land fallback result)
      (events ++ (.accepted flight.generation result none ::
        flight.waiters.map fun waiter => .sent waiter settings (lost waiter))) where
  running other hother := by
    rw [Slot.land_flight] at hother
    cases hother
  failed entry hentry hstale _ := by
    cases result with
    | ok answer =>
      rw [Slot.land_ok] at hentry
      rw [← Option.some.inj hentry] at hstale
      cases hstale
    | error failure =>
      obtain ⟨before, meanwhile, rfl, hneutral, hvalid⟩ := h.running flight running
      exact ⟨before, flight.generation, meanwhile, failure, _, rfl, numbered.began_not_mem,
        ⟨hneutral, hvalid valid⟩, undisturbed_sent flight.waiters settings lost⟩

end Refreshing

theorem Life.refreshing (life : Life fallback n slot events) : Refreshing slot events := by
  induction life with
  | start => exact ⟨nofun, nofun⟩
  | elsewhere life grown ih => exact ih
  | joined waiter life running ih =>
    exact ih.quiet rfl (by simp [Slot.course, running]) (by simp [Undisturbed, IsNeutral, number?])
  | @asked n slot events waiter life idle ih =>
    rw [List.append_cons]
    exact .begin slot (events ++ [.joined waiter]) (n + 1) [waiter]
  | landed result hasGone life running valid ih =>
    exact ih.land life.tracked.toNumbered running valid result _ hasGone
  | followed result hasGone life running invalid ih => exact .begin _ _ _ []
  | refused generation life other ih =>
    exact ih.quiet rfl rfl (by simp [Undisturbed, IsNeutral, number?])
  | outdated life running ih => exact ih.outdate running
  | @renewed n slot events entry life idle cached ih =>
    rw [List.append_cons]
    exact .begin slot.markStale (events ++ [.invalidated]) (n + 1) []
  | ignored life idle absent ih =>
    -- without settings and without a query there is nothing to say
    exact ⟨by simp [idle], by simp [absent]⟩
  | @noted n slot events life ih =>
    have hcourse : slot.noteFallbackServed.course = slot.course := by
      simp [Slot.course, Slot.noteFallbackServed, Function.comp_def]
    have hnoted : Refreshing slot.noteFallbackServed (events ++ []) :=
      ih.quiet rfl hcourse (by simp [Undisturbed])
    rwa [List.append_nil] at hnoted
  | evicted life ih => exact ⟨nofun, nofun⟩

/-! ## What queries are begun for -/

/-- A document has settings, and the query of a generation is on its way for it. -/
def Slot.Renewing (slot : Slot) (generation : Nat) : Prop :=
  slot.entry.isSome ∧ slot.flight.map (·.generation) = some generation

/-- As long as no query ends, a document with settings had them before, and its query was on its
way or has begun. -/
theorem Slot.Renewing.before {touched : Prop} {generation : Nat} {begun : List Nat}
    (renewing : next.Renewing generation) (advance : slot.Advance touched next begun)
    (keeps : slot.Keeps next) :
    slot.entry.isSome ∧ (slot.Renewing generation ∨ generation ∈ begun) := by
  obtain ⟨hstored, hrunning⟩ := renewing
  have hentry : slot.entry.isSome := by
    rw [← Option.isSome_map, ← keeps.settings, Option.isSome_map]
    exact hstored
  refine ⟨hentry, ?_⟩
  cases advance with
  | carried before after same =>
    left
    rw [after, Option.map_some, same] at hrunning
    exact ⟨hentry, by rw [before]; exact hrunning⟩
  | begun before after =>
    right
    rw [after, Option.map_some, Option.some.injEq] at hrunning
    rw [hrunning]
    exact List.mem_singleton_self generation
  | idle before after =>
    rw [after] at hrunning
    cases hrunning

namespace History

/-- What can make a query begin for a document that then has settings. -/
inductive Renews (h : History) (document : Document) : CacheOp → Prop where
  | /-- The document is invalidated with others. -/
    invalidated {documents : List Document} (listed : document ∈ documents) :
      Renews h document (.invalidate documents)
  | /-- Every document is invalidated. -/
    allInvalidated : Renews h document .invalidateAll
  | /-- The result of a query is taken in that another is to follow. -/
    followed {flight : Flight} (running : h.cache.flights[document]? = some flight)
      (outdated : flight.requery = true) (result : QueryResult) :
      Renews h document (.complete document flight.generation result)
  | /-- A caller waits for a document that has settings. -/
    asked (stored : document ∈ h.cache.entries) (waiter : Waiter) :
      Renews h document (.join document waiter)

variable {h : History} {document : Document} {generation : Nat}

/-- The end of a query leaves a document with settings and a query only where it begins the query
that follows. -/
theorem renewing_complete {other : Document} {ended : Nat} {result : QueryResult}
    (renewing : ((h.perform (.complete other ended result)).cache.slot document).Renewing
      generation) :
    (h.cache.slot document).Renewing generation ∨
      h.Renews document (.complete other ended result) ∧
        (document, generation) ∈ h.started (.complete other ended result) := by
  rw [cache_perform_complete] at renewing
  rw [started_complete]
  obtain ⟨flight, hflight, rfl⟩ | hother := h.cache.current_or_other other ended
  · obtain ⟨hanswer, hslot, -, -⟩ := Cache.complete_of_current h.hasGone result hflight
    rw [hslot] at renewing
    by_cases hself : document = other
    · subst hself
      right
      rw [Function.update_self, Slot.complete, Cache.slot_flight, hflight, Option.any_some]
        at renewing
      obtain ⟨-, hrunning⟩ := renewing
      cases hrequery : flight.requery with
      | false =>
        rw [hrequery, if_neg Bool.false_ne_true, Slot.land_flight] at hrunning
        cases hrunning
      | true =>
        rw [hrequery, if_pos rfl] at hrunning
        obtain rfl := Option.some.inj hrunning
        refine ⟨.followed hflight hrequery result, ?_⟩
        rw [hanswer, Option.bind_some, Cache.completion, hrequery]
        exact List.mem_singleton_self _
    · rw [Function.update_of_ne hself] at renewing
      exact .inl renewing
  · rw [Cache.complete_of_not_current h.hasGone result hother] at renewing
    exact .inl renewing

/-- One operation: a query of a document with settings was on its way before and the document had
settings then, or the operation is one that renews and has begun the query. -/
theorem renewing_perform (op : CacheOp)
    (renewing : ((h.perform op).cache.slot document).Renewing generation) :
    (h.cache.slot document).Renewing generation ∨
      h.Renews document op ∧ (document, generation) ∈ h.started op := by
  cases op with
  | join other waiter =>
    have hadvance := (Cache.Advance.join h.cache other waiter).slots document
    obtain ⟨hstored, hold | hbegun⟩ :=
      renewing.before hadvance (Cache.Keeps.join h.cache other waiter document)
    · exact .inl hold
    · rw [Cache.mem_generationsOf, ← started_join] at hbegun
      obtain rfl : document = other := by
        rw [started_join, Option.mem_toList, Option.map_eq_some_iff] at hbegun
        obtain ⟨_, -, hpair⟩ := hbegun
        exact (congrArg Prod.fst hpair).symm
      exact .inr ⟨.asked (Std.ExtTreeMap.mem_iff_isSome_getElem?.mpr hstored) waiter, hbegun⟩
  | complete other ended result => exact renewing_complete renewing
  | invalidate documents =>
    have hadvance := (Cache.Advance.invalidate h.cache documents).slots document
    obtain ⟨-, hold | hbegun⟩ :=
      renewing.before hadvance (Cache.Keeps.invalidate h.cache documents document)
    · exact .inl hold
    · have hlisted : document ∈ documents :=
        List.count_pos_iff.mp ((h.cache.listed documents document).listed_of_begun hbegun)
      rw [started_invalidate, ← Cache.mem_generationsOf]
      exact .inr ⟨.invalidated hlisted, hbegun⟩
  | invalidateAll =>
    have hadvance := (Cache.Advance.invalidateAll h.cache).slots document
    obtain ⟨-, hold | hbegun⟩ :=
      renewing.before hadvance (Cache.Keeps.invalidateAll h.cache document)
    · exact .inl hold
    · rw [started_invalidateAll, ← Cache.mem_generationsOf]
      exact .inr ⟨.allInvalidated, hbegun⟩
  | noteFallbackServed other =>
    have hadvance := (Cache.Advance.noteFallbackServed h.cache other).slots document
    obtain ⟨-, hold | hbegun⟩ :=
      renewing.before hadvance (Cache.Keeps.noteFallbackServed h.cache other document)
    · exact .inl hold
    · cases hbegun
  | evict other =>
    left
    rw [perform_cache, outcome, h.cache.slot_evict other] at renewing
    by_cases hself : document = other
    · subst hself
      rw [Function.update_self] at renewing
      cases renewing.1
    · rwa [Function.update_of_ne hself] at renewing
  | hangUp waiter => exact .inl renewing

/-- A run: the operation that began the query of a document with settings, since when the document
has had settings and the query has been on its way. -/
theorem exists_renews (options : FallbackOptions) (ops : List CacheOp)
    (renewing : ((after options ops).cache.slot document).Renewing generation) :
    ∃ earlier op later, ops = earlier ++ op :: later ∧
      (after options earlier).Renews document op ∧
      (document, generation) ∈ (after options earlier).started op ∧
      ∀ meanwhile, meanwhile <+: later →
        ((after options (earlier ++ op :: meanwhile)).cache.slot document).Renewing generation := by
  induction ops using List.reverseRecOn with
  | nil => cases renewing.1
  | append_singleton ops last ih =>
    have hafter : after options (ops ++ [last]) = (after options ops).perform last := by
      simp [after]
    rw [hafter] at renewing
    obtain hold | ⟨hrenews, hstarted⟩ := renewing_perform last renewing
    · obtain ⟨earlier, op, later, rfl, hrenews, hstarted, hsince⟩ := ih hold
      refine ⟨earlier, op, later ++ [last], by simp, hrenews, hstarted, fun meanwhile hprefix => ?_⟩
      obtain rfl | hprefix := List.prefix_concat_iff.mp hprefix
      · rw [← List.cons_append, ← List.append_assoc, hafter]
        exact renewing
      · exact hsince meanwhile hprefix
    · refine ⟨ops, last, [], rfl, hrenews, hstarted, fun meanwhile hprefix => ?_⟩
      obtain rfl := List.prefix_nil.mp hprefix
      rw [hafter]
      exact renewing

/-- Stale settings are being renewed, or the query that was to renew them has failed.  In every
history, where the settings of a document are stale and no query is on its way for it, the last
result that was taken in for it was a failure, and the document was not invalidated while that
query ran, nor has it been since.  And a query that is on its way for a document with settings was
begun by an invalidation, in the place of a query that was invalidated while it ran, or by a caller
that came to wait when the document had settings; it has had them ever since. -/
theorem stale_settings_renewing_or_failed (options : FallbackOptions) (ops : List CacheOp)
    (document : Document) :
    let h := after options ops
    (∀ entry, h.cache.entries[document]? = some entry → entry.stale = true →
      h.cache.flights[document]? = none → LastQueryFailed (h.about document)) ∧
    ∀ generation, (h.cache.slot document).Renewing generation →
      ∃ earlier op later, ops = earlier ++ op :: later ∧
        (after options earlier).Renews document op ∧
        (document, generation) ∈ (after options earlier).started op ∧
        ∀ meanwhile, meanwhile <+: later →
          ((after options (earlier ++ op :: meanwhile)).cache.slot document).Renewing
            generation := by
  intro h
  have hrefreshing := (lives_after options ops document).refreshing
  exact ⟨hrefreshing.failed, fun generation => exists_renews options ops⟩

/-- A document is answered and invalidated, the query that is to renew its settings fails, and
then a caller asks again. -/
theorem stale_settings_renewing_or_failed_askedAgain :
    let document : Document := ⟨"file:///a.c"⟩
    let failed := answeredOnce document default ++ failingRefresh document
    let again := failed ++ [.join document 2]
    ((after .empty failed).cache.entries[document]?.map (·.stale) = some true ∧
      (after .empty failed).cache.flights[document]? = none ∧
      LastQueryFailed ((after .empty failed).about document)) ∧
    ((after .empty again).cache.slot document).Renewing 3 ∧
      ∃ earlier op later, again = earlier ++ op :: later ∧
        (after .empty earlier).Renews document op ∧
        (document, 3) ∈ (after .empty earlier).started op := by
  intro document failed again
  have hmark : (after .empty failed).cache.entries[document]?.map (·.stale) = some true := by
    decide +kernel
  have hidle : (after .empty failed).cache.flights[document]? = none := by decide +kernel
  have hrenewing : ((after .empty again).cache.slot document).Renewing 3 :=
    ⟨by decide +kernel, by decide +kernel⟩
  obtain ⟨entry, hentry, hstale⟩ := Option.map_eq_some_iff.mp hmark
  obtain ⟨hfailed, -⟩ := stale_settings_renewing_or_failed .empty failed document
  obtain ⟨-, hbegun⟩ := stale_settings_renewing_or_failed .empty again document
  obtain ⟨earlier, op, later, hops, hrenews, hstarted, -⟩ := hbegun 3 hrenewing
  exact ⟨⟨hmark, hidle, hfailed entry hentry hstale hidle⟩, hrenewing, earlier, op, later, hops,
    hrenews, hstarted⟩

end History

end SettingsBroker
