/-
# Invalidating many documents at once

A list of documents is invalidated one document after another, so that what is done to a document
that is listed again depends on what was done to it before.  Seen at one document the whole list
comes down to the number of times the document is in it, and of that number to two questions:
whether the document is listed at all, and whether it is listed again.

The first decides which entries become stale, which queries are begun and which of those on their
way are marked.  The second decides a single mark: a query that is begun for a document finds its
own mark set where the document is listed again, though nothing has been invalidated since it
began.  When everything is invalidated, the documents that are listed twice are those that have an
entry and a query on its way, for which none is begun; so no new query is marked.
-/

import Mathlib.Data.List.Basic
import SettingsBroker.Proofs.Cache.History
import SettingsBroker.Proofs.Cache.Twin

namespace SettingsBroker

namespace Slot

/-- There are settings to renew and nothing is asked. -/
def Renewable (slot : Slot) : Prop := slot.flight = none ∧ slot.entry.isSome

instance (slot : Slot) : Decidable slot.Renewable := inferInstanceAs (Decidable (_ ∧ _))

/-- The query on its way will be followed by another. -/
def Marked (slot : Slot) : Prop := ∃ flight, slot.flight = some flight ∧ flight.requery = true

/-- Two slots are the same but for the generations of their queries. -/
def Alike (slot other : Slot) : Prop := slot.renumber (fun _ => 0) = other.renumber fun _ => 0

/-! ## A document that is listed a number of times -/

/-- What becomes of a slot whose document is listed a number of times, with the generations of the
queries that are begun for it. -/
inductive Listed (times : Nat) (slot : Slot) : Slot → List Nat → Prop where
  | /-- The document is not listed. -/
    never (unlisted : times = 0) : Listed times slot slot []
  | /-- There is nothing to mark and nothing to renew. -/
    vacant (idle : slot.flight = none) (absent : slot.entry = none) : Listed times slot slot []
  | /-- The query on its way will be followed by another. -/
    outdated {flight : Flight} (listed : 0 < times) (running : slot.flight = some flight) :
      Listed times slot { slot.markStale with flight := some { flight with requery := true } } []
  | /-- A query is begun, and is marked where the document is listed again. -/
    renewed (generation : Nat) (listed : 0 < times) (renewable : slot.Renewable) :
      Listed times slot
        { slot.markStale with flight := some ⟨generation, [], decide (1 < times), false⟩ }
        [generation]

theorem markStale_markStale (slot : Slot) : slot.markStale.markStale = slot.markStale := by
  simp [markStale, Function.comp_def]

namespace Listed

variable {slot next other : Slot} {times again : Nat} {begun later : List Nat}

/-- The document is listed once more in front. -/
theorem cons (generation : Nat) (h : (slot.invalidate generation).Listed times next later) :
    slot.Listed (times + 1) next
      ((if slot.flight.isNone ∧ slot.entry.isSome then some generation else none).toList ++
        later) := by
  cases hflight : slot.flight with
  | some flight =>
    have hinvalid : slot.invalidate generation =
        { slot.markStale with flight := some { flight with requery := true } } := by
      simp [Slot.invalidate, hflight]
    rw [hinvalid] at h
    have hmarked : slot.Listed (times + 1)
        { slot.markStale with flight := some { flight with requery := true } } [] :=
      .outdated (Nat.succ_pos times) hflight
    cases h with
    | never => exact hmarked
    | vacant idle => cases idle
    | outdated listed running =>
      obtain rfl := Option.some.inj running
      rw [← markStale_markStale] at hmarked
      exact hmarked
    | renewed _ _ renewable => cases renewable.1
  | none =>
    cases hentry : slot.entry with
    | none =>
      have hinvalid : slot.invalidate generation = slot := by
        simp [Slot.invalidate, hflight, hentry]
      rw [hinvalid] at h
      cases h with
      | never => exact .vacant hflight hentry
      | vacant => exact .vacant hflight hentry
      | outdated _ running => cases hflight.symm.trans running
      | renewed _ _ renewable => simp [Renewable, hentry] at renewable
    | some entry =>
      have hrenewable : slot.Renewable := ⟨hflight, by rw [hentry]; rfl⟩
      have hinvalid : slot.invalidate generation = slot.markStale.begin generation [] := by
        simp [Slot.invalidate, hflight, hentry]
      have hrenewed := renewed generation (Nat.succ_pos times) hrenewable
      rw [hinvalid] at h
      cases h with
      | never unlisted =>
        subst unlisted
        exact hrenewed
      | vacant idle => cases idle
      | outdated listed running =>
        obtain rfl := Option.some.inj running
        rw [decide_eq_true (Nat.succ_lt_succ listed), ← markStale_markStale] at hrenewed
        exact hrenewed
      | renewed _ _ renewable => cases renewable.1

variable (h : slot.Listed times next begun)

include h

theorem length_begun : begun.length = if 0 < times ∧ slot.Renewable then 1 else 0 := by
  cases h with
  | never unlisted => simp [unlisted]
  | vacant _ absent => simp [Renewable, absent]
  | outdated _ running => simp [Renewable, running]
  | renewed _ listed renewable => simp [listed, renewable]

theorem entry_eq : next.entry =
    slot.entry.map fun entry => { entry with stale := entry.stale || decide (0 < times) } := by
  cases h with
  | never unlisted => simp [unlisted]
  | vacant _ absent => simp [absent]
  | outdated listed => simp [markStale, listed]
  | renewed _ listed => simp [markStale, listed]

theorem shown_eq : next.shown = slot.shown := by
  cases h <;> rfl

theorem eq_of_idle (idle : 0 < times → slot.entry = none ∧ slot.flight = none) : next = slot := by
  cases h with
  | never => rfl
  | vacant => rfl
  | outdated listed running => cases (idle listed).2.symm.trans running
  | renewed _ listed renewable => simp [Renewable, (idle listed).1] at renewable

theorem flight_of_running {flight : Flight} (running : slot.flight = some flight) :
    next.flight = some { flight with requery := flight.requery || decide (0 < times) } := by
  cases h with
  | never unlisted => simp [running, unlisted]
  | vacant idle => cases idle.symm.trans running
  | outdated listed running' =>
    obtain rfl := Option.some.inj (running'.symm.trans running)
    simp [listed]
  | renewed _ _ renewable => cases renewable.1.symm.trans running

theorem flight_of_begun {generation : Nat} (hbegun : generation ∈ begun) :
    next.flight = some ⟨generation, [], decide (1 < times), false⟩ := by
  cases h with
  | renewed => rw [List.mem_singleton.mp hbegun]
  | _ => cases hbegun

theorem listed_of_begun {generation : Nat} (hbegun : generation ∈ begun) : 0 < times := by
  cases h with
  | renewed _ listed => exact listed
  | _ => cases hbegun

theorem renewable_of_begun {generation : Nat} (hbegun : generation ∈ begun) : slot.Renewable := by
  cases h with
  | renewed _ _ renewable => exact renewable
  | _ => cases hbegun

theorem flight_of_idle (idle : slot.flight = none) (settled : ¬ (0 < times ∧ slot.Renewable)) :
    next.flight = none := by
  cases h with
  | never => exact idle
  | vacant => exact idle
  | outdated _ running => cases idle.symm.trans running
  | renewed _ listed renewable => exact absurd ⟨listed, renewable⟩ settled

theorem marked_iff : next.Marked ↔
    slot.Marked ∨ (0 < times ∧ slot.flight.isSome) ∨ (1 < times ∧ slot.Renewable) := by
  cases h with
  | never unlisted => simp [unlisted]
  | vacant _ absent => simp [Renewable, *]
  | outdated listed running => simp [Marked, running, listed]
  | renewed _ listed renewable => simp [Marked, renewable, renewable.1]

theorem flight_of_renewable (listed : 0 < times) (renewable : slot.Renewable) :
    ∃ generation, next.flight = some ⟨generation, [], decide (1 < times), false⟩ := by
  cases h with
  | never unlisted => omega
  | vacant _ absent => simp [Renewable, absent] at renewable
  | outdated _ running => cases renewable.1.symm.trans running
  | renewed generation => exact ⟨generation, rfl⟩

/-- Where a document is listed in both or in neither of two lists, they come to the same unless a
query is begun for it and it is listed again in only one of them. -/
theorem alike_iff (h' : slot.Listed again other later) (same : 0 < times ↔ 0 < again) :
    next.Alike other ↔ (0 < times → slot.Renewable → (1 < times ↔ 1 < again)) := by
  have hentry : next.entry = other.entry := by
    rw [h.entry_eq, h'.entry_eq, decide_eq_decide.mpr same]
  have hshown : next.shown = other.shown := h.shown_eq.trans h'.shown_eq.symm
  by_cases hbegins : 0 < times ∧ slot.Renewable
  · obtain ⟨listed, renewable⟩ := hbegins
    obtain ⟨generation, hflight⟩ := h.flight_of_renewable listed renewable
    obtain ⟨generation', hflight'⟩ := h'.flight_of_renewable (same.mp listed) renewable
    simp [Alike, renumber, Flight.renumber, hentry, hshown, hflight, hflight', listed, renewable]
  · have hflight : next.flight = other.flight := by
      cases hrunning : slot.flight with
      | some flight =>
        rw [h.flight_of_running hrunning, h'.flight_of_running hrunning, decide_eq_decide.mpr same]
      | none =>
        rw [h.flight_of_idle hrunning hbegins,
          h'.flight_of_idle hrunning fun hother => hbegins ⟨same.mpr hother.1, hother.2⟩]
    have hequal : next = other := Slot.ext hentry hflight hshown
    exact iff_of_true (congrArg _ hequal) fun listed renewable =>
      absurd ⟨listed, renewable⟩ hbegins

end Listed

end Slot

namespace Cache

variable (cache : Cache) (documents : List Document)

/-- Of a list only the number of times counts that a document is in it. -/
theorem listed (document : Document) :
    (cache.slot document).Listed (documents.count document)
      ((cache.invalidate documents).1.slot document)
      (generationsOf (cache.invalidate documents).2 document) := by
  induction documents generalizing cache with
  | nil => exact .never rfl
  | cons first rest ih =>
    have hrest := ih (cache.invalidateOne first).1
    simp only [invalidate, generationsOf_append]
    by_cases hself : first = document
    · subst hself
      rw [slot_invalidateOne, Function.update_self] at hrest
      rw [List.count_cons_self, generationsOf_self, invalidateOne_started]
      exact hrest.cons (cache.lastGeneration + 1)
    · rw [slot_invalidateOne, Function.update_of_ne (Ne.symm hself)] at hrest
      rw [List.count_cons_of_ne hself, generationsOf_other hself]
      exact hrest

theorem entries_invalidate (document : Document) :
    (cache.invalidate documents).1.entries[document]? =
      cache.entries[document]?.map fun entry =>
        { entry with stale := entry.stale || decide (document ∈ documents) } := by
  simpa only [List.count_pos_iff, slot_entry] using (cache.listed documents document).entry_eq

theorem flights_invalidate_of_running {document : Document} {flight : Flight}
    (running : cache.flights[document]? = some flight) :
    (cache.invalidate documents).1.flights[document]? =
      some { flight with requery := flight.requery || decide (document ∈ documents) } := by
  simpa only [List.count_pos_iff, slot_flight] using
    (cache.listed documents document).flight_of_running running

theorem length_generationsOf_invalidate (document : Document) :
    (generationsOf (cache.invalidate documents).2 document).length =
      if document ∈ documents ∧ (cache.slot document).Renewable then 1 else 0 := by
  simpa only [List.count_pos_iff] using (cache.listed documents document).length_begun

theorem marked_invalidate_iff (document : Document) :
    ((cache.invalidate documents).1.slot document).Marked ↔
      (cache.slot document).Marked ∨
        (document ∈ documents ∧ cache.flights[document]?.isSome) ∨
        (1 < documents.count document ∧ (cache.slot document).Renewable) := by
  simpa only [List.count_pos_iff, slot_flight] using (cache.listed documents document).marked_iff

/-- Two lists of the same documents come to the same unless a document whose query they begin is
listed again in only one of them. -/
theorem alike_invalidate_iff {others : List Document} {document : Document}
    (same : document ∈ others ↔ document ∈ documents) :
    ((cache.invalidate documents).1.slot document).Alike
        ((cache.invalidate others).1.slot document) ↔
      (document ∈ documents → (cache.slot document).Renewable →
        (1 < documents.count document ↔ 1 < others.count document)) := by
  rw [(cache.listed documents document).alike_iff (cache.listed others document)]
  · rw [List.count_pos_iff]
  · rw [List.count_pos_iff, List.count_pos_iff, same]

/-- A document that can be renewed has no query of its own that could be marked. -/
theorem not_marked_of_renewable {slot : Slot} (renewable : slot.Renewable) : ¬ slot.Marked := by
  rintro ⟨flight, hflight, -⟩
  cases renewable.1.symm.trans hflight

/-- A list calls for one query per document exactly if it repeats no document whose query it
begins.  Whatever is repeated, it begins one query for each document in it that has an entry and no
query on its way, and none for any other; it marks the entries of its documents stale and their
queries on the way for a follow-up, and touches nothing else.  Only a new query is marked too where
its document is listed again.  So the marks are set on exactly those queries that were on
their way before if and only if no document with a new query is listed twice, and two lists of the
same documents come to the same, up to generations, if and only if they agree on which of these
are listed again. -/
theorem invalidate_marks_running_iff (cache : Cache) (documents : List Document) :
    let next := (cache.invalidate documents).1
    let started := (cache.invalidate documents).2
    (∀ document, (generationsOf started document).length =
      if document ∈ documents ∧ (cache.slot document).Renewable then 1 else 0) ∧
    (∀ document : Document, next.entries[document]? = cache.entries[document]?.map fun entry =>
      { entry with stale := entry.stale || decide (document ∈ documents) }) ∧
    (∀ document : Document,
      (document ∈ documents →
        cache.entries[document]? = none ∧ cache.flights[document]? = none) →
      next.slot document = cache.slot document) ∧
    (∀ (document : Document) (flight : Flight), cache.flights[document]? = some flight →
      next.flights[document]? =
        some { flight with requery := flight.requery || decide (document ∈ documents) }) ∧
    (∀ document generation, (document, generation) ∈ started → next.flights[document]? =
      some ⟨generation, [], decide (1 < documents.count document), false⟩) ∧
    ((∀ document, (next.slot document).Marked ↔
        (cache.slot document).Marked ∨
          (document ∈ documents ∧ cache.flights[document]?.isSome)) ↔
      ∀ document, (cache.slot document).Renewable → documents.count document ≤ 1) ∧
    ∀ others : List Document, (∀ document, document ∈ others ↔ document ∈ documents) →
      ((∀ document, (next.slot document).Alike
          ((cache.invalidate others).1.slot document)) ↔
        ∀ document ∈ documents, (cache.slot document).Renewable →
          (1 < documents.count document ↔ 1 < others.count document)) := by
  intro next started
  refine ⟨cache.length_generationsOf_invalidate documents, cache.entries_invalidate documents,
    ?untouched, fun document flight => cache.flights_invalidate_of_running documents, ?begun,
    ?marks, ?same⟩
  case untouched =>
    intro document hidle
    exact (cache.listed documents document).eq_of_idle fun listed =>
      hidle (List.count_pos_iff.mp listed)
  case begun =>
    intro document generation hstarted
    exact (cache.listed documents document).flight_of_begun (mem_generationsOf.mpr hstarted)
  case marks =>
    refine forall_congr' fun document => ?_
    rw [cache.marked_invalidate_iff documents document]
    constructor
    · intro hexact renewable
      by_contra hagain
      have hmarked := hexact.mp (.inr (.inr ⟨Nat.lt_of_not_le hagain, renewable⟩))
      obtain hmarked | ⟨-, hrunning⟩ := hmarked
      · exact not_marked_of_renewable renewable hmarked
      · rw [← slot_flight, renewable.1] at hrunning
        cases hrunning
    · intro honce
      constructor
      · rintro (hmarked | hrunning | ⟨hagain, renewable⟩)
        · exact .inl hmarked
        · exact .inr hrunning
        · exact absurd hagain (Nat.not_lt_of_le (honce renewable))
      · rintro (hmarked | hrunning)
        · exact .inl hmarked
        · exact .inr (.inl hrunning)
  case same =>
    intro others hsame
    exact forall_congr' fun document => cache.alike_invalidate_iff documents (hsame document)

/-- Three documents: one has settings, one is asked for, and one has settings that are being
renewed. -/
def gathered (kept asked renewed : Document) : List CacheOp :=
  [.join kept 1, .complete kept 1 (.ok none), .join renewed 2, .complete renewed 2 (.ok none),
    .invalidate [renewed], .join asked 3]

theorem renewable_gathered :
    ((History.after .empty (gathered ⟨"file:///a.c"⟩ ⟨"file:///b.c"⟩ ⟨"file:///c.c"⟩)).cache.slot
      ⟨"file:///a.c"⟩).Renewable := by
  decide +kernel

/-- A list that repeats only a document that is being asked for. -/
theorem invalidate_marks_running_iff_asked :
    let kept : Document := ⟨"file:///a.c"⟩
    let asked : Document := ⟨"file:///b.c"⟩
    let cache := (History.after .empty (gathered kept asked ⟨"file:///c.c"⟩)).cache
    (∀ document, (cache.slot document).Renewable → [asked, kept, asked].count document ≤ 1) ∧
      (∀ document, document ∈ [kept, asked] ↔ document ∈ [asked, kept, asked]) ∧
      (generationsOf (cache.invalidate [asked, kept, asked]).2 kept).length = 1 ∧
      (∀ document, ((cache.invalidate [asked, kept, asked]).1.slot document).Marked ↔
        (cache.slot document).Marked ∨
          (document ∈ [asked, kept, asked] ∧ cache.flights[document]?.isSome)) ∧
      ∀ document, ((cache.invalidate [asked, kept, asked]).1.slot document).Alike
        ((cache.invalidate [kept, asked]).1.slot document) := by
  intro kept asked cache
  have hasked : ¬ (cache.slot asked).Renewable := by decide +kernel
  have honce : ∀ document, (cache.slot document).Renewable →
      [asked, kept, asked].count document ≤ 1 := by
    intro document renewable
    have hother : asked ≠ document := by
      rintro rfl
      exact hasked renewable
    rw [List.count_cons_of_ne hother, List.count_cons, List.count_cons_of_ne hother,
      List.count_nil]
    split <;> omega
  have hsame : ∀ document, document ∈ [kept, asked] ↔ document ∈ [asked, kept, asked] := by
    intro document
    simp only [List.mem_cons, List.not_mem_nil, or_false]
    tauto
  obtain ⟨hbegun, -, -, -, -, hmarks, halike⟩ :=
    invalidate_marks_running_iff cache [asked, kept, asked]
  refine ⟨honce, hsame, ?_, hmarks.mpr honce, (halike [kept, asked] hsame).mpr ?_⟩
  · rw [hbegun kept, if_pos ⟨by simp, renewable_gathered⟩]
  · intro document _ renewable
    have hfirst := honce document renewable
    have hshorter : [kept, asked].count document ≤ [asked, kept, asked].count document :=
      List.count_le_count_cons
    omega

/-- Where a document whose query is begun is listed again, the new query is marked, and the list
does not come to the same as the one that names the document once. -/
theorem invalidate_repeated_marks_begun :
    (¬ ∀ (options : FallbackOptions) (ops : List CacheOp) (documents : List Document)
        (document : Document), let cache := (History.after options ops).cache
      ((cache.invalidate documents).1.slot document).Marked ↔
        (cache.slot document).Marked ∨
          (document ∈ documents ∧ cache.flights[document]?.isSome)) ∧
    ¬ ∀ (options : FallbackOptions) (ops : List CacheOp) (documents others : List Document),
      let cache := (History.after options ops).cache
      (∀ document, document ∈ others ↔ document ∈ documents) →
        ∀ document, ((cache.invalidate documents).1.slot document).Alike
          ((cache.invalidate others).1.slot document) := by
  let kept : Document := ⟨"file:///a.c"⟩
  let ops := gathered kept ⟨"file:///b.c"⟩ ⟨"file:///c.c"⟩
  have hkept : ((History.after .empty ops).cache.slot kept).Renewable := renewable_gathered
  have hagain : 1 < [kept, kept].count kept := by decide
  constructor
  · intro hclaim
    have hmarked := (marked_invalidate_iff _ _ _).mpr (.inr (.inr ⟨hagain, hkept⟩))
    obtain hbefore | ⟨-, hrunning⟩ := (hclaim .empty ops [kept, kept] kept).mp hmarked
    · exact not_marked_of_renewable hkept hbefore
    · rw [← slot_flight, hkept.1] at hrunning
      cases hrunning
  · intro hclaim
    have halike := hclaim .empty ops [kept, kept] [kept] (by simp) kept
    have hsame := (alike_invalidate_iff _ _ (by simp)).mp halike (by simp) hkept
    exact absurd (hsame.mp hagain) (by decide)

/-! ## Everything at once -/

variable {cache} {documents : List Document} {document : Document}

/-- A document is listed once for its entry and once for its query. -/
theorem count_of_all (all : documents.Perm (cache.entries.keys ++ cache.flights.keys))
    (document : Document) :
    documents.count document =
      (if cache.entries[document]?.isSome then 1 else 0) +
        if cache.flights[document]?.isSome then 1 else 0 := by
  rw [all.count_eq, List.count_append, Std.ExtTreeMap.nodup_keys.count,
    Std.ExtTreeMap.nodup_keys.count]
  simp only [Std.ExtTreeMap.mem_keys, Std.ExtTreeMap.mem_iff_isSome_getElem?]

theorem mem_all_iff (all : documents.Perm (cache.entries.keys ++ cache.flights.keys))
    (document : Document) : document ∈ documents ↔
      cache.entries[document]?.isSome ∨ cache.flights[document]?.isSome := by
  rw [all.mem_iff, List.mem_append, Std.ExtTreeMap.mem_keys, Std.ExtTreeMap.mem_keys,
    Std.ExtTreeMap.mem_iff_isSome_getElem?, Std.ExtTreeMap.mem_iff_isSome_getElem?]

/-- A document whose query is begun is listed for its entry alone. -/
theorem count_of_renewable (all : documents.Perm (cache.entries.keys ++ cache.flights.keys))
    (renewable : (cache.slot document).Renewable) : documents.count document = 1 := by
  obtain ⟨idle, cached⟩ := renewable
  rw [slot_flight] at idle
  rw [slot_entry] at cached
  rw [count_of_all all, if_pos cached, idle, if_neg (by simp)]

/-- The queries that are marked for a follow-up are those that were on their way before. -/
theorem marked_all_iff (all : documents.Perm (cache.entries.keys ++ cache.flights.keys)) :
    ((cache.invalidate documents).1.slot document).Marked ↔
      cache.flights[document]?.isSome := by
  rw [marked_invalidate_iff, mem_all_iff all]
  constructor
  · rintro (⟨flight, hflight, -⟩ | ⟨-, hrunning⟩ | ⟨hagain, renewable⟩)
    · rw [← slot_flight, hflight]
      rfl
    · exact hrunning
    · rw [count_of_renewable all renewable] at hagain
      exact absurd hagain (Nat.lt_irrefl 1)
  · exact fun hrunning => .inr (.inl ⟨.inr hrunning, hrunning⟩)

/-- In whatever order everything is listed, it comes to the same. -/
theorem alike_invalidateAll (all : documents.Perm (cache.entries.keys ++ cache.flights.keys))
    (document : Document) :
    ((cache.invalidate documents).1.slot document).Alike (cache.invalidateAll.1.slot document) ∧
      (generationsOf (cache.invalidate documents).2 document).length =
        (generationsOf cache.invalidateAll.2 document).length := by
  constructor
  · apply (cache.alike_invalidate_iff documents all.symm.mem_iff).mpr
    intro _ _
    rw [all.count_eq]
  · rw [invalidateAll, length_generationsOf_invalidate, length_generationsOf_invalidate]
    exact if_congr (and_congr_left' all.mem_iff) rfl rfl

/-- A query is followed by another exactly if it is marked. -/
theorem exists_completion {flight : Flight} (gone : Waiter → Bool) (result : QueryResult)
    (hflight : cache.flights[document]? = some flight) :
    ∃ completion,
      (cache.complete gone document flight.generation result).2 = some completion ∧
        (completion.requery.isSome ↔ (cache.slot document).Marked) := by
  refine ⟨_, (complete_of_current gone result hflight).1, ?_⟩
  have hmarked : (cache.slot document).Marked ↔ flight.requery = true := by
    simp [Slot.Marked, hflight]
  rw [hmarked, completion]
  cases flight.requery <;> simp

/-- Invalidating everything touches every document once.  Every entry becomes stale; one query is
begun for each document that has an entry and no query on its way, and none for any other; the
queries that were on their way stay as they are but for the mark, and they alone are marked and
will be followed by one more when they end.  The order in which the documents are listed makes no
difference but to the generations. -/
theorem invalidateAll_each_once (cache : Cache) :
    let next := cache.invalidateAll.1
    let started := cache.invalidateAll.2
    (∀ document : Document, next.entries[document]? =
      cache.entries[document]?.map fun entry => { entry with stale := true }) ∧
    (∀ document, (generationsOf started document).length =
      if (cache.slot document).Renewable then 1 else 0) ∧
    (∀ (document : Document) (flight : Flight), cache.flights[document]? = some flight →
      next.flights[document]? = some { flight with requery := true }) ∧
    (∀ document generation, (document, generation) ∈ started →
      next.flights[document]? = some ⟨generation, [], false, false⟩) ∧
    (∀ document : Document, cache.entries[document]? = none → cache.flights[document]? = none →
      next.slot document = cache.slot document) ∧
    (∀ document, (next.slot document).Marked ↔ cache.flights[document]?.isSome) ∧
    (∀ (gone : Waiter → Bool) (document : Document) (flight : Flight) (result : QueryResult),
      next.flights[document]? = some flight →
      ∃ completion, (next.complete gone document flight.generation result).2 = some completion ∧
        (completion.requery.isSome ↔ cache.flights[document]?.isSome)) ∧
    ∀ documents : List Document, documents.Perm (cache.entries.keys ++ cache.flights.keys) →
      ∀ document,
        ((cache.invalidate documents).1.slot document).Alike (next.slot document) ∧
        (generationsOf (cache.invalidate documents).2 document).length =
          (generationsOf started document).length := by
  intro next started
  have hall := List.Perm.refl (cache.entries.keys ++ cache.flights.keys)
  have hlisted := cache.listed (cache.entries.keys ++ cache.flights.keys)
  refine ⟨?stale, ?begun, ?running, ?fresh, ?vacant, fun document => marked_all_iff hall, ?followed,
    fun documents all document => alike_invalidateAll all document⟩
  case stale =>
    intro document
    have hentries := cache.entries_invalidate (cache.entries.keys ++ cache.flights.keys) document
    cases hentry : cache.entries[document]? with
    | none => rwa [hentry] at hentries
    | some entry =>
      have hmem := (mem_all_iff hall document).mpr (.inl (by rw [hentry]; rfl))
      rwa [hentry, Option.map_some, decide_eq_true hmem, Bool.or_true] at hentries
  case begun =>
    intro document
    have hlength :=
      cache.length_generationsOf_invalidate (cache.entries.keys ++ cache.flights.keys) document
    have hmem : document ∈ cache.entries.keys ++ cache.flights.keys ∧
        (cache.slot document).Renewable ↔ (cache.slot document).Renewable :=
      and_iff_right_of_imp fun renewable => (mem_all_iff hall document).mpr (.inl renewable.2)
    rwa [if_congr hmem rfl rfl] at hlength
  case running =>
    intro document flight hflight
    have hmem := (mem_all_iff hall document).mpr (.inr (by rw [hflight]; rfl))
    have hkept := cache.flights_invalidate_of_running
      (cache.entries.keys ++ cache.flights.keys) hflight
    rwa [decide_eq_true hmem, Bool.or_true] at hkept
  case fresh =>
    intro document generation hstarted
    have hmem := mem_generationsOf.mpr hstarted
    have hflight := (hlisted document).flight_of_begun hmem
    rw [count_of_renewable hall ((hlisted document).renewable_of_begun hmem)] at hflight
    exact hflight
  case vacant =>
    intro document habsent hidle
    exact (hlisted document).eq_of_idle fun _ => ⟨habsent, hidle⟩
  case followed =>
    intro gone document flight result hflight
    obtain ⟨completion, hcompletion, hfollow⟩ := exists_completion gone result hflight
    exact ⟨completion, hcompletion, hfollow.trans (marked_all_iff hall)⟩

/-- One document has settings, one is asked for, and of the third both are true, so that it is
listed twice. -/
theorem invalidateAll_each_once_gathered :
    let kept : Document := ⟨"file:///a.c"⟩
    let asked : Document := ⟨"file:///b.c"⟩
    let renewed : Document := ⟨"file:///c.c"⟩
    let cache := (History.after .empty (gathered kept asked renewed)).cache
    cache.entries.keys ++ cache.flights.keys = [kept, renewed, asked, renewed] ∧
      (generationsOf cache.invalidateAll.2 kept).length = 1 ∧
      cache.invalidateAll.1.flights[asked]? = some ⟨4, [3], true, false⟩ ∧
      cache.invalidateAll.1.flights[renewed]? = some ⟨3, [], true, false⟩ ∧
      ∀ document, ((cache.invalidate [renewed, asked, renewed, kept]).1.slot document).Alike
        (cache.invalidateAll.1.slot document) := by
  intro kept asked renewed cache
  have hlisted : cache.entries.keys ++ cache.flights.keys = [kept, renewed, asked, renewed] := by
    decide +kernel
  have hasked : cache.flights[asked]? = some ⟨4, [3], false, false⟩ := by decide +kernel
  have hrenewed : cache.flights[renewed]? = some ⟨3, [], false, false⟩ := by decide +kernel
  obtain ⟨-, hbegun, hrunning, -, -, -, -, halike⟩ := invalidateAll_each_once cache
  refine ⟨hlisted, ?_, hrunning asked _ hasked, hrunning renewed _ hrenewed, fun document => ?_⟩
  · rw [hbegun kept, if_pos renewable_gathered]
  · refine (halike [renewed, asked, renewed, kept] ?_ document).1
    rw [hlisted]
    decide

end Cache

end SettingsBroker
