/-
# One document alone

A history holds the operations on all documents.  Of these only some concern a given document:
those that name it, those that invalidate it with others, and callers of the document that go
away.  Replayed on a new cache, in which then nothing ever happens to another document, they give
the same answers about the document, and leave it the same, after each single operation.

The one thing that documents share is the counter of generations.  In the replay a query is
called by its number among the queries of the document; a generation that the document never had
is called zero, which is no query's generation.
-/

import SettingsBroker.Proofs.Cache.Contents
import SettingsBroker.Proofs.Cache.Twin

namespace SettingsBroker

open Cache (generationsOf)

/-! ## The queries of a history -/

/-- The query that an event begins. -/
def began? : Document × CacheEvent → Option (Document × Nat)
  | (document, .began generation) => some (document, generation)
  | _ => none

namespace History

/-- The queries that an operation begins, in order. -/
def started (h : History) (op : CacheOp) : List (Document × Nat) :=
  (h.outcome op).2.filterMap began?

/-- All queries that were begun, in order. -/
def issued (h : History) : List (Document × Nat) :=
  h.events.filterMap began?

/-- The generations of the queries of a document, in order. -/
def queries (h : History) (document : Document) : List Nat :=
  generationsOf h.issued document

variable {h : History} {document other : Document} {waiter : Waiter} {generation : Nat}
  {result : QueryResult}

theorem issued_perform (h : History) (op : CacheOp) :
    (h.perform op).issued = h.issued ++ h.started op :=
  List.filterMap_append

theorem queries_perform (h : History) (op : CacheOp) (document : Document) :
    (h.perform op).queries document =
      h.queries document ++ generationsOf (h.started op) document := by
  rw [queries, issued_perform, Cache.generationsOf_append]
  rfl

theorem filterMap_begun (document : Document) (generation : Option Nat) :
    ((begun generation).map (document, ·)).filterMap began? =
      (generation.map fun generation => (document, generation)).toList := by
  cases generation <;> rfl

theorem filterMap_landing (document : Document) (hasGone : Waiter → Bool) (generation : Nat)
    (result : QueryResult) (completion : Completion) :
    ((landing hasGone generation result completion).map (document, ·)).filterMap began? =
      (completion.requery.map fun generation => (document, generation)).toList := by
  rw [landing, List.map_append, List.filterMap_append, filterMap_begun,
    List.filterMap_eq_nil_iff.mpr ?_, List.nil_append]
  intro event hevent
  obtain ⟨_, hmem, rfl⟩ := List.mem_map.mp hevent
  obtain rfl | hsent := List.mem_cons.mp hmem
  · rfl
  · obtain ⟨_, -, rfl⟩ := List.mem_map.mp hsent
    rfl

theorem started_join :
    h.started (.join document waiter) =
      ((h.cache.join document waiter).2.map fun generation => (document, generation)).toList :=
  filterMap_begun document (h.cache.join document waiter).2

theorem started_complete :
    h.started (.complete document generation result) =
      (((h.cache.complete h.hasGone document generation result).2.bind (·.requery)).map
        fun generation => (document, generation)).toList := by
  rw [started, outcome]
  split
  · next hcomplete =>
    rw [hcomplete]
    rfl
  · next hcomplete =>
    rw [hcomplete]
    exact filterMap_landing document h.hasGone generation result _

theorem filterMap_invalidations (cache : Cache) (documents : List Document) :
    (invalidations cache documents).filterMap began? = (cache.invalidate documents).2 := by
  induction documents generalizing cache with
  | nil => rfl
  | cons first rest ih =>
    rw [invalidations, List.filterMap_append, ih, List.map_cons, List.filterMap_cons_none rfl,
      filterMap_begun]
    rfl

theorem started_invalidate (documents : List Document) :
    h.started (.invalidate documents) = (h.cache.invalidate documents).2 :=
  filterMap_invalidations h.cache documents

theorem started_invalidateAll : h.started .invalidateAll = h.cache.invalidateAll.2 :=
  filterMap_invalidations h.cache _

theorem started_evict : h.started (.evict document) = [] := by
  rw [started, List.filterMap_eq_nil_iff]
  intro event hevent
  obtain ⟨_, hmem, rfl⟩ := List.mem_map.mp hevent
  obtain hclosed | hevicted := List.mem_append.mp hmem
  · obtain ⟨_, -, rfl⟩ := List.mem_map.mp hclosed
    rfl
  · rw [List.mem_singleton.mp hevicted]
    rfl

theorem cache_perform_complete :
    (h.perform (.complete document generation result)).cache =
      (h.cache.complete h.hasGone document generation result).1 := by
  rw [perform_cache, outcome]
  split <;> simp_all only

/-- Each operation gives the generations that come next. -/
theorem started_numbered (h : History) (op : CacheOp) :
    (h.started op).map Prod.snd =
        List.range' (h.cache.lastGeneration + 1) (h.started op).length ∧
      (h.perform op).cache.lastGeneration = h.cache.lastGeneration + (h.started op).length := by
  cases op with
  | join document waiter =>
    rw [started_join]
    have hadvance := Cache.Advance.join h.cache document waiter
    exact ⟨hadvance.numbered, hadvance.counted⟩
  | invalidate documents =>
    have hadvance := Cache.Advance.invalidate h.cache documents
    rw [started_invalidate]
    exact ⟨hadvance.numbered, hadvance.counted⟩
  | invalidateAll =>
    have hadvance := Cache.Advance.invalidateAll h.cache
    rw [started_invalidateAll]
    exact ⟨hadvance.numbered, hadvance.counted⟩
  | noteFallbackServed document => exact ⟨rfl, rfl⟩
  | evict document =>
    rw [started_evict]
    exact ⟨rfl, rfl⟩
  | hangUp waiter => exact ⟨rfl, rfl⟩
  | complete document generation result =>
    rw [started_complete]
    obtain ⟨flight, hflight, rfl⟩ | hother := h.cache.current_or_other document generation
    · obtain ⟨hanswer, -, hlast, -⟩ := Cache.complete_of_current h.hasGone result hflight
      rw [hanswer, Option.bind_some, cache_perform_complete, hlast, Cache.completion]
      cases flight.requery with
      | false => exact ⟨rfl, rfl⟩
      | true => exact ⟨rfl, rfl⟩
    · rw [cache_perform_complete, Cache.complete_of_not_current h.hasGone result hother]
      exact ⟨rfl, rfl⟩

/-- All generations are given in order. -/
theorem issued_numbered (options : FallbackOptions) (ops : List CacheOp) :
    (after options ops).issued.map Prod.snd =
      List.range' 1 (after options ops).cache.lastGeneration := by
  induction ops using List.reverseRecOn with
  | nil => rfl
  | append_singleton ops op ih =>
    have hafter : after options (ops ++ [op]) = (after options ops).perform op := by simp [after]
    obtain ⟨hnumbered, hcounted⟩ := (after options ops).started_numbered op
    rw [hafter, issued_perform, List.map_append, ih, hnumbered, hcounted,
      Nat.add_comm _ 1, List.range'_append_1]

theorem issued_nodup (options : FallbackOptions) (ops : List CacheOp) :
    ((after options ops).issued.map Prod.snd).Nodup := by
  rw [issued_numbered]
  exact List.nodup_range'

/-- No generation is given to a document twice. -/
theorem queries_nodup (options : FallbackOptions) (ops : List CacheOp) (document : Document) :
    ((after options ops).queries document).Nodup :=
  (issued_nodup options ops).sublist (Cache.generationsOf_sublist _ document)

/-- No two documents have a query with the same generation. -/
theorem queries_disjoint (options : FallbackOptions) (ops : List CacheOp)
    (hdocument : generation ∈ (after options ops).queries document)
    (hother : generation ∈ (after options ops).queries other) : other = document := by
  rw [queries, Cache.mem_generationsOf] at hdocument hother
  exact congrArg Prod.fst
    (List.inj_on_of_nodup_map (issued_nodup options ops) hother hdocument rfl)

/-! ## Callers that go away -/

/-- Nobody goes away in an operation that is not just that. -/
theorem hasGone_perform {op : CacheOp} (h : History) (stay : leaving op = []) :
    (h.perform op).hasGone = h.hasGone := by
  funext waiter
  rw [hasGone, hasGone, perform, stay, List.append_nil]

theorem hasGone_hangUp (h : History) (caller : Waiter) :
    (h.perform (.hangUp waiter)).hasGone caller =
      (h.hasGone caller || decide (caller = waiter)) := by
  simp [hasGone, perform, leaving]

theorem queries_hangUp (h : History) (document : Document) :
    (h.perform (.hangUp waiter)).queries document = h.queries document := by
  rw [queries_perform]
  exact List.append_nil _

/-! ## Answers about a document -/

end History

/-- What an operation answers about a document. -/
inductive CacheAnswer where
  | nothing
  /-- The queries that are to be started. -/
  | queries (generations : List Nat)
  /-- What came of a result, if it was taken in. -/
  | result (completion : Option Completion)
  /-- Whether there was anything to forget. -/
  | forgotten (found : Bool)

/-- The answer with other generations for queries that are to be started. -/
def CacheAnswer.renumber (number : Nat → Nat) : CacheAnswer → CacheAnswer
  | .nothing => .nothing
  | .queries generations => .queries (generations.map number)
  | .result completion => .result (completion.map (·.renumber number))
  | .forgotten found => .forgotten found

namespace History

/-- What an operation answers about a document. -/
def answer (h : History) (document : Document) : CacheOp → CacheAnswer
  | .join other waiter =>
    if other = document then .queries (h.cache.join document waiter).2.toList else .nothing
  | .complete other generation result =>
    if other = document then .result (h.cache.complete h.hasGone document generation result).2
    else .nothing
  | .invalidate documents => .queries (generationsOf (h.cache.invalidate documents).2 document)
  | .invalidateAll => .queries (generationsOf h.cache.invalidateAll.2 document)
  | .evict other =>
    if other = document then .forgotten (h.cache.evict document).2 else .nothing
  | .noteFallbackServed _ | .hangUp _ => .nothing

/-! ## The part of a history that concerns a document -/

/-- The callers of a document. -/
def callersOf (document : Document) (ops : List CacheOp) : List Waiter :=
  ops.filterMap fun
    | .join other waiter => if other = document then some waiter else none
    | _ => none

/-- What is left of an operation for a document with some callers, where the generations of the
document's queries so far are known. -/
def restrict (document : Document) (callers : List Waiter) (generations : List Nat) :
    CacheOp → Option CacheOp
  | .join other waiter => if other = document then some (.join document waiter) else none
  | .complete other generation result =>
    if other = document then some (.complete document (ordinal generations generation) result)
    else none
  | .invalidate documents => some (.invalidate (documents.filter (· = document)))
  | .invalidateAll => some .invalidateAll
  | .noteFallbackServed other =>
    if other = document then some (.noteFallbackServed document) else none
  | .evict other => if other = document then some (.evict document) else none
  | .hangUp waiter => if waiter ∈ callers then some (.hangUp waiter) else none

/-- What is left of operations on a history. -/
def replay (document : Document) (callers : List Waiter) : History → List CacheOp → List CacheOp
  | _, [] => []
  | h, op :: later =>
    (restrict document callers (h.queries document) op).toList ++
      replay document callers (h.perform op) later

theorem replay_concat (document : Document) (callers : List Waiter) (h : History)
    (ops : List CacheOp) (op : CacheOp) :
    replay document callers h (ops ++ [op]) =
      replay document callers h ops ++
        (restrict document callers ((ops.foldl perform h).queries document) op).toList := by
  induction ops generalizing h with
  | nil => simp [replay]
  | cons first ops ih => simp [replay, ih]

theorem foldl_perform_some (h : History) (op : CacheOp) :
    (some op).toList.foldl perform h = h.perform op := rfl

/-- Two histories that agree about a document, in the second of which nothing happens to any
other. -/
structure Alone (document : Document) (callers : List Waiter) (full own : History) : Prop where
  /-- The caches are twins. -/
  twin : Cache.Twin document callers (full.queries document) full.cache own.cache
  /-- The queries of the document are the same up to their generations. -/
  queries : own.queries document =
    (full.queries document).map (ordinal (full.queries document))
  /-- The callers that have gone away are the same. -/
  gone : ∀ waiter ∈ callers, full.hasGone waiter = own.hasGone waiter

/-- An operation on the first of two histories and what is left of it on the second lead to
histories that agree about the document again, and they answer the same about it. -/
structure AloneStep (document : Document) (callers : List Waiter) (full own : History)
    (op : CacheOp) (kept : Option CacheOp) : Prop where
  /-- The histories agree again. -/
  alone : Alone document callers (full.perform op) (kept.toList.foldl perform own)
  /-- The answers are the same up to generations; what is not left gives none. -/
  answer : kept.elim .nothing (own.answer document) =
    (full.answer document op).renumber (ordinal ((full.perform op).queries document))

namespace Alone

variable {callers : List Waiter} {full own : History}

theorem start (options : FallbackOptions) (document : Document) (callers : List Waiter) :
    Alone document callers (start options) (start options) := by
  refine ⟨⟨rfl, ?_, fun other _ => Cache.slot_empty options other, rfl, ?_, ?_⟩, rfl,
    fun waiter _ => rfl⟩
  · rw [History.start, Cache.slot_empty]
    rfl
  · exact List.forall_mem_nil _
  · intro flight hflight
    rw [← Cache.slot_flight, History.start, Cache.slot_empty] at hflight
    cases hflight

/-- An operation on another document, of which nothing is left. -/
theorem elsewhere (h : Alone document callers full own) {op : CacheOp} {slot : Slot}
    (differ : other ≠ document) (stay : leaving op = []) (begun : Option Nat)
    (began : full.started op = (begun.map fun generation => (other, generation)).toList)
    (turned : (full.perform op).cache.slot = Function.update full.cache.slot other slot)
    (silent : full.answer document op = .nothing) :
    AloneStep document callers full own op none := by
  have hqueries : (full.perform op).queries document = full.queries document := by
    rw [queries_perform, began, Cache.generationsOf_other differ, List.append_nil]
  refine ⟨⟨?_, ?_, ?_⟩, ?_⟩
  · rw [hqueries]
    apply h.twin.elsewhere ?_ (full.options_perform op)
    · rw [(full.started_numbered op).2]
      exact Nat.le_add_right _ _
    · rw [turned, Function.update_of_ne (Ne.symm differ)]
  · rw [hqueries]
    exact h.queries
  · rw [hasGone_perform full stay]
    exact h.gone
  · rw [silent]
    rfl

/-- An operation on the document, in both histories; `begun` are the generations that it gives in
the first. -/
theorem turn (h : Alone document callers full own) {op kept : CacheOp} (begun : List Nat)
    (stay : leaving op = []) (stay' : leaving kept = [])
    (began : generationsOf (full.started op) document = begun)
    (began' : generationsOf (own.started kept) document =
      begun.map (ordinal (full.queries document ++ begun)))
    (twin : Cache.Twin document callers (full.queries document ++ begun)
      (full.perform op).cache (own.perform kept).cache)
    (answer : own.answer document kept =
      (full.answer document op).renumber (ordinal (full.queries document ++ begun))) :
    AloneStep document callers full own op (some kept) := by
  have hqueries : (full.perform op).queries document = full.queries document ++ begun := by
    rw [queries_perform, began]
  refine ⟨⟨?_, ?_, ?_⟩, ?_⟩
  · rw [hqueries]
    exact twin
  · rw [foldl_perform_some, queries_perform own, h.queries, began', hqueries, List.map_append,
      map_ordinal_append _ (List.Subset.refl _)]
  · rw [foldl_perform_some, hasGone_perform full stay, hasGone_perform own stay']
    exact h.gone
  · rw [hqueries]
    exact answer

/-- An operation on the document that begins no query. -/
theorem turn_quietly (h : Alone document callers full own) {op kept : CacheOp}
    (stay : leaving op = []) (stay' : leaving kept = [])
    (began : full.started op = []) (began' : own.started kept = [])
    (twin : Cache.Twin document callers (full.queries document)
      (full.perform op).cache (own.perform kept).cache)
    (answer : ∀ number, own.answer document kept = (full.answer document op).renumber number) :
    AloneStep document callers full own op (some kept) := by
  refine h.turn [] stay stay' (by rw [began]; rfl) (by rw [began']; rfl) ?_ (answer _)
  rw [List.append_nil]
  exact twin

/-! ## Operation by operation -/

theorem join (h : Alone document callers full own) (other : Document) (waiter : Waiter)
    (hcaller : other = document → waiter ∈ callers) :
    AloneStep document callers full own (.join other waiter)
      (restrict document callers (full.queries document) (.join other waiter)) := by
  by_cases hself : other = document
  · subst hself
    rw [restrict, if_pos rfl]
    obtain ⟨htwin, hbegun⟩ := h.twin.join (hcaller rfl)
    have hstarted : ∀ h : History, generationsOf (h.started (.join other waiter)) other =
        (h.cache.join other waiter).2.toList := fun h => by
      rw [started_join, Cache.generationsOf_self]
    refine h.turn _ rfl rfl (hstarted full) ?_ htwin ?_
    · rw [hstarted, hbegun, Option.toList_map]
    · rw [answer, answer, if_pos rfl, if_pos rfl, hbegun, Option.toList_map]
      rfl
  · rw [restrict, if_neg hself]
    exact h.elsewhere hself rfl _ started_join (full.cache.slot_join other waiter) (if_neg hself)

theorem complete (h : Alone document callers full own) (other : Document) (generation : Nat)
    (result : QueryResult) :
    AloneStep document callers full own (.complete other generation result)
      (restrict document callers (full.queries document) (.complete other generation result)) := by
  by_cases hself : other = document
  · subst hself
    rw [restrict, if_pos rfl]
    obtain ⟨htwin, hcompletion⟩ := h.twin.complete h.gone generation result
    have hstarted : ∀ (h : History) (generation : Nat),
        generationsOf (h.started (.complete other generation result)) other =
          ((h.cache.complete h.hasGone other generation result).2.bind
            (·.requery)).toList := fun h generation => by
      rw [started_complete, Cache.generationsOf_self]
    refine h.turn _ rfl rfl (hstarted full generation) ?_ ?_ ?_
    · rw [hstarted, hcompletion, ← Option.toList_map]
      congr 1
      cases (full.cache.complete full.hasGone other generation result).2 <;> rfl
    · rw [cache_perform_complete, cache_perform_complete]
      exact htwin
    · rw [answer, answer, if_pos rfl, if_pos rfl, hcompletion]
      rfl
  · rw [restrict, if_neg hself]
    have hsilent : full.answer document (.complete other generation result) = .nothing :=
      if_neg hself
    have hslot : ∃ slot, (full.perform (.complete other generation result)).cache.slot =
        Function.update full.cache.slot other slot := by
      rw [cache_perform_complete]
      obtain ⟨flight, hflight, rfl⟩ | hother := full.cache.current_or_other other generation
      · exact ⟨_, (Cache.complete_of_current full.hasGone result hflight).2.1⟩
      · rw [Cache.complete_of_not_current full.hasGone result hother]
        exact ⟨_, (Function.update_eq_self other full.cache.slot).symm⟩
    obtain ⟨slot, hslot⟩ := hslot
    exact h.elsewhere hself rfl _ started_complete hslot hsilent

theorem invalidate (h : Alone document callers full own) (documents : List Document) :
    AloneStep document callers full own (.invalidate documents)
      (restrict document callers (full.queries document) (.invalidate documents)) := by
  obtain ⟨htwin, hbegun⟩ := h.twin.invalidate documents
  refine h.turn _ rfl rfl (congrArg (generationsOf · document) (started_invalidate documents)) ?_
    htwin ?_
  · rw [started_invalidate, hbegun]
  · rw [answer, answer, hbegun]
    rfl

theorem invalidateAll (h : Alone document callers full own) :
    AloneStep document callers full own .invalidateAll
      (restrict document callers (full.queries document) .invalidateAll) := by
  obtain ⟨htwin, hbegun⟩ := h.twin.invalidateAll
  refine h.turn _ rfl rfl (congrArg (generationsOf · document) started_invalidateAll) ?_ htwin ?_
  · rw [started_invalidateAll, hbegun]
  · rw [answer, answer, hbegun]
    rfl

theorem noteFallbackServed (h : Alone document callers full own) (other : Document) :
    AloneStep document callers full own (.noteFallbackServed other)
      (restrict document callers (full.queries document) (.noteFallbackServed other)) := by
  by_cases hself : other = document
  · subst hself
    rw [restrict, if_pos rfl]
    exact h.turn_quietly rfl rfl rfl rfl h.twin.noteFallbackServed fun number => rfl
  · rw [restrict, if_neg hself]
    exact h.elsewhere hself rfl none rfl (full.cache.slot_noteFallbackServed other) rfl

theorem evict (h : Alone document callers full own) (other : Document) :
    AloneStep document callers full own (.evict other)
      (restrict document callers (full.queries document) (.evict other)) := by
  by_cases hself : other = document
  · subst hself
    rw [restrict, if_pos rfl]
    obtain ⟨htwin, hfound⟩ := h.twin.evict
    refine h.turn_quietly rfl rfl started_evict started_evict htwin fun number => ?_
    rw [answer, answer, if_pos rfl, if_pos rfl, hfound]
    rfl
  · rw [restrict, if_neg hself]
    exact h.elsewhere hself rfl none started_evict (full.cache.slot_evict other) (if_neg hself)

/-- A caller that goes away is either one of the document's, and then goes away in both
histories, or it does not matter. -/
theorem hangUp (h : Alone document callers full own) (waiter : Waiter) :
    AloneStep document callers full own (.hangUp waiter)
      (restrict document callers (full.queries document) (.hangUp waiter)) := by
  rw [restrict]
  split
  · refine ⟨⟨?_, ?_, ?_⟩, rfl⟩
    · rw [queries_hangUp]
      exact h.twin
    · rw [foldl_perform_some, queries_hangUp, queries_hangUp]
      exact h.queries
    · intro caller hcaller
      rw [foldl_perform_some, hasGone_hangUp, hasGone_hangUp, h.gone caller hcaller]
  · next hstranger =>
    refine ⟨⟨?_, ?_, ?_⟩, rfl⟩
    · rw [queries_hangUp]
      exact h.twin
    · rw [queries_hangUp]
      exact h.queries
    · intro caller hcaller
      have hdiffer : caller ≠ waiter := fun hsame => hstranger (hsame ▸ hcaller)
      rw [hasGone_hangUp, decide_eq_false hdiffer, Bool.or_false]
      exact h.gone caller hcaller

theorem perform (h : Alone document callers full own) (op : CacheOp)
    (hcallers : ∀ waiter, op = .join document waiter → waiter ∈ callers) :
    AloneStep document callers full own op
      (restrict document callers (full.queries document) op) := by
  cases op with
  | join other waiter => exact h.join other waiter fun hself => hcallers waiter (by rw [hself])
  | complete other generation result => exact h.complete other generation result
  | invalidate documents => exact h.invalidate documents
  | invalidateAll => exact h.invalidateAll
  | noteFallbackServed other => exact h.noteFallbackServed other
  | evict other => exact h.evict other
  | hangUp waiter => exact h.hangUp waiter

/-- Whatever is done, the histories agree about the document. -/
theorem run (options : FallbackOptions) (ops : List CacheOp)
    (hcallers : ∀ waiter, .join document waiter ∈ ops → waiter ∈ callers) :
    Alone document callers (after options ops)
      (after options (replay document callers (History.start options) ops)) := by
  induction ops using List.reverseRecOn with
  | nil => exact start options document callers
  | append_singleton ops op ih =>
    have hbefore := ih fun waiter hmem => hcallers waiter (List.mem_append_left _ hmem)
    have hstep := hbefore.perform op fun waiter hop =>
      hcallers waiter (List.mem_append_right _ (hop ▸ List.mem_singleton_self _))
    rw [replay_concat]
    simpa only [after, List.foldl_append, List.foldl_cons, List.foldl_nil] using hstep.alone

end Alone

/-! ## The same about the document -/

/-- What can be seen of a document and its callers is the same in two histories, of which the
second counts the document's queries from one. -/
structure SameAbout (document : Document) (callers : List Waiter) (full own : History) : Prop where
  /-- The settings in place, and whether they are stale. -/
  entry : own.cache.entries[document]? = full.cache.entries[document]?
  /-- The settings that callers read. -/
  view : own.cache.view[document]? = full.cache.view[document]?
  /-- Where the document stands. -/
  state : own.cache.state document = full.cache.state document
  /-- The callers that wait. -/
  waiting : own.cache.waiting document = full.cache.waiting document
  /-- The callers that have gone away. -/
  gone : ∀ waiter ∈ callers, own.hasGone waiter = full.hasGone waiter
  /-- The queries so far are as many, and the second history has numbered them. -/
  queries : own.queries document = List.range' 1 (full.queries document).length
  /-- The query on its way has the number of its generation. -/
  running : own.cache.flights[document]?.map (·.generation) =
    full.cache.flights[document]?.map (ordinal (full.queries document) ·.generation)
  /-- A result that names a query the document never had, or one of another document, is refused
  in both. -/
  refused : ∀ generation result,
    (generation ∉ full.queries document ∨
      ∃ other, other ≠ document ∧ generation ∈ full.queries other) →
    (full.cache.complete full.hasGone document generation result).2 = none ∧
      (own.cache.complete own.hasGone document (ordinal (full.queries document) generation)
        result).2 = none

theorem Alone.sameAbout {callers : List Waiter} {own : History} (options : FallbackOptions)
    (ops : List CacheOp) (h : Alone document callers (after options ops) own) :
    SameAbout document callers (after options ops) own where
  entry := h.twin.entries
  view := h.twin.view
  state := h.twin.state
  waiting := h.twin.waiting
  gone := fun waiter hmem => (h.gone waiter hmem).symm
  queries := by rw [h.queries, map_ordinal_self (queries_nodup options ops document)]
  running := by
    rw [h.twin.flights, Option.map_map]
    rfl
  refused := by
    intro generation result hstrange
    have hnone : ((after options ops).cache.complete (after options ops).hasGone document
        generation result).2 = none := by
      rw [Cache.complete_of_not_current]
      rintro flight hflight rfl
      have hgiven := (h.twin.running flight hflight).1
      obtain hnever | ⟨other, hother, hmem⟩ := hstrange
      · exact hnever hgiven
      · exact hother (queries_disjoint options ops hgiven hmem)
    refine ⟨hnone, ?_⟩
    rw [(h.twin.complete h.gone generation result).2, hnone]
    rfl

/-- Documents do not influence each other.  Of a run, only what concerns one document is replayed
on a new cache.  After each part of the run the two caches are the same about the document, and
whatever is done next has the same answer about it in both, where the replay calls a query by
its number among the document's queries.  When everything is invalidated, the order does not
matter: what is left of all documents in any order is what the replay invalidates. -/
theorem document_replayed_alone (options : FallbackOptions) (document : Document)
    (earlier later : List CacheOp) :
    let callers := callersOf document (earlier ++ later)
    let full := after options earlier
    let own := after options (replay document callers (start options) earlier)
    SameAbout document callers full own ∧
      (∀ op rest, later = op :: rest →
        (restrict document callers (full.queries document) op).elim .nothing
            (own.answer document) =
          (full.answer document op).renumber (ordinal ((full.perform op).queries document))) ∧
      ∀ documents : List Document,
        documents.Perm (full.cache.entries.keys ++ full.cache.flights.keys) →
        own.perform .invalidateAll =
          own.perform (.invalidate (documents.filter (· = document))) := by
  intro callers full own
  have hcallers : ∀ waiter, .join document waiter ∈ earlier ++ later → waiter ∈ callers :=
    fun waiter hmem => List.mem_filterMap.mpr ⟨_, hmem, if_pos rfl⟩
  have halone : Alone document callers full own :=
    .run options earlier fun waiter hmem => hcallers waiter (List.mem_append_left _ hmem)
  refine ⟨halone.sameAbout options earlier, ?_, fun documents listed => ?_⟩
  · rintro op rest rfl
    refine (halone.perform op fun waiter hop => hcallers waiter ?_).answer
    rw [hop]
    exact List.mem_append_right _ List.mem_cons_self
  · rw [← halone.twin.listed_own listed]
    rfl

/-- Two documents are asked for and both are invalidated. -/
def twoAsked : List CacheOp :=
  [.join ⟨"file:///a.c"⟩ 1, .join ⟨"file:///b.c"⟩ 2,
    .invalidate [⟨"file:///a.c"⟩, ⟨"file:///b.c"⟩]]

/-- What is left of that for the second document. -/
def oneAsked : List CacheOp :=
  [.join ⟨"file:///b.c"⟩ 2, .invalidate [⟨"file:///b.c"⟩]]

/-- The second document's query has the generation two, and the one that follows has three.
Replayed alone these are one and two, and a result that names the first document's query is
refused.  If everything is invalidated, the second document may come first. -/
theorem document_replayed_alone_twoAsked :
    let document : Document := ⟨"file:///b.c"⟩
    (after .empty oneAsked).answer document (.complete document 1 (.ok none)) =
        ((after .empty twoAsked).answer document (.complete document 2 (.ok none))).renumber
          (ordinal [2, 3]) ∧
      1 ∈ (after .empty twoAsked).queries ⟨"file:///a.c"⟩ ∧
      ((after .empty oneAsked).cache.complete (after .empty oneAsked).hasGone document
        (ordinal [2] 1) (.ok none)).2 = none ∧
      (after .empty oneAsked).perform .invalidateAll =
        (after .empty oneAsked).perform (.invalidate [document]) := by
  intro document
  obtain ⟨hsame, hanswer, horder⟩ := document_replayed_alone .empty document twoAsked
    [.complete document 2 (.ok none)]
  have hreplay : ∀ callers, replay document callers (start .empty) twoAsked = oneAsked :=
    fun callers => rfl
  have hqueries : (after .empty twoAsked).queries document = [2] := by decide +kernel
  have hlater : ((after .empty twoAsked).perform (.complete document 2 (.ok none))).queries
      document = [2, 3] := by decide +kernel
  have hforeign : 1 ∈ (after .empty twoAsked).queries ⟨"file:///a.c"⟩ := by decide +kernel
  have hlisted : [document, ⟨"file:///a.c"⟩].Perm ((after .empty twoAsked).cache.entries.keys ++
      (after .empty twoAsked).cache.flights.keys) := by decide +kernel
  have hrefused := hsame.refused 1 (.ok none) (.inr ⟨⟨"file:///a.c"⟩, by decide, hforeign⟩)
  have hcompleted := hanswer _ _ rfl
  have hinvalidated := horder _ hlisted
  rw [hreplay] at hrefused hcompleted hinvalidated
  rw [hqueries] at hrefused hcompleted
  rw [hlater] at hcompleted
  exact ⟨hcompleted, hforeign, hrefused.2, hinvalidated⟩

end History

end SettingsBroker
