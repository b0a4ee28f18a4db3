/-
# Caches that agree about one document

Take a cache and another one in which nothing was ever done to any document but one.  About that
document the two agree up to the generations of its queries: the first cache has drawn them from
a counter that all documents share, the second counts them from one (`ordinal`).

The two are twins.  What is done to other documents in the first cache leaves them twins, and so
does whatever is done to the document in both; and then both give the same answer, again up to
generations.  A new query has the next number in both caches, and a number is never given twice,
so that the way from generations to numbers stays one to one.
-/

import Mathlib.Data.List.Basic
import SettingsBroker.Proofs.Cache.Advance

namespace SettingsBroker

/-! ## Numbering -/

/-- The number of a generation among those that were given: they are counted from one, and any
other generation has the number zero. -/
def ordinal (issued : List Nat) (generation : Nat) : Nat :=
  if generation ∈ issued then issued.idxOf generation + 1 else 0

section ordinal

variable {issued more : List Nat} {generation other : Nat}

theorem ordinal_append_of_mem (given : generation ∈ issued) :
    ordinal (issued ++ more) generation = ordinal issued generation := by
  rw [ordinal, ordinal, if_pos given, if_pos (List.mem_append_left _ given),
    List.idxOf_append_of_mem given]

theorem map_ordinal_append {given : List Nat} (more : List Nat) (subset : given ⊆ issued) :
    given.map (ordinal (issued ++ more)) = given.map (ordinal issued) :=
  List.map_congr_left fun _ hmem => ordinal_append_of_mem (subset hmem)

theorem ordinal_concat_self (fresh : generation ∉ issued) :
    ordinal (issued ++ [generation]) generation = issued.length + 1 := by
  simp [ordinal, List.idxOf_append_of_notMem fresh]

/-- The numbers of all that were given. -/
theorem map_ordinal_self (nodup : issued.Nodup) :
    issued.map (ordinal issued) = List.range' 1 issued.length := by
  apply List.ext_getElem
  · rw [List.length_map, List.length_range']
  · intro i hi hi'
    rw [List.length_map] at hi
    rw [List.getElem_map, List.getElem_range', ordinal, if_pos (List.getElem_mem hi),
      nodup.idxOf_getElem i hi, Nat.one_mul, Nat.add_comm]

/-- No other generation has the number of one that was given. -/
theorem ordinal_inj (given : generation ∈ issued) :
    ordinal issued generation = ordinal issued other ↔ generation = other := by
  refine ⟨fun hsame => ?_, fun hsame => hsame ▸ rfl⟩
  rw [ordinal, ordinal, if_pos given] at hsame
  split at hsame
  · exact (List.idxOf_inj given).mp (Nat.add_right_cancel hsame)
  · cases hsame

end ordinal

/-! ## Slots with other generations -/

/-- The query with another generation. -/
def Flight.renumber (number : Nat → Nat) (flight : Flight) : Flight :=
  { flight with generation := number flight.generation }

namespace Slot

/-- The slot with another generation for its query. -/
def renumber (number : Nat → Nat) (slot : Slot) : Slot :=
  { slot with flight := slot.flight.map (·.renumber number) }

variable {slot : Slot} {number again : Nat → Nat}

theorem renumber_congr
    (same : ∀ flight, slot.flight = some flight →
      number flight.generation = again flight.generation) :
    slot.renumber number = slot.renumber again := by
  cases hflight : slot.flight with
  | none => simp [renumber, hflight]
  | some flight => simp [renumber, Flight.renumber, hflight, same flight hflight]

variable (slot number)

theorem renumber_join (generation : Nat) (waiter : Waiter) :
    (slot.renumber number).join (number generation) waiter =
      (slot.join generation waiter).renumber number := by
  cases hflight : slot.flight <;> simp [renumber, Flight.renumber, join, begin, hflight]

theorem renumber_noteFallbackServed :
    (slot.renumber number).noteFallbackServed = slot.noteFallbackServed.renumber number := by
  cases hflight : slot.flight <;> simp [renumber, Flight.renumber, noteFallbackServed, hflight]

theorem renumber_invalidate (generation : Nat) :
    (slot.renumber number).invalidate (number generation) =
      (slot.invalidate generation).renumber number := by
  cases hflight : slot.flight with
  | none =>
    cases hentry : slot.entry <;>
      simp [renumber, Flight.renumber, invalidate, markStale, begin, hflight, hentry]
  | some flight => simp [renumber, Flight.renumber, invalidate, markStale, hflight]

theorem renumber_land (fallback : BuildSettings) (result : QueryResult) :
    (slot.renumber number).land fallback result = slot.land fallback result := by
  have hfresh : (slot.renumber number).fresh? fallback result = slot.fresh? fallback result := by
    cases result <;> rfl
  rw [land, land, hfresh]
  cases slot.fresh? fallback result <;> rfl

theorem renumber_complete (fallback : BuildSettings) (generation : Nat) (result : QueryResult) :
    (slot.renumber number).complete fallback (number generation) result =
      (slot.complete fallback generation result).renumber number := by
  have hany : (slot.renumber number).flight.any (·.requery) = slot.flight.any (·.requery) := by
    cases hflight : slot.flight <;> simp [renumber, Flight.renumber, hflight]
  have hlanded : (slot.land fallback result).renumber number = slot.land fallback result := by
    apply Slot.ext <;> simp [renumber]
  rw [complete, complete, hany, renumber_land]
  split
  · rfl
  · exact hlanded.symm

theorem renumber_settled (fallback : BuildSettings) (result : QueryResult) :
    (slot.renumber number).settled fallback result = slot.settled fallback result := by
  cases result <;> rfl

end Slot

/-- A completion with another generation for the query that follows. -/
def Completion.renumber (number : Nat → Nat) (completion : Completion) : Completion :=
  { completion with requery := completion.requery.map number }

/-! ## Twins -/

namespace Cache

theorem generationsOf_self (document : Document) (begun : Option Nat) :
    generationsOf (begun.map fun generation => (document, generation)).toList document =
      begun.toList := by
  cases begun <;> simp [generationsOf]

theorem generationsOf_other {document other : Document} (differ : other ≠ document)
    (begun : Option Nat) :
    generationsOf (begun.map fun generation => (other, generation)).toList document = [] := by
  cases begun <;> simp [generationsOf, differ]

theorem generationsOf_sublist (started : List (Document × Nat)) (document : Document) :
    (generationsOf started document).Sublist (started.map Prod.snd) := by
  induction started with
  | nil => exact List.Sublist.refl _
  | cons first rest ih =>
    rw [← List.singleton_append, generationsOf_append]
    by_cases hself : first.1 = document
    · have hfirst : generationsOf [first] document = [first.2] := by simp [generationsOf, hself]
      rw [hfirst]
      exact ih.cons_cons first.2
    · have hfirst : generationsOf [first] document = [] := by simp [generationsOf, hself]
      rw [hfirst]
      exact ih.cons first.2

end Cache

/-- Two caches that agree about a document for which the first one has given the generations
`issued`, to queries for which only the callers `mine` wait. -/
structure Cache.Twin (document : Document) (mine : List Waiter) (issued : List Nat)
    (full own : Cache) : Prop where
  /-- Fallback settings are the same. -/
  options : own.options = full.options
  /-- The slots of the document are the same up to generations. -/
  slot : own.slot document = (full.slot document).renumber (ordinal issued)
  /-- Nothing is known of other documents in the second cache. -/
  others : ∀ other, other ≠ document → own.slot other = .empty
  /-- The second cache counts the queries of the document. -/
  counted : own.lastGeneration = issued.length
  /-- All of them have generations from the first cache. -/
  given : ∀ generation ∈ issued, generation ≤ full.lastGeneration
  /-- The query on its way is one of them. -/
  running : ∀ flight, full.flights[document]? = some flight →
    flight.generation ∈ issued ∧ ∀ waiter ∈ flight.waiters, waiter ∈ mine

namespace Cache.Twin

variable {document other : Document} {mine : List Waiter} {issued : List Nat}
  {full own next alone : Cache}

theorem fallback (h : Twin document mine issued full own) :
    own.fallback document = full.fallback document := by
  rw [Cache.fallback, Cache.fallback, h.options]

/-- The generation that comes next in the first cache is new. -/
theorem fresh (h : Twin document mine issued full own) : full.lastGeneration + 1 ∉ issued :=
  fun hmem => Nat.not_succ_le_self _ (h.given _ hmem)

/-- The number of the next query of the document. -/
theorem ordinal_next (h : Twin document mine issued full own) :
    ordinal (issued ++ [full.lastGeneration + 1]) (full.lastGeneration + 1) =
      own.lastGeneration + 1 := by
  rw [ordinal_concat_self h.fresh, h.counted]

/-- The slots are the same when a number is set aside for the next query. -/
theorem slot_next (h : Twin document mine issued full own) :
    own.slot document =
      (full.slot document).renumber (ordinal (issued ++ [full.lastGeneration + 1])) := by
  rw [h.slot]
  apply Slot.renumber_congr
  intro flight hflight
  rw [ordinal_append_of_mem (h.running flight hflight).1]

theorem flights_isSome (h : Twin document mine issued full own) :
    own.flights[document]?.isSome = full.flights[document]?.isSome := by
  have hflight := congrArg Slot.flight h.slot
  rw [slot_flight, Slot.renumber] at hflight
  rw [hflight, Option.isSome_map, slot_flight]

theorem entries (h : Twin document mine issued full own) :
    own.entries[document]? = full.entries[document]? :=
  congrArg Slot.entry h.slot

theorem view (h : Twin document mine issued full own) :
    own.view[document]? = full.view[document]? :=
  congrArg Slot.shown h.slot

/-- What happens to other documents leaves twins as they are. -/
theorem elsewhere (h : Twin document mine issued full own)
    (slot : next.slot document = full.slot document) (options : next.options = full.options)
    (grown : full.lastGeneration ≤ next.lastGeneration) :
    Twin document mine issued next own where
  options := h.options.trans options.symm
  slot := by rw [slot, h.slot]
  others := h.others
  counted := h.counted
  given := fun generation hmem => Nat.le_trans (h.given generation hmem) grown
  running := fun flight hflight => by
    rw [← slot_flight, slot, slot_flight] at hflight
    exact h.running flight hflight

/-- A query is begun in both caches, with the next generation of each, or in neither. -/
inductive BothBegin (full own : Cache) : Option Nat → Option Nat → Prop where
  | neither : BothBegin full own none none
  | both : BothBegin full own (some (full.lastGeneration + 1)) (some (own.lastGeneration + 1))

/-- What happens to the document in both caches leaves them twins, if the slots change in the
same way up to generations and a query is begun in both or in neither. -/
theorem turn (h : Twin document mine issued full own) {slot : Slot} {begun begunOwn : Option Nat}
    (hboth : BothBegin full own begun begunOwn)
    (hfull : next.slot = Function.update full.slot document slot)
    (hown : alone.slot = Function.update own.slot document
      (slot.renumber (ordinal (issued ++ [full.lastGeneration + 1]))))
    (hlast : next.lastGeneration = begun.getD full.lastGeneration)
    (hlast' : alone.lastGeneration = begunOwn.getD own.lastGeneration)
    (hoptions : next.options = full.options) (hoptions' : alone.options = own.options)
    (hrunning : ∀ flight, slot.flight = some flight →
      flight.generation ∈ issued ++ begun.toList ∧ ∀ waiter ∈ flight.waiters, waiter ∈ mine) :
    Twin document mine (issued ++ begun.toList) next alone ∧
      begunOwn = begun.map (ordinal (issued ++ begun.toList)) := by
  have hself : next.slot document = slot := by rw [hfull, Function.update_self]
  have hoptions'' : alone.options = next.options := by rw [hoptions', hoptions, h.options]
  have hothers : ∀ other, other ≠ document → alone.slot other = .empty := by
    intro other hother
    rw [hown, Function.update_of_ne hother, h.others other hother]
  have hrunning' : ∀ flight, next.flights[document]? = some flight →
      flight.generation ∈ issued ++ begun.toList ∧ ∀ waiter ∈ flight.waiters, waiter ∈ mine := by
    intro flight hflight
    rw [← slot_flight, hself] at hflight
    exact hrunning flight hflight
  cases hboth with
  | neither =>
    rw [Option.toList_none, List.append_nil] at hrunning hrunning' ⊢
    refine ⟨⟨hoptions'', ?_, hothers, hlast'.trans h.counted, ?_, hrunning'⟩, rfl⟩
    · rw [hown, Function.update_self, hself]
      apply Slot.renumber_congr
      intro flight hflight
      exact ordinal_append_of_mem (hrunning flight hflight).1
    · rw [hlast]
      exact h.given
  | both =>
    refine ⟨⟨hoptions'', ?_, hothers, ?_, fun generation hmem => ?_, hrunning'⟩,
      congrArg some h.ordinal_next.symm⟩
    · rw [hown, Function.update_self, hself]
      rfl
    · rw [hlast', h.counted, List.length_append]
      rfl
    · rw [hlast]
      obtain hold | hnew := List.mem_append.mp hmem
      · exact Nat.le_succ_of_le (h.given generation hold)
      · exact Nat.le_of_eq (List.mem_singleton.mp hnew)

/-! ## What is done to the document -/

theorem join (h : Twin document mine issued full own) {waiter : Waiter} (hmine : waiter ∈ mine) :
    Twin document mine (issued ++ (full.join document waiter).2.toList)
        (full.join document waiter).1 (own.join document waiter).1 ∧
      (own.join document waiter).2 = (full.join document waiter).2.map
        (ordinal (issued ++ (full.join document waiter).2.toList)) := by
  have hstarted := full.join_started document waiter
  have hstarted' := own.join_started document waiter
  rw [h.flights_isSome] at hstarted'
  have hslot' := own.slot_join document waiter
  rw [h.slot_next, ← h.ordinal_next, Slot.renumber_join] at hslot'
  refine h.turn ?_ (full.slot_join document waiter) hslot'
    (full.lastGeneration_join document waiter) (own.lastGeneration_join document waiter)
    (full.options_join document waiter) (own.options_join document waiter) ?_
  · rw [hstarted, hstarted']
    split
    · exact .neither
    · exact .both
  · intro flight hflight
    rw [hstarted]
    cases hbefore : full.flights[document]? with
    | none =>
      rw [Slot.join, slot_flight, hbefore] at hflight
      obtain rfl := Option.some.inj hflight
      exact ⟨List.mem_append_right _ (List.mem_singleton_self _),
        List.forall_mem_singleton.mpr hmine⟩
    | some old =>
      rw [Slot.join, slot_flight, hbefore] at hflight
      obtain rfl := Option.some.inj hflight
      obtain ⟨hgeneration, hwaiters⟩ := h.running old hbefore
      exact ⟨List.mem_append_left _ hgeneration,
        List.forall_mem_append.mpr ⟨hwaiters, List.forall_mem_singleton.mpr hmine⟩⟩

theorem noteFallbackServed (h : Twin document mine issued full own) :
    Twin document mine issued (full.noteFallbackServed document)
      (own.noteFallbackServed document) := by
  have hslot' := own.slot_noteFallbackServed document
  rw [h.slot_next, Slot.renumber_noteFallbackServed] at hslot'
  have hturn := h.turn (.neither) (full.slot_noteFallbackServed document) hslot' rfl rfl rfl rfl ?_
  · rw [Option.toList_none, List.append_nil] at hturn
    exact hturn.1
  · rw [Option.toList_none, List.append_nil]
    intro flight hflight
    rw [Slot.noteFallbackServed, Option.map_eq_some_iff] at hflight
    obtain ⟨old, hold, rfl⟩ := hflight
    exact h.running old hold

theorem evict (h : Twin document mine issued full own) :
    Twin document mine issued (full.evict document).1 (own.evict document).1 ∧
      (own.evict document).2 = (full.evict document).2 := by
  constructor
  · have hturn := h.turn (.neither) (full.slot_evict document) (own.slot_evict document) rfl rfl
      rfl rfl fun flight hflight => nomatch hflight
    rw [Option.toList_none, List.append_nil] at hturn
    exact hturn.1
  · simp only [Cache.evict, Std.ExtTreeMap.contains_eq_isSome_getElem?, h.entries,
      h.flights_isSome]

theorem invalidateOne (h : Twin document mine issued full own) :
    Twin document mine (issued ++ (full.invalidateOne document).2.toList)
        (full.invalidateOne document).1 (own.invalidateOne document).1 ∧
      (own.invalidateOne document).2 = (full.invalidateOne document).2.map
        (ordinal (issued ++ (full.invalidateOne document).2.toList)) := by
  have hstarted := full.invalidateOne_started document
  have hstarted' := own.invalidateOne_started document
  rw [← Option.not_isSome, h.flights_isSome, Option.not_isSome, h.entries] at hstarted'
  have hslot' := own.slot_invalidateOne document
  rw [h.slot_next, ← h.ordinal_next, Slot.renumber_invalidate] at hslot'
  refine h.turn ?_ (full.slot_invalidateOne document) hslot'
    (full.lastGeneration_invalidateOne document) (own.lastGeneration_invalidateOne document)
    (full.options_invalidateOne document) (own.options_invalidateOne document) ?_
  · rw [hstarted, hstarted']
    split
    · exact .both
    · exact .neither
  · intro flight hflight
    rw [hstarted]
    cases hbefore : full.flights[document]? with
    | none =>
      cases hentry : full.entries[document]? with
      | none =>
        simp [Slot.invalidate, hbefore, hentry] at hflight
      | some entry =>
        simp only [Slot.invalidate, slot_flight, hbefore, slot_entry, hentry, Option.isSome_some,
          if_true, Slot.begin] at hflight
        obtain rfl := Option.some.inj hflight
        exact ⟨List.mem_append_right _ (List.mem_singleton_self _), List.forall_mem_nil _⟩
    | some old =>
      rw [Slot.invalidate, slot_flight, hbefore] at hflight
      obtain rfl := Option.some.inj hflight
      obtain ⟨hgeneration, hwaiters⟩ := h.running old hbefore
      exact ⟨List.mem_append_left _ hgeneration, hwaiters⟩

/-- Of several documents that are invalidated, only the one counts. -/
theorem invalidate (h : Twin document mine issued full own) (documents : List Document) :
    let started := generationsOf (full.invalidate documents).2 document
    Twin document mine (issued ++ started) (full.invalidate documents).1
        (own.invalidate (documents.filter (· = document))).1 ∧
      generationsOf (own.invalidate (documents.filter (· = document))).2 document =
        started.map (ordinal (issued ++ started)) := by
  induction documents generalizing issued full own with
  | nil =>
    refine ⟨?_, rfl⟩
    rw [generationsOf, Cache.invalidate, List.filterMap_nil, List.append_nil]
    exact h
  | cons first rest ih =>
    by_cases hself : first = document
    · subst hself
      rw [List.filter_cons_of_pos (by simp)]
      obtain ⟨htwin, hbegun⟩ := h.invalidateOne
      obtain ⟨hrest, hstarted⟩ := ih htwin
      simp only [Cache.invalidate, generationsOf_append, generationsOf_self, hbegun, hstarted,
        List.map_append]
      rw [Option.toList_map, ← List.append_assoc]
      have hkept := map_ordinal_append
        (generationsOf ((full.invalidateOne first).1.invalidate rest).2 first)
        (List.subset_append_right issued (full.invalidateOne first).2.toList)
      exact ⟨hrest, congrArg (· ++ _) hkept.symm⟩
    · rw [List.filter_cons_of_neg (by simpa using hself)]
      simp only [Cache.invalidate, generationsOf_append, generationsOf_other hself,
        List.nil_append]
      refine ih (h.elsewhere ?_ (full.options_invalidateOne first) ?_)
      · rw [full.slot_invalidateOne first, Function.update_of_ne (Ne.symm hself)]
      · rw [full.lastGeneration_invalidateOne first, full.invalidateOne_started first]
        split
        · exact Nat.le_succ _
        · exact Nat.le_refl _

/-- The keys that are the document. -/
theorem keys_filter {α : Type} (table : Std.ExtTreeMap Document α) (document : Document) :
    table.keys.filter (· = document) = if document ∈ table then [document] else [] := by
  rw [List.filter_eq, Std.ExtTreeMap.nodup_keys.count]
  simp only [Std.ExtTreeMap.mem_keys]
  split <;> rfl

/-- Everything that is known in the second cache is known of the document. -/
theorem keys_own {α : Type} {table : Std.ExtTreeMap Document α}
    (others : ∀ other, other ≠ document → table[other]? = none) :
    table.keys = if document ∈ table then [document] else [] := by
  rw [← keys_filter, eq_comm, List.filter_eq_self]
  intro other hmem
  by_contra hother
  have hnone := others other (by simpa using hother)
  rw [Std.ExtTreeMap.mem_keys, Std.ExtTreeMap.mem_iff_isSome_getElem?, hnone] at hmem
  cases hmem

/-- In whatever order all documents are listed, what is left of them is what the second cache
lists. -/
theorem listed_own (h : Twin document mine issued full own) {documents : List Document}
    (listed : documents.Perm (full.entries.keys ++ full.flights.keys)) :
    own.entries.keys ++ own.flights.keys = documents.filter (· = document) := by
  have hkeys : own.entries.keys ++ own.flights.keys =
      (full.entries.keys ++ full.flights.keys).filter (· = document) := by
    rw [keys_own fun other hother => congrArg Slot.entry (h.others other hother),
      keys_own fun other hother => congrArg Slot.flight (h.others other hother),
      List.filter_append, keys_filter, keys_filter]
    simp only [Std.ExtTreeMap.mem_iff_isSome_getElem?, h.entries, h.flights_isSome]
  rw [hkeys, List.filter_eq, List.filter_eq, listed.count_eq]

theorem invalidateAll (h : Twin document mine issued full own) :
    let started := generationsOf full.invalidateAll.2 document
    Twin document mine (issued ++ started) full.invalidateAll.1 own.invalidateAll.1 ∧
      generationsOf own.invalidateAll.2 document = started.map (ordinal (issued ++ started)) := by
  have hinvalidate := h.invalidate (full.entries.keys ++ full.flights.keys)
  rw [← h.listed_own (.refl _)] at hinvalidate
  exact hinvalidate

/-- The document stands where it stands. -/
theorem state (h : Twin document mine issued full own) :
    own.state document = full.state document := by
  have hflight := h.flights_isSome
  rw [Cache.state, Cache.state, h.entries]
  cases full.entries[document]? with
  | none =>
    cases hown : own.flights[document]? <;> cases hfull : full.flights[document]? <;>
      simp_all
  | some entry =>
    simp only [hflight]

/-- The query on its way is known by its number. -/
theorem flights (h : Twin document mine issued full own) :
    own.flights[document]? =
      full.flights[document]?.map (·.renumber (ordinal issued)) :=
  congrArg Slot.flight h.slot

theorem waiting (h : Twin document mine issued full own) :
    own.waiting document = full.waiting document := by
  rw [Cache.waiting, Cache.waiting, h.flights, Option.map_map]
  rfl

/-- What comes of the result of the query on its way is the same up to generations. -/
theorem completion (h : Twin document mine issued full own) {gone goneOwn : Waiter → Bool}
    (hgone : ∀ waiter ∈ mine, gone waiter = goneOwn waiter) {flight : Flight}
    (hflight : full.flights[document]? = some flight) (result : QueryResult) :
    own.completion goneOwn document (flight.renumber (ordinal issued)) result =
      { full.completion gone document flight result with
        requery := if flight.requery then some (own.lastGeneration + 1) else none } := by
  have hany : flight.waiters.any goneOwn = flight.waiters.any gone := by
    rw [Bool.eq_iff_iff, List.any_eq_true, List.any_eq_true]
    refine exists_congr fun waiter => and_congr_right fun hmem => ?_
    rw [hgone waiter ((h.running flight hflight).2 waiter hmem)]
  have hsettled : (own.slot document).settled (full.fallback document) result =
      (full.slot document).settled (full.fallback document) result := by
    rw [h.slot, Slot.renumber_settled]
  have hfresh : own.fresh? document result = full.fresh? document result := by
    simp only [fresh?, h.entries, h.fallback]
  have hchange : own.isChange document = full.isChange document := by
    funext previous fresh served
    simp only [isChange, h.fallback]
  rw [Cache.completion, Cache.completion, hchange, hfresh, h.entries, h.fallback]
  simp only [Flight.renumber, hsettled, hany]
  rfl

theorem complete (h : Twin document mine issued full own) {gone goneOwn : Waiter → Bool}
    (hgone : ∀ waiter ∈ mine, gone waiter = goneOwn waiter) (generation : Nat)
    (result : QueryResult) :
    let answer := (full.complete gone document generation result).2
    let begun := (answer.bind (·.requery)).toList
    Twin document mine (issued ++ begun) (full.complete gone document generation result).1
        (own.complete goneOwn document (ordinal issued generation) result).1 ∧
      (own.complete goneOwn document (ordinal issued generation) result).2 =
        answer.map (·.renumber (ordinal (issued ++ begun))) := by
  obtain ⟨flight, hflight, rfl⟩ | hother := full.current_or_other document generation
  · have hflight' := h.flights
    rw [hflight, Option.map_some] at hflight'
    obtain ⟨hanswer, hslot, hlast, hoptions⟩ := complete_of_current gone result hflight
    obtain ⟨hanswer', hslot', hlast', hoptions'⟩ := complete_of_current goneOwn result hflight'
    have hgeneration : (flight.renumber (ordinal issued)).generation =
      ordinal issued flight.generation := rfl
    rw [hgeneration, h.completion hgone hflight result] at hanswer' hlast'
    rw [hgeneration] at hslot' hoptions'
    rw [h.slot_next, h.fallback, ← h.ordinal_next, Slot.renumber_complete] at hslot'
    have hboth : BothBegin full own
        (if flight.requery then some (full.lastGeneration + 1) else none)
        (if flight.requery then some (own.lastGeneration + 1) else none) := by
      split
      · exact .both
      · exact .neither
    obtain ⟨htwin, hbegun⟩ := h.turn hboth hslot hslot' hlast hlast' hoptions hoptions' (by
      intro next hnext
      rw [Slot.complete, slot_flight, hflight, Option.any_some] at hnext
      split at hnext
      · next hrequery =>
        obtain rfl := Option.some.inj hnext
        rw [if_pos hrequery]
        exact ⟨List.mem_append_right _ (List.mem_singleton_self _), List.forall_mem_nil _⟩
      · rw [Slot.land_flight] at hnext
        cases hnext)
    rw [hanswer, hanswer']
    exact ⟨htwin, congrArg (fun requery => some (Completion.mk _ requery _)) hbegun⟩
  · have hother' : ∀ flight, own.flights[document]? = some flight →
        flight.generation ≠ ordinal issued generation := by
      intro flight hflight
      rw [h.flights, Option.map_eq_some_iff] at hflight
      obtain ⟨old, hold, rfl⟩ := hflight
      intro hsame
      exact hother old hold ((ordinal_inj (h.running old hold).1).mp hsame)
    rw [complete_of_not_current gone result hother,
      complete_of_not_current goneOwn result hother']
    refine ⟨?_, rfl⟩
    rw [Option.bind_none, Option.toList_none, List.append_nil]
    exact h

end Cache.Twin

end SettingsBroker
