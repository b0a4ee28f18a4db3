/-
# Settings are fresh once everything has been heard

What the broker stores for a document is what a query has read of the build
system, perhaps long ago.  This module proves that it is up to date as soon as
nothing is left to be heard: no change to be reported, no event on its way, and no
query of the document.

The invariant compares every answer that may still be stored, or is stored, with
the answer that the build system would give now.  They say the same unless an
announcement of the document is awaited: a change still to be reported, an event
still to be delivered or lost, or a notice still to be handled.  An answer whose
query will be followed by another is not compared, since it will be replaced.
-/

import SettingsBroker.Backend
import SettingsBroker.Proofs.Broker.World

namespace SettingsBroker

namespace World

variable {system : ReportingSystem} {w next : World system} {options : FallbackOptions}
  {document : Document} {answer : Option BuildSettings} {generation : Nat}

/-- An announcement of a document is awaited. -/
def Awaits (w : World system) (document : Document) : Prop :=
  (∃ changed ∈ w.owed, document ∈ changed) ∨
    (∃ event, (BrokerNotice.event event).Announces document ∧ w.stream.Due w.position event) ∨
    ∃ notice ∈ w.mail, notice.Announces document

/-- An answer is what the build system would answer now, or else it is known that
an announcement is to come. -/
def Current (w : World system) (document : Document) (answer : Option BuildSettings) : Prop :=
  SameAnswer answer (system.answer w.state document) ∨ w.Awaits document

/-- A query has read an answer that has still to be handled. -/
def Told (w : World system) (document : Document) (generation : Nat)
    (answer : Option BuildSettings) : Prop :=
  ⟨document, generation, some answer⟩ ∈ w.running ∨
    .queryFinished document generation (.ok answer) ∈ w.mail

/-- A query runs or has ended, and its result has still to be handled. -/
def Outstanding (w : World system) (document : Document) (generation : Nat) : Prop :=
  (∃ read, ⟨document, generation, read⟩ ∈ w.running) ∨
    ∃ result, .queryFinished document generation result ∈ w.mail

/-- What holds in every world that can come about. -/
structure Upkept (options : FallbackOptions) (w : World system) : Prop where
  /-- Fallback settings are made from the same options throughout. -/
  options_eq : w.broker.cache.options = options
  /-- The broker's reader follows the events. -/
  followed : w.stream.FollowedAt w.position
  /-- No query fails. -/
  answered : ∀ document generation result,
    .queryFinished document generation result ∈ w.mail → ∃ answer, result = .ok answer
  /-- The generations of queries have been given. -/
  given : ∀ document generation, w.Outstanding document generation →
    generation ≤ w.broker.cache.lastGeneration
  /-- What the query on its way has read is current, unless another will follow. -/
  read : ∀ document flight answer, w.broker.cache.flights[document]? = some flight →
    flight.requery = false → w.Told document flight.generation answer →
    w.Current document answer
  /-- What is stored is not stale and current, unless a query is on its way. -/
  stored : ∀ document entry, w.broker.cache.flights[document]? = none →
    w.broker.cache.entries[document]? = some entry →
    entry.stale = false ∧ ∃ answer, entry.settings = answer.getD (options.compute document) ∧
      w.Current document answer

/-- A query that was just started has read nothing. -/
theorem told_launched {broker : Broker} {effects : List BrokerEffect}
    {mail : List BrokerNotice} (hmail : ∀ notice ∈ mail, notice ∈ w.mail)
    (h : ({ w with broker, mail, running := w.running ++ launched effects } :
      World system).Told document generation answer) :
    w.Told document generation answer := by
  rcases h with hrunning | hended
  · rcases List.mem_append.mp hrunning with hold | hnew
    · exact Or.inl hold
    · simp [launched] at hnew
  · exact Or.inr (hmail _ hended)

/-- What is outstanding was so before or was just started. -/
theorem outstanding_launched {broker : Broker} {effects : List BrokerEffect}
    {mail : List BrokerNotice} (hmail : ∀ notice ∈ mail, notice ∈ w.mail)
    (h : ({ w with broker, mail, running := w.running ++ launched effects } :
      World system).Outstanding document generation) :
    w.Outstanding document generation ∨
      (document, generation) ∈ BrokerEffect.started effects := by
  rcases h with ⟨read, hrunning⟩ | ⟨result, hended⟩
  · rcases List.mem_append.mp hrunning with hold | hnew
    · exact Or.inl (Or.inl ⟨read, hold⟩)
    · right
      simp only [launched, List.mem_map, RunningQuery.mk.injEq] at hnew
      obtain ⟨query, hquery, rfl, rfl, -⟩ := hnew
      exact hquery
  · exact Or.inl (Or.inr ⟨result, hmail _ hended⟩)

/-- What was told is outstanding. -/
theorem Told.outstanding (h : w.Told document generation answer) :
    w.Outstanding document generation := by
  rcases h with hrunning | hended
  · exact Or.inl ⟨_, hrunning⟩
  · exact Or.inr ⟨_, hended⟩

namespace Upkept

theorem start (options : FallbackOptions) (state : system.State) (owed : List DocumentSet)
    (capacity : Nat) (earlier : List BuildEvent) :
    Upkept options (World.start options state owed capacity earlier : World system) := by
  have hempty : ∀ document, (Broker.start options).1.cache.slot document = .empty :=
    Cache.slot_empty options
  refine ⟨rfl, EventStream.followedAt_sendAll capacity earlier, ?_, ?_, ?_, ?_⟩
  · intro document generation result hmem
    cases hmem
  · rintro document generation (⟨read, hmem⟩ | ⟨result, hmem⟩) <;> cases hmem
  · intro document flight answer hflight
    rw [← Cache.slot_flight] at hflight
    cases (hempty document ▸ hflight : Slot.empty.flight = some flight)
  · intro document entry _ hentry
    rw [← Cache.slot_entry] at hentry
    cases (hempty document ▸ hentry : Slot.empty.entry = some entry)

/-- Steps that leave the cache alone keep the invariant if they bring up nothing
but fresh answers and lose no announcement. -/
theorem frame (h : w.Upkept options) (hcache : next.broker.cache = w.broker.cache)
    (hfollowed : next.stream.FollowedAt next.position)
    (hanswered : ∀ document generation result,
      .queryFinished document generation result ∈ next.mail → ∃ answer, result = .ok answer)
    (hgiven : ∀ document generation, next.Outstanding document generation →
      w.Outstanding document generation)
    (htold : ∀ document generation answer, next.Told document generation answer →
      w.Told document generation answer ∨ next.Current document answer)
    (hcurrent : ∀ document answer, w.Current document answer → next.Current document answer) :
    next.Upkept options := by
  refine ⟨hcache ▸ h.options_eq, hfollowed, hanswered, ?_, ?_, ?_⟩
  · intro document generation houtstanding
    rw [hcache]
    exact h.given document generation (hgiven document generation houtstanding)
  · intro document flight answer hflight hrequery hnext
    rw [hcache] at hflight
    rcases htold document flight.generation answer hnext with hold | hnow
    · exact hcurrent document answer (h.read document flight answer hflight hrequery hold)
    · exact hnow
  · intro document entry hflight hentry
    rw [hcache] at hflight hentry
    obtain ⟨hfresh, answer, hsettings, hold⟩ := h.stored document entry hflight hentry
    exact ⟨hfresh, answer, hsettings, hcurrent document answer hold⟩

/-- An answer stays current when the state stays and no announcement is lost. -/
theorem current_of_awaits (hstate : next.state = w.state)
    (hawaits : ∀ document, w.Awaits document → next.Awaits document) (document : Document)
    (answer : Option BuildSettings) (h : w.Current document answer) :
    next.Current document answer := by
  rcases h with hsame | hawaited
  · left
    rw [hstate]
    exact hsame
  · exact Or.inr (hawaits document hawaited)

/-- The invariant is kept when the cache moves on and what it has begun is
launched, if every document that is no longer awaited was touched. -/
theorem advance (h : w.Upkept options) {broker : Broker} {effects : List BrokerEffect}
    {mail : List BrokerNotice} {touched : Document → Prop}
    (hadvance : w.broker.cache.Advance touched broker.cache (BrokerEffect.started effects))
    (hmail : ∀ notice ∈ mail, notice ∈ w.mail)
    (hawaits : ∀ document, w.Awaits document → touched document ∨
      ({ w with broker, mail, running := w.running ++ launched effects } :
        World system).Awaits document) :
    ({ w with broker, mail, running := w.running ++ launched effects } :
      World system).Upkept options := by
  have hcurrent : ∀ document answer, ¬ touched document → w.Current document answer →
      ({ w with broker, mail, running := w.running ++ launched effects } :
        World system).Current document answer := by
    rintro document answer huntouched (hsame | hawaited)
    · exact Or.inl hsame
    · exact Or.inr ((hawaits document hawaited).resolve_left huntouched)
  refine ⟨hadvance.options.trans h.options_eq, h.followed, ?_, ?_, ?_, ?_⟩
  · exact fun document generation result hmem =>
      h.answered document generation result (hmail _ hmem)
  · intro document generation houtstanding
    rcases outstanding_launched hmail houtstanding with hold | hnew
    · have hgiven := h.given document generation hold
      have hcounted := hadvance.counted
      simp only
      omega
    · exact (hadvance.generation_mem hnew).2
  · intro document flight answer hflight hrequery htold
    have htold := told_launched hmail htold
    have hslot := hadvance.slots document
    generalize hgenerations :
      Cache.generationsOf (BrokerEffect.started effects) document = generations at hslot
    cases hslot with
    | carried before after same requery =>
      obtain rfl := Option.some.inj (hflight.symm.trans after)
      have hkept := mt requery.mpr (by simp [hrequery])
      rw [not_or] at hkept
      refine hcurrent document answer hkept.2 ?_
      rw [same] at htold
      exact h.read document _ answer before (by simpa using hkept.1) htold
    | begun before after =>
      -- A query that was just begun cannot have told anything yet.
      obtain rfl := Option.some.inj (hflight.symm.trans after)
      have hnew : (document, flight.generation) ∈ BrokerEffect.started effects := by
        rw [← Cache.mem_generationsOf, hgenerations]
        exact List.mem_singleton_self _
      have hgiven := h.given document _ htold.outstanding
      have hlater := (hadvance.generation_mem hnew).1
      omega
    | idle before after => cases hflight.symm.trans after
  · intro document entry hflight hentry
    have hslot := hadvance.slots document
    generalize Cache.generationsOf (BrokerEffect.started effects) document = generations at hslot
    cases hslot with
    | carried before after => cases hflight.symm.trans after
    | begun before after => cases hflight.symm.trans after
    | idle before after kept absent =>
      have hold : w.broker.cache.entries[document]? = some entry := kept.symm.trans hentry
      obtain ⟨hfresh, answer, hsettings, hanswer⟩ := h.stored document entry before hold
      refine ⟨hfresh, answer, hsettings, hcurrent document answer ?_ hanswer⟩
      intro htouched
      cases hold.symm.trans (absent htouched)

/-- The invariant is kept when a document is forgotten. -/
theorem forget (h : w.Upkept options) (document : Document) {broker : Broker}
    (hcache : broker.cache = (w.broker.cache.evict document).1) :
    ({ w with broker } : World system).Upkept options := by
  have hslot := w.broker.cache.slot_evict document
  have helsewhere : ∀ other, other ≠ document →
      broker.cache.slot other = w.broker.cache.slot other := by
    intro other hother
    rw [hcache, hslot, Function.update_of_ne hother]
  have hself : broker.cache.slot document = .empty := by
    rw [hcache, hslot, Function.update_self]
  refine ⟨?_, h.followed, h.answered, ?_, ?_, ?_⟩
  · simp only [hcache]
    exact h.options_eq
  · simp only [hcache]
    exact h.given
  · intro other flight answer hflight hrequery htold
    rw [← Cache.slot_flight] at hflight
    by_cases hother : other = document
    · subst hother
      rw [hself] at hflight
      cases hflight
    · rw [helsewhere other hother] at hflight
      exact h.read other flight answer hflight hrequery htold
  · intro other entry hflight hentry
    rw [← Cache.slot_flight] at hflight
    rw [← Cache.slot_entry] at hentry
    by_cases hother : other = document
    · subst hother
      rw [hself] at hentry
      cases hentry
    · rw [helsewhere other hother] at hflight hentry
      exact h.stored other entry hflight hentry

/-- What is awaited stays awaited while a notice is handled, unless the notice
announces it. -/
theorem announces_or_awaits {broker : Broker} {notice : BrokerNotice} {rest : List BrokerNotice}
    {running : List RunningQuery} (hmail : w.mail = notice :: rest) (document : Document)
    (h : w.Awaits document) :
    notice.Announces document ∨
      ({ w with broker, mail := rest, running } : World system).Awaits document := by
  rcases h with howed | hdue | ⟨found, hfound, hannounces⟩
  · exact Or.inr (Or.inl howed)
  · exact Or.inr (Or.inr (Or.inl hdue))
  · rw [hmail, List.mem_cons] at hfound
    rcases hfound with rfl | hrest
    · exact Or.inl hannounces
    · exact Or.inr (Or.inr (Or.inr ⟨found, hrest, hannounces⟩))

/-- The invariant is kept when the result of a query is handled that is dropped. -/
theorem drop (h : w.Upkept options) {generation : Nat} {result : QueryResult}
    {rest : List BrokerNotice}
    (hmail : w.mail = .queryFinished document generation result :: rest) :
    ({ w with mail := rest } : World system).Upkept options := by
  have hsubset : ∀ notice ∈ rest, notice ∈ w.mail := by
    intro notice hnotice
    rw [hmail]
    exact List.mem_cons_of_mem _ hnotice
  refine h.frame rfl h.followed ?_ ?_ ?_ ?_
  · exact fun document generation result hmem =>
      h.answered document generation result (hsubset _ hmem)
  · rintro document generation (hrunning | ⟨result, hended⟩)
    · exact Or.inl hrunning
    · exact Or.inr ⟨result, hsubset _ hended⟩
  · rintro document generation answer (hrunning | hended)
    · exact Or.inl (Or.inl hrunning)
    · exact Or.inl (Or.inr (hsubset _ hended))
  · refine current_of_awaits rfl fun document hawaited => ?_
    exact (announces_or_awaits hmail document hawaited).resolve_left id

/-- The invariant is kept when the result of the query on its way is handled: it is
stored, and it is current unless another query follows. -/
theorem land (h : w.Upkept options) {flight : Flight} {answer : Option BuildSettings}
    {rest : List BrokerNotice} (gone : Waiter → Bool)
    (hflight : w.broker.cache.flights[document]? = some flight)
    (hmail : w.mail = .queryFinished document flight.generation (.ok answer) :: rest) :
    ({ w with
        broker := (w.broker.finishQuery gone document flight.generation (.ok answer)).1
        mail := rest
        running := w.running ++
          launched (w.broker.finishQuery gone document flight.generation (.ok answer)).2 } :
      World system).Upkept options := by
  have hlanded := Broker.finishQuery_of_current gone (.ok answer) hflight
  have hsubset : ∀ notice ∈ rest, notice ∈ w.mail := by
    intro notice hnotice
    rw [hmail]
    exact List.mem_cons_of_mem _ hnotice
  have htold : w.Told document flight.generation answer := by
    right
    rw [hmail]
    exact List.mem_cons_self
  generalize w.broker.finishQuery gone document flight.generation (.ok answer) = step at hlanded
  obtain ⟨broker, effects⟩ := step
  obtain ⟨hself, helsewhere, hnumbered, hoptions, hstarted, -⟩ := hlanded
  rw [Slot.land_ok] at hself
  simp only at hself helsewhere hnumbered hoptions hstarted
  have hcurrent : ∀ document answer, w.Current document answer →
      ({ w with broker, mail := rest, running := w.running ++ launched effects } :
        World system).Current document answer := by
    refine current_of_awaits rfl fun document hawaited => ?_
    exact (announces_or_awaits hmail document hawaited).resolve_left id
  refine ⟨hoptions.trans h.options_eq, h.followed, ?_, ?_, ?_, ?_⟩
  · exact fun document generation result hmem =>
      h.answered document generation result (hsubset _ hmem)
  · intro other generation houtstanding
    simp only [hnumbered]
    rcases outstanding_launched hsubset houtstanding with hold | hnew
    · exact Nat.le_add_right_of_le (h.given other generation hold)
    · rw [hstarted] at hnew
      unfold Broker.followUp at hnew ⊢
      split at hnew
      · obtain ⟨-, rfl⟩ := Prod.mk.inj (List.mem_singleton.mp hnew)
        simp [*]
      · cases hnew
  · intro other next found hnext hrequery hnewly
    have hnewly := told_launched hsubset hnewly
    rw [← Cache.slot_flight] at hnext
    by_cases hother : other = document
    · -- The query that follows was just begun and cannot have told anything yet.
      subst hother
      rw [hself] at hnext
      split at hnext
      · obtain rfl := Option.some.inj hnext
        have hgiven := h.given other _ hnewly.outstanding
        exact absurd hgiven (Nat.not_succ_le_self _)
      · cases hnext
    · rw [helsewhere other hother] at hnext
      exact hcurrent other found (h.read other next found hnext hrequery hnewly)
  · intro other entry hidle hentry
    rw [← Cache.slot_flight] at hidle
    rw [← Cache.slot_entry] at hentry
    by_cases hother : other = document
    · subst hother
      rw [hself] at hidle hentry
      split at hidle
      · cases hidle
      · next hlast =>
        rw [if_neg hlast] at hentry
        obtain rfl := Option.some.inj hentry
        refine ⟨rfl, answer, ?_, hcurrent other answer
          (h.read other flight answer hflight (by simpa using hlast) htold)⟩
        rw [← h.options_eq]
        rfl
    · rw [helsewhere other hother] at hidle hentry
      obtain ⟨hfresh, found, hsettings, hfound⟩ := h.stored other entry hidle hentry
      exact ⟨hfresh, found, hsettings, hcurrent other found hfound⟩

/-- The invariant is kept when the broker handles its oldest notice. -/
theorem handle (h : w.Upkept options) {notice : BrokerNotice} {rest : List BrokerNotice}
    (gone : Waiter → Bool) (hmail : w.mail = notice :: rest) :
    ({ w with
        broker := (w.broker.handleNotice gone notice).1
        mail := rest
        running := w.running ++ launched (w.broker.handleNotice gone notice).2 } :
      World system).Upkept options := by
  have hsteady := Broker.Steady.handleNotice w.broker gone notice
  have hmoved : (∃ touched, w.broker.Steady touched (w.broker.handleNotice gone notice) ∧
      ∀ document, notice.Announces document → touched document) →
      ({ w with
          broker := (w.broker.handleNotice gone notice).1
          mail := rest
          running := w.running ++ launched (w.broker.handleNotice gone notice).2 } :
        World system).Upkept options := by
    rintro ⟨touched, hsteady, htouched⟩
    refine h.advance hsteady.advance ?_ fun document hawaited => ?_
    · intro other hother
      rw [hmail]
      exact List.mem_cons_of_mem _ hother
    · rcases announces_or_awaits hmail document hawaited with hannounced | hstill
      · exact Or.inl (htouched document hannounced)
      · exact Or.inr hstill
  cases notice with
  | queryFinished document generation result =>
    obtain ⟨answer, rfl⟩ := h.answered document generation result
      (by rw [hmail]; exact List.mem_cons_self)
    rcases w.broker.cache.current_or_other document generation with
      ⟨flight, hflight, rfl⟩ | hother
    · exact h.land gone hflight hmail
    · have hdropped := Broker.finishQuery_of_not_current gone (.ok answer) hother
      simp only [Broker.handleNotice, hdropped]
      rw [show launched [] = [] from rfl, List.append_nil]
      exact h.drop hmail
  | _ => exact hmoved (hsteady (by nofun))

/-- The invariant is kept when the broker carries out a command. -/
theorem command (h : w.Upkept options) (command : BrokerCommand) :
    ({ w with
        broker := (w.broker.handleCommand command).1
        running := w.running ++ launched (w.broker.handleCommand command).2 } :
      World system).Upkept options := by
  have hsteady := Broker.Steady.handleCommand w.broker command
  cases command with
  | evict document receipt =>
    have hlaunched :
        launched (w.broker.handleCommand (.evict document receipt)).2 = [] := by
      rw [launched, Broker.started_evict, List.map_nil]
    rw [hlaunched, List.append_nil]
    exact h.forget document rfl
  | _ =>
    obtain ⟨touched, hsteady⟩ := hsteady (by nofun)
    exact h.advance hsteady.advance (fun _ hnotice => hnotice) fun _ hawaited => Or.inr hawaited

/-- The invariant is kept when something arrives in the mail that is not the result
of a query. -/
theorem receive (h : w.Upkept options) {notice : BrokerNotice} {position : Nat}
    (hother : ∀ document generation result,
      notice ≠ .queryFinished document generation result)
    (hfollowed : w.stream.FollowedAt position)
    (hawaits : ∀ document, w.Awaits document →
      ({ w with position, mail := w.mail ++ [notice] } : World system).Awaits document) :
    ({ w with position, mail := w.mail ++ [notice] } : World system).Upkept options := by
  have hmem : ∀ document generation result,
      .queryFinished document generation result ∈ w.mail ++ [notice] →
        .queryFinished document generation result ∈ w.mail := by
    intro document generation result hmail
    rcases List.mem_append.mp hmail with hold | hnew
    · exact hold
    · exact absurd (List.mem_singleton.mp hnew).symm (hother document generation result)
  refine h.frame rfl hfollowed ?_ ?_ ?_ (current_of_awaits rfl hawaits)
  · exact fun document generation result hmail =>
      h.answered document generation result (hmem document generation result hmail)
  · rintro document generation (hrunning | ⟨result, hended⟩)
    · exact Or.inl hrunning
    · exact Or.inr ⟨result, hmem document generation result hended⟩
  · rintro document generation answer (hrunning | hended)
    · exact Or.inl (Or.inl hrunning)
    · exact Or.inl (Or.inr (hmem document generation _ hended))

/-- The invariant is kept when the build system moves on, if the answers that
differ afterwards are awaited. -/
theorem surroundings (h : w.Upkept options) {state : system.State} {owed : List DocumentSet}
    {stream : EventStream BuildEvent} (hfollowed : stream.FollowedAt w.position)
    (hcurrent : ∀ document answer, w.Current document answer →
      ({ w with state, owed, stream } : World system).Current document answer) :
    ({ w with state, owed, stream } : World system).Upkept options :=
  h.frame rfl hfollowed h.answered (fun _ _ houtstanding => houtstanding)
    (fun _ _ _ htold => Or.inl htold) hcurrent

/-- The invariant is kept when the state changes: every answer that differs is among
what is then to be reported. -/
theorem change (h : w.Upkept options) {state : system.State} {changed : DocumentSet}
    (hchange : system.Change w.state state changed) :
    ({ w with state, owed := w.owed ++ [changed] } : World system).Upkept options := by
  refine h.surroundings h.followed fun document answer hold => ?_
  rcases hold with hsame | ⟨found, hfound, hmem⟩ | helse
  · by_cases hmem : document ∈ changed
    · exact Or.inr (Or.inl ⟨changed, by simp, hmem⟩)
    · exact Or.inl (hsame.trans (system.covers hchange hmem))
  · exact Or.inr (Or.inl ⟨found, List.mem_append_left _ hfound, hmem⟩)
  · exact Or.inr (Or.inr helse)

/-- What is to be reported of a document is among the rest or is what is reported
now. -/
theorem owed_or_reported {before after : List DocumentSet} {changed : DocumentSet}
    (howed : w.owed = before ++ changed :: after)
    (h : ∃ found ∈ w.owed, document ∈ found) :
    (∃ found ∈ before ++ after, document ∈ found) ∨ document ∈ changed := by
  obtain ⟨found, hfound, hmem⟩ := h
  rw [howed, List.mem_append, List.mem_cons] at hfound
  rcases hfound with hbefore | rfl | hafter
  · exact Or.inl ⟨found, List.mem_append_left _ hbefore, hmem⟩
  · exact Or.inr hmem
  · exact Or.inl ⟨found, List.mem_append_right _ hafter, hmem⟩

/-- The invariant is kept when nothing is reported because nothing is to be. -/
theorem lapse (h : w.Upkept options) {before after : List DocumentSet} {changed : DocumentSet}
    (howed : w.owed = before ++ changed :: after) (hnothing : changed.isEmpty = true) :
    ({ w with owed := before ++ after } : World system).Upkept options := by
  refine h.surroundings h.followed (current_of_awaits rfl ?_)
  rintro document (hto | helse)
  · rcases owed_or_reported howed hto with hrest | hmem
    · exact Or.inl hrest
    · rw [Std.ExtTreeSet.isEmpty_iff.mp hnothing] at hmem
      exact absurd hmem Std.ExtTreeSet.not_mem_empty
  · exact Or.inr helse

/-- The invariant is kept when a change is reported: what was to be reported is then
due in the stream. -/
theorem announce (h : w.Upkept options) {before after : List DocumentSet}
    {changed : DocumentSet} (howed : w.owed = before ++ changed :: after) :
    ({ w with
        owed := before ++ after
        stream := w.stream.send (.settingsChanged changed) } : World system).Upkept options := by
  refine h.surroundings (h.followed.send _) (current_of_awaits rfl ?_)
  rintro document (hto | ⟨found, hannounces, hdue⟩ | hmail)
  · rcases owed_or_reported howed hto with hrest | hmem
    · exact Or.inl hrest
    · exact Or.inr (Or.inl ⟨.settingsChanged changed, hmem, EventStream.due_send h.followed _⟩)
  · exact Or.inr (Or.inl ⟨found, hannounces, hdue.send h.followed _⟩)
  · exact Or.inr (Or.inr hmail)

/-- The invariant is kept when anything is reported. -/
theorem report (h : w.Upkept options) (event : BuildEvent) :
    ({ w with stream := w.stream.send event } : World system).Upkept options := by
  refine h.surroundings (h.followed.send event) (current_of_awaits rfl ?_)
  rintro document (howed | ⟨found, hannounces, hdue⟩ | hmail)
  · exact Or.inl howed
  · exact Or.inr (Or.inl ⟨found, hannounces, hdue.send h.followed event⟩)
  · exact Or.inr (Or.inr hmail)

/-- The invariant is kept when an event is delivered: what was due in the stream is
then in the mail. -/
theorem deliver (h : w.Upkept options) {event : BuildEvent} {position : Nat}
    (hfound : w.stream.receive w.position = (.event event, position)) :
    ({ w with position, mail := w.mail ++ [.event event] } : World system).Upkept options := by
  obtain ⟨hunseen, hreached, -⟩ := EventStream.unseen_of_receive_event hfound
  refine h.receive (by simp) (h.followed.receive_event hfound) ?_
  rintro document (howed | ⟨found, hannounces, hdue | hbehind⟩ | ⟨found, hmem, hannounces⟩)
  · exact Or.inl howed
  · rw [hunseen, List.mem_cons] at hdue
    rcases hdue with rfl | hlater
    · exact Or.inr (Or.inr ⟨_, by simp, hannounces⟩)
    · exact Or.inr (Or.inl ⟨found, hannounces, Or.inl hlater⟩)
  · omega
  · exact Or.inr (Or.inr ⟨found, List.mem_append_left _ hmem, hannounces⟩)

/-- The invariant is kept when events were lost: the notice of it announces every
document. -/
theorem fallBehind (h : w.Upkept options) {missed position : Nat}
    (hfound : w.stream.receive w.position = (.lagged missed, position)) :
    ({ w with position, mail := w.mail ++ [.lagged missed] } : World system).Upkept options := by
  refine h.receive (by simp) (h.followed.receive_lagged hfound) fun document _ => ?_
  exact Or.inr (Or.inr ⟨.lagged missed, by simp, trivial⟩)

/-- The invariant is kept when a fetch of targets ends. -/
theorem fetched (h : w.Upkept options) (events : List TargetEvent) (rebuild : Bool)
    (result : Except Failure (List BuildTarget)) :
    ({ w with mail := w.mail ++ [.targetsFetched events rebuild result] } :
      World system).Upkept options := by
  refine h.receive (by simp) h.followed ?_
  rintro document (howed | hdue | ⟨found, hmem, hannounces⟩)
  · exact Or.inl howed
  · exact Or.inr (Or.inl hdue)
  · exact Or.inr (Or.inr ⟨found, List.mem_append_left _ hmem, hannounces⟩)

/-- The invariant is kept when a query reads the state: what has just been read is
what the build system answers now. -/
theorem readState (h : w.Upkept options) {before after : List RunningQuery}
    (hunread : w.running = before ++ ⟨document, generation, none⟩ :: after) :
    ({ w with
        running :=
          before ++ ⟨document, generation, some (system.answer w.state document)⟩ :: after } :
      World system).Upkept options := by
  have hkept : ∀ query, query ∈ before ∨ query ∈ after → query ∈ w.running := by
    intro query hquery
    rw [hunread, List.mem_append, List.mem_cons]
    exact hquery.imp_right Or.inr
  refine h.frame rfl h.followed h.answered ?_ ?_ fun _ _ hcurrent => hcurrent
  · rintro other number (⟨read, hrunning⟩ | hended)
    · simp only [List.mem_append, List.mem_cons, RunningQuery.mk.injEq] at hrunning
      rcases hrunning with hbefore | ⟨rfl, rfl, -⟩ | hafter
      · exact Or.inl ⟨read, hkept _ (Or.inl hbefore)⟩
      · exact Or.inl ⟨none, by simp [hunread]⟩
      · exact Or.inl ⟨read, hkept _ (Or.inr hafter)⟩
    · exact Or.inr hended
  · rintro other number answer (hrunning | hended)
    · simp only [List.mem_append, List.mem_cons, RunningQuery.mk.injEq] at hrunning
      rcases hrunning with hbefore | ⟨rfl, -, hread⟩ | hafter
      · exact Or.inl (Or.inl (hkept _ (Or.inl hbefore)))
      · right; left
        rw [Option.some.inj hread]
        exact .refl _
      · exact Or.inl (Or.inl (hkept _ (Or.inr hafter)))
    · exact Or.inl (Or.inr hended)

/-- The invariant is kept when a query ends: what it has read is then in the mail. -/
theorem finish (h : w.Upkept options) {before after : List RunningQuery}
    (hdone : w.running = before ++ ⟨document, generation, some answer⟩ :: after) :
    ({ w with
        running := before ++ after
        mail := w.mail ++ [.queryFinished document generation (.ok answer)] } :
      World system).Upkept options := by
  have hrunning : ∀ query ∈ before ++ after, query ∈ w.running := by
    intro query hquery
    rw [hdone, List.mem_append, List.mem_cons]
    exact (List.mem_append.mp hquery).imp_right Or.inr
  have hended : ⟨document, generation, some answer⟩ ∈ w.running := by
    rw [hdone]
    exact List.mem_append_right _ List.mem_cons_self
  refine h.frame rfl h.followed ?_ ?_ ?_ (current_of_awaits rfl ?_)
  · intro other number result hmem
    rcases List.mem_append.mp hmem with hold | hnew
    · exact h.answered other number result hold
    · obtain ⟨-, -, rfl⟩ := BrokerNotice.queryFinished.inj (List.mem_singleton.mp hnew)
      exact ⟨answer, rfl⟩
  · rintro other number (⟨read, hmem⟩ | ⟨result, hmem⟩)
    · exact Or.inl ⟨read, hrunning _ hmem⟩
    · rcases List.mem_append.mp hmem with hold | hnew
      · exact Or.inr ⟨result, hold⟩
      · obtain ⟨rfl, rfl, -⟩ := BrokerNotice.queryFinished.inj (List.mem_singleton.mp hnew)
        exact Or.inl ⟨_, hended⟩
  · rintro other number found (hmem | hmem)
    · exact Or.inl (Or.inl (hrunning _ hmem))
    · rcases List.mem_append.mp hmem with hold | hnew
      · exact Or.inl (Or.inr hold)
      · obtain ⟨rfl, rfl, hresult⟩ :=
          BrokerNotice.queryFinished.inj (List.mem_singleton.mp hnew)
        rw [Except.ok.inj hresult]
        exact Or.inl (Or.inl hended)
  · rintro other (howed | hdue | ⟨found, hmem, hannounces⟩)
    · exact Or.inl howed
    · exact Or.inr (Or.inl hdue)
    · exact Or.inr (Or.inr ⟨found, List.mem_append_left _ hmem, hannounces⟩)

theorem step (h : w.Upkept options) (hstep : Step w next) : next.Upkept options := by
  cases hstep with
  | change change => exact h.change change
  | lapse owed nothing => exact h.lapse owed nothing
  | announce owed => exact h.announce owed
  | report event => exact h.report event
  | deliver found => exact h.deliver found
  | fallBehind found => exact h.fallBehind found
  | read unread => exact h.readState unread
  | finish done => exact h.finish done
  | fetched events rebuild result => exact h.fetched events rebuild result
  | command command => exact h.command command
  | handle gone mail => exact h.handle gone mail

end Upkept

theorem upkept_of_reachable (reached : w.Reachable options) : w.Upkept options := by
  obtain ⟨state, owed, capacity, earlier, hleads⟩ := reached
  induction hleads with
  | refl => exact .start options state owed capacity earlier
  | tail _ hstep ih => exact ih.step hstep

/-- Where all is quiet, no announcement is awaited. -/
theorem Quiet.not_awaits (quiet : w.Quiet) (document : Document) : ¬ w.Awaits document := by
  rintro (⟨changed, howed, -⟩ | ⟨event, -, hdue⟩ | ⟨notice, hmail, hannounces⟩)
  · rw [quiet.reported] at howed
    cases howed
  · exact EventStream.not_due_of_receive_empty quiet.delivered event hdue
  · cases notice with
    | event event => exact quiet.events event hmail
    | lagged missed => exact quiet.lags missed hmail
    | queryFinished document generation result => exact hannounces
    | streamClosed => exact hannounces
    | targetsFetched events rebuild result => exact hannounces

/-- Settings are fresh once everything has been heard.  In every world that can come
about in which all is quiet, a stored document without a query on its way is not
stale, and its settings are what the build system answers now, or the fallback
settings where it has no opinion.  A compilation database is a build system of this
kind: it answers at once from what was read last, and reading its file again is a
matter of steps in such a world. -/
theorem settings_fresh_when_quiet :
    (∀ (system : ReportingSystem) (options : FallbackOptions) (w : World system),
      w.Reachable options → w.Quiet → ∀ (document : Document) (entry : CacheEntry),
      w.broker.cache.flights[document]? = none →
      w.broker.cache.entries[document]? = some entry →
      entry.stale = false ∧
        entry.settings.same
          ((system.answer w.state document).getD (options.compute document)) = true) ∧
    ∀ (current : FilePath) (source : CompileSource) (file : FileContent),
      (∀ document, (Backend.database current source file).settings document =
        (Backend.database current source file,
          .ok (CompileDatabase.reporting.answer source.database document))) ∧
      ∀ w : World CompileDatabase.reporting,
        w.state = source.database → w.stream = source.events →
        w.Leads { w with
          state := (source.reload current file).1.database
          stream := (source.reload current file).1.events } := by
  constructor
  · intro system options w reached quiet document entry hidle hentry
    obtain ⟨hfresh, answer, hsettings, hsame | hawaited⟩ :=
      (upkept_of_reachable reached).stored document entry hidle hentry
    · rw [hsettings]
      exact ⟨hfresh, hsame.getD _⟩
    · exact absurd hawaited (quiet.not_awaits document)
  · intro current source file
    exact ⟨fun document => rfl,
      fun w hstate hstream => source.leads_reload current file hstate hstream⟩

/-! ## A change that overtakes a query -/

/-- A document whose command changes. -/
def overtakenDocument : Document := ⟨"file:///a.c"⟩

/-- The database that the first query reads. -/
def databaseBefore : CompileDatabase :=
  (∅ : CompileDatabase).insert overtakenDocument ⟨⟨[0x2F]⟩, ["-DBEFORE"]⟩

/-- The database after it has changed. -/
def databaseAfter : CompileDatabase :=
  (∅ : CompileDatabase).insert overtakenDocument ⟨⟨[0x2F]⟩, ["-DAFTER"]⟩

/-- What is reported of the change. -/
def overtakenDocuments : DocumentSet := databaseBefore.changed databaseAfter

/-- The end of a query, with the answer of a database. -/
def answeredBy (database : CompileDatabase) (generation : Nat) : BrokerNotice :=
  .queryFinished overtakenDocument generation (.ok (database.settings? overtakenDocument))

/-- The broker that was asked for the document and has then handled notices. -/
def overtakenBroker (notices : List BrokerNotice) : Broker :=
  notices.foldl (fun broker notice => (broker.handleNotice (fun _ => false) notice).1)
    ((Broker.start .empty).1.handleCommand (.resolve overtakenDocument 1)).1

/-- A moment of the run: the broker has handled notices, and the stream keeps the
latest event. -/
def overtakenWorld (notices : List BrokerNotice) (state : CompileDatabase)
    (owed : List DocumentSet) (kept : List BuildEvent) (position : Nat)
    (mail : List BrokerNotice) (running : List RunningQuery) :
    World CompileDatabase.reporting :=
  ⟨overtakenBroker notices, state, owed, ⟨1, kept.length, kept, false⟩, position, mail, running⟩

/-- The first query has read the database before it changes. -/
theorem reachable_overtaken_read :
    (overtakenWorld [] databaseBefore [] [] 0 []
      [⟨overtakenDocument, 1, some (databaseBefore.settings? overtakenDocument)⟩]).Reachable
        .empty := by
  have hstream : (EventStream.empty 1 : EventStream BuildEvent) = ⟨1, 0, [], false⟩ := by cbv
  have hstart : (⟨(Broker.start .empty).1, databaseBefore, [], ⟨1, 0, [], false⟩, 0, [], []⟩ :
      World CompileDatabase.reporting).Reachable .empty := by
    rw [← hstream]
    exact ⟨databaseBefore, [], 1, [], .refl⟩
  have hasked : (overtakenWorld [] databaseBefore [] [] 0 []
      [⟨overtakenDocument, 1, none⟩]).Reachable .empty :=
    hstart.tail (.command (.resolve overtakenDocument 1))
  exact hasked.tail (@Step.read _ _ [] [] _ _ rfl)

/-- The query of a document reads a database before it changes, and the change is
heard while the query is on its way.  Another query follows it, and what is stored in
the end is what the changed database answers. -/
theorem settings_fresh_when_quiet_overtaken :
    ∃ (w : World CompileDatabase.reporting) (entry : CacheEntry),
      w.Reachable .empty ∧ w.Quiet ∧ w.state = databaseAfter ∧
        w.broker.cache.entries[overtakenDocument]? = some entry ∧ entry.stale = false ∧
        entry.settings.same ((databaseAfter.settings? overtakenDocument).getD
          (FallbackOptions.empty.compute overtakenDocument)) = true := by
  let event := BuildEvent.settingsChanged overtakenDocuments
  let told := answeredBy databaseBefore 1
  let again := answeredBy databaseAfter 2
  let first : RunningQuery :=
    ⟨overtakenDocument, 1, some (databaseBefore.settings? overtakenDocument)⟩
  let second : RunningQuery :=
    ⟨overtakenDocument, 2, some (databaseAfter.settings? overtakenDocument)⟩
  -- The change is reported and heard while the first query is on its way.
  have hchanged : (overtakenWorld [] databaseAfter [overtakenDocuments] [] 0 [] [first]).Reachable
      .empty := reachable_overtaken_read.tail (.change rfl)
  have hreported : (overtakenWorld [] databaseAfter [] [event] 0 [] [first]).Reachable .empty :=
    hchanged.tail (@Step.announce _ _ [] [] _ rfl)
  have hdelivered : (overtakenWorld [] databaseAfter [] [event] 1 [.event event]
      [first]).Reachable .empty := hreported.tail (.deliver rfl)
  have hheard : (overtakenWorld [.event event] databaseAfter [] [event] 1 [] [first]).Reachable
      .empty := hdelivered.tail (@Step.handle _ _ (.event event) [] (fun _ => false) rfl)
  -- Its answer is stored, and the second query reads the database as it is now.
  have hended : (overtakenWorld [.event event] databaseAfter [] [event] 1 [told] []).Reachable
      .empty := hheard.tail (@Step.finish _ _ [] [] _ _ _ rfl)
  have hfollowed : (overtakenWorld [.event event, told] databaseAfter [] [event] 1 []
      [⟨overtakenDocument, 2, none⟩]).Reachable .empty :=
    hended.tail (@Step.handle _ _ told [] (fun _ => false) rfl)
  have hread : (overtakenWorld [.event event, told] databaseAfter [] [event] 1 []
      [second]).Reachable .empty := hfollowed.tail (@Step.read _ _ [] [] _ _ rfl)
  have hdone : (overtakenWorld [.event event, told] databaseAfter [] [event] 1 [again]
      []).Reachable .empty := hread.tail (@Step.finish _ _ [] [] _ _ _ rfl)
  have hlast : (overtakenWorld [.event event, told, again] databaseAfter [] [event] 1 []
      []).Reachable .empty := hdone.tail (@Step.handle _ _ again [] (fun _ => false) rfl)
  have hquiet : (overtakenWorld [.event event, told, again] databaseAfter [] [event] 1 []
      []).Quiet := ⟨rfl, rfl, by simp [overtakenWorld], by simp [overtakenWorld]⟩
  obtain ⟨hfresh, hsame⟩ := settings_fresh_when_quiet.1 _ _ _ hlast hquiet overtakenDocument
    ⟨(databaseAfter.settings? overtakenDocument).get rfl, false⟩ rfl rfl
  exact ⟨_, _, hlast, hquiet, rfl, rfl, hfresh, hsame⟩

end World

end SettingsBroker
