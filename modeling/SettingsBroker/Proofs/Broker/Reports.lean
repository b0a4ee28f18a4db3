/-
# Reports follow what is stored

Whoever keeps the settings of a document relies on being told when they change.  Whether
to report is decided while a result is taken in, from the entry that it finds.  That is
enough for a whole run: as long as the document is not forgotten, each step reports it if
and only if it stores settings that are not the same as those before, so that between two
moments without a report the settings are the same.

A report is pushed after the step has stored the settings.  Reading the view on a report,
or at any time later, therefore never misses what was reported.
-/

import SettingsBroker.Broker.Session
import SettingsBroker.Proofs.Broker.Calm

namespace SettingsBroker

namespace BrokerEffect

/-- The report that an effect pushes, unless it says nothing. -/
def pushed? : BrokerEffect → Option ChangeReport
  | .report news => if news.isEmpty then none else some news
  | _ => none

/-- The reports that effects push, in order. -/
def pushed (effects : List BrokerEffect) : List ChangeReport :=
  effects.filterMap pushed?

theorem told_iff_pushed (document : Document) (effects : List BrokerEffect) :
    told document effects = true ↔
      ∃ documents, .settings documents ∈ pushed effects ∧ document ∈ documents := by
  unfold told pushed
  rw [List.any_eq_true]
  constructor
  · rintro ⟨effect, heffect, htells⟩
    cases effect with
    | report news =>
      cases news with
      | settings documents =>
        have hmem : document ∈ documents := htells
        have hsome : documents.isEmpty = false := by
          rw [Std.ExtTreeSet.isEmpty_eq_false_iff]
          rintro rfl
          exact Std.ExtTreeSet.not_mem_empty hmem
        refine ⟨documents, List.mem_filterMap.mpr ⟨_, heffect, ?_⟩, hmem⟩
        simp [pushed?, ChangeReport.isEmpty, hsome]
      | _ => cases htells
    | _ => cases htells
  · rintro ⟨documents, hpushed, hmem⟩
    obtain ⟨effect, heffect, hreport⟩ := List.mem_filterMap.mp hpushed
    cases effect with
    | report news =>
      obtain ⟨-, rfl⟩ : _ ∧ news = .settings documents := by
        simpa [pushed?] using hreport
      exact ⟨_, heffect, hmem⟩
    | _ => cases hreport

end BrokerEffect

open BrokerEffect

namespace Session

theorem waiting_foldl_apply (s : Session) (running : s.coalescer.closed = false)
    (effects : List BrokerEffect) :
    (effects.foldl apply s).coalescer.waiting = s.coalescer.waiting ++ pushed effects := by
  induction effects generalizing s with
  | nil => exact (List.append_nil _).symm
  | cons effect effects ih =>
    rw [List.foldl_cons]
    cases effect with
    | report news =>
      by_cases hempty : news.isEmpty
      · rw [ih _ (by simpa [apply, Coalescer.report, hempty] using running)]
        simp [apply, Coalescer.report, hempty, pushed, pushed?]
      · rw [ih _ (by simp [apply, Coalescer.report, Coalescer.push, hempty, running])]
        simp [apply, Coalescer.report, Coalescer.push, hempty, running, pushed, pushed?]
    | _ => exact ih _ running

/-- What a step of the broker pushes is what the coalescer takes in. -/
theorem waiting_take (s : Session) (running : s.coalescer.closed = false) (step : Broker.Step) :
    (s.take step).coalescer.waiting = s.coalescer.waiting ++ pushed step.2 :=
  waiting_foldl_apply { s with broker := step.1 } running step.2

end Session

/-- The view shows the settings of the entry. -/
def Slot.Faithful (slot : Slot) : Prop :=
  slot.shown = slot.entry.map (·.settings)

theorem Slot.Faithful.keeps {slot next : Slot} (h : slot.Faithful) (hkeeps : slot.Keeps next) :
    next.Faithful :=
  hkeeps.shown.trans (h.trans hkeeps.settings.symm)

theorem Slot.Faithful.land {slot : Slot} (h : slot.Faithful) (fallback : BuildSettings)
    (result : QueryResult) : (slot.land fallback result).Faithful :=
  Slot.land_shown h fallback result

/-! ## What a result reports -/

namespace Cache

variable {cache : Cache} {document : Document}

theorem fresh?_eq_some_or (cache : Cache) (document : Document) (result : QueryResult) :
    cache.fresh? document result =
        some ((cache.slot document).settled (cache.fallback document) result) ∨
      ∃ entry, cache.entries[document]? = some entry ∧ cache.fresh? document result = none ∧
        (cache.slot document).settled (cache.fallback document) result = entry.settings := by
  cases result with
  | ok answer => cases answer <;> exact Or.inl rfl
  | error failure =>
    cases hentry : cache.entries[document]? with
    | none => simp [fresh?, Slot.settled, hentry]
    | some entry => simp [fresh?, Slot.settled, hentry]

/-- Where settings were stored, a change is that they are not the same afterwards. -/
theorem changed_of_stored (gone : Waiter → Bool) (flight : Flight) (result : QueryResult)
    {entry : CacheEntry} (hentry : cache.entries[document]? = some entry) :
    (cache.completion gone document flight result).changed =
      !((cache.slot document).settled (cache.fallback document) result).same entry.settings := by
  unfold completion isChange
  rw [hentry, Option.map_some]
  rcases cache.fresh?_eq_some_or document result with hfresh | ⟨found, hfound, hfresh, hsettled⟩
  · rw [hfresh]
  · obtain rfl := Option.some.inj (hentry.symm.trans hfound)
    rw [hfresh, hsettled, BuildSettings.same_refl]
    rfl

/-- Where nothing was stored, a change is that a caller was served fallback settings and
what is stored is not the same. -/
theorem changed_of_new (gone : Waiter → Bool) (flight : Flight) (result : QueryResult)
    (hentry : cache.entries[document]? = none) :
    (cache.completion gone document flight result).changed =
      ((flight.fallbackServed || flight.waiters.any gone) &&
        !((cache.slot document).settled (cache.fallback document) result).same
          (cache.fallback document)) := by
  unfold completion isChange
  rw [hentry, Option.map_none]
  rcases cache.fresh?_eq_some_or document result with hfresh | ⟨found, hfound, -⟩
  · rw [hfresh]
  · cases hentry.symm.trans hfound

end Cache

namespace Broker

variable {broker : Broker} {document : Document}

/-- What is to be done when a result is taken in: callers are answered, the query that
follows is started, and then the change is reported. -/
theorem effects_finishQuery (gone : Waiter → Bool) {flight : Flight} (result : QueryResult)
    (hflight : broker.cache.flights[document]? = some flight) :
    let completion := broker.cache.completion gone document flight result
    (broker.finishQuery gone document flight.generation result).2 =
      (completion.sent.map fun (waiter, settings) => BrokerEffect.answer waiter settings) ++
        (completion.requery.toList.map fun generation => .startQuery document generation) ++
        if completion.changed then [.report (.settings (.ofList [document]))] else [] := by
  intro completion
  have hcompletion := (Cache.complete_of_current gone result hflight).1
  unfold finishQuery
  split
  · next hnone =>
    rw [hnone] at hcompletion
    cases hcompletion
  · next cache found hcomplete =>
    rw [hcomplete] at hcompletion
    obtain rfl : found = completion := Option.some.inj hcompletion
    simp only [Step.andThen, wants, startQueries]
    cases completion.requery <;> rfl

/-- A result that is taken in reports its document if that is a change, and no other. -/
theorem told_finishQuery (gone : Waiter → Bool) {flight : Flight} (result : QueryResult)
    (hflight : broker.cache.flights[document]? = some flight) (other : Document) :
    told other (broker.finishQuery gone document flight.generation result).2 =
      (decide (document = other) &&
        (broker.cache.completion gone document flight result).changed) := by
  rw [effects_finishQuery gone result hflight, told_append, told_append]
  have hanswers : ∀ sent : List (Waiter × BuildSettings),
      told other (sent.map fun (waiter, settings) => BrokerEffect.answer waiter settings) =
        false := by
    simp [told, tells]
  have hstarts : ∀ generations : List Nat,
      told other (generations.map fun generation => .startQuery document generation) = false := by
    simp [told, tells]
  rw [hanswers, hstarts, Bool.false_or, Bool.false_or]
  split
  · next hchanged =>
    rw [hchanged, Bool.and_true, told, List.any_cons, List.any_nil, Bool.or_false]
    exact Bool.eq_iff_iff.mpr (by simp [tells])
  · next hchanged => simp [hchanged]

/-- What a result leaves in place is stored afterwards. -/
theorem Landed.entry {flight : Flight} {result : QueryResult} {step : Step}
    (h : broker.Landed document flight result step) :
    step.1.cache.entries[document]?.map (·.settings) =
      some ((broker.cache.slot document).settled (broker.cache.fallback document) result) := by
  obtain ⟨entry, hentry, hsettings⟩ :=
    (broker.cache.slot document).land_entry (broker.cache.fallback document) result
  have hland : ((broker.cache.slot document).land (broker.cache.fallback document)
      result).entry.map (·.settings) =
        some ((broker.cache.slot document).settled (broker.cache.fallback document) result) := by
    rw [hentry, Option.map_some, hsettings]
  rw [← Cache.slot_entry, h.self]
  split
  · exact hland
  · exact hland

/-- What a step means for one document: it leaves what the document has and reports nothing
of it, or takes in the result of its query, or forgets it. -/
theorem handle_at (broker : Broker) (message : BrokerMessage) (document : Document) :
    ((broker.cache.slot document).Keeps ((broker.handle message).1.cache.slot document) ∧
        told document (broker.handle message).2 = false) ∨
      (∃ flight result gone,
        message = .notice (.queryFinished document flight.generation result) gone ∧
          broker.cache.flights[document]? = some flight) ∨
      ∃ receipt, message = .command (.evict document receipt) := by
  rcases broker.handle_cases message with
    hcalm | ⟨other, flight, result, gone, rfl, hflight⟩ | ⟨other, receipt, rfl⟩
  · exact Or.inl ⟨hcalm.keeps document, hcalm.silent document⟩
  · by_cases hself : document = other
    · subst hself
      exact Or.inr (Or.inl ⟨flight, result, gone, rfl, hflight⟩)
    · left
      constructor
      · show (broker.cache.slot document).Keeps
          ((broker.finishQuery gone other flight.generation result).1.cache.slot document)
        rw [(finishQuery_of_current gone result hflight).elsewhere document hself]
        exact .refl _
      · have htold := told_finishQuery gone result hflight document
        rwa [decide_eq_false (Ne.symm hself), Bool.false_and] at htold
  · by_cases hself : document = other
    · subst hself
      exact Or.inr (Or.inr ⟨receipt, rfl⟩)
    · left
      constructor
      · show (broker.cache.slot document).Keeps ((broker.cache.evict other).1.slot document)
        rw [Cache.slot_evict, Function.update_of_ne hself]
        exact .refl _
      · simp [handle, handleCommand, wants, told, tells]

/-- A document that is not forgotten keeps its entry, and a step reports it if and only if
the settings of the entry are not the same afterwards. -/
theorem entry_handle {message : BrokerMessage} {was : CacheEntry}
    (kept : message.forgotten? ≠ some document)
    (stored : broker.cache.entries[document]? = some was) :
    ∃ now, (broker.handle message).1.cache.entries[document]? = some now ∧
      told document (broker.handle message).2 = !now.settings.same was.settings := by
  rcases broker.handle_at message document with
    ⟨hkeeps, hsilent⟩ | ⟨flight, result, gone, rfl, hflight⟩ | ⟨receipt, rfl⟩
  · have hsettings := hkeeps.settings
    rw [Cache.slot_entry, Cache.slot_entry, stored, Option.map_some, Option.map_eq_some_iff]
      at hsettings
    obtain ⟨now, hnow, hsettings⟩ := hsettings
    refine ⟨now, hnow, ?_⟩
    rw [hsilent, hsettings, BuildSettings.same_refl]
    rfl
  · obtain ⟨now, hnow, hsettings⟩ :=
      Option.map_eq_some_iff.mp (finishQuery_of_current gone result hflight).entry
    refine ⟨now, hnow, (told_finishQuery gone result hflight document).trans ?_⟩
    rw [Cache.changed_of_stored gone flight result stored, hsettings, decide_eq_true rfl,
      Bool.true_and]
  · exact absurd rfl kept

theorem faithful_handle (h : (broker.cache.slot document).Faithful) (message : BrokerMessage) :
    ((broker.handle message).1.cache.slot document).Faithful := by
  rcases broker.handle_at message document with
    ⟨hkeeps, -⟩ | ⟨flight, result, gone, rfl, hflight⟩ | ⟨receipt, rfl⟩
  · exact h.keeps hkeeps
  · show ((broker.finishQuery gone document flight.generation result).1.cache.slot
      document).Faithful
    rw [(finishQuery_of_current gone result hflight).self]
    split
    · exact h.land _ result
    · exact h.land _ result
  · show ((broker.cache.evict document).1.slot document).Faithful
    rw [Cache.slot_evict, Function.update_self]
    rfl

/-! ## Runs -/

/-- The broker after messages that arrive in order, and what it wanted done meanwhile. -/
def run (broker : Broker) : List BrokerMessage → Step
  | [] => (broker, [])
  | message :: rest => (broker.handle message).andThen (·.run rest)

theorem run_append (broker : Broker) (first second : List BrokerMessage) :
    broker.run (first ++ second) = (broker.run first).andThen (·.run second) := by
  induction first generalizing broker with
  | nil => rfl
  | cons message first ih =>
    have hrest := ih (broker.handle message).1
    simp only [List.cons_append, run, Step.andThen, hrest, List.append_assoc]

theorem faithful_run (h : (broker.cache.slot document).Faithful) (messages : List BrokerMessage) :
    ((broker.run messages).1.cache.slot document).Faithful := by
  induction messages generalizing broker with
  | nil => exact h
  | cons message messages ih => exact ih (faithful_handle h message)

/-- Whatever has arrived since the broker was started, the view shows the settings of the
entry. -/
theorem faithful_run_start (options : FallbackOptions) (messages : List BrokerMessage)
    (document : Document) :
    (((start options).1.run messages).1.cache.slot document).Faithful := by
  apply faithful_run
  show ((Cache.empty options).slot document).Faithful
  rw [Cache.slot_empty]
  rfl

/-- Over a run the entry stays, and without a report its settings stay the same. -/
theorem entry_run {messages : List BrokerMessage} {was : CacheEntry}
    (kept : ∀ message ∈ messages, message.forgotten? ≠ some document)
    (stored : broker.cache.entries[document]? = some was) :
    ∃ now, (broker.run messages).1.cache.entries[document]? = some now ∧
      (told document (broker.run messages).2 = false → now.settings.same was.settings = true) := by
  induction messages generalizing broker was with
  | nil => exact ⟨was, stored, fun _ => BuildSettings.same_refl _⟩
  | cons message messages ih =>
    obtain ⟨middle, hmiddle, htold⟩ := entry_handle (kept message List.mem_cons_self) stored
    obtain ⟨now, hnow, hrest⟩ := ih (fun later hlater => kept later (List.mem_cons_of_mem _ hlater))
      hmiddle
    refine ⟨now, hnow, fun hsilent => ?_⟩
    have hsplit : told document (broker.handle message).2 = false ∧
        told document ((broker.handle message).1.run messages).2 = false := by
      rw [← Bool.or_eq_false_iff, ← told_append]
      exact hsilent
    rw [hsplit.1] at htold
    exact BuildSettings.same_trans (hrest hsplit.2) (by simpa using htold)

/-- Reports of a document follow what is stored for it.  In every run, for every document
with an entry that is not forgotten meanwhile:

* the entry stays, and the view shows its settings; if they are not the same at the end,
  settings of the document were reported as changed;
* each step that reports so found an entry and has stored settings that are not the same,
  which the view shows when the report is pushed;
* whoever has read the view at a moment after which nothing was reported of the document
  has read what is stored at the end.  This holds of a reader that reads again on every
  report, at once or later.

What a step pushes is what waits at the coalescer of a session after it. -/
theorem reports_follow_stored_settings (options : FallbackOptions)
    (earlier between : List BrokerMessage) (document : Document) (old : CacheEntry)
    (stored : ((start options).1.run earlier).1.cache.entries[document]? = some old)
    (kept : ∀ message ∈ between, message.forgotten? ≠ some document) :
    let before := ((start options).1.run earlier).1
    let after := (before.run between).1
    (∃ new, after.cache.entries[document]? = some new ∧
      before.cache.view[document]? = some old.settings ∧
      after.cache.view[document]? = some new.settings ∧
      (new.settings.same old.settings = false →
        ∃ documents, .settings documents ∈ pushed (before.run between).2 ∧
          document ∈ documents) ∧
      (∀ first message second, between = first ++ message :: second →
        ∃ was now, (before.run first).1.cache.entries[document]? = some was ∧
          ((before.run first).1.handle message).1.cache.entries[document]? = some now ∧
          ((before.run first).1.handle message).1.cache.view[document]? = some now.settings ∧
          ∀ documents, .settings documents ∈ pushed ((before.run first).1.handle message).2 →
            document ∈ documents → now.settings.same was.settings = false) ∧
      ∀ first second, between = first ++ second →
        (∀ documents, .settings documents ∈ pushed ((before.run first).1.run second).2 →
          document ∉ documents) →
        ∃ seen, (before.run first).1.cache.view[document]? = some seen ∧
          new.settings.same seen = true) ∧
    ∀ (session : Session) (step : Step), session.coalescer.closed = false →
      (session.take step).coalescer.waiting = session.coalescer.waiting ++ pushed step.2 := by
  intro before after
  have hfaithful : (before.cache.slot document).Faithful :=
    faithful_run_start options earlier document
  have hview : ∀ (messages : List BrokerMessage) (entry : CacheEntry),
      (before.run messages).1.cache.entries[document]? = some entry →
      (before.run messages).1.cache.view[document]? = some entry.settings := by
    intro messages entry hentry
    exact (faithful_run hfaithful messages).trans (congrArg (Option.map (·.settings)) hentry)
  obtain ⟨new, hnew, hsame⟩ := entry_run kept stored
  refine ⟨⟨new, hnew, hview [] old stored, hview between new hnew, ?_, ?_, ?_⟩,
    fun session step running => session.waiting_take running step⟩
  · intro hdiffers
    rw [← told_iff_pushed]
    by_contra hsilent
    rw [hsame (by simpa using hsilent)] at hdiffers
    cases hdiffers
  · rintro first message second rfl
    obtain ⟨was, hwas, -⟩ := entry_run
      (fun found hfound => kept found (List.mem_append_left _ hfound)) stored
    obtain ⟨now, hnow, htold⟩ := entry_handle (kept message (by simp)) hwas
    have hshown := faithful_handle (faithful_run hfaithful first) message
    refine ⟨was, now, hwas, hnow, hshown.trans (congrArg (Option.map (·.settings)) hnow), ?_⟩
    intro documents hpushed hmem
    rw [(told_iff_pushed document _).mpr ⟨documents, hpushed, hmem⟩] at htold
    simpa using htold
  · rintro first second rfl hsilent
    obtain ⟨seen, hseen, -⟩ := entry_run
      (fun found hfound => kept found (List.mem_append_left _ hfound)) stored
    obtain ⟨now, hnow, hstill⟩ := entry_run
      (fun found hfound => kept found (List.mem_append_right _ hfound)) hseen
    rw [run_append] at hnew
    obtain rfl := Option.some.inj (hnow.symm.trans hnew)
    refine ⟨seen.settings, hview first seen hseen, hstill ?_⟩
    rw [Bool.eq_false_iff, Ne, told_iff_pushed]
    rintro ⟨documents, hpushed, hmem⟩
    exact hsilent documents hpushed hmem

/-- Settings with one argument. -/
def settingsWith (argument : String) : BuildSettings :=
  { (default : BuildSettings) with arguments := [argument] }

/-- A document is asked for and answered. -/
def firstAnswer (document : Document) : List BrokerMessage :=
  [.command (.resolve document 1),
    .notice (.queryFinished document 1 (.ok (some (settingsWith "-DOLD")))) fun _ => false]

/-- The build system says that the document changed, and then answers otherwise. -/
def laterAnswer (document : Document) : List BrokerMessage :=
  [.notice (.event (.settingsChanged (.ofList [document]))) fun _ => false,
    .notice (.queryFinished document 2 (.ok (some (settingsWith "-DNEW")))) fun _ => false]

theorem reports_follow_stored_settings_renewed :
    ((start .empty).1.run (firstAnswer ⟨"file:///a.c"⟩)).1.cache.entries[
        (⟨"file:///a.c"⟩ : Document)]? = some ⟨settingsWith "-DOLD", false⟩ ∧
      (∀ message ∈ laterAnswer ⟨"file:///a.c"⟩,
        message.forgotten? ≠ some ⟨"file:///a.c"⟩) ∧
      ∃ documents, .settings documents ∈ pushed
          (((start .empty).1.run (firstAnswer ⟨"file:///a.c"⟩)).1.run
            (laterAnswer ⟨"file:///a.c"⟩)).2 ∧
        (⟨"file:///a.c"⟩ : Document) ∈ documents := by
  have hstored : ((start .empty).1.run (firstAnswer ⟨"file:///a.c"⟩)).1.cache.entries[
      (⟨"file:///a.c"⟩ : Document)]? = some ⟨settingsWith "-DOLD", false⟩ := rfl
  have hkept : ∀ message ∈ laterAnswer ⟨"file:///a.c"⟩,
      message.forgotten? ≠ some ⟨"file:///a.c"⟩ := by
    simp [laterAnswer, BrokerMessage.forgotten?]
  obtain ⟨⟨new, hnew, -, -, hreported, -⟩, -⟩ := reports_follow_stored_settings .empty
    (firstAnswer ⟨"file:///a.c"⟩) (laterAnswer ⟨"file:///a.c"⟩) ⟨"file:///a.c"⟩ _ hstored hkept
  have hrenewed : new = ⟨settingsWith "-DNEW", false⟩ := Option.some.inj (hnew.symm.trans rfl)
  refine ⟨hstored, hkept, hreported ?_⟩
  rw [hrenewed]
  rfl

end Broker

end SettingsBroker
