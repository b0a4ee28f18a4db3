/-
# Callers that run out of time

A caller that finds nothing in the view asks the broker and waits.  If it runs out of time
it goes away with fallback settings and tells the broker.  These are separate moments, and
the broker may take in a result between any two of them; commands reach it in order, what
the build system says at any time.

A visit follows one such caller while everything else happens in any order.  The broker
sees in two ways that a caller has left: its place among those that wait is vacant when a
result is taken in, and it has said so.  The first is enough: a caller whose question was
put while nothing was stored hears of the settings that are stored later, unless these are
the fallback settings it was served.

There is one gap.  Where the question is put only after a result was stored and the caller
has already left, the broker answers nobody and takes no notice of it.  `overlooked`
records that this has happened, and the last theorem is a visit in which nothing is ever
reported.
-/

import Mathlib.Logic.Relation
import SettingsBroker.Proofs.Broker.Reports
import SettingsBroker.Proofs.Cache.Contents

namespace SettingsBroker

open BrokerEffect

/-- Whether an effect answers a caller. -/
def BrokerEffect.answers (waiter : Waiter) : BrokerEffect → Bool
  | .answer other _ => other == waiter
  | _ => false

theorem BrokerEffect.any_answers_iff {waiter : Waiter} {effects : List BrokerEffect} :
    effects.any (answers waiter) = true ↔ ∃ settings, .answer waiter settings ∈ effects := by
  rw [List.any_eq_true]
  constructor
  · rintro ⟨effect, heffect, hanswers⟩
    cases effect with
    | answer other settings =>
      obtain rfl : other = waiter := by simpa [answers] using hanswers
      exact ⟨settings, heffect⟩
    | _ => cases hanswers
  · rintro ⟨settings, hmem⟩
    exact ⟨_, hmem, by simp [answers]⟩

/-! ## What the broker does with one that waits -/

theorem Slot.mem_waiting_join (slot : Slot) (generation : Nat) (waiter : Waiter) :
    waiter ∈ (slot.join generation waiter).waiting := by
  unfold join
  split
  · simp [waiting]
  · simp [waiting, begin]

@[simp]
theorem Slot.entry_join (slot : Slot) (generation : Nat) (waiter : Waiter) :
    (slot.join generation waiter).entry = slot.entry := by
  unfold join
  split <;> rfl

namespace Broker

variable {broker : Broker} {document : Document} {waiter : Waiter}

/-- A caller that asks is answered at once where settings are stored, and waits where none
are. -/
theorem handle_resolve (broker : Broker) (document : Document) (waiter : Waiter) :
    let step := broker.handle (.command (.resolve document waiter))
    (broker.cache.entries[document]?.isSome ∧ step.2.any (answers waiter) = true) ∨
      (waiter ∈ step.1.cache.waiting document ∧ step.1.cache.entries[document]? = none) := by
  intro step
  cases hentry : broker.cache.entries[document]? with
  | some entry =>
    refine Or.inl ⟨rfl, any_answers_iff.mpr ⟨entry.settings, ?_⟩⟩
    show _ ∈ (broker.resolve document waiter).2
    rw [answer_mem_resolve_iff, hentry]
    rfl
  | none =>
    right
    have hcache : step.1.cache = (broker.cache.join document waiter).1 := by
      simp only [step, handle, handleCommand, resolve, hentry, startQueries]
    have hslot := congrFun (broker.cache.slot_join document waiter) document
    rw [Function.update_self] at hslot
    constructor
    · show waiter ∈ (step.1.cache.slot document).waiting
      rw [hcache, hslot]
      exact Slot.mem_waiting_join _ _ waiter
    · rw [hcache, ← Cache.slot_entry, hslot, Slot.entry_join]
      exact hentry

/-- Everybody who waits for a query is answered when its result is taken in. -/
theorem answers_finishQuery (gone : Waiter → Bool) {flight : Flight} (result : QueryResult)
    (hflight : broker.cache.flights[document]? = some flight) (waits : waiter ∈ flight.waiters) :
    (broker.finishQuery gone document flight.generation result).2.any (answers waiter) = true := by
  rw [effects_finishQuery gone result hflight, List.any_append, List.any_append]
  simp [Cache.completion, answers, waits]

/-- A caller that waits where nothing is stored goes on waiting or is answered.  If it has
left by then, the broker knows, and reports what it has stored unless that is the fallback
settings. -/
theorem handle_waiting {message : BrokerMessage}
    (kept : message.forgotten? ≠ some document)
    (waits : waiter ∈ broker.cache.waiting document)
    (absent : broker.cache.entries[document]? = none) :
    let step := broker.handle message
    (waiter ∈ step.1.cache.waiting document ∧ step.1.cache.entries[document]? = none) ∨
      (step.2.any (answers waiter) = true ∧
        ∃ notice gone entry, message = .notice notice gone ∧
          step.1.cache.entries[document]? = some entry ∧
          (gone waiter = true → told document step.2 = false →
            entry.settings.same (broker.cache.fallback document) = true)) := by
  intro step
  rcases broker.handle_at message document with
    ⟨hkeeps, -⟩ | ⟨flight, result, gone, rfl, hflight⟩ | ⟨receipt, rfl⟩
  · refine Or.inl ⟨hkeeps.waiting waiter waits, ?_⟩
    have hsettings := hkeeps.settings
    rwa [Cache.slot_entry, Cache.slot_entry, absent, Option.map_none, Option.map_eq_none_iff]
      at hsettings
  · have hwaits : waiter ∈ flight.waiters := by
      simpa [Cache.waiting, hflight] using waits
    obtain ⟨entry, hentry, hsettings⟩ :=
      Option.map_eq_some_iff.mp (finishQuery_of_current gone result hflight).entry
    refine Or.inr ⟨answers_finishQuery gone result hflight hwaits,
      _, gone, entry, rfl, hentry, fun hgone hsilent => ?_⟩
    have htold := told_finishQuery gone result hflight document
    have hleft : flight.waiters.any gone = true := List.any_eq_true.mpr ⟨waiter, hwaits, hgone⟩
    rw [Cache.changed_of_new gone flight result absent, hleft, ← hsettings] at htold
    rw [show told document step.2 = _ from htold] at hsilent
    simpa using hsilent
  · exact absurd rfl kept

/-- Fallback settings are made from the same options throughout. -/
theorem options_handle (broker : Broker) (message : BrokerMessage) :
    (broker.handle message).1.cache.options = broker.cache.options := by
  rcases broker.handle_cases message with
    hcalm | ⟨other, flight, result, gone, rfl, hflight⟩ | ⟨other, receipt, rfl⟩
  · exact hcalm.options
  · exact (finishQuery_of_current gone result hflight).options
  · rfl

theorem options_run (broker : Broker) (messages : List BrokerMessage) :
    (broker.run messages).1.cache.options = broker.cache.options := by
  induction messages generalizing broker with
  | nil => rfl
  | cons message messages ih => exact (ih _).trans (broker.options_handle message)

end Broker

/-! ## Visits -/

/-- How far a caller has come that found nothing in the view. -/
inductive VisitStage where
  /-- It has looked and not yet asked. -/
  | looked
  /-- It has asked and waits. -/
  | waiting
  | answered
  /-- It ran out of time, was served fallback settings and has left. -/
  | expired
  /-- It has told the broker so as well. -/
  | confessed
  deriving DecidableEq, Repr

/-- Whether the caller has left because it ran out of time. -/
def VisitStage.hasLeft : VisitStage → Bool
  | .expired | .confessed => true
  | _ => false

/-- One caller's attempt to get the settings of a document. -/
structure Visit (document : Document) (waiter : Waiter) where
  broker : Broker
  /-- The commands that wait for the broker, in order. -/
  commands : List BrokerCommand
  stage : VisitStage
  /-- The reports that were pushed since the caller looked. -/
  reports : List ChangeReport
  /-- Whether the caller's question was put when settings were stored and it had left. -/
  overlooked : Bool

namespace Visit

variable {document : Document} {waiter : Waiter}

/-- What others may ask of the broker: not to stop, and not to forget the document. -/
def Admitted (document : Document) (waiter : Waiter) : BrokerCommand → Prop
  | .resolve _ other => other ≠ waiter
  | .evict other _ => other ≠ document
  | .shutdown => False
  | _ => True

theorem Admitted.kept {command : BrokerCommand} (h : Admitted document waiter command) :
    (BrokerMessage.command command).forgotten? ≠ some document := by
  cases command with
  | evict other receipt => exact fun hsame => h (Option.some.inj hsame)
  | _ => simp [BrokerMessage.forgotten?]

/-- Takes in a step of the broker.  A caller that still waits receives its answer. -/
def take (v : Visit document waiter) (step : Broker.Step) : Visit document waiter :=
  { v with
    broker := step.1
    stage := if v.stage = .waiting ∧ step.2.any (answers waiter) then .answered else v.stage
    reports := v.reports ++ pushed step.2 }

/-- Whether a command is the caller's question, put when settings are stored and the caller
has left. -/
def overlooks (v : Visit document waiter) : BrokerCommand → Bool
  | .resolve other asker =>
    other == document && asker == waiter && v.stage.hasLeft &&
      v.broker.cache.entries[document]?.isSome
  | _ => false

/-- What can happen next. -/
inductive Step : Visit document waiter → Visit document waiter → Prop where
  | /-- The caller asks the broker. -/
    ask {v : Visit document waiter} (looked : v.stage = .looked) :
      Step v { v with stage := .waiting, commands := v.commands ++ [.resolve document waiter] }
  | /-- The caller runs out of time and leaves. -/
    expire {v : Visit document waiter} (waiting : v.stage = .waiting) :
      Step v { v with stage := .expired }
  | /-- The caller tells the broker that it was served fallback settings. -/
    confess {v : Visit document waiter} (expired : v.stage = .expired) :
      Step v { v with
        stage := .confessed
        commands := v.commands ++ [.fallbackServed document] }
  | /-- Somebody else gives a command. -/
    command {v : Visit document waiter} (command : BrokerCommand)
      (admitted : Admitted document waiter command) :
      Step v { v with commands := v.commands ++ [command] }
  | /-- The broker carries out the first command. -/
    work {v : Visit document waiter} {command : BrokerCommand} {rest : List BrokerCommand}
      (first : v.commands = command :: rest) :
      Step v (({ v with
        commands := rest
        overlooked := v.overlooked || v.overlooks command } : Visit document waiter).take
          (v.broker.handleCommand command))
  | /-- The broker takes in a notice, and sees who has left. -/
    hear {v : Visit document waiter} (notice : BrokerNotice) (gone : Waiter → Bool)
      (seen : gone waiter = v.stage.hasLeft) :
      Step v (v.take (v.broker.handleNotice gone notice))

/-- A visit at its beginning: the broker has handled whatever arrived, and the caller has
just looked at the view and found nothing. -/
structure Begins (options : FallbackOptions) (v : Visit document waiter) : Prop where
  /-- The broker was started and has handled some messages. -/
  handled : ∃ messages, v.broker = ((Broker.start options).1.run messages).1
  /-- The view shows nothing. -/
  unseen : v.broker.cache.view[document]? = none
  /-- The caller's number was not given to another that waits. -/
  stranger : ∀ other, waiter ∉ v.broker.cache.waiting other
  /-- Commands of others may be on their way. -/
  admitted : ∀ command ∈ v.commands, Admitted document waiter command
  /-- The caller has done no more than look. -/
  looked : v.stage = .looked
  /-- Reports are counted from now on. -/
  unreported : v.reports = []
  /-- Nothing was overlooked. -/
  noticed : v.overlooked = false

/-- What can come about in a visit. -/
def Reachable (options : FallbackOptions) (v : Visit document waiter) : Prop :=
  ∃ first : Visit document waiter, first.Begins options ∧ Relation.ReflTransGen Step first v

/-- The caller's question is on its way, or the caller waits and nothing is stored. -/
def Awaits (v : Visit document waiter) : Prop :=
  .resolve document waiter ∈ v.commands ∨
    (waiter ∈ v.broker.cache.waiting document ∧ v.broker.cache.entries[document]? = none)

/-- Settings are stored, and they are the fallback settings or the document was reported
since the caller looked. -/
def Heard (options : FallbackOptions) (v : Visit document waiter) : Prop :=
  ∃ entry, v.broker.cache.entries[document]? = some entry ∧
    (entry.settings.same (options.compute document) = true ∨
      ∃ documents, .settings documents ∈ v.reports ∧ document ∈ documents)

/-- What holds throughout a visit. -/
structure Minded (options : FallbackOptions) (v : Visit document waiter) : Prop where
  /-- Fallback settings are made from the same options. -/
  options_eq : v.broker.cache.options = options
  /-- Nobody asks to forget the document. -/
  kept : ∀ command ∈ v.commands,
    (BrokerMessage.command command).forgotten? ≠ some document
  /-- A caller that waits has not been forgotten. -/
  waits : v.stage = .waiting → v.Awaits
  /-- A caller that has left hears what it has missed, unless it is overlooked. -/
  left : v.stage.hasLeft = true → v.Awaits ∨ v.overlooked = true ∨ v.Heard options

namespace Minded

variable {options : FallbackOptions} {v next : Visit document waiter}

theorem begins (h : v.Begins options) : v.Minded options := by
  obtain ⟨messages, hbroker⟩ := h.handled
  constructor
  case options_eq =>
    rw [hbroker, Broker.options_run]
    rfl
  case kept => exact fun command hcommand => (h.admitted command hcommand).kept
  case waits => simp [h.looked]
  case left => simp [h.looked, VisitStage.hasLeft]

end Minded

/-! ## When the broker handles a message -/

/-- A visit goes on when the broker handles a message: a command that was queued, or a
notice.  The question of the caller is not lost on the way. -/
structure Handled (v : Visit document waiter) (message : BrokerMessage)
    (next : Visit document waiter) : Prop where
  /-- The broker takes its step. -/
  broker : next.broker = (v.broker.handle message).1
  /-- What it pushes is reported. -/
  reports : next.reports = v.reports ++ pushed (v.broker.handle message).2
  /-- A caller that waits receives its answer. -/
  stage : next.stage =
    if v.stage = .waiting ∧ (v.broker.handle message).2.any (answers waiter) then .answered
    else v.stage
  /-- The message does not forget the document. -/
  kept : message.forgotten? ≠ some document
  /-- With a notice the broker sees whether the caller has left. -/
  seen : ∀ notice gone, message = .notice notice gone → gone waiter = v.stage.hasLeft
  /-- No command is added. -/
  fewer : ∀ command ∈ next.commands, command ∈ v.commands
  /-- What was overlooked once is remembered. -/
  remembered : v.overlooked = true → next.overlooked = true
  /-- The question is still queued, or it was handled and may have been overlooked. -/
  asked : .resolve document waiter ∈ v.commands → .resolve document waiter ∈ next.commands ∨
    (message = .command (.resolve document waiter) ∧
      (v.stage.hasLeft = true → v.broker.cache.entries[document]?.isSome →
        next.overlooked = true))

namespace Handled

variable {options : FallbackOptions} {v next : Visit document waiter} {message : BrokerMessage}

/-- What has been heard once stays so: settings stored later are the same or are reported. -/
theorem heard (h : v.Handled message next) (hheard : v.Heard options) : next.Heard options := by
  obtain ⟨entry, hentry, hcases⟩ := hheard
  obtain ⟨now, hnow, htold⟩ := Broker.entry_handle h.kept hentry
  refine ⟨now, h.broker ▸ hnow, ?_⟩
  rw [h.reports]
  rcases hcases with hsame | ⟨documents, hreported, hmem⟩
  · by_cases hsilent : now.settings.same entry.settings = true
    · exact Or.inl (BuildSettings.same_trans hsilent hsame)
    · right
      rw [Bool.eq_false_iff.mpr hsilent] at htold
      obtain ⟨documents, hpushed, hmem⟩ := (told_iff_pushed document _).mp htold
      exact ⟨documents, List.mem_append_right _ hpushed, hmem⟩
  · exact Or.inr ⟨documents, List.mem_append_left _ hreported, hmem⟩

/-- A caller that awaits something goes on to do so, or is answered; if it has left by
then, it hears of what is stored or is overlooked. -/
theorem awaits (h : v.Handled message next)
    (hoptions : v.broker.cache.options = options) (hawaits : v.Awaits) :
    next.Awaits ∨
      ((v.broker.handle message).2.any (answers waiter) = true ∧
        (v.stage.hasLeft = true → next.overlooked = true ∨ next.Heard options)) := by
  rcases hawaits with hasked | ⟨hwaits, habsent⟩
  · rcases h.asked hasked with hstill | ⟨rfl, hlost⟩
    · exact Or.inl (Or.inl hstill)
    · rcases v.broker.handle_resolve document waiter with ⟨hstored, hanswered⟩ | hjoined
      · exact Or.inr ⟨hanswered, fun hleft => Or.inl (hlost hleft hstored)⟩
      · exact Or.inl (Or.inr (h.broker ▸ hjoined))
  · rcases Broker.handle_waiting h.kept hwaits habsent with
      hstill | ⟨hanswered, notice, gone, entry, rfl, hentry, hsame⟩
    · exact Or.inl (Or.inr (h.broker ▸ hstill))
    · refine Or.inr ⟨hanswered, fun hleft => Or.inr ⟨entry, h.broker ▸ hentry, ?_⟩⟩
      by_cases htold : told document (v.broker.handle (.notice notice gone)).2 = true
      · obtain ⟨documents, hpushed, hmem⟩ := (told_iff_pushed document _).mp htold
        exact Or.inr ⟨documents, h.reports ▸ List.mem_append_right _ hpushed, hmem⟩
      · left
        have hfallback := hsame ((h.seen notice gone rfl).trans hleft) (by simpa using htold)
        rwa [Cache.fallback, hoptions] at hfallback

theorem minded (h : v.Handled message next) (hminded : v.Minded options) :
    next.Minded options := by
  have hawaits := h.awaits hminded.options_eq
  constructor
  case options_eq => rw [h.broker, Broker.options_handle, hminded.options_eq]
  case kept => exact fun command hcommand => hminded.kept command (h.fewer command hcommand)
  case waits =>
    intro hwaiting
    rw [h.stage] at hwaiting
    split at hwaiting
    · cases hwaiting
    · next hunanswered =>
      rcases hawaits (hminded.waits hwaiting) with hstill | ⟨hanswered, -⟩
      · exact hstill
      · exact absurd ⟨hwaiting, hanswered⟩ hunanswered
  case left =>
    intro hleft
    rw [h.stage] at hleft
    split at hleft
    · cases hleft
    · rcases hminded.left hleft with hasked | hlost | hheard
      · rcases hawaits hasked with hstill | ⟨-, hdone⟩
        · exact Or.inl hstill
        · exact Or.inr (hdone hleft)
      · exact Or.inr (Or.inl (h.remembered hlost))
      · exact Or.inr (Or.inr (h.heard hheard))

theorem work {command : BrokerCommand} {rest : List BrokerCommand}
    (first : v.commands = command :: rest)
    (kept : (BrokerMessage.command command).forgotten? ≠ some document) :
    v.Handled (.command command) (({ v with
      commands := rest
      overlooked := v.overlooked || v.overlooks command } : Visit document waiter).take
        (v.broker.handleCommand command)) := by
  constructor
  case broker => rfl
  case reports => rfl
  case stage => rfl
  case kept => exact kept
  case seen =>
    intro notice gone hnotice
    cases hnotice
  case fewer =>
    intro other hother
    rw [first]
    exact List.mem_cons_of_mem _ hother
  case remembered =>
    intro hlost
    exact Bool.or_eq_true_iff.mpr (Or.inl hlost)
  case asked =>
    intro hasked
    rw [first, List.mem_cons] at hasked
    rcases hasked with rfl | hrest
    · refine Or.inr ⟨rfl, fun hleft hstored => Bool.or_eq_true_iff.mpr (Or.inr ?_)⟩
      simp [overlooks, hleft, hstored]
    · exact Or.inl hrest

theorem hear (notice : BrokerNotice) {gone : Waiter → Bool}
    (seen : gone waiter = v.stage.hasLeft) :
    v.Handled (.notice notice gone) (v.take (v.broker.handleNotice gone notice)) := by
  constructor
  case broker => rfl
  case reports => rfl
  case stage => rfl
  case kept => simp [BrokerMessage.forgotten?]
  case seen =>
    rintro other absent hsame
    obtain ⟨-, rfl⟩ := BrokerMessage.notice.inj hsame
    exact seen
  case fewer => exact fun command => id
  case remembered => exact id
  case asked => exact Or.inl

end Handled

/-! ## Callers of a session -/

/-- A caller of a session as a visit. -/
def ofSession (s : Session) (caller : Caller) (stage : VisitStage) (reports : List ChangeReport)
    (overlooked : Bool) : Visit caller.document caller.waiter :=
  ⟨s.broker, s.commands, stage, reports, overlooked⟩

/-- A caller that runs out of time in a session leaves and tells the broker so. -/
theorem leads_outOfTime (s : Session) (caller : Caller) (working : s.phase ≠ .stopped)
    (reports : List ChangeReport) (overlooked : Bool) :
    Relation.ReflTransGen Step (ofSession s caller .waiting reports overlooked)
      (ofSession (s.outOfTime caller) caller .confessed reports overlooked) := by
  have hexpired : Step (ofSession s caller .waiting reports overlooked)
      (ofSession s caller .expired reports overlooked) := .expire rfl
  have hconfessed : Step (ofSession s caller .expired reports overlooked)
      (ofSession (s.outOfTime caller) caller .confessed reports overlooked) := by
    simp only [Session.outOfTime, Session.command, working, if_false]
    exact .confess rfl
  exact .tail (.single hexpired) hconfessed

/-- A caller that finds nothing in the view of a session asks, and leaves at once if it is
given no time. -/
theorem leads_callerArrives (s : Session) (caller : Caller) (working : s.phase ≠ .stopped)
    (unseen : s.broker.cache.view[caller.document]? = none) (reports : List ChangeReport)
    (overlooked : Bool) :
    Relation.ReflTransGen Step (ofSession s caller .looked reports overlooked)
      (ofSession (s.callerArrives caller) caller
        (if s.config.fallbackTimeoutMs = 0 then .confessed else .waiting) reports overlooked) := by
  have hasked : Step (ofSession s caller .looked reports overlooked)
      (ofSession (s.command (.resolve caller.document caller.waiter)) caller .waiting reports
        overlooked) := by
    simp only [Session.command, working, if_false]
    exact .ask rfl
  simp only [Session.callerArrives, unseen, working, if_false]
  by_cases htime : s.config.fallbackTimeoutMs = 0
  · have hstill : (s.command (.resolve caller.document caller.waiter)).phase ≠ .stopped := by
      simpa only [Session.command, working, if_false] using working
    have hleft := leads_outOfTime _ caller hstill reports overlooked
    simp only [Session.command, working, if_false, htime, if_true] at hasked hleft ⊢
    exact .trans (.single hasked) hleft
  · simp only [Session.command, working, if_false, htime] at hasked ⊢
    exact .single hasked

/-! ## What holds throughout -/

section

variable {options : FallbackOptions} {v next : Visit document waiter}

/-- The invariant is kept when a command is queued. -/
theorem Minded.queue (h : v.Minded options) {command : BrokerCommand} {stage : VisitStage}
    (kept : (BrokerMessage.command command).forgotten? ≠ some document)
    (waits : stage = .waiting → v.stage = .waiting ∨ command = .resolve document waiter)
    (left : stage.hasLeft = true → v.stage.hasLeft = true) :
    ({ v with stage, commands := v.commands ++ [command] } :
      Visit document waiter).Minded options := by
  have hawaits : v.Awaits →
      ({ v with stage, commands := v.commands ++ [command] } : Visit document waiter).Awaits :=
    Or.imp_left (List.mem_append_left _)
  constructor
  case options_eq => exact h.options_eq
  case kept =>
    intro other hother
    rcases List.mem_append.mp hother with hold | hnew
    · exact h.kept other hold
    · rwa [List.mem_singleton.mp hnew]
  case waits =>
    intro hwaiting
    rcases waits hwaiting with hbefore | rfl
    · exact hawaits (h.waits hbefore)
    · exact Or.inl (List.mem_append_right _ (List.mem_singleton_self _))
  case left => exact fun hleft => (h.left (left hleft)).imp_left hawaits

theorem Minded.step (h : v.Minded options) (hstep : Step v next) : next.Minded options := by
  cases hstep with
  | ask looked =>
    apply h.queue
    case kept => simp [BrokerMessage.forgotten?]
    case waits => exact fun _ => Or.inr rfl
    case left => simp [VisitStage.hasLeft]
  | expire waiting =>
    constructor
    case options_eq => exact h.options_eq
    case kept => exact h.kept
    case waits => simp
    case left => exact fun _ => Or.inl (h.waits waiting)
  | confess expired =>
    apply h.queue
    case kept => simp [BrokerMessage.forgotten?]
    case waits => simp
    case left => simp [VisitStage.hasLeft, expired]
  | command command admitted => exact h.queue admitted.kept Or.inl id
  | work first => exact (Handled.work first (h.kept _ (by simp [first]))).minded h
  | hear notice gone seen => exact (Handled.hear notice seen).minded h

end

theorem minded_of_reachable {options : FallbackOptions} {v : Visit document waiter}
    (reached : v.Reachable options) : v.Minded options := by
  obtain ⟨first, hbegins, hleads⟩ := reached
  induction hleads with
  | refl => exact .begins hbegins
  | tail _ hstep ih => exact ih.step hstep

theorem Reachable.tail {options : FallbackOptions} {v next : Visit document waiter}
    (reached : v.Reachable options) (hstep : Step v next) : next.Reachable options := by
  obtain ⟨first, hbegins, hleads⟩ := reached
  exact ⟨first, hbegins, hleads.tail hstep⟩

/-! ## A caller that is heard, and one that is overlooked -/

/-- A caller that was served fallback settings because it ran out of time hears about the
real settings.  In everything that can come about while nobody forgets the document or
stops the broker: once the caller's question is no longer queued and no query on which it
waits is on its way, settings are stored, and they are the fallback settings or the
document was reported since the caller looked.  The one exception is a question that was
put when settings were stored and the caller had already left.  A caller of a session that
finds nothing in the view, and one that runs out of time, go through steps of such a visit. -/
theorem expired_caller_hears (options : FallbackOptions) (v : Visit document waiter)
    (reached : v.Reachable options) (expired : v.stage.hasLeft = true)
    (put : .resolve document waiter ∉ v.commands)
    (ended : waiter ∉ v.broker.cache.waiting document)
    (noticed : v.overlooked = false) :
    v.Heard options ∧
    ∀ (s : Session) (caller : Caller) (reports : List ChangeReport) (overlooked : Bool),
      s.phase ≠ .stopped →
      (s.broker.cache.view[caller.document]? = none →
        Relation.ReflTransGen Step (ofSession s caller .looked reports overlooked)
          (ofSession (s.callerArrives caller) caller
            (if s.config.fallbackTimeoutMs = 0 then .confessed else .waiting) reports
            overlooked)) ∧
      Relation.ReflTransGen Step (ofSession s caller .waiting reports overlooked)
        (ofSession (s.outOfTime caller) caller .confessed reports overlooked) := by
  refine ⟨?_, fun s caller reports overlooked working =>
    ⟨fun unseen => leads_callerArrives s caller working unseen reports overlooked,
      leads_outOfTime s caller working reports overlooked⟩⟩
  rcases (minded_of_reachable reached).left expired with (hasked | ⟨hwaits, -⟩) | hlost | hheard
  · exact absurd hasked put
  · exact absurd hwaits ended
  · rw [noticed] at hlost
    cases hlost
  · exact hheard

/-- A document that callers ask for. -/
def wantedDocument : Document := ⟨"file:///a.c"⟩

/-- The end of its first query, when some callers have left. -/
def wantedAnswer (gone : Waiter → Bool) : BrokerMessage :=
  .notice (.queryFinished wantedDocument 1 (.ok (some (Broker.settingsWith "-DREAL")))) gone

/-- A moment of a visit: the broker has handled messages. -/
def visitAfter (waiter : Waiter) (messages : List BrokerMessage) (commands : List BrokerCommand)
    (stage : VisitStage) (reports : List ChangeReport) (overlooked : Bool) :
    Visit wantedDocument waiter :=
  ⟨((Broker.start .empty).1.run messages).1, commands, stage, reports, overlooked⟩

/-- A caller runs out of time while the query that was begun for it is on its way. -/
theorem expired_caller_hears_afterwards :
    ∃ v : Visit wantedDocument 1, v.Reachable .empty ∧ v.stage.hasLeft = true ∧
      .resolve wantedDocument 1 ∉ v.commands ∧
      1 ∉ v.broker.cache.waiting wantedDocument ∧ v.overlooked = false ∧ v.Heard .empty := by
  let asked : BrokerMessage := .command (.resolve wantedDocument 1)
  let ended : BrokerMessage := wantedAnswer fun waiter => waiter == 1
  let news : ChangeReport := .settings (.ofList [wantedDocument])
  have hbegins : (visitAfter 1 [] [] .looked [] false).Begins .empty := by
    refine ⟨⟨[], rfl⟩, rfl, fun other => ?_, nofun, rfl, rfl, rfl⟩
    show 1 ∉ ((Cache.empty .empty).slot other).waiting
    rw [Cache.slot_empty]
    exact List.not_mem_nil
  have hbegun : (visitAfter 1 [] [] .looked [] false).Reachable .empty := ⟨_, hbegins, .refl⟩
  have hasked : (visitAfter 1 [] [.resolve wantedDocument 1] .waiting [] false).Reachable .empty :=
    hbegun.tail (.ask rfl)
  have hjoined : (visitAfter 1 [asked] [] .waiting [] false).Reachable .empty :=
    hasked.tail (.work rfl)
  have hexpired : (visitAfter 1 [asked] [] .expired [] false).Reachable .empty :=
    hjoined.tail (.expire rfl)
  have hended : (visitAfter 1 [asked, ended] [] .expired [news] false).Reachable .empty :=
    hexpired.tail (.hear _ _ rfl)
  exact ⟨_, hended, rfl, nofun, by decide, rfl,
    (expired_caller_hears .empty _ hended rfl nofun (by decide) rfl).1⟩

/-- The question of one caller is on its way when the query that was begun for another
ends.  It is put after the caller has left, and nobody hears what was stored. -/
theorem expired_caller_not_always_hears :
    ¬ ∀ (options : FallbackOptions) (document : Document) (waiter : Waiter)
      (v : Visit document waiter), v.Reachable options → v.stage = .confessed →
      v.commands = [] → v.broker.cache.flights[document]? = none → v.Heard options := by
  let early : BrokerMessage := .command (.resolve wantedDocument 1)
  let ended : BrokerMessage := wantedAnswer fun _ => false
  let late : BrokerMessage := .command (.resolve wantedDocument 2)
  let confessed : BrokerMessage := .command (.fallbackServed wantedDocument)
  have hbegins : (visitAfter 2 [early] [] .looked [] false).Begins .empty := by
    refine ⟨⟨[early], rfl⟩, rfl, fun other => ?_, nofun, rfl, rfl, rfl⟩
    show 2 ∉ (((Cache.empty .empty).join wantedDocument 1).1.slot other).waiting
    rw [Cache.slot_join]
    by_cases hother : other = wantedDocument
    · rw [hother, Function.update_self, Cache.slot_empty]
      decide
    · rw [Function.update_of_ne hother, Cache.slot_empty]
      exact List.not_mem_nil
  have hbegun : (visitAfter 2 [early] [] .looked [] false).Reachable .empty :=
    ⟨_, hbegins, .refl⟩
  have hasked : (visitAfter 2 [early] [.resolve wantedDocument 2] .waiting [] false).Reachable
      .empty := hbegun.tail (.ask rfl)
  have hended : (visitAfter 2 [early, ended] [.resolve wantedDocument 2] .waiting []
      false).Reachable .empty := hasked.tail (.hear _ _ rfl)
  have hexpired : (visitAfter 2 [early, ended] [.resolve wantedDocument 2] .expired []
      false).Reachable .empty := hended.tail (.expire rfl)
  have hconfessed : (visitAfter 2 [early, ended]
      [.resolve wantedDocument 2, .fallbackServed wantedDocument] .confessed []
      false).Reachable .empty := hexpired.tail (.confess rfl)
  have hput : (visitAfter 2 [early, ended, late] [.fallbackServed wantedDocument] .confessed []
      true).Reachable .empty := hconfessed.tail (.work rfl)
  have hdone : (visitAfter 2 [early, ended, late, confessed] [] .confessed [] true).Reachable
      .empty := hput.tail (.work rfl)
  intro hears
  obtain ⟨entry, hentry, hheard⟩ := hears .empty wantedDocument 2 _ hdone rfl rfl rfl
  obtain rfl : ⟨Broker.settingsWith "-DREAL", false⟩ = entry := Option.some.inj hentry
  rcases hheard with hsame | ⟨documents, hreported, -⟩
  · exact absurd hsame (by decide)
  · cases hreported

end Visit

end SettingsBroker
