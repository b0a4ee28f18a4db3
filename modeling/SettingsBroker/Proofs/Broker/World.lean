/-
# A broker and a build system that reports its changes

The world of a broker: the build system with its state, the stream on which it
reports, the queries that run, and the mail that has still to be handled.  Each
moves on its own.  The state may change at any time; what has changed is reported
some time later, in any order; queries read the state at any moment between their
start and their end; events are delivered one by one or, when the reader has
fallen behind, replaced by a notice; and callers may ask for anything.

Of the build system it is only known that a query for a document gets an answer
that depends on the state and that after every change it reports every document
whose answer differs.
-/

import Mathlib.Logic.Relation
import SettingsBroker.Broker
import SettingsBroker.CompileDatabase
import SettingsBroker.Proofs.Broker.Steady
import SettingsBroker.Proofs.EventStream

namespace SettingsBroker

/-- Two answers say the same: both have no opinion, or the settings are the same. -/
abbrev SameAnswer : Option BuildSettings → Option BuildSettings → Prop :=
  Option.Rel fun a b => a.same b = true

namespace SameAnswer

variable {a b c : Option BuildSettings}

theorem refl (a : Option BuildSettings) : SameAnswer a a := by
  cases a with
  | none => exact .none
  | some settings => exact .some settings.same_refl

theorem trans (hab : SameAnswer a b) (hbc : SameAnswer b c) : SameAnswer a c := by
  cases hab with
  | none => exact hbc
  | some hsame =>
    cases hbc with
    | some hsame' => exact .some (BuildSettings.same_trans hsame hsame')

/-- Answers that say the same lead to the same settings. -/
theorem getD (hab : SameAnswer a b) (fallback : BuildSettings) :
    (a.getD fallback).same (b.getD fallback) = true := by
  cases hab with
  | none => exact fallback.same_refl
  | some hsame => exact hsame

end SameAnswer

/-- A build system that reports its changes. -/
structure ReportingSystem where
  State : Type
  answer : State → Document → Option BuildSettings
  /-- The changes that it can go through, each with the documents it reports. -/
  Change : State → State → DocumentSet → Prop
  /-- Every document whose answer differs is reported. -/
  covers : ∀ {before after : State} {changed : DocumentSet} {document : Document},
    Change before after changed → document ∉ changed →
      SameAnswer (answer before document) (answer after document)

/-- A query that runs, and what it has read if it has read the state. -/
structure RunningQuery where
  document : Document
  generation : Nat
  /-- The answer, once it has been read. -/
  read : Option (Option BuildSettings)

/-- The queries that effects start, none of which has read anything. -/
def launched (effects : List BrokerEffect) : List RunningQuery :=
  (BrokerEffect.started effects).map fun (document, generation) => ⟨document, generation, none⟩

/-- A broker and its surroundings. -/
structure World (system : ReportingSystem) where
  broker : Broker
  state : system.State
  /-- What has changed and has still to be reported. -/
  owed : List DocumentSet
  stream : EventStream BuildEvent
  /-- How far the broker's reader has come. -/
  position : Nat
  /-- The notices that the broker has still to handle, the oldest first. -/
  mail : List BrokerNotice
  running : List RunningQuery

namespace World

variable {system : ReportingSystem}

/-- A broker that was just started, listening from now on. -/
def start (options : FallbackOptions) (state : system.State) (owed : List DocumentSet)
    (capacity : Nat) (earlier : List BuildEvent) : World system where
  broker := (Broker.start options).1
  state := state
  owed := owed
  stream := (EventStream.empty capacity).sendAll earlier
  position := ((EventStream.empty capacity).sendAll earlier).sent
  mail := []
  running := []

/-- What can happen next. -/
inductive Step : World system → World system → Prop where
  | /-- The state changes, and what has changed is to be reported. -/
    change {w : World system} {state : system.State} {changed : DocumentSet}
      (change : system.Change w.state state changed) :
      Step w { w with state, owed := w.owed ++ [changed] }
  | /-- There is nothing to report. -/
    lapse {w : World system} {before after : List DocumentSet} {changed : DocumentSet}
      (owed : w.owed = before ++ changed :: after) (nothing : changed.isEmpty = true) :
      Step w { w with owed := before ++ after }
  | /-- A change is reported. -/
    announce {w : World system} {before after : List DocumentSet} {changed : DocumentSet}
      (owed : w.owed = before ++ changed :: after) :
      Step w { w with
        owed := before ++ after
        stream := w.stream.send (.settingsChanged changed) }
  | /-- Anything may be reported besides. -/
    report {w : World system} (event : BuildEvent) :
      Step w { w with stream := w.stream.send event }
  | /-- An event is delivered. -/
    deliver {w : World system} {event : BuildEvent} {next : Nat}
      (found : w.stream.receive w.position = (.event event, next)) :
      Step w { w with position := next, mail := w.mail ++ [.event event] }
  | /-- Events were lost before they could be delivered. -/
    fallBehind {w : World system} {missed next : Nat}
      (found : w.stream.receive w.position = (.lagged missed, next)) :
      Step w { w with position := next, mail := w.mail ++ [.lagged missed] }
  | /-- A query reads the state. -/
    read {w : World system} {before after : List RunningQuery} {document : Document}
      {generation : Nat} (unread : w.running = before ++ ⟨document, generation, none⟩ :: after) :
      Step w { w with
        running :=
          before ++ ⟨document, generation, some (system.answer w.state document)⟩ :: after }
  | /-- A query ends with what it has read. -/
    finish {w : World system} {before after : List RunningQuery} {document : Document}
      {generation : Nat} {answer : Option BuildSettings}
      (done : w.running = before ++ ⟨document, generation, some answer⟩ :: after) :
      Step w { w with
        running := before ++ after
        mail := w.mail ++ [.queryFinished document generation (.ok answer)] }
  | /-- A fetch of targets ends, in whatever way. -/
    fetched {w : World system} (events : List TargetEvent) (rebuild : Bool)
      (result : Except Failure (List BuildTarget)) :
      Step w { w with mail := w.mail ++ [.targetsFetched events rebuild result] }
  | /-- The broker carries out a command. -/
    command {w : World system} (command : BrokerCommand) :
      Step w { w with
        broker := (w.broker.handleCommand command).1
        running := w.running ++ launched (w.broker.handleCommand command).2 }
  | /-- The broker handles its oldest notice, when some callers have gone away. -/
    handle {w : World system} {notice : BrokerNotice} {rest : List BrokerNotice}
      (gone : Waiter → Bool) (mail : w.mail = notice :: rest) :
      Step w { w with
        broker := (w.broker.handleNotice gone notice).1
        mail := rest
        running := w.running ++ launched (w.broker.handleNotice gone notice).2 }

/-- One world leads to another by steps. -/
abbrev Leads : World system → World system → Prop := Relation.ReflTransGen Step

/-- The worlds that can come about. -/
def Reachable (options : FallbackOptions) (w : World system) : Prop :=
  ∃ state owed capacity earlier, Leads (start options state owed capacity earlier) w

theorem Reachable.tail {options : FallbackOptions} {w next : World system}
    (reached : w.Reachable options) (hstep : Step w next) : next.Reachable options := by
  obtain ⟨state, owed, capacity, earlier, hleads⟩ := reached
  exact ⟨state, owed, capacity, earlier, hleads.tail hstep⟩

/-- No change has still to be reported, and no event or notice of lost events has
still to be delivered or handled. -/
structure Quiet (w : World system) : Prop where
  /-- Nothing is to be reported. -/
  reported : w.owed = []
  /-- Nothing is to be delivered. -/
  delivered : (w.stream.receive w.position).1 = .empty
  /-- No event is to be handled. -/
  events : ∀ event, .event event ∉ w.mail
  /-- No notice of lost events is to be handled. -/
  lags : ∀ missed, .lagged missed ∉ w.mail

/-- A change with nothing to report may go unreported. -/
theorem leads_unreported (w : World system) {state : system.State} {changed : DocumentSet}
    (hchange : system.Change w.state state changed) (hempty : changed.isEmpty = true) :
    w.Leads { w with state } := by
  have hlapse : Step { w with state, owed := w.owed ++ [changed] }
      { w with state, owed := w.owed ++ [] } := .lapse rfl hempty
  rw [List.append_nil] at hlapse
  exact .tail (.single (.change hchange)) hlapse

/-- A change may be reported at once, after another event. -/
theorem leads_reported (w : World system) {state : system.State} {changed : DocumentSet}
    (hchange : system.Change w.state state changed) (event : BuildEvent) :
    w.Leads { w with
      state, stream := (w.stream.send event).send (.settingsChanged changed) } := by
  have hreport : Step { w with state, owed := w.owed ++ [changed] }
      { w with state, owed := w.owed ++ [changed], stream := w.stream.send event } :=
    .report event
  have hannounce : Step
      { w with state, owed := w.owed ++ [changed], stream := w.stream.send event }
      { w with
        state, owed := w.owed ++ []
        stream := (w.stream.send event).send (.settingsChanged changed) } := .announce rfl
  rw [List.append_nil] at hannounce
  exact .tail (.tail (.single (.change hchange)) hreport) hannounce

end World

/-! ## Compilation databases -/

namespace CompileDatabase

variable {before after : CompileDatabase} {document : Document}

/-- Where two databases agree, they answer the same. -/
theorem sameAnswer_of_agree (h : before.agree after document = true) :
    SameAnswer (before.settings? document) (after.settings? document) := by
  unfold agree at h
  unfold settings?
  split at h
  · next old new hold hnew =>
    rw [hold, hnew]
    refine .some (BuildSettings.same_iff.mpr ?_)
    simp only [CompileCommand.same, FilePath.same, Bool.and_eq_true, beq_iff_eq] at h
    exact ⟨h.2, h.1, rfl, rfl, rfl⟩
  · next hold hnew =>
    rw [hold, hnew]
    exact .none
  · cases h

/-- What has changed between two databases covers every document for which they
answer differently. -/
theorem sameAnswer_of_not_changed (h : document ∉ before.changed after) :
    SameAnswer (before.settings? document) (after.settings? document) := by
  apply sameAnswer_of_agree
  by_cases hlisted : document ∈ before.keys ++ after.keys
  · cases hagree : before.agree after document with
    | true => rfl
    | false =>
      refine absurd ?_ h
      rw [changed, Std.ExtTreeSet.mem_ofList, List.contains_iff_mem, List.mem_filter]
      exact ⟨hlisted, by simp [hagree]⟩
  · have habsent : before[document]? = none ∧ after[document]? = none := by
      simpa using hlisted
    simp [agree, habsent.1, habsent.2]

/-- The build system of a compilation database, which changes when it is read
again. -/
def reporting : ReportingSystem where
  State := CompileDatabase
  answer := settings?
  Change := fun before after documents => documents = before.changed after
  covers := by
    rintro before after documents document rfl hkept
    exact sameAnswer_of_not_changed hkept

end CompileDatabase

/-- Reading a database file again is a matter of steps in the world of a broker:
a change and the report of it, or nothing at all. -/
theorem CompileSource.leads_reload (source : CompileSource) (current : FilePath)
    (file : FileContent) {w : World CompileDatabase.reporting}
    (hstate : w.state = source.database) (hstream : w.stream = source.events) :
    w.Leads { w with
      state := (source.reload current file).1.database
      stream := (source.reload current file).1.events } := by
  cases hload : CompileDatabase.load current file with
  | error failure =>
    simp only [reload, hload, ← hstate, ← hstream]
    exact .refl
  | ok database =>
    have hchange : CompileDatabase.reporting.Change w.state database
        (CompileDatabase.changed source.database database) := by
      rw [hstate]
      rfl
    by_cases hempty : (CompileDatabase.changed source.database database).isEmpty = true
    · simp only [reload, hload, hempty, if_true, EventStream.sendAll, List.foldl_nil, ← hstream]
      exact w.leads_unreported hchange hempty
    · simp only [reload, hload, hempty, EventStream.sendAll, ← hstream]
      exact w.leads_reported hchange (.targetsChanged [⟨some database.target.id, .changed⟩])

end SettingsBroker
