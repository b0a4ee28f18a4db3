/-
# A broker and a build system whose targets change

The build system holds its current targets, the reports that it has still to make, in the
order of the changes, and the stream on which it makes them.  It moves on its own, before the
broker listens and afterwards.  Of a change it is only known that the report of it tells what
happened to each target whose definition is not what it was, or leaves open which targets are
meant.  Compilation databases that are read again are build systems of this kind.

The broker listens from some moment on.  What the stream has for it is delivered in order, or
a notice that events were lost is; each fetch reads the current targets at any moment after it
has begun and ends at any moment after that; and whatever else may reach the broker, as long
as it says nothing false about targets, reaches it at any time.
-/

import Mathlib.Logic.Relation
import SettingsBroker.Proofs.Broker.Fetches
import SettingsBroker.Proofs.Broker.World

namespace SettingsBroker

open TargetGraph (definitions DistinctIds)

/-- What happened to a target, by its definition before and after. -/
def TargetEventKind.between (before after : Option BuildTarget) : Option TargetEventKind :=
  match before, after with
  | none, none => none
  | none, some _ => some .created
  | some _, none => some .removed
  | some old, some new => if old = new then none else some .changed

theorem TargetEventKind.eq_of_between {before after : Option BuildTarget}
    (h : between before after = none) : before = after := by
  cases before <;> cases after <;> simp_all [between]

/-- Events tell what happened to targets: one of them leaves open which target is meant, or
every target whose definition is not what it was is named with what happened to it, and none
that is there is said to be removed. -/
def Tells (events : List TargetEvent) (before after : List BuildTarget) : Prop :=
  (∃ event ∈ events, event.target = none) ∨
    (∀ id kind, TargetEventKind.between (definitions before)[id]? (definitions after)[id]? =
      some kind → ⟨some id, kind⟩ ∈ events) ∧
    ∀ id, ⟨some id, .removed⟩ ∈ events → (definitions after)[id]? = none

/-- A build system, as far as its targets go. -/
structure TargetSystem where
  current : List BuildTarget
  /-- What it has still to report, the oldest first. -/
  owed : List (List TargetEvent)
  stream : EventStream BuildEvent

namespace TargetSystem

/-- What a build system can do next. -/
inductive Step : TargetSystem → TargetSystem → Prop where
  | /-- Targets change, and events that tell so are to be reported. -/
    change {s : TargetSystem} {next : List BuildTarget} {events : List TargetEvent}
      (distinct : DistinctIds next) (tells : Tells events s.current next) :
      Step s { s with current := next, owed := s.owed ++ [events] }
  | /-- There is nothing to report. -/
    lapse {s : TargetSystem} {rest : List (List TargetEvent)} (owed : s.owed = [] :: rest) :
      Step s { s with owed := rest }
  | /-- A change is reported. -/
    announce {s : TargetSystem} {events : List TargetEvent} {rest : List (List TargetEvent)}
      (owed : s.owed = events :: rest) :
      Step s { s with owed := rest, stream := s.stream.send (.targetsChanged events) }
  | /-- Anything may be reported besides, but not that something happened to a target by name. -/
    report {s : TargetSystem} {event : BuildEvent}
      (other : event.news = .nothing ∨ event.news = .everything) :
      Step s { s with stream := s.stream.send event }

/-- The build systems that can come about. -/
def Reachable (s : TargetSystem) : Prop :=
  ∃ targets capacity, DistinctIds targets ∧
    Relation.ReflTransGen Step ⟨targets, [], .empty capacity⟩ s

end TargetSystem

/-- A fetch on its way, and the targets that it has read if it has read them. -/
structure RunningFetch where
  /-- What it took along. -/
  fetch : TargetFetch
  read : Option (List BuildTarget)

/-- A broker that listens to a build system. -/
structure TargetWorld where
  broker : Broker
  system : TargetSystem
  /-- How far the broker's reader has come. -/
  position : Nat
  /-- The notices that the broker has still to handle, the oldest first. -/
  mail : List BrokerNotice
  running : List RunningFetch

namespace TargetWorld

/-- The fetches that effects begin, none of which has read anything. -/
def launched (effects : List BrokerEffect) : List RunningFetch :=
  (BrokerEffect.fetches effects).map (⟨·, none⟩)

/-- A broker that was just started and listens from now on. -/
def start (options : FallbackOptions) (system : TargetSystem) : TargetWorld where
  broker := (Broker.start options).1
  system := system
  position := system.stream.sent
  mail := []
  running := launched (Broker.start options).2

/-- The world after the broker has handled a message. -/
def hear (w : TargetWorld) (message : BrokerMessage) : TargetWorld :=
  { w with
    broker := (w.broker.handle message).1
    running := w.running ++ launched (w.broker.handle message).2 }

/-- What can happen next. -/
inductive Step : TargetWorld → TargetWorld → Prop where
  | /-- The build system moves on. -/
    system {w : TargetWorld} {system : TargetSystem} (step : w.system.Step system) :
      Step w { w with system }
  | /-- An event is delivered. -/
    deliver {w : TargetWorld} {event : BuildEvent} {next : Nat}
      (found : w.system.stream.receive w.position = (.event event, next)) :
      Step w { w with position := next, mail := w.mail ++ [.event event] }
  | /-- Events were lost before they could be delivered. -/
    fallBehind {w : TargetWorld} {missed next : Nat}
      (found : w.system.stream.receive w.position = (.lagged missed, next)) :
      Step w { w with position := next, mail := w.mail ++ [.lagged missed] }
  | /-- The broker handles its oldest notice. -/
    handle {w : TargetWorld} {notice : BrokerNotice} {rest : List BrokerNotice}
      (gone : Waiter → Bool) (mail : w.mail = notice :: rest) :
      Step w (hear { w with mail := rest } (.notice notice gone))
  | /-- A fetch reads the targets, in any order. -/
    read {w : TargetWorld} {before after : List RunningFetch} {fetch : TargetFetch}
      {snapshot : List BuildTarget} (unread : w.running = before ++ ⟨fetch, none⟩ :: after)
      (current : snapshot.Perm w.system.current) :
      Step w { w with running := before ++ ⟨fetch, some snapshot⟩ :: after }
  | /-- A fetch ends with what it has read. -/
    finish {w : TargetWorld} {before after : List RunningFetch} {fetch : TargetFetch}
      {snapshot : List BuildTarget} (gone : Waiter → Bool)
      (done : w.running = before ++ ⟨fetch, some snapshot⟩ :: after) :
      Step w (hear { w with running := before ++ after }
        (.notice (.targetsFetched fetch.events fetch.rebuild (.ok snapshot)) gone))
  | /-- The broker handles anything else that says nothing of targets, or that everything may
    have changed. -/
    other {w : TargetWorld} {message : BrokerMessage}
      (other : message.news = .nothing ∨ message.news = .everything) :
      Step w (w.hear message)

/-- The worlds that can come about. -/
def Reachable (options : FallbackOptions) (w : TargetWorld) : Prop :=
  ∃ system, system.Reachable ∧ Relation.ReflTransGen Step (start options system) w

theorem Reachable.tail {options : FallbackOptions} {w next : TargetWorld}
    (reached : w.Reachable options) (step : Step w next) : next.Reachable options := by
  obtain ⟨system, hsystem, hleads⟩ := reached
  exact ⟨system, hsystem, hleads.tail step⟩

/-- No target event has still to be reported, delivered or handled, no notice of lost events
has, and no fetch is on its way. -/
structure Settled (w : TargetWorld) : Prop where
  reported : ∀ events ∈ w.system.owed, events = []
  delivered : ∀ events, w.system.stream.Due w.position (.targetsChanged events) → events = []
  handled : ∀ notice ∈ w.mail, notice.news = .nothing ∨ notice.news = .named []
  fetched : w.running = []

end TargetWorld

/-! ## Compilation databases -/

theorem SameAnswer.isSome_eq {a b : Option BuildSettings} (h : SameAnswer a b) :
    a.isSome = b.isSome := by
  cases h <;> rfl

namespace CompileDatabase

variable {before after : CompileDatabase}

/-- The one target of a compilation database is there before and after a change of it. -/
theorem tells_changed (before after : CompileDatabase) :
    Tells [⟨some after.target.id, .changed⟩] [before.target] [after.target] := by
  have hlisted : ∀ (database : CompileDatabase) (id : TargetId),
      (definitions [database.target])[id]? =
        if after.target.id = id then some database.target else none := by
    intro database id
    have hinsert : definitions [database.target] =
        (∅ : Std.ExtTreeMap TargetId BuildTarget).insert database.target.id database.target := rfl
    rw [hinsert, Std.ExtTreeMap.getElem?_insert, Std.ExtTreeMap.getElem?_empty]
    simp only [Std.LawfulEqOrd.compare_eq_iff_eq]
    rfl
  right
  refine ⟨fun id kind hkind => ?_, fun id hmem => by simp at hmem⟩
  rw [hlisted, hlisted] at hkind
  split at hkind
  · next hid =>
    subst hid
    rw [TargetEventKind.between] at hkind
    split at hkind
    · cases hkind
    · obtain rfl := Option.some.inj hkind
      exact List.mem_singleton_self _
  · cases hkind

/-- Where no document changed, the target is the same. -/
theorem target_eq_of_unchanged (h : (before.changed after).isEmpty = true) :
    after.target = before.target := by
  have hsources : Std.ExtTreeSet.ofList after.keys = Std.ExtTreeSet.ofList before.keys := by
    apply Std.ExtTreeSet.ext_mem
    intro document
    have hkept : document ∉ before.changed after := by
      rw [Std.ExtTreeSet.isEmpty_iff.mp h]
      exact Std.ExtTreeSet.not_mem_empty
    have hsame := (sameAnswer_of_not_changed hkept).isSome_eq
    unfold settings? at hsame
    rw [Option.isSome_map, Option.isSome_map] at hsame
    rw [Std.ExtTreeSet.mem_ofList, Std.ExtTreeSet.mem_ofList, List.contains_iff_mem,
      List.contains_iff_mem, Std.ExtTreeMap.mem_keys, Std.ExtTreeMap.mem_keys,
      Std.ExtTreeMap.mem_iff_isSome_getElem?, Std.ExtTreeMap.mem_iff_isSome_getElem?, hsame]
  rw [target, target, hsources]

end CompileDatabase

/-- Reading a database file again is a matter of steps of a build system whose one target may
change: the change, the report of it and the report of the documents, or nothing at all. -/
theorem CompileSource.steps_reload (source : CompileSource) (current : FilePath)
    (file : FileContent) :
    Relation.ReflTransGen TargetSystem.Step
      ⟨[source.database.target], [], source.events⟩
      ⟨[(source.reload current file).1.database.target], [],
        (source.reload current file).1.events⟩ := by
  cases hload : CompileDatabase.load current file with
  | error failure =>
    simp only [reload, hload]
    exact .refl
  | ok database =>
    by_cases hempty : (CompileDatabase.changed source.database database).isEmpty = true
    · simp only [reload, hload, hempty, if_true, EventStream.sendAll, List.foldl_nil,
        CompileDatabase.target_eq_of_unchanged hempty]
      exact .refl
    · simp only [reload, hload, hempty, EventStream.sendAll]
      have hchange : TargetSystem.Step ⟨[source.database.target], [], source.events⟩
          ⟨[database.target], [] ++ [[⟨some database.target.id, .changed⟩]], source.events⟩ :=
        .change (List.nodup_singleton _) (CompileDatabase.tells_changed source.database database)
      exact .tail (.tail (.single hchange) (.announce rfl)) (.report (Or.inl rfl))

end SettingsBroker
