/-
# What becomes of target events

Events on named targets wait for a fetch, go along with it, and are reported when it succeeds.
Along the way they can be discarded: those that wait when everything is taken to have changed,
and those whose fetch fails.  Both times it is reported that everything may have changed.

A ledger keeps the events in the order of their arrival, each with its place: waiting, with the
fetch on its way, or the turn in which it was reported or discarded.  That an event has only one
place is a matter of the ledger.  What is proved is that the places are true: the events that
the broker has pending, those that the fetch has taken along, and those that each turn reports
are the events with that place, all of them, once and in the order of their arrival.
-/

import Mathlib.Logic.Relation
import SettingsBroker.Proofs.Broker.TargetReports

namespace SettingsBroker

open BrokerEffect

/-! ## The places of events -/

/-- Where a target event is. -/
inductive EventPlace where
  /-- It waits for the next fetch. -/
  | pending
  /-- The fetch that is on its way has taken it along. -/
  | carried
  | reported (turn : Nat)
  | discarded (turn : Nat)
  deriving DecidableEq

namespace EventPlace

/-- The turn in which an event was reported or discarded. -/
def turn? : EventPlace → Option Nat
  | .reported turn | .discarded turn => some turn
  | .pending | .carried => none

/-- Where an event is after news in a turn. -/
def after (turn : Nat) (news : TargetNews) : EventPlace → EventPlace
  | .pending =>
    match news with
    | .everything => .discarded turn
    | .nothing | .named _ | .fetched .. => .pending
  | .carried =>
    match news with
    | .fetched _ (.ok _) => .reported turn
    | .fetched _ (.error _) => .discarded turn
    | .nothing | .named _ | .everything => .carried
  | place => place

/-- Where an event is after some fetches have begun. -/
def taken (begun : List TargetFetch) : EventPlace → EventPlace
  | .pending => if begun.isEmpty then .pending else .carried
  | place => place

/-- An earlier event is ahead of a later one.  Discarded events are ahead of all and behind
all. -/
def Ahead : EventPlace → EventPlace → Prop
  | .discarded _, _ | _, .discarded _ => True
  | .reported earlier, .reported later => earlier ≤ later
  | .reported _, _ | _, .pending => True
  | .carried, .carried => True
  | .carried, .reported _ | .pending, _ => False

section Moves

variable {place later : EventPlace} {turn : Nat} {news : TargetNews} {begun : List TargetFetch}

theorem taken_nil : taken [] = id := by
  funext place
  cases place <;> rfl

theorem turn?_taken (begun : List TargetFetch) (place : EventPlace) :
    (taken begun place).turn? = place.turn? := by
  cases place with
  | pending => cases begun <;> rfl
  | _ => rfl

theorem Ahead.taken (h : place.Ahead later) : (taken begun place).Ahead (taken begun later) := by
  cases begun with
  | nil => rwa [taken_nil]
  | cons fetch begun => cases place <;> cases later <;> first | exact h | trivial

/-- News in a turn may settle what becomes of an event in that turn. -/
theorem turn?_after (turn : Nat) (news : TargetNews) (place : EventPlace) :
    (after turn news place).turn? = place.turn? ∨ (after turn news place).turn? = some turn := by
  cases place with
  | pending => cases news <;> simp [after, turn?]
  | carried =>
    cases news with
    | fetched fetch result => cases result <;> simp [after, turn?]
    | _ => exact Or.inl rfl
  | _ => exact Or.inl rfl

theorem Ahead.after (h : place.Ahead later) (past : ∀ settled ∈ place.turn?, settled < turn) :
    (after turn news place).Ahead (after turn news later) := by
  cases place with
  | discarded => trivial
  | reported earlier =>
    have hpast : earlier ≤ turn := Nat.le_of_lt (past earlier rfl)
    cases later with
    | reported | discarded => exact h
    | pending => cases news <;> trivial
    | carried =>
      cases news with
      | fetched fetch result => cases result <;> first | exact hpast | trivial
      | _ => trivial
  | carried =>
    cases news with
    | fetched fetch result =>
      cases result <;> cases later <;> first | exact h.elim | exact Nat.le_refl turn | trivial
    | _ => cases later <;> first | exact h.elim | trivial
  | pending => cases later <;> cases news <;> first | exact h.elim | trivial

/-- What is reported in a turn was with a fetch that has succeeded. -/
theorem after_eq_reported_iff (past : ∀ settled ∈ place.turn?, settled < turn) :
    after turn news place = .reported turn ↔
      place = .carried ∧ ∃ fetch snapshot, news = .fetched fetch (.ok snapshot) := by
  cases place with
  | pending => cases news <;> simp [after]
  | carried =>
    cases news with
    | fetched fetch result => cases result <;> simp [after]
    | _ => simp [after]
  | reported earlier => simpa [after] using Nat.ne_of_lt (past earlier rfl)
  | discarded => simp [after]

/-- What is discarded in a turn was with a fetch that has failed, or has waited when everything
may have changed. -/
theorem after_eq_discarded_iff (past : ∀ settled ∈ place.turn?, settled < turn) :
    after turn news place = .discarded turn ↔
      (place = .carried ∧ ∃ fetch failure, news = .fetched fetch (.error failure)) ∨
        place = .pending ∧ news = .everything := by
  cases place with
  | pending => cases news <;> simp [after]
  | carried =>
    cases news with
    | fetched fetch result => cases result <;> simp [after]
    | _ => simp [after]
  | reported => simp [after]
  | discarded earlier => simpa [after] using Nat.ne_of_lt (past earlier rfl)

/-- What is settled stays so. -/
theorem after_of_settled (settled : place.turn?.isSome) : after turn news place = place := by
  cases place <;> first | rfl | cases settled

theorem taken_of_settled (settled : place.turn?.isSome) : taken begun place = place := by
  cases place <;> first | rfl | cases settled

theorem after_eq_iff_of_past {past : Nat} (hpast : later.turn? = some past) (h : past < turn) :
    after turn news place = later ↔ place = later := by
  constructor
  · rintro rfl
    obtain hkept | hnow := turn?_after turn news place
    · exact (after_of_settled (by rw [← hkept, hpast]; rfl)).symm
    · obtain rfl := Option.some.inj (hnow.symm.trans hpast)
      exact absurd h (Nat.lt_irrefl _)
  · rintro rfl
    exact after_of_settled (by rw [hpast]; rfl)

theorem taken_eq_iff_of_settled (settled : later.turn?.isSome) :
    taken begun place = later ↔ place = later := by
  constructor
  · rintro rfl
    rw [turn?_taken] at settled
    exact (taken_of_settled settled).symm
  · rintro rfl
    exact taken_of_settled settled

end Moves

end EventPlace

/-- A target event that has arrived. -/
structure Arrival where
  event : TargetEvent
  place : EventPlace
  deriving DecidableEq

/-- An event that has moved. -/
def Arrival.move (step : EventPlace → EventPlace) (arrival : Arrival) : Arrival :=
  { arrival with place := step arrival.place }

/-- The events at a place, in the order of their arrival. -/
def eventsAt (arrivals : List Arrival) (place : EventPlace) : List TargetEvent :=
  (arrivals.filter (·.place = place)).map (·.event)

section EventsAt

variable {arrivals : List Arrival} {place : EventPlace}

theorem eventsAt_append (arrivals later : List Arrival) (place : EventPlace) :
    eventsAt (arrivals ++ later) place = eventsAt arrivals place ++ eventsAt later place := by
  simp [eventsAt]

theorem eventsAt_eq_nil (h : ∀ arrival ∈ arrivals, arrival.place ≠ place) :
    eventsAt arrivals place = [] := by
  simpa [eventsAt] using h

theorem place_ne_of_eventsAt_eq_nil (h : eventsAt arrivals place = []) :
    ∀ arrival ∈ arrivals, arrival.place ≠ place := by
  simpa [eventsAt] using h

/-- The events at a place are those that have moved there. -/
theorem eventsAt_map_move (origin : EventPlace) {step : EventPlace → EventPlace}
    (h : ∀ arrival ∈ arrivals, step arrival.place = place ↔ arrival.place = origin) :
    eventsAt (arrivals.map (.move step)) place = eventsAt arrivals origin := by
  have hfilter : arrivals.filter ((·.place = place) ∘ Arrival.move step) =
      arrivals.filter (·.place = origin) :=
    List.filter_congr fun arrival harrival => by simp [Arrival.move, h arrival harrival]
  rw [eventsAt, List.filter_map, hfilter, List.map_map]
  rfl

theorem eventsAt_map_move_eq_nil {step : EventPlace → EventPlace}
    (h : ∀ arrival ∈ arrivals, step arrival.place ≠ place) :
    eventsAt (arrivals.map (.move step)) place = [] := by
  apply eventsAt_eq_nil
  intro moved hmoved
  obtain ⟨arrival, harrival, rfl⟩ := List.mem_map.mp hmoved
  exact h arrival harrival

end EventsAt

/-- Events after news in a turn.  What arrives waits. -/
def heard (turn : Nat) (news : TargetNews) (arrivals : List Arrival) : List Arrival :=
  arrivals.map (.move (.after turn news)) ++ news.arriving.map fun event => ⟨event, .pending⟩

section Heard

variable {turn : Nat} {news : TargetNews} {arrivals : List Arrival} {place : EventPlace}

theorem eventsAt_heard (turn : Nat) (news : TargetNews) (arrivals : List Arrival)
    (place : EventPlace) :
    eventsAt (heard turn news arrivals) place =
      eventsAt (arrivals.map (.move (.after turn news))) place ++
        if place = .pending then news.arriving else [] := by
  rw [heard, eventsAt_append]
  congr 1
  split
  · next hplace =>
    subst hplace
    simp [eventsAt, List.filter_map, Function.comp_def]
  · next hplace => exact eventsAt_eq_nil (by simpa using fun _ _ => Ne.symm hplace)

/-- What waits goes on waiting, and more with it, unless everything may have changed. -/
theorem eventsAt_heard_pending (turn : Nat) (news : TargetNews) (arrivals : List Arrival) :
    eventsAt (heard turn news arrivals) .pending =
      match news with
      | .everything => []
      | _ => eventsAt arrivals .pending ++ news.arriving := by
  rw [eventsAt_heard, if_pos rfl]
  cases news with
  | everything =>
    rw [eventsAt_map_move_eq_nil]
    · rfl
    · intro arrival _
      cases arrival.place <;> exact nofun
  | fetched fetch result =>
    rw [eventsAt_map_move .pending]
    intro arrival _
    cases arrival.place <;> cases result <;> simp [EventPlace.after]
  | _ =>
    rw [eventsAt_map_move .pending]
    intro arrival _
    cases arrival.place <;> simp [EventPlace.after]

/-- What has been taken along stays so until the fetch ends. -/
theorem eventsAt_heard_carried (turn : Nat) (news : TargetNews) (arrivals : List Arrival) :
    eventsAt (heard turn news arrivals) .carried =
      match news with
      | .fetched .. => []
      | _ => eventsAt arrivals .carried := by
  rw [eventsAt_heard, if_neg EventPlace.noConfusion, List.append_nil]
  cases news with
  | fetched fetch result =>
    apply eventsAt_map_move_eq_nil
    intro arrival _
    cases arrival.place <;> cases result <;> exact nofun
  | _ =>
    apply eventsAt_map_move _
    intro arrival _
    cases arrival.place <;> simp [EventPlace.after]

/-- In the turn is reported what a fetch brings back. -/
theorem eventsAt_heard_reported
    (settled : ∀ arrival ∈ arrivals, ∀ past ∈ arrival.place.turn?, past < turn)
    (brought : ∀ fetch result, news = .fetched fetch result →
      eventsAt arrivals .carried = fetch.events) :
    eventsAt (heard turn news arrivals) (.reported turn) = news.reported := by
  have hplace : ∀ arrival ∈ arrivals, arrival.place.after turn news = .reported turn ↔
      arrival.place = .carried ∧ ∃ fetch snapshot, news = .fetched fetch (.ok snapshot) :=
    fun arrival harrival => EventPlace.after_eq_reported_iff (settled arrival harrival)
  rw [eventsAt_heard, if_neg EventPlace.noConfusion, List.append_nil]
  cases news with
  | fetched fetch result =>
    cases result with
    | ok snapshot =>
      rw [eventsAt_map_move .carried, brought fetch _ rfl]
      · rfl
      · simpa using hplace
    | error failure => exact eventsAt_map_move_eq_nil (by simpa using hplace)
  | _ => exact eventsAt_map_move_eq_nil (by simpa using hplace)

/-- In the turn is discarded what waits when everything may have changed, and what a fetch took
along that failed. -/
theorem eventsAt_heard_discarded
    (settled : ∀ arrival ∈ arrivals, ∀ past ∈ arrival.place.turn?, past < turn)
    (brought : ∀ fetch result, news = .fetched fetch result →
      eventsAt arrivals .carried = fetch.events) :
    eventsAt (heard turn news arrivals) (.discarded turn) =
      news.discarded (eventsAt arrivals .pending) := by
  have hplace : ∀ arrival ∈ arrivals, arrival.place.after turn news = .discarded turn ↔
      (arrival.place = .carried ∧ ∃ fetch failure, news = .fetched fetch (.error failure)) ∨
        arrival.place = .pending ∧ news = .everything :=
    fun arrival harrival => EventPlace.after_eq_discarded_iff (settled arrival harrival)
  rw [eventsAt_heard, if_neg EventPlace.noConfusion, List.append_nil]
  cases news with
  | everything =>
    rw [eventsAt_map_move .pending]
    · rfl
    · simpa using hplace
  | fetched fetch result =>
    cases result with
    | ok snapshot => exact eventsAt_map_move_eq_nil (by simpa using hplace)
    | error failure =>
      rw [eventsAt_map_move .carried, brought fetch _ rfl]
      · rfl
      · simpa using hplace
  | _ => exact eventsAt_map_move_eq_nil (by simpa using hplace)

/-- What was settled in an earlier turn stays so. -/
theorem eventsAt_heard_of_past {past : Nat} (hpast : place.turn? = some past) (h : past < turn) :
    eventsAt (heard turn news arrivals) place = eventsAt arrivals place := by
  rw [eventsAt_heard, if_neg (by rintro rfl; cases hpast), List.append_nil]
  apply eventsAt_map_move _
  intro arrival _
  exact EventPlace.after_eq_iff_of_past hpast h

theorem ordered_heard (ordered : arrivals.Pairwise (·.place.Ahead ·.place))
    (settled : ∀ arrival ∈ arrivals, ∀ past ∈ arrival.place.turn?, past < turn) :
    (heard turn news arrivals).Pairwise (·.place.Ahead ·.place) := by
  rw [heard, List.pairwise_append]
  refine ⟨?_, ?_, ?_⟩
  · rw [List.pairwise_map]
    exact ordered.imp_of_mem fun harrival _ hahead => hahead.after (settled _ harrival)
  · rw [List.pairwise_map]
    exact List.pairwise_of_forall fun _ _ => trivial
  · rintro earlier - arrival harrival
    obtain ⟨event, -, rfl⟩ := List.mem_map.mp harrival
    cases earlier.place <;> trivial

theorem settled_heard
    (settled : ∀ arrival ∈ arrivals, ∀ past ∈ arrival.place.turn?, past < turn) :
    ∀ arrival ∈ heard turn news arrivals, ∀ past ∈ arrival.place.turn?, past < turn + 1 := by
  intro arrival harrival past hpast
  rw [heard, List.mem_append, List.mem_map, List.mem_map] at harrival
  obtain ⟨earlier, hearlier, rfl⟩ | ⟨event, -, rfl⟩ := harrival
  · obtain hkept | hnow := earlier.place.turn?_after turn news
    · rw [Arrival.move, hkept] at hpast
      exact Nat.lt_succ_of_lt (settled earlier hearlier past hpast)
    · rw [Arrival.move, hnow, Option.mem_some_iff] at hpast
      omega
  · cases hpast

end Heard

/-- The places of events agree with what a desk has pending and on its way. -/
structure Placed (desk : TargetDesk) (running : List TargetFetch) (turns : Nat)
    (arrivals : List Arrival) : Prop where
  pending : eventsAt arrivals .pending = desk.pending.events
  carried : eventsAt arrivals .carried = running.flatMap (·.events)
  ordered : arrivals.Pairwise (·.place.Ahead ·.place)
  /-- What was reported or discarded was so in a turn that has been. -/
  settled : ∀ arrival ∈ arrivals, ∀ turn ∈ arrival.place.turn?, turn < turns

namespace Placed

variable {desk : TargetDesk} {running : List TargetFetch} {turns : Nat} {arrivals : List Arrival}

theorem move_taken_nil : Arrival.move (.taken []) = id := by
  rw [EventPlace.taken_nil]
  rfl

/-- A fetch that begins takes along what waits. -/
theorem dispatch (h : Placed desk running turns arrivals)
    (counted : running.length = desk.fetching.toNat) :
    Placed desk.dispatch.1 (running ++ desk.dispatch.2) turns
      (arrivals.map (Arrival.move (.taken desk.dispatch.2))) := by
  obtain ⟨-, hstay⟩ | ⟨hidle, hgo⟩ := desk.dispatch_cases
  · rw [hstay, List.append_nil, move_taken_nil, List.map_id]
    exact h
  · have hnone : running = [] := by
      rw [hidle] at counted
      exact List.eq_nil_of_length_eq_zero counted
    subst hnone
    have hcarried := place_ne_of_eventsAt_eq_nil h.carried
    rw [hgo]
    constructor
    case pending =>
      apply eventsAt_eq_nil
      intro moved hmoved
      obtain ⟨⟨event, place⟩, -, rfl⟩ := List.mem_map.mp hmoved
      cases place <;> exact nofun
    case carried =>
      rw [eventsAt_map_move .pending, h.pending]
      · simp
      · intro arrival harrival
        obtain ⟨event, place⟩ := arrival
        have hplace := hcarried _ harrival
        cases place <;> simp_all [EventPlace.taken]
    case ordered =>
      exact h.ordered.map _ fun arrival later hahead => hahead.taken
    case settled =>
      intro moved hmoved turn hturn
      obtain ⟨arrival, harrival, rfl⟩ := List.mem_map.mp hmoved
      rw [Arrival.move, EventPlace.turn?_taken] at hturn
      exact h.settled arrival harrival turn hturn

/-- The places after news follow from what waits and what is on its way then. -/
theorem hear (h : Placed desk running turns arrivals) (news : TargetNews) {next : TargetDesk}
    {left : List TargetFetch}
    (pending : eventsAt (heard turns news arrivals) .pending = next.pending.events)
    (carried : eventsAt (heard turns news arrivals) .carried = left.flatMap (·.events)) :
    Placed next left (turns + 1) (heard turns news arrivals) where
  pending := pending
  carried := carried
  ordered := ordered_heard h.ordered h.settled
  settled := settled_heard h.settled

/-- News other than the end of a fetch. -/
theorem handle (h : Placed desk running turns arrivals)
    (counted : running.length = desk.fetching.toNat) {news : TargetNews}
    (other : ∀ fetch result, news ≠ .fetched fetch result) :
    Placed (desk.handle news).1 (running ++ (desk.handle news).2) (turns + 1)
      ((heard turns news arrivals).map (.move (.taken (desk.handle news).2))) := by
  have hcarried : eventsAt (heard turns news arrivals) .carried = running.flatMap (·.events) := by
    rw [← h.carried, eventsAt_heard_carried]
    cases news with
    | fetched fetch result => exact absurd rfl (other fetch result)
    | _ => rfl
  have hpending := eventsAt_heard_pending turns news arrivals
  cases news with
  | nothing =>
    rw [TargetDesk.handle, List.append_nil, move_taken_nil, List.map_id]
    refine h.hear .nothing ?_ hcarried
    rw [hpending, h.pending]
    exact List.append_nil _
  | named events =>
    refine (h.hear (.named events) ?_ hcarried).dispatch counted
    rw [hpending, h.pending]
    rfl
  | everything => exact (h.hear .everything hpending hcarried).dispatch counted
  | fetched fetch result => exact absurd rfl (other fetch result)

/-- The end of the only fetch. -/
theorem fetched {fetch : TargetFetch} (h : Placed desk [fetch] turns arrivals)
    (result : Except Failure (List BuildTarget)) :
    Placed (desk.handle (.fetched fetch result)).1 (desk.handle (.fetched fetch result)).2
      (turns + 1)
      ((heard turns (.fetched fetch result) arrivals).map
        (.move (.taken (desk.handle (.fetched fetch result)).2))) := by
  have hended : Placed { desk with graph := desk.graphAfter fetch result, fetching := false } []
      (turns + 1) (heard turns (.fetched fetch result) arrivals) := by
    apply h.hear
    · rw [eventsAt_heard_pending, h.pending]
      exact List.append_nil _
    · rw [eventsAt_heard_carried]
      rfl
  exact hended.dispatch rfl

end Placed

/-! ## Ledgers -/

/-- A broker and what became of the target events that arrived at it. -/
structure EventLedger where
  broker : Broker
  running : List TargetFetch
  /-- The turns of the broker, in order. -/
  turns : List BrokerTurn
  /-- The events that have arrived, in order. -/
  arrivals : List Arrival

namespace EventLedger

/-- The ledger of a broker that was just started. -/
def start (options : FallbackOptions) : EventLedger where
  broker := (Broker.start options).1
  running := fetches (Broker.start options).2
  turns := []
  arrivals := []

/-- The ledger after the broker has handled a message. -/
def hear (ledger : EventLedger) (message : BrokerMessage) : EventLedger :=
  let begun := fetches (ledger.broker.handle message).2
  { broker := (ledger.broker.handle message).1
    running := ledger.running ++ begun
    turns := ledger.turns ++ [⟨ledger.broker, message⟩]
    arrivals := (heard ledger.turns.length message.news ledger.arrivals).map
      (.move (.taken begun)) }

/-- The ledger after a fetch has ended and only some are still on their way. -/
def finish (ledger : EventLedger) (rest : List TargetFetch) (fetch : TargetFetch)
    (result : Except Failure (List BuildTarget)) (gone : Waiter → Bool) : EventLedger :=
  hear { ledger with running := rest }
    (.notice (.targetsFetched fetch.events fetch.rebuild result) gone)

/-- What can happen next.  A fetch that is on its way may succeed or fail at any time, and
anything but the end of a fetch may arrive at any time. -/
inductive Step : EventLedger → EventLedger → Prop where
  | /-- A message arrives. -/
    hear {ledger : EventLedger} {message : BrokerMessage}
      (other : ∀ fetch result, message.news ≠ .fetched fetch result) :
      Step ledger (ledger.hear message)
  | /-- A fetch ends. -/
    finish {ledger : EventLedger} {before after : List TargetFetch} {fetch : TargetFetch}
      (result : Except Failure (List BuildTarget)) (gone : Waiter → Bool)
      (running : ledger.running = before ++ fetch :: after) :
      Step ledger (ledger.finish (before ++ after) fetch result gone)

/-- The ledgers that can come about. -/
def Reachable (options : FallbackOptions) (ledger : EventLedger) : Prop :=
  Relation.ReflTransGen Step (start options) ledger

/-- A later ledger has the turns and the events of an earlier one, and what was reported or
discarded stays so. -/
structure Keeps (ledger later : EventLedger) : Prop where
  turns : ledger.turns <+: later.turns
  arrivals : ∀ (i : Nat) (arrival : Arrival), ledger.arrivals[i]? = some arrival →
    ∃ now, later.arrivals[i]? = some now ∧ now.event = arrival.event ∧
      (arrival.place.turn?.isSome → now.place = arrival.place)

variable {options : FallbackOptions} {ledger next : EventLedger}

/-- Each turn settles the events of which the ledger says so, and no others. -/
def TurnsSettle (ledger : EventLedger) : Prop :=
  ∀ (k : Nat) (turn : BrokerTurn), ledger.turns[k]? = some turn →
    turn.Settles (eventsAt ledger.arrivals (.reported k)) (eventsAt ledger.arrivals (.discarded k))

/-- The books are in order. -/
structure Sound (ledger : EventLedger) : Prop where
  booked : ledger.broker.desk.Booked ledger.running
  placed : Placed ledger.broker.desk ledger.running ledger.turns.length ledger.arrivals
  arrived : ledger.arrivals.map (·.event) = ledger.turns.flatMap (·.message.news.arriving)
  settles : ledger.TurnsSettle

theorem desk_hear (ledger : EventLedger) (message : BrokerMessage) :
    (ledger.hear message).broker.desk = (ledger.broker.desk.handle message.news).1 :=
  ledger.broker.desk_handle message

theorem running_hear (ledger : EventLedger) (message : BrokerMessage) :
    (ledger.hear message).running =
      ledger.running ++ (ledger.broker.desk.handle message.news).2 := by
  rw [← ledger.broker.fetches_handle]
  rfl

theorem arrivals_hear (ledger : EventLedger) (message : BrokerMessage) :
    (ledger.hear message).arrivals =
      (heard ledger.turns.length message.news ledger.arrivals).map
        (.move (.taken (ledger.broker.desk.handle message.news).2)) := by
  rw [← ledger.broker.fetches_handle]
  rfl

theorem turns_hear (ledger : EventLedger) (message : BrokerMessage) :
    (ledger.hear message).turns = ledger.turns ++ [⟨ledger.broker, message⟩] := rfl

theorem arrived_hear (message : BrokerMessage)
    (arrived : ledger.arrivals.map (·.event) = ledger.turns.flatMap (·.message.news.arriving)) :
    (ledger.hear message).arrivals.map (·.event) =
      (ledger.hear message).turns.flatMap (·.message.news.arriving) := by
  rw [arrivals_hear, turns_hear, List.flatMap_append, ← arrived]
  simp [heard, Arrival.move, Function.comp_def]

namespace Keeps

theorem refl (ledger : EventLedger) : ledger.Keeps ledger :=
  ⟨List.prefix_rfl, fun _ arrival harrival => ⟨arrival, harrival, rfl, fun _ => rfl⟩⟩

theorem trans {last : EventLedger} (h : ledger.Keeps next) (hnext : next.Keeps last) :
    ledger.Keeps last := by
  refine ⟨h.turns.trans hnext.turns, fun i arrival harrival => ?_⟩
  obtain ⟨middle, hmiddle, hevent, hplace⟩ := h.arrivals i arrival harrival
  obtain ⟨now, hnow, hsame, hstays⟩ := hnext.arrivals i middle hmiddle
  refine ⟨now, hnow, hsame.trans hevent, fun hsettled => ?_⟩
  have hkept := hplace hsettled
  exact (hstays (by rwa [hkept])).trans hkept

/-- Which fetches are still on their way does not matter. -/
theorem hear (ledger : EventLedger) (running : List TargetFetch) (message : BrokerMessage) :
    ledger.Keeps (EventLedger.hear { ledger with running } message) := by
  refine ⟨List.prefix_append _ _, fun i arrival harrival => ?_⟩
  have hbound := (List.getElem?_eq_some_iff.mp harrival).1
  let news := message.news
  let begun := (ledger.broker.desk.handle news).2
  refine ⟨(arrival.move (.after ledger.turns.length news)).move (.taken begun), ?_, rfl,
    fun hsettled => ?_⟩
  · rw [arrivals_hear, heard, List.getElem?_map, List.getElem?_append_left (by simpa using hbound),
      List.getElem?_map, harrival]
    rfl
  · show EventPlace.taken begun (.after ledger.turns.length news arrival.place) = arrival.place
    rw [EventPlace.after_of_settled hsettled, EventPlace.taken_of_settled hsettled]

theorem step (hstep : Step ledger next) : ledger.Keeps next := by
  cases hstep with
  | hear other => exact hear ledger ledger.running _
  | finish result gone running => exact hear ledger _ _

theorem of_steps (hsteps : Relation.ReflTransGen Step ledger next) : ledger.Keeps next := by
  induction hsteps with
  | refl => exact .refl ledger
  | tail _ hstep ih => exact ih.trans (.step hstep)

end Keeps

/-- Earlier turns have settled what they have settled, and the last one settles what its news
settle. -/
theorem settles_hear {message : BrokerMessage} {running : List TargetFetch}
    (h : Placed ledger.broker.desk running ledger.turns.length ledger.arrivals)
    (brought : ∀ fetch result, message.news = .fetched fetch result →
      eventsAt ledger.arrivals .carried = fetch.events)
    (settles : ledger.TurnsSettle) : (ledger.hear message).TurnsSettle := by
  intro k turn hturn
  have htaken : ∀ place, place.turn?.isSome → eventsAt (ledger.hear message).arrivals place =
      eventsAt (heard ledger.turns.length message.news ledger.arrivals) place :=
    fun place hsettled => eventsAt_map_move place fun _ _ =>
      EventPlace.taken_eq_iff_of_settled hsettled
  rw [htaken _ rfl, htaken _ rfl]
  rw [turns_hear, List.getElem?_append] at hturn
  split at hturn
  · next hpast =>
    rw [eventsAt_heard_of_past rfl hpast, eventsAt_heard_of_past rfl hpast]
    exact settles k turn hturn
  · next hlast =>
    rw [List.getElem?_singleton] at hturn
    split at hturn
    · next hzero =>
      obtain rfl : k = ledger.turns.length := by omega
      obtain rfl := Option.some.inj hturn
      rw [eventsAt_heard_reported h.settled brought, eventsAt_heard_discarded h.settled brought,
        h.pending]
      exact BrokerTurn.settles ledger.broker message
    · cases hturn

namespace Sound

theorem start (options : FallbackOptions) : (start options).Sound where
  booked := ⟨rfl, nofun⟩
  placed := ⟨rfl, rfl, .nil, nofun⟩
  arrived := rfl
  settles := fun k turn hturn => by
    have hnone : (EventLedger.start options).turns[k]? = none := List.getElem?_nil
    rw [hnone] at hturn
    cases hturn

theorem hear (h : ledger.Sound) {message : BrokerMessage}
    (other : ∀ fetch result, message.news ≠ .fetched fetch result) :
    (ledger.hear message).Sound := by
  constructor
  case booked =>
    have hbooked := h.booked.handle message.news id other
    rw [List.map_id] at hbooked
    rw [desk_hear, running_hear]
    exact hbooked
  case placed =>
    rw [desk_hear, running_hear, arrivals_hear, turns_hear, List.length_append]
    exact h.placed.handle h.booked.counted other
  case arrived => exact arrived_hear message h.arrived
  case settles =>
    exact settles_hear h.placed (fun fetch result hnews => absurd hnews (other fetch result))
      h.settles

theorem finish (h : ledger.Sound) {before after : List TargetFetch} {fetch : TargetFetch}
    (running : ledger.running = before ++ fetch :: after)
    (result : Except Failure (List BuildTarget)) (gone : Waiter → Bool) :
    (ledger.finish (before ++ after) fetch result gone).Sound := by
  have hbooked := h.booked
  have hplaced := h.placed
  rw [running] at hbooked hplaced
  obtain ⟨rfl, rfl, -⟩ := hbooked.alone
  constructor
  case booked =>
    have hended := hbooked.fetched fetch result id
    rw [List.map_id] at hended
    rw [EventLedger.finish, desk_hear, running_hear]
    exact hended
  case placed =>
    rw [EventLedger.finish, desk_hear, running_hear, arrivals_hear, turns_hear, List.length_append]
    exact hplaced.fetched result
  case arrived => exact arrived_hear _ h.arrived
  case settles =>
    apply settles_hear hplaced
    · intro ended brought hnews
      obtain ⟨rfl, rfl⟩ := TargetNews.fetched.inj hnews
      rw [hplaced.carried]
      exact List.append_nil _
    · exact h.settles

theorem step (h : ledger.Sound) (hstep : Step ledger next) : next.Sound := by
  cases hstep with
  | hear other => exact h.hear other
  | finish result gone running => exact h.finish running result gone

theorem of_reachable (reached : ledger.Reachable options) : ledger.Sound := by
  induction reached with
  | refl => exact start options
  | tail _ hstep ih => exact ih.step hstep

end Sound

/-- No target event is lost or reported twice.  Whatever has arrived and whichever fetches have
succeeded and failed:

* at most one fetch is on its way, and when none is, nothing waits for the next one;
* each event of a list in which all are named has one place, and none has overtaken another;
* the events that wait are those that the broker has pending, and those with the fetch are what
  it has taken along;
* what was reported or discarded was so in a turn that has been: the events reported in a turn
  are pushed in it as one list, with the documents that they affect, no other list is, and where
  events are discarded everything may have changed;
* what was reported or discarded stays so. -/
theorem target_events_accounted_for (options : FallbackOptions) (ledger : EventLedger)
    (reached : ledger.Reachable options) :
    ledger.running.length ≤ 1 ∧
      (ledger.running = [] →
        ledger.broker.pendingEvents = [] ∧ ledger.broker.pendingRebuild = false) ∧
      ledger.arrivals.map (·.event) = ledger.turns.flatMap (·.message.news.arriving) ∧
      ledger.arrivals.Pairwise (·.place.Ahead ·.place) ∧
      eventsAt ledger.arrivals .pending = ledger.broker.pendingEvents ∧
      eventsAt ledger.arrivals .carried = ledger.running.flatMap (·.events) ∧
      (∀ arrival ∈ ledger.arrivals, ∀ k ∈ arrival.place.turn?, k < ledger.turns.length) ∧
      (∀ (k : Nat) (turn : BrokerTurn), ledger.turns[k]? = some turn →
        turn.Settles (eventsAt ledger.arrivals (.reported k))
          (eventsAt ledger.arrivals (.discarded k))) ∧
      ∀ later, Relation.ReflTransGen Step ledger later → ledger.Keeps later := by
  have h := Sound.of_reachable reached
  refine ⟨?_, ?_, h.arrived, h.placed.ordered, h.placed.pending, h.placed.carried,
    h.placed.settled, h.settles, fun later => Keeps.of_steps⟩
  · rw [h.booked.counted]
    exact Bool.toNat_le _
  · intro hnone
    have hbooked := h.booked
    rw [hnone] at hbooked
    exact TargetFetch.mk.inj hbooked.pending_of_nil

/-- The event that a target was created. -/
def created (name : String) : TargetEvent :=
  ⟨some ⟨name⟩, .created⟩

/-- The first fetch has succeeded, the next one is on its way with an event, another event has
arrived meanwhile, and then events were lost. -/
def overtaken : EventLedger :=
  ((((start .empty).finish [] ⟨[], true⟩ (.ok []) fun _ => false).hear
    (.notice (.event (.targetsChanged [created "app"])) fun _ => false)).hear
    (.notice (.event (.targetsChanged [created "lib"])) fun _ => false)).hear
    (.notice (.lagged 1) fun _ => false)

theorem reachable_overtaken : overtaken.Reachable .empty := by
  have hfinished := Relation.ReflTransGen.single
    (@Step.finish (start .empty) [] [] ⟨[], true⟩ (.ok []) (fun _ => false) rfl)
  refine ((hfinished.tail (.hear ?_)).tail (.hear ?_)).tail (.hear ?_) <;> exact nofun

/-- When the fetch succeeds, its event has been reported and the other one was discarded, each in
a turn of its own. -/
theorem target_events_accounted_for_overtaken :
    let ledger := overtaken.finish [] ⟨[created "app"], false⟩ (.ok []) fun _ => false
    ledger.Reachable .empty ∧
      ledger.arrivals = [⟨created "app", .reported 4⟩, ⟨created "lib", .discarded 3⟩] ∧
      (∃ turn, ledger.turns[4]? = some turn ∧ turn.listed = [[created "app"]]) ∧
      ∃ turn, ledger.turns[3]? = some turn ∧ turn.pushes = everythingReports := by
  intro ledger
  have hreached : ledger.Reachable .empty :=
    reachable_overtaken.tail (@Step.finish _ [] [] _ _ _ rfl)
  have harrivals : ledger.arrivals =
      [⟨created "app", .reported 4⟩, ⟨created "lib", .discarded 3⟩] := rfl
  obtain ⟨-, -, -, -, -, -, -, hsettles, -⟩ :=
    target_events_accounted_for .empty ledger hreached
  rw [harrivals] at hsettles
  exact ⟨hreached, harrivals, ⟨_, rfl, (hsettles 4 _ rfl).together⟩,
    ⟨_, rfl, (hsettles 3 _ rfl).everything (List.cons_ne_nil _ _)⟩⟩

end EventLedger

end SettingsBroker
