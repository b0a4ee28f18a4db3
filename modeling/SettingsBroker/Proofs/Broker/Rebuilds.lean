/-
# What becomes of a requested rebuild

A rebuild of the target graph is requested when the broker starts and whenever everything may
have changed.  The request waits until a fetch takes it along, and when the fetch succeeds the
graph is built anew.  When the fetch fails the request is gone: nothing waits, and later
fetches take in their events on a graph that was never rebuilt, until a rebuild is requested
again.

A ledger numbers the requests.  It keeps for each fetch how many there had been when it began,
and with that how far the last success and the last failure reach.  Apart from the last request
having gone along with a fetch that failed, a request that was not carried out is never
forgotten.
-/

import Mathlib.Logic.Relation
import SettingsBroker.Proofs.Broker.Fetches

namespace SettingsBroker

/-- How many rebuilds news request. -/
def TargetNews.requests : TargetNews → Nat
  | .everything => 1
  | .nothing | .named _ | .fetched .. => 0

/-- A fetch on its way, and how many rebuilds had been requested when it began. -/
structure DatedFetch where
  /-- What it took along. -/
  fetch : TargetFetch
  /-- The requests up to its beginning. -/
  requested : Nat

/-- A broker and what became of the rebuilds that were requested of it. -/
structure RebuildLedger where
  broker : Broker
  running : List DatedFetch
  /-- How many rebuilds have been requested. -/
  requested : Nat
  /-- How many had been when the fetch began from which the graph was last built anew. -/
  rebuilt : Nat
  /-- How many had been when the last fetch began that should have brought a rebuild and failed. -/
  failed : Nat

namespace RebuildLedger

/-- The ledger of a broker that was just started, which requests a rebuild. -/
def start (options : FallbackOptions) : RebuildLedger where
  broker := (Broker.start options).1
  running := (BrokerEffect.fetches (Broker.start options).2).map (⟨·, 1⟩)
  requested := 1
  rebuilt := 0
  failed := 0

/-- The ledger after the broker has handled a message. -/
def hear (ledger : RebuildLedger) (message : BrokerMessage) : RebuildLedger :=
  let requested := ledger.requested + message.news.requests
  { ledger with
    broker := (ledger.broker.handle message).1
    running := ledger.running ++
      (BrokerEffect.fetches (ledger.broker.handle message).2).map (⟨·, requested⟩)
    requested }

/-- Notes what came of a fetch.  Only one with a rebuild is noted. -/
def note (ledger : RebuildLedger) (dated : DatedFetch)
    (result : Except Failure (List BuildTarget)) : RebuildLedger :=
  match dated.fetch.rebuild, result with
  | true, .ok _ => { ledger with rebuilt := dated.requested }
  | true, .error _ => { ledger with failed := dated.requested }
  | false, _ => ledger

/-- The ledger after a fetch has ended and only some are still on their way. -/
def finish (ledger : RebuildLedger) (rest : List DatedFetch) (dated : DatedFetch)
    (result : Except Failure (List BuildTarget)) (gone : Waiter → Bool) : RebuildLedger :=
  hear { ledger.note dated result with running := rest }
    (.notice (.targetsFetched dated.fetch.events dated.fetch.rebuild result) gone)

/-- What can happen next.  A fetch that is on its way may succeed or fail at any time, and
anything but the end of a fetch may arrive at any time. -/
inductive Step : RebuildLedger → RebuildLedger → Prop where
  | /-- A message arrives. -/
    hear {ledger : RebuildLedger} {message : BrokerMessage}
      (other : ∀ fetch result, message.news ≠ .fetched fetch result) :
      Step ledger (ledger.hear message)
  | /-- A fetch ends. -/
    finish {ledger : RebuildLedger} {before after : List DatedFetch} {dated : DatedFetch}
      (result : Except Failure (List BuildTarget)) (gone : Waiter → Bool)
      (running : ledger.running = before ++ dated :: after) :
      Step ledger (ledger.finish (before ++ after) dated result gone)

/-- The ledgers that can come about. -/
def Reachable (options : FallbackOptions) (ledger : RebuildLedger) : Prop :=
  Relation.ReflTransGen Step (start options) ledger

/-- The accounts of requested rebuilds agree with what a desk has pending and on its way. -/
structure Accounts (desk : TargetDesk) (running : List DatedFetch)
    (requested rebuilt failed : Nat) : Prop where
  rebuilt_le : rebuilt ≤ requested
  failed_le : failed ≤ requested
  begun : ∀ dated ∈ running, dated.requested ≤ requested
  /-- What a fetch takes along is not settled before it ends. -/
  unsettled : ∀ dated ∈ running, dated.fetch.rebuild = true →
    rebuilt < dated.requested ∧ failed < dated.requested
  /-- A request that waits is later than all that has begun. -/
  waiting : desk.pending.rebuild = true →
    rebuilt < requested ∧ failed < requested ∧ ∀ dated ∈ running, dated.requested < requested
  /-- Where none waits, the last one was settled or is with a fetch. -/
  taken : desk.pending.rebuild = false → rebuilt = requested ∨ failed = requested ∨
    ∃ dated ∈ running, dated.fetch.rebuild = true ∧ dated.requested = requested

namespace Accounts

variable {desk : TargetDesk} {running : List DatedFetch} {requested rebuilt failed : Nat}

/-- A fetch that begins takes the waiting request along. -/
theorem dispatch (h : Accounts desk running requested rebuilt failed)
    (counted : running.length = desk.fetching.toNat) :
    Accounts desk.dispatch.1 (running ++ desk.dispatch.2.map (⟨·, requested⟩)) requested rebuilt
      failed := by
  obtain ⟨-, hstay⟩ | ⟨hidle, hgo⟩ := desk.dispatch_cases
  · rw [hstay, List.map_nil, List.append_nil]
    exact h
  · have hnone : running = [] := by
      rw [hidle] at counted
      exact List.eq_nil_of_length_eq_zero counted
    subst hnone
    rw [hgo]
    constructor
    case rebuilt_le => exact h.rebuilt_le
    case failed_le => exact h.failed_le
    case begun =>
      intro dated hdated
      obtain rfl := List.mem_singleton.mp hdated
      exact Nat.le_refl requested
    case unsettled =>
      intro dated hdated hrebuild
      obtain rfl := List.mem_singleton.mp hdated
      obtain ⟨hrebuilt, hfailed, -⟩ := h.waiting hrebuild
      exact ⟨hrebuilt, hfailed⟩
    case waiting => exact fun hrebuild => nomatch hrebuild
    case taken =>
      intro _
      cases hpending : desk.pending.rebuild with
      | true => exact Or.inr (Or.inr ⟨_, List.mem_singleton_self _, hpending, rfl⟩)
      | false =>
        obtain hrebuilt | hfailed | ⟨dated, hdated, -⟩ := h.taken hpending
        · exact Or.inl hrebuilt
        · exact Or.inr (Or.inl hfailed)
        · cases hdated

/-- The accounts of a desk when no fetch is on its way. -/
theorem idle {graph : TargetGraph} (rebuilt_le : rebuilt ≤ requested)
    (failed_le : failed ≤ requested)
    (waiting : desk.pending.rebuild = true → rebuilt < requested ∧ failed < requested)
    (taken : desk.pending.rebuild = false → rebuilt = requested ∨ failed = requested) :
    Accounts { desk with graph, fetching := false } [] requested rebuilt failed where
  rebuilt_le := rebuilt_le
  failed_le := failed_le
  begun := nofun
  unsettled := nofun
  waiting := fun hpending => ⟨(waiting hpending).1, (waiting hpending).2, nofun⟩
  taken := fun hpending => (taken hpending).imp_right Or.inl

/-- A new request waits. -/
theorem request (h : Accounts desk running requested rebuilt failed) :
    Accounts { desk with pending := ⟨[], true⟩ } running (requested + 1) rebuilt failed where
  rebuilt_le := Nat.le_succ_of_le h.rebuilt_le
  failed_le := Nat.le_succ_of_le h.failed_le
  begun := fun dated hdated => Nat.le_succ_of_le (h.begun dated hdated)
  unsettled := h.unsettled
  waiting := fun _ => ⟨Nat.lt_succ_of_le h.rebuilt_le, Nat.lt_succ_of_le h.failed_le,
    fun dated hdated => Nat.lt_succ_of_le (h.begun dated hdated)⟩
  taken := nofun

/-- Anything but the end of a fetch. -/
theorem handle (h : Accounts desk running requested rebuilt failed)
    (counted : running.length = desk.fetching.toNat) {news : TargetNews}
    (other : ∀ fetch result, news ≠ .fetched fetch result) :
    Accounts (desk.handle news).1
      (running ++ (desk.handle news).2.map (⟨·, requested + news.requests⟩))
      (requested + news.requests) rebuilt failed := by
  cases news with
  | nothing =>
    rw [TargetDesk.handle, List.map_nil, List.append_nil]
    exact h
  | named events =>
    have hadded : Accounts
        { desk with pending := ⟨desk.pending.events ++ events, desk.pending.rebuild⟩ } running
        requested rebuilt failed := { h with }
    exact hadded.dispatch counted
  | everything => exact h.request.dispatch counted
  | fetched fetch result => exact absurd rfl (other fetch result)

end Accounts

variable {options : FallbackOptions} {ledger next : RebuildLedger}

/-- The accounts of a ledger are in order. -/
structure Sound (ledger : RebuildLedger) : Prop where
  booked : ledger.broker.desk.Booked ledger.running
  accounts : Accounts ledger.broker.desk ledger.running ledger.requested ledger.rebuilt
    ledger.failed

theorem desk_hear (ledger : RebuildLedger) (message : BrokerMessage) :
    (ledger.hear message).broker.desk = (ledger.broker.desk.handle message.news).1 :=
  ledger.broker.desk_handle message

theorem running_hear (ledger : RebuildLedger) (message : BrokerMessage) :
    (ledger.hear message).running = ledger.running ++
      (ledger.broker.desk.handle message.news).2.map
        (⟨·, ledger.requested + message.news.requests⟩) := by
  rw [← ledger.broker.fetches_handle]
  rfl

theorem broker_note (ledger : RebuildLedger) (dated : DatedFetch)
    (result : Except Failure (List BuildTarget)) :
    (ledger.note dated result).broker = ledger.broker := by
  unfold note
  split <;> rfl

theorem requested_note (ledger : RebuildLedger) (dated : DatedFetch)
    (result : Except Failure (List BuildTarget)) :
    (ledger.note dated result).requested = ledger.requested := by
  unfold note
  split <;> rfl

/-- A fetch that succeeds and brings a rebuild leaves the graph built from what it has read. -/
theorem graph_finish (ledger : RebuildLedger) (rest : List DatedFetch) {dated : DatedFetch}
    (snapshot : List BuildTarget) (gone : Waiter → Bool)
    (rebuild : dated.fetch.rebuild = true) :
    (ledger.finish rest dated (.ok snapshot) gone).broker.graph = .ofSnapshot snapshot := by
  have hgraph : (ledger.finish rest dated (.ok snapshot) gone).broker.desk.graph =
      ((ledger.note dated (.ok snapshot)).broker.graph.applySnapshot dated.fetch.events snapshot
        dated.fetch.rebuild).1 := by
    rw [finish, desk_hear]
    exact TargetDesk.graph_dispatch _
  rw [rebuild] at hgraph
  exact hgraph

/-- What a fetch took along is settled when it ends. -/
theorem Accounts.settle {dated : DatedFetch}
    (h : Accounts ledger.broker.desk [dated] ledger.requested ledger.rebuilt ledger.failed)
    (result : Except Failure (List BuildTarget)) (graph : TargetGraph) :
    Accounts { ledger.broker.desk with graph, fetching := false } [] ledger.requested
      (ledger.note dated result).rebuilt (ledger.note dated result).failed := by
  have hbegun := h.begun dated (List.mem_singleton_self dated)
  have hunsettled := h.unsettled dated (List.mem_singleton_self dated)
  have hwaiting : ledger.broker.desk.pending.rebuild = true → ledger.rebuilt < ledger.requested ∧
      ledger.failed < ledger.requested ∧ dated.requested < ledger.requested := by
    simpa using h.waiting
  have htaken : ledger.broker.desk.pending.rebuild = false → ledger.rebuilt = ledger.requested ∨
      ledger.failed = ledger.requested ∨
        dated.fetch.rebuild = true ∧ dated.requested = ledger.requested := by
    simpa using h.taken
  cases hrebuild : dated.fetch.rebuild with
  | false =>
    simp only [note, hrebuild]
    apply idle h.rebuilt_le h.failed_le
    · exact fun hpending => ⟨(hwaiting hpending).1, (hwaiting hpending).2.1⟩
    · intro hpending
      obtain hrebuilt | hfailed | ⟨hcarried, -⟩ := htaken hpending
      · exact Or.inl hrebuilt
      · exact Or.inr hfailed
      · simp [hrebuild] at hcarried
  | true =>
    obtain ⟨hrebuilt, hfailed⟩ := hunsettled hrebuild
    -- The last request has gone along unless another one waits.
    have hlast : ledger.broker.desk.pending.rebuild = false →
        dated.requested = ledger.requested := by
      intro hpending
      have hthree := htaken hpending
      omega
    cases result with
    | ok snapshot =>
      simp only [note, hrebuild]
      apply idle hbegun h.failed_le
      · exact fun hpending => ⟨(hwaiting hpending).2.2, (hwaiting hpending).2.1⟩
      · exact fun hpending => Or.inl (hlast hpending)
    | error failure =>
      simp only [note, hrebuild]
      apply idle h.rebuilt_le hbegun
      · exact fun hpending => ⟨(hwaiting hpending).1, (hwaiting hpending).2.2⟩
      · exact fun hpending => Or.inr (hlast hpending)

namespace Sound

theorem start (options : FallbackOptions) : (start options).Sound where
  booked := ⟨rfl, nofun⟩
  accounts :=
    { rebuilt_le := Nat.zero_le 1
      failed_le := Nat.zero_le 1
      begun := fun dated hdated => by
        obtain rfl := List.mem_singleton.mp hdated
        exact Nat.le_refl 1
      unsettled := fun dated hdated _ => by
        obtain rfl := List.mem_singleton.mp hdated
        exact ⟨Nat.one_pos, Nat.one_pos⟩
      waiting := nofun
      taken := fun _ => Or.inr (Or.inr ⟨_, List.mem_singleton_self _, rfl, rfl⟩) }

theorem hear (h : ledger.Sound) {message : BrokerMessage}
    (other : ∀ fetch result, message.news ≠ .fetched fetch result) :
    (ledger.hear message).Sound := by
  constructor
  case booked =>
    rw [desk_hear, running_hear]
    exact h.booked.handle _ _ other
  case accounts =>
    rw [desk_hear, running_hear]
    exact h.accounts.handle h.booked.counted other

theorem finish (h : ledger.Sound) {before after : List DatedFetch} {dated : DatedFetch}
    (running : ledger.running = before ++ dated :: after)
    (result : Except Failure (List BuildTarget)) (gone : Waiter → Bool) :
    (ledger.finish (before ++ after) dated result gone).Sound := by
  have hbooked := h.booked
  have haccounts := h.accounts
  rw [running] at hbooked haccounts
  obtain ⟨rfl, rfl, -⟩ := hbooked.alone
  constructor
  case booked =>
    rw [RebuildLedger.finish, desk_hear, running_hear]
    simp only [broker_note]
    exact hbooked.fetched dated.fetch result _
  case accounts =>
    have hsettled :=
      (haccounts.settle result (ledger.broker.desk.graphAfter dated.fetch result)).dispatch rfl
    rw [← ledger.requested_note dated result] at hsettled
    rw [RebuildLedger.finish, desk_hear, running_hear]
    simp only [broker_note]
    exact hsettled

theorem step (h : ledger.Sound) (hstep : Step ledger next) : next.Sound := by
  cases hstep with
  | hear other => exact h.hear other
  | finish result gone running => exact h.finish running result gone

theorem of_reachable (reached : ledger.Reachable options) : ledger.Sound := by
  induction reached with
  | refl => exact start options
  | tail _ hstep ih => exact ih.step hstep

end Sound

/-- A requested rebuild is never forgotten, unless the fetch that took it along fails.  Whatever
has arrived and whichever fetches have succeeded and failed: if no fetch that began after the
last request has brought the rebuild, then the request waits or the fetch that is on its way
brings one, exactly if the last request has not gone along with a fetch that failed.  To bring
the rebuild is to leave the graph built from what the fetch has read. -/
theorem rebuild_kept_iff (options : FallbackOptions) (ledger : RebuildLedger)
    (reached : ledger.Reachable options) (due : ledger.rebuilt < ledger.requested) :
    ((ledger.broker.pendingRebuild = true ∨
      ∃ dated ∈ ledger.running, dated.fetch.rebuild = true) ↔
      ledger.failed ≠ ledger.requested) ∧
    ∀ (rest : List DatedFetch) (dated : DatedFetch) (snapshot : List BuildTarget)
      (gone : Waiter → Bool), dated.fetch.rebuild = true →
      (ledger.finish rest dated (.ok snapshot) gone).broker.graph = .ofSnapshot snapshot := by
  have h := (Sound.of_reachable reached).accounts
  refine ⟨⟨?_, ?_⟩, fun rest dated snapshot gone => ledger.graph_finish rest snapshot gone⟩
  · rintro (hwaiting | ⟨dated, hdated, hrebuild⟩)
    · exact Nat.ne_of_lt (h.waiting hwaiting).2.1
    · have hlater := (h.unsettled dated hdated hrebuild).2
      exact Nat.ne_of_lt (Nat.lt_of_lt_of_le hlater (h.begun dated hdated))
  · intro hkept
    cases hpending : ledger.broker.pendingRebuild with
    | true => exact Or.inl rfl
    | false =>
      obtain hrebuilt | hfailed | ⟨dated, hdated, hrebuild, -⟩ := h.taken hpending
      · exact absurd hrebuilt (Nat.ne_of_lt due)
      · exact absurd hfailed hkept
      · exact Or.inr ⟨dated, hdated, hrebuild⟩

/-- The first fetch has failed. -/
def unserved : RebuildLedger :=
  (start .empty).finish [] ⟨⟨[], true⟩, 1⟩ (.error (.backend "no targets")) fun _ => false

theorem reachable_unserved : unserved.Reachable .empty :=
  .single (@Step.finish _ [] [] _ _ _ rfl)

/-- After events were lost as well, a rebuild has been requested again. -/
theorem rebuild_kept_iff_renewed :
    let renewed := unserved.hear (.notice (.lagged 1) fun _ => false)
    renewed.Reachable .empty ∧ renewed.rebuilt < renewed.requested ∧
      renewed.failed ≠ renewed.requested ∧
      (renewed.broker.pendingRebuild = true ∨
        ∃ dated ∈ renewed.running, dated.fetch.rebuild = true) := by
  intro renewed
  have hreached : renewed.Reachable .empty := .tail reachable_unserved (.hear nofun)
  have hdue : renewed.rebuilt < renewed.requested := by decide
  have hkept : renewed.failed ≠ renewed.requested := by decide
  exact ⟨hreached, hdue, hkept, (rebuild_kept_iff .empty renewed hreached hdue).1.mpr hkept⟩

/-- Nothing is left of the request that came with the start when the first fetch fails, though
the graph was never built. -/
theorem rebuild_not_always_kept :
    ∃ ledger : RebuildLedger, ledger.Reachable .empty ∧ ledger.rebuilt < ledger.requested ∧
      ledger.broker.graph = .empty ∧
      ¬ (ledger.broker.pendingRebuild = true ∨
        ∃ dated ∈ ledger.running, dated.fetch.rebuild = true) := by
  refine ⟨unserved, reachable_unserved, Nat.one_pos, rfl, ?_⟩
  have hnothing : unserved.broker.pendingRebuild = false ∧ unserved.running = [] := ⟨rfl, rfl⟩
  simp [hnothing]

end RebuildLedger

end SettingsBroker
