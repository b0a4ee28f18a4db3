/-
# The target graph converges to the build system

While targets change, the graph of a broker is behind.  What it lacks is on its way in several
places: in reports that the build system owes, in the stream, in the mail, among what waits for
the next fetch, and with the fetch that is running.  All of it is words on targets, and they
have an order in which the graph will take them in.

The invariant is about one target at a time: were all words that are on their way taken in with
the targets as they are now, the graph would have the target as it is now.  A change puts a new
word at the end, and that a fetch reads the targets later than its events happened does no
harm, since words of the later changes are still to come.
-/

import SettingsBroker.Proofs.Broker.TargetWords

namespace SettingsBroker

open TargetGraph (definitions ofSnapshot DistinctIds)

/-! ## Fetches that are running -/

/-- What a graph will have of a target when fetches have ended that read the targets as they
are, unless they have read them already. -/
def landed (current : List BuildTarget) (running : List RunningFetch) (graph : TargetGraph)
    (id : TargetId) : Option BuildTarget :=
  running.foldl (fun held running =>
      outlook id ((ofSnapshot (running.read.getD current)).known id) held running.fetch.words)
    (graph.known id)

namespace TargetDesk

variable {desk : TargetDesk} {current : List BuildTarget} {running : List RunningFetch}
variable {rest : List TargetWord} {id : TargetId}

/-- What the graph of a desk will have of a target when all fetches have ended, the one that is
to come among them, and all words are taken in. -/
def foresees (desk : TargetDesk) (current : List BuildTarget) (running : List RunningFetch)
    (rest : List TargetWord) (id : TargetId) : Option BuildTarget :=
  outlook id ((ofSnapshot current).known id) (landed current running desk.graph id)
    (desk.pending.words ++ rest)

/-- A fetch that begins takes along the words that have waited for it. -/
theorem foresees_dispatch (desk : TargetDesk) (current : List BuildTarget)
    (running : List RunningFetch) (rest : List TargetWord) (id : TargetId) :
    desk.dispatch.1.foresees current (running ++ desk.dispatch.2.map (⟨·, none⟩)) rest id =
      desk.foresees current running rest id := by
  obtain ⟨-, hstay⟩ | ⟨-, hgo⟩ := desk.dispatch_cases
  · rw [hstay, List.map_nil, List.append_nil]
  · rw [hgo, foresees, foresees, outlook_append, outlook_append]
    simp only [List.map_cons, List.map_nil, landed, List.foldl_append]
    rfl

/-- Whatever the desk hears but the end of a fetch, it takes in the words, or a word that
everything may have changed makes up for them. -/
theorem settles_handle {news : TargetNews} (other : ∀ fetch result, news ≠ .fetched fetch result)
    (h : desk.foresees current running (news.words ++ rest) id = (ofSnapshot current).known id) :
    (desk.handle news).1.foresees current (running ++ (desk.handle news).2.map (⟨·, none⟩)) rest
      id = (ofSnapshot current).known id := by
  cases news with
  | nothing =>
    rw [handle, List.map_nil, List.append_nil]
    exact h
  | named events =>
    rw [handle, foresees_dispatch]
    exact suffices_named desk.pending events rest id _ _ h
  | everything =>
    rw [handle, foresees_dispatch]
    exact Suffices.of_suffix [] (List.suffix_append_of_suffix (List.suffix_cons _ _)) id _ _ h
  | fetched fetch result => exact absurd rfl (other fetch result)

/-- The end of a fetch brings to the graph what was foreseen of it. -/
theorem settles_fetched (fetch : TargetFetch) (snapshot : List BuildTarget)
    (h : desk.foresees current [⟨fetch, some snapshot⟩] rest id = (ofSnapshot current).known id) :
    (desk.handle (.fetched fetch (.ok snapshot))).1.foresees current
      ((desk.handle (.fetched fetch (.ok snapshot))).2.map (⟨·, none⟩)) rest id =
        (ofSnapshot current).known id := by
  have hdispatch := foresees_dispatch
    { desk with graph := desk.graphAfter fetch (.ok snapshot), fetching := false } current [] rest id
  rw [List.nil_append] at hdispatch
  rw [handle, hdispatch, foresees]
  have hlanded : landed current [] (desk.graphAfter fetch (.ok snapshot)) id =
      landed current [⟨fetch, some snapshot⟩] desk.graph id :=
    known_applySnapshot desk.graph fetch snapshot id
  rw [hlanded]
  exact h

end TargetDesk

/-! ## The invariant -/

/-- Where a target is looked up as it is does not matter as long as it is the same there. -/
theorem landed_congr {current next : List BuildTarget} {id : TargetId}
    (same : (ofSnapshot current).known id = (ofSnapshot next).known id)
    (running : List RunningFetch) (graph : TargetGraph) :
    landed next running graph id = landed current running graph id := by
  unfold landed
  congr 1
  funext held running
  cases running.read with
  | none => rw [Option.getD_none, Option.getD_none, same]
  | some snapshot => rfl

namespace TargetWorld

variable {options : FallbackOptions} {w next : TargetWorld}

/-- The words that the broker has still to hear. -/
def coming (w : TargetWorld) : List TargetWord :=
  w.mail.flatMap (·.news.words) ++ w.system.coming w.position

/-- What a world keeps to. -/
structure Upkept (w : TargetWorld) : Prop where
  distinct : DistinctIds w.system.current
  followed : w.system.stream.FollowedAt w.position
  /-- What is delivered is not the end of a fetch. -/
  delivered : ∀ notice ∈ w.mail, ∀ fetch result, notice.news ≠ .fetched fetch result
  booked : w.broker.desk.Booked w.running
  read : ∀ running ∈ w.running, ∀ snapshot, running.read = some snapshot → DistinctIds snapshot
  wired : w.broker.desk.graph.Wired
  /-- When all has arrived, the graph has each target as it is. -/
  settles : ∀ id,
    w.broker.desk.foresees w.system.current w.running w.coming id = w.system.now id

theorem desk_hear (w : TargetWorld) (message : BrokerMessage) :
    (w.hear message).broker.desk = (w.broker.desk.handle message.news).1 :=
  w.broker.desk_handle message

theorem running_hear (w : TargetWorld) (message : BrokerMessage) :
    (w.hear message).running =
      w.running ++ (w.broker.desk.handle message.news).2.map (⟨·, none⟩) := by
  rw [← w.broker.fetches_handle]
  rfl

namespace Upkept

theorem start {system : TargetSystem} (reached : system.Reachable) :
    (start options system).Upkept := by
  obtain ⟨hdistinct, hfollowed, hsettles⟩ := reached.sound
  constructor
  case distinct => exact hdistinct
  case followed => exact hfollowed
  case delivered => exact fun notice hnotice => nomatch hnotice
  case booked => exact ⟨rfl, fun hidle => nomatch hidle⟩
  case read =>
    intro running hrunning snapshot hread
    rw [List.mem_singleton.mp hrunning] at hread
    cases hread
  case wired => exact TargetGraph.wired_empty
  case settles => exact hsettles

theorem system (h : w.Upkept) {system : TargetSystem} (step : w.system.Step system) :
    Upkept { w with system } := by
  refine { h with
    distinct := step.distinct h.distinct
    followed := step.followed h.followed
    settles := fun id => ?_ }
  have hsettles := h.settles id
  rw [TargetDesk.foresees, coming, ← List.append_assoc] at hsettles ⊢
  exact step.settles h.followed _ (landed_congr · _ _) hsettles

/-- A notice is delivered, and the words in it with it. -/
theorem deliver (h : w.Upkept) {notice : BrokerNotice} {position : Nat}
    (followed : w.system.stream.FollowedAt position)
    (other : ∀ fetch result, notice.news ≠ .fetched fetch result)
    (words : unheard w.system.stream w.position =
      notice.news.words ++ unheard w.system.stream position) :
    Upkept { w with position, mail := w.mail ++ [notice] } := by
  refine { h with followed, delivered := ?_, settles := fun id => ?_ }
  · intro found hfound
    obtain hold | hlast := List.mem_append.mp hfound
    · exact h.delivered found hold
    · rw [List.mem_singleton.mp hlast]
      exact other
  · have hcoming : coming { w with position, mail := w.mail ++ [notice] } = w.coming := by
      simp [coming, TargetSystem.coming, words]
    rw [hcoming]
    exact h.settles id

/-- A fetch that has read the targets has read them as they are. -/
theorem readTargets (h : w.Upkept) {before after : List RunningFetch} {fetch : TargetFetch}
    {snapshot : List BuildTarget} (unread : w.running = before ++ ⟨fetch, none⟩ :: after)
    (current : snapshot.Perm w.system.current) :
    Upkept { w with running := before ++ ⟨fetch, some snapshot⟩ :: after } := by
  have hread := h.read
  have hbooked := h.booked
  have hsettles := h.settles
  rw [unread] at hread hbooked
  refine { h with booked := ?_, read := ?_, settles := fun id => ?_ }
  · refine ⟨?_, hbooked.idle⟩
    have hcounted := hbooked.counted
    rw [List.length_append, List.length_cons] at hcounted ⊢
    exact hcounted
  · intro running hrunning found hfound
    obtain hbefore | hself | hafter : running ∈ before ∨ running = ⟨fetch, some snapshot⟩ ∨
        running ∈ after := by simpa using hrunning
    · exact hread running (by simp [hbefore]) found hfound
    · subst hself
      obtain rfl := Option.some.inj hfound
      exact (current.map _).nodup_iff.mpr h.distinct
    · exact hread running (by simp [hafter]) found hfound
  · have hlanded : landed w.system.current (before ++ ⟨fetch, some snapshot⟩ :: after)
        w.broker.desk.graph id =
        landed w.system.current w.running w.broker.desk.graph id := by
      rw [unread, landed, landed, List.foldl_append, List.foldl_append, List.foldl_cons,
        List.foldl_cons, Option.getD_some, Option.getD_none,
        TargetGraph.known_ofSnapshot_of_perm h.distinct current]
    have hforesees := hsettles id
    rw [TargetDesk.foresees] at hforesees ⊢
    rw [hlanded]
    exact hforesees

/-- The broker handles a message that is not the end of a fetch. -/
theorem hear (h : w.Upkept) {message : BrokerMessage}
    (other : ∀ fetch result, message.news ≠ .fetched fetch result)
    {mail : List BrokerNotice} (rest : ∀ notice ∈ mail, notice ∈ w.mail)
    (words : ∀ id, w.broker.desk.foresees w.system.current w.running
      (message.news.words ++ coming { w with mail }) id = w.system.now id) :
    Upkept (TargetWorld.hear { w with mail } message) := by
  have hdesk := desk_hear { w with mail } message
  have hrunning := running_hear { w with mail } message
  constructor
  case distinct => exact h.distinct
  case followed => exact h.followed
  case delivered => exact fun notice hnotice => h.delivered notice (rest notice hnotice)
  case booked =>
    rw [hdesk, hrunning]
    exact h.booked.handle _ _ other
  case read =>
    rw [hrunning]
    intro running hmem snapshot hread
    obtain hold | hlaunched := List.mem_append.mp hmem
    · exact h.read running hold snapshot hread
    · obtain ⟨fetch, -, rfl⟩ := List.mem_map.mp hlaunched
      cases hread
  case wired =>
    rw [hdesk, TargetDesk.graph_handle other]
    exact h.wired
  case settles =>
    intro id
    rw [hdesk, hrunning]
    exact TargetDesk.settles_handle other (words id)

/-- The broker handles the end of a fetch. -/
theorem finish (h : w.Upkept) {before after : List RunningFetch} {fetch : TargetFetch}
    {snapshot : List BuildTarget} (gone : Waiter → Bool)
    (done : w.running = before ++ ⟨fetch, some snapshot⟩ :: after) :
    Upkept (TargetWorld.hear { w with running := before ++ after }
      (.notice (.targetsFetched fetch.events fetch.rebuild (.ok snapshot)) gone)) := by
  have hbooked := h.booked
  rw [done] at hbooked
  obtain ⟨rfl, rfl, -⟩ := hbooked.alone
  rw [List.nil_append] at done ⊢
  have hdesk := desk_hear { w with running := [] }
    (.notice (.targetsFetched fetch.events fetch.rebuild (.ok snapshot)) gone)
  have hrunning := running_hear { w with running := [] }
    (.notice (.targetsFetched fetch.events fetch.rebuild (.ok snapshot)) gone)
  have hdistinct : DistinctIds snapshot := h.read ⟨fetch, some snapshot⟩ (by simp [done]) _ rfl
  constructor
  case distinct => exact h.distinct
  case followed => exact h.followed
  case delivered => exact h.delivered
  case booked =>
    rw [hdesk, hrunning]
    exact hbooked.fetched fetch _ _
  case read =>
    rw [hrunning]
    intro running hmem found hread
    obtain ⟨launched, -, rfl⟩ := List.mem_map.mp hmem
    cases hread
  case wired =>
    rw [hdesk]
    have hgraph : (w.broker.desk.handle (.fetched fetch (.ok snapshot))).1.graph =
        (w.broker.graph.applySnapshot fetch.events snapshot fetch.rebuild).1 :=
      TargetDesk.graph_dispatch _
    exact hgraph ▸ h.wired.applySnapshot hdistinct fetch.events fetch.rebuild
  case settles =>
    intro id
    have hsettles := h.settles id
    rw [done] at hsettles
    rw [hdesk, hrunning]
    exact TargetDesk.settles_fetched fetch snapshot hsettles

theorem step (h : w.Upkept) (hstep : Step w next) : next.Upkept := by
  cases hstep with
  | system step => exact h.system step
  | @deliver event position found =>
    apply h.deliver (h.followed.receive_event found)
    · exact event.news_ne_fetched
    · exact unheard_of_receive_event found
  | @fallBehind missed position found =>
    apply h.deliver (h.followed.receive_lagged found)
    · exact fun fetch result => nofun
    · exact unheard_of_receive_lagged found
  | @handle notice rest gone mail =>
    apply h.hear
    · exact h.delivered notice (by simp [mail])
    · intro found hfound
      simp [mail, hfound]
    · intro id
      have hsettles := h.settles id
      rw [TargetWorld.coming, mail, List.flatMap_cons, List.append_assoc] at hsettles
      exact hsettles
  | read unread current => exact h.readTargets unread current
  | finish gone done => exact h.finish gone done
  | @other message other =>
    apply h.hear _ (fun notice hnotice => hnotice)
    · intro id
      have hwords : Suffices (w.broker.desk.pending.words ++ (message.news.words ++ w.coming))
          (w.broker.desk.pending.words ++ w.coming) := by
        apply Suffices.prepend
        obtain hnothing | heverything := other
        · rw [hnothing]
          exact .of_eq rfl
        · rw [heverything]
          exact .of_suffix [] (List.suffix_refl _)
      exact hwords id _ _ (h.settles id)
    · obtain hnothing | heverything := other
      · rw [hnothing]
        exact nofun
      · rw [heverything]
        exact nofun

theorem of_reachable (reached : w.Reachable options) : w.Upkept := by
  obtain ⟨system, hsystem, hsteps⟩ := reached
  induction hsteps with
  | refl => exact start hsystem
  | tail _ hstep ih => exact ih.step hstep

end Upkept

/-- In a settled world no words are on their way. -/
theorem Settled.coming_eq_nil (settled : w.Settled) : w.coming = [] := by
  have hmail : w.mail.flatMap (·.news.words) = [] := by
    rw [List.flatMap_eq_nil_iff]
    intro notice hnotice
    obtain hnothing | hempty := settled.handled notice hnotice
    · rw [hnothing]
      rfl
    · rw [hempty]
      rfl
  have howed : w.system.owed.flatMap (fun events => (TargetNews.ofEvents events).words) = [] := by
    rw [List.flatMap_eq_nil_iff]
    intro events hevents
    rw [settled.reported events hevents]
    rfl
  have hreached : ¬ w.position < w.system.stream.dropped := by
    intro hbehind
    have hsome := settled.delivered [⟨none, .changed⟩] (Or.inr hbehind)
    cases hsome
  have hunseen : (w.system.stream.unseen w.position).flatMap (·.news.words) = [] := by
    rw [List.flatMap_eq_nil_iff]
    intro event hevent
    cases event with
    | targetsChanged events =>
      rw [settled.delivered events (Or.inl hevent)]
      rfl
    | _ => rfl
  rw [coming, hmail, TargetSystem.coming, unheard, if_neg hreached, hunseen, howed]
  rfl

/-- The target graph converges to the targets of the build system.  Whatever has happened, and
in whatever order changes, reports, losses, fetches and other messages have come: when no target
event has still to be reported, delivered or handled and no fetch is on its way, the graph is
the one built from the current targets, so that it knows exactly these, each without a
dependency on itself.  A compilation database is a build system of this kind, with one target:
reading its file again is a matter of its steps. -/
theorem graph_current_when_settled (options : FallbackOptions) (w : TargetWorld)
    (reached : w.Reachable options) (settled : w.Settled) :
    (w.broker.graph = ofSnapshot w.system.current ∧
      ∀ (id : TargetId) (target : BuildTarget), w.broker.graph.targets[id]? = some target ↔
        ∃ found ∈ w.system.current, found.id = id ∧ found.pruned = target) ∧
    ∀ (source : CompileSource) (current : FilePath) (file : FileContent),
      Relation.ReflTransGen TargetSystem.Step
        ⟨[source.database.target], [], source.events⟩
        ⟨[(source.reload current file).1.database.target], [],
          (source.reload current file).1.events⟩ := by
  have h : w.Upkept := .of_reachable reached
  have hidle : w.broker.desk.pending = .empty := by
    apply h.booked.idle
    have hcounted := h.booked.counted
    rw [settled.fetched] at hcounted
    cases hfetching : w.broker.desk.fetching with
    | false => rfl
    | true =>
      rw [hfetching] at hcounted
      cases hcounted
  have hgraph : w.broker.graph = ofSnapshot w.system.current := by
    apply h.wired.ext (TargetGraph.wired_ofSnapshot h.distinct)
    funext id
    have hsettles := h.settles id
    rw [TargetDesk.foresees, settled.coming_eq_nil, settled.fetched, hidle] at hsettles
    exact hsettles
  refine ⟨⟨hgraph, fun id target => ?_⟩, CompileSource.steps_reload⟩
  rw [hgraph, TargetGraph.getElem?_targets_ofSnapshot, Option.map_eq_some_iff]
  constructor
  · rintro ⟨found, hfound, rfl⟩
    obtain ⟨hmem, hid⟩ := (TargetGraph.definitions_eq_some_iff h.distinct).mp hfound
    exact ⟨found, hmem, hid, rfl⟩
  · rintro ⟨found, hmem, hid, rfl⟩
    exact ⟨found, (TargetGraph.definitions_eq_some_iff h.distinct).mpr ⟨hmem, hid⟩, rfl⟩

/-- A world with such a desk can come about. -/
def Arises (options : FallbackOptions) (desk : TargetDesk) (system : TargetSystem)
    (position : Nat) (mail : List BrokerNotice) (running : List RunningFetch) : Prop :=
  ∃ broker : Broker, broker.desk = desk ∧
    (⟨broker, system, position, mail, running⟩ : TargetWorld).Reachable options

section Arises

variable {desk : TargetDesk} {system system' : TargetSystem} {position position' : Nat}
variable {mail mail' : List BrokerNotice} {running running' : List RunningFetch}

theorem Arises.move (h : Arises options desk system position mail running)
    (step : ∀ broker : Broker, Step ⟨broker, system, position, mail, running⟩
      ⟨broker, system', position', mail', running'⟩) :
    Arises options desk system' position' mail' running' := by
  obtain ⟨broker, hdesk, hreached⟩ := h
  exact ⟨broker, hdesk, hreached.tail (step broker)⟩

theorem Arises.hear (h : Arises options desk system position mail running)
    (message : BrokerMessage)
    (step : ∀ broker : Broker, Step ⟨broker, system, position, mail, running⟩
      (TargetWorld.hear ⟨broker, system, position, mail', running'⟩ message)) :
    Arises options (desk.handle message.news).1 system position mail'
      (running' ++ (desk.handle message.news).2.map (⟨·, none⟩)) := by
  obtain ⟨broker, rfl, hreached⟩ := h
  have hnext := hreached.tail (step broker)
  have hdesk := desk_hear ⟨broker, system, position, mail', running'⟩ message
  have hrunning := running_hear ⟨broker, system, position, mail', running'⟩ message
  refine ⟨_, hdesk, ?_⟩
  rw [← hrunning]
  exact hnext

end Arises

/-- A target. -/
def core : BuildTarget := TargetGraph.named "core" ["file:///c.c"] []

/-- The target when it has come back, with a dependency on itself. -/
def coreAgain : BuildTarget := TargetGraph.named "core" ["file:///d.c"] ["core"]

def coreRemoved : TargetEvent := ⟨some ⟨"core"⟩, .removed⟩

def coreCreated : TargetEvent := ⟨some ⟨"core"⟩, .created⟩

theorem tells_removed : Tells [coreRemoved] [core] [] := by
  right
  refine ⟨fun id kind hkind => ?_, fun id _ => rfl⟩
  cases hbefore : (definitions [core])[id]? with
  | none =>
    rw [hbefore] at hkind
    cases hkind
  | some target =>
    rw [hbefore] at hkind
    obtain rfl : .removed = kind := Option.some.inj hkind
    obtain ⟨hmem, rfl⟩ := TargetGraph.mem_of_definitions hbefore
    rw [List.mem_singleton.mp hmem]
    exact List.mem_singleton_self _

theorem tells_created : Tells [coreCreated] [] [coreAgain] := by
  right
  refine ⟨fun id kind hkind => ?_, fun id hmem => ?_⟩
  · cases hafter : (definitions [coreAgain])[id]? with
    | none =>
      rw [hafter] at hkind
      cases hkind
    | some target =>
      rw [hafter] at hkind
      obtain rfl : .created = kind := Option.some.inj hkind
      obtain ⟨hmem, rfl⟩ := TargetGraph.mem_of_definitions hafter
      rw [List.mem_singleton.mp hmem]
      exact List.mem_singleton_self _
  · simp [coreCreated] at hmem

/-- A target is removed and comes back before the fetch for its removal has read the targets. -/
theorem graph_current_when_settled_recreation :
    ∃ w : TargetWorld, w.Reachable .empty ∧ w.Settled ∧ w.system.current = [coreAgain] ∧
      w.broker.graph = ofSnapshot [coreAgain] ∧
      w.broker.graph.targets[(⟨"core"⟩ : TargetId)]? = some coreAgain.pruned := by
  have hstream : (EventStream.empty 1 : EventStream BuildEvent) = ⟨1, 0, [], false⟩ := by cbv
  have hdistinct : DistinctIds [core] ∧ DistinctIds [coreAgain] := by
    constructor <;> exact List.nodup_singleton _
  have hstart : Arises .empty ⟨.empty, true, .empty⟩ ⟨[core], [], ⟨1, 0, [], false⟩⟩ 0 []
      [⟨⟨[], true⟩, none⟩] := by
    rw [← hstream]
    exact ⟨_, rfl, _, ⟨[core], 1, hdistinct.1, .refl⟩, .refl⟩
  let removal : BrokerNotice := .event (.targetsChanged [coreRemoved])
  let creation : BrokerNotice := .event (.targetsChanged [coreCreated])
  let afterRemoval : EventStream BuildEvent := ⟨1, 1, [.targetsChanged [coreRemoved]], false⟩
  let afterCreation : EventStream BuildEvent := ⟨1, 2, [.targetsChanged [coreCreated]], false⟩
  let first : TargetFetch := ⟨[], true⟩
  let second : TargetFetch := ⟨[coreRemoved], false⟩
  let third : TargetFetch := ⟨[coreCreated], false⟩
  -- The removal is heard while the first fetch is on its way, so that another one follows.
  have hremoved : Arises .empty ⟨.empty, true, .empty⟩
      ⟨[], [[coreRemoved]], ⟨1, 0, [], false⟩⟩ 0 [] [⟨first, none⟩] :=
    hstart.move fun broker => .system (.change .nil tells_removed)
  have hreported : Arises .empty ⟨.empty, true, .empty⟩ ⟨[], [], afterRemoval⟩ 0 []
      [⟨first, none⟩] := hremoved.move fun broker => .system (.announce rfl)
  have hdelivered : Arises .empty ⟨.empty, true, .empty⟩ ⟨[], [], afterRemoval⟩ 1 [removal]
      [⟨first, none⟩] := hreported.move fun broker => .deliver rfl
  have hheard : Arises .empty ⟨.empty, true, second⟩ ⟨[], [], afterRemoval⟩ 1 []
      [⟨first, none⟩] := hdelivered.hear (.notice removal fun _ => false)
    fun broker => .handle _ rfl
  have hread : Arises .empty ⟨.empty, true, second⟩ ⟨[], [], afterRemoval⟩ 1 []
      [⟨first, some []⟩] := hheard.move fun broker => @Step.read _ [] [] _ _ rfl .nil
  have hrebuilt : Arises .empty ⟨ofSnapshot [], true, .empty⟩ ⟨[], [], afterRemoval⟩ 1 []
      [⟨second, none⟩] := hread.hear _ fun broker => @Step.finish _ [] [] _ _ (fun _ => false) rfl
  -- By the time that it reads the targets, the target is back, and is taken out of the graph.
  have hcreated : Arises .empty ⟨ofSnapshot [], true, .empty⟩
      ⟨[coreAgain], [[coreCreated]], afterRemoval⟩ 1 [] [⟨second, none⟩] :=
    hrebuilt.move fun broker => .system (.change hdistinct.2 tells_created)
  have hreread : Arises .empty ⟨ofSnapshot [], true, .empty⟩
      ⟨[coreAgain], [[coreCreated]], afterRemoval⟩ 1 [] [⟨second, some [coreAgain]⟩] :=
    hcreated.move fun broker => @Step.read _ [] [] _ _ rfl (.refl _)
  obtain ⟨graph, hbehind⟩ : ∃ graph, Arises .empty ⟨graph, false, .empty⟩
      ⟨[coreAgain], [[coreCreated]], afterRemoval⟩ 1 [] [] :=
    ⟨_, hreread.hear _ fun broker => @Step.finish _ [] [] _ _ (fun _ => false) rfl⟩
  -- Only the report that it was created brings it back.
  have hrereported : Arises .empty ⟨graph, false, .empty⟩ ⟨[coreAgain], [], afterCreation⟩ 1 []
      [] := hbehind.move fun broker => .system (.announce rfl)
  have hredelivered : Arises .empty ⟨graph, false, .empty⟩ ⟨[coreAgain], [], afterCreation⟩ 2
      [creation] [] := hrereported.move fun broker => .deliver rfl
  have hreheard : Arises .empty ⟨graph, true, .empty⟩ ⟨[coreAgain], [], afterCreation⟩ 2 []
      [⟨third, none⟩] := hredelivered.hear (.notice creation fun _ => false)
    fun broker => .handle _ rfl
  have hlast : Arises .empty ⟨graph, true, .empty⟩ ⟨[coreAgain], [], afterCreation⟩ 2 []
      [⟨third, some [coreAgain]⟩] :=
    hreheard.move fun broker => @Step.read _ [] [] _ _ rfl (.refl _)
  obtain ⟨_, broker, -, hreached⟩ : ∃ last, Arises .empty ⟨last, false, .empty⟩
      ⟨[coreAgain], [], afterCreation⟩ 2 [] [] :=
    ⟨_, hlast.hear _ fun broker => @Step.finish _ [] [] _ _ (fun _ => false) rfl⟩
  have hsettled : Settled ⟨broker, ⟨[coreAgain], [], afterCreation⟩, 2, [], []⟩ := by
    constructor
    case reported => exact fun events hevents => absurd hevents List.not_mem_nil
    case delivered => exact fun events hdue => absurd hdue (EventStream.not_due_of_receive_empty rfl _)
    case handled => exact fun notice hnotice => absurd hnotice List.not_mem_nil
    case fetched => rfl
  obtain ⟨⟨hgraph, htargets⟩, -⟩ := graph_current_when_settled .empty _ hreached hsettled
  exact ⟨_, hreached, hsettled, rfl, hgraph,
    (htargets _ _).mpr ⟨coreAgain, List.mem_singleton_self _, rfl, rfl⟩⟩

end TargetWorld

end SettingsBroker
