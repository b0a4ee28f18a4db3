/-
# Words on targets

What a build system reports of its targets are words: that something happened to a target, or
that everything may have changed.  A word does not say what a target is now.  That is looked
up later, perhaps much later, so that of all words on a target only the last one counts: it
leaves the target as it is when it is looked up, or leaves it out.

Hence two facts on which it rests that nothing is lost.  Where words lead to a target as it is,
so do the last of them.  And the word that everything may have changed makes up for any words
that are lost before it.
-/

import SettingsBroker.Proofs.Broker.TargetWorld

namespace SettingsBroker

open TargetGraph (definitions ofSnapshot DistinctIds)

/-! ## Words on targets -/

/-- That something happened to a target, or that everything may have. -/
inductive TargetWord where
  | on (id : TargetId) (kind : TargetEventKind)
  | all

/-- What a graph has of a target after a word, if it had `held` and the target is looked up as
it is `now`. -/
def TargetWord.leaves (id : TargetId) (now held : Option BuildTarget) :
    TargetWord → Option BuildTarget
  | .on target kind => if target = id then kind.remaining now else held
  | .all => now

/-- What a graph has of a target after words. -/
def outlook (id : TargetId) (now held : Option BuildTarget) (words : List TargetWord) :
    Option BuildTarget :=
  words.foldl (fun held word => word.leaves id now held) held

section Outlook

variable {id : TargetId} {now held : Option BuildTarget} {words later : List TargetWord}

theorem outlook_append : outlook id now held (words ++ later) =
    outlook id now (outlook id now held words) later :=
  List.foldl_append

/-- Words say nothing of a target, or it does not matter any more what the graph had of it. -/
theorem outlook_eq_or (id : TargetId) (now : Option BuildTarget) (words : List TargetWord) :
    (∀ held, outlook id now held words = held) ∨
      ∀ held again, outlook id now held words = outlook id now again words := by
  induction words with
  | nil => exact Or.inl fun held => rfl
  | cons word words ih =>
    obtain hsilent | hsame := ih
    · cases word with
      | on target kind =>
        by_cases htarget : target = id
        · right
          intro held again
          simp [outlook, TargetWord.leaves, htarget]
        · left
          intro held
          have hhead : outlook id now held (.on target kind :: words) =
              outlook id now held words := by
            simp [outlook, TargetWord.leaves, htarget]
          rw [hhead, hsilent]
      | all => exact Or.inr fun held again => rfl
    · exact Or.inr fun held again => hsame _ _

/-- If words lead to the target as it is, the last of them do so from the target as it is. -/
theorem outlook_now_of_append (h : outlook id now held (words ++ later) = now) :
    outlook id now now later = now := by
  obtain hsilent | hsame := outlook_eq_or id now later
  · exact hsilent now
  · rw [outlook_append] at h
    exact (hsame _ _).trans h

/-- True words lead to the target as it is, if there is one on it or the graph has it. -/
theorem outlook_eq_now (true_removed : .on id .removed ∈ words → now = none)
    (h : held = now ∨ ∃ kind, .on id kind ∈ words) : outlook id now held words = now := by
  induction words generalizing held with
  | nil => exact h.resolve_right (by simp)
  | cons word words ih =>
    apply ih fun hmem => true_removed (List.mem_cons_of_mem _ hmem)
    cases word with
    | on target kind =>
      by_cases htarget : target = id
      · subst htarget
        left
        cases kind with
        | removed => simp [TargetWord.leaves, TargetEventKind.remaining, true_removed]
        | created => simp [TargetWord.leaves, TargetEventKind.remaining]
        | changed => simp [TargetWord.leaves, TargetEventKind.remaining]
      · simpa [TargetWord.leaves, htarget, Ne.symm htarget] using h
    | all => exact Or.inl rfl

/-- Words that lead to every target as it is wherever other words do. -/
def Suffices (later words : List TargetWord) : Prop :=
  ∀ id now held, outlook id now held words = now → outlook id now held later = now

theorem Suffices.of_eq (h : later = words) : Suffices later words := by
  intro id now held hnow
  rwa [h]

theorem Suffices.trans {last : List TargetWord} (h : Suffices last later)
    (hlater : Suffices later words) : Suffices last words :=
  fun id now held hnow => h id now held (hlater id now held hnow)

theorem Suffices.prepend (front : List TargetWord) (h : Suffices later words) :
    Suffices (front ++ later) (front ++ words) := by
  intro id now held hnow
  rw [outlook_append] at hnow ⊢
  exact h id now _ hnow

/-- The word that everything may have changed makes up for all that is lost before it. -/
theorem Suffices.of_suffix (front : List TargetWord) (h : later <:+ words) :
    Suffices (front ++ .all :: later) words := by
  intro id now held hnow
  obtain ⟨lost, rfl⟩ := h
  rw [outlook_append]
  exact outlook_now_of_append hnow

end Outlook

/-! ## Words in what is reported, and in what a fetch takes along -/

/-- The word in an event, unless it leaves open which target is meant. -/
def TargetEvent.word? (event : TargetEvent) : Option TargetWord :=
  event.target.map (.on · event.kind)

/-- The words in news. -/
def TargetNews.words : TargetNews → List TargetWord
  | .named events => events.filterMap TargetEvent.word?
  | .everything => [.all]
  | .nothing | .fetched .. => []

/-- The words in what a fetch takes along.  A graph that is built anew takes in the events in
vain. -/
def TargetFetch.words (fetch : TargetFetch) : List TargetWord :=
  fetch.events.filterMap TargetEvent.word? ++ if fetch.rebuild then [.all] else []

theorem TargetEvent.word?_eq_on {event : TargetEvent} {id : TargetId} {kind : TargetEventKind} :
    event.word? = some (.on id kind) ↔ event = ⟨some id, kind⟩ := by
  obtain ⟨target, kind⟩ := event
  simp [word?]

/-- Events that are added to a fetch come before its rebuild, which makes up for them. -/
theorem suffices_named (fetch : TargetFetch) (events : List TargetEvent)
    (rest : List TargetWord) :
    Suffices ((⟨fetch.events ++ events, fetch.rebuild⟩ : TargetFetch).words ++ rest)
      (fetch.words ++ ((TargetNews.named events).words ++ rest)) := by
  obtain ⟨earlier, rebuild⟩ := fetch
  cases rebuild with
  | false =>
    apply Suffices.of_eq
    simp [TargetFetch.words, TargetNews.words]
  | true =>
    have hfront := Suffices.of_suffix ((earlier ++ events).filterMap TargetEvent.word?)
      ((List.suffix_append (TargetNews.named events).words rest).trans
        (List.suffix_append (TargetFetch.words ⟨earlier, true⟩) _))
    rw [TargetFetch.words, List.append_assoc]
    exact hfront

/-- A fetch that ends leaves the graph with what the words that it took along lead to. -/
theorem known_applySnapshot (graph : TargetGraph) (fetch : TargetFetch)
    (snapshot : List BuildTarget) (id : TargetId) :
    (graph.applySnapshot fetch.events snapshot fetch.rebuild).1.known id =
      outlook id ((ofSnapshot snapshot).known id) (graph.known id) fetch.words := by
  obtain ⟨events, rebuild⟩ := fetch
  rw [TargetGraph.applySnapshot_fst, TargetFetch.words, outlook_append]
  cases rebuild with
  | true => rfl
  | false =>
    simp only [Bool.false_eq_true, if_false]
    induction events generalizing graph with
    | nil => rfl
    | cons event events ih =>
      rw [List.foldl_cons, ih, TargetGraph.known_advance]
      obtain ⟨target, kind⟩ := event
      cases target with
      | none => rfl
      | some target =>
        have hleft : Function.update graph.known target
            ((kind.remaining (definitions snapshot)[target]?).map BuildTarget.pruned) id =
            TargetWord.leaves id ((ofSnapshot snapshot).known id) (graph.known id)
              (.on target kind) := by
          rw [Function.update_apply, TargetWord.leaves]
          simp only [eq_comm (a := id)]
          split
          · next htarget =>
            subst htarget
            rw [TargetGraph.known, TargetGraph.getElem?_targets_ofSnapshot]
            cases kind <;> rfl
          · rfl
        rw [Option.elim_some, hleft]
        rfl

/-- What happened to a target is told by a word on it, and words do not say falsely that it was
removed. -/
theorem outlook_of_tells {before after : List BuildTarget} {events : List TargetEvent}
    (tells : Tells events before after) {id : TargetId} {held : Option BuildTarget}
    (h : (ofSnapshot before).known id = (ofSnapshot after).known id →
      held = (ofSnapshot after).known id) :
    outlook id ((ofSnapshot after).known id) held (TargetNews.ofEvents events).words =
      (ofSnapshot after).known id := by
  have hknown : ∀ snapshot, (ofSnapshot snapshot).known id =
      (definitions snapshot)[id]?.map BuildTarget.pruned :=
    fun snapshot => TargetGraph.getElem?_targets_ofSnapshot snapshot id
  unfold TargetNews.ofEvents
  split
  · rfl
  · next hnamed =>
    obtain ⟨hchanges, hremoved⟩ := tells.resolve_left (by simpa using hnamed)
    have hword : ∀ kind, .on id kind ∈ (TargetNews.named events).words ↔
        ⟨some id, kind⟩ ∈ events := by
      intro kind
      simp [TargetNews.words, TargetEvent.word?_eq_on]
    apply outlook_eq_now
    · intro hmem
      rw [hknown, hremoved id ((hword _).mp hmem), Option.map_none]
    · cases hbetween : TargetEventKind.between (definitions before)[id]? (definitions after)[id]? with
      | none =>
        left
        apply h
        rw [hknown, hknown, TargetEventKind.eq_of_between hbetween]
      | some kind => exact Or.inr ⟨kind, (hword kind).mpr (hchanges id kind hbetween)⟩

/-! ## Words on their way -/

/-- The words in what a stream has for a reader. -/
def unheard (stream : EventStream BuildEvent) (position : Nat) : List TargetWord :=
  (if position < stream.dropped then [.all] else []) ++
    (stream.unseen position).flatMap (·.news.words)

/-- Sending an event adds its words, or the reader falls behind and is told so. -/
theorem suffices_send {stream : EventStream BuildEvent} {position : Nat}
    (h : stream.FollowedAt position) (event : BuildEvent) (rest : List TargetWord) :
    Suffices (unheard (stream.send event) position ++ rest)
      (unheard stream position ++ (event.news.words ++ rest)) := by
  by_cases hbehind : position < (stream.send event).dropped
  · obtain ⟨lost, hlost⟩ := EventStream.unseen_send_suffix h event
    have hwords : (stream.unseen position).flatMap (·.news.words) ++ event.news.words =
        lost.flatMap (·.news.words) ++
          ((stream.send event).unseen position).flatMap (·.news.words) := by
      rw [← List.flatMap_append, hlost, List.flatMap_append, List.flatMap_singleton]
    rw [unheard, if_pos hbehind, List.singleton_append]
    apply Suffices.of_suffix []
    rw [unheard, List.append_assoc, ← List.append_assoc _ event.news.words, hwords,
      List.append_assoc, ← List.append_assoc]
    exact List.suffix_append _ _
  · have hbefore : ¬ position < stream.dropped := by
      have hdropped := EventStream.send_dropped event h.opened h.kept_le
      omega
    apply Suffices.of_eq
    rw [unheard, unheard, if_neg hbehind, if_neg hbefore,
      EventStream.unseen_send h (Nat.le_of_not_lt hbehind)]
    simp

theorem unheard_of_receive_event {stream : EventStream BuildEvent} {position next : Nat}
    {event : BuildEvent} (h : stream.receive position = (.event event, next)) :
    unheard stream position = event.news.words ++ unheard stream next := by
  obtain ⟨hunseen, hreached, rfl, -⟩ := EventStream.unseen_of_receive_event h
  rw [unheard, unheard, if_neg (by omega), if_neg (by omega), hunseen]
  rfl

theorem unheard_of_receive_lagged {stream : EventStream BuildEvent} {position next missed : Nat}
    (h : stream.receive position = (.lagged missed, next)) :
    unheard stream position = .all :: unheard stream next := by
  obtain ⟨hbehind, rfl⟩ := EventStream.position_of_receive_lagged h
  have hsame : stream.unseen position = stream.unseen stream.dropped := by
    rw [EventStream.unseen, EventStream.unseen, Nat.sub_self,
      Nat.sub_eq_zero_of_le (Nat.le_of_lt hbehind)]
  rw [unheard, unheard, if_pos hbehind, if_neg (Nat.lt_irrefl _), hsame]
  rfl

namespace TargetSystem

variable {s next : TargetSystem} {position : Nat}

/-- What a graph should have of a target. -/
def now (s : TargetSystem) (id : TargetId) : Option BuildTarget :=
  (ofSnapshot s.current).known id

/-- The words that a reader has still to hear. -/
def coming (s : TargetSystem) (position : Nat) : List TargetWord :=
  unheard s.stream position ++ s.owed.flatMap fun events => (TargetNews.ofEvents events).words

theorem Step.followed (step : Step s next) (h : s.stream.FollowedAt position) :
    next.stream.FollowedAt position := by
  cases step with
  | announce => exact h.send _
  | report => exact h.send _
  | _ => exact h

theorem Step.distinct (step : Step s next) (h : DistinctIds s.current) :
    DistinctIds next.current := by
  cases step with
  | change distinct => exact distinct
  | _ => exact h

/-- Whatever the build system does, the words that are on their way still lead to each target
as it is. -/
theorem Step.settles (step : Step s next) (followed : s.stream.FollowedAt position)
    (words : List TargetWord) {id : TargetId} {held again : Option BuildTarget}
    (same : s.now id = next.now id → again = held)
    (h : outlook id (s.now id) held (words ++ s.coming position) = s.now id) :
    outlook id (next.now id) again (words ++ next.coming position) = next.now id := by
  cases step with
  | @change next events distinct tells =>
    have hcoming : words ++ TargetSystem.coming
        { s with current := next, owed := s.owed ++ [events] } position =
        (words ++ s.coming position) ++ (TargetNews.ofEvents events).words := by
      simp [coming]
    rw [hcoming, outlook_append]
    apply outlook_of_tells tells
    intro hkept
    rw [same hkept]
    rwa [now, hkept] at h
  | @lapse rest owed =>
    obtain rfl := same rfl
    have hcoming : s.coming position = coming { s with owed := rest } position := by
      simp [coming, owed, TargetNews.ofEvents, TargetNews.words]
    rwa [hcoming] at h
  | @announce events rest owed =>
    obtain rfl := same rfl
    apply (suffices_send followed (.targetsChanged events) _).prepend words
    rw [coming, owed, List.flatMap_cons] at h
    exact h
  | @report event other =>
    obtain rfl := same rfl
    apply (suffices_send followed event _).prepend words
    refine Suffices.prepend words ?_ id _ _ h
    obtain hnothing | heverything := other
    · rw [hnothing]
      exact .of_eq rfl
    · rw [heverything]
      exact .of_suffix _ (List.suffix_append _ _)

/-- A broker that begins to listen to a build system has only to hear what is still owed, and
that leads to each target as it is. -/
theorem Reachable.sound (reached : s.Reachable) :
    DistinctIds s.current ∧ s.stream.FollowedAt s.stream.sent ∧
      ∀ id, outlook id (s.now id) (s.now id) (s.coming s.stream.sent) = s.now id := by
  obtain ⟨targets, capacity, distinct, hsteps⟩ := reached
  have hinvariant : DistinctIds s.current ∧ s.stream.FollowedAt 0 ∧
      ∀ id, outlook id (s.now id) (s.now id) (s.coming 0) = s.now id := by
    induction hsteps with
    | refl =>
      refine ⟨distinct, ⟨rfl, Nat.le_refl 0, Nat.le_refl 0⟩, fun id => ?_⟩
      simp [coming, unheard, EventStream.unseen, EventStream.dropped, EventStream.empty, outlook]
    | tail _ hstep ih =>
      obtain ⟨hdistinct, hfollowed, hsettles⟩ := ih
      refine ⟨hstep.distinct hdistinct, hstep.followed hfollowed, fun id => ?_⟩
      exact hstep.settles hfollowed [] Eq.symm (hsettles id)
  obtain ⟨hdistinct, ⟨hopened, hkept, -⟩, hsettles⟩ := hinvariant
  refine ⟨hdistinct, ⟨hopened, hkept, Nat.le_refl _⟩, fun id => ?_⟩
  have hheard : unheard s.stream s.stream.sent = [] := by
    have hreached : ¬ s.stream.sent < s.stream.dropped := by
      simp only [EventStream.dropped]
      omega
    have hnone : s.stream.kept.length ≤ s.stream.sent - s.stream.dropped := by
      simp only [EventStream.dropped]
      omega
    rw [unheard, if_neg hreached, EventStream.unseen, List.drop_eq_nil_of_le hnone]
    rfl
  rw [coming, hheard]
  exact outlook_now_of_append (hsettles id)

end TargetSystem

end SettingsBroker
