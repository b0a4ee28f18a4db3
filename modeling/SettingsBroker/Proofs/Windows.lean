/-
# Windows of a coalescer

A coalescer is watched on a clock.  Reports come at any time until it is closed, each batch
takes any time to be delivered, and where the end of a window and a report coincide either may
come first.  Time passes only when nothing else can happen, and not beyond the moment when
something happens next.

What is shown is that the reports fall into windows one after the other (`FitInTurn`).  A window
opens when its first report has come and the window before is over; it is flushed when its
length has passed, or when the coalescer is closed and no report is left, whichever is first;
and it is over when its batch is delivered, or at once if the batch says nothing.

While a coalescer works, all of this holds of the windows that were flushed.  The reports that
it has collected and those that wait still belong to no window, and the phase tells how the next
window will come about (`Poised`).
-/

import Mathlib.Data.List.Induction
import Mathlib.Logic.Relation
import SettingsBroker.Coalescer
import SettingsBroker.Proofs.ChangeBatch

namespace SettingsBroker

namespace Coalescer

/-! ## What a coalescer does by itself -/

/-- What can happen at a time. -/
inductive Acts (c : Coalescer) (now : Nat) (sink : Sink) :
    Coalescer → Option ChangeBatch → Prop where
  | /-- A report opens a window. -/
    opens {first : ChangeReport} {rest : List ChangeReport} (idle : c.phase = .idle)
      (waiting : c.waiting = first :: rest) :
      Acts c now sink { c with
        waiting := rest
        phase := .collecting (now + c.window) (ChangeBatch.empty.absorb first) } none
  | /-- There is nothing left to do. -/
    ends (idle : c.phase = .idle) (nothing : c.waiting = []) (closed : c.closed = true) :
      Acts c now sink { c with phase := .ended } none
  | /-- A report is collected. -/
    collects {deadline : Nat} {batch : ChangeBatch} {next : ChangeReport}
      {rest : List ChangeReport} (collecting : c.phase = .collecting deadline batch)
      (waiting : c.waiting = next :: rest) :
      Acts c now sink
        { c with waiting := rest, phase := .collecting deadline (batch.absorb next) } none
  | /-- The window ends, in time or because no more will come. -/
    flushes {deadline : Nat} {batch : ChangeBatch}
      (collecting : c.phase = .collecting deadline batch)
      (due : deadline ≤ now ∨ c.waiting = [] ∧ c.closed = true) :
      Acts c now sink (c.flush now sink batch).1 (c.flush now sink batch).2
  | /-- The batch is delivered. -/
    delivers {finish : Nat} (delivering : c.phase = .delivering finish) (due : finish ≤ now) :
      Acts c now sink { c with phase := .idle } none

variable {c next : Coalescer} {now : Nat} {reportFirst : Bool} {sink : Sink}

theorem acts_of_step? {batch : Option ChangeBatch}
    (h : c.step? now reportFirst sink = some (next, batch)) : c.Acts now sink next batch := by
  rw [step?] at h
  split at h
  · next idle =>
    split at h
    · next waiting =>
      cases h
      exact .opens idle waiting
    · next nothing =>
      split at h
      · next closed =>
        cases h
        exact .ends idle nothing closed
      · cases h
  · next collecting =>
    split at h
    · next due =>
      rw [← (Prod.mk.inj (Option.some.inj h)).1, ← (Prod.mk.inj (Option.some.inj h)).2]
      exact .flushes collecting (.inl due.1)
    · split at h
      · next waiting =>
        cases h
        exact .collects collecting waiting
      · next nothing =>
        split at h
        · next closed =>
          rw [← (Prod.mk.inj (Option.some.inj h)).1, ← (Prod.mk.inj (Option.some.inj h)).2]
          exact .flushes collecting (.inr ⟨nothing, closed⟩)
        · cases h
  · next delivering =>
    split at h
    · next due =>
      cases h
      exact .delivers delivering due
    · cases h
  · cases h

/-- Only from outside a coalescer is closed. -/
theorem Acts.closed {batch : Option ChangeBatch} (h : c.Acts now sink next batch) :
    next.closed = c.closed := by
  cases h with
  | opens => rfl
  | ends => rfl
  | collects => rfl
  | delivers => rfl
  | flushes =>
    rw [flush]
    split <;> rfl

/-- Nothing can happen at a time. -/
def Still (c : Coalescer) (now : Nat) : Prop :=
  ∀ reportFirst sink, c.step? now reportFirst sink = none

namespace Still

theorem idle (h : c.Still now) (idle : c.phase = .idle) : c.waiting = [] ∧ c.closed = false := by
  have hstep := h false fun _ => 0
  simp only [step?, idle] at hstep
  split at hstep
  · cases hstep
  · next nothing => exact ⟨nothing, by simpa using hstep⟩

theorem collecting {deadline : Nat} {batch : ChangeBatch} (h : c.Still now)
    (collecting : c.phase = .collecting deadline batch) :
    c.waiting = [] ∧ c.closed = false ∧ now < deadline := by
  have hstep := h false fun _ => 0
  simp only [step?, collecting] at hstep
  split at hstep
  · cases hstep
  · next early =>
    split at hstep
    · cases hstep
    · next nothing => exact ⟨nothing, by simpa using hstep, by simpa using early⟩

theorem delivering {finish : Nat} (h : c.Still now) (delivering : c.phase = .delivering finish) :
    now < finish := by
  have hstep := h false fun _ => 0
  simpa [step?, delivering] using hstep

end Still

/-! ## A coalescer on a clock -/

/-- A report and when it came. -/
structure Arrival where
  time : Nat
  report : ChangeReport
  deriving DecidableEq

/-- A batch on its way. -/
structure Delivery where
  /-- When it was handed over. -/
  start : Nat
  batch : ChangeBatch
  /-- When it is delivered. -/
  finish : Nat
  deriving DecidableEq

/-- A coalescer with what has happened to it. -/
structure Watch where
  now : Nat
  coalescer : Coalescer
  /-- The reports that were given to it, in order. -/
  given : List Arrival
  closing : Option Nat
  /-- The batches that it has handed over, in order. -/
  delivered : List Delivery

namespace Watch

/-- A coalescer that starts at time zero. -/
def start (window : Nat) : Watch := ⟨0, .start window, [], none, []⟩

/-- What can happen next. -/
inductive Step : Watch → Watch → Prop where
  | /-- A report comes. -/
    push {w : Watch} (report : ChangeReport) (opened : w.closing = none) :
      Step w { w with
        coalescer := w.coalescer.push report
        given := w.given ++ [⟨w.now, report⟩] }
  | /-- The coalescer is closed. -/
    close {w : Watch} (opened : w.closing = none) :
      Step w { w with coalescer := w.coalescer.close, closing := some w.now }
  | /-- The coalescer does something, and if it hands over a batch then the sink takes its
    time. -/
    act {w : Watch} {next : Coalescer} {batch : Option ChangeBatch} (reportFirst : Bool)
      (sink : Sink) (acts : w.coalescer.step? w.now reportFirst sink = some (next, batch)) :
      Step w { w with
        coalescer := next
        delivered := w.delivered ++
          batch.toList.map fun batch => ⟨w.now, batch, w.now + sink batch⟩ }
  | /-- Time passes. -/
    pass {w : Watch} {later : Nat} (forward : w.now < later) (still : w.coalescer.Still w.now)
      (timely : ∀ time, w.coalescer.timer? = some time → later ≤ time) :
      Step w { w with now := later }

/-- One state of the watch leads to another by steps. -/
abbrev Leads : Watch → Watch → Prop := Relation.ReflTransGen Step

end Watch

/-! ## Windows -/

/-- When a window ends: when its length has passed, or when the coalescer is closed, if that is
earlier. -/
def windowEnd (length : Nat) (closing : Option Nat) (opened : Nat) : Nat :=
  match closing with
  | none => opened + length
  | some closing => min (opened + length) (max opened closing)

/-- A window with its reports. -/
structure Window where
  opened : Nat
  /-- The report that opened it. -/
  first : Arrival
  /-- The reports collected after that. -/
  more : List Arrival
  flushed : Nat
  /-- When its batch was delivered. -/
  ended : Nat

namespace Window

def reports (window : Window) : List Arrival := window.first :: window.more

def batch (window : Window) : ChangeBatch :=
  ChangeBatch.ofReports (window.reports.map (·.report))

/-- The delivery of the batch, unless it says nothing. -/
def delivery? (window : Window) : Option Delivery :=
  if window.batch.isEmpty then none else some ⟨window.flushed, window.batch, window.ended⟩

theorem delivery?_eq_some (window : Window) {delivery : Delivery}
    (h : window.delivery? = some delivery) :
    delivery.start = window.flushed ∧ delivery.finish = window.ended := by
  rw [delivery?] at h
  split at h
  · cases h
  · cases h
    exact ⟨rfl, rfl⟩

/-- A window is as it should be, with the time when the one before was over and the reports that
are left to later ones. -/
structure Fits (length : Nat) (closing : Option Nat) (before : Nat) (window : Window)
    (later : List Arrival) : Prop where
  /-- It opens when its first report has come and the window before is over. -/
  opened : window.opened = max window.first.time before
  /-- It is flushed when it ends. -/
  flushed : window.flushed = windowEnd length closing window.opened
  /-- It is cut short only if no reports are left. -/
  drained : window.flushed < window.opened + length → later = []
  /-- Its reports came in time. -/
  own : ∀ arrival ∈ window.reports, arrival.time ≤ window.flushed
  /-- Later reports came when it was flushed or afterwards. -/
  left : 0 < length → ∀ arrival ∈ later, window.flushed ≤ arrival.time
  /-- Its batch is delivered after it was flushed. -/
  ends : window.flushed ≤ window.ended
  /-- A batch that says nothing takes no time. -/
  skipped : window.batch.isEmpty = true → window.ended = window.flushed

end Window

/-- Each window is as it should be after the one before; `rest` is what is left by the last
one. -/
def FitInTurn (length : Nat) (closing : Option Nat) (rest : List Arrival) :
    Nat → List Window → Prop
  | _, [] => True
  | before, window :: later =>
    window.Fits length closing before (later.flatMap (·.reports) ++ rest) ∧
      FitInTurn length closing rest window.ended later

/-- When the last window was over. -/
def lastEnded : Nat → List Window → Nat
  | before, [] => before
  | _, window :: later => lastEnded window.ended later

variable {length before : Nat} {closing : Option Nat} {rest later : List Arrival}
  {window : Window} {windows : List Window}

theorem lastEnded_concat (before : Nat) (windows : List Window) (window : Window) :
    lastEnded before (windows ++ [window]) = window.ended := by
  induction windows generalizing before with
  | nil => rfl
  | cons first windows ih => exact ih first.ended

namespace Window.Fits

theorem before_le (h : window.Fits length closing before later) : before ≤ window.flushed := by
  have hopened := h.opened
  have hflushed := h.flushed
  cases closing <;> simp only [windowEnd] at hflushed <;> omega

/-- While a coalescer is open, a report that comes is left to later windows. -/
theorem push (h : window.Fits length none before later) {arrival : Arrival}
    (past : window.flushed ≤ arrival.time) :
    window.Fits length none before (later ++ [arrival]) := by
  refine ⟨h.opened, h.flushed, fun hcut => ?_, h.own, fun hlength => ?_, h.ends, h.skipped⟩
  · have hflushed : window.flushed = window.opened + length := h.flushed
    omega
  · intro other hother
    obtain hbefore | hself := List.mem_append.mp hother
    · exact h.left hlength other hbefore
    · rwa [List.mem_singleton.mp hself]

/-- Closing does not reach back. -/
theorem close (h : window.Fits length none before later) {closing : Nat}
    (past : window.flushed ≤ closing) : window.Fits length (some closing) before later := by
  refine ⟨h.opened, ?_, h.drained, h.own, h.left, h.ends, h.skipped⟩
  have hflushed : window.flushed = window.opened + length := h.flushed
  simp only [windowEnd]
  omega

end Window.Fits

namespace FitInTurn

theorem push (h : FitInTurn length none rest before windows) {arrival : Arrival}
    (past : ∀ window ∈ windows, window.flushed ≤ arrival.time) :
    FitInTurn length none (rest ++ [arrival]) before windows := by
  induction windows generalizing before with
  | nil => trivial
  | cons window later ih =>
    obtain ⟨hpast, hlater⟩ := List.forall_mem_cons.mp past
    refine ⟨?_, ih h.2 hlater⟩
    rw [← List.append_assoc]
    exact h.1.push hpast

theorem close (h : FitInTurn length none rest before windows) {closing : Nat}
    (past : ∀ window ∈ windows, window.flushed ≤ closing) :
    FitInTurn length (some closing) rest before windows := by
  induction windows generalizing before with
  | nil => trivial
  | cons window later ih =>
    obtain ⟨hpast, hlater⟩ := List.forall_mem_cons.mp past
    exact ⟨h.1.close hpast, ih h.2 hlater⟩

/-- A window takes its reports from what was left. -/
theorem concat (h : FitInTurn length closing (window.reports ++ rest) before windows)
    (fits : window.Fits length closing (lastEnded before windows) rest) :
    FitInTurn length closing rest before (windows ++ [window]) := by
  induction windows generalizing before with
  | nil => exact ⟨fits, trivial⟩
  | cons first later ih =>
    have hleft : (later ++ [window]).flatMap (·.reports) ++ rest =
        later.flatMap (·.reports) ++ (window.reports ++ rest) := by simp
    have hfirst : first.Fits length closing before
        ((later ++ [window]).flatMap (·.reports) ++ rest) := hleft ▸ h.1
    exact ⟨hfirst, ih h.2 fits⟩

theorem before_le (h : FitInTurn length closing rest before windows) :
    ∀ window ∈ windows, before ≤ window.flushed := by
  induction windows generalizing before with
  | nil => exact List.forall_mem_nil _
  | cons window later ih =>
    refine List.forall_mem_cons.mpr ⟨h.1.before_le, fun other hother => ?_⟩
    exact Nat.le_trans (Nat.le_trans h.1.before_le h.1.ends) (ih h.2 other hother)

/-- A window is flushed only when the ones before are over. -/
theorem pairwise (h : FitInTurn length closing rest before windows) :
    windows.Pairwise fun window later => window.ended ≤ later.flushed := by
  induction windows generalizing before with
  | nil => exact .nil
  | cons window later ih => exact .cons h.2.before_le (ih h.2)

theorem before_le_lastEnded (h : FitInTurn length closing rest before windows) :
    before ≤ lastEnded before windows := by
  induction windows generalizing before with
  | nil => exact Nat.le_refl before
  | cons window later ih => exact Nat.le_trans (Nat.le_trans h.1.before_le h.1.ends) (ih h.2)

theorem ended_le_lastEnded (h : FitInTurn length closing rest before windows) :
    ∀ window ∈ windows, window.ended ≤ lastEnded before windows := by
  induction windows generalizing before with
  | nil => exact List.forall_mem_nil _
  | cons window later ih =>
    exact List.forall_mem_cons.mpr ⟨h.2.before_le_lastEnded, ih h.2⟩

end FitInTurn

/-! ## What holds while a coalescer works -/

namespace Watch

/-- How the phase goes with the time, after windows the last of which is over at `before`, while
some reports are collected and some wait. -/
inductive Poised (length : Nat) (w : Watch) (before : Nat) :
    List Arrival → List Arrival → Prop where
  | /-- If a report waits, then a window can open just now. -/
    idle {waiting : List Arrival} (phase : w.coalescer.phase = .idle) (past : before ≤ w.now)
      (next : ∀ first ∈ waiting.head?, w.now = max first.time before) :
      Poised length w before [] waiting
  | /-- A window is open.  What waits has come just now, and if the coalescer is closed then the
    window can end just now, unless the window has opened just now. -/
    collecting {opened : Nat} {first : Arrival} {more waiting : List Arrival}
      (phase : w.coalescer.phase = .collecting (opened + length)
        (ChangeBatch.ofReports ((first :: more).map (·.report))))
      (opens : opened = max first.time before) (past : opened ≤ w.now)
      (timely : w.now ≤ opened + length)
      (fresh : opened < w.now → ∀ arrival ∈ waiting, arrival.time = w.now)
      (cut : ∀ closing ∈ w.closing, w.now = max opened closing) :
      Poised length w before (first :: more) waiting
  | /-- The batch of the last window is on its way. -/
    delivering {waiting : List Arrival} (phase : w.coalescer.phase = .delivering before)
      (timely : w.now ≤ before) : Poised length w before [] waiting
  | /-- Everything was delivered after closing. -/
    ended (phase : w.coalescer.phase = .ended) (closed : w.closing ≠ none)
      (past : before ≤ w.now) : Poised length w before [] []

/-- The windows that were flushed, the reports that are collected and those that wait account
for everything. -/
structure Accounted (length : Nat) (w : Watch) (windows : List Window)
    (current queue : List Arrival) : Prop where
  /-- The length of a window never changes. -/
  constant : w.coalescer.window = length
  /-- What waits is what the coalescer has still to look at. -/
  waiting : queue.map (·.report) = w.coalescer.waiting
  /-- No report is lost, doubled or moved. -/
  given : windows.flatMap (·.reports) ++ (current ++ queue) = w.given
  /-- Reports have come before now. -/
  come : ∀ arrival ∈ w.given, arrival.time ≤ w.now
  /-- The coalescer knows whether it is closed. -/
  closed : w.coalescer.closed = w.closing.isSome
  /-- It was closed before now. -/
  closing : ∀ closing ∈ w.closing, closing ≤ w.now
  /-- The windows are as they should be. -/
  fits : FitInTurn length w.closing (current ++ queue) 0 windows
  /-- They were flushed before now. -/
  flushed : ∀ window ∈ windows, window.flushed ≤ w.now
  /-- What was handed over are their batches. -/
  delivered : w.delivered = windows.filterMap (·.delivery?)
  /-- The phase fits the time. -/
  poised : w.Poised length (lastEnded 0 windows) current queue

namespace Accounted

variable {w : Watch} {current queue : List Arrival}

theorem start (length : Nat) : Accounted length (start length) [] [] [] where
  constant := rfl
  waiting := rfl
  given := rfl
  come := List.forall_mem_nil _
  closed := rfl
  closing := fun _ h => nomatch h
  fits := trivial
  flushed := List.forall_mem_nil _
  delivered := rfl
  poised := .idle rfl (Nat.le_refl 0) fun _ h => nomatch h

/-- What waits has come before now. -/
theorem waiting_come (h : w.Accounted length windows current queue) :
    ∀ arrival ∈ queue, arrival.time ≤ w.now := by
  intro arrival hmem
  apply h.come
  rw [← h.given]
  exact List.mem_append_right _ (List.mem_append_right _ hmem)

theorem push (h : w.Accounted length windows current queue) (opened : w.closing = none)
    (report : ChangeReport) :
    Accounted length
      { w with
        coalescer := w.coalescer.push report
        given := w.given ++ [⟨w.now, report⟩] }
      windows current (queue ++ [⟨w.now, report⟩]) := by
  have hclosed : w.coalescer.closed = false := by
    rw [h.closed, opened]
    rfl
  have hpush : w.coalescer.push report =
      { w.coalescer with waiting := w.coalescer.waiting ++ [report] } :=
    if_neg (Bool.not_eq_true _ ▸ hclosed)
  rw [hpush]
  constructor
  · exact h.constant
  · rw [List.map_append, h.waiting]
    rfl
  · rw [← h.given]
    simp only [List.append_assoc]
  · intro arrival hmem
    obtain hbefore | hself := List.mem_append.mp hmem
    · exact h.come arrival hbefore
    · exact Nat.le_of_eq (congrArg Arrival.time (List.mem_singleton.mp hself))
  · exact h.closed
  · exact h.closing
  · have hfits := h.fits
    rw [opened] at hfits
    rw [opened, ← List.append_assoc]
    exact hfits.push h.flushed
  · exact h.flushed
  · exact h.delivered
  · cases h.poised with
    | idle phase past next =>
      refine .idle phase past fun first hfirst => ?_
      cases queue with
      | nil =>
        obtain rfl : ⟨w.now, report⟩ = first := Option.some.inj hfirst
        exact (Nat.max_eq_left past).symm
      | cons earliest rest => exact next first hfirst
    | collecting phase opens past timely fresh cut =>
      refine .collecting phase opens past timely (fun hlate arrival hmem => ?_) cut
      obtain hbefore | hself := List.mem_append.mp hmem
      · exact fresh hlate arrival hbefore
      · rw [List.mem_singleton.mp hself]
    | delivering phase timely => exact .delivering phase timely
    | ended phase closed past => exact absurd opened closed

theorem close (h : w.Accounted length windows current queue) (opened : w.closing = none) :
    Accounted length { w with coalescer := w.coalescer.close, closing := some w.now }
      windows current queue := by
  constructor
  · exact h.constant
  · exact h.waiting
  · exact h.given
  · exact h.come
  · rfl
  · intro closing hclosing
    exact Nat.le_of_eq (Option.some.inj hclosing).symm
  · have hfits := h.fits
    rw [opened] at hfits
    exact hfits.close h.flushed
  · exact h.flushed
  · exact h.delivered
  · cases h.poised with
    | idle phase past next => exact .idle phase past next
    | collecting phase opens past timely fresh cut =>
      refine .collecting phase opens past timely fresh fun closing hclosing => ?_
      rw [← Option.some.inj hclosing]
      exact (Nat.max_eq_right past).symm
    | delivering phase timely => exact .delivering phase timely
    | ended phase closed past => exact .ended phase (Option.some_ne_none _) past

theorem pass (h : w.Accounted length windows current queue) {later : Nat}
    (forward : w.now < later) (still : w.coalescer.Still w.now)
    (timely : ∀ time, w.coalescer.timer? = some time → later ≤ time) :
    Accounted length { w with now := later } windows current queue := by
  have hforward := Nat.le_of_lt forward
  constructor
  · exact h.constant
  · exact h.waiting
  · exact h.given
  · exact fun arrival hmem => Nat.le_trans (h.come arrival hmem) hforward
  · exact h.closed
  · exact fun closing hclosing => Nat.le_trans (h.closing closing hclosing) hforward
  · exact h.fits
  · exact fun window hmem => Nat.le_trans (h.flushed window hmem) hforward
  · exact h.delivered
  · cases h.poised with
    | idle phase past next =>
      have hnothing : queue = [] := by
        have hwaiting := h.waiting
        rwa [(still.idle phase).1, List.map_eq_nil_iff] at hwaiting
      subst hnothing
      exact .idle phase (Nat.le_trans past hforward) fun _ hfirst => nomatch hfirst
    | collecting phase opens past htimely fresh cut =>
      obtain ⟨hnothing, hopen, hearly⟩ := still.collecting phase
      have hwaiting := h.waiting
      rw [hnothing, List.map_eq_nil_iff] at hwaiting
      subst hwaiting
      have hdeadline := timely _ (by rw [timer?, phase])
      refine .collecting phase opens (Nat.le_trans past hforward) hdeadline
        (fun _ => List.forall_mem_nil _) fun closing hclosing => ?_
      have hclosed := h.closed
      rw [hopen, Option.mem_def.mp hclosing] at hclosed
      cases hclosed
    | delivering phase htimely => exact .delivering phase (timely _ (by rw [timer?, phase]))
    | ended phase closed past => exact .ended phase closed (Nat.le_trans past hforward)

/-- A report opens a window. -/
theorem opens (h : w.Accounted length windows current queue) {first : ChangeReport}
    {rest : List ChangeReport} (idle : w.coalescer.phase = .idle)
    (hwaiting : w.coalescer.waiting = first :: rest) :
    ∃ arrival later, Accounted length
      { w with coalescer := { w.coalescer with
          waiting := rest
          phase := .collecting (w.now + w.coalescer.window) (ChangeBatch.empty.absorb first) } }
      windows [arrival] later := by
  have hsplit := h.waiting
  rw [hwaiting] at hsplit
  obtain ⟨arrival, later, rfl, rfl, rfl⟩ := List.map_eq_cons_iff.mp hsplit
  have hpoised := h.poised
  cases hpoised with
  | idle phase past next =>
    refine ⟨arrival, later, h.constant, rfl, h.given, h.come, h.closed, h.closing, h.fits,
      h.flushed, h.delivered, ?_⟩
    refine .collecting ?_ (next arrival rfl) (Nat.le_refl w.now) (Nat.le_add_right _ _)
      (fun hlate => absurd hlate (Nat.lt_irrefl _)) ?_
    · rw [h.constant]
      rfl
    · exact fun closing hclosing => (Nat.max_eq_left (h.closing closing hclosing)).symm
  | collecting phase => cases idle.symm.trans phase
  | delivering phase => cases idle.symm.trans phase

/-- A report is collected. -/
theorem collects (h : w.Accounted length windows current queue) {deadline : Nat}
    {batch : ChangeBatch} {next : ChangeReport} {rest : List ChangeReport}
    (collecting : w.coalescer.phase = .collecting deadline batch)
    (hwaiting : w.coalescer.waiting = next :: rest) :
    ∃ collected later, Accounted length
      { w with coalescer := { w.coalescer with
          waiting := rest
          phase := .collecting deadline (batch.absorb next) } }
      windows collected later := by
  have hsplit := h.waiting
  rw [hwaiting] at hsplit
  obtain ⟨arrival, later, rfl, rfl, rfl⟩ := List.map_eq_cons_iff.mp hsplit
  cases h.poised with
  | idle phase => cases collecting.symm.trans phase
  | delivering phase => cases collecting.symm.trans phase
  | @collecting opened first more queue phase opens past timely fresh cut =>
    obtain ⟨rfl, rfl⟩ := CoalescerPhase.collecting.inj (collecting.symm.trans phase)
    have hmoved : first :: (more ++ [arrival]) ++ later = first :: more ++ arrival :: later := by
      simp
    refine ⟨first :: (more ++ [arrival]), later, h.constant, rfl, ?_, h.come, h.closed, h.closing,
      ?_, h.flushed, h.delivered, ?_⟩
    · rw [hmoved]
      exact h.given
    · rw [hmoved]
      exact h.fits
    · refine .collecting ?_ opens past timely
        (fun hlate other hother => fresh hlate other (List.mem_cons_of_mem _ hother)) cut
      rw [← List.cons_append, List.map_append, List.map_singleton, ChangeBatch.ofReports_concat]

/-- The reports that were collected make a window as it should be when they are flushed. -/
theorem fits_flushed {opened ended : Nat} {first : Arrival} {more : List Arrival}
    (h : w.Accounted length windows (first :: more) queue)
    (phase : w.coalescer.phase = .collecting (opened + length)
      (ChangeBatch.ofReports ((first :: more).map (·.report))))
    (due : opened + length ≤ w.now ∨ w.coalescer.waiting = [] ∧ w.coalescer.closed = true)
    (after : w.now ≤ ended)
    (skipped : (ChangeBatch.ofReports ((first :: more).map (·.report))).isEmpty = true →
      ended = w.now) :
    Window.Fits length w.closing (lastEnded 0 windows) ⟨opened, first, more, w.now, ended⟩
      queue := by
  cases h.poised with
  | @collecting other _ _ _ hphase opens past timely fresh cut =>
    obtain ⟨hdeadline, -⟩ := CoalescerPhase.collecting.inj (phase.symm.trans hphase)
    obtain rfl : opened = other := by omega
    have hnothing : w.coalescer.waiting = [] → queue = [] := fun hnone =>
      List.map_eq_nil_iff.mp (h.waiting.trans hnone)
    refine ⟨opens, ?_, fun hearly => ?_, fun arrival hmem => ?_, fun hlength arrival hmem => ?_,
      after, skipped⟩
    · show w.now = windowEnd length w.closing opened
      have hclosed := h.closed
      cases hclosing : w.closing with
      | none =>
        rw [hclosing, Option.isSome_none] at hclosed
        simp only [hclosed, Bool.false_eq_true, and_false, or_false] at due
        exact Nat.le_antisymm timely due
      | some closing =>
        have hnow := cut closing hclosing
        simp only [windowEnd]
        omega
    · have hearly : w.now < opened + length := hearly
      exact hnothing (due.resolve_left (Nat.not_le_of_lt hearly)).1
    · apply h.come
      rw [← h.given]
      exact List.mem_append_right _ (List.mem_append_left _ hmem)
    · obtain hdeadline | hdrained := due
      · exact Nat.le_of_eq (fresh (by omega) arrival hmem).symm
      · rw [hnothing hdrained.1] at hmem
        cases hmem

/-- The window that is flushed takes over what was collected. -/
theorem cut {opened ended : Nat} {first : Arrival} {more : List Arrival} {phase : CoalescerPhase}
    {handed : List Delivery} (h : w.Accounted length windows (first :: more) queue)
    (fits : Window.Fits length w.closing (lastEnded 0 windows) ⟨opened, first, more, w.now, ended⟩
      queue)
    (handed_eq : handed = (Window.mk opened first more w.now ended).delivery?.toList)
    (poised : Poised length
      { w with coalescer := { w.coalescer with phase }, delivered := w.delivered ++ handed }
      ended [] queue) :
    Accounted length
      { w with coalescer := { w.coalescer with phase }, delivered := w.delivered ++ handed }
      (windows ++ [⟨opened, first, more, w.now, ended⟩]) [] queue := by
  constructor
  · exact h.constant
  · exact h.waiting
  · rw [← h.given]
    simp [Window.reports]
  · exact h.come
  · exact h.closed
  · exact h.closing
  · exact h.fits.concat fits
  · exact List.forall_mem_append.mpr ⟨h.flushed, List.forall_mem_singleton.mpr (Nat.le_refl _)⟩
  · rw [handed_eq, h.delivered, List.filterMap_append]
    cases hdelivery : (Window.mk opened first more w.now ended).delivery? <;> simp [hdelivery]
  · rw [lastEnded_concat]
    exact poised

/-- A window ends. -/
theorem flushes (h : w.Accounted length windows current queue) {deadline : Nat}
    {batch : ChangeBatch} (sink : Sink)
    (collecting : w.coalescer.phase = .collecting deadline batch)
    (due : deadline ≤ w.now ∨ w.coalescer.waiting = [] ∧ w.coalescer.closed = true) :
    ∃ window, Accounted length
      { w with
        coalescer := (w.coalescer.flush w.now sink batch).1
        delivered := w.delivered ++ (w.coalescer.flush w.now sink batch).2.toList.map
          fun batch => ⟨w.now, batch, w.now + sink batch⟩ }
      (windows ++ [window]) [] queue := by
  have hpoised := h.poised
  cases hpoised with
  | idle phase => cases collecting.symm.trans phase
  | delivering phase => cases collecting.symm.trans phase
  | ended phase => cases collecting.symm.trans phase
  | @collecting opened first more _ phase opens past timely fresh cut =>
    obtain ⟨rfl, rfl⟩ := CoalescerPhase.collecting.inj (collecting.symm.trans phase)
    by_cases hempty : (ChangeBatch.ofReports ((first :: more).map (·.report))).isEmpty = true
    · refine ⟨⟨opened, first, more, w.now, w.now⟩, ?_⟩
      rw [flush, if_pos hempty]
      refine h.cut (h.fits_flushed phase due (Nat.le_refl _) fun _ => rfl) ?_ ?_
      · have hdelivery : (Window.mk opened first more w.now w.now).delivery? = none :=
          if_pos hempty
        rw [hdelivery]
        rfl
      · refine .idle rfl (Nat.le_refl _) fun first hfirst => ?_
        exact (Nat.max_eq_right (h.waiting_come first (List.mem_of_mem_head? hfirst))).symm
    · let ended := w.now + sink (ChangeBatch.ofReports ((first :: more).map (·.report)))
      refine ⟨⟨opened, first, more, w.now, ended⟩, ?_⟩
      rw [flush, if_neg hempty]
      refine h.cut (h.fits_flushed phase due (Nat.le_add_right _ _) fun hsome =>
        absurd hsome hempty) ?_ ?_
      · have hdelivery : (Window.mk opened first more w.now ended).delivery? =
            some ⟨w.now, _, ended⟩ := if_neg hempty
        rw [hdelivery]
        rfl
      · exact .delivering rfl (Nat.le_add_right _ _)

/-- A batch is delivered. -/
theorem delivers (h : w.Accounted length windows current queue) {finish : Nat}
    (delivering : w.coalescer.phase = .delivering finish) (due : finish ≤ w.now) :
    Accounted length { w with coalescer := { w.coalescer with phase := .idle } }
      windows current queue := by
  refine ⟨h.constant, h.waiting, h.given, h.come, h.closed, h.closing, h.fits, h.flushed,
    h.delivered, ?_⟩
  cases h.poised with
  | idle phase => cases delivering.symm.trans phase
  | collecting phase => cases delivering.symm.trans phase
  | ended phase => cases delivering.symm.trans phase
  | delivering phase timely =>
    obtain rfl := CoalescerPhase.delivering.inj (delivering.symm.trans phase)
    have hnow : w.now = lastEnded 0 windows := Nat.le_antisymm timely due
    refine .idle rfl due fun first hfirst => ?_
    have hcome := h.waiting_come first (List.mem_of_mem_head? hfirst)
    rw [← hnow]
    exact (Nat.max_eq_right hcome).symm

/-- Everything was delivered after closing. -/
theorem ends (h : w.Accounted length windows current queue)
    (idle : w.coalescer.phase = .idle) (nothing : w.coalescer.waiting = [])
    (closed : w.coalescer.closed = true) :
    Accounted length { w with coalescer := { w.coalescer with phase := .ended } }
      windows current queue := by
  refine ⟨h.constant, h.waiting, h.given, h.come, h.closed, h.closing, h.fits, h.flushed,
    h.delivered, ?_⟩
  have hqueue : queue = [] := List.map_eq_nil_iff.mp (h.waiting.trans nothing)
  subst hqueue
  have hclosing : w.closing ≠ none := by
    rw [← Option.isSome_iff_ne_none, ← h.closed]
    exact closed
  cases h.poised with
  | idle phase past next => exact .ended rfl hclosing past
  | collecting phase => cases idle.symm.trans phase
  | delivering phase => cases idle.symm.trans phase
  | ended phase => cases idle.symm.trans phase

theorem step {next : Watch} (h : w.Accounted length windows current queue) (hstep : Step w next) :
    ∃ windows current queue, next.Accounted length windows current queue := by
  cases hstep with
  | push report opened => exact ⟨_, _, _, h.push opened report⟩
  | close opened => exact ⟨_, _, _, h.close opened⟩
  | pass forward still timely => exact ⟨_, _, _, h.pass forward still timely⟩
  | act reportFirst sink acts =>
    cases acts_of_step? acts with
    | opens idle waiting =>
      obtain ⟨arrival, later, hnext⟩ := h.opens idle waiting
      rw [Option.toList_none, List.map_nil, List.append_nil]
      exact ⟨_, _, _, hnext⟩
    | collects collecting waiting =>
      obtain ⟨collected, later, hnext⟩ := h.collects collecting waiting
      rw [Option.toList_none, List.map_nil, List.append_nil]
      exact ⟨_, _, _, hnext⟩
    | flushes collecting due =>
      obtain ⟨window, hnext⟩ := h.flushes sink collecting due
      exact ⟨_, _, _, hnext⟩
    | delivers delivering due =>
      rw [Option.toList_none, List.map_nil, List.append_nil]
      exact ⟨_, _, _, h.delivers delivering due⟩
    | ends idle nothing closed =>
      rw [Option.toList_none, List.map_nil, List.append_nil]
      exact ⟨_, _, _, h.ends idle nothing closed⟩

end Accounted

theorem accounted_of_leads {length : Nat} {w : Watch} (reached : Leads (start length) w) :
    ∃ windows current queue, w.Accounted length windows current queue := by
  induction reached with
  | refl => exact ⟨_, _, _, .start length⟩
  | tail _ hstep ih =>
    obtain ⟨windows, current, queue, h⟩ := ih
    exact h.step hstep

/-! ## No session gets stuck -/

/-- What can happen does, and leaves less work. -/
theorem step_of_not_still {w : Watch} (h : ¬ w.coalescer.Still w.now) :
    ∃ next, Step w next ∧ next.now = w.now ∧ next.given = w.given ∧ next.closing = w.closing ∧
      next.coalescer.closed = w.coalescer.closed ∧ next.coalescer.work < w.coalescer.work := by
  obtain ⟨reportFirst, hsink⟩ := Classical.not_forall.mp h
  obtain ⟨sink, hstep⟩ := Classical.not_forall.mp hsink
  obtain ⟨⟨next, batch⟩, hacts⟩ := Option.ne_none_iff_exists'.mp hstep
  exact ⟨_, .act reportFirst sink hacts, rfl, rfl, rfl, (acts_of_step? hacts).closed,
    work_step? hacts⟩

/-- When a timer runs out, something can happen. -/
theorem not_still_of_timer? {c : Coalescer} {time : Nat} (h : c.timer? = some time) :
    ¬ c.Still time := by
  intro still
  rw [timer?] at h
  split at h
  · next collecting =>
    cases h
    exact Nat.lt_irrefl _ (still.collecting collecting).2.2
  · next delivering =>
    cases h
    exact Nat.lt_irrefl _ (still.delivering delivering)
  · cases h
  · cases h

theorem lt_of_timer? {c : Coalescer} {now time : Nat} (still : c.Still now)
    (h : c.timer? = some time) : now < time := by
  rw [timer?] at h
  split at h
  · next collecting =>
    cases h
    exact (still.collecting collecting).2.2
  · next delivering =>
    cases h
    exact still.delivering delivering
  · cases h
  · cases h

/-- When nothing can happen before a timer runs out, that is what happens next. -/
theorem leads_of_timer? {w : Watch} {time : Nat} (still : w.coalescer.Still w.now)
    (htimer : w.coalescer.timer? = some time) :
    ∃ next, Leads w next ∧ next.now = time ∧ next.given = w.given ∧ next.closing = w.closing ∧
      next.coalescer.closed = w.coalescer.closed ∧ next.coalescer.work < w.coalescer.work := by
  have hpass : Step w { w with now := time } := .pass (lt_of_timer? still htimer) still
    fun other hother => Nat.le_of_eq (Option.some.inj (htimer.symm.trans hother))
  have hready : ¬ { w with now := time }.coalescer.Still time := not_still_of_timer? htimer
  obtain ⟨next, hstep, hkept⟩ := step_of_not_still hready
  exact ⟨next, .head hpass (.single hstep), hkept⟩

/-- Time can go on, whatever the coalescer does. -/
theorem leads_at (w : Watch) {later : Nat} (forward : w.now ≤ later) :
    ∃ next, Leads w next ∧ next.now = later ∧ next.given = w.given ∧ next.closing = w.closing := by
  induction hwork : w.coalescer.work using Nat.strongRecOn generalizing w with
  | ind work ih =>
    subst hwork
    by_cases still : w.coalescer.Still w.now
    · by_cases timely : ∀ time, w.coalescer.timer? = some time → later ≤ time
      · obtain hlater | rfl := Nat.lt_or_eq_of_le forward
        · exact ⟨_, .single (.pass hlater still timely), rfl, rfl, rfl⟩
        · exact ⟨w, .refl, rfl, rfl, rfl⟩
      · obtain ⟨time, htime⟩ := Classical.not_forall.mp timely
        obtain ⟨htimer, hlate⟩ := Classical.not_imp.mp htime
        obtain ⟨moved, hmoved, hnow, hgiven, hclosing, -, hless⟩ := leads_of_timer? still htimer
        obtain ⟨next, hleads, hnext, hgiven', hclosing'⟩ :=
          ih _ hless moved (hnow ▸ Nat.le_of_not_le hlate) rfl
        exact ⟨next, hmoved.trans hleads, hnext, hgiven'.trans hgiven, hclosing'.trans hclosing⟩
    · obtain ⟨moved, hstep, hnow, hgiven, hclosing, -, hless⟩ := step_of_not_still still
      obtain ⟨next, hleads, hnext, hgiven', hclosing'⟩ := ih _ hless moved (hnow ▸ forward) rfl
      exact ⟨next, .head hstep hleads, hnext, hgiven'.trans hgiven, hclosing'.trans hclosing⟩

/-- A closed coalescer comes to an end. -/
theorem leads_ended (w : Watch) (closed : w.coalescer.closed = true) :
    ∃ last, Leads w last ∧ last.given = w.given ∧ last.closing = w.closing ∧
      last.coalescer.isEnded = true := by
  induction hwork : w.coalescer.work using Nat.strongRecOn generalizing w with
  | ind work ih =>
    subst hwork
    by_cases still : w.coalescer.Still w.now
    · cases hphase : w.coalescer.phase with
      | idle => cases closed.symm.trans (still.idle hphase).2
      | collecting deadline batch => cases closed.symm.trans (still.collecting hphase).2.1
      | ended => exact ⟨w, .refl, rfl, rfl, by rw [isEnded, hphase]⟩
      | delivering finish =>
        have htimer : w.coalescer.timer? = some finish := by rw [timer?, hphase]
        obtain ⟨moved, hmoved, -, hgiven, hclosing, hclosed, hless⟩ := leads_of_timer? still htimer
        obtain ⟨last, hleads, hgiven', hclosing', hended⟩ :=
          ih _ hless moved (hclosed.trans closed) rfl
        exact ⟨last, hmoved.trans hleads, hgiven'.trans hgiven, hclosing'.trans hclosing, hended⟩
    · obtain ⟨moved, hstep, -, hgiven, hclosing, hclosed, hless⟩ := step_of_not_still still
      obtain ⟨last, hleads, hgiven', hclosing', hended⟩ :=
        ih _ hless moved (hclosed.trans closed) rfl
      exact ⟨last, .head hstep hleads, hgiven'.trans hgiven, hclosing'.trans hclosing, hended⟩

/-- Reports may come at any times. -/
theorem leads_given (length : Nat) (script : List Arrival)
    (sorted : script.Pairwise (·.time ≤ ·.time)) :
    ∃ w, Leads (start length) w ∧ w.given = script ∧ w.closing = none ∧
      ∀ later, (∀ arrival ∈ script, arrival.time ≤ later) → w.now ≤ later := by
  induction script using List.reverseRecOn with
  | nil => exact ⟨start length, .refl, rfl, rfl, fun later _ => Nat.zero_le later⟩
  | append_singleton script arrival ih =>
    obtain ⟨hsorted, -, hlast⟩ := List.pairwise_append.mp sorted
    obtain ⟨w, hleads, hgiven, hopen, hbound⟩ := ih hsorted
    have hforward : w.now ≤ arrival.time := hbound _ fun earlier hearlier =>
      hlast earlier hearlier arrival (List.mem_singleton_self _)
    obtain ⟨ready, hready, hnow, hsame, hstill⟩ := w.leads_at hforward
    have hpush := Step.push arrival.report (hstill.trans hopen)
    refine ⟨_, (hleads.trans hready).tail hpush, ?_, hstill.trans hopen, fun later hlater => ?_⟩
    · show ready.given ++ [⟨ready.now, arrival.report⟩] = script ++ [arrival]
      rw [hsame, hgiven, hnow]
    · show ready.now ≤ later
      rw [hnow]
      exact hlater arrival (List.mem_append_right _ (List.mem_singleton_self _))

/-- Reports may come at any times, and the coalescer may be closed at any time after that: it
comes to an end. -/
theorem leads_script_ended (length closing : Nat) (script : List Arrival)
    (sorted : script.Pairwise (·.time ≤ ·.time))
    (before : ∀ arrival ∈ script, arrival.time ≤ closing) :
    ∃ w, Leads (start length) w ∧ w.given = script ∧ w.closing = some closing ∧
      w.coalescer.isEnded = true := by
  obtain ⟨w, hleads, hgiven, hopen, hbound⟩ := leads_given length script sorted
  obtain ⟨ready, hready, hnow, hsame, hstill⟩ := w.leads_at (hbound closing before)
  have hclose := Step.close (hstill.trans hopen)
  obtain ⟨last, hlast, hgiven', hclosing, hended⟩ :=
    leads_ended { ready with coalescer := ready.coalescer.close, closing := some ready.now } rfl
  refine ⟨last, ((hleads.trans hready).tail hclose).trans hlast, ?_, ?_, hended⟩
  · exact hgiven'.trans (hsame.trans hgiven)
  · rw [hclosing, hnow]

/-! ## All sessions -/

/-- The reports that a coalescer takes in before it has ended fall into windows, one after the
other, none of them lost, doubled or moved.  A window opens when its first report has come and
the window before is over.  It is flushed when its length has passed, or when the coalescer is
closed and no report is left, whichever comes first.  What is handed over are the batches of the
windows in order, without those that say nothing; no two of them are on their way at the same
time, and all are delivered when the coalescer ends. -/
theorem reports_fall_into_windows {length : Nat} {w : Watch} (reached : Leads (start length) w)
    (ended : w.coalescer.isEnded = true) :
    ∃ closing windows, w.closing = some closing ∧ windows.flatMap (·.reports) = w.given ∧
      FitInTurn length (some closing) [] 0 windows ∧
      w.delivered = windows.filterMap (·.delivery?) ∧
      w.delivered.Pairwise (fun delivery later => delivery.finish ≤ later.start) ∧
      ∀ delivery ∈ w.delivered, delivery.finish ≤ w.now := by
  obtain ⟨windows, current, queue, h⟩ := accounted_of_leads reached
  have hphase : w.coalescer.phase = .ended := by
    rw [isEnded] at ended
    split at ended
    · assumption
    · cases ended
  have hpoised := h.poised
  cases hpoised with
  | idle phase => cases hphase.symm.trans phase
  | collecting phase => cases hphase.symm.trans phase
  | delivering phase => cases hphase.symm.trans phase
  | ended phase closed past =>
    obtain ⟨closing, hclosing⟩ := Option.ne_none_iff_exists'.mp closed
    have hfits := h.fits
    rw [hclosing] at hfits
    refine ⟨closing, windows, hclosing, ?_, hfits, h.delivered, ?_, ?_⟩
    · rw [← h.given]
      exact (List.append_nil _).symm
    · rw [h.delivered]
      refine hfits.pairwise.filterMap _ fun window later hover delivery hdelivery other hother => ?_
      rwa [(window.delivery?_eq_some hdelivery).2, (later.delivery?_eq_some hother).1]
    · rw [h.delivered]
      intro delivery hmem
      obtain ⟨window, hwindow, hdelivery⟩ := List.mem_filterMap.mp hmem
      rw [(window.delivery?_eq_some hdelivery).2]
      exact Nat.le_trans (hfits.ended_le_lastEnded window hwindow) past

/-- Windows of a hundred, and deliveries that take thirty.  The second report comes at the very end
of the first window and is still collected; the third comes while that window's batch is on its way,
and its own window is cut short when the coalescer is closed. -/
def secondCutShort : Watch where
  now := 180
  coalescer := ⟨100, [], true, .ended⟩
  given := [⟨0, .dependencies .all⟩, ⟨100, .targets .unknown⟩, ⟨120, .dependencies .all⟩]
  closing := some 150
  delivered := [
    ⟨100, ChangeBatch.ofReports [.dependencies .all, .targets .unknown], 130⟩,
    ⟨150, ChangeBatch.ofReports [.dependencies .all], 180⟩]

theorem leads_secondCutShort : Leads (start 100) secondCutShort := by
  let sink : Sink := fun _ => 30
  -- the first window
  refine .head (.push (.dependencies .all) rfl) ?_
  refine .head (.act false sink rfl) ?_
  refine .head (.pass (by decide : 0 < 100) (fun _ _ => rfl) fun _ h => by cases h; decide) ?_
  -- the report at its end comes before the end, which is then due
  refine .head (.push (.targets .unknown) rfl) ?_
  refine .head (.act true sink rfl) ?_
  refine .head (.act false sink rfl) ?_
  -- the report during the delivery has to wait
  refine .head (.pass (by decide : 100 < 120) (fun _ _ => rfl) fun _ h => by cases h; decide) ?_
  refine .head (.push (.dependencies .all) rfl) ?_
  refine .head (.pass (by decide : 120 < 130) (fun _ _ => rfl) fun _ h => by cases h; decide) ?_
  refine .head (.act false sink rfl) ?_
  -- the second window, closed before its end
  refine .head (.act false sink rfl) ?_
  refine .head (.pass (by decide : 130 < 150) (fun _ _ => rfl) fun _ h => by cases h; decide) ?_
  refine .head (.close rfl) ?_
  refine .head (.act false sink rfl) ?_
  refine .head (.pass (by decide : 150 < 180) (fun _ _ => rfl) fun _ h => by cases h; decide) ?_
  refine .head (.act false sink rfl) ?_
  refine .head (.act false sink rfl) ?_
  exact .refl

/-- Its three reports fall into windows that are flushed at a hundred and at a hundred and fifty,
and what is handed over are the batches of these windows. -/
theorem reports_fall_into_windows_secondCutShort :
    ∃ windows, windows.flatMap (·.reports) = secondCutShort.given ∧
      FitInTurn 100 (some 150) [] 0 windows ∧
      secondCutShort.delivered = windows.filterMap (·.delivery?) ∧
      secondCutShort.delivered.map (fun delivery => (delivery.start, delivery.finish)) =
        [(100, 130), (150, 180)] := by
  obtain ⟨closing, windows, hclosing, hgiven, hfits, hdelivered, -⟩ :=
    reports_fall_into_windows leads_secondCutShort rfl
  obtain rfl : 150 = closing := Option.some.inj hclosing
  exact ⟨windows, hgiven, hfits, hdelivered, rfl⟩

end Watch

end Coalescer

end SettingsBroker
