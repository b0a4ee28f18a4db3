/-
# The coalescer

Collects reports over a window of time and hands them over as one batch.  The
first report opens a window; at its end, or as soon as the coalescer is closed
and has taken in every report, the batch is handed over.  While the batch is
being delivered reports wait, and the first of them opens the next window.

Time is a number of milliseconds that is given to each step.  Where the end of
a window and a report coincide, the step is told which of them comes first.
-/

import SettingsBroker.ChangeBatch

namespace SettingsBroker

inductive CoalescerPhase where
  /-- Waiting for the first report of a window. -/
  | idle
  | collecting (deadline : Nat) (batch : ChangeBatch)
  | delivering (finish : Nat)
  /-- Closed, with nothing left to do. -/
  | ended
  deriving DecidableEq

structure Coalescer where
  /-- The length of a window. -/
  window : Nat
  waiting : List ChangeReport
  closed : Bool
  phase : CoalescerPhase
  deriving DecidableEq

namespace Coalescer

/-- A coalescer that has heard nothing. -/
def start (window : Nat) : Coalescer := ⟨window, [], false, .idle⟩

/-- Accepts a report, even one that says nothing. -/
def push (c : Coalescer) (report : ChangeReport) : Coalescer :=
  if c.closed then c else { c with waiting := c.waiting ++ [report] }

/-- Accepts a report unless it says nothing. -/
def report (c : Coalescer) (report : ChangeReport) : Coalescer :=
  if report.isEmpty then c else c.push report

/-- Accepts no more reports. -/
def close (c : Coalescer) : Coalescer :=
  { c with closed := true }

/-- Whether everything was delivered after closing. -/
def isEnded (c : Coalescer) : Bool :=
  match c.phase with
  | .ended => true
  | _ => false

/-- How long a batch handed over at some time takes to be delivered. -/
abbrev Sink := ChangeBatch → Nat

/-- Hands a batch over, unless it says nothing. -/
def flush (c : Coalescer) (now : Nat) (sink : Sink) (batch : ChangeBatch) :
    Coalescer × Option ChangeBatch :=
  if batch.isEmpty then ({ c with phase := .idle }, none)
  else ({ c with phase := .delivering (now + sink batch) }, some batch)

/-- The next thing that happens at a time, if anything does, with the batch that
is handed over by it. -/
def step? (c : Coalescer) (now : Nat) (reportFirst : Bool) (sink : Sink) :
    Option (Coalescer × Option ChangeBatch) :=
  match c.phase with
  | .idle =>
    match c.waiting with
    | first :: rest =>
      some ({ c with
          waiting := rest
          phase := .collecting (now + c.window) (ChangeBatch.empty.absorb first) }, none)
    | [] => if c.closed then some ({ c with phase := .ended }, none) else none
  | .collecting deadline batch =>
    if deadline ≤ now ∧ (reportFirst = false ∨ c.waiting = []) then
      some (c.flush now sink batch)
    else
      match c.waiting with
      | next :: rest =>
        some ({ c with waiting := rest, phase := .collecting deadline (batch.absorb next) }, none)
      | [] => if c.closed then some (c.flush now sink batch) else none
  | .delivering finish => if finish ≤ now then some ({ c with phase := .idle }, none) else none
  | .ended => none

/-- A bound on the number of steps that can still happen if no further report
is accepted. -/
def work (c : Coalescer) : Nat :=
  4 * c.waiting.length
    + match c.phase with
      | .collecting .. => 3
      | .delivering _ => 2
      | .idle => 1
      | .ended => 0

/-- Flushing leaves at most the work of one delivery besides the waiting
reports. -/
theorem work_flush_le (c : Coalescer) (now : Nat) (sink : Sink) (batch : ChangeBatch) :
    (c.flush now sink batch).1.work ≤ 4 * c.waiting.length + 2 := by
  unfold flush
  split <;> simp [work]

/-- Each step leaves less work. -/
theorem work_step? {c next : Coalescer} {now : Nat} {reportFirst : Bool} {sink : Sink}
    {batch : Option ChangeBatch} (h : c.step? now reportFirst sink = some (next, batch)) :
    next.work < c.work := by
  have hflush : ∀ collected, c.flush now sink collected = (next, batch) →
      next.work ≤ 4 * c.waiting.length + 2 := fun collected h => by
    have := c.work_flush_le now sink collected
    rwa [h] at this
  unfold step? at h
  unfold work
  grind [work]

/-- Everything that happens at a time, the window's end before reports, and the
batches handed over by it. -/
def settle (c : Coalescer) (now : Nat) (sink : Sink) : Coalescer × List ChangeBatch :=
  match _h : c.step? now false sink with
  | none => (c, [])
  | some (next, batch) =>
    let (last, later) := next.settle now sink
    (last, batch.toList ++ later)
  termination_by c.work
  decreasing_by exact work_step? _h

/-- When something happens next without a further report. -/
def timer? (c : Coalescer) : Option Nat :=
  match c.phase with
  | .collecting deadline _ => some deadline
  | .delivering finish => some finish
  | .idle | .ended => none

/-! ## Running on a clock -/

/-- A coalescer on a clock, with the batches that it has handed over. -/
structure Run where
  now : Nat
  coalescer : Coalescer
  /-- The batches handed over, with their times, in order. -/
  delivered : List (Nat × ChangeBatch)

namespace Run

/-- A coalescer that starts at time zero. -/
def start (window : Nat) : Run := ⟨0, .start window, []⟩

/-- Lets everything happen that can happen now. -/
def settle (run : Run) (sink : Sink) : Run :=
  let (coalescer, batches) := run.coalescer.settle run.now sink
  { run with coalescer, delivered := run.delivered ++ batches.map fun batch => (run.now, batch) }

/-- Lets the clock move on from one event to the next while `continues` holds of
the time of the next event. -/
def drive (sink : Sink) (continues : Nat → Bool) : Nat → Run → Run
  | 0, run => run
  | fuel + 1, run =>
    match run.coalescer.timer? with
    | none => run
    | some time =>
      if continues time then
        drive sink continues fuel ({ run with now := max run.now time }.settle sink)
      else run

/-- Lets time pass. -/
def sleep (run : Run) (sink : Sink) (ms : Nat) : Run :=
  let finish := run.now + ms
  { run.drive sink (· ≤ finish) (run.coalescer.work + 1) with now := finish }

/-- Changes the coalescer and lets everything happen that can happen now. -/
def update (run : Run) (sink : Sink) (change : Coalescer → Coalescer) : Run :=
  { run with coalescer := change run.coalescer }.settle sink

/-- Closes the coalescer and waits until everything is delivered.  Nobody waits
for a coalescer that was closed before. -/
def close (run : Run) (sink : Sink) : Run :=
  if run.coalescer.closed then run.settle sink
  else
    let run := run.update sink Coalescer.close
    run.drive sink (fun _ => true) (run.coalescer.work + 1)

end Run

end Coalescer

end SettingsBroker
