/-
# A session with a broker

A broker, its build system, its callers and its delegates together on one
clock.  Whenever something is done from outside, everything that can happen at
that instant happens, in rounds: events reach the broker, the broker works off
its messages, questions are put to the build system, callers look whether they
are answered or out of time, and batches of changes are told to delegates.
Then the clock moves on to the next instant at which something is due.

A caller that runs out of time is served fallback settings, and the broker is
told.  When the broker stops, what was reported is still told to delegates;
after that no command is acknowledged any more and nobody waits.
-/

import SettingsBroker.Backend
import SettingsBroker.Broker
import SettingsBroker.Coalescer
import SettingsBroker.Config
import SettingsBroker.Delegate.Audience

namespace SettingsBroker

/-- How far a question put to the build system has come. -/
inductive TaskStage where
  /-- It is about to be put. -/
  | starting
  /-- It is not looked at before some time. -/
  | delayed (due : Nat)
  | blocked
  /-- It is about to be answered. -/
  | ready
  deriving DecidableEq, Repr

/-- A question for the settings of a document. -/
structure QueryTask where
  document : Document
  generation : Nat
  stage : TaskStage

/-- A question for all targets. -/
structure FetchTask where
  /-- The events that it takes along. -/
  events : List TargetEvent
  /-- Whether the target graph is to be built anew. -/
  rebuild : Bool
  stage : TaskStage

/-- A caller that wants the settings of a document. -/
structure Caller where
  /-- The name under which its answer is told. -/
  name : String
  document : Document
  /-- Its number. -/
  waiter : Waiter
  /-- When it runs out of time, once it has begun to wait. -/
  deadline : Option Nat

/-- What a caller got. -/
structure Resolution where
  name : String
  time : Nat
  settings : BuildSettings

/-- Whether the broker still works. -/
inductive BrokerPhase where
  | running
  /-- It takes no more messages and waits until all changes are told. -/
  | closing
  | stopped
  deriving DecidableEq, Repr

structure Session where
  now : Nat
  config : Config
  backend : Backend
  broker : Broker
  phase : BrokerPhase
  /-- The commands that wait for the broker. -/
  commands : List BrokerCommand
  /-- The notices that wait for the broker. -/
  notices : List BrokerNotice
  /-- Where the broker is in the build system's reports, while it listens. -/
  listening : Option Nat
  queries : List QueryTask
  fetches : List FetchTask
  /-- The callers without an answer. -/
  callers : List Caller
  /-- What the broker sent to callers: settings, or that there will be none. -/
  sent : List (Waiter × Option BuildSettings)
  /-- The number given last to a caller or a command. -/
  lastNumber : Nat
  /-- The acknowledgements that were not looked at yet. -/
  acknowledged : List (Receipt × Acknowledgement)
  coalescer : Coalescer
  audience : Audience
  /-- Whether somebody outside can still give commands. -/
  held : Bool
  /-- What callers got and was not told yet. -/
  resolutions : List Resolution

namespace Session

/-! ## What happens at one instant -/

/-- Does what the broker wants done. -/
def apply (s : Session) : BrokerEffect → Session
  | .startQuery document generation =>
    { s with queries := s.queries ++ [⟨document, generation, .starting⟩] }
  | .fetchTargets events rebuild =>
    { s with fetches := s.fetches ++ [⟨events, rebuild, .starting⟩] }
  | .report report => { s with coalescer := s.coalescer.report report }
  | .answer waiter settings => { s with sent := s.sent ++ [(waiter, some settings)] }
  | .abandon waiter => { s with sent := s.sent ++ [(waiter, none)] }
  | .log task message => { s with audience := s.audience.log task message }
  | .acknowledge receipt acknowledgement =>
    { s with acknowledged := s.acknowledged ++ [(receipt, acknowledgement)] }

/-- Takes in a step of the broker. -/
def take (s : Session) (step : Broker.Step) : Session :=
  step.2.foldl apply { s with broker := step.1 }

/-- Whether a caller has gone away. -/
def isGone (s : Session) (waiter : Waiter) : Bool :=
  !s.callers.any (·.waiter = waiter)

/-- Gives a command to the broker, unless it has stopped. -/
def command (s : Session) (command : BrokerCommand) : Session :=
  if s.phase = .stopped then s else { s with commands := s.commands ++ [command] }

/-- Passes the build system's reports on to the broker. -/
def listen (s : Session) : Session :=
  match s.listening with
  | none => s
  | some position =>
    let (found, position) := s.backend.events.drain position
    let notices := found.filterMap fun
      | .event event => some (.event event)
      | .lagged missed => some (.lagged missed)
      | .closed => some .streamClosed
      | .empty => none
    { s with
      notices := s.notices ++ notices
      listening := if found.any (· matches .closed) then none else some position }

/-- Stops the broker, which takes no further messages. -/
def beginClosing (s : Session) : Session :=
  { s with phase := .closing, listening := none, coalescer := s.coalescer.close }

/-- Lets the broker work off commands; a command to stop is the last one. -/
def workCommands (s : Session) : List BrokerCommand → Session
  | [] => { s with commands := [] }
  | .shutdown :: rest => { s with commands := rest }.beginClosing
  | command :: rest => (s.take (s.broker.handleCommand command)).workCommands rest

/-- Lets the broker work off notices. -/
def workNotices (s : Session) (notices : List BrokerNotice) : Session :=
  notices.foldl (fun s notice => s.take (s.broker.handleNotice s.isGone notice))
    { s with notices := [] }

/-- Lets the broker work.  It stops when nobody can give it commands. -/
def work (s : Session) : Session :=
  if s.phase = .running then
    let s := s.workCommands s.commands
    if s.phase = .running then
      let s := s.workNotices s.notices
      if !s.held && s.callers.isEmpty && s.commands.isEmpty then s.beginClosing else s
    else s
  else { s with notices := [] }

/-- The next stage of a question. -/
def advance (now delay : Nat) (blocked : Bool) (stage : TaskStage) : TaskStage :=
  let looked := if blocked then .blocked else .ready
  match stage with
  | .starting => if delay = 0 then looked else .delayed (now + delay)
  | .delayed due => if due ≤ now then looked else stage
  | .blocked | .ready => stage

/-- Moves the questions for settings and answers those that are ready. -/
def runQueries (s : Session) : Session :=
  s.queries.foldl
    (fun s query =>
      match advance s.now s.backend.settingsDelay s.backend.isBlocked query.stage with
      | .ready =>
        let (backend, result) := s.backend.settings query.document
        { s with
          backend
          notices := s.notices ++ [.queryFinished query.document query.generation result] }
      | stage => { s with queries := s.queries ++ [{ query with stage }] })
    { s with queries := [] }

/-- Moves the questions for targets and answers those that are ready. -/
def runFetches (s : Session) : Session :=
  s.fetches.foldl
    (fun s fetch =>
      match advance s.now s.backend.targetsDelay false fetch.stage with
      | .ready =>
        let (backend, result) := s.backend.targets
        { s with
          backend
          notices := s.notices ++ [.targetsFetched fetch.events fetch.rebuild result] }
      | stage => { s with fetches := s.fetches ++ [{ fetch with stage }] })
    { s with fetches := [] }

def resolved (s : Session) (caller : Caller) (settings : BuildSettings) : Session :=
  { s with
    callers := s.callers.filter (·.waiter ≠ caller.waiter)
    resolutions := s.resolutions ++ [⟨caller.name, s.now, settings⟩] }

/-- Gives a caller fallback settings. -/
def resolvedByFallback (s : Session) (caller : Caller) : Session :=
  s.resolved caller (s.config.fallback.compute caller.document)

/-- Gives a caller fallback settings because it is out of time. -/
def outOfTime (s : Session) (caller : Caller) : Session :=
  (s.command (.fallbackServed caller.document)).resolvedByFallback caller

/-- Lets a new caller look for its settings, and wait if there are none. -/
def callerArrives (s : Session) (caller : Caller) : Session :=
  match s.broker.cache.view[caller.document]? with
  | some settings => s.resolved caller settings
  | none =>
    if s.phase = .stopped then s.resolvedByFallback caller
    else
      let s := s.command (.resolve caller.document caller.waiter)
      if s.config.fallbackTimeoutMs = 0 then s.outOfTime caller
      else
        let deadline := some (s.now + s.config.fallbackTimeoutMs)
        { s with callers := s.callers.map fun other =>
            if other.waiter = caller.waiter then { other with deadline } else other }

/-- Lets a caller look whether it is answered or out of time. -/
def callerLooks (s : Session) (caller : Caller) : Session :=
  match caller.deadline with
  | none => s.callerArrives caller
  | some deadline =>
    match s.sent.lookup caller.waiter with
    | some (some settings) => s.resolved caller settings
    | some none => s.resolvedByFallback caller
    | none => if deadline ≤ s.now then s.outOfTime caller else s

/-- Lets all callers look. -/
def runCallers (s : Session) : Session :=
  { s.callers.foldl callerLooks s with sent := [] }

/-- Hands batches of changes to the delegates. -/
def runDelegates (s : Session) : Session :=
  let audience := s.audience.passTo s.now
  let (coalescer, batches) := s.coalescer.settle s.now (audience.duration s.now)
  { s with
    coalescer
    audience := (batches.foldl (fun audience batch => audience.dispatch s.now batch)
      audience).passTo s.now }

/-- Ends the work of the broker once all changes are told.  Commands that wait are
lost, and callers that wait are left without an answer. -/
def finishClosing (s : Session) : Session :=
  if s.phase = .closing ∧ s.coalescer.isEnded then
    let lost := s.commands.filterMap fun
      | .resolve _ waiter => some waiter
      | _ => none
    { s with
      phase := .stopped
      commands := []
      sent := s.sent ++ (s.broker.waiting ++ lost).map fun waiter => (waiter, none) }
  else s

/-- One round of everything. -/
def round (s : Session) : Session :=
  s.listen.work.runFetches.runQueries.runCallers.runDelegates.finishClosing.runCallers

/-- Whether a question can move now. -/
def canMove (now : Nat) : TaskStage → Bool
  | .starting | .ready => true
  | .delayed due => due ≤ now
  | .blocked => false

/-- Whether nothing more can happen at this instant. -/
def isQuiet (s : Session) : Bool :=
  (s.phase ≠ .running || (s.commands.isEmpty && s.notices.isEmpty
      && (s.held || !s.callers.isEmpty)))
    && (s.listening.all fun position => (s.backend.events.drain position).1.isEmpty)
    && !s.queries.any (canMove s.now ·.stage)
    && !s.fetches.any (canMove s.now ·.stage)
    && s.callers.all (fun caller => caller.deadline.any (s.now < ·))
    && s.sent.isEmpty
    && (s.coalescer.step? s.now false (fun _ => 0)).isNone
    && !(s.phase = .closing && s.coalescer.isEnded)

/-- Rounds until nothing more can happen, at most so many. -/
def rounds : Nat → Session → Session
  | 0, s => s
  | bound + 1, s => if s.isQuiet then s else rounds bound s.round

/-- A bound on the rounds of one instant: each message, question and caller
brings about few others. -/
def roundBound (s : Session) : Nat :=
  64 + 4 * (s.commands.length + s.notices.length + s.queries.length + s.fetches.length
    + s.callers.length + s.backend.events.kept.length + s.broker.cache.entries.size)

/-- Lets everything happen that can happen now. -/
def settle (s : Session) : Session :=
  rounds s.roundBound s

/-! ## The clock -/

def dueTimes (s : Session) : List Nat :=
  let task := fun
    | TaskStage.delayed due => some due
    | _ => none
  s.queries.filterMap (task ·.stage) ++ s.fetches.filterMap (task ·.stage)
    ++ s.callers.filterMap (·.deadline) ++ s.coalescer.timer?.toList

def nextDue? (s : Session) : Option Nat :=
  s.dueTimes.min?

/-- Lets the clock move on to an instant at which something is due. -/
def moveTo (s : Session) (time : Nat) : Session :=
  { s with now := max s.now time }.settle

/-- Lets the clock move on until some time, at most over so many instants. -/
def drive (finish : Nat) : Nat → Session → Session
  | 0, s => s
  | bound + 1, s =>
    match s.nextDue? with
    | none => s
    | some time => if time ≤ finish then drive finish bound (s.moveTo time) else s

def sleep (s : Session) (ms : Nat) : Session :=
  let finish := s.now + ms
  { s.drive finish (ms + 1) with now := finish }

/-! ## What is done from outside -/

/-- A session with a broker that has just been started. -/
def start (config : Config) (backend : Backend) : Session :=
  { now := 0
    config
    backend
    broker := .initial config.fallback
    phase := .running
    commands := []
    notices := []
    listening := some backend.events.sent
    queries := []
    fetches := []
    callers := []
    sent := []
    lastNumber := 0
    acknowledged := []
    coalescer := .start config.debounceMs
    audience := .empty config.delegateTimeoutMs
    held := true
    resolutions := [] : Session }.take (Broker.start config.fallback)

/-- Lets a caller ask for the settings of a document. -/
def resolve (s : Session) (name : String) (document : Document) : Session :=
  let waiter := s.lastNumber + 1
  { s with lastNumber := waiter, callers := s.callers ++ [⟨name, document, waiter, none⟩] }

/-- Waits for an acknowledgement, at most over so many instants. -/
def awaitReceipt (receipt : Receipt) : Nat → Session → Session × Option Acknowledgement
  | 0, s => (s, none)
  | bound + 1, s =>
    match s.acknowledged.lookup receipt, s.nextDue? with
    | some acknowledgement, _ => (s, some acknowledgement)
    | none, some time =>
      if s.phase = .closing then awaitReceipt receipt bound (s.moveTo time) else (s, none)
    | none, none => (s, none)

/-- Gives a command and waits until it is acknowledged.  A broker that stops
acknowledges nothing. -/
def ask (s : Session) (command : Receipt → BrokerCommand) :
    Session × Except Failure Acknowledgement :=
  if s.phase = .stopped then (s, .error .stopped)
  else
    let receipt := s.lastNumber + 1
    let s := ({ s with lastNumber := receipt }.command (command receipt)).settle
    let bound := s.coalescer.work + 2 * (s.queries.length + s.fetches.length + s.callers.length) + 2
    let (s, found) := awaitReceipt receipt bound s
    ({ s with acknowledged := [] },
      match found with
      | some acknowledgement => .ok acknowledgement
      | none => .error .stopped)

/-- Tells the broker to stop. -/
def shutdown (s : Session) : Session :=
  s.command .shutdown

/-- Lets go of the broker. -/
def release (s : Session) : Session :=
  { s with held := false }

/-- Changes a scripted build system. -/
def onScript (s : Session) (change : Scripted → Scripted) : Session :=
  { s with backend := s.backend.onScript change }

/-- Makes the build system read a file again. -/
def reload (s : Session) (file : FileContent) : Session × Except Failure Reloaded :=
  let (backend, answer) := (s.backend.write file).reload
  ({ s with backend }, answer)

/-- Lets go of all questions that are held back, and holds no more back. -/
def unblock (s : Session) : Session :=
  { s.onScript ({ · with blocked := false }) with
    queries := s.queries.map fun query =>
      if query.stage = .blocked then { query with stage := .ready } else query }

/-- What was told since this was last asked: what callers got, and what delegates
heard. -/
def told (s : Session) : List Resolution × List Call × List LogCall × Session :=
  let (calls, logs, audience) := s.audience.heard s.now
  (s.resolutions, calls, logs, { s with audience, resolutions := [] })

end Session

end SettingsBroker
