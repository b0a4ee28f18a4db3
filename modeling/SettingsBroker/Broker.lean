/-
# The broker

The broker stands between the editor and a build system.  It alone changes the
cache and the target graph, one message at a time, and says what is to be done
outside: queries to start, targets to fetch, changes to report, callers to
answer.  What callers want arrives as commands, what the build system says as
notices.

At most one fetch of targets is on its way, and it takes along all target
events that were pending when it began.  Where the build system's changes
cannot be narrowed down, everything is taken to have changed and the target
graph is to be built anew.
-/

import SettingsBroker.Cache
import SettingsBroker.ChangeBatch
import SettingsBroker.TargetGraph

namespace SettingsBroker

/-- The number under which a command is acknowledged. -/
abbrev Receipt := Nat

/-- What callers want of the broker. -/
inductive BrokerCommand where
  | resolve (document : Document) (waiter : Waiter)
  /-- To note that a caller was served fallback settings. -/
  | fallbackServed (document : Document)
  /-- To mark documents stale and ask for them again. -/
  | invalidate (documents : List Document) (receipt : Receipt)
  /-- To forget a document. -/
  | evict (document : Document) (receipt : Receipt)
  | state (document : Document) (receipt : Receipt)
  | stats (receipt : Receipt)
  | shutdown

/-- What the build system says. -/
inductive BrokerNotice where
  | queryFinished (document : Document) (generation : Nat) (result : QueryResult)
  | event (event : BuildEvent)
  | lagged (missed : Nat)
  | streamClosed
  /-- A fetch of targets, which took events along, has ended. -/
  | targetsFetched (events : List TargetEvent) (rebuild : Bool)
      (result : Except Failure (List BuildTarget))

structure BrokerStats where
  cache : CacheStats
  targets : Nat
  /-- The documents of known targets. -/
  documents : Nat
  /-- The queries that were ever started. -/
  queries : Nat
  deriving DecidableEq, Repr

/-- How a command is acknowledged. -/
inductive Acknowledgement where
  | done
  /-- It was carried out; says whether there was anything to forget. -/
  | evicted (found : Bool)
  | state (state : DocumentState)
  | stats (stats : BrokerStats)
  deriving DecidableEq, Repr

/-- What is to be done outside. -/
inductive BrokerEffect where
  | startQuery (document : Document) (generation : Nat)
  /-- Ask the build system for its targets, taking events along. -/
  | fetchTargets (events : List TargetEvent) (rebuild : Bool)
  | report (report : ChangeReport)
  | answer (waiter : Waiter) (settings : BuildSettings)
  /-- Leave a waiting caller without an answer. -/
  | abandon (waiter : Waiter)
  | log (task message : String)
  | acknowledge (receipt : Receipt) (acknowledgement : Acknowledgement)

structure Broker where
  cache : Cache
  graph : TargetGraph
  /-- Whether a fetch of targets is on its way. -/
  fetching : Bool
  /-- The target events that the next fetch takes along. -/
  pendingEvents : List TargetEvent
  /-- Whether the next fetch is to build the target graph anew. -/
  pendingRebuild : Bool
  /-- The queries that were ever started. -/
  queries : Nat

namespace Broker

/-- A broker after a step, and what the step wants done, in order. -/
abbrev Step := Broker × List BrokerEffect

/-- Goes on after a step. -/
def Step.andThen (step : Step) (next : Broker → Step) : Step :=
  let (broker, effects) := next step.1
  (broker, step.2 ++ effects)

/-- A step that only wants something done. -/
def wants (broker : Broker) (effects : List BrokerEffect) : Step :=
  (broker, effects)

def startQueries (broker : Broker) (queries : List (Document × Nat)) : Step :=
  ({ broker with queries := broker.queries + queries.length },
    queries.map fun (document, generation) => .startQuery document generation)

/-- Fetches targets, with all that is pending, unless a fetch is on its way or
there is no reason to. -/
def fetchTargets (broker : Broker) : Step :=
  if broker.fetching || (broker.pendingEvents.isEmpty && !broker.pendingRebuild) then (broker, [])
  else
    ({ broker with fetching := true, pendingEvents := [], pendingRebuild := false },
      [.fetchTargets broker.pendingEvents broker.pendingRebuild])

/-- The broker before its first message. -/
def initial (options : FallbackOptions) : Broker :=
  ⟨.empty options, .empty, false, [], true, 0⟩

/-- Starts a broker, which fetches targets at once. -/
def start (options : FallbackOptions) : Step :=
  (initial options).fetchTargets

/-- Marks documents stale and asks for them again. -/
def invalidate (broker : Broker) (documents : List Document) : Step :=
  let (cache, queries) := broker.cache.invalidate documents
  { broker with cache }.startQueries queries

/-- Marks everything stale and asks for it again. -/
def invalidateAll (broker : Broker) : Step :=
  let (cache, queries) := broker.cache.invalidateAll
  { broker with cache }.startQueries queries

/-- Marks everything stale and reports that everything may have changed. -/
def notifyEverything (broker : Broker) : Step :=
  broker.invalidateAll.andThen (·.wants [.report (.dependencies .all), .report (.targets .unknown)])

/-- Takes everything to have changed.  Pending events are dropped, since the
target graph is built anew. -/
def everythingChanged (broker : Broker) : Step :=
  broker.notifyEverything.andThen fun broker =>
    { broker with pendingEvents := [], pendingRebuild := true }.fetchTargets

/-- Takes in what a fetch of targets brought. -/
def applyTargets (broker : Broker) (events : List TargetEvent) (rebuild : Bool)
    (result : Except Failure (List BuildTarget)) : Step :=
  match result, events with
  | .error _, [] => (broker, [])
  | .error _, _ :: _ => broker.notifyEverything
  | .ok snapshot, [] =>
    (if rebuild then { broker with graph := .ofSnapshot snapshot } else broker, [])
  | .ok snapshot, _ :: _ =>
    let (graph, affected) := broker.graph.applySnapshot events snapshot rebuild
    let broker := { broker with graph }
    let step := match affected with
      | .all => broker.invalidateAll
      | .only documents => broker.invalidate documents.toList
    step.andThen (·.wants [.report (.dependencies affected), .report (.targets (.listed events))])

/-- Takes in the result of a query.  `gone` says which callers have gone away. -/
def finishQuery (broker : Broker) (gone : Waiter → Bool) (document : Document) (generation : Nat)
    (result : QueryResult) : Step :=
  match broker.cache.complete gone document generation result with
  | (_, none) => (broker, [])
  | (cache, some completion) =>
    let answers := completion.sent.map fun (waiter, settings) => BrokerEffect.answer waiter settings
    let follow := completion.requery.map fun generation => (document, generation)
    let news : List BrokerEffect :=
      if completion.changed then [.report (.settings (.ofList [document]))] else []
    (({ broker with cache }.wants answers).andThen (·.startQueries follow.toList)).andThen
      (·.wants news)

/-- Takes in an event of the build system. -/
def handleEvent (broker : Broker) : BuildEvent → Step
  | .settingsChanged documents => broker.invalidate documents.toList
  | .dependenciesUpdated affected => broker.wants [.report (.dependencies affected)]
  | .targetsChanged events =>
    if events.any (·.target.isNone) then broker.everythingChanged
    else { broker with pendingEvents := broker.pendingEvents ++ events }.fetchTargets
  | .log task message => broker.wants [.log task message]

def handleNotice (broker : Broker) (gone : Waiter → Bool) : BrokerNotice → Step
  | .queryFinished document generation result =>
    broker.finishQuery gone document generation result
  | .event event => broker.handleEvent event
  | .lagged _ | .streamClosed => broker.everythingChanged
  | .targetsFetched events rebuild result =>
    ({ broker with fetching := false }.applyTargets events rebuild result).andThen fetchTargets

def stats (broker : Broker) : BrokerStats :=
  { cache := broker.cache.stats
    targets := broker.graph.size
    documents := broker.graph.knownDocuments.size
    queries := broker.queries }

/-- Lets a caller wait for the settings of a document, unless they are known. -/
def resolve (broker : Broker) (document : Document) (waiter : Waiter) : Step :=
  match broker.cache.entries[document]? with
  | some entry => broker.wants [.answer waiter entry.settings]
  | none =>
    let (cache, generation) := broker.cache.join document waiter
    { broker with cache }.startQueries (generation.map fun g => (document, g)).toList

def handleCommand (broker : Broker) : BrokerCommand → Step
  | .resolve document waiter => broker.resolve document waiter
  | .fallbackServed document =>
    ({ broker with cache := broker.cache.noteFallbackServed document }, [])
  | .invalidate documents receipt =>
    (broker.invalidate documents).andThen (·.wants [.acknowledge receipt .done])
  | .evict document receipt =>
    let (cache, found) := broker.cache.evict document
    { broker with cache }.wants
      ((broker.cache.waiting document).map BrokerEffect.abandon
        ++ [BrokerEffect.acknowledge receipt (.evicted found)])
  | .state document receipt =>
    broker.wants [.acknowledge receipt (.state (broker.cache.state document))]
  | .stats receipt => broker.wants [.acknowledge receipt (.stats broker.stats)]
  | .shutdown => (broker, [])

/-- The callers that wait for a query. -/
def waiting (broker : Broker) : List Waiter :=
  broker.cache.flights.values.flatMap (·.waiters)

end Broker

end SettingsBroker
