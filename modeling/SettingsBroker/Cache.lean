/-
# The settings cache

For each document the settings last stored, and the query that is on its way
if there is one.  A query is known by its generation, a number that is never
given twice, so that a late answer to a query that was given up is recognised.

A document that is invalidated keeps its settings, marked stale, until a query
that began afterwards answers; if a query was already on its way, another one
follows it.  A query that fails never replaces settings that an answer put in
place.  Callers wait on the query of their document; a caller that has gone
away was served fallback settings instead, and is told when the answer differs.

The view holds the same settings as the entries and is what callers read
without asking the owner of the cache.
-/

import SettingsBroker.Fallback
import Std.Data.ExtTreeMap

namespace SettingsBroker

/-- A caller waiting for settings, by number. -/
abbrev Waiter := Nat

/-- What a query came to: settings, no opinion, or a failure. -/
abbrev QueryResult := Except Failure (Option BuildSettings)

/-- The settings stored for a document. -/
structure CacheEntry where
  settings : BuildSettings
  /-- Whether they were invalidated and not renewed since. -/
  stale : Bool
  deriving Inhabited, Repr

/-- A query that is on its way. -/
structure Flight where
  generation : Nat
  /-- Who waits for it, in order. -/
  waiters : List Waiter
  /-- Whether the document was invalidated since the query began. -/
  requery : Bool
  /-- Whether a caller was served fallback settings instead. -/
  fallbackServed : Bool
  deriving Inhabited, DecidableEq, Repr

/-- Where a document stands. -/
inductive DocumentState where
  /-- Nothing is known and nothing is asked. -/
  | unresolved
  /-- A query is on its way and there is nothing fresh to serve. -/
  | resolving
  /-- There are fresh settings; `fallback` says whether they are a guess. -/
  | resolved (fallback : Bool)
  /-- The settings are stale and nothing is asked. -/
  | stale
  deriving DecidableEq, Repr

/-- The name of a state. -/
def DocumentState.name : DocumentState → String
  | .unresolved => "unresolved"
  | .resolving => "resolving"
  | .resolved false => "resolved"
  | .resolved true => "resolved-fallback"
  | .stale => "stale"

/-- What a query's end led to. -/
structure Completion where
  /-- Whether the stored settings differ from what callers may have seen. -/
  changed : Bool
  /-- The generation of the query that follows, if one does. -/
  requery : Option Nat
  /-- The callers that waited, each with the settings sent to it. -/
  sent : List (Waiter × BuildSettings)
  deriving Repr

/-- The numbers of a cache. -/
structure CacheStats where
  entries : Nat
  stale : Nat
  /-- Documents whose settings are a guess. -/
  fallback : Nat
  inFlight : Nat
  deriving DecidableEq, Repr

/-- The settings cache. -/
structure Cache where
  entries : Std.ExtTreeMap Document CacheEntry
  flights : Std.ExtTreeMap Document Flight
  /-- The settings as callers read them. -/
  view : Std.ExtTreeMap Document BuildSettings
  options : FallbackOptions
  lastGeneration : Nat

namespace Cache

/-- A cache that knows nothing. -/
def empty (options : FallbackOptions) : Cache :=
  ⟨∅, ∅, ∅, options, 0⟩

/-- The fallback settings of a document. -/
def fallback (cache : Cache) (document : Document) : BuildSettings :=
  cache.options.compute document

/-- Where a document stands. -/
def state (cache : Cache) (document : Document) : DocumentState :=
  match cache.entries[document]?, cache.flights[document]? with
  | none, none => .unresolved
  | none, some _ => .resolving
  | some entry, flight =>
    if entry.stale then (if flight.isSome then .resolving else .stale)
    else .resolved entry.settings.isFallback

/-- Begins a query and gives its generation. -/
def begin (cache : Cache) (document : Document) (waiters : List Waiter) : Cache × Nat :=
  let generation := cache.lastGeneration + 1
  ({ cache with
      flights := cache.flights.insert document ⟨generation, waiters, false, false⟩
      lastGeneration := generation },
    generation)

/-- Lets a caller wait for the query of a document.  If none is on its way, one
is begun and its generation given. -/
def join (cache : Cache) (document : Document) (waiter : Waiter) : Cache × Option Nat :=
  match cache.flights[document]? with
  | some flight =>
    ({ cache with
        flights := cache.flights.insert document
          { flight with waiters := flight.waiters ++ [waiter] } },
      none)
  | none =>
    let (cache, generation) := cache.begin document [waiter]
    (cache, some generation)

/-- Notes that a caller was served fallback settings while the query of a
document is on its way. -/
def noteFallbackServed (cache : Cache) (document : Document) : Cache :=
  { cache with
    flights := cache.flights.modify document fun flight => { flight with fallbackServed := true } }

/-- The settings that a query's result puts in place: its answer, the fallback
settings where it has no opinion, and after a failure the fallback settings
only where nothing was stored. -/
def fresh? (cache : Cache) (document : Document) (result : QueryResult) : Option BuildSettings :=
  match result with
  | .ok (some settings) => some settings
  | .ok none => some (cache.fallback document)
  | .error _ =>
    match cache.entries[document]? with
    | some _ => none
    | none => some (cache.fallback document)

/-- Stores settings for a document. -/
def store (cache : Cache) (document : Document) (settings : BuildSettings) : Cache :=
  { cache with
    entries := cache.entries.insert document ⟨settings, false⟩
    view := cache.view.insert document settings }

/-- Whether callers may have seen other settings than those just stored. -/
def isChange (cache : Cache) (document : Document) (previous fresh : Option BuildSettings)
    (fallbackServed : Bool) : Bool :=
  match fresh, previous with
  | some fresh, some previous => !fresh.same previous
  | some fresh, none => fallbackServed && !fresh.same (cache.fallback document)
  | none, _ => false

/-- Takes in the result of a query.  The result of a query that was given up or
is not the document's own changes nothing.  `gone` says which callers have gone
away. -/
def complete (cache : Cache) (gone : Waiter → Bool) (document : Document) (generation : Nat)
    (result : QueryResult) : Cache × Option Completion :=
  match cache.flights[document]? with
  | none => (cache, none)
  | some flight =>
    if flight.generation ≠ generation then (cache, none)
    else
      let previous := cache.entries[document]?.map (·.settings)
      let fresh := cache.fresh? document result
      let landed := { cache with flights := cache.flights.erase document }
      let stored := match fresh with
        | some settings => landed.store document settings
        | none => landed
      let sent := match stored.entries[document]? with
        | some entry => flight.waiters.map fun waiter => (waiter, entry.settings)
        | none => []
      let fallbackServed := flight.fallbackServed || sent.any fun (waiter, _) => gone waiter
      let changed := cache.isChange document previous fresh fallbackServed
      if flight.requery then
        let (next, generation) := stored.begin document []
        (next, some ⟨changed, some generation, sent⟩)
      else (stored, some ⟨changed, none, sent⟩)

/-- Marks one document stale.  A query on its way will be followed by another;
otherwise one is begun for a document that has settings. -/
def invalidateOne (cache : Cache) (document : Document) : Cache × Option Nat :=
  let marked := { cache with
    entries := cache.entries.modify document fun entry => { entry with stale := true } }
  match cache.flights[document]? with
  | some flight =>
    ({ marked with flights := cache.flights.insert document { flight with requery := true } }, none)
  | none =>
    if cache.entries.contains document then
      let (cache, generation) := marked.begin document []
      (cache, some generation)
    else (marked, none)

/-- Invalidates documents one after another and gives the queries to start. -/
def invalidate (cache : Cache) : List Document → Cache × List (Document × Nat)
  | [] => (cache, [])
  | document :: rest =>
    let (cache, generation) := cache.invalidateOne document
    let (cache, started) := cache.invalidate rest
    (cache, (generation.map fun generation => (document, generation)).toList ++ started)

/-- Invalidates every document that has settings or is being asked for. -/
def invalidateAll (cache : Cache) : Cache × List (Document × Nat) :=
  cache.invalidate (cache.entries.keys ++ cache.flights.keys)

/-- Forgets a document and gives up its query; says whether there was anything
to forget. -/
def evict (cache : Cache) (document : Document) : Cache × Bool :=
  ({ cache with
      entries := cache.entries.erase document
      flights := cache.flights.erase document
      view := cache.view.erase document },
    cache.entries.contains document || cache.flights.contains document)

/-- The callers that wait for the query of a document. -/
def waiting (cache : Cache) (document : Document) : List Waiter :=
  (cache.flights[document]?.map (·.waiters)).getD []

/-- The numbers of the cache. -/
def stats (cache : Cache) : CacheStats :=
  { entries := cache.entries.size
    stale := (cache.entries.values.filter (·.stale)).length
    fallback := (cache.entries.values.filter (·.settings.isFallback)).length
    inFlight := cache.flights.size }

end Cache

end SettingsBroker
