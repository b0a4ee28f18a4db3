/-
# Configuration

The times, capacities and fallback options that a broker works with.  They come
from the table `build_settings` of a TOML text, where everything has a default,
and can be overridden one by one.  Times are whole milliseconds.
-/

import SettingsBroker.FileContent
import SettingsBroker.Stored
import SettingsBroker.Toml.Reader

namespace SettingsBroker

/-- A span of time: seconds and, below one second, nanoseconds. -/
structure Span where
  seconds : Nat
  /-- The nanoseconds beyond the seconds. -/
  nanos : Nat
  deriving DecidableEq, Repr

/-- The whole milliseconds of a span, as far as a counter can hold them. -/
def Span.millis (span : Span) : Nat :=
  min (span.seconds * 1000 + span.nanos / 1000000) Json.counterLimit

/-- The configuration of a broker. -/
structure Config where
  /-- How long changes are collected before they are reported. -/
  debounceMs : Nat
  /-- How long a first resolution may take before fallback settings are served. -/
  fallbackTimeoutMs : Nat
  /-- How long one listener may take with one batch of changes. -/
  delegateTimeoutMs : Nat
  /-- How many events of a build system may wait. -/
  eventCapacity : Nat
  fallback : FallbackOptions
  deriving DecidableEq, Repr

namespace Config

/-- The configuration where nothing is configured. -/
def default : Config := ⟨100, 3000, 5000, 256, .empty⟩

instance : Inhabited Config := ⟨default⟩

/-- A stored configuration, in which everything has a default. -/
def ofJson? (longer : Bool) (json : Json) : Option Config := do
  let r ← json.record?
    ["debounce_ms", "fallback_timeout_ms", "delegate_timeout_ms", "event_channel_capacity",
      "fallback"] longer
  return {
    debounceMs := ← r.withDefault "debounce_ms" default.debounceMs Json.counter?
    fallbackTimeoutMs := ← r.withDefault "fallback_timeout_ms" default.fallbackTimeoutMs Json.counter?
    delegateTimeoutMs := ← r.withDefault "delegate_timeout_ms" default.delegateTimeoutMs Json.counter?
    eventCapacity := ← r.withDefault "event_channel_capacity" default.eventCapacity Json.counter?
    fallback := ← r.withDefault "fallback" default.fallback (FallbackOptions.ofJson? longer) }

/-- The configuration in a TOML text. -/
def ofToml (text : String) : Except Failure Config :=
  let config? := do
    let r ← (← Toml.read text).record? ["build_settings"] true
    r.withDefault "build_settings" default (ofJson? true)
  match config? with
  | some config => .ok config
  | none => .error .toml

/-- The configuration in a file; a missing file configures nothing. -/
def load (file : FileContent) : Except Failure Config :=
  match file with
  | .missing => .ok default
  | _ => file.text.bind ofToml

/-! ## Overrides -/

/-- The number that a text of digits spells, with a plus sign or without, if a
counter can hold it. -/
def parseCounter? (text : String) : Option Nat :=
  let digits := match text.toList with
    | '+' :: rest => rest
    | cs => cs
  if digits ≠ [] ∧ digits.all Char.isDigit then
    let n := Uri.numeral 10 digits
    if n ≤ Json.counterLimit then some n else none
  else none

/-- Values from the environment that take the place of configured ones. -/
structure Overrides where
  debounce : Option String
  fallbackTimeout : Option String
  delegateTimeout : Option String
  sdk : Option String
  deriving DecidableEq, Repr

/-- The overrides that an environment holds under an application's name. -/
def Overrides.ofEnvironment (application : String) (lookup : String → Option String) : Overrides :=
  { debounce := lookup (application ++ "_DEBOUNCE_MS")
    fallbackTimeout := lookup (application ++ "_FALLBACK_TIMEOUT_MS")
    delegateTimeout := lookup (application ++ "_DELEGATE_TIMEOUT_MS")
    sdk := lookup (application ++ "_SDK") }

/-- The configuration with overrides; one that is no number is ignored. -/
def override (config : Config) (o : Overrides) : Config :=
  let number := fun (text : Option String) (configured : Nat) =>
    (text.bind parseCounter?).getD configured
  { config with
    debounceMs := number o.debounce config.debounceMs
    fallbackTimeoutMs := number o.fallbackTimeout config.fallbackTimeoutMs
    delegateTimeoutMs := number o.delegateTimeout config.delegateTimeoutMs
    fallback :=
      match o.sdk with
      | some sdk => { config.fallback with sdk := some (FilePath.ofString sdk) }
      | none => config.fallback }

end Config

end SettingsBroker
