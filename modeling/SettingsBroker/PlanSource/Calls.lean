/-
# Overlapping requests to a plan source

Requests that come while the package manager is being asked wait for their turn
in the order of their arrival.  A request whose turn has come looks at the plan
once more before it asks: a request before it may have brought one.

A call moves in steps, between which other calls may move.
-/

import SettingsBroker.PlanSource

namespace SettingsBroker

/-- How far a call has come. -/
inductive CallStage where
  /-- It has not looked at the plan yet. -/
  | arriving
  /-- It waits for its turn. -/
  | waiting
  /-- It has its turn and asks the package manager. -/
  | loading
  | answered (answer : PlanAnswer)

/-- A call: a request and how far it has come. -/
structure PlanCall where
  request : PlanRequest
  stage : CallStage

/-- The answer of a call, if it has one. -/
def PlanCall.answer? (call : PlanCall) : Option PlanAnswer :=
  match call.stage with
  | .answered answer => some answer
  | _ => none

/-- A plan source and the calls on it. -/
structure PlanCalls where
  source : PlanSource
  /-- All calls; a call's number is its position. -/
  calls : List PlanCall
  /-- The calls that wait for their turn, in order. -/
  line : List Nat
  /-- The call that has its turn. -/
  turn : Option Nat

namespace PlanCalls

/-- Calls that are about to be made. -/
def start (source : PlanSource) (requests : List PlanRequest) : PlanCalls :=
  ⟨source, requests.map (⟨·, .arriving⟩), [], none⟩

/-- Moves a call to a stage. -/
def setStage (c : PlanCalls) (number : Nat) (stage : CallStage) : PlanCalls :=
  { c with calls := c.calls.modify number fun call => { call with stage } }

/-- The next step of a call, if it can move.  `load` is what the package manager
says if this step ends its work. -/
def step (c : PlanCalls) (load : PlanLoad) (number : Nat) : PlanCalls :=
  match c.calls[number]? with
  | none => c
  | some call =>
    match call.stage with
    | .arriving =>
      match c.source.answer? call.request with
      | some answer => c.setStage number (.answered answer)
      | none => { c with line := c.line ++ [number] }.setStage number .waiting
    | .waiting =>
      if c.turn = none ∧ c.line.head? = some number then
        let c := { c with line := c.line.tail }
        match c.source.answer? call.request with
        | some answer => c.setStage number (.answered answer)
        | none =>
          { c with source := c.source.beginLoad, turn := some number }.setStage number .loading
      else c
    | .loading =>
      let (source, answer) := c.source.endLoad call.request load
      { c with source, turn := none }.setStage number (.answered answer)
    | .answered _ => c

/-- The order of steps in which all calls arrive before any of them goes on. -/
def together (count : Nat) : List Nat :=
  List.range count ++ (List.range count).flatMap fun number => [number, number]

/-- Makes calls that all arrive together, while the package manager always says
the same. -/
def runTogether (source : PlanSource) (requests : List PlanRequest) (load : PlanLoad) :
    PlanSource × List PlanAnswer :=
  let c := (together requests.length).foldl (fun c number => c.step load number)
    (start source requests)
  (c.source, c.calls.filterMap PlanCall.answer?)

end PlanCalls

end SettingsBroker
