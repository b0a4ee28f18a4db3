/-
# Requests that overlap

Calls on a plan source move in any order, and each time the package manager is asked it may say
anything.  What the calls share is the plan, the turn to ask for one and the count of how often
was asked.

All that is proved here rests on two facts that every move keeps (`Orderly`).  The call that has
its turn is the one that loads, so that there is never another one.  And while a call loads that
is not a reload there is no plan: there was none when it got its turn, and only the one that has
the turn can bring one.

Calls are not withdrawn: each goes on until it is answered.
-/

import SettingsBroker.PlanSource.Calls
import SettingsBroker.Proofs.Plan.Changed
import SettingsBroker.Proofs.Plan.Loads

namespace SettingsBroker

/-- Whether there was no plan to answer from. -/
def PlanAnswer.isFailed : PlanAnswer → Bool
  | .failed _ => true
  | .settings _ | .targets _ | .reloaded _ => false

namespace CallStage

/-- Whether the package manager is being asked. -/
def isLoading : CallStage → Bool
  | .loading => true
  | .arriving | .waiting | .answered _ => false

def isAnswered : CallStage → Bool
  | .answered _ => true
  | .arriving | .waiting | .loading => false

/-- Whether there is an answer, and it is a failure. -/
def isFailed : CallStage → Bool
  | .answered answer => answer.isFailed
  | .arriving | .waiting | .loading => false

end CallStage

namespace PlanCall

/-- Whether the call is a reload that got its turn. -/
def isReloadBegun (call : PlanCall) : Bool :=
  call.request = .reload && (call.stage.isLoading || call.stage.isAnswered)

/-- Whether the call is not a reload and asked the package manager in vain. -/
def isFailedLazily (call : PlanCall) : Bool :=
  call.request ≠ .reload && call.stage.isFailed

/-- Whether the call is not a reload and asks the package manager. -/
def isLoadingLazily (call : PlanCall) : Bool :=
  call.request ≠ .reload && call.stage.isLoading

end PlanCall

namespace PlanSource

variable {source : PlanSource} {request : PlanRequest} {answer : PlanAnswer}

/-- Only the settings of a document and the targets are told from the plan. -/
theorem ne_reload_of_answer? (known : source.answer? request = some answer) :
    request ≠ .reload := by
  rintro rfl
  cases known

theorem isFailed_of_answer? (known : source.answer? request = some answer) :
    answer.isFailed = false := by
  cases request with
  | settings document =>
    obtain ⟨plan, -, rfl⟩ := Option.map_eq_some_iff.mp known
    rfl
  | targets =>
    obtain ⟨plan, -, rfl⟩ := Option.map_eq_some_iff.mp known
    rfl
  | reload => cases known

theorem isFailed_adopt (source : PlanSource) (request : PlanRequest) (plan : ResolvedPlan) :
    (source.adopt request plan).2.isFailed = false := by
  cases request <;> rfl

theorem plan_of_answer?_eq_none (unknown : source.answer? request = none)
    (lazily : request ≠ .reload) : source.plan = none := by
  cases request with
  | settings document => exact Option.map_eq_none_iff.mp unknown
  | targets => exact Option.map_eq_none_iff.mp unknown
  | reload => exact absurd rfl lazily

end PlanSource

namespace PlanCalls

variable {c next : PlanCalls} {load : PlanLoad} {number other : Nat} {call : PlanCall}
  {request : PlanRequest} {stage : CallStage} {answer : PlanAnswer}

/-! ## Moving a call to a stage -/

theorem setStage_calls (found : c.calls[number]? = some call) :
    (c.setStage number stage).calls[number]? = some { call with stage } := by
  simp [setStage, found]

theorem setStage_calls_ne (differ : number ≠ other) :
    (c.setStage number stage).calls[other]? = c.calls[other]? := by
  simp [setStage, differ]

/-- How many calls there are of some kind changes with the one that is moved. -/
theorem countP_setStage (kind : PlanCall → Bool) (stage : CallStage)
    (found : c.calls[number]? = some call) :
    (c.setStage number stage).calls.countP kind + (kind call).toNat =
      c.calls.countP kind + (kind { call with stage }).toNat := by
  obtain ⟨hbound, hcall⟩ := List.getElem?_eq_some_iff.mp found
  have hset : (c.setStage number stage).calls = c.calls.set number { call with stage } := by
    rw [setStage, List.modify_eq_set_getElem?, found]
    rfl
  have hmember : kind call = true → 0 < c.calls.countP kind := fun hkind =>
    List.countP_pos_iff.mpr ⟨call, List.mem_of_getElem? found, hkind⟩
  rw [hset, List.countP_set hbound, hcall]
  cases hold : kind call <;> cases kind { call with stage } <;> simp_all

theorem countP_setStage_keep (kind : PlanCall → Bool) (stage : CallStage)
    (found : c.calls[number]? = some call)
    (same : kind call = kind { call with stage }) :
    (c.setStage number stage).calls.countP kind = c.calls.countP kind := by
  have h := countP_setStage kind stage found
  rw [same] at h
  exact Nat.add_right_cancel h

theorem countP_setStage_gain (kind : PlanCall → Bool) (stage : CallStage)
    (found : c.calls[number]? = some call)
    (before : kind call = false) (after : kind { call with stage } = true) :
    (c.setStage number stage).calls.countP kind = c.calls.countP kind + 1 := by
  have h := countP_setStage kind stage found
  rwa [before, after] at h

theorem countP_setStage_lose (kind : PlanCall → Bool) (stage : CallStage)
    (found : c.calls[number]? = some call)
    (before : kind call = true) (after : kind { call with stage } = false) :
    (c.setStage number stage).calls.countP kind + 1 = c.calls.countP kind := by
  have h := countP_setStage kind stage found
  rwa [before, after] at h

/-! ## What a move does -/

/-- A call asks the package manager. -/
def Loads (c : PlanCalls) (request : PlanRequest) (number : Nat) : Prop :=
  c.calls[number]? = some ⟨request, .loading⟩

/-- What a call can do when it is its move.  The line matters only for whose move it is. -/
inductive Goes (c : PlanCalls) (load : PlanLoad) (number : Nat) : PlanCalls → Prop where
  | /-- It cannot move. -/
    rest (idle : ∀ request, ¬ c.Loads request number) : Goes c load number c
  | /-- It finds a plan and is answered. -/
    answer {call : PlanCall} {answer : PlanAnswer} (line : List Nat)
      (found : c.calls[number]? = some call)
      (looking : call.stage = .arriving ∨ call.stage = .waiting)
      (known : c.source.answer? call.request = some answer) :
      Goes c load number { c.setStage number (.answered answer) with line }
  | /-- It finds no plan and goes to stand in line. -/
    wait {call : PlanCall} (line : List Nat) (found : c.calls[number]? = some call)
      (arriving : call.stage = .arriving) :
      Goes c load number { c.setStage number .waiting with line }
  | /-- It gets its turn, finds no plan and asks the package manager. -/
    begin {call : PlanCall} (line : List Nat) (found : c.calls[number]? = some call)
      (waiting : call.stage = .waiting) (free : c.turn = none)
      (unknown : c.source.answer? call.request = none) :
      Goes c load number
        { c.setStage number .loading with
          line, source := c.source.beginLoad, turn := some number }
  | /-- It hears from the package manager and is answered. -/
    finish {request : PlanRequest} (loads : c.Loads request number) :
      Goes c load number
        { c.setStage number (.answered (c.source.endLoad request load).2) with
          source := (c.source.endLoad request load).1, turn := none }

theorem goes_step (c : PlanCalls) (load : PlanLoad) (number : Nat) :
    c.Goes load number (c.step load number) := by
  rw [step]
  split
  · next missing => exact .rest (by simp [Loads, missing])
  · next call found =>
    split
    · next arriving =>
      split
      · next known => exact .answer c.line found (.inl arriving) known
      · exact .wait _ found arriving
    · next waiting =>
      split
      · next free =>
        dsimp only
        split
        · next known => exact .answer _ found (.inr waiting) known
        · next unknown => exact .begin _ found waiting free.1 unknown
      · exact .rest (by grind [Loads])
    · next loading => exact .finish (found.trans (by rw [← loading]))
    · exact .rest (by grind [Loads])

namespace Goes

/-- A move leaves all other calls as they are. -/
theorem calls_ne (hgoes : c.Goes load number next) (differ : number ≠ other) :
    next.calls[other]? = c.calls[other]? := by
  cases hgoes with
  | rest idle => rfl
  | answer line found looking known => exact setStage_calls_ne differ
  | wait line found arriving => exact setStage_calls_ne differ
  | begin line found waiting free unknown => exact setStage_calls_ne differ
  | finish loads => exact setStage_calls_ne differ

/-- A call that begins to ask the package manager got its turn when no other call had it, and it
is a reload or there is no plan. -/
theorem begins (hgoes : c.Goes load number next) (hloads : next.Loads request other)
    (idle : ¬ c.Loads request other) :
    other = number ∧ c.turn = none ∧ next.turn = some number ∧
      next.source.plan = c.source.plan ∧ (request ≠ .reload → c.source.plan = none) := by
  have hsame : number = other := by
    by_contra differ
    exact idle ((hgoes.calls_ne differ).symm.trans hloads)
  subst hsame
  cases hgoes with
  | rest => exact absurd hloads idle
  | answer line found looking known => cases (setStage_calls found).symm.trans hloads
  | wait line found arriving => cases (setStage_calls found).symm.trans hloads
  | begin line found waiting free unknown =>
    cases (setStage_calls found).symm.trans hloads
    exact ⟨rfl, free, rfl, rfl, PlanSource.plan_of_answer?_eq_none unknown⟩
  | finish loads => cases (setStage_calls loads).symm.trans hloads

/-- An answer is final, and one that is not a failure is told from the plan that is kept at that
moment, unless the request was a reload. -/
theorem answered (hgoes : c.Goes load number next)
    (hanswered : next.calls[other]? = some ⟨request, .answered answer⟩) :
    c.calls[other]? = some ⟨request, .answered answer⟩ ∨
      other = number ∧
        (∃ stage, c.calls[other]? = some ⟨request, stage⟩ ∧ stage.isAnswered = false) ∧
        (request ≠ .reload → answer.isFailed = false →
          next.source.answer? request = some answer) := by
  by_cases hsame : number = other
  · subst hsame
    cases hgoes with
    | rest idle => exact .inl hanswered
    | @answer call known line found looking hknown =>
      cases (setStage_calls found).symm.trans hanswered
      refine .inr ⟨rfl, ⟨call.stage, found, ?_⟩, fun _ _ => hknown⟩
      obtain hstage | hstage := looking <;> rw [hstage] <;> rfl
    | wait line found arriving => cases (setStage_calls found).symm.trans hanswered
    | begin line found waiting free unknown =>
      cases (setStage_calls found).symm.trans hanswered
    | @finish asked loads =>
      obtain rfl : asked = request := by
        cases (setStage_calls loads).symm.trans hanswered
        rfl
      cases (setStage_calls loads).symm.trans hanswered
      refine .inr ⟨rfl, ⟨.loading, loads, rfl⟩, fun lazily hsuccess => ?_⟩
      obtain ⟨failure, words, -, hend⟩ | ⟨plan, hend⟩ := c.source.endLoad_cases asked load
      · rw [hend] at hsuccess
        cases hsuccess
      · rw [hend]
        exact c.source.answer?_adopt asked plan lazily
  · exact .inl ((hgoes.calls_ne hsame).symm.trans hanswered)

end Goes

/-! ## Whose turn it is -/

/-- A call that loads has the turn, and if it is not a reload there is no plan. -/
def Orderly (c : PlanCalls) : Prop :=
  ∀ request number, c.Loads request number →
    c.turn = some number ∧ (request ≠ .reload → c.source.plan = none)

namespace Orderly

theorem unique (h : c.Orderly) {request later : PlanRequest} (hloads : c.Loads request number)
    (hother : c.Loads later other) : number = other :=
  Option.some.inj ((h request number hloads).1.symm.trans (h later other hother).1)

theorem goes (h : c.Orderly) (hgoes : c.Goes load number next) : next.Orderly := by
  intro request other hloads
  by_cases hbefore : c.Loads request other
  · obtain ⟨hturn, hplan⟩ := h request other hbefore
    cases hgoes with
    | rest idle => exact ⟨hturn, hplan⟩
    | answer line found looking known => exact ⟨hturn, hplan⟩
    | wait line found arriving => exact ⟨hturn, hplan⟩
    | begin line found waiting free unknown => cases hturn.symm.trans free
    | finish loads =>
      -- The call that loads is the one that moves, and it is answered.
      obtain rfl := h.unique loads hbefore
      cases (setStage_calls loads).symm.trans hloads
  · obtain ⟨rfl, -, hturn, hplan, hnone⟩ := hgoes.begins hloads hbefore
    exact ⟨hturn, fun lazily => hplan.trans (hnone lazily)⟩

/-- A plan that is kept is kept until a reload brings another one. -/
theorem plan (h : c.Orderly) (hgoes : c.Goes load number next) {plan : ResolvedPlan}
    (kept : c.source.plan = some plan) :
    next.source.plan = some plan ∨
      ∃ later events, next.source.plan = some later ∧ c.Loads .reload number ∧
        next.calls[number]? = some ⟨.reload, .answered (.reloaded events)⟩ := by
  cases hgoes with
  | rest idle => exact .inl kept
  | answer line found looking known => exact .inl kept
  | wait line found arriving => exact .inl kept
  | begin line found waiting free unknown => exact .inl kept
  | @finish request loads =>
    obtain rfl : request = .reload := by
      by_contra lazily
      cases kept.symm.trans ((h request number loads).2 lazily)
    obtain ⟨failure, words, -, hend⟩ | ⟨later, hend⟩ := c.source.endLoad_cases .reload load
    · left
      rw [hend]
      exact kept
    · right
      rw [hend]
      exact ⟨later, _, c.source.adopt_plan .reload later, loads, setStage_calls loads⟩

end Orderly

/-! ## How often was asked -/

/-- A move in a session of calls. -/
structure Move where
  /-- The call that moves if it can. -/
  number : Nat
  /-- What the package manager says if this ends its work. -/
  load : PlanLoad

/-- The call makes its move. -/
def make (c : PlanCalls) (move : Move) : PlanCalls :=
  c.step move.load move.number

/-- One move after the other. -/
def run (c : PlanCalls) (moves : List Move) : PlanCalls :=
  moves.foldl make c

/-- Whether a move brings a plan to a call that is not a reload. -/
def isLazySuccess (c : PlanCalls) (move : Move) : Bool :=
  match c.calls[move.number]? with
  | some ⟨request, .loading⟩ =>
    request ≠ .reload && !(c.source.endLoad request move.load).2.isFailed
  | _ => false

/-- How many moves bring a plan to a call that is not a reload. -/
def lazySuccesses (c : PlanCalls) : List Move → Nat
  | [] => 0
  | move :: later => (c.isLazySuccess move).toNat + (c.make move).lazySuccesses later

theorem run_concat (c : PlanCalls) (moves : List Move) (move : Move) :
    c.run (moves ++ [move]) = (c.run moves).make move := by
  simp [run]

theorem lazySuccesses_concat (c : PlanCalls) (moves : List Move) (move : Move) :
    c.lazySuccesses (moves ++ [move]) =
      c.lazySuccesses moves + ((c.run moves).isLazySuccess move).toNat := by
  induction moves generalizing c with
  | nil => simp [lazySuccesses, run]
  | cons first moves ih =>
    rw [List.cons_append, lazySuccesses, lazySuccesses, ih]
    exact (Nat.add_assoc _ _ _).symm

/-- How often was asked before, and on behalf of the calls so far. -/
structure Counted (before successes : Nat) (source : PlanSource) (calls : List PlanCall) :
    Prop where
  /-- What each call that asked adds to the count. -/
  total : source.resolutions = before + calls.countP (·.isReloadBegun) +
    calls.countP (·.isFailedLazily) + (calls.countP (·.isLoadingLazily) + successes)
  /-- Of the calls that are not reloads, one at most brings a plan. -/
  once : calls.countP (·.isLoadingLazily) + successes ≤ 1
  /-- The plan that was brought is kept. -/
  kept : successes ≠ 0 → source.plan ≠ none

theorem isLazySuccess_of_loads (loads : c.Loads request number) :
    c.isLazySuccess ⟨number, load⟩ =
      (request ≠ .reload && !(c.source.endLoad request load).2.isFailed) := by
  rw [Loads] at loads
  simp only [isLazySuccess, loads]

theorem isLazySuccess_of_idle (idle : ∀ request, ¬ c.Loads request number) :
    c.isLazySuccess ⟨number, load⟩ = false := by
  rw [isLazySuccess]
  split
  · next request loads => exact absurd loads (idle request)
  · rfl

theorem not_loads (found : c.calls[number]? = some call) (idle : call.stage ≠ .loading)
    (request : PlanRequest) : ¬ c.Loads request number := by
  intro loads
  cases found.symm.trans loads
  exact idle rfl

/-- While nobody has the turn, nobody asks. -/
theorem Orderly.countP_eq_zero (h : c.Orderly) (free : c.turn = none) :
    c.calls.countP (·.isLoadingLazily) = 0 := by
  rw [List.countP_eq_zero]
  rintro ⟨request, stage⟩ hmem hloading
  obtain ⟨-, hstage⟩ := Bool.and_eq_true_iff.mp hloading
  cases stage with
  | loading =>
    obtain ⟨number, hnumber⟩ := List.getElem?_of_mem hmem
    cases free.symm.trans (h request number hnumber).1
  | arriving => cases hstage
  | waiting => cases hstage
  | answered answer => cases hstage

namespace Counted

variable {before successes : Nat} {source : PlanSource}

/-- A call that does not ask and has not asked adds nothing to the count. -/
theorem setStage (h : Counted before successes c.source c.calls)
    (found : c.calls[number]? = some call)
    (begun : call.isReloadBegun = PlanCall.isReloadBegun { call with stage })
    (failed : call.isFailedLazily = PlanCall.isFailedLazily { call with stage })
    (loading : call.isLoadingLazily = PlanCall.isLoadingLazily { call with stage })
    (counted : source.resolutions = c.source.resolutions)
    (kept : c.source.plan ≠ none → source.plan ≠ none) :
    Counted before successes source (c.setStage number stage).calls := by
  constructor
  · rw [countP_setStage_keep _ stage found begun, countP_setStage_keep _ stage found failed,
      countP_setStage_keep _ stage found loading, counted]
    exact h.total
  · rw [countP_setStage_keep _ stage found loading]
    exact h.once
  · exact fun hsome => kept (h.kept hsome)

/-- A reload counts from when it gets its turn. -/
theorem beginReload (h : Counted before successes c.source c.calls)
    (found : c.calls[number]? = some ⟨.reload, .waiting⟩) :
    Counted before successes c.source.beginLoad (c.setStage number .loading).calls := by
  have hbegun := countP_setStage_gain (·.isReloadBegun) .loading found rfl rfl
  have hfailed := countP_setStage_keep (·.isFailedLazily) .loading found rfl
  have hloading := countP_setStage_keep (·.isLoadingLazily) .loading found rfl
  have htotal := h.total
  constructor
  · rw [PlanSource.beginLoad_resolutions, hbegun, hfailed, hloading]
    omega
  · rw [hloading]
    exact h.once
  · exact h.kept

/-- Any other call counts while it asks; nobody else asks then, and nobody has brought a plan. -/
theorem beginLazily (h : Counted before successes c.source c.calls) (orderly : c.Orderly)
    (found : c.calls[number]? = some ⟨request, .waiting⟩) (lazily : request ≠ .reload)
    (free : c.turn = none) (unknown : c.source.plan = none) :
    Counted before successes c.source.beginLoad (c.setStage number .loading).calls := by
  have hbegun := countP_setStage_keep (·.isReloadBegun) .loading found
    (by simp [PlanCall.isReloadBegun, lazily])
  have hfailed := countP_setStage_keep (·.isFailedLazily) .loading found
    (by simp [PlanCall.isFailedLazily, CallStage.isFailed])
  have hloading := countP_setStage_gain (·.isLoadingLazily) .loading found
    (by simp [PlanCall.isLoadingLazily, CallStage.isLoading])
    (by simp [PlanCall.isLoadingLazily, CallStage.isLoading, lazily])
  have hnobody := orderly.countP_eq_zero free
  have hnone : successes = 0 := not_imp_not.mp h.kept unknown
  have htotal := h.total
  constructor
  · rw [PlanSource.beginLoad_resolutions, hbegun, hfailed, hloading]
    omega
  · omega
  · exact h.kept

/-- A call that asked in vain counts for that. -/
theorem fail (h : Counted before successes c.source c.calls) (loads : c.Loads request number)
    (lazily : request ≠ .reload) (failed : answer.isFailed = true)
    (counted : source.resolutions = c.source.resolutions)
    (kept : c.source.plan ≠ none → source.plan ≠ none) :
    Counted before successes source (c.setStage number (.answered answer)).calls := by
  have hbegun := countP_setStage_keep (·.isReloadBegun) (.answered answer) loads
    (by simp [PlanCall.isReloadBegun, lazily])
  have hfailed := countP_setStage_gain (·.isFailedLazily) (.answered answer)
    loads (by simp [PlanCall.isFailedLazily, CallStage.isFailed])
    (by simp [PlanCall.isFailedLazily, CallStage.isFailed, lazily, failed])
  have hloading := countP_setStage_lose (·.isLoadingLazily) (.answered answer)
    loads (by simp [PlanCall.isLoadingLazily, CallStage.isLoading, lazily])
    (by simp [PlanCall.isLoadingLazily, CallStage.isLoading])
  have htotal := h.total
  have honce := h.once
  constructor
  · rw [hbegun, hfailed, counted]
    omega
  · omega
  · exact fun hsome => kept (h.kept hsome)

/-- A call that brought a plan counts for that. -/
theorem succeed (h : Counted before successes c.source c.calls) (loads : c.Loads request number)
    (lazily : request ≠ .reload) (wanted : answer.isFailed = false)
    (counted : source.resolutions = c.source.resolutions) (kept : source.plan ≠ none) :
    Counted before (successes + 1) source (c.setStage number (.answered answer)).calls := by
  have hbegun := countP_setStage_keep (·.isReloadBegun) (.answered answer) loads
    (by simp [PlanCall.isReloadBegun, lazily])
  have hfailed := countP_setStage_keep (·.isFailedLazily) (.answered answer)
    loads (by simp [PlanCall.isFailedLazily, CallStage.isFailed, wanted])
  have hloading := countP_setStage_lose (·.isLoadingLazily) (.answered answer)
    loads (by simp [PlanCall.isLoadingLazily, CallStage.isLoading, lazily])
    (by simp [PlanCall.isLoadingLazily, CallStage.isLoading])
  have htotal := h.total
  have honce := h.once
  constructor
  · rw [hbegun, hfailed, counted]
    omega
  · omega
  · exact fun _ => kept

theorem finish (h : Counted before successes c.source c.calls) (loads : c.Loads request number)
    (load : PlanLoad) :
    Counted before (successes + (c.isLazySuccess ⟨number, load⟩).toNat)
      (c.source.endLoad request load).1
      (c.setStage number (.answered (c.source.endLoad request load).2)).calls := by
  rw [isLazySuccess_of_loads loads]
  have hreload : request = .reload →
      ∀ answer source, source.resolutions = c.source.resolutions →
        (c.source.plan ≠ none → source.plan ≠ none) →
          Counted before successes source (c.setStage number (.answered answer)).calls := by
    rintro rfl answer source counted kept
    exact h.setStage loads rfl rfl rfl counted kept
  obtain ⟨failure, words, -, hend⟩ | ⟨plan, hend⟩ := c.source.endLoad_cases request load
  · rw [hend, PlanAnswer.isFailed, Bool.not_true, Bool.and_false]
    by_cases lazily : request = .reload
    · exact hreload lazily _ _ rfl id
    · exact h.fail loads lazily rfl rfl id
  · have hcounted := c.source.adopt_resolutions request plan
    have hkept : (c.source.adopt request plan).1.plan ≠ none := by
      rw [c.source.adopt_plan request plan]
      exact Option.some_ne_none plan
    rw [hend, c.source.isFailed_adopt request plan, Bool.not_false, Bool.and_true]
    by_cases lazily : request = .reload
    · rw [decide_eq_false (not_not_intro lazily)]
      exact hreload lazily _ _ hcounted fun _ => hkept
    · rw [decide_eq_true lazily]
      exact h.succeed loads lazily (c.source.isFailed_adopt request plan) hcounted hkept

theorem goes (h : Counted before successes c.source c.calls) (orderly : c.Orderly)
    (hgoes : c.Goes load number next) :
    Counted before (successes + (c.isLazySuccess ⟨number, load⟩).toNat) next.source next.calls := by
  cases hgoes with
  | rest idle =>
    rw [isLazySuccess_of_idle idle]
    exact h
  | @answer call answer line found looking known =>
    have hrequest := PlanSource.ne_reload_of_answer? known
    have hanswer := PlanSource.isFailed_of_answer? known
    rw [isLazySuccess_of_idle (not_loads found (by grind))]
    apply h.setStage found _ _ _ rfl id
    · simp [PlanCall.isReloadBegun, hrequest]
    · obtain hstage | hstage := looking <;>
        simp [PlanCall.isFailedLazily, CallStage.isFailed, hstage, hanswer]
    · obtain hstage | hstage := looking <;>
        simp [PlanCall.isLoadingLazily, CallStage.isLoading, hstage]
  | wait line found arriving =>
    rw [isLazySuccess_of_idle (not_loads found (by simp [arriving]))]
    apply h.setStage found _ _ _ rfl id <;>
      simp [PlanCall.isReloadBegun, PlanCall.isFailedLazily, PlanCall.isLoadingLazily,
        CallStage.isLoading, CallStage.isAnswered, CallStage.isFailed, arriving]
  | @begin call line found waiting free unknown =>
    obtain ⟨request, stage⟩ := call
    obtain rfl : stage = .waiting := waiting
    rw [isLazySuccess_of_idle (not_loads found (by simp))]
    by_cases lazily : request = .reload
    · subst lazily
      exact h.beginReload found
    · exact h.beginLazily orderly found lazily free
        (PlanSource.plan_of_answer?_eq_none unknown lazily)
  | finish loads => exact h.finish loads load

end Counted

/-! ## What holds in every session -/

theorem orderly_run (source : PlanSource) (requests : List PlanRequest) (moves : List Move) :
    ((start source requests).run moves).Orderly := by
  induction moves using List.reverseRecOn with
  | nil =>
    intro request number hloads
    have hmem := List.mem_of_getElem? hloads
    simp [run, start] at hmem
  | append_singleton moves move ih =>
    rw [run_concat]
    exact ih.goes (goes_step _ move.load move.number)

theorem counted_run (source : PlanSource) (requests : List PlanRequest) (moves : List Move) :
    Counted source.resolutions ((start source requests).lazySuccesses moves)
      ((start source requests).run moves).source ((start source requests).run moves).calls := by
  induction moves using List.reverseRecOn with
  | nil =>
    constructor <;>
      simp [run, start, lazySuccesses, List.countP_map, Function.comp_def,
        PlanCall.isReloadBegun, PlanCall.isFailedLazily, PlanCall.isLoadingLazily,
        CallStage.isLoading, CallStage.isAnswered, CallStage.isFailed]
  | append_singleton moves move ih =>
    rw [run_concat, lazySuccesses_concat]
    exact ih.goes (orderly_run source requests moves) (goes_step _ move.load move.number)

/-- An answer that is not a failure was told, at the end of the call, from the plan that was
kept then. -/
theorem told_run (source : PlanSource) (requests : List PlanRequest) (moves : List Move)
    (lazily : request ≠ .reload) (wanted : answer.isFailed = false)
    (hanswered : ((start source requests).run moves).calls[number]? =
      some ⟨request, .answered answer⟩) :
    ∃ earlier move later stage, moves = earlier ++ move :: later ∧ move.number = number ∧
      ((start source requests).run earlier).calls[number]? = some ⟨request, stage⟩ ∧
      stage.isAnswered = false ∧
      ((start source requests).run (earlier ++ [move])).source.answer? request =
        some answer := by
  induction moves using List.reverseRecOn with
  | nil =>
    have hmem := List.mem_of_getElem? hanswered
    simp [run, start] at hmem
  | append_singleton moves move ih =>
    rw [run_concat] at hanswered
    have hgoes := goes_step ((start source requests).run moves) move.load move.number
    obtain hbefore | ⟨rfl, ⟨stage, hstage, hopen⟩, htold⟩ := hgoes.answered hanswered
    · obtain ⟨earlier, first, later, stage, rfl, hrest⟩ := ih hbefore
      exact ⟨earlier, first, later ++ [move], stage, by simp, hrest⟩
    · refine ⟨moves, move, [], stage, rfl, rfl, hstage, hopen, ?_⟩
      rw [run_concat]
      exact htold lazily wanted

/-- Plans are shared and loads are counted, whatever calls there are, in whatever order they
move, and whatever the package manager says each time.  One call at most asks at a time.  A call
that begins to ask has just got its turn, and if it is not a reload there was no plan then.  A
plan that is kept is kept until a reload brings another one.  Each answer of settings or targets
was told from the plan that was kept when it was given.  What was asked is counted once for each
reload that got its turn, once for each other call that asked in vain, and once if another call
asks or has brought a plan. -/
theorem loads_shared_and_counted (source : PlanSource) (requests : List PlanRequest)
    (moves : List Move) :
    let c := (start source requests).run moves
    (∀ request number later other, c.Loads request number → c.Loads later other →
      number = other) ∧
    (∀ move request number, (c.make move).Loads request number → ¬ c.Loads request number →
      c.turn = none ∧ (c.make move).turn = some number ∧
        (request ≠ .reload → c.source.plan = none)) ∧
    (∀ move plan, c.source.plan = some plan →
      (c.make move).source.plan = some plan ∨
        ∃ later events, (c.make move).source.plan = some later ∧ c.Loads .reload move.number ∧
          (c.make move).calls[move.number]? = some ⟨.reload, .answered (.reloaded events)⟩) ∧
    (∀ number request answer, request ≠ .reload → answer.isFailed = false →
      c.calls[number]? = some ⟨request, .answered answer⟩ →
      ∃ earlier move later stage, moves = earlier ++ move :: later ∧ move.number = number ∧
        ((start source requests).run earlier).calls[number]? = some ⟨request, stage⟩ ∧
        stage.isAnswered = false ∧
        ((start source requests).run (earlier ++ [move])).source.answer? request =
          some answer) ∧
    c.source.resolutions = source.resolutions + c.calls.countP (·.isReloadBegun) +
      c.calls.countP (·.isFailedLazily) +
      if 0 < (start source requests).lazySuccesses moves ∨ c.calls.any (·.isLoadingLazily)
      then 1 else 0 := by
  intro c
  have horderly : c.Orderly := orderly_run source requests moves
  have hgoes : ∀ move : Move, c.Goes move.load move.number (c.make move) := fun move =>
    goes_step c move.load move.number
  refine ⟨fun _ _ _ _ => horderly.unique, fun move request number hloads idle => ?_,
    fun move plan => horderly.plan (hgoes move), fun number request answer => ?_, ?_⟩
  · obtain ⟨rfl, hturn, hnext, -, hnone⟩ := (hgoes move).begins hloads idle
    exact ⟨hturn, hnext, hnone⟩
  · exact told_run source requests moves
  · obtain ⟨htotal, honce, -⟩ : Counted source.resolutions
        ((start source requests).lazySuccesses moves) c.source c.calls :=
      counted_run source requests moves
    have hany : c.calls.any (·.isLoadingLazily) = true ↔ 0 < c.calls.countP (·.isLoadingLazily) :=
      List.any_eq_true.trans List.countP_pos_iff.symm
    rw [htotal]
    simp only [hany]
    split <;> omega

/-- Two calls that arrive together, of which the first asks and the second finds what it
brought. -/
def sharedLoad : List Move :=
  [0, 1, 0, 0, 1].map (⟨·, .ok (ResolvedPlan.sharing ["lib"])⟩)

/-- Both calls are answered, from the plan that was kept then, and one load is counted. -/
theorem loads_shared_and_counted_shared :
    let begun := start (.empty (.ok (.ofString "/")) (.ofString "/pkg") 16)
      [.settings ⟨"file:///pkg/shared.c"⟩, .targets]
    (begun.run sharedLoad).source.resolutions = 1 ∧
      ∃ targets earlier move later, sharedLoad = earlier ++ move :: later ∧ move.number = 1 ∧
        (begun.run sharedLoad).calls[1]? = some ⟨.targets, .answered (.targets targets)⟩ ∧
        (begun.run (earlier ++ [move])).source.answer? .targets = some (.targets targets) := by
  intro begun
  obtain ⟨-, -, -, htold, hcount⟩ := loads_shared_and_counted
    (.empty (.ok (.ofString "/")) (.ofString "/pkg") 16)
    [.settings ⟨"file:///pkg/shared.c"⟩, .targets] sharedLoad
  obtain ⟨targets, htargets⟩ : ∃ targets,
      (begun.run sharedLoad).calls[1]? = some ⟨.targets, .answered (.targets targets)⟩ := ⟨_, rfl⟩
  obtain ⟨earlier, move, later, stage, hsplit, hmove, -, -, hanswer⟩ :=
    htold 1 .targets (.targets targets) (by simp) rfl htargets
  exact ⟨hcount, targets, earlier, move, later, hsplit, hmove, htargets, hanswer⟩

end PlanCalls

end SettingsBroker
