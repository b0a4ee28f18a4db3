/-
# Delegates are served in turn

A batch is told to the delegates that are registered and alive when this begins, in the order in
which they registered.  A delegate's turn begins when the turn before is over, and takes as long
as the delegate runs or as long as the limit, whichever is less.  In its turn a delegate hears
the parts of the batch in order, and misses parts at the end only if it breaks down or reaches
the limit.

How long a delegate runs (`Conduct.running?`), and after what time it comes to a part
(`Conduct.spent?`), is told from its conduct alone, without the limit.  What it hears is therefore
a function of its own conduct, and other delegates decide only when it hears it.
-/

import Mathlib.Algebra.Order.BigOperators.Group.List
import Mathlib.Algebra.Order.Ring.Nat
import Mathlib.Data.List.Induction
import SettingsBroker.Delegate.Audience

namespace SettingsBroker

/-! ## The parts of a batch -/

/-- A report is one of the three parts of a batch. -/
def ChangeBatch.Says (batch : ChangeBatch) : ChangeReport → Prop
  | .settings documents => documents = batch.settings
  | .dependencies affected => batch.dependencies = some affected
  | .targets changes => batch.targets = some changes

/-- Settings come before dependencies and dependencies before targets. -/
def ChangeReport.rank : ChangeReport → Nat
  | .settings _ => 0
  | .dependencies _ => 1
  | .targets _ => 2

theorem ChangeBatch.mem_parts {batch : ChangeBatch} {part : ChangeReport} :
    part ∈ batch.parts ↔ batch.Says part ∧ part.isEmpty = false := by
  rw [parts, List.mem_filter]
  cases part <;> simp [Says]

theorem ChangeBatch.ordered_parts (batch : ChangeBatch) :
    batch.parts.Pairwise (·.rank < ·.rank) := by
  obtain ⟨settings, dependencies, targets⟩ := batch
  refine List.Pairwise.filter _ ?_
  cases dependencies <;> cases targets <;> simp [ChangeReport.rank]

/-! ## The time that a delegate takes -/

namespace Conduct

variable {conduct : Conduct} {limit elapsed : Nat} {part : ChangeReport} {parts : List ChangeReport}

/-- The time that a delegate spends with some parts, if it is done with all of them. -/
def spent? (conduct : Conduct) : List ChangeReport → Option Nat
  | [] => some 0
  | part :: rest =>
    match conduct.react part with
    | .returns after _ => (conduct.spent? rest).map (after + ·)
    | .panics _ | .hangs => none

/-- The time until a delegate is done with a batch or breaks down, if it ever is or does. -/
def running? (conduct : Conduct) : List ChangeReport → Option Nat
  | [] => some 0
  | part :: rest =>
    match conduct.react part with
    | .returns after _ => (conduct.running? rest).map (after + ·)
    | .panics after => some after
    | .hangs => none

/-- The time that a delegate is given for a batch: as long as it runs, up to the limit. -/
def share (conduct : Conduct) (limit : Nat) (parts : List ChangeReport) : Nat :=
  match conduct.running? parts with
  | some time => min time limit
  | none => limit

theorem share_le (conduct : Conduct) (limit : Nat) (parts : List ChangeReport) :
    conduct.share limit parts ≤ limit := by
  rw [share]
  split
  · exact Nat.min_le_right _ _
  · exact Nat.le_refl _

/-! ## What a delegate hears -/

/-- A part that is not begun comes up when the limit is reached or later. -/
theorem limit_le_of_not_begun
    (late : ¬ (elapsed < limit ∨ (elapsed = limit ∧ conduct.late part = true))) :
    limit ≤ elapsed :=
  Nat.le_of_not_lt fun early => late (Or.inl early)

/-- A delegate is heard out or left alone when its time is over. -/
theorem hear_snd (limit elapsed : Nat) (parts : List ChangeReport) :
    (conduct.hear limit elapsed parts).2 =
      match conduct.running? parts with
      | some time => min (elapsed + time) limit
      | none => limit := by
  induction parts generalizing elapsed with
  | nil => rfl
  | cons part rest ih =>
    rw [hear, running?]
    split
    · cases conduct.react part with
      | returns after failure =>
        simp only [ih]
        cases conduct.running? rest <;> simp [Nat.add_assoc]
      | panics after => rfl
      | hangs => rfl
    · next late =>
      have hover : limit ≤ elapsed := limit_le_of_not_begun late
      split
      · exact (Nat.min_eq_right (Nat.le_trans hover (Nat.le_add_right _ _))).symm
      · rfl

/-- The parts are heard in order and without a gap. -/
theorem hear_prefix (elapsed : Nat) (parts : List ChangeReport) :
    (conduct.hear limit elapsed parts).1.map (·.2) <+: parts := by
  induction parts generalizing elapsed with
  | nil => exact List.prefix_refl _
  | cons part rest ih =>
    rw [hear]
    split
    · cases conduct.react part with
      | returns after failure => exact List.cons_prefix_cons.mpr ⟨rfl, ih _⟩
      | panics after => exact List.cons_prefix_cons.mpr ⟨rfl, List.nil_prefix⟩
      | hangs => exact List.cons_prefix_cons.mpr ⟨rfl, List.nil_prefix⟩
    · exact List.nil_prefix

/-- A part is heard as soon as the parts before it are done with, and not after the limit. -/
theorem hear_begins {i time : Nat} (h : (conduct.hear limit elapsed parts).1[i]? = some (time, part)) :
    ∃ spent, conduct.spent? (parts.take i) = some spent ∧ time = elapsed + spent ∧
      time ≤ limit := by
  induction parts generalizing elapsed i with
  | nil => cases h
  | cons first rest ih =>
    rw [hear] at h
    split at h
    · next begun =>
      cases i with
      | zero =>
        have hhead : time = elapsed := by
          cases hreact : conduct.react first <;> rw [hreact] at h <;> cases h <;> rfl
        exact ⟨0, rfl, hhead, hhead ▸ begun.elim Nat.le_of_lt fun now => Nat.le_of_eq now.1⟩
      | succ i =>
        cases hreact : conduct.react first with
        | returns after failure =>
          rw [hreact] at h
          obtain ⟨spent, hspent, htime, hlimit⟩ := ih h
          refine ⟨after + spent, ?_, htime.trans (Nat.add_assoc _ _ _), hlimit⟩
          simp [spent?, hreact, hspent]
        | panics after =>
          rw [hreact] at h
          cases h
        | hangs =>
          rw [hreact] at h
          cases h
    · cases h

/-- Parts are missed only by a delegate that breaks down or reaches the limit. -/
theorem hear_cut (h : (conduct.hear limit elapsed parts).1.map (·.2) ≠ parts) :
    (∃ call ∈ (conduct.hear limit elapsed parts).1, ∃ after,
      conduct.react call.2 = .panics after) ∨
    ∀ time, conduct.running? parts = some time → limit ≤ elapsed + time := by
  induction parts generalizing elapsed with
  | nil => exact absurd rfl h
  | cons first rest ih =>
    rw [hear] at h ⊢
    split at h
    · next begun =>
      rw [if_pos begun]
      cases hreact : conduct.react first with
      | returns after failure =>
        rw [hreact] at h
        have hrest : (conduct.hear limit (elapsed + after) rest).1.map (·.2) ≠ rest :=
          fun heq => h (congrArg (first :: ·) heq)
        obtain ⟨call, hcall, hpanics⟩ | hlimit := ih hrest
        · exact Or.inl ⟨call, List.mem_cons_of_mem _ hcall, hpanics⟩
        · refine Or.inr fun time htime => ?_
          rw [running?, hreact] at htime
          obtain ⟨more, hmore, rfl⟩ := Option.map_eq_some_iff.mp htime
          exact Nat.add_assoc _ _ _ ▸ hlimit more hmore
      | panics after => exact Or.inl ⟨_, List.mem_cons_self, after, hreact⟩
      | hangs =>
        refine Or.inr fun time htime => ?_
        rw [running?, hreact] at htime
        cases htime
    · next late =>
      have hover : limit ≤ elapsed := limit_le_of_not_begun late
      exact Or.inr fun time _ => Nat.le_trans hover (Nat.le_add_right _ _)

end Conduct

/-! ## Turns -/

/-- A turn that begins at some time goes as the delegate's conduct has it. -/
structure Turn.Follows (turn : Turn) (conduct : Conduct) (limit start : Nat)
    (parts : List ChangeReport) : Prop where
  /-- It lasts as long as the delegate runs, up to the limit. -/
  finish : turn.finish = start + conduct.share limit parts
  /-- The parts are heard in order and without a gap. -/
  heard : turn.calls.map (·.2) <+: parts
  /-- A part is heard as soon as those before it are done with. -/
  begins : ∀ i time part, turn.calls[i]? = some (time, part) →
    ∃ spent ≤ limit, conduct.spent? (parts.take i) = some spent ∧ time = start + spent
  /-- Only a delegate that breaks down or reaches the limit misses a part. -/
  cut : turn.calls.map (·.2) ≠ parts →
    (∃ call ∈ turn.calls, ∃ after, conduct.react call.2 = .panics after) ∨
      ∀ time, conduct.running? parts = some time → limit ≤ time

section Turns

variable {conduct : Conduct} {limit start : Nat} {batch : ChangeBatch} {delegate : Delegate}
  {takers : List (Delegate × Conduct)}

theorem Turn.finish_at (conduct : Conduct) (limit start : Nat) (batch : ChangeBatch)
    (delegate : Delegate) :
    (Turn.at conduct limit start batch delegate).finish =
      start + conduct.share limit batch.parts := by
  have hduration := conduct.hear_snd limit 0 batch.parts
  simp only [Nat.zero_add] at hduration
  exact congrArg (start + ·) hduration

theorem Turn.map_snd_calls_at (start : Nat) (delegate : Delegate) :
    (Turn.at conduct limit start batch delegate).calls.map (·.2) =
      (conduct.hear limit 0 batch.parts).1.map (·.2) := by
  simp [Turn.at, Function.comp_def]

theorem Turn.follows_at (conduct : Conduct) (limit start : Nat) (batch : ChangeBatch)
    (delegate : Delegate) :
    (Turn.at conduct limit start batch delegate).Follows conduct limit start batch.parts where
  finish := finish_at conduct limit start batch delegate
  heard := by
    rw [map_snd_calls_at]
    exact Conduct.hear_prefix 0 batch.parts
  begins i time part h := by
    rw [Turn.at, List.getElem?_map] at h
    obtain ⟨⟨elapsed, heard⟩, hheard, hcall⟩ := Option.map_eq_some_iff.mp h
    obtain ⟨rfl, rfl⟩ := Prod.mk.inj hcall
    obtain ⟨spent, hspent, helapsed, hlimit⟩ := Conduct.hear_begins hheard
    rw [Nat.zero_add] at helapsed
    exact ⟨spent, helapsed ▸ hlimit, hspent, by rw [helapsed]⟩
  cut h := by
    rw [map_snd_calls_at] at h
    obtain ⟨call, hcall, hpanics⟩ | hlimit := Conduct.hear_cut h
    · exact Or.inl ⟨_, List.mem_map_of_mem hcall, hpanics⟩
    · exact Or.inr fun time htime => Nat.zero_add time ▸ hlimit time htime

/-- The time given to delegates, one after the other. -/
def shares (limit : Nat) (parts : List ChangeReport) (conducts : List Conduct) : Nat :=
  (conducts.map fun conduct => conduct.share limit parts).sum

theorem shares_le (limit : Nat) (parts : List ChangeReport) (conducts : List Conduct) :
    shares limit parts conducts ≤ conducts.length * limit := by
  have hsum := List.sum_le_card_nsmul (conducts.map fun conduct => conduct.share limit parts) limit
    (by simp [Conduct.share_le])
  rwa [List.length_map, Nat.nsmul_eq_mul] at hsum

/-- Each turn begins when those before it are over. -/
theorem getElem?_turns (start : Nat) (takers : List (Delegate × Conduct)) (k : Nat) :
    (turns limit start batch takers)[k]? = takers[k]?.map fun taker =>
      Turn.at taker.2 limit (start + shares limit batch.parts ((takers.take k).map (·.2))) batch
        taker.1 := by
  induction takers generalizing start k with
  | nil => rfl
  | cons taker rest ih =>
    cases k with
    | zero => rfl
    | succ k =>
      simp [turns, ih, Turn.finish_at, shares, Nat.add_assoc]

theorem length_turns (start : Nat) (takers : List (Delegate × Conduct)) :
    (turns limit start batch takers).length = takers.length := by
  induction takers generalizing start with
  | nil => rfl
  | cons taker rest ih => simp [turns, ih]

theorem turnsEnd_turns (start : Nat) (takers : List (Delegate × Conduct)) :
    turnsEnd start (turns limit start batch takers) =
      start + shares limit batch.parts (takers.map (·.2)) := by
  induction takers generalizing start with
  | nil => rfl
  | cons taker rest ih =>
    have hrest := ih (Turn.at taker.2 limit start batch taker.1).finish
    have hlast : turnsEnd start (turns limit start batch (taker :: rest)) =
        turnsEnd (Turn.at taker.2 limit start batch taker.1).finish
          (turns limit (Turn.at taker.2 limit start batch taker.1).finish batch rest) := by
      rw [turns, turnsEnd, turnsEnd, List.getLast?_cons]
      cases (turns limit (Turn.at taker.2 limit start batch taker.1).finish batch rest).getLast? <;>
        rfl
    rw [hlast, hrest, Turn.finish_at]
    simp [shares, Nat.add_assoc]

end Turns

/-! ## Who is registered -/

/-- What can happen to a registry and to delegates. -/
inductive RegistryStep where
  | register (delegate : Delegate)
  | unregister (id : Nat)
  /-- A delegate is let go of for the last time. -/
  | drop (delegate : Delegate)
  /-- The registry is looked through, and delegates that are gone are struck out. -/
  | look
  deriving DecidableEq

namespace RegistryStep

/-- Whether a delegate is registered. -/
def isRegister : RegistryStep → Bool
  | register _ => true
  | _ => false

/-- At the end of some steps a delegate is alive and registered under a number: the number was
given to it and the registration was not ended since. -/
def Serves (steps : List RegistryStep) (id : Nat) (delegate : Delegate) : Prop :=
  .drop delegate ∉ steps ∧ ∃ before after, steps = before ++ .register delegate :: after ∧
    id = before.countP isRegister + 1 ∧ .unregister id ∉ after

theorem not_mem_concat {steps : List RegistryStep} {step other : RegistryStep} :
    other ∉ steps ++ [step] ↔ other ∉ steps ∧ step ≠ other := by
  rw [List.mem_append, not_or, List.mem_singleton, ne_comm]

theorem serves_concat {steps : List RegistryStep} {step : RegistryStep} {id : Nat}
    {delegate : Delegate} :
    Serves (steps ++ [step]) id delegate ↔ step ≠ .drop delegate ∧
      (Serves steps id delegate ∧ step ≠ .unregister id ∨
        .drop delegate ∉ steps ∧ step = .register delegate ∧
          id = steps.countP isRegister + 1) := by
  constructor
  · rintro ⟨hdrop, before, after, hsteps, hid, hafter⟩
    obtain ⟨hdrop, hstep⟩ := not_mem_concat.mp hdrop
    refine ⟨hstep, ?_⟩
    obtain rfl | ⟨rest, last, rfl⟩ := after.eq_nil_or_concat
    · obtain ⟨rfl, hlast⟩ := List.append_inj' hsteps rfl
      exact Or.inr ⟨hdrop, List.singleton_inj.mp hlast, hid⟩
    · rw [List.concat_eq_append, ← List.cons_append, ← List.append_assoc] at hsteps
      obtain ⟨hrest, hlast⟩ := List.append_inj' hsteps rfl
      obtain rfl := List.singleton_inj.mp hlast
      rw [List.concat_eq_append, not_mem_concat] at hafter
      exact Or.inl ⟨⟨hdrop, before, rest, hrest, hid, hafter.1⟩, hafter.2⟩
  · rintro ⟨hstep, ⟨⟨hdrop, before, after, rfl, hid, hafter⟩, hlast⟩ | ⟨hdrop, rfl, hid⟩⟩
    · exact ⟨not_mem_concat.mpr ⟨hdrop, hstep⟩, before, after ++ [step], by simp, hid,
        not_mem_concat.mpr ⟨hafter, hlast⟩⟩
    · exact ⟨not_mem_concat.mpr ⟨hdrop, hstep⟩, steps, [], rfl, hid, List.not_mem_nil⟩

end RegistryStep

/-- A registry and the delegates that are gone. -/
structure Roll where
  registry : DelegateRegistry
  /-- The delegates that are gone. -/
  gone : List Delegate

namespace Roll

def alive (roll : Roll) (delegate : Delegate) : Bool :=
  delegate ∉ roll.gone

/-- The registrations of delegates that are alive. -/
def present (roll : Roll) : List (Nat × Delegate) :=
  roll.registry.entries.filter fun entry => roll.alive entry.2

def perform (roll : Roll) : RegistryStep → Roll
  | .register delegate => { roll with registry := (roll.registry.register delegate).1 }
  | .unregister id => { roll with registry := (roll.registry.unregister id).1 }
  | .drop delegate => { roll with gone := delegate :: roll.gone }
  | .look => { roll with registry := roll.registry.prune roll.alive }

/-- The roll after some steps. -/
def ofSteps (steps : List RegistryStep) : Roll :=
  steps.foldl perform ⟨.empty, []⟩

/-- A roll keeps account of the steps that were taken. -/
structure Records (roll : Roll) (steps : List RegistryStep) : Prop where
  counted : roll.registry.lastId = steps.countP RegistryStep.isRegister
  gone : ∀ delegate, delegate ∈ roll.gone ↔ .drop delegate ∈ steps
  bounded : ∀ entry ∈ roll.registry.entries, entry.1 ≤ roll.registry.lastId
  ordered : roll.registry.entries.Pairwise (·.1 < ·.1)
  serves : ∀ id delegate, (id, delegate) ∈ roll.present ↔ RegistryStep.Serves steps id delegate

variable {roll : Roll} {steps : List RegistryStep}

theorem mem_present {id : Nat} {delegate : Delegate} : (id, delegate) ∈ roll.present ↔
    (id, delegate) ∈ roll.registry.entries ∧ delegate ∉ roll.gone := by
  simp [present, alive]

namespace Records

theorem start : Records ⟨.empty, []⟩ [] where
  counted := rfl
  gone := by simp
  bounded := nofun
  ordered := List.Pairwise.nil
  serves := by simp [present, DelegateRegistry.empty, RegistryStep.Serves]

theorem register (h : roll.Records steps) (delegate : Delegate) :
    (roll.perform (.register delegate)).Records (steps ++ [.register delegate]) where
  counted := by simp [perform, DelegateRegistry.register, h.counted, RegistryStep.isRegister]
  gone other := by simp [perform, h.gone]
  bounded entry hentry := by
    obtain hold | hnew := List.mem_append.mp hentry
    · exact Nat.le_succ_of_le (h.bounded entry hold)
    · rw [List.mem_singleton.mp hnew]
      exact Nat.le_refl _
  ordered := by
    refine List.pairwise_append.mpr ⟨h.ordered, List.pairwise_singleton _ _, ?_⟩
    intro entry hentry new hnew
    rw [List.mem_singleton.mp hnew]
    exact Nat.lt_succ_of_le (h.bounded entry hentry)
  serves id other := by
    rw [RegistryStep.serves_concat, ← h.serves, mem_present, mem_present, ← h.gone, ← h.counted]
    simp only [perform, DelegateRegistry.register, List.mem_append, List.mem_singleton,
      Prod.mk.injEq, ne_eq, reduceCtorEq, not_false_eq_true, RegistryStep.register.injEq]
    grind

theorem unregister (h : roll.Records steps) (id : Nat) :
    (roll.perform (.unregister id)).Records (steps ++ [.unregister id]) where
  counted := by simp [perform, DelegateRegistry.unregister, h.counted, RegistryStep.isRegister]
  gone other := by simp [perform, h.gone]
  bounded entry hentry := h.bounded entry (List.mem_filter.mp hentry).1
  ordered := h.ordered.filter _
  serves other delegate := by
    rw [RegistryStep.serves_concat, ← h.serves, mem_present, mem_present]
    simp only [perform, DelegateRegistry.unregister, List.mem_filter, decide_eq_true_eq, ne_eq,
      reduceCtorEq, not_false_eq_true, RegistryStep.unregister.injEq]
    grind

theorem drop (h : roll.Records steps) (delegate : Delegate) :
    (roll.perform (.drop delegate)).Records (steps ++ [.drop delegate]) where
  counted := by simp [perform, h.counted, RegistryStep.isRegister]
  gone other := by
    simp [perform, h.gone, or_comm]
  bounded := h.bounded
  ordered := h.ordered
  serves id other := by
    rw [RegistryStep.serves_concat, ← h.serves, mem_present, mem_present]
    simp [perform, and_left_comm, eq_comm]

theorem look (h : roll.Records steps) :
    (roll.perform .look).Records (steps ++ [.look]) where
  counted := by simp [perform, DelegateRegistry.prune, h.counted, RegistryStep.isRegister]
  gone other := by simp [perform, h.gone]
  bounded entry hentry := h.bounded entry (List.mem_filter.mp hentry).1
  ordered := h.ordered.filter _
  serves id delegate := by
    rw [RegistryStep.serves_concat, ← h.serves, mem_present, mem_present]
    simp [perform, DelegateRegistry.prune, alive]

theorem perform (h : roll.Records steps) (step : RegistryStep) :
    (roll.perform step).Records (steps ++ [step]) := by
  cases step with
  | register delegate => exact h.register delegate
  | unregister id => exact h.unregister id
  | drop delegate => exact h.drop delegate
  | look => exact h.look

end Records

theorem records_ofSteps (steps : List RegistryStep) : (ofSteps steps).Records steps := by
  induction steps using List.reverseRecOn with
  | nil => exact Records.start
  | append_singleton steps step ih =>
    rw [ofSteps, List.foldl_append]
    exact ih.perform step

/-- The turns at a batch that is told after some steps. -/
def told (roll : Roll) (conduct : Nat × Delegate → Conduct) (limit start : Nat)
    (batch : ChangeBatch) : List Turn :=
  (roll.registry.dispatch roll.alive conduct limit start batch).2

theorem told_eq {batch : ChangeBatch} (telling : batch.isEmpty = false)
    (conduct : Nat × Delegate → Conduct) (limit start : Nat) :
    roll.told conduct limit start batch =
      turns limit start batch (roll.present.map fun entry => (entry.2, conduct entry)) := by
  rw [told, DelegateRegistry.dispatch, telling]
  rfl

end Roll

/-! ## Every batch -/

/-- A batch that says something is told, in the order of registration and one after the other, to
exactly the delegates that are registered and alive when this begins, each registration once.
Every turn goes through the parts that say something as the delegate's own conduct has it
(`Turn.Follows`) and begins when the turns before it are over, each of them given the time that
the delegate runs, up to the limit; so that all is over within the limit times the number of
turns.  What a delegate hears is a function of its conduct, whatever the registry, the other
delegates and the time. -/
theorem delegates_served_in_turn {batch : ChangeBatch} (telling : batch.isEmpty = false)
    (limit : Nat) :
    (∀ part, part ∈ batch.parts ↔ batch.Says part ∧ part.isEmpty = false) ∧
    batch.parts.Pairwise (·.rank < ·.rank) ∧
    ∃ hears : Conduct → List ChangeReport,
      ∀ (steps : List RegistryStep) (conduct : Nat × Delegate → Conduct) (start : Nat),
        let roll := Roll.ofSteps steps
        let told := roll.told conduct limit start batch
        (∀ id delegate, (id, delegate) ∈ roll.present ↔ RegistryStep.Serves steps id delegate) ∧
        roll.present.Pairwise (·.1 < ·.1) ∧
        told.length = roll.present.length ∧
        (∀ (k : Nat) (turn : Turn), told[k]? = some turn →
          ∃ taker, roll.present[k]? = some taker ∧ turn.delegate = taker.2 ∧
            turn.calls.map (·.2) = hears (conduct taker) ∧
            turn.Follows (conduct taker) limit
              (start + shares limit batch.parts ((roll.present.take k).map conduct))
              batch.parts) ∧
        turnsEnd start told ≤ start + roll.present.length * limit := by
  refine ⟨fun part => ChangeBatch.mem_parts, batch.ordered_parts,
    fun conduct => (conduct.hear limit 0 batch.parts).1.map (·.2), ?_⟩
  intro steps conduct start
  have hrecords := Roll.records_ofSteps steps
  dsimp only
  rw [Roll.told_eq telling]
  refine ⟨hrecords.serves, hrecords.ordered.filter _, ?_, ?_, ?_⟩
  · rw [length_turns, List.length_map]
  · intro k turn hturn
    rw [getElem?_turns, List.getElem?_map, Option.map_map] at hturn
    obtain ⟨taker, htaker, rfl⟩ := Option.map_eq_some_iff.mp hturn
    refine ⟨taker, htaker, rfl, Turn.map_snd_calls_at _ _, ?_⟩
    have hfollows := Turn.follows_at (conduct taker) limit
      (start + shares limit batch.parts (((Roll.ofSteps steps).present.take k).map conduct)) batch
      taker.2
    simpa [List.map_take, Function.comp_def] using hfollows
  · rw [turnsEnd_turns]
    have hshares := shares_le limit batch.parts ((Roll.ofSteps steps).present.map conduct)
    rw [List.length_map] at hshares
    simpa [Function.comp_def] using hshares

/-- Of three delegates the second is let go of, and the first never comes to an end. -/
def hangingFirst : List RegistryStep := [.register 7, .register 8, .register 9, .drop 8]

/-- The third delegate hears everything after the limit of the first. -/
theorem delegates_served_in_turn_hangingFirst :
    let batch := ChangeBatch.ofReports [.dependencies .all, .targets .unknown]
    let conduct : Nat × Delegate → Conduct := fun entry =>
      (if entry.2 = 7 then Manner.hanging else Manner.prompt).conduct
    batch.isEmpty = false ∧ ∃ turn,
      ((Roll.ofSteps hangingFirst).told conduct 200 0 batch)[1]? = some turn ∧
        turn.delegate = 9 ∧ turn.Follows Manner.prompt.conduct 200 200 batch.parts := by
  intro batch conduct
  have telling : batch.isEmpty = false := by decide
  obtain ⟨-, -, hears, h⟩ := delegates_served_in_turn telling 200
  obtain ⟨-, -, -, hturns, -⟩ := h hangingFirst conduct 0
  obtain ⟨turn, hturn⟩ : ∃ turn,
      ((Roll.ofSteps hangingFirst).told conduct 200 0 batch)[1]? = some turn := ⟨_, rfl⟩
  obtain ⟨taker, htaker, hdelegate, -, hfollows⟩ := hturns 1 turn hturn
  obtain rfl : (3, 9) = taker := Option.some.inj htaker
  exact ⟨telling, turn, hturn, hdelegate, hfollows⟩

end SettingsBroker
