/-!
# Guarded transition systems

A system is a start state and an executable step function which answers
`none` for a step that is not enabled.  Invariants are proved over
`Reachable`.  Statements about one given run are proved over the list of its
steps: `Always` says that a property holds in every state the run visits, and
`Each` that every step the run takes meets a condition on the step and on the
state before it.  A step that is not enabled ends the run.
-/

namespace EspFirmware.Library

universe u v w

/-- A start state with a guarded, executable step function. -/
structure System (State : Type u) (Step : Type v) where
  start : State
  next : State → Step → Option State

namespace System

variable
    {State : Type u}
    {Step : Type v}
    (system : System State Step)

/-- States reached from the start by enabled steps. -/
inductive Reachable : State → Prop where
  | start : Reachable system.start
  | next {state after : State} {step : Step}
      (reached : Reachable state)
      (taken : system.next state step = some after) :
      Reachable after

variable {system}

/--
An invariant which holds at the start and is kept by every enabled step from
a reachable state holds in every reachable state.
-/
theorem Reachable.invariant
    {property : State → Prop}
    (initially : property system.start)
    (preserved :
      ∀ state step after,
        property state →
          system.next state step = some after →
            property after)
    {state : State}
    (reached : system.Reachable state) :
    property state := by
  induction reached with
  | start => exact initially
  | next _ taken induction => exact preserved _ _ _ induction taken

variable (system)

/-- Every state visited by the run has the property. -/
def Always (property : State → Prop) : State → List Step → Prop
  | state, [] => property state
  | state, step :: rest =>
      property state ∧
        ∀ after, system.next state step = some after →
          Always property after rest

/-- Every step the run takes meets the condition in the state before it. -/
def Each (condition : State → Step → Prop) : State → List Step → Prop
  | _, [] => True
  | state, step :: rest =>
      ∀ after, system.next state step = some after →
        condition state step ∧ Each condition after rest

/-- A condition which can be decided can be decided along a run. -/
instance Each.decidable
    (condition : State → Step → Prop)
    [∀ state step, Decidable (condition state step)]
    (state : State) :
    (steps : List Step) → Decidable (system.Each condition state steps)
  | [] => isTrue True.intro
  | step :: rest =>
      match taken : system.next state step with
      | none => isTrue fun _ moved => nomatch taken.symm.trans moved
      | some next =>
          have := decidable condition next rest
          decidable_of_iff
            (condition state step ∧ system.Each condition next rest)
            ⟨fun met after moved => by
                cases taken.symm.trans moved
                exact met,
              fun each => each next taken⟩

/-- The state a run ends in, when all of its steps are enabled. -/
def run : State → List Step → Option State
  | state, [] => some state
  | state, step :: rest =>
      (system.next state step).bind fun after => run after rest

/-- Keep only the steps allowed in the current state. -/
def restrict
    (allowed : State → Step → Prop)
    [∀ state step, Decidable (allowed state step)] :
    System State Step where
  start := system.start
  next state step :=
    if allowed state step then system.next state step else none

variable {system}

theorem restrict_next_eq_some
    {allowed : State → Step → Prop}
    [∀ state step, Decidable (allowed state step)]
    {state after : State}
    {step : Step} :
    (system.restrict allowed).next state step = some after ↔
      allowed state step ∧ system.next state step = some after := by
  simp [restrict]

/-- The end of a run is reachable from where it started. -/
theorem Reachable.run
    {state after : State}
    {steps : List Step}
    (reached : system.Reachable state)
    (ran : system.run state steps = some after) :
    system.Reachable after := by
  induction steps generalizing state with
  | nil =>
      cases ran
      exact reached
  | cons step rest induction =>
      simp only [System.run, Option.bind_eq_some_iff] at ran
      rcases ran with ⟨middle, taken, ranRest⟩
      exact induction (reached.next taken) ranRest

theorem Always.here
    {property : State → Prop}
    {state : State}
    {steps : List Step}
    (always : system.Always property state steps) :
    property state := by
  cases steps with
  | nil => exact always
  | cons step rest => exact always.1

/-- Behind the front of a run, its back is a run of its own. -/
theorem Always.after
    {property : State → Prop}
    {state middle : State}
    {front back : List Step}
    (always : system.Always property state (front ++ back))
    (ran : system.run state front = some middle) :
    system.Always property middle back := by
  induction front generalizing state with
  | nil =>
      cases ran
      exact always
  | cons step rest induction =>
      simp only [System.run, Option.bind_eq_some_iff] at ran
      rcases ran with ⟨next, taken, ranRest⟩
      exact induction (always.2 next taken) ranRest

/-- A property which always holds along a run holds where the run ends. -/
theorem Always.last
    {property : State → Prop}
    {state after : State}
    {steps : List Step}
    (always : system.Always property state steps)
    (ran : system.run state steps = some after) :
    property after := by
  induction steps generalizing state with
  | nil =>
      cases ran
      exact always
  | cons step rest induction =>
      simp only [System.run, Option.bind_eq_some_iff] at ran
      rcases ran with ⟨middle, taken, ranRest⟩
      exact induction (always.2 middle taken) ranRest

/-- The same where only some value of the last state is known. -/
theorem Always.last_of_map
    {α : Type w}
    {property : State → Prop}
    {observe : State → α} {value : α}
    {state : State}
    {steps : List Step}
    (always : system.Always property state steps)
    (ran : (system.run state steps).map observe = some value) :
    ∃ after, observe after = value ∧ property after := by
  rcases Option.map_eq_some_iff.mp ran with ⟨after, ranTo, observed⟩
  exact ⟨after, observed, always.last ranTo⟩

/--
The exact run rule.  Let `invariant` be kept as long as `property` survives,
and let one step keep `property` exactly when it meets `condition`.  Then the
property holds in every state of a run exactly when every step of the run
meets the condition.
-/
theorem always_iff_each
    {property invariant : State → Prop}
    {condition : State → Step → Prop}
    (exact_step :
      ∀ state step after,
        invariant state → property state →
          system.next state step = some after →
            ((property after ↔ condition state step) ∧
              (property after → invariant after)))
    {state : State}
    (steps : List Step)
    (invariantHere : invariant state)
    (propertyHere : property state) :
    system.Always property state steps ↔
      system.Each condition state steps := by
  induction steps generalizing state with
  | nil =>
      exact ⟨fun _ => True.intro, fun _ => propertyHere⟩
  | cons step rest induction =>
      constructor
      · intro always after taken
        have stepExact :=
          exact_step state step after invariantHere propertyHere taken
        have propertyAfter : property after :=
          (always.2 after taken).here
        exact
          ⟨stepExact.1.mp propertyAfter,
            (induction (stepExact.2 propertyAfter) propertyAfter).mp
              (always.2 after taken)⟩
      · intro each
        refine ⟨propertyHere, ?_⟩
        intro after taken
        have stepExact :=
          exact_step state step after invariantHere propertyHere taken
        have propertyAfter : property after :=
          stepExact.1.mpr (each after taken).1
        exact
          (induction (stepExact.2 propertyAfter) propertyAfter).mpr
            (each after taken).2

/--
The run rule for an invariant which is kept by every step that meets a
condition: it, and what it implies, holds along every run of such steps.
-/
theorem Each.always
    {property invariant : State → Prop}
    {condition : State → Step → Prop}
    (implied : ∀ state, invariant state → property state)
    (kept :
      ∀ state step after,
        invariant state → condition state step →
          system.next state step = some after →
            invariant after)
    {state : State}
    {steps : List Step}
    (each : system.Each condition state steps)
    (here : invariant state) :
    system.Always property state steps := by
  induction steps generalizing state with
  | nil => exact implied state here
  | cons step rest induction =>
      refine ⟨implied state here, ?_⟩
      intro after taken
      rcases each after taken with ⟨met, eachRest⟩
      exact induction eachRest (kept state step after here met taken)

/-- The run rule for an invariant which every step keeps. -/
theorem always_of_invariant
    {property invariant : State → Prop}
    (implied : ∀ state, invariant state → property state)
    (kept :
      ∀ state step after,
        invariant state → system.next state step = some after →
          invariant after)
    {state : State}
    (steps : List Step)
    (here : invariant state) :
    system.Always property state steps := by
  induction steps generalizing state with
  | nil => exact implied state here
  | cons step rest induction =>
      refine ⟨implied state here, ?_⟩
      intro after taken
      exact induction (kept state step after here taken)

/-- The exact run rule for a property which needs no further invariant. -/
theorem always_iff_each_of_step
    {property : State → Prop}
    {condition : State → Step → Prop}
    (exact_step :
      ∀ state step after,
        property state →
          system.next state step = some after →
            (property after ↔ condition state step))
    {state : State}
    (steps : List Step)
    (propertyHere : property state) :
    system.Always property state steps ↔
      system.Each condition state steps := by
  have noInvariant : (fun _ : State => True) state := True.intro
  exact
    always_iff_each
      (fun state step after _ here taken =>
        ⟨exact_step state step after here taken, fun _ => True.intro⟩)
      steps noInvariant propertyHere

end System

end EspFirmware.Library
