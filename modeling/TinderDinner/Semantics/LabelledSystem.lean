import Mathlib.Data.List.Basic

/-!
# Labelled systems and their finite runs

A `LabelledSystem` is a set of initial states and a step relation whose labels
are actions. `Runs` keeps the whole list of actions, so a statement about a run
may count them. `restrict` keeps only the steps that meet a condition on the
state before them, and `track` runs a history variable beside the system without
removing any of its runs. `ofStep` reads a system off a partial function, and
`replay` computes one of its runs.
-/

universe u v w z

/-- Open transition relation with labelled steps. -/
structure LabelledSystem (State : Type u) (Action : Type v) where
  Initial : State → Prop
  Step : State → Action → State → Prop

namespace LabelledSystem

variable {State : Type u} {Action : Type v} {Ghost : Type w}
variable {system : LabelledSystem State Action}

/-- Finitely many steps from a selected state, with the actions taken. -/
inductive Steps (system : LabelledSystem State Action) :
    State → List Action → State → Prop where
  | refl {state} : Steps system state [] state
  | step {start actions state action next}
      (prior : Steps system start actions state)
      (transition : system.Step state action next) :
      Steps system start (actions ++ [action]) next

/-- Finitely many steps from some initial state, with the actions taken. -/
inductive Runs (system : LabelledSystem State Action) : List Action → State → Prop where
  | initial {state} (valid : system.Initial state) : Runs system [] state
  | step {actions state action next}
      (prior : Runs system actions state)
      (transition : system.Step state action next) :
      Runs system (actions ++ [action]) next

/-- A run continues along any steps from its last state. -/
theorem Runs.append {before after : List Action} {state next : State}
    (runs : system.Runs before state) (steps : system.Steps state after next) :
    system.Runs (before ++ after) next := by
  induction steps with
  | refl => simpa using runs
  | step _ transition inductionHypothesis =>
      simpa [List.append_assoc] using inductionHypothesis.step transition

/-- Steps from the last state of some steps continue them. -/
theorem Steps.append {before after : List Action} {start middle state : State}
    (first : system.Steps start before middle) (second : system.Steps middle after state) :
    system.Steps start (before ++ after) state := by
  induction second with
  | refl => simpa using first
  | step _ transition inductionHypothesis =>
      simpa [List.append_assoc] using inductionHypothesis.step transition

/-- No steps lead nowhere. -/
theorem Steps.eq_of_nil {start state : State} (steps : system.Steps start [] state) :
    state = start := by
  generalize none : ([] : List Action) = actions at steps
  cases steps with
  | refl => rfl
  | step => simp at none

/-- The first of some steps, and the rest. -/
theorem Steps.uncons {action : Action} {actions : List Action} {start state : State}
    (steps : system.Steps start (action :: actions) state) :
    ∃ middle, system.Step start action middle ∧ system.Steps middle actions state := by
  generalize taken : action :: actions = all at steps
  induction steps generalizing actions with
  | refl => cases taken
  | @step before state last next prior transition inductionHypothesis =>
      cases before with
      | nil =>
          obtain ⟨rfl, rfl⟩ := List.cons_eq_cons.mp taken
          obtain rfl := prior.eq_of_nil
          exact ⟨next, transition, .refl⟩
      | cons first rest =>
          obtain ⟨rfl, rfl⟩ := List.cons_eq_cons.mp taken
          obtain ⟨middle, begun, remaining⟩ := inductionHypothesis rfl
          exact ⟨middle, begun, remaining.step transition⟩

/-- What holds initially and is kept by every step holds after every run. -/
theorem Runs.invariant (Inv : State → Prop)
    (initially : ∀ {state}, system.Initial state → Inv state)
    (preserved : ∀ {state action next}, Inv state → system.Step state action next → Inv next)
    {actions : List Action} {state : State} (runs : system.Runs actions state) : Inv state := by
  induction runs with
  | initial valid => exact initially valid
  | step _ transition inductionHypothesis => exact preserved inductionHypothesis transition

/-- An invariant of the system holds after every suffix of a state where it holds. -/
theorem Steps.invariant (Inv : State → Prop)
    (preserved : ∀ {state action next}, Inv state → system.Step state action next → Inv next)
    {actions : List Action} {start state : State} (holds : Inv start)
    (steps : system.Steps start actions state) : Inv state := by
  induction steps with
  | refl => exact holds
  | step _ transition inductionHypothesis =>
      exact preserved inductionHypothesis transition

/-- A preorder that relates the two ends of every step from an invariant state
relates the two ends of every suffix. -/
theorem Steps.related (Inv : State → Prop) (Rel : State → State → Prop)
    (refl : ∀ state, Rel state state)
    (trans : ∀ {first middle last}, Rel first middle → Rel middle last → Rel first last)
    (preserved : ∀ {state action next}, Inv state → system.Step state action next → Inv next)
    (related : ∀ {state action next}, Inv state → system.Step state action next → Rel state next)
    {actions : List Action} {start state : State} (holds : Inv start)
    (steps : system.Steps start actions state) : Rel start state := by
  induction steps with
  | refl => exact refl _
  | step prior transition inductionHypothesis =>
      exact trans inductionHypothesis
        (related (prior.invariant Inv preserved holds) transition)

/-! ### Fewer steps -/

/-- Steps of a system with fewer steps are steps. -/
theorem Steps.mono {larger : LabelledSystem State Action}
    (step : ∀ {state action next}, system.Step state action next →
      larger.Step state action next)
    {actions : List Action} {start state : State} (steps : system.Steps start actions state) :
    larger.Steps start actions state := by
  induction steps with
  | refl => exact .refl
  | step _ transition inductionHypothesis => exact inductionHypothesis.step (step transition)

/-- Runs of a system with fewer initial states and fewer steps are runs. -/
theorem Runs.mono {larger : LabelledSystem State Action}
    (initial : ∀ {state}, system.Initial state → larger.Initial state)
    (step : ∀ {state action next}, system.Step state action next →
      larger.Step state action next)
    {actions : List Action} {state : State} (runs : system.Runs actions state) :
    larger.Runs actions state := by
  induction runs with
  | initial valid => exact .initial (initial valid)
  | step _ transition inductionHypothesis => exact inductionHypothesis.step (step transition)

/-- Where each step is matched by steps of another system, all steps together are. -/
theorem Steps.simulate {Abstract : Type w} {Command : Type z}
    {abstract : LabelledSystem Abstract Command} {Rel : State → Abstract → Prop}
    (matched : ∀ {state action next spec}, Rel state spec → system.Step state action next →
      ∃ commands after, abstract.Steps spec commands after ∧ Rel next after)
    {actions : List Action} {start state : State} {spec : Abstract} (related : Rel start spec)
    (steps : system.Steps start actions state) :
    ∃ commands after, abstract.Steps spec commands after ∧ Rel state after := by
  induction steps with
  | refl => exact ⟨[], spec, .refl, related⟩
  | step _ transition inductionHypothesis =>
      obtain ⟨before, middle, prior, same⟩ := inductionHypothesis
      obtain ⟨commands, after, more, still⟩ := matched same transition
      exact ⟨before ++ commands, after, prior.append more, still⟩

/-- The same system, cut down to the steps that meet `condition`. -/
def restrict (system : LabelledSystem State Action) (condition : State → Action → Prop) :
    LabelledSystem State Action where
  Initial := system.Initial
  Step state action next := condition state action ∧ system.Step state action next

/-- A run whose steps all meet a condition is a run. -/
theorem Runs.ofRestrict {condition : State → Action → Prop} {actions : List Action}
    {state : State} (runs : (system.restrict condition).Runs actions state) :
    system.Runs actions state := by
  refine runs.mono ?_ ?_
  · exact id
  · rintro _ _ _ ⟨_, transition⟩
    exact transition

/-! ### History variables -/

/-- Run `update` beside the system. The state gains a second component that no
step reads. -/
def track (system : LabelledSystem State Action) (start : Ghost)
    (update : State → Action → State → Ghost → Ghost) :
    LabelledSystem (State × Ghost) Action where
  Initial pair := system.Initial pair.1 ∧ pair.2 = start
  Step pair action next :=
    system.Step pair.1 action next.1 ∧ next.2 = update pair.1 action next.1 pair.2

/-- Forgetting the history variable gives a run of the system. -/
theorem Runs.ofTrack {start : Ghost} {update : State → Action → State → Ghost → Ghost}
    {actions : List Action} {pair : State × Ghost}
    (runs : (system.track start update).Runs actions pair) : system.Runs actions pair.1 := by
  induction runs with
  | initial valid => exact .initial valid.1
  | step _ transition inductionHypothesis => exact inductionHypothesis.step transition.1

/-- Every run carries the history variable: tracking removes no behavior. -/
theorem Runs.tracked {start : Ghost} {update : State → Action → State → Ghost → Ghost}
    {actions : List Action} {state : State} (runs : system.Runs actions state) :
    ∃ ghost, (system.track start update).Runs actions (state, ghost) := by
  induction runs with
  | initial valid => exact ⟨start, .initial ⟨valid, rfl⟩⟩
  | @step actions state action next _ transition inductionHypothesis =>
      obtain ⟨ghost, prior⟩ := inductionHypothesis
      exact ⟨update state action next ghost, prior.step ⟨transition, rfl⟩⟩

/-! ### Systems given by a partial function -/

/-- The system of a partial step function. -/
def ofStep (Initial : State → Prop) (step : State → Action → Option State) :
    LabelledSystem State Action where
  Initial := Initial
  Step state action next := step state action = some next

/-- Take the listed steps, if every one of them is possible. -/
def replay (step : State → Action → Option State) : State → List Action → Option State
  | state, [] => some state
  | state, action :: actions => (step state action).bind fun next => replay step next actions

/-- A successful replay is a chain of steps. -/
theorem steps_of_replay {Initial : State → Prop} {step : State → Action → Option State}
    {actions : List Action} {start state : State}
    (replayed : replay step start actions = some state) :
    (ofStep Initial step).Steps start actions state := by
  have extend : ∀ (before : List Action) (middle : State),
      (ofStep Initial step).Steps start before middle →
        replay step middle actions = some state →
          (ofStep Initial step).Steps start (before ++ actions) state := by
    clear replayed
    induction actions with
    | nil =>
        intro before middle prior replayed
        simp only [replay, Option.some.injEq] at replayed
        subst replayed
        simpa using prior
    | cons action actions inductionHypothesis =>
        intro before middle prior replayed
        simp only [replay, Option.bind_eq_some_iff] at replayed
        obtain ⟨next, transition, rest⟩ := replayed
        have longer := inductionHypothesis (before ++ [action]) next
          (prior.step transition) rest
        simpa [List.append_assoc] using longer
  simpa using extend [] start .refl replayed

/-- A successful replay from an initial state is a run. -/
theorem runs_of_replay {Initial : State → Prop} {step : State → Action → Option State}
    {actions : List Action} {start state : State} (valid : Initial start)
    (replayed : replay step start actions = some state) :
    (ofStep Initial step).Runs actions state := by
  have begun : (ofStep Initial step).Runs [] start := .initial valid
  simpa using begun.append (steps_of_replay replayed)

/-- The step function cut down to the steps that meet `condition`. -/
def guarded (condition : State → Action → Prop) [∀ state action, Decidable (condition state action)]
    (step : State → Action → Option State) (state : State) (action : Action) : Option State :=
  if condition state action then step state action else none

/-- A step of the guarded function is one of the restricted system. -/
theorem step_of_guarded {Initial : State → Prop} {step : State → Action → Option State}
    {condition : State → Action → Prop} [∀ state action, Decidable (condition state action)]
    {state next : State} {action : Action}
    (transition : (ofStep Initial (guarded condition step)).Step state action next) :
    ((ofStep Initial step).restrict condition).Step state action next := by
  simpa only [restrict, ofStep, guarded, Option.ite_none_right_eq_some] using transition

/-- A successful guarded replay is a chain of steps which all meet the condition. -/
theorem restrict_steps_of_replay {Initial : State → Prop} {step : State → Action → Option State}
    {condition : State → Action → Prop} [∀ state action, Decidable (condition state action)]
    {actions : List Action} {start state : State}
    (replayed : replay (guarded condition step) start actions = some state) :
    ((ofStep Initial step).restrict condition).Steps start actions state := by
  have steps : (ofStep Initial (guarded condition step)).Steps start actions state :=
    steps_of_replay replayed
  exact steps.mono step_of_guarded

/-- A successful guarded replay is a run whose steps all meet the condition. -/
theorem restrict_runs_of_replay {Initial : State → Prop} {step : State → Action → Option State}
    {condition : State → Action → Prop} [∀ state action, Decidable (condition state action)]
    {actions : List Action} {start state : State} (valid : Initial start)
    (replayed : replay (guarded condition step) start actions = some state) :
    ((ofStep Initial step).restrict condition).Runs actions state := by
  have runs : (ofStep Initial (guarded condition step)).Runs actions state :=
    runs_of_replay valid replayed
  refine runs.mono ?_ step_of_guarded
  exact id

/-- The step function with a history variable beside the state. -/
def tracked (update : State → Action → State → Ghost → Ghost)
    (step : State → Action → Option State) (pair : State × Ghost) (action : Action) :
    Option (State × Ghost) :=
  (step pair.1 action).map fun next => (next, update pair.1 action next pair.2)

/-- A step of the tracked function is one of the system with its history. -/
theorem step_of_tracked {Initial : State → Prop} {Begin : State × Ghost → Prop} {before : Ghost}
    {update : State → Action → State → Ghost → Ghost} {step : State → Action → Option State}
    {pair next : State × Ghost} {action : Action}
    (transition : (ofStep Begin (tracked update step)).Step pair action next) :
    ((ofStep Initial step).track before update).Step pair action next := by
  obtain ⟨state, taken, rfl⟩ := Option.map_eq_some_iff.mp transition
  exact ⟨taken, rfl⟩

/-- A successful replay is a chain of steps of the tracked system. -/
theorem track_steps_of_replay {Initial : State → Prop} {before : Ghost}
    {update : State → Action → State → Ghost → Ghost} {step : State → Action → Option State}
    {actions : List Action} {start pair : State × Ghost}
    (replayed : replay (tracked update step) start actions = some pair) :
    ((ofStep Initial step).track before update).Steps start actions pair := by
  have steps : (ofStep (fun _ => True) (tracked update step)).Steps start actions pair :=
    steps_of_replay replayed
  exact steps.mono step_of_tracked

/-- A successful replay is a run of the tracked system. -/
theorem track_runs_of_replay {Initial : State → Prop} {before : Ghost}
    {update : State → Action → State → Ghost → Ghost} {step : State → Action → Option State}
    {actions : List Action} {start : State} {pair : State × Ghost} (valid : Initial start)
    (replayed : replay (tracked update step) (start, before) actions = some pair) :
    ((ofStep Initial step).track before update).Runs actions pair := by
  have runs : (ofStep ((ofStep Initial step).track before update).Initial
      (tracked update step)).Runs actions pair := runs_of_replay (by exact ⟨valid, rfl⟩) replayed
  refine runs.mono ?_ step_of_tracked
  exact id

/-- A successful guarded replay is a run of the tracked system whose steps all meet the
condition. -/
theorem track_restrict_runs_of_replay {Initial : State → Prop} {before : Ghost}
    {update : State → Action → State → Ghost → Ghost} {step : State → Action → Option State}
    {condition : State × Ghost → Action → Prop}
    [∀ pair action, Decidable (condition pair action)]
    {actions : List Action} {start : State} {pair : State × Ghost} (valid : Initial start)
    (replayed : replay (guarded condition (tracked update step)) (start, before) actions =
      some pair) :
    (((ofStep Initial step).track before update).restrict condition).Runs actions pair := by
  have runs : ((ofStep ((ofStep Initial step).track before update).Initial
      (tracked update step)).restrict condition).Runs actions pair :=
    restrict_runs_of_replay (by exact ⟨valid, rfl⟩) replayed
  refine runs.mono ?_ ?_
  · exact id
  · rintro _ _ _ ⟨met, transition⟩
    exact ⟨met, step_of_tracked transition⟩

/-- A successful guarded replay is a chain of steps of the tracked system which all meet the
condition. -/
theorem track_restrict_steps_of_replay {Initial : State → Prop} {before : Ghost}
    {update : State → Action → State → Ghost → Ghost} {step : State → Action → Option State}
    {condition : State × Ghost → Action → Prop}
    [∀ pair action, Decidable (condition pair action)]
    {actions : List Action} {start pair : State × Ghost}
    (replayed : replay (guarded condition (tracked update step)) start actions = some pair) :
    (((ofStep Initial step).track before update).restrict condition).Steps start actions pair := by
  have steps : ((ofStep (fun _ => True) (tracked update step)).restrict condition).Steps start
      actions pair := restrict_steps_of_replay replayed
  refine steps.mono ?_
  rintro _ _ _ ⟨met, transition⟩
  exact ⟨met, step_of_tracked transition⟩

end LabelledSystem
