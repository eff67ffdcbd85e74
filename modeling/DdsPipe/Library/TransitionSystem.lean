import Mathlib.Logic.Relation

/-!
Owns labelled transition systems whose step is a partial function of a label:
runs, the states they lead to, and the induction rules that every invariant of
a run goes through.

A label carries each choice that the environment makes, so a system is
executable once its labels are given. `Admits` restricts the steps of a run;
a rule stated for `Admits` is about all runs whose steps meet it.

Does not own: any particular state, label or invariant.
-/

namespace TransitionSystem

/-- A transition system over labels. `step state label = none` when the step
cannot be taken in `state`. -/
structure System (State Label : Type) where
  Initial : State → Prop
  step : State → Label → Option State

/-- Every step is admitted. -/
def anyStep {State Label : Type} (_ : State) (_ : Label) : Prop := True

namespace System

variable {State Label : Type} (system : System State Label)

/-- One admitted step. -/
def Move (Admits : State → Label → Prop) (state next : State) : Prop :=
  ∃ label, Admits state label ∧ system.step state label = some next

/-- A finite run of admitted steps. -/
def Leads (Admits : State → Label → Prop) : State → State → Prop :=
  Relation.ReflTransGen (system.Move Admits)

/-- The states of the runs that start in an initial state and whose steps are
all admitted. -/
def Reachable (Admits : State → Label → Prop) (state : State) : Prop :=
  ∃ start, system.Initial start ∧ system.Leads Admits start state

/-- Execute a list of labels. -/
def run (state : State) : List Label → Option State
  | [] => some state
  | label :: rest => (system.step state label).bind fun next => run next rest

/-- Execute a list of labels, checking every step against `admits`. -/
def runAdmitted (admits : State → Label → Bool) (state : State) : List Label → Option State
  | [] => some state
  | label :: rest =>
      if admits state label then
        (system.step state label).bind fun next => runAdmitted admits next rest
      else none

variable {system} {Admits : State → Label → Prop}

theorem Reachable.start {state : State} (initial : system.Initial state) :
    system.Reachable Admits state :=
  ⟨state, initial, .refl⟩

theorem Reachable.next {state next : State} {label : Label}
    (reached : system.Reachable Admits state) (admitted : Admits state label)
    (taken : system.step state label = some next) : system.Reachable Admits next := by
  obtain ⟨start, initial, leads⟩ := reached
  exact ⟨start, initial, leads.tail ⟨label, admitted, taken⟩⟩

theorem Reachable.trans {state next : State} (reached : system.Reachable Admits state)
    (leads : system.Leads Admits state next) : system.Reachable Admits next := by
  obtain ⟨start, initial, before⟩ := reached
  exact ⟨start, initial, before.trans leads⟩

/-- **The invariant rule.** What holds initially and is kept by every admitted
step holds in every reachable state. -/
theorem Reachable.invariant {Invariant : State → Prop}
    (initially : ∀ state, system.Initial state → Invariant state)
    (kept : ∀ state label next, Invariant state → Admits state label →
      system.step state label = some next → Invariant next)
    {state : State} (reached : system.Reachable Admits state) : Invariant state := by
  obtain ⟨start, initial, leads⟩ := reached
  induction leads with
  | refl => exact initially start initial
  | tail _ move inductionHypothesis =>
      obtain ⟨label, admitted, taken⟩ := move
      exact kept _ label _ inductionHypothesis admitted taken

/-- What one admitted step from a reachable state relates, transitively and
reflexively, every run from a reachable state relates. -/
theorem Leads.related {Related : State → State → Prop}
    (reflexive : ∀ state, Related state state)
    (transitive : ∀ first second third, Related first second → Related second third →
      Related first third)
    (stepwise : ∀ state label next, system.Reachable Admits state → Admits state label →
      system.step state label = some next → Related state next)
    {state next : State} (reached : system.Reachable Admits state)
    (leads : system.Leads Admits state next) : Related state next := by
  induction leads with
  | refl => exact reflexive state
  | tail before move inductionHypothesis =>
      obtain ⟨label, admitted, taken⟩ := move
      exact transitive _ _ _ inductionHypothesis
        (stepwise _ label _ (reached.trans before) admitted taken)

/-! ### Executed runs -/

/-- An executed run whose labels are admitted in every state. -/
theorem Leads.of_run {labels : List Label}
    (admitted : ∀ label ∈ labels, ∀ state, Admits state label) {state next : State}
    (executed : system.run state labels = some next) : system.Leads Admits state next := by
  induction labels generalizing state with
  | nil =>
      cases executed
      exact .refl
  | cons label rest inductionHypothesis =>
      obtain ⟨middle, taken, remaining⟩ := Option.bind_eq_some_iff.mp executed
      exact .head ⟨label, admitted label List.mem_cons_self state, taken⟩
        (inductionHypothesis (fun other member => admitted other (List.mem_cons_of_mem _ member))
          remaining)

theorem Leads.of_runAdmitted {admits : State → Label → Bool} {labels : List Label}
    (sound : ∀ state label, label ∈ labels → admits state label = true → Admits state label)
    {state next : State}
    (executed : system.runAdmitted admits state labels = some next) :
    system.Leads Admits state next := by
  induction labels generalizing state with
  | nil =>
      cases executed
      exact .refl
  | cons label rest inductionHypothesis =>
      unfold runAdmitted at executed
      split at executed
      · next admitted =>
          obtain ⟨middle, taken, remaining⟩ := Option.bind_eq_some_iff.mp executed
          exact .head ⟨label, sound state label List.mem_cons_self admitted, taken⟩
            (inductionHypothesis
              (fun state other member => sound state other (List.mem_cons_of_mem _ member))
              remaining)
      · cases executed

/-- A test on the last state of an executed run yields a reachable state that
passes it. -/
theorem exists_reachable_of_run (system : System State Label) (start : State)
    (labels : List Label) (test : State → Bool)
    (admitted : ∀ label ∈ labels, ∀ state, Admits state label) (initial : system.Initial start)
    (executed : (system.run start labels).any test = true) :
    ∃ state, system.Reachable Admits state ∧ test state = true := by
  cases outcome : system.run start labels with
  | none => simp [outcome] at executed
  | some state =>
      refine ⟨state, ⟨start, initial, Leads.of_run admitted outcome⟩, ?_⟩
      simpa [outcome] using executed

theorem exists_reachable_of_runAdmitted (system : System State Label) (start : State)
    (labels : List Label) (admits : State → Label → Bool) (test : State → Bool)
    (sound : ∀ state label, label ∈ labels → admits state label = true → Admits state label)
    (initial : system.Initial start)
    (executed : (system.runAdmitted admits start labels).any test = true) :
    ∃ state, system.Reachable Admits state ∧ test state = true := by
  cases outcome : system.runAdmitted admits start labels with
  | none => simp [outcome] at executed
  | some state =>
      refine ⟨state, ⟨start, initial, Leads.of_runAdmitted sound outcome⟩, ?_⟩
      simpa [outcome] using executed

end System

end TransitionSystem
