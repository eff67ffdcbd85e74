import DdsPipe.Core.Invariants

/-!
Owns the pipe together with the discovery database whose callbacks it
registered: an operation that the database takes from its queue is one step with
the callbacks that it makes.

Owns the system whose runs interleave these operations with the calls of the
user.
-/

namespace DdsPipe.Core

open Std (TreeMap)
open DdsPipe.Types DdsPipe.Dynamic DdsPipe.Configuration DdsPipe.Communication

/-- The database starts empty when the pipe has been constructed. -/
structure Discovery (Filter : Type) where
  entities : Entities := ∅
  pipe : Pipe Filter

inductive Action (Filter : Type) where
  | enable
  | disable
  | reloadConfiguration (newConfiguration : DdsPipeConfiguration Filter)
  | database (item : DatabaseOperation × Endpoint)

/-- The map that an action leaves in the database, and the calls of the pipe. -/
def Action.calls {Filter : Type} (entities : Entities) :
    Action Filter → Entities × List (Call Filter)
  | .enable => (entities, [.enable])
  | .disable => (entities, [.disable])
  | .reloadConfiguration newConfiguration => (entities, [.reloadConfiguration newConfiguration])
  | .database item =>
      let processed := processItem entities item
      (processed.1, processed.notifications.map (.notified processed.1))

/-- An action, and which of the entities that it asks for cannot be created. -/
structure Event (Filter : Type) where
  action : Action Filter
  createThrows : CreateThrows := neverThrows

section

variable {Filter : Type} [IFilterTopic Filter] (configuration : DdsPipeConfiguration Filter)
  (participants : ParticipantsDatabase)

def Discovery.perform (environment : Environment) (state : Discovery Filter)
    (action : Action Filter) : Except Fault (Discovery Filter) := do
  let pipe ← (action.calls state.entities).2.foldlM (Pipe.perform configuration environment)
    state.pipe
  return { entities := (action.calls state.entities).1, pipe := pipe }

/-- The runs of a pipe with its database. -/
def discoverySystem : TransitionSystem.System (Discovery Filter) (Event Filter) where
  Initial state := state.entities = ∅ ∧ ∃ createThrows,
    Pipe.construct configuration ⟨participants, createThrows⟩ = .ok (.ok state.pipe)
  step state event :=
    (state.perform configuration ⟨participants, event.createThrows⟩ event.action).toOption

variable {configuration} {participants} {environment : Environment} {state next : Discovery Filter}

theorem discoveryStep_eq_some_iff {event : Event Filter} :
    (discoverySystem configuration participants).step state event = some next ↔
      state.perform configuration ⟨participants, event.createThrows⟩ event.action = .ok next := by
  simp only [discoverySystem]
  cases state.perform configuration ⟨participants, event.createThrows⟩ event.action <;>
    simp [Except.toOption]

/-- **One action** leaves the pipe as it is, or is one call of it. -/
theorem discoveryPerform_cases {action : Action Filter}
    (succeeded : state.perform configuration environment action = .ok next) :
    next.entities = (action.calls state.entities).1 ∧
      ((action.calls state.entities).2 = [] ∧ next.pipe = state.pipe ∨
        ∃ call, (action.calls state.entities).2 = [call] ∧
          state.pipe.perform configuration environment call = .ok next.pipe) := by
  obtain ⟨pipe, called, finished⟩ := OrderedMap.bind_eq_ok_iff.mp succeeded
  cases finished
  have single : ∀ call, (action.calls state.entities).2 = [call] →
      state.pipe.perform configuration environment call = .ok pipe := by
    intro call only
    rw [only, List.foldlM_cons] at called
    obtain ⟨last, performed, done⟩ := OrderedMap.bind_eq_ok_iff.mp called
    cases done
    exact performed
  refine ⟨rfl, ?_⟩
  cases action with
  | enable => exact .inr ⟨_, rfl, single _ rfl⟩
  | disable => exact .inr ⟨_, rfl, single _ rfl⟩
  | reloadConfiguration newConfiguration => exact .inr ⟨_, rfl, single _ rfl⟩
  | database item =>
      rcases processItem_cases state.entities item with
        ⟨_, silent, _⟩ | ⟨_, told, _⟩ | ⟨_, _, _, silent, _⟩
      · simp only [Action.calls, silent, List.map_nil, List.foldlM_nil] at called ⊢
        cases called
        exact .inl ⟨trivial, rfl⟩
      · have only : ((Action.database item : Action Filter).calls state.entities).2 =
            [.notified (processItem state.entities item).1 (item.1.callback item.2)] := by
          simp only [Action.calls, told, List.map_cons, List.map_nil]
        exact .inr ⟨_, only, single _ only⟩
      · simp only [Action.calls, silent, List.map_nil, List.foldlM_nil] at called ⊢
        cases called
        exact .inl ⟨trivial, rfl⟩

/-- **One operation of the database.** The pipe is notified of what the operation
does to the map; or the operation is rejected, or adds over an inactive endpoint,
and the pipe is left as it is. -/
theorem databasePerform_cases {item : DatabaseOperation × Endpoint}
    (succeeded : state.perform configuration environment (.database item) = .ok next) :
    next.entities = (processItem state.entities item).1 ∧
    ((∀ guid : Guid, next.entities[guid]? = state.entities[guid]?) ∧ next.pipe = state.pipe ∨
      item.1 = .add ∧ (∃ stored, state.entities[item.2.guid]? = some stored ∧
        stored.active = false) ∧
        next.entities = state.entities.insert item.2.guid item.2 ∧ next.pipe = state.pipe ∨
      (item.1 = .add → state.entities[item.2.guid]? = none) ∧
        next.entities = hear state.entities (item.1.callback item.2) ∧
        (processItem state.entities item).notifications = [item.1.callback item.2] ∧
        state.pipe.notified configuration environment next.entities (item.1.callback item.2) =
          .ok next.pipe) := by
  obtain ⟨map, called⟩ := discoveryPerform_cases succeeded
  simp only [Action.calls] at map called
  refine ⟨map, ?_⟩
  have silent : (processItem state.entities item).notifications = [] →
      next.pipe = state.pipe := by
    intro none
    rcases called with ⟨_, unchanged⟩ | ⟨call, told, _⟩
    · exact unchanged
    · rw [none] at told
      cases told
  rw [map]
  rcases processItem_cases state.entities item with
    ⟨_, none, same, _⟩ | ⟨_, told, changed, fresh⟩ | ⟨_, adds, stored, none, changed⟩
  · exact .inl ⟨same, silent none⟩
  · refine .inr (.inr ⟨fresh, changed, told, ?_⟩)
    rcases called with ⟨no, _⟩ | ⟨call, only, performed⟩
    · rw [told] at no
      cases no
    · rw [told, List.map_cons, List.map_nil, List.cons.injEq] at only
      rw [← only.1] at performed
      exact performed
  · exact .inr (.inl ⟨adds, stored, changed, silent none⟩)

theorem wellKeyed_discoveryPerform {action : Action Filter} (keyed : state.pipe.WellKeyed)
    (succeeded : state.perform configuration environment action = .ok next) :
    next.pipe.WellKeyed := by
  obtain ⟨_, ⟨_, unchanged⟩ | ⟨call, _, performed⟩⟩ := discoveryPerform_cases succeeded
  · rw [unchanged]
    exact keyed
  · exact wellKeyed_perform keyed performed

end

end DdsPipe.Core
