import DdsPipe.Types.Endpoint

/-!
Owns the discovery database: the map of the endpoints known so far, the three
operations that the processing thread takes from the queue, and the callbacks
that they call.

Owns the comparison of the map with what an observer of the callbacks holds:
the two agree throughout a run exactly when no operation of the run adds an
endpoint over an inactive one that differs from it
(`callbacksTellAll_iff_repeatsStored`).

Does not own: the queue itself and the threads that push to it.
-/

namespace DdsPipe.Dynamic

open Std (TreeMap)
open DdsPipe.Types

abbrev Entities := TreeMap Guid Endpoint Guid.order

inductive DatabaseOperation where
  | add
  | update
  | erase
deriving DecidableEq, Repr

/-- One call of the callbacks that are registered with the database. -/
inductive Notification where
  | discovered (endpoint : Endpoint)
  | updated (endpoint : Endpoint)
  | erased (endpoint : Endpoint)
deriving DecidableEq, Repr

def Notification.endpoint : Notification → Endpoint
  | .discovered endpoint => endpoint
  | .updated endpoint => endpoint
  | .erased endpoint => endpoint

/-- The callback that an operation calls with its endpoint. -/
def DatabaseOperation.callback : DatabaseOperation → Endpoint → Notification
  | .add => .discovered
  | .update => .updated
  | .erase => .erased

/-- The exception of a rejected operation, as the pieces its message is
formatted from. -/
structure InconsistencyException where
  before : String
  endpoint : Endpoint
  after : String := ""
deriving DecidableEq, Repr

/-- The map that an operation leaves behind, and its callbacks or its exception. -/
abbrev Processed := Entities × Except InconsistencyException (List Notification)

def addEndpoint (entities : Entities) (newEndpoint : Endpoint) : Processed :=
  match entities[newEndpoint.guid]? with
  | some stored =>
      if stored.active then
        (entities, .error {
          before := "Error adding Endpoint to database. Endpoint already exists."
          endpoint := newEndpoint })
      else
        -- The source returns here, before it reaches the callbacks.
        (entities.insert newEndpoint.guid newEndpoint, .ok [])
  | none => (entities.insert newEndpoint.guid newEndpoint, .ok [.discovered newEndpoint])

def updateEndpoint (entities : Entities) (endpointToUpdate : Endpoint) : Processed :=
  match entities[endpointToUpdate.guid]? with
  | none =>
      (entities, .error {
        before := "Error updating Endpoint in database. Endpoint entry not found."
        endpoint := endpointToUpdate })
  | some _ =>
      (entities.insert endpointToUpdate.guid endpointToUpdate, .ok [.updated endpointToUpdate])

def eraseEndpoint (entities : Entities) (endpointToErase : Endpoint) : Processed :=
  let remaining := entities.erase endpointToErase.guid
  if entities.contains endpointToErase.guid then (remaining, .ok [.erased endpointToErase])
  else
    (remaining, .error {
      before := "Error erasing Endpoint "
      endpoint := endpointToErase
      after := " from database. Endpoint entry not found." })

/-- One round of `process_queue_`. -/
def processItem (entities : Entities) (item : DatabaseOperation × Endpoint) : Processed :=
  match item with
  | (.add, endpoint) => addEndpoint entities endpoint
  | (.update, endpoint) => updateEndpoint entities endpoint
  | (.erase, endpoint) => eraseEndpoint entities endpoint

/-- The callbacks of one round; the exception of a rejected operation is caught
and logged. -/
def Processed.notifications (processed : Processed) : List Notification :=
  match processed.2 with
  | .ok notifications => notifications
  | .error _ => []

def Processed.rejected (processed : Processed) : Bool :=
  match processed.2 with
  | .ok _ => false
  | .error _ => true

/-- `get_endpoints`. -/
def getEndpoints (entities : Entities) (isValidEndpoint : Endpoint → Bool) : Entities :=
  entities.filter fun _ entity => isValidEndpoint entity

/-! ### The entry of one guid -/

section Entry

variable {entities : Entities} {endpoint : Endpoint} {guid : Guid}

theorem getElem?_insert_guid :
    (entities.insert endpoint.guid endpoint)[guid]? =
      if endpoint.guid = guid then some endpoint else entities[guid]? := by
  rw [TreeMap.getElem?_insert]
  simp only [Std.LawfulEqCmp.compare_eq_iff_eq]

theorem getElem?_getEndpoints {isValidEndpoint : Endpoint → Bool} :
    (getEndpoints entities isValidEndpoint)[guid]? =
      entities[guid]?.filter isValidEndpoint := by
  rw [getEndpoints, TreeMap.getElem?_filter']

end Entry

/-! ### What one operation does -/

/-- One call of the callbacks, as the change of a map that follows them. -/
def hear (observer : Entities) : Notification → Entities
  | .discovered endpoint => observer.insert endpoint.guid endpoint
  | .updated endpoint => observer.insert endpoint.guid endpoint
  | .erased endpoint => observer.erase endpoint.guid

/-- **The outcomes of an operation.** It is rejected and leaves every entry as
it is; or it changes the map by what its only callback tells of it; or it adds over an
inactive endpoint, which no callback tells. -/
theorem processItem_cases (entities : Entities) (item : DatabaseOperation × Endpoint) :
    ((processItem entities item).rejected = true ∧
      (processItem entities item).notifications = [] ∧
      (∀ guid : Guid, (processItem entities item).1[guid]? = entities[guid]?) ∧
      (item.1 = .add → ∃ stored, entities[item.2.guid]? = some stored ∧
        stored.active = true)) ∨
    ((processItem entities item).rejected = false ∧
      (processItem entities item).notifications = [item.1.callback item.2] ∧
        (processItem entities item).1 = hear entities (item.1.callback item.2) ∧
        (item.1 = .add → entities[item.2.guid]? = none)) ∨
    ((processItem entities item).rejected = false ∧ item.1 = .add ∧
      (∃ stored, entities[item.2.guid]? = some stored ∧ stored.active = false) ∧
      (processItem entities item).notifications = [] ∧
      (processItem entities item).1 = entities.insert item.2.guid item.2) := by
  obtain ⟨operation, endpoint⟩ := item
  cases operation with
  | add =>
      cases found : entities[endpoint.guid]? with
      | none =>
          refine .inr (.inl ?_)
          simp [processItem, addEndpoint, found, Processed.rejected, Processed.notifications,
            hear, DatabaseOperation.callback]
      | some stored =>
          cases active : stored.active with
          | true =>
              refine .inl ?_
              simp [processItem, addEndpoint, found, active, Processed.rejected,
                Processed.notifications]
          | false =>
              refine .inr (.inr ?_)
              simp [processItem, addEndpoint, found, active, Processed.rejected,
                Processed.notifications]
  | update =>
      cases found : entities[endpoint.guid]? with
      | none =>
          refine .inl ?_
          simp [processItem, updateEndpoint, found, Processed.rejected, Processed.notifications]
      | some stored =>
          refine .inr (.inl ?_)
          simp [processItem, updateEndpoint, found, Processed.rejected, Processed.notifications,
            hear, DatabaseOperation.callback]
  | erase =>
      cases found : entities.contains endpoint.guid with
      | false =>
          refine .inl ⟨by simp [processItem, eraseEndpoint, found, Processed.rejected],
            by simp [processItem, eraseEndpoint, found, Processed.notifications], ?_, by simp⟩
          intro guid
          show (eraseEndpoint entities endpoint).1[guid]? = _
          simp only [eraseEndpoint, found, Bool.false_eq_true, if_false]
          have absent : entities[endpoint.guid]? = none := by
            rwa [TreeMap.contains_eq_isSome_getElem?, Option.isSome_eq_false_iff,
              Option.isNone_iff_eq_none] at found
          rw [TreeMap.getElem?_erase]
          split
          · next same =>
              rw [← Std.LawfulEqCmp.eq_of_compare same, absent]
          · rfl
      | true =>
          refine .inr (.inl ?_)
          simp [processItem, eraseEndpoint, found, Processed.rejected, Processed.notifications,
            hear, DatabaseOperation.callback]

/-! ### An observer of the callbacks -/

/-- The map, next to that of an observer that starts when the map is empty. -/
structure Observed where
  entities : Entities := ∅
  observer : Entities := ∅

namespace Observed

def process (state : Observed) (item : DatabaseOperation × Endpoint) : Observed :=
  let processed := processItem state.entities item
  { entities := processed.1
    observer := processed.notifications.foldl hear state.observer }

/-- `process_queue_`, on the operations that the queue holds. -/
def processQueue (state : Observed) (items : List (DatabaseOperation × Endpoint)) : Observed :=
  items.foldl process state

/-- The observer holds exactly the map. -/
def Mirrors (state : Observed) : Prop :=
  ∀ guid : Guid, state.observer[guid]? = state.entities[guid]?

/-- Neither the map nor the observer differs. -/
def Unchanged (before after : Observed) : Prop :=
  ∀ guid : Guid, after.entities[guid]? = before.entities[guid]? ∧
    after.observer[guid]? = before.observer[guid]?

end Observed

open Observed

/-- After every operation of the run the observer holds the map, and a rejected
operation changed neither. -/
def CallbacksTellAll (items : List (DatabaseOperation × Endpoint)) : Prop :=
  ∀ done item rest, items = done ++ item :: rest →
    let before := processQueue {} done
    Mirrors (before.process item) ∧
      ((processItem before.entities item).rejected = true →
        Unchanged before (before.process item))

/-- When the operation adds an endpoint over an inactive one, it adds that same
endpoint again. -/
def RepeatsStored (entities : Entities) (item : DatabaseOperation × Endpoint) : Prop :=
  item.1 = .add → ∀ stored, entities[item.2.guid]? = some stored → stored.active = false →
    item.2 = stored

theorem getElem?_hear_congr {entities observer : Entities}
    (mirrors : ∀ guid : Guid, observer[guid]? = entities[guid]?) (notification : Notification)
    (guid : Guid) : (hear observer notification)[guid]? = (hear entities notification)[guid]? := by
  cases notification <;>
    simp only [hear, TreeMap.getElem?_insert, TreeMap.getElem?_erase, mirrors guid]

/-- One operation keeps the observer at the map exactly when it does not add
over an inactive endpoint that differs. -/
theorem mirrors_process_iff {state : Observed} (mirrors : Mirrors state)
    (item : DatabaseOperation × Endpoint) :
    Mirrors (state.process item) ↔ RepeatsStored state.entities item := by
  unfold Mirrors process
  rcases processItem_cases state.entities item with
    ⟨_, silent, same, occupied⟩ | ⟨_, told, map, fresh⟩ |
      ⟨_, adds, ⟨stored, found, inactive⟩, silent, map⟩
  · refine iff_of_true ?_ ?_
    · intro guid
      simp only [silent, List.foldl_nil, same guid, mirrors guid]
    · intro adds stored found inactive
      obtain ⟨other, same, active⟩ := occupied adds
      rw [found] at same
      cases same
      rw [inactive] at active
      cases active
  · refine iff_of_true ?_ ?_
    · intro guid
      simp only [told, map, List.foldl_cons, List.foldl_nil]
      exact getElem?_hear_congr mirrors _ guid
    · intro adds stored found _
      rw [fresh adds] at found
      cases found
  · simp only [silent, map, List.foldl_nil]
    constructor
    · intro kept _ other same _
      have told := kept item.2.guid
      rw [mirrors, same, getElem?_insert_guid, if_pos rfl] at told
      exact (Option.some.inj told).symm
    · intro repeats guid
      rw [mirrors, getElem?_insert_guid]
      split
      · next same => rw [← same, found, repeats adds stored found inactive]
      · rfl

theorem unchanged_of_rejected (state : Observed) (item : DatabaseOperation × Endpoint)
    (rejected : (processItem state.entities item).rejected = true) :
    Unchanged state (state.process item) := by
  intro guid
  rcases processItem_cases state.entities item with
    ⟨_, silent, same, _⟩ | ⟨accepted, _⟩ | ⟨accepted, _⟩
  · exact ⟨same guid, by simp only [process, silent, List.foldl_nil]⟩
  · rw [rejected] at accepted
    cases accepted
  · rw [rejected] at accepted
    cases accepted

theorem processQueue_append (done : List (DatabaseOperation × Endpoint))
    (item : DatabaseOperation × Endpoint) (state : Observed) :
    processQueue state (done ++ [item]) = (processQueue state done).process item := by
  rw [processQueue, List.foldl_append]
  rfl

/-- The observer is at the map before every operation of a run whose earlier
operations all repeat what they add over. -/
theorem mirrors_processQueue {items : List (DatabaseOperation × Endpoint)}
    (repeats : ∀ done item rest, items = done ++ item :: rest →
      RepeatsStored (processQueue {} done).entities item) :
    Mirrors (processQueue {} items) := by
  induction items using List.reverseRecOn with
  | nil => exact fun _ => rfl
  | append_singleton done item inductionHypothesis =>
      rw [processQueue_append]
      refine (mirrors_process_iff (inductionHypothesis ?_) item).mpr (repeats done item [] rfl)
      intro earlier other rest split
      exact repeats earlier other (rest ++ [item]) (by rw [split]; simp)

/-- **Exactly when the callbacks tell the whole story.** The observer holds the
map after every operation of a run if and only if no operation of the run adds
over an inactive endpoint that differs from it. -/
theorem callbacksTellAll_iff_repeatsStored (items : List (DatabaseOperation × Endpoint)) :
    CallbacksTellAll items ↔
      ∀ done item rest, items = done ++ item :: rest →
        RepeatsStored (processQueue {} done).entities item := by
  constructor
  · intro tells done item rest split
    refine (mirrors_process_iff ?_ item).mp (tells done item rest split).1
    induction done using List.reverseRecOn with
    | nil => exact fun _ => rfl
    | append_singleton earlier last _ =>
        rw [processQueue_append]
        exact (tells earlier last (item :: rest) (by rw [split]; simp)).1
  · intro repeats done item rest split
    refine ⟨?_, unchanged_of_rejected _ item⟩
    refine (mirrors_process_iff (mirrors_processQueue ?_) item).mpr (repeats done item rest split)
    intro earlier other between prefixSplit
    exact repeats earlier other (between ++ item :: rest) (by rw [split, prefixSplit]; simp)

/-- A reader is removed and discovered again: the map has it active, and the
observer was not told. -/
theorem not_callbacksTellAll_of_rediscovered :
    ¬ ∀ items, CallbacksTellAll items := by
  intro tells
  let reader : Endpoint := { kind := .reader, guid := ⟨1, 7⟩, discovererParticipantId := "a" }
  have mirrors := (tells
    [(.add, reader), (.update, { reader with active := false }), (.add, reader)]
    [(.add, reader), (.update, { reader with active := false })] (.add, reader) [] rfl).1 ⟨1, 7⟩
  revert mirrors
  decide

end DdsPipe.Dynamic
