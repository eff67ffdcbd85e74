import DdsPipe.Efficiency.PayloadPools
import DdsPipe.Configuration.DdsPipeConfiguration

/-!
Owns the way of a payload through the pipe without a copy: from the change that a
reader stores, through the data that a track transmits, to the changes in the
histories of the writers, all of which refer to one block of a payload pool.

Along every run, in any order of arrivals, takes, writes and removals, no call of
the pool goes wrong; every change and every data shows the octets that were
received for it, also after all others that shared its block are gone; and the
pool is clean when nobody holds a payload (`forwards_of_reachable`). This holds of
every pool that keeps the laws of reference counting.

Does not own: which samples a track takes and which writers it has.
-/

namespace DdsPipe.Efficiency.PayloadPools

open DdsPipe.Types (ParticipantId)
open TransitionSystem

/-! ### State -/

/-- The payload objects of a reader, of the track behind it and of its writers, by
their positions: those of the changes that the reader holds, the oldest first, of
the data that is being transmitted, and of the changes in the histories of the
writers.

`origins` is history that no step reads: the octets that were received for each
payload object. -/
structure PayloadFlow (Pool : Type) where
  client : Client Pool
  unread : List Nat := []
  data : Option Nat := none
  histories : List (ParticipantId × Nat) := []
  origins : List Bytes := []

inductive FlowAction where
  /-- A change with a payload arrives, which is copied from the network. -/
  | receive (source : Source)
  /-- A change without a payload arrives. -/
  | receiveEmpty
  /-- A change of the reader is removed without a take. -/
  | reject (position : Nat)
  | take
  | write (writer : ParticipantId)
  /-- The data is destroyed. -/
  | destroy
  /-- A change of a writer is removed from its history. -/
  | remove (position : Nat)
deriving DecidableEq, Repr

/-- An action, with the address that an allocation returns. -/
structure FlowCall where
  action : FlowAction
  allocated : Address := 0
deriving DecidableEq, Repr

/-! ### Steps -/

section

variable {Pool : Type} (interface : PoolInterface Pool)

namespace Client

/-- A new payload object, which is empty. -/
def addObject (client : Client Pool) : Client Pool :=
  { client with payloads := client.payloads ++ [{}] }

/-- `get_payload` of a payload of this pool into a new payload object, unless it is
empty. -/
def refer (client : Client Pool) (allocated : Address) (index : Nat) :
    Except PoolFault (Client Pool) :=
  if (client.payloads.getD index {}).length > 0 then
    Prod.snd <$> client.addObject.call interface allocated
      (.reference client.payloads.length index)
  else .ok client.addObject

/-- A history releases the payload of a change that has one. -/
def releaseChange (client : Client Pool) (allocated : Address) (index : Nat) :
    Except PoolFault (Client Pool) :=
  if (client.payloads.getD index {}).data.isSome then
    Prod.snd <$> client.call interface allocated (.release index)
  else .ok client

/-- `~RtpsPayloadData`. -/
def destroyData (client : Client Pool) (allocated : Address) (index : Nat) :
    Except PoolFault (Client Pool) :=
  if (client.payloads.getD index {}).length > 0 then
    Prod.snd <$> client.call interface allocated (.release index)
  else .ok client

end Client

namespace PayloadFlow

/-- The payload objects that someone holds. -/
def holders (flow : PayloadFlow Pool) : List Nat :=
  flow.unread ++ flow.data.toList ++ flow.histories.map Prod.snd

/-- A take refers to the payload of the oldest change, and removes the change. -/
def take (flow : PayloadFlow Pool) (allocated : Address) (index : Nat) (rest : List Nat) :
    Except PoolFault (PayloadFlow Pool) := do
  let client ← flow.client.refer interface allocated index
  let client ← client.releaseChange interface allocated index
  return { flow with
    client := client
    unread := rest
    data := some flow.client.payloads.length
    origins := flow.origins ++ [flow.origins.getD index []] }

def perform (flow : PayloadFlow Pool) (allocated : Address) :
    FlowAction → Option (Except PoolFault (PayloadFlow Pool))
  | .receive source => some do
      let (stored, client) ← flow.client.addObject.call interface allocated
        (.copy flow.client.payloads.length source)
      return { flow with
        client := client
        unread := if stored then flow.unread ++ [flow.client.payloads.length] else flow.unread
        origins := flow.origins ++ [source.bytes] }
  | .receiveEmpty => some (.ok { flow with
      client := flow.client.addObject
      unread := flow.unread ++ [flow.client.payloads.length]
      origins := flow.origins ++ [[]] })
  | .reject position =>
      flow.unread[position]?.map fun index => do
        let client ← flow.client.releaseChange interface allocated index
        return { flow with client := client, unread := flow.unread.eraseIdx position }
  | .take =>
      match flow.unread, flow.data with
      | index :: rest, none => some (flow.take interface allocated index rest)
      | _, _ => none
  | .write writer =>
      flow.data.map fun index => do
        let client ← flow.client.refer interface allocated index
        return { flow with
          client := client
          histories := flow.histories ++ [(writer, flow.client.payloads.length)]
          origins := flow.origins ++ [flow.origins.getD index []] }
  | .destroy =>
      flow.data.map fun index => do
        let client ← flow.client.destroyData interface allocated index
        return { flow with client := client, data := none }
  | .remove position =>
      flow.histories[position]?.map fun change => do
        let client ← flow.client.releaseChange interface allocated change.2
        return { flow with client := client, histories := flow.histories.eraseIdx position }

end PayloadFlow

/-- The runs of a new pool. A call that goes wrong ends the run. -/
def flowSystem : System (Except PoolFault (PayloadFlow Pool)) FlowCall where
  Initial state := state = .ok { client := { pool := interface.initial, payloads := [] } }
  step state call :=
    match state with
    | .ok flow => flow.perform interface call.allocated call.action
    | .error _ => none

/-- A network buffer holds its length within its size, `malloc` returns what is
free, and neither the counter of a block nor the count of reservations is about
to wrap. -/
def Feasible (state : Except PoolFault (PayloadFlow Pool)) (call : FlowCall) : Prop :=
  ∀ flow, state = .ok flow →
    match call.action with
    | .receive source =>
        interface.fresh flow.client.pool call.allocated = true ∧ source.ownedByPool = false ∧
          source.bytes.length = source.payload.length ∧
          source.payload.length ≤ source.payload.maxSize ∧
          (interface.counts flow.client.pool).reserveCount + 1 < uint64Range
    | .take | .write _ => ∀ data, flow.client.handlesOf data + 1 < uint32Range
    | _ => True

end

/-! ### What the payload objects show -/

/-- Every payload object that someone holds shows the octets that were received for
it, and no other refers to a block. -/
structure Consistent (observed : List Observed) (origins : List Bytes) (holders : List Nat) :
    Prop where
  aligned : origins.length = observed.length
  distinct : holders.Nodup
  shows : ∀ index ∈ holders, ∃ shown bytes, observed[index]? = some shown ∧
    origins[index]? = some bytes ∧ shown.contents = bytes ∧ shown.length = bytes.length ∧
      (shown.held = false → bytes = [])
  unheld : ∀ index shown, observed[index]? = some shown → index ∉ holders → shown.held = false

namespace Consistent

variable {observed : List Observed} {origins : List Bytes} {holders others : List Nat}
  {index : Nat} {shown : Observed} {bytes : Bytes}

theorem perm (consistent : Consistent observed origins holders) (same : holders.Perm others) :
    Consistent observed origins others := by
  refine ⟨consistent.aligned, same.nodup_iff.mp consistent.distinct, ?_, ?_⟩
  · intro index member
    exact consistent.shows index (same.mem_iff.mpr member)
  · intro index shown found absent
    exact consistent.unheld index shown found fun member => absent (same.mem_iff.mp member)

theorem lt_of_mem (consistent : Consistent observed origins holders) (member : index ∈ holders) :
    index < observed.length := by
  obtain ⟨shown, _, found, _⟩ := consistent.shows index member
  exact (List.getElem?_eq_some_iff.mp found).1

/-- A new payload object that nobody holds. -/
theorem addUnheld (consistent : Consistent observed origins holders) (empty : shown.held = false)
    (bytes : Bytes) : Consistent (observed ++ [shown]) (origins ++ [bytes]) holders := by
  have aligned := consistent.aligned
  refine ⟨by simp [aligned], consistent.distinct, ?_, ?_⟩
  · intro index member
    have inside := consistent.lt_of_mem member
    rw [List.getElem?_append_left inside, List.getElem?_append_left (by omega)]
    exact consistent.shows index member
  · intro index other found absent
    by_cases inside : index < observed.length
    · rw [List.getElem?_append_left inside] at found
      exact consistent.unheld index other found absent
    · rw [List.getElem?_append_right (by omega), List.getElem?_singleton] at found
      split at found
      · cases found
        exact empty
      · cases found

/-- A new payload object with a holder. -/
theorem add (consistent : Consistent observed origins holders) (contents : shown.contents = bytes)
    (length : shown.length = bytes.length) (held : shown.held = false → bytes = []) :
    Consistent (observed ++ [shown]) (origins ++ [bytes]) (observed.length :: holders) := by
  have aligned := consistent.aligned
  refine ⟨by simp [aligned], ?_, ?_, ?_⟩
  · refine List.nodup_cons.mpr ⟨fun member => ?_, consistent.distinct⟩
    exact absurd (consistent.lt_of_mem member) (Nat.lt_irrefl _)
  · intro index member
    rcases List.mem_cons.mp member with rfl | old
    · refine ⟨shown, bytes, ?_, ?_, contents, length, held⟩
      · rw [List.getElem?_append_right (Nat.le_refl _), Nat.sub_self]
        rfl
      · rw [List.getElem?_append_right (by omega), aligned, Nat.sub_self]
        rfl
    · have inside := consistent.lt_of_mem old
      rw [List.getElem?_append_left inside, List.getElem?_append_left (by omega)]
      exact consistent.shows index old
  · intro index other found absent
    rw [List.mem_cons, not_or] at absent
    by_cases inside : index < observed.length
    · rw [List.getElem?_append_left inside] at found
      exact consistent.unheld index other found absent.2
    · have beyond := (List.getElem?_eq_some_iff.mp found).1
      rw [List.length_append, List.length_singleton] at beyond
      omega

/-- A holder lets its payload object go. -/
theorem drop (consistent : Consistent observed origins holders) (member : index ∈ holders)
    (empty : shown.held = false) :
    Consistent (observed.set index shown) origins (holders.erase index) := by
  have inside := consistent.lt_of_mem member
  refine ⟨by rw [List.length_set, consistent.aligned], consistent.distinct.erase index, ?_, ?_⟩
  · intro other remains
    obtain ⟨different, old⟩ := consistent.distinct.mem_erase_iff.mp remains
    rw [List.getElem?_set_ne different.symm]
    exact consistent.shows other old
  · intro other now found absent
    by_cases same : index = other
    · subst same
      rw [List.getElem?_set_self inside] at found
      cases found
      exact empty
    · rw [List.getElem?_set_ne same] at found
      refine consistent.unheld other now found fun old => absent ?_
      exact consistent.distinct.mem_erase_iff.mpr ⟨Ne.symm same, old⟩

end Consistent

/-! ### Calls of the pool -/

namespace Client

variable {Pool : Type} {interface : PoolInterface Pool} {Valid : Pool → Prop}
  {client : Client Pool} {allocated : Address} {index : Nat} {shown : Observed}

theorem observe_getElem? (interface : PoolInterface Pool) (client : Client Pool) (index : Nat) :
    (observe interface client)[index]? =
      client.payloads[index]?.map (observePayload interface client.pool) := by
  rw [observe, List.getElem?_map]

theorem handlesOf_addObject (client : Client Pool) (address : Address) :
    client.addObject.handlesOf address = client.handlesOf address := by
  simp [handlesOf, addObject]

theorem observe_addObject (client : Client Pool) :
    observe interface client.addObject = observe interface client ++ [({} : Observed)] := by
  simp [observe, addObject, observePayload]

theorem counted_addObject (counted : client.Counted interface Valid) :
    client.addObject.Counted interface Valid := by
  refine ⟨counted.valid, ?_, ?_, ?_, counted.counts, counted.reserved⟩
  · intro address stored found
    rw [handlesOf_addObject]
    exact counted.counter address stored found
  · intro address
    rw [handlesOf_addObject]
    exact counted.freed address
  · intro address
    rw [handlesOf_addObject]
    exact counted.bounded address

theorem getElem?_addObject_self (client : Client Pool) :
    client.addObject.payloads[client.payloads.length]? = some {} := by
  simp [addObject]

/-- The payload object at a position that shows something. -/
theorem exists_of_observe (found : (observe interface client)[index]? = some shown) :
    ∃ payload, client.payloads[index]? = some payload ∧ payload.length = shown.length ∧
      payload.data.isSome = shown.held := by
  rw [observe_getElem?, Option.map_eq_some_iff] at found
  obtain ⟨payload, there, rfl⟩ := found
  exact ⟨payload, there, rfl, rfl⟩

theorem call_of_refines {poolCall : PoolCall}
    (refines : client.Refines interface Valid allocated poolCall) :
    ∃ after, Prod.snd <$> client.call interface allocated poolCall = .ok after ∧
      after.Counted interface Valid ∧
      observe interface after = (specification (observe interface client) poolCall).2 := by
  obtain ⟨result, after, called, counted, shows⟩ := refines
  refine ⟨after, by rw [called]; rfl, counted, ?_⟩
  rw [← shows]

/-- A new payload object refers to the block of another, unless that is empty. -/
theorem refer_spec (allocated : Address) (lawful : interface.Lawful Valid)
    (counted : client.Counted interface Valid)
    (found : (observe interface client)[index]? = some shown)
    (holds : 0 < shown.length → shown.held = true)
    (few : ∀ data, client.handlesOf data + 1 < uint32Range) :
    ∃ after, client.refer interface allocated index = .ok after ∧
      after.Counted interface Valid ∧
      observe interface after =
        observe interface client ++ [if 0 < shown.length then shown else {}] := by
  obtain ⟨payload, there, length, held⟩ := exists_of_observe found
  have inside : index < client.payloads.length := (List.getElem?_eq_some_iff.mp there).1
  unfold refer
  rw [getD_eq_of_getElem? there, length]
  by_cases filled : 0 < shown.length
  · rw [if_pos filled, if_pos filled]
    rw [holds filled] at held
    obtain ⟨data, refers⟩ := Option.isSome_iff_exists.mp held
    have added : client.addObject.payloads[index]? = some payload := by
      rw [addObject, List.getElem?_append_left inside]
      exact there
    have room : client.addObject.handlesOf data + 1 < uint32Range := by
      rw [handlesOf_addObject]
      exact few data
    have refines : client.addObject.Refines interface Valid allocated
        (.reference client.payloads.length index) :=
      refines_reference lawful (counted_addObject counted) (getElem?_addObject_self client) added
        refers room
    obtain ⟨after, called, kept, shows⟩ := call_of_refines refines
    refine ⟨after, called, kept, ?_⟩
    rw [shows, observe_addObject, specification]
    have copied : (observe interface client ++ [({} : Observed)]).getD index {} = shown := by
      rw [List.getD_eq_getElem?_getD, List.getElem?_append_left (by simpa [observe] using inside),
        found]
      rfl
    have long : client.payloads.length = (observe interface client).length := by simp [observe]
    rw [copied, long, List.set_append_right _ _ (Nat.le_refl _), Nat.sub_self]
    rfl
  · rw [if_neg filled, if_neg filled]
    exact ⟨_, rfl, counted_addObject counted, observe_addObject client⟩

/-- A payload object lets its block go. -/
theorem release_spec (allocated : Address) (lawful : interface.Lawful Valid)
    (counted : client.Counted interface Valid)
    (found : (observe interface client)[index]? = some shown) (held : shown.held = true) :
    ∃ after, Prod.snd <$> client.call interface allocated (.release index) = .ok after ∧
      after.Counted interface Valid ∧
      observe interface after = (observe interface client).set index {} := by
  obtain ⟨payload, there, _, same⟩ := exists_of_observe found
  rw [held] at same
  obtain ⟨data, refers⟩ := Option.isSome_iff_exists.mp same
  exact call_of_refines (refines_release lawful counted there refers)

theorem releaseChange_spec (allocated : Address) (lawful : interface.Lawful Valid)
    (counted : client.Counted interface Valid)
    (found : (observe interface client)[index]? = some shown) :
    ∃ after now, client.releaseChange interface allocated index = .ok after ∧
      after.Counted interface Valid ∧ now.held = false ∧
      observe interface after = (observe interface client).set index now := by
  obtain ⟨payload, there, _, held⟩ := exists_of_observe found
  unfold releaseChange
  rw [getD_eq_of_getElem? there, held]
  cases holds : shown.held with
  | true =>
      obtain ⟨after, called, kept, shows⟩ :=
        release_spec allocated lawful counted found holds
      exact ⟨after, {}, called, kept, rfl, shows⟩
  | false =>
      refine ⟨client, shown, rfl, counted, holds, ?_⟩
      obtain ⟨inside, same⟩ := List.getElem?_eq_some_iff.mp found
      rw [← same, List.set_getElem_self]

theorem destroyData_spec (allocated : Address) (lawful : interface.Lawful Valid)
    (counted : client.Counted interface Valid)
    (found : (observe interface client)[index]? = some shown)
    (sized : shown.held = true ↔ 0 < shown.length) :
    ∃ after now, client.destroyData interface allocated index = .ok after ∧
      after.Counted interface Valid ∧ now.held = false ∧
      observe interface after = (observe interface client).set index now := by
  obtain ⟨payload, there, length, _⟩ := exists_of_observe found
  unfold destroyData
  rw [getD_eq_of_getElem? there, length]
  by_cases filled : 0 < shown.length
  · rw [if_pos filled]
    obtain ⟨after, called, kept, shows⟩ :=
      release_spec allocated lawful counted found (sized.mpr filled)
    exact ⟨after, {}, called, kept, rfl, shows⟩
  · rw [if_neg filled]
    have empty : shown.held = false := by
      rw [← Bool.not_eq_true, sized]
      exact filled
    refine ⟨client, shown, rfl, counted, empty, ?_⟩
    obtain ⟨inside, same⟩ := List.getElem?_eq_some_iff.mp found
    rw [← same, List.set_getElem_self]

end Client

/-! ### Runs -/

namespace PayloadFlow

variable {Pool : Type} {interface : PoolInterface Pool} {Valid : Pool → Prop}
  {flow : PayloadFlow Pool} {allocated : Address}

/-- What every step keeps. Data refers to a block only if it is not empty, as its
destructor expects. -/
structure Sound (interface : PoolInterface Pool) (Valid : Pool → Prop) (flow : PayloadFlow Pool) :
    Prop where
  counted : flow.client.Counted interface Valid
  consistent : Consistent (flow.client.observe interface) flow.origins flow.holders
  sized : ∀ index shown, flow.data = some index →
    (flow.client.observe interface)[index]? = some shown → shown.held = true → 0 < shown.length

theorem length_observe (interface : PoolInterface Pool) (client : Client Pool) :
    (client.observe interface).length = client.payloads.length := by
  simp [Client.observe]

/-- A payload object that someone holds refers to a block unless it is empty. -/
theorem Sound.exists_shown (sound : flow.Sound interface Valid) {index : Nat}
    (member : index ∈ flow.holders) :
    ∃ shown bytes, (flow.client.observe interface)[index]? = some shown ∧
      flow.origins.getD index [] = bytes ∧ shown.contents = bytes ∧ shown.length = bytes.length ∧
      (shown.held = false → bytes = []) ∧ (0 < shown.length → shown.held = true) := by
  obtain ⟨shown, bytes, found, origin, contents, length, empty⟩ :=
    sound.consistent.shows index member
  refine ⟨shown, bytes, found, ?_, contents, length, empty, fun filled => ?_⟩
  · rw [List.getD_eq_getElem?_getD, origin]
    rfl
  · by_contra unheld
    rw [length, empty (by simpa using unheld)] at filled
    cases filled

/-- The payload object of the data shows what it did before. -/
theorem Sound.sized_of_same {after : PayloadFlow Pool} (sound : flow.Sound interface Valid)
    (data : after.data = flow.data)
    (same : ∀ index, index < (flow.client.observe interface).length → flow.data = some index →
      (after.client.observe interface)[index]? = (flow.client.observe interface)[index]?) :
    ∀ index shown, after.data = some index →
      (after.client.observe interface)[index]? = some shown → shown.held = true →
        0 < shown.length := by
  intro index shown isData found held
  rw [data] at isData
  have member : index ∈ flow.holders := by simp [holders, isData]
  rw [same index (sound.consistent.lt_of_mem member) isData] at found
  exact sound.sized index shown isData found held

theorem sound_receive (lawful : interface.Lawful Valid) (sound : flow.Sound interface Valid)
    {source : Source} (fresh : interface.fresh flow.client.pool allocated = true)
    (foreign : source.ownedByPool = false) (filled : source.bytes.length = source.payload.length)
    (fits : source.payload.length ≤ source.payload.maxSize)
    (room : (interface.counts flow.client.pool).reserveCount + 1 < uint64Range) :
    ∃ after, flow.perform interface allocated (.receive source) = some (.ok after) ∧
      after.Sound interface Valid := by
  have refines : flow.client.addObject.Refines interface Valid allocated
      (.copy flow.client.payloads.length source) :=
    Client.refines_copy lawful (Client.counted_addObject sound.counted) fresh
      (Client.getElem?_addObject_self flow.client) foreign filled fits room
  obtain ⟨stored, after, called, counted, shows⟩ := refines
  have long := length_observe interface flow.client
  rw [Client.observe_addObject, specification, ← long] at shows
  refine ⟨{ flow with
    client := after
    unread := if stored then flow.unread ++ [flow.client.payloads.length] else flow.unread
    origins := flow.origins ++ [source.bytes] }, by simp only [perform, called]; rfl, counted, ?_,
    sound.sized_of_same rfl ?_⟩
  · show Consistent (after.observe interface) _ _
    split at shows
    · next none =>
        obtain ⟨rfl, now⟩ := Prod.mk.inj shows
        rw [now]
        exact sound.consistent.addUnheld rfl source.bytes
    · obtain ⟨rfl, now⟩ := Prod.mk.inj shows
      rw [List.set_append_right _ _ (Nat.le_refl _), Nat.sub_self] at now
      rw [now]
      refine (sound.consistent.add rfl filled.symm (by simp)).perm ?_
      rw [long]
      simp only [holders, if_true, List.append_assoc, List.singleton_append]
      exact List.perm_middle.symm
  · intro index inside _
    show (after.observe interface)[index]? = _
    split at shows
    · rw [(Prod.mk.inj shows).2, List.getElem?_append_left inside]
    · rw [(Prod.mk.inj shows).2, List.set_append_right _ _ (Nat.le_refl _),
        List.getElem?_append_left inside]

theorem sound_receiveEmpty (sound : flow.Sound interface Valid) (allocated : Address) :
    ∃ after, flow.perform interface allocated .receiveEmpty = some (.ok after) ∧
      after.Sound interface Valid := by
  have long := length_observe interface flow.client
  refine ⟨_, rfl, Client.counted_addObject sound.counted, ?_, sound.sized_of_same rfl ?_⟩
  · show Consistent (flow.client.addObject.observe interface) _ _
    rw [Client.observe_addObject]
    refine (sound.consistent.add rfl rfl (by simp)).perm ?_
    rw [long]
    simp only [holders, List.append_assoc, List.singleton_append]
    exact List.perm_middle.symm
  · intro index inside _
    show (flow.client.addObject.observe interface)[index]? = _
    rw [Client.observe_addObject, List.getElem?_append_left inside]

/-- A history lets a change go. -/
theorem Sound.releaseChange (lawful : interface.Lawful Valid) (sound : flow.Sound interface Valid)
    (allocated : Address) {index : Nat} {after : PayloadFlow Pool}
    (holders : flow.holders.Perm (index :: after.holders)) (data : after.data = flow.data)
    (origins : after.origins = flow.origins) (isChange : flow.data ≠ some index)
    (called : flow.client.releaseChange interface allocated index = .ok after.client) :
    after.Sound interface Valid := by
  have member : index ∈ flow.holders := holders.mem_iff.mpr List.mem_cons_self
  obtain ⟨shown, _, found, _⟩ := sound.consistent.shows index member
  obtain ⟨client, now, done, counted, empty, shows⟩ :=
    Client.releaseChange_spec allocated lawful sound.counted found
  rw [called] at done
  cases done
  refine ⟨counted, ?_, sound.sized_of_same data ?_⟩
  · rw [shows, origins]
    refine (sound.consistent.drop member empty).perm ?_
    have erased := holders.erase index
    rwa [List.erase_cons_head] at erased
  · intro other _ isData
    rw [shows, List.getElem?_set_ne]
    rintro rfl
    exact isChange isData

theorem sound_reject (lawful : interface.Lawful Valid) (sound : flow.Sound interface Valid)
    {position : Nat} {outcome : Except PoolFault (PayloadFlow Pool)}
    (taken : flow.perform interface allocated (.reject position) = some outcome) :
    ∃ after, outcome = .ok after ∧ after.Sound interface Valid := by
  obtain ⟨index, found, rfl⟩ := Option.map_eq_some_iff.mp taken
  obtain ⟨inside, rfl⟩ := List.getElem?_eq_some_iff.mp found
  have removed : flow.holders.Perm (flow.unread[position] ::
      { flow with unread := flow.unread.eraseIdx position }.holders) := by
    have perm := (List.getElem_cons_eraseIdx_perm inside).symm
    exact (perm.append_right flow.data.toList).append_right (flow.histories.map Prod.snd)
  have member : flow.unread[position] ∈ flow.holders :=
    removed.mem_iff.mpr List.mem_cons_self
  obtain ⟨shown, _, there, _⟩ := sound.consistent.shows _ member
  obtain ⟨client, _, called, _⟩ :=
    Client.releaseChange_spec allocated lawful sound.counted there
  refine ⟨{ flow with client := client, unread := flow.unread.eraseIdx position },
    by rw [called]; rfl, sound.releaseChange lawful allocated removed rfl rfl ?_ called⟩
  intro isData
  have distinct := removed.nodup_iff.mp sound.consistent.distinct
  exact (List.nodup_cons.mp distinct).1 (by simp [holders, isData])

theorem sound_remove (lawful : interface.Lawful Valid) (sound : flow.Sound interface Valid)
    {position : Nat} {outcome : Except PoolFault (PayloadFlow Pool)}
    (taken : flow.perform interface allocated (.remove position) = some outcome) :
    ∃ after, outcome = .ok after ∧ after.Sound interface Valid := by
  obtain ⟨change, found, rfl⟩ := Option.map_eq_some_iff.mp taken
  obtain ⟨inside, rfl⟩ := List.getElem?_eq_some_iff.mp found
  have removed : flow.holders.Perm (flow.histories[position].2 ::
      { flow with histories := flow.histories.eraseIdx position }.holders) := by
    have perm := (List.getElem_cons_eraseIdx_perm inside).map Prod.snd
    exact (List.Perm.append_left _ perm.symm).trans List.perm_middle
  have member : flow.histories[position].2 ∈ flow.holders :=
    removed.mem_iff.mpr List.mem_cons_self
  obtain ⟨shown, _, there, _⟩ := sound.consistent.shows _ member
  obtain ⟨client, _, called, _⟩ :=
    Client.releaseChange_spec allocated lawful sound.counted there
  refine ⟨{ flow with client := client, histories := flow.histories.eraseIdx position },
    by rw [called]; rfl, sound.releaseChange lawful allocated removed rfl rfl ?_ called⟩
  intro isData
  have distinct := removed.nodup_iff.mp sound.consistent.distinct
  exact (List.nodup_cons.mp distinct).1 (by simp [holders, isData])

theorem sound_destroy (lawful : interface.Lawful Valid) (sound : flow.Sound interface Valid)
    {outcome : Except PoolFault (PayloadFlow Pool)}
    (taken : flow.perform interface allocated .destroy = some outcome) :
    ∃ after, outcome = .ok after ∧ after.Sound interface Valid := by
  obtain ⟨index, isData, rfl⟩ := Option.map_eq_some_iff.mp taken
  have dropped : flow.holders.Perm (index :: { flow with data := none }.holders) := by
    simp only [holders, isData, Option.toList_some, Option.toList_none, List.append_assoc,
      List.singleton_append, List.nil_append]
    exact List.perm_middle
  have member : index ∈ flow.holders := dropped.mem_iff.mpr List.mem_cons_self
  obtain ⟨shown, _, found, _, _, _, _, holds⟩ := sound.exists_shown member
  obtain ⟨client, now, called, counted, empty, shows⟩ :=
    Client.destroyData_spec allocated lawful sound.counted found
      ⟨sound.sized index shown isData found, holds⟩
  refine ⟨{ flow with client := client, data := none }, by rw [called]; rfl, counted, ?_, ?_⟩
  · rw [shows]
    refine (sound.consistent.drop member empty).perm ?_
    have erased := dropped.erase index
    rwa [List.erase_cons_head] at erased
  · rintro _ _ ⟨⟩

/-- A new payload object refers to what a held one shows. -/
theorem Sound.exists_refer (lawful : interface.Lawful Valid) (sound : flow.Sound interface Valid)
    (allocated : Address) {index : Nat} (member : index ∈ flow.holders)
    (few : ∀ data, flow.client.handlesOf data + 1 < uint32Range) :
    ∃ client copy, flow.client.refer interface allocated index = .ok client ∧
      client.Counted interface Valid ∧
      client.observe interface = flow.client.observe interface ++ [copy] ∧
      (copy.held = true → 0 < copy.length) ∧
      Consistent (client.observe interface) (flow.origins ++ [flow.origins.getD index []])
        (flow.client.payloads.length :: flow.holders) := by
  obtain ⟨shown, bytes, found, origin, contents, length, empty, holds⟩ := sound.exists_shown member
  obtain ⟨client, called, counted, shows⟩ :=
    Client.refer_spec allocated lawful sound.counted found holds few
  refine ⟨client, _, called, counted, shows, ?_, ?_⟩
  · split
    · next filled => exact fun _ => filled
    · exact fun held => by cases held
  · rw [shows, origin, ← length_observe interface flow.client]
    by_cases filled : 0 < shown.length
    · rw [if_pos filled]
      exact sound.consistent.add contents length empty
    · have none : bytes = [] := List.length_eq_zero_iff.mp (by omega)
      rw [if_neg filled, none]
      exact sound.consistent.add rfl rfl fun _ => rfl

theorem sound_write (lawful : interface.Lawful Valid) (sound : flow.Sound interface Valid)
    {writer : ParticipantId} {outcome : Except PoolFault (PayloadFlow Pool)}
    (few : ∀ data, flow.client.handlesOf data + 1 < uint32Range)
    (taken : flow.perform interface allocated (.write writer) = some outcome) :
    ∃ after, outcome = .ok after ∧ after.Sound interface Valid := by
  obtain ⟨index, isData, rfl⟩ := Option.map_eq_some_iff.mp taken
  have member : index ∈ flow.holders := by simp [holders, isData]
  obtain ⟨client, copy, called, counted, shows, _, consistent⟩ :=
    sound.exists_refer lawful allocated member few
  refine ⟨{ flow with
    client := client
    histories := flow.histories ++ [(writer, flow.client.payloads.length)]
    origins := flow.origins ++ [flow.origins.getD index []] }, by rw [called]; rfl, counted,
    consistent.perm ?_, sound.sized_of_same rfl ?_⟩
  · simp only [holders, List.map_append, List.map_cons, List.map_nil, ← List.append_assoc]
    exact (List.perm_append_singleton _ _).symm
  · intro other inside _
    show (client.observe interface)[other]? = _
    rw [shows, List.getElem?_append_left inside]

theorem sound_take (lawful : interface.Lawful Valid) (sound : flow.Sound interface Valid)
    {outcome : Except PoolFault (PayloadFlow Pool)}
    (few : ∀ data, flow.client.handlesOf data + 1 < uint32Range)
    (taken : flow.perform interface allocated .take = some outcome) :
    ∃ after, outcome = .ok after ∧ after.Sound interface Valid := by
  simp only [perform] at taken
  split at taken
  · next index rest unread free =>
      cases taken
      have holds : flow.holders = index :: (rest ++ flow.histories.map Prod.snd) := by
        simp [holders, unread, free]
      have member : index ∈ flow.holders := by rw [holds]; exact List.mem_cons_self
      obtain ⟨referring, copy, called, counted, shows, sized, consistent⟩ :=
        sound.exists_refer lawful allocated member few
      have inside := sound.consistent.lt_of_mem member
      have different : flow.client.payloads.length ≠ index := by
        rw [← length_observe interface flow.client]
        omega
      obtain ⟨shown, _, found, _⟩ := consistent.shows index (List.mem_cons_of_mem _ member)
      obtain ⟨client, now, released, kept, empty, last⟩ :=
        Client.releaseChange_spec allocated lawful counted found
      refine ⟨{ flow with
        client := client
        unread := rest
        data := some flow.client.payloads.length
        origins := flow.origins ++ [flow.origins.getD index []] }, ?_, kept, ?_, ?_⟩
      · rw [take, called]
        show (referring.releaseChange interface allocated index >>= _) = _
        rw [released]
        rfl
      · rw [last]
        refine (consistent.drop (List.mem_cons_of_mem _ member) empty).perm ?_
        rw [holds, List.erase_cons_tail (by simpa using different), List.erase_cons_head]
        simp only [holders, Option.toList_some, List.append_assoc, List.singleton_append]
        exact List.perm_middle.symm
      · rintro _ other ⟨⟩ there
        rw [last, List.getElem?_set_ne different.symm, shows,
          ← length_observe interface flow.client, List.getElem?_append_right (Nat.le_refl _),
          Nat.sub_self] at there
        cases there
        exact sized
  · cases taken

/-- **One action keeps the payloads sound**, and none goes wrong. -/
theorem sound_perform (lawful : interface.Lawful Valid) (sound : flow.Sound interface Valid)
    {call : FlowCall} {outcome : Except PoolFault (PayloadFlow Pool)}
    (feasible : Feasible interface (.ok flow) call)
    (taken : flow.perform interface call.allocated call.action = some outcome) :
    ∃ after, outcome = .ok after ∧ after.Sound interface Valid := by
  obtain ⟨action, allocated⟩ := call
  have can := feasible flow rfl
  cases action with
  | receive source =>
      obtain ⟨fresh, foreign, filled, fits, room⟩ := can
      obtain ⟨after, done, kept⟩ := sound_receive lawful sound fresh foreign filled fits room
      rw [done] at taken
      cases taken
      exact ⟨after, rfl, kept⟩
  | receiveEmpty =>
      obtain ⟨after, done, kept⟩ := sound_receiveEmpty sound allocated
      rw [done] at taken
      cases taken
      exact ⟨after, rfl, kept⟩
  | reject position => exact sound_reject lawful sound taken
  | take => exact sound_take lawful sound can taken
  | write writer => exact sound_write lawful sound can taken
  | destroy => exact sound_destroy lawful sound taken
  | remove position => exact sound_remove lawful sound taken

/-- No call of the pool has gone wrong. Whatever someone holds shows the octets that
were received for it, the counter of a block is the number of payload objects that
refer to it, only what someone holds refers to a block, and a pool whose payloads
nobody holds is clean. -/
structure Forwards (interface : PoolInterface Pool)
    (state : Except PoolFault (PayloadFlow Pool)) : Prop where
  succeeded : ∃ flow, state = .ok flow
  contents : ∀ flow, state = .ok flow → ∀ index ∈ flow.holders, ∃ shown,
    (flow.client.observe interface)[index]? = some shown ∧
      flow.origins[index]? = some shown.contents
  counted : ∀ flow, state = .ok flow → CountsReferences interface flow.client
  held : ∀ flow, state = .ok flow → ∀ (index : Nat) payload,
    flow.client.payloads[index]? = some payload → index ∉ flow.holders → payload.data = none
  drained : ∀ flow, state = .ok flow → flow.holders = [] →
    (interface.counts flow.client.pool).isClean = true

theorem Sound.unheld (sound : flow.Sound interface Valid) {index : Nat}
    {payload : SerializedPayload} (found : flow.client.payloads[index]? = some payload)
    (absent : index ∉ flow.holders) : payload.data = none := by
  have shown := Client.observe_getElem? interface flow.client index
  rw [found, Option.map_some] at shown
  have empty := sound.consistent.unheld index _ shown absent
  exact Option.not_isSome_iff_eq_none.mp (by simpa [Client.observePayload] using empty)

theorem Sound.forwards (lawful : interface.Lawful Valid) (sound : flow.Sound interface Valid) :
    Forwards interface (.ok flow) where
  succeeded := ⟨flow, rfl⟩
  contents := by
    rintro _ ⟨⟩ index member
    obtain ⟨shown, bytes, found, origin, contents, _⟩ := sound.consistent.shows index member
    exact ⟨shown, found, by rw [origin, contents]⟩
  counted := by
    rintro _ ⟨⟩
    exact sound.counted.countsReferences lawful
  held := by
    rintro _ ⟨⟩ index payload found absent
    exact sound.unheld found absent
  drained := by
    rintro _ ⟨⟩ nobody
    refine (sound.counted.isClean_iff lawful).mpr fun payload member => ?_
    obtain ⟨index, found⟩ := List.mem_iff_getElem?.mp member
    exact sound.unheld found (by simp [nobody])

end PayloadFlow

/-- **Payloads are forwarded without a copy and without a leak**, through every pool
that keeps the laws of reference counting. -/
theorem forwards_of_reachable {Pool : Type} {interface : PoolInterface Pool}
    {Valid : Pool → Prop} (lawful : interface.Lawful Valid)
    {state : Except PoolFault (PayloadFlow Pool)}
    (reached : (flowSystem interface).Reachable (Feasible interface) state) :
    PayloadFlow.Forwards interface state := by
  have initially : ∀ start, (flowSystem interface).Initial start →
      ∃ flow, start = .ok flow ∧ flow.Sound interface Valid := by
    rintro _ rfl
    refine ⟨_, rfl, Client.counted_initial lawful 0, ⟨rfl, by simp [PayloadFlow.holders], ?_, ?_⟩,
      ?_⟩
    · simp [PayloadFlow.holders]
    · simp [Client.observe]
    · simp
  have kept : ∀ before call after, (∃ flow, before = .ok flow ∧ flow.Sound interface Valid) →
      Feasible interface before call → (flowSystem interface).step before call = some after →
      ∃ flow, after = .ok flow ∧ flow.Sound interface Valid := by
    rintro _ call after ⟨flow, rfl, sound⟩ feasible taken
    exact PayloadFlow.sound_perform lawful sound feasible taken
  obtain ⟨flow, rfl, sound⟩ := reached.invariant initially kept
  exact sound.forwards lawful

/-- A test of `Feasible`. -/
def feasible {Pool : Type} (interface : PoolInterface Pool)
    (state : Except PoolFault (PayloadFlow Pool)) (call : FlowCall) : Bool :=
  match state with
  | .ok flow =>
      flow.client.payloads.length + 1 < uint32Range &&
        match call.action with
        | .receive source =>
            interface.fresh flow.client.pool call.allocated && !source.ownedByPool &&
              source.bytes.length == source.payload.length &&
              source.payload.length ≤ source.payload.maxSize &&
              (interface.counts flow.client.pool).reserveCount + 1 < uint64Range
        | _ => true
  | .error _ => false

theorem feasible_sound {Pool : Type} {interface : PoolInterface Pool}
    {state : Except PoolFault (PayloadFlow Pool)} {call : FlowCall}
    (passed : feasible interface state call = true) : Feasible interface state call := by
  rintro flow rfl
  rw [feasible, Bool.and_eq_true, decide_eq_true_eq] at passed
  obtain ⟨few, rest⟩ := passed
  have handles : ∀ data, flow.client.handlesOf data + 1 < uint32Range := by
    intro data
    have bound : flow.client.handlesOf data ≤ flow.client.payloads.length :=
      List.countP_le_length
    omega
  obtain ⟨action, allocated⟩ := call
  cases action with
  | receive source =>
      simp only [Bool.and_eq_true, Bool.not_eq_true', beq_iff_eq, decide_eq_true_eq] at rest
      obtain ⟨⟨⟨⟨fresh, foreign⟩, filled⟩, fits⟩, room⟩ := rest
      exact ⟨fresh, foreign, filled, fits, room⟩
  | take => exact handles
  | write writer => exact handles
  | receiveEmpty | reject position | destroy | remove position => trivial

/-- A change is received, taken and written to two writers; then the data goes, and
the change of the first writer. The change of the other shows what was received. -/
theorem forwards_of_reachable_two :
    ∃ state : Except PoolFault (PayloadFlow FastPayloadPool),
      (state.toOption.any fun flow => flow.holders == [3] &&
        flow.origins[3]? == some foreignSource.bytes) = true ∧
      PayloadFlow.Forwards fastPayloadPool state := by
  obtain ⟨state, reached, test⟩ := System.exists_reachable_of_runAdmitted
    (flowSystem fastPayloadPool)
    (.ok { client := { pool := fastPayloadPool.initial, payloads := [] } })
    [⟨.receive foreignSource, 100⟩, ⟨.take, 0⟩, ⟨.write "b", 0⟩, ⟨.write "c", 0⟩, ⟨.destroy, 0⟩,
      ⟨.remove 0, 0⟩] (feasible fastPayloadPool)
    (fun state => state.toOption.any fun flow => flow.holders == [3] &&
      flow.origins[3]? == some foreignSource.bytes)
    (fun _ _ _ => feasible_sound) rfl (by decide +kernel)
  exact ⟨state, test, forwards_of_reachable lawful_fastPayloadPool reached⟩

end DdsPipe.Efficiency.PayloadPools
