import DdsPipe.Communication.RpcRegistries

/-!
Owns what a transmission does with the data pointer and the payload of each
sample it takes: the loops of `Track::transmit_` and `RpcBridge::transmit_`, the
part of a reader that fills the data, and the destructor of the data.

A track balances its payloads whatever its reader returns. The service bridge
dereferences the data before it looks at what `take` returned, and releases a
payload that is empty: it balances exactly when every take yields a payload
(`balanced_iff_hasPayload`).

Does not own: the status by which a track decides to go on, and the writers.
-/

namespace DdsPipe.Communication

open DdsPipe.Types DdsPipe.Configuration

/-! ### Taken data -/

/-- A block of the payload pool. -/
abbrev Buffer := Nat

/-- `data` is absent where the source has a null pointer. -/
structure SerializedPayload where
  data : Option Buffer := none
  length : Nat := 0
deriving DecidableEq, Repr

/-- `payloadOwner` tells whether the owner is the pool of the pipe, or null. -/
structure RtpsPayloadData where
  payload : SerializedPayload := {}
  payloadOwner : Bool := false
deriving DecidableEq, Repr

/-- `fill_received_data_`: only a payload that is not empty is taken from the
pool. `buffer` is the block that the pool gives. -/
def fillReceivedData (length : Nat) (buffer : Buffer) : RtpsPayloadData :=
  if length > 0 then
    { payload := { data := some buffer, length := length }, payloadOwner := true }
  else {}

inductive ReturnCode where
  | ok
  | noData
  | notEnabled
  | error
deriving DecidableEq, Repr

/-- What `take` returns and leaves in the data pointer. -/
inductive TakeResult where
  | ok (length : Nat) (buffer : Buffer) (sample : RpcPayloadData)
  | noData
  | notEnabled
  | error
deriving DecidableEq, Repr

namespace TakeResult

def code : TakeResult → ReturnCode
  | .ok _ _ _ => .ok
  | .noData => .noData
  | .notEnabled => .notEnabled
  | .error => .error

/-- The data pointer after the take. -/
def data : TakeResult → Option (RtpsPayloadData × RpcPayloadData)
  | .ok length buffer sample => some (fillReceivedData length buffer, sample)
  | _ => none

/-- The payload that the reader has taken from the pool. -/
def obtained : TakeResult → List SerializedPayload
  | .ok length buffer _ =>
      if length > 0 then [{ data := some buffer, length := length }] else []
  | _ => []

def HasPayload : TakeResult → Prop
  | .ok length _ _ => 0 < length
  | _ => False

end TakeResult

/-! ### Events -/

/-- What a transmission does that concerns the data. -/
inductive TransmitEvent where
  | write (writer : ParticipantId) (outcome : WriteOutcome)
  | release (payload : SerializedPayload)
  /-- The data pointer is dereferenced while it is null. -/
  | nullDereference
deriving DecidableEq, Repr

def TransmitEvent.released : TransmitEvent → Option SerializedPayload
  | .release payload => some payload
  | _ => none

/-- The destructor. -/
def RtpsPayloadData.destroy (data : RtpsPayloadData) : List TransmitEvent :=
  if data.payloadOwner && data.payload.length > 0 then [.release data.payload] else []

/-- One round of a transmission that took `result`: it dereferences no null
pointer, releases what it has taken from the pool exactly once and nothing else,
and writes nothing after that. -/
structure Balanced (result : TakeResult) (events : List TransmitEvent) : Prop where
  dereferences : TransmitEvent.nullDereference ∉ events
  released : events.filterMap TransmitEvent.released = result.obtained
  afterWrites : ∀ before payload after, events = before ++ .release payload :: after →
    ∀ writer outcome, TransmitEvent.write writer outcome ∉ after

/-! ### Tracks -/

/-- What one round of `Track::transmit_` meets: whether it should transmit, what
the take returns, whether new data has arrived since the status was set, and how
the writes end. -/
structure TrackRound where
  shouldTransmit : Bool
  take : TakeResult
  newData : Bool
  outcome : ParticipantId → WriteOutcome

namespace Track

/-- The events of a round, with the destruction of its data. -/
def transmitRound (writers : List ParticipantId) (round : TrackRound) : List TransmitEvent :=
  match round.take.code, round.take.data with
  | .ok, some (data, _) =>
      (writers.map fun writer => .write writer (round.outcome writer)) ++ data.destroy
  | .ok, none => [.nullDereference]
  | _, some (data, _) => data.destroy
  | _, none => []

/-- The rounds of `transmit_`, each with its events. -/
def transmit (writers : List ParticipantId) :
    List TrackRound → List (TakeResult × List TransmitEvent)
  | [] => []
  | round :: rest =>
      if round.shouldTransmit then
        (round.take, transmitRound writers round) ::
          if round.take.code = .noData ∧ round.newData = false then [] else transmit writers rest
      else []

end Track

/-! ### Service bridges -/

inductive RpcReaderKind where
  | request
  | reply
deriving DecidableEq, Repr

/-- A reader of a service bridge, which only has readers in participants in which
it creates proxies. -/
structure RpcReader (participants : ParticipantsDatabase) where
  kind : RpcReaderKind
  participantId : ParticipantId
  rtps : IsRtps participants participantId

/-- What one round of `RpcBridge::transmit_` meets: the bridge, which has all its
proxies, whether it is enabled and the reader holds unread samples, what the take
returns, and the writers. -/
structure RpcRound (participants : ParticipantsDatabase) where
  bridge : RpcBridge
  complete : bridge.Complete participants
  init : bridge.init = true
  shouldTransmit : Bool
  take : TakeResult
  writers : Writers

namespace RpcBridge

variable {participants : ParticipantsDatabase}

/-- The branch for requests or for replies. -/
def forward (reader : RpcReader participants) (round : RpcRound participants)
    (data : RpcPayloadData) : Except Fault Forwarding :=
  let data := data.receivedBy reader.participantId
  match reader.kind with
  | .request =>
      round.bridge.transmitRequest { participants := participants } round.writers data
  | .reply => transmitReply round.writers round.bridge reader.participantId data

/-- The data is dereferenced before the result of the take is looked at. The
payload is released whether it is empty or not, which leaves it empty. -/
def transmitRound (reader : RpcReader participants) (round : RpcRound participants) :
    Except Fault (List TransmitEvent) :=
  match round.take.data with
  | none => .ok [.nullDereference]
  | some (data, sample) =>
      if round.take.code = .ok then do
        let forwarding ← forward reader round sample
        let writes := forwarding.written.map fun entry =>
          .write entry.1 (round.writers.outcome entry.1)
        let emptied := { data with payload := {} }
        return writes ++ [.release data.payload] ++ emptied.destroy
      else return data.destroy

/-- The rounds of `transmit_`, each with its events. Nothing follows a
dereferenced null pointer. -/
def transmit (reader : RpcReader participants) :
    List (RpcRound participants) → Except Fault (List (TakeResult × List TransmitEvent))
  | [] => .ok []
  | round :: rest =>
      if round.shouldTransmit then do
        let events ← transmitRound reader round
        let later ← if round.take.data.isSome then transmit reader rest else .ok []
        return (round.take, events) :: later
      else .ok []

end RpcBridge

/-! ### Tracks balance -/

/-- Writes that are followed by the release of what was taken from the pool. -/
theorem balanced_writes {writes : List TransmitEvent} {result : TakeResult}
    (only : ∀ event ∈ writes, ∃ writer outcome, event = .write writer outcome) :
    Balanced result (writes ++ result.obtained.map .release) := by
  have unreleased : ∀ payload, TransmitEvent.release payload ∉ writes := by
    intro payload member
    obtain ⟨_, _, same⟩ := only _ member
    cases same
  have unwritten : ∀ writer outcome,
      TransmitEvent.write writer outcome ∉ result.obtained.map .release := by
    intro writer outcome member
    obtain ⟨_, _, same⟩ := List.mem_map.mp member
    cases same
  refine ⟨fun member => ?_, ?_, fun before payload after split writer outcome member => ?_⟩
  · rcases List.mem_append.mp member with written | released
    · obtain ⟨_, _, same⟩ := only _ written
      cases same
    · obtain ⟨_, _, same⟩ := List.mem_map.mp released
      cases same
  · have none : writes.filterMap TransmitEvent.released = [] := by
      rw [List.filterMap_eq_nil_iff]
      intro event member
      obtain ⟨_, _, rfl⟩ := only event member
      rfl
    have all : TransmitEvent.released ∘ TransmitEvent.release = some := rfl
    rw [List.filterMap_append, none, List.filterMap_map, all, List.filterMap_some, List.nil_append]
  · rcases List.append_eq_append_iff.mp split with ⟨more, _, rest⟩ | ⟨more, first, rest⟩
    · refine unwritten writer outcome ?_
      rw [rest]
      exact List.mem_append_right _ (List.mem_cons_of_mem _ member)
    · cases more with
      | nil =>
          refine unwritten writer outcome ?_
          rw [List.nil_append] at rest
          rw [← rest]
          exact List.mem_cons_of_mem _ member
      | cons event others =>
          rw [List.cons_append, List.cons.injEq] at rest
          obtain ⟨rfl, _⟩ := rest
          refine unreleased payload ?_
          rw [first]
          exact List.mem_append_right _ List.mem_cons_self

theorem balanced_none {result : TakeResult} (nothing : result.obtained = []) :
    Balanced result [] := by
  have empty : Balanced result ([] ++ result.obtained.map .release) :=
    balanced_writes fun _ member => by cases member
  rwa [nothing] at empty

/-- The destructor releases what was taken from the pool. -/
theorem destroy_fillReceivedData (length : Nat) (buffer : Buffer) (sample : RpcPayloadData) :
    (fillReceivedData length buffer).destroy =
      (TakeResult.ok length buffer sample).obtained.map .release := by
  unfold fillReceivedData TakeResult.obtained RtpsPayloadData.destroy
  by_cases filled : length > 0 <;> simp [filled]

theorem Track.balanced_transmitRound (writers : List ParticipantId) (round : TrackRound) :
    Balanced round.take (Track.transmitRound writers round) := by
  unfold Track.transmitRound
  cases round.take with
  | ok length buffer sample =>
      show Balanced _ (_ ++ (fillReceivedData length buffer).destroy)
      rw [destroy_fillReceivedData length buffer sample]
      refine balanced_writes fun event member => ?_
      obtain ⟨writer, _, rfl⟩ := List.mem_map.mp member
      exact ⟨writer, _, rfl⟩
  | noData | notEnabled | error => exact balanced_none rfl

/-- **A track balances its payloads**, whatever its reader returns. -/
theorem Track.balanced_transmit (writers : List ParticipantId) (rounds : List TrackRound) :
    ∀ entry ∈ Track.transmit writers rounds, Balanced entry.1 entry.2 := by
  induction rounds with
  | nil => simp [Track.transmit]
  | cons round rest inductionHypothesis =>
      unfold Track.transmit
      split
      · intro entry member
        rcases List.mem_cons.mp member with rfl | later
        · exact Track.balanced_transmitRound writers round
        · split at later
          · cases later
          · exact inductionHypothesis entry later
      · simp

/-! ### Service bridges balance payloads -/

namespace RpcBridge

variable {participants : ParticipantsDatabase}

theorem exists_forward (reader : RpcReader participants) (round : RpcRound participants)
    (data : RpcPayloadData) : ∃ forwarding, forward reader round data = .ok forwarding := by
  unfold forward
  let environment : Environment := { participants := participants }
  have complete : round.bridge.Complete environment.participants := round.complete
  have receiver : IsRtps environment.participants
      (data.receivedBy reader.participantId).participantReceiver := reader.rtps
  cases reader.kind with
  | request =>
      obtain ⟨next, executed, _⟩ :=
        transmitRequest_forwards round.writers complete round.init receiver
      exact ⟨next, executed⟩
  | reply =>
      obtain ⟨next, executed, _⟩ :=
        transmitReply_forwards round.writers complete round.init reader.rtps
          (data.receivedBy reader.participantId)
      exact ⟨next, executed⟩

/-- **A round balances** exactly when the take yields a payload. -/
theorem balanced_transmitRound (reader : RpcReader participants) (round : RpcRound participants) :
    ∃ events, transmitRound reader round = .ok events ∧
      (Balanced round.take events ↔ round.take.HasPayload) := by
  unfold transmitRound
  cases taken : round.take with
  | ok length buffer sample =>
      obtain ⟨forwarding, forwarded⟩ := exists_forward reader round sample
      let writes := forwarding.written.map fun entry =>
        TransmitEvent.write entry.1 (round.writers.outcome entry.1)
      have only : ∀ event ∈ writes, ∃ writer outcome, event = .write writer outcome := by
        intro event member
        obtain ⟨entry, _, rfl⟩ := List.mem_map.mp member
        exact ⟨entry.1, _, rfl⟩
      refine ⟨writes ++ [.release (fillReceivedData length buffer).payload], ?_, ?_⟩
      · show (forward reader round sample >>= fun forwarding => _) = _
        rw [forwarded]
        simp [bind, Except.bind, pure, Except.pure, RtpsPayloadData.destroy, writes]
      · by_cases filled : 0 < length
        · have same : [TransmitEvent.release (fillReceivedData length buffer).payload] =
              (TakeResult.ok length buffer sample).obtained.map .release := by
            simp [fillReceivedData, TakeResult.obtained, filled]
          rw [same]
          exact ⟨fun _ => filled, fun _ => balanced_writes only⟩
        · refine ⟨fun balanced => ?_, fun filledToo => absurd filledToo filled⟩
          have released := balanced.released
          rw [List.filterMap_append] at released
          simp [TakeResult.obtained, filled, TransmitEvent.released] at released
  | noData | notEnabled | error =>
      refine ⟨_, rfl, fun balanced => ?_, False.elim⟩
      exact absurd List.mem_cons_self balanced.dereferences

/-- **A service bridge balances its payloads** exactly when every take of the
transmission yields a payload. -/
theorem balanced_transmit (reader : RpcReader participants)
    (rounds : List (RpcRound participants)) :
    ∃ log, transmit reader rounds = .ok log ∧
      ((∀ entry ∈ log, Balanced entry.1 entry.2) ↔
        ∀ round ∈ rounds.takeWhile RpcRound.shouldTransmit, round.take.HasPayload) := by
  induction rounds with
  | nil => exact ⟨[], rfl, by simp⟩
  | cons round rest inductionHypothesis =>
      obtain ⟨later, executed, laterIff⟩ := inductionHypothesis
      obtain ⟨events, transmitted, roundIff⟩ := balanced_transmitRound reader round
      unfold transmit
      by_cases running : round.shouldTransmit = true
      · rw [if_pos running, List.takeWhile_cons_of_pos running, transmitted]
        cases taken : round.take.data with
        | none =>
            refine ⟨[(round.take, events)], rfl, ?_⟩
            have without : ¬ round.take.HasPayload := by
              cases result : round.take with
              | ok => simp [result, TakeResult.data] at taken
              | noData | notEnabled | error => exact fun has => has
            simp [roundIff, without]
        | some data =>
            refine ⟨(round.take, events) :: later, ?_, ?_⟩
            · simp [bind, Except.bind, pure, Except.pure, executed]
            · rw [List.forall_mem_cons, List.forall_mem_cons, roundIff, laterIff]
      · rw [if_neg running, List.takeWhile_cons_of_neg running]
        exact ⟨[], rfl, by simp⟩

end RpcBridge

/-- **Transmission balances payloads**, and dereferences no null pointer, exactly
when every take of the service bridge yields a payload. -/
theorem balanced_iff_hasPayload {participants : ParticipantsDatabase}
    (writers : List ParticipantId) (trackRounds : List TrackRound)
    (reader : RpcReader participants) (rpcRounds : List (RpcRound participants)) :
    ((∀ entry ∈ Track.transmit writers trackRounds, Balanced entry.1 entry.2) ∧
        ∃ log, RpcBridge.transmit reader rpcRounds = .ok log ∧
          ∀ entry ∈ log, Balanced entry.1 entry.2) ↔
      ∀ round ∈ rpcRounds.takeWhile RpcRound.shouldTransmit, round.take.HasPayload := by
  obtain ⟨log, executed, logIff⟩ := RpcBridge.balanced_transmit reader rpcRounds
  rw [← logIff]
  constructor
  · rintro ⟨_, other, same, balanced⟩
    rw [executed] at same
    cases same
    exact balanced
  · exact fun balanced => ⟨Track.balanced_transmit writers trackRounds, log, executed, balanced⟩

/-- A service bridge that is enabled once a server has been discovered. -/
theorem exists_complete_add :
    ∃ bridge : RpcBridge, bridge.Complete mixedParticipants ∧ bridge.init = true := by
  let environment : Environment := { participants := mixedParticipants }
  let fresh : RpcBridge := { rpcTopic := addService }
  have complete : fresh.Complete environment.participants := complete_initial
  obtain ⟨known, discovered, stays⟩ : ∃ next, fresh.perform environment
      (.discoveredService "a" 7) = .ok next ∧ next.Complete environment.participants :=
    complete_perform environment complete fun _ _ _ initialised => by cases initialised
  obtain ⟨running, enabled, still⟩ : ∃ next, known.perform environment .enable = .ok next ∧
      next.Complete environment.participants :=
    complete_perform environment stays fun _ _ same => by cases same
  refine ⟨running, still, ?_⟩
  have outcome : ((fresh.perform environment (.discoveredService "a" 7)).bind fun bridge =>
      bridge.perform environment .enable).map RpcBridge.init = .ok true := by
    decide +kernel
  rw [discovered] at outcome
  simp only [Except.bind] at outcome
  rw [enabled] at outcome
  exact Except.ok.inj outcome

/-- A take that races with the enabling of its reader. -/
theorem not_balanced_of_notEnabled :
    ∃ (reader : RpcReader mixedParticipants) (round : RpcRound mixedParticipants),
      round.take = .notEnabled ∧ ¬ ∃ log, RpcBridge.transmit reader [round] = .ok log ∧
        ∀ entry ∈ log, Balanced entry.1 entry.2 := by
  obtain ⟨bridge, complete, init⟩ := exists_complete_add
  refine ⟨⟨.request, "a", {}, by decide +kernel, rfl⟩,
    { bridge, complete, init, shouldTransmit := true, take := .notEnabled
      writers := { replyReaderGuid := fun _ => ⟨0, 0⟩, outcome := fun _ => .failed } },
    rfl, ?_⟩
  rintro ⟨log, transmitted, balanced⟩
  cases transmitted
  exact absurd List.mem_cons_self (balanced _ List.mem_cons_self).dereferences

end DdsPipe.Communication
