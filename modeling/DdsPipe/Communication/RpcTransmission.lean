import DdsPipe.Communication.RpcBridge

/-!
Owns what the service bridge does with one sample that it has taken: a request
is written through the proxy clients whose registry is enabled, a reply through
the proxy server that received its request. The samples handed to writers are
recorded in the order in which they are written.

Does not own: taking the sample and releasing its payload, and the threads that
transmit at the same time.
-/

namespace DdsPipe.Communication

open Std (TreeMap TreeSet)
open DdsPipe.Types DdsPipe.Configuration

/-! ### Samples -/

/-- The sequence numbers of a writer start at one; zero is the unknown number. -/
def SampleIdentity.unknown : SampleIdentity := {}

structure WriteParams where
  sampleIdentity : SampleIdentity := .unknown
  relatedSampleIdentity : SampleIdentity := .unknown
deriving DecidableEq, Repr

/-- The fields of `RpcPayloadData` that the service bridge reads or sets. -/
structure RpcPayloadData where
  participantReceiver : ParticipantId := ""
  writeParams : WriteParams := {}
  originSequenceNumber : SequenceNumber := 0
  sentSequenceNumber : SequenceNumber := 0
deriving DecidableEq, Repr

namespace RpcPayloadData

/-- What a reply to this request has to be related to. -/
def replyRelatedSampleIdentity (data : RpcPayloadData) : SampleIdentity :=
  { data.writeParams.sampleIdentity with sequenceNumber := data.originSequenceNumber }

def setRelatedWriterGuid (data : RpcPayloadData) (guid : Guid) : RpcPayloadData :=
  { data with writeParams := { data.writeParams with
      relatedSampleIdentity :=
        { data.writeParams.relatedSampleIdentity with writerGuid := guid } } }

def setRelatedSampleIdentity (data : RpcPayloadData) (identity : SampleIdentity) :
    RpcPayloadData :=
  { data with writeParams := { data.writeParams with relatedSampleIdentity := identity } }

end RpcPayloadData

/-- How a write ends. -/
inductive WriteOutcome where
  /-- The writer sends the sample, under its next sequence number. -/
  | sent (sequenceNumber : SequenceNumber)
  /-- The rate limit drops the sample. The write returns OK. -/
  | skipped
  | failed
deriving DecidableEq, Repr

/-- The data after a write, if that returned OK. -/
def WriteOutcome.returned (data : RpcPayloadData) : WriteOutcome → Option RpcPayloadData
  | .sent sequenceNumber => some { data with sentSequenceNumber := sequenceNumber }
  | .skipped => some data
  | .failed => none

/-- A write changes nothing but the number under which the sample was sent. -/
theorem WriteOutcome.returned_keeps {data after : RpcPayloadData} {outcome : WriteOutcome}
    (returned : outcome.returned data = some after) :
    after.participantReceiver = data.participantReceiver ∧
      after.writeParams = data.writeParams ∧
        after.originSequenceNumber = data.originSequenceNumber := by
  cases outcome <;> cases returned <;> exact ⟨rfl, rfl, rfl⟩

/-- What the transmission of a sample meets outside the bridge: the guids of the
reply readers, and how the write to each participant ends. -/
structure Writers where
  replyReaderGuid : ParticipantId → Guid
  outcome : ParticipantId → WriteOutcome

/-! ### Forwarding -/

/-- A transmission under way. `written` is history that no step reads: the
samples handed to writers, with the participant of the writer. -/
structure Forwarding where
  bridge : RpcBridge
  data : RpcPayloadData
  written : List (ParticipantId × RpcPayloadData) := []

namespace RpcBridge

/-- A lookup by participant id whose result is dereferenced. -/
def lookup {Entity : Type} (entities : TreeMap ParticipantId Entity) (id : ParticipantId) :
    Except Fault Entity :=
  match entities[id]? with
  | some entity => .ok entity
  | none => .error .nullEntity

def lookupRegistry (bridge : RpcBridge) (id : ParticipantId) : Except Fault ServiceRegistry :=
  match bridge.serviceRegistries[id]? with
  | some (some registry) => .ok registry
  | _ => .error .nullEntity

def setRegistry (bridge : RpcBridge) (id : ParticipantId) (registry : ServiceRegistry) :
    RpcBridge :=
  { bridge with serviceRegistries := bridge.serviceRegistries.insert id (some registry) }

/-- A request is not sent through the participant that received it, unless that
is a repeater, nor where no server is known to process it. -/
def skipsRegistry (environment : Environment) (receiver id : ParticipantId)
    (registry : ServiceRegistry) : Except Fault Bool :=
  if receiver == id then do
    let participant ← environment.getParticipant id
    return !participant.isRepeater || !registry.enabled
  else .ok !registry.enabled

/-- One round of the loop over the registries. -/
def forwardRequest (environment : Environment) (writers : Writers) (identity : SampleIdentity)
    (forwarding : Forwarding) (id : ParticipantId) : Except Fault Forwarding := do
  let registry ← forwarding.bridge.lookupRegistry id
  if ← skipsRegistry environment forwarding.data.participantReceiver id registry then
    return forwarding
  let _ ← lookup forwarding.bridge.replyReaders id
  let data := forwarding.data.setRelatedWriterGuid (writers.replyReaderGuid id)
  let _ ← lookup forwarding.bridge.requestWriters id
  let written := forwarding.written ++ [(id, data)]
  match (writers.outcome id).returned data with
  | none => return { forwarding with data := data, written := written }
  | some data =>
      let entry := (data.participantReceiver, identity)
      return {
        bridge := forwarding.bridge.setRegistry id (registry.add data.sentSequenceNumber entry)
        data := data
        written := written }

/-- The request branch of `transmit_`. -/
def transmitRequest (environment : Environment) (writers : Writers) (bridge : RpcBridge)
    (data : RpcPayloadData) : Except Fault Forwarding :=
  let identity := data.replyRelatedSampleIdentity
  if identity = .unknown then .ok { bridge := bridge, data := data }
  else
    bridge.serviceRegistries.keys.foldlM (forwardRequest environment writers identity)
      { bridge := bridge, data := data }

/-- The reply branch of `transmit_`, for the reply reader of `readerId`. -/
def transmitReply (writers : Writers) (bridge : RpcBridge) (readerId : ParticipantId)
    (data : RpcPayloadData) : Except Fault Forwarding := do
  let unsent : Forwarding := { bridge := bridge, data := data }
  if data.writeParams.sampleIdentity.writerGuid ≠ writers.replyReaderGuid readerId then
    return unsent
  let sequenceNumber := data.writeParams.sampleIdentity.sequenceNumber
  let registry ← bridge.lookupRegistry readerId
  let registryEntry := registry.get sequenceNumber
  if registryEntry.1 == "" then return unsent
  let data := data.setRelatedSampleIdentity registryEntry.2
  let _ ← lookup bridge.replyWriters registryEntry.1
  let written := [(registryEntry.1, data)]
  match (writers.outcome registryEntry.1).returned data with
  | none => return { bridge := bridge, data := data, written := written }
  | some data =>
      let registry ← bridge.lookupRegistry readerId
      return {
        bridge := bridge.setRegistry readerId (registry.erase sequenceNumber)
        data := data
        written := written }

end RpcBridge

end DdsPipe.Communication
