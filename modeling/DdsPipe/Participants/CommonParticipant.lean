import DdsPipe.Dynamic.DiscoveryDatabase

/-!
Owns what a participant tells the discovery database about the remote endpoints
that its RTPS listener reports.

Does not own: the listener of the RTPS library itself, and the quality of
service of the reported topics.
-/

namespace DdsPipe.Participants

open DdsPipe.Types DdsPipe.Dynamic

/-- The status of a `ReaderDiscoveryInfo` or of a `WriterDiscoveryInfo`. -/
inductive DiscoveryStatus where
  | discovered
  | changedQos
  | removed
  | ignored
deriving DecidableEq, Repr

/-- The information on a remote endpoint, as the library reports it. -/
structure DiscoveryInfo where
  status : DiscoveryStatus
  guid : Guid
  topicName : String
  typeName : String
  partitions : List String := []
  ownershipExclusive : Bool := false
  ownershipStrength : Nat := 0
deriving DecidableEq, Repr

/-- What a participant's listener uses of the participant. -/
structure CommonParticipant where
  id : ParticipantId
  guidPrefix : GuidPrefix
deriving DecidableEq, Repr

def createCommonEndpointFromInfo (info : DiscoveryInfo) (participantDiscovererId : ParticipantId) :
    Endpoint where
  guid := info.guid
  topic := {
    topicName := info.topicName
    typeName := info.typeName
    internalTypeDiscriminator := internalTopicTypeRtps
    topicDiscoverer := participantDiscovererId }
  specificQos := { partitions := info.partitions }
  discovererParticipantId := participantDiscovererId

/-- `create_endpoint_from_info_` of a writer. -/
def createWriterFromInfo (info : DiscoveryInfo) (participantDiscovererId : ParticipantId) :
    Endpoint :=
  let endpoint := createCommonEndpointFromInfo info participantDiscovererId
  { endpoint with
    specificQos := if info.ownershipExclusive then
      { endpoint.specificQos with ownershipStrength := info.ownershipStrength }
      else endpoint.specificQos
    kind := .writer }

/-- `create_endpoint_from_info_` of a reader. -/
def createReaderFromInfo (info : DiscoveryInfo) (participantDiscovererId : ParticipantId) :
    Endpoint :=
  { createCommonEndpointFromInfo info participantDiscovererId with kind := .reader }

namespace CommonParticipant

/-- What both listeners do: the operation that is put into the queue of the
discovery database, if any. -/
def onDiscovery (createEndpointFromInfo : DiscoveryInfo → ParticipantId → Endpoint)
    (participant : CommonParticipant) (info : DiscoveryInfo) :
    Option (DatabaseOperation × Endpoint) :=
  if info.guid.guidPrefix != participant.guidPrefix then
    let endpoint := createEndpointFromInfo info participant.id
    match info.status with
    | .discovered => some (.add, endpoint)
    | .changedQos => some (.update, endpoint)
    | .removed => some (.update, { endpoint with active := false })
    | .ignored => none
  else none

def onReaderDiscovery : CommonParticipant → DiscoveryInfo → Option (DatabaseOperation × Endpoint) :=
  onDiscovery createReaderFromInfo

def onWriterDiscovery : CommonParticipant → DiscoveryInfo → Option (DatabaseOperation × Endpoint) :=
  onDiscovery createWriterFromInfo

/-- The operations that the listeners of a participant put into the queue. -/
def Emits (participant : CommonParticipant) (item : DatabaseOperation × Endpoint) : Prop :=
  ∃ info, participant.onReaderDiscovery info = some item ∨
    participant.onWriterDiscovery info = some item

/-- **What is emitted** is never an erasure; what is added is active; and the
discoverer is the participant, also as the discoverer of the topic. -/
theorem emits_cases {participant : CommonParticipant} {item : DatabaseOperation × Endpoint}
    (emits : participant.Emits item) :
    item.2.discovererParticipantId = participant.id ∧
      item.2.topic.topicDiscoverer = participant.id ∧
      (item.1 = .add ∧ item.2.active = true ∨ item.1 = .update) := by
  have one : ∀ createEndpointFromInfo : DiscoveryInfo → ParticipantId → Endpoint,
      (∀ info id, (createEndpointFromInfo info id).discovererParticipantId = id ∧
        (createEndpointFromInfo info id).topic.topicDiscoverer = id ∧
        (createEndpointFromInfo info id).active = true) →
      ∀ info, onDiscovery createEndpointFromInfo participant info = some item →
        item.2.discovererParticipantId = participant.id ∧
          item.2.topic.topicDiscoverer = participant.id ∧
          (item.1 = .add ∧ item.2.active = true ∨ item.1 = .update) := by
    intro createEndpointFromInfo created info emitted
    obtain ⟨discoverer, topicDiscoverer, active⟩ := created info participant.id
    unfold onDiscovery at emitted
    split at emitted
    · dsimp only at emitted
      split at emitted <;> cases emitted
      · exact ⟨discoverer, topicDiscoverer, .inl ⟨rfl, active⟩⟩
      · exact ⟨discoverer, topicDiscoverer, .inr rfl⟩
      · exact ⟨discoverer, topicDiscoverer, .inr rfl⟩
    · cases emitted
  obtain ⟨info, reader | writer⟩ := emits
  · exact one createReaderFromInfo (fun _ _ => ⟨rfl, rfl, rfl⟩) info reader
  · exact one createWriterFromInfo (fun _ _ => ⟨rfl, rfl, rfl⟩) info writer

end CommonParticipant

end DdsPipe.Participants
