import DdsPipe.Library.TransitionSystem
import DdsPipe.Types.Topic

/-!
Owns the producer of the monitored topics: the counters of received and lost
messages, the snapshot that is produced from them, and its delivery to the
consumers, with the sections that its mutex serialises as single steps.

Owns when every notified message is delivered exactly once.

Does not own: the reception rate, which is computed in floating point from a
counter, and the singleton instance.
-/

namespace DdsPipe.Monitoring

open Std (TreeMap)
open DdsPipe.Types
open TransitionSystem

/-! ### Monitored data -/

inductive MessageKind where
  | received
  | lost
deriving DecidableEq, Repr

/-- `DdsTopicData`: what is monitored of a participant on a topic. -/
structure DdsTopicData where
  participantId : ParticipantId := ""
  msgsLost : Nat := 0
  msgsReceived : Nat := 0
deriving DecidableEq, Repr

/-- The number of values of `uint32_t`. -/
def counterRange : Int := 2 ^ 32

namespace DdsTopicData

def count (data : DdsTopicData) : MessageKind → Nat
  | .received => data.msgsReceived
  | .lost => data.msgsLost

def setCount (data : DdsTopicData) (value : Nat) : MessageKind → DdsTopicData
  | .received => { data with msgsReceived := value }
  | .lost => { data with msgsLost := value }

/-- Increase a counter, in the arithmetic of `uint32_t`. -/
def increase (data : DdsTopicData) (kind : MessageKind) (numberOfMessages : Int) : DdsTopicData :=
  data.setCount ((data.count kind + numberOfMessages) % counterRange).toNat kind

def reset (data : DdsTopicData) : DdsTopicData :=
  { data with msgsReceived := 0, msgsLost := 0 }

theorem count_increase {data : DdsTopicData} {kind : MessageKind} {numberOfMessages : Int}
    (fits : 0 ≤ data.count kind + numberOfMessages ∧
      data.count kind + numberOfMessages < counterRange) (other : MessageKind) :
    ((data.increase kind numberOfMessages).count other : Int) =
      data.count other + if other = kind then numberOfMessages else 0 := by
  have kept : ((data.count kind + numberOfMessages) % counterRange).toNat =
      data.count kind + numberOfMessages := by
    rw [Int.emod_eq_of_lt fits.1 fits.2, Int.toNat_of_nonneg fits.1]
  cases kind <;> cases other <;> simp_all [increase, setCount, count]

@[simp] theorem participantId_increase (data : DdsTopicData) (kind : MessageKind)
    (numberOfMessages : Int) :
    (data.increase kind numberOfMessages).participantId = data.participantId := by
  cases kind <;> rfl

@[simp] theorem count_reset (data : DdsTopicData) (kind : MessageKind) :
    data.reset.count kind = 0 := by
  cases kind <;> rfl

end DdsTopicData

/-- `DdsTopic` of the monitored data. -/
structure MonitoredTopic where
  name : String := ""
  typeName : String := ""
  typeDiscovered : Bool := false
  typeMismatch : Bool := false
  qosMismatch : Bool := false
  data : List DdsTopicData := []
deriving DecidableEq, Repr

/-- `MonitoringTopics`. Each entry stands beside the unique name of its topic, by
which the producer keeps topics apart. -/
abbrev MonitoringTopics := List (String × MonitoredTopic)

/-- What the macros of the producer notify. -/
inductive TopicsEvent where
  | messages (kind : MessageKind) (topic : DdsTopic) (participantId : ParticipantId)
      (numberOfMessages : Int)
  | typeDiscovered (typeName : String)
  | typeMismatch (topic : DdsTopic)
  | qosMismatch (topic : DdsTopic)
deriving DecidableEq, Repr

/-! ### The producer -/

/-- The maps are keyed by unique name, by which topics are ordered. A consumer is
what it has been given. -/
structure TopicsMonitorProducer where
  enabled : Bool := false
  data : MonitoringTopics := []
  topicData : TreeMap String MonitoredTopic := ∅
  participantData : TreeMap String (TreeMap ParticipantId DdsTopicData) := ∅
  typesDiscovered : TreeMap String Bool := ∅
  consumers : List (List MonitoringTopics) := []

namespace TopicsMonitorProducer

/-- Register the topic, and change what is monitored of it. -/
def registerTopic (producer : TopicsMonitorProducer) (topic : DdsTopic)
    (change : MonitoredTopic → MonitoredTopic) : TopicsMonitorProducer :=
  let stored := producer.topicData.getD topic.topicUniqueName {}
  { producer with
    topicData := producer.topicData.insert topic.topicUniqueName
      (change { stored with name := topic.topicName, typeName := topic.typeName }) }

/-- Register the topic, and increase a counter of the participant. -/
def recordMessages (kind : MessageKind) (producer : TopicsMonitorProducer) (topic : DdsTopic)
    (participantId : ParticipantId) (numberOfMessages : Int) : TopicsMonitorProducer :=
  let participants := producer.participantData.getD topic.topicUniqueName ∅
  let stored := participants.getD participantId {}
  { producer.registerTopic topic (fun monitored => monitored) with
    participantData := producer.participantData.insert topic.topicUniqueName
      (participants.insert participantId
        ({ stored with participantId := participantId }.increase kind numberOfMessages)) }

/-- The section of a notification. -/
def record (producer : TopicsMonitorProducer) : TopicsEvent → TopicsMonitorProducer
  | .messages kind topic participantId numberOfMessages =>
      producer.recordMessages kind topic participantId numberOfMessages
  | .typeDiscovered typeName =>
      { producer with typesDiscovered := producer.typesDiscovered.insert typeName true }
  | .typeMismatch topic =>
      producer.registerTopic topic fun monitored => { monitored with typeMismatch := true }
  | .qosMismatch topic =>
      producer.registerTopic topic fun monitored => { monitored with qosMismatch := true }

/-- A notification that nobody interrupts. -/
def notify (producer : TopicsMonitorProducer) (event : TopicsEvent) : TopicsMonitorProducer :=
  if producer.enabled then producer.record event else producer

def countMessages (kind : MessageKind) (producer : TopicsMonitorProducer) (topic : DdsTopic)
    (participantId : ParticipantId) (numberOfMessages : Int) : TopicsMonitorProducer :=
  producer.notify (.messages kind topic participantId numberOfMessages)

def msgsReceived : TopicsMonitorProducer → DdsTopic → ParticipantId → Int →
    TopicsMonitorProducer :=
  countMessages .received

def msgsLost : TopicsMonitorProducer → DdsTopic → ParticipantId → Int → TopicsMonitorProducer :=
  countMessages .lost

def typeDiscovered (producer : TopicsMonitorProducer) (typeName : String) :
    TopicsMonitorProducer :=
  producer.notify (.typeDiscovered typeName)

def typeMismatch (producer : TopicsMonitorProducer) (topic : DdsTopic) : TopicsMonitorProducer :=
  producer.notify (.typeMismatch topic)

def qosMismatch (producer : TopicsMonitorProducer) (topic : DdsTopic) : TopicsMonitorProducer :=
  producer.notify (.qosMismatch topic)

/-- What a topic is saved as: with its flag and the data of its participants. -/
def produceTopic (producer : TopicsMonitorProducer) (uniqueName : String)
    (topic : MonitoredTopic) : MonitoredTopic :=
  { topic with
    typeDiscovered := producer.typesDiscovered.getD topic.typeName false
    data := (producer.participantData.getD uniqueName ∅).toList.map Prod.snd }

def produceNts (producer : TopicsMonitorProducer) : TopicsMonitorProducer :=
  let topicData := producer.topicData.map producer.produceTopic
  { producer with topicData := topicData, data := topicData.toList }

def resetData (producer : TopicsMonitorProducer) : TopicsMonitorProducer :=
  { producer with
    participantData := producer.participantData.map fun _ participants =>
      participants.map fun _ data => data.reset }

def consumeNts (producer : TopicsMonitorProducer) : TopicsMonitorProducer :=
  { producer with
    consumers := producer.consumers.map fun given => given ++ [producer.data] }.resetData

def produceAndConsume (producer : TopicsMonitorProducer) : TopicsMonitorProducer :=
  if producer.enabled then producer.produceNts.consumeNts else producer

def produce (producer : TopicsMonitorProducer) : TopicsMonitorProducer :=
  if producer.enabled then producer.produceNts else producer

def consume (producer : TopicsMonitorProducer) : TopicsMonitorProducer :=
  if producer.enabled then producer.consumeNts else producer

end TopicsMonitorProducer

/-! ### Counts -/

/-- What a snapshot says that a participant has counted on a topic. -/
def MonitoringTopics.count (topics : MonitoringTopics) (kind : MessageKind) (uniqueName : String)
    (participantId : ParticipantId) : Nat :=
  (topics.map fun entry =>
    if entry.1 = uniqueName then
      (entry.2.data.map fun data =>
        if data.participantId = participantId then data.count kind else 0).sum
    else 0).sum

/-- What a consumer has been given, over all deliveries. -/
def delivered (given : List MonitoringTopics) (kind : MessageKind) (uniqueName : String)
    (participantId : ParticipantId) : Nat :=
  (given.map fun topics => topics.count kind uniqueName participantId).sum

/-- What has been counted since the last reset. -/
def TopicsMonitorProducer.pending (producer : TopicsMonitorProducer) (kind : MessageKind)
    (uniqueName : String) (participantId : ParticipantId) : Nat :=
  ((producer.participantData.getD uniqueName ∅).getD participantId {}).count kind

namespace TopicsMonitorProducer

/-- What the maps of a producer keep: a topic with counters is registered, and
counters carry the id that they are kept under. -/
structure Recorded (producer : TopicsMonitorProducer) : Prop where
  enabled : producer.enabled = true
  registered : ∀ uniqueName, uniqueName ∈ producer.participantData →
    uniqueName ∈ producer.topicData
  named : ∀ (uniqueName : String) (participants : TreeMap ParticipantId DdsTopicData),
    producer.participantData[uniqueName]? = some participants →
    ∀ (participantId : ParticipantId) (data : DdsTopicData),
      participants[participantId]? = some data → data.participantId = participantId

variable {producer : TopicsMonitorProducer} {kind : MessageKind} {uniqueName : String}
  {participantId : ParticipantId}

theorem pending_eq : producer.pending kind uniqueName participantId =
    ((producer.participantData[uniqueName]?.bind fun participants =>
      participants[participantId]?).map fun data => data.count kind).getD 0 := by
  rw [pending, TreeMap.getD_eq_getD_getElem?, TreeMap.getD_eq_getD_getElem?]
  cases producer.participantData[uniqueName]? with
  | none => cases kind <;> rfl
  | some participants =>
      rw [Option.getD_some, Option.bind_some]
      cases participants[participantId]? with
      | none => cases kind <;> rfl
      | some data => rfl

/-- The snapshot holds the counts that have been made since the last reset. -/
def SnapshotCurrent (producer : TopicsMonitorProducer) : Prop :=
  ∀ kind uniqueName participantId,
    producer.data.count kind uniqueName participantId =
      producer.pending kind uniqueName participantId

/-- **Producing** saves the current counts. -/
theorem snapshotCurrent_produceNts (recorded : producer.Recorded) :
    producer.produceNts.SnapshotCurrent := by
  intro kind uniqueName participantId
  have kept : producer.produceNts.pending kind uniqueName participantId =
      producer.pending kind uniqueName participantId := rfl
  show MonitoringTopics.count (producer.topicData.map producer.produceTopic).toList _ _ _ = _
  rw [kept, MonitoringTopics.count, OrderedMap.sum_toList_ite _ _ fun topic : MonitoredTopic =>
    (topic.data.map fun data =>
      if data.participantId = participantId then data.count kind else 0).sum,
    TreeMap.getElem?_map, pending_eq]
  cases found : producer.topicData[uniqueName]? with
  | none =>
      have absent : uniqueName ∉ producer.participantData := fun member =>
        OrderedMap.getElem?_eq_none_iff.mp found (recorded.registered uniqueName member)
      rw [OrderedMap.getElem?_eq_none_iff.mpr absent]
      rfl
  | some topic =>
      show (((producer.participantData.getD uniqueName ∅).toList.map Prod.snd).map _).sum = _
      rw [TreeMap.getD_eq_getD_getElem?]
      cases stored : producer.participantData[uniqueName]? with
      | none => rfl
      | some participants =>
          rw [Option.getD_some, Option.bind_some, List.map_map,
            ← OrderedMap.sum_toList_ite participants participantId fun data => data.count kind]
          refine congrArg List.sum (List.map_congr_left fun entry member => ?_)
          have same := recorded.named uniqueName participants stored entry.1 entry.2
            (TreeMap.mem_toList_iff_getElem?_eq_some.mp member)
          rw [Function.comp_apply, same]

/-- The counters of a participant after a notification. -/
theorem getElem?_recordMessages (kind : MessageKind) (topic : DdsTopic) (counted : ParticipantId)
    (numberOfMessages : Int) (uniqueName : String) (participantId : ParticipantId) :
    ((producer.recordMessages kind topic counted numberOfMessages).participantData.getD
        uniqueName ∅)[participantId]? =
      if topic.topicUniqueName = uniqueName ∧ counted = participantId then
        some ({ (producer.participantData.getD uniqueName ∅).getD participantId {} with
          participantId := participantId }.increase kind numberOfMessages)
      else (producer.participantData.getD uniqueName ∅)[participantId]? := by
  rw [recordMessages, TreeMap.getD_insert]
  simp only [Std.compare_eq_iff_eq]
  by_cases sameTopic : topic.topicUniqueName = uniqueName
  · rw [if_pos sameTopic, OrderedMap.getElem?_insert_eq_ite, sameTopic]
    by_cases sameParticipant : counted = participantId
    · simp [sameParticipant]
    · simp [sameParticipant, Ne.symm sameParticipant]
  · simp [sameTopic]

theorem countMessages_of_enabled {topic : DdsTopic} {counted : ParticipantId}
    {numberOfMessages : Int} (enabled : producer.enabled = true) :
    producer.countMessages kind topic counted numberOfMessages =
      producer.recordMessages kind topic counted numberOfMessages :=
  if_pos enabled

/-- **Counting** a number that fits adds it to its own counter and to no other. -/
theorem pending_countMessages {topic : DdsTopic} {counted : ParticipantId} {other : MessageKind}
    {numberOfMessages : Int} (enabled : producer.enabled = true)
    (fits : 0 ≤ producer.pending kind topic.topicUniqueName counted + numberOfMessages ∧
      producer.pending kind topic.topicUniqueName counted + numberOfMessages < counterRange) :
    ((producer.countMessages kind topic counted numberOfMessages).pending other uniqueName
        participantId : Int) = producer.pending other uniqueName participantId +
      if other = kind ∧ uniqueName = topic.topicUniqueName ∧ participantId = counted then
        numberOfMessages
      else 0 := by
  rw [countMessages_of_enabled enabled, pending, TreeMap.getD_eq_getD_getElem?,
    getElem?_recordMessages]
  by_cases same : topic.topicUniqueName = uniqueName ∧ counted = participantId
  · obtain ⟨rfl, rfl⟩ := same
    rw [if_pos ⟨rfl, rfl⟩, Option.getD_some]
    simp only [and_true]
    unfold pending at fits ⊢
    generalize (producer.participantData.getD topic.topicUniqueName ∅).getD counted {} =
      stored at fits ⊢
    have named : ∀ kind, ({ stored with participantId := counted } : DdsTopicData).count kind =
        stored.count kind := fun kind => by cases kind <;> rfl
    rw [← named kind] at fits
    rw [← named other]
    exact DdsTopicData.count_increase fits other
  · rw [if_neg same, if_neg fun all => same ⟨all.2.1.symm, all.2.2.symm⟩, add_zero, pending,
      ← TreeMap.getD_eq_getD_getElem?]

theorem registered_registerTopic {topic : DdsTopic} {change : MonitoredTopic → MonitoredTopic} :
    uniqueName ∈ (producer.registerTopic topic change).topicData ↔
      uniqueName = topic.topicUniqueName ∨ uniqueName ∈ producer.topicData :=
  OrderedMap.mem_insert_iff

theorem recorded_registerTopic {topic : DdsTopic} {change : MonitoredTopic → MonitoredTopic}
    (recorded : producer.Recorded) : (producer.registerTopic topic change).Recorded where
  enabled := recorded.enabled
  registered uniqueName member :=
    registered_registerTopic.mpr (.inr (recorded.registered uniqueName member))
  named := recorded.named

theorem Recorded.participantId_eq {data : DdsTopicData} (recorded : producer.Recorded)
    (found : (producer.participantData.getD uniqueName ∅)[participantId]? = some data) :
    data.participantId = participantId := by
  rw [TreeMap.getD_eq_getD_getElem?] at found
  cases stored : producer.participantData[uniqueName]? with
  | none =>
      rw [stored] at found
      cases found
  | some participants =>
      rw [stored] at found
      exact recorded.named uniqueName participants stored participantId data found

theorem recorded_recordMessages {topic : DdsTopic} {counted : ParticipantId}
    {numberOfMessages : Int} (recorded : producer.Recorded) :
    (producer.recordMessages kind topic counted numberOfMessages).Recorded := by
  refine ⟨recorded.enabled, fun uniqueName member => ?_,
    fun uniqueName participants found participantId data there => ?_⟩
  · show uniqueName ∈ (producer.registerTopic topic fun monitored => monitored).topicData
    refine registered_registerTopic.mpr ?_
    rcases OrderedMap.mem_insert_iff.mp member with same | before
    · exact .inl same
    · exact .inr (recorded.registered uniqueName before)
  · have stored : ((producer.recordMessages kind topic counted
        numberOfMessages).participantData.getD uniqueName ∅)[participantId]? = some data := by
      rw [TreeMap.getD_eq_getD_getElem?, found]
      exact there
    rw [getElem?_recordMessages] at stored
    split at stored
    · cases stored
      exact DdsTopicData.participantId_increase _ _ _
    · exact recorded.participantId_eq stored

theorem recorded_notify {event : TopicsEvent} (recorded : producer.Recorded) :
    (producer.notify event).Recorded := by
  rw [notify, if_pos recorded.enabled]
  cases event with
  | messages kind topic participantId numberOfMessages => exact recorded_recordMessages recorded
  | typeDiscovered typeName => exact ⟨recorded.enabled, recorded.registered, recorded.named⟩
  | typeMismatch topic =>
      rw [record]
      exact recorded_registerTopic recorded
  | qosMismatch topic =>
      rw [record]
      exact recorded_registerTopic recorded

theorem recorded_produceNts (recorded : producer.Recorded) : producer.produceNts.Recorded where
  enabled := recorded.enabled
  registered uniqueName member := TreeMap.mem_map.mpr (recorded.registered uniqueName member)
  named := recorded.named

theorem recorded_resetData (recorded : producer.Recorded) : producer.resetData.Recorded := by
  refine ⟨recorded.enabled, fun uniqueName member => ?_,
    fun uniqueName participants found participantId data there => ?_⟩
  · exact recorded.registered uniqueName (TreeMap.mem_map.mp member)
  · rw [resetData, TreeMap.getElem?_map, Option.map_eq_some_iff] at found
    obtain ⟨before, stored, rfl⟩ := found
    rw [TreeMap.getElem?_map, Option.map_eq_some_iff] at there
    obtain ⟨old, kept, rfl⟩ := there
    exact recorded.named uniqueName before stored participantId old kept

theorem pending_resetData : producer.resetData.pending kind uniqueName participantId = 0 := by
  rw [pending_eq]
  show (((producer.participantData.map _)[uniqueName]?.bind _).map _).getD 0 = 0
  rw [TreeMap.getElem?_map]
  cases producer.participantData[uniqueName]? with
  | none => rfl
  | some participants =>
      rw [Option.map_some, Option.bind_some, TreeMap.getElem?_map]
      cases participants[participantId]? with
      | none => rfl
      | some data => exact data.count_reset kind

theorem recorded_consumeNts (recorded : producer.Recorded) : producer.consumeNts.Recorded :=
  recorded_resetData ⟨recorded.enabled, recorded.registered, recorded.named⟩

theorem pending_consumeNts : producer.consumeNts.pending kind uniqueName participantId = 0 :=
  pending_resetData

end TopicsMonitorProducer

theorem delivered_append (given : List MonitoringTopics) (topics : MonitoringTopics)
    (kind : MessageKind) (uniqueName : String) (participantId : ParticipantId) :
    delivered (given ++ [topics]) kind uniqueName participantId =
      delivered given kind uniqueName participantId +
        topics.count kind uniqueName participantId := by
  rw [delivered, List.map_append, List.sum_append, delivered, List.map_singleton,
    List.sum_singleton]

/-! ### Runs -/

inductive MonitorCall where
  | msgsReceived (topic : DdsTopic) (participantId : ParticipantId) (numberOfMessages : Int)
  | msgsLost (topic : DdsTopic) (participantId : ParticipantId) (numberOfMessages : Int)
  | typeDiscovered (typeName : String)
  | typeMismatch (topic : DdsTopic)
  | qosMismatch (topic : DdsTopic)
  | produce
  | consume
  | produceAndConsume
deriving DecidableEq, Repr

/-- A producer, with the messages that it has been notified of. -/
structure MonitorRun where
  producer : TopicsMonitorProducer
  notified : MessageKind → String → ParticipantId → Int := fun _ _ _ => 0

namespace MonitorRun

def notify (state : MonitorRun) (kind : MessageKind) (topic : DdsTopic)
    (participantId : ParticipantId) (numberOfMessages : Int) (producer : TopicsMonitorProducer) :
    MonitorRun where
  producer := producer
  notified other uniqueName counted := state.notified other uniqueName counted +
    if other = kind ∧ uniqueName = topic.topicUniqueName ∧ counted = participantId then
      numberOfMessages
    else 0

def perform (state : MonitorRun) : MonitorCall → MonitorRun
  | .msgsReceived topic participantId numberOfMessages =>
      state.notify .received topic participantId numberOfMessages
        (state.producer.msgsReceived topic participantId numberOfMessages)
  | .msgsLost topic participantId numberOfMessages =>
      state.notify .lost topic participantId numberOfMessages
        (state.producer.msgsLost topic participantId numberOfMessages)
  | .typeDiscovered typeName =>
      { state with producer := state.producer.typeDiscovered typeName }
  | .typeMismatch topic => { state with producer := state.producer.typeMismatch topic }
  | .qosMismatch topic => { state with producer := state.producer.qosMismatch topic }
  | .produce => { state with producer := state.producer.produce }
  | .consume => { state with producer := state.producer.consume }
  | .produceAndConsume => { state with producer := state.producer.produceAndConsume }

/-- Each message has been delivered to each consumer once, or is still counted
for the next delivery. -/
def CountsOnce (state : MonitorRun) : Prop :=
  ∀ given ∈ state.producer.consumers, ∀ kind uniqueName participantId,
    (delivered given kind uniqueName participantId : Int) +
      state.producer.pending kind uniqueName participantId =
        state.notified kind uniqueName participantId

/-- A number of messages fits into its counter, and a separate `consume` finds
the current counts in the snapshot. -/
def Countable (state : MonitorRun) : MonitorCall → Prop
  | .msgsReceived topic participantId numberOfMessages =>
      0 ≤ state.producer.pending .received topic.topicUniqueName participantId + numberOfMessages ∧
        state.producer.pending .received topic.topicUniqueName participantId + numberOfMessages <
          counterRange
  | .msgsLost topic participantId numberOfMessages =>
      0 ≤ state.producer.pending .lost topic.topicUniqueName participantId + numberOfMessages ∧
        state.producer.pending .lost topic.topicUniqueName participantId + numberOfMessages <
          counterRange
  | .consume => state.producer.SnapshotCurrent
  | _ => True

end MonitorRun

/-- All calls on an enabled producer with a fixed set of consumers. -/
def monitorSystem : System MonitorRun MonitorCall where
  Initial state := ∃ consumers : List (List MonitoringTopics), consumers ≠ [] ∧
    (∀ given ∈ consumers, given = []) ∧
    state = { producer := { enabled := true, consumers := consumers } }
  step state call := some (state.perform call)

namespace MonitorRun

variable {state : MonitorRun} {call : MonitorCall}

theorem recorded_perform (recorded : state.producer.Recorded) :
    (state.perform call).producer.Recorded := by
  have enabled := recorded.enabled
  cases call with
  | msgsReceived topic participantId numberOfMessages =>
      exact TopicsMonitorProducer.recorded_notify recorded
  | msgsLost topic participantId numberOfMessages =>
      exact TopicsMonitorProducer.recorded_notify recorded
  | typeDiscovered typeName => exact TopicsMonitorProducer.recorded_notify recorded
  | typeMismatch topic => exact TopicsMonitorProducer.recorded_notify recorded
  | qosMismatch topic => exact TopicsMonitorProducer.recorded_notify recorded
  | produce =>
      simp only [perform, TopicsMonitorProducer.produce, enabled, if_true]
      exact TopicsMonitorProducer.recorded_produceNts recorded
  | consume =>
      simp only [perform, TopicsMonitorProducer.consume, enabled, if_true]
      exact TopicsMonitorProducer.recorded_consumeNts recorded
  | produceAndConsume =>
      simp only [perform, TopicsMonitorProducer.produceAndConsume, enabled, if_true]
      exact TopicsMonitorProducer.recorded_consumeNts
        (TopicsMonitorProducer.recorded_produceNts recorded)

theorem countsOnce_notify {kind : MessageKind} {topic : DdsTopic} {participantId : ParticipantId}
    {numberOfMessages : Int} (enabled : state.producer.enabled = true) (counts : state.CountsOnce)
    (fits : 0 ≤ state.producer.pending kind topic.topicUniqueName participantId +
        numberOfMessages ∧
      state.producer.pending kind topic.topicUniqueName participantId + numberOfMessages <
        counterRange) :
    (state.notify kind topic participantId numberOfMessages
      (state.producer.countMessages kind topic participantId numberOfMessages)).CountsOnce := by
  intro given member other uniqueName counted
  have there : given ∈ state.producer.consumers := by
    unfold notify TopicsMonitorProducer.countMessages TopicsMonitorProducer.notify at member
    rw [if_pos enabled] at member
    exact member
  have before := counts given there other uniqueName counted
  show _ + ((state.producer.countMessages kind topic participantId numberOfMessages).pending other
    uniqueName counted : Int) = state.notified other uniqueName counted + _
  rw [TopicsMonitorProducer.pending_countMessages enabled fits, ← before, add_assoc]

theorem countsOnce_consumeNts {producer : TopicsMonitorProducer}
    {notified : MessageKind → String → ParticipantId → Int}
    (counts : CountsOnce { producer := producer, notified := notified })
    (current : producer.SnapshotCurrent) :
    CountsOnce { producer := producer.consumeNts, notified := notified } := by
  intro given member kind uniqueName participantId
  rw [TopicsMonitorProducer.pending_consumeNts]
  obtain ⟨before, there, rfl⟩ := List.mem_map.mp member
  rw [delivered_append, current kind uniqueName participantId,
    ← counts before there kind uniqueName participantId]
  push_cast
  omega

/-- What a run keeps. -/
structure Sound (state : MonitorRun) : Prop where
  recorded : state.producer.Recorded
  counts : state.CountsOnce

/-- One step keeps the counts of a producer that finds what it needs. -/
theorem countsOnce_perform (recorded : state.producer.Recorded) (counts : state.CountsOnce)
    (countable : state.Countable call) : (state.perform call).CountsOnce := by
  have enabled := recorded.enabled
  cases call with
  | msgsReceived topic participantId numberOfMessages =>
      exact countsOnce_notify enabled counts countable
  | msgsLost topic participantId numberOfMessages =>
      exact countsOnce_notify enabled counts countable
  | typeDiscovered typeName =>
      simp only [perform, TopicsMonitorProducer.typeDiscovered, TopicsMonitorProducer.notify,
        enabled, if_true]
      exact counts
  | typeMismatch topic =>
      simp only [perform, TopicsMonitorProducer.typeMismatch, TopicsMonitorProducer.notify,
        enabled, if_true]
      exact counts
  | qosMismatch topic =>
      simp only [perform, TopicsMonitorProducer.qosMismatch, TopicsMonitorProducer.notify,
        enabled, if_true]
      exact counts
  | produce =>
      simp only [perform, TopicsMonitorProducer.produce, enabled, if_true]
      exact counts
  | consume =>
      simp only [perform, TopicsMonitorProducer.consume, enabled, if_true]
      exact countsOnce_consumeNts counts countable
  | produceAndConsume =>
      simp only [perform, TopicsMonitorProducer.produceAndConsume, enabled, if_true]
      have produced : CountsOnce
          { producer := state.producer.produceNts, notified := state.notified } := counts
      exact countsOnce_consumeNts produced
        (TopicsMonitorProducer.snapshotCurrent_produceNts recorded)

end MonitorRun

/-- **Each message is counted once**, in every run whose separate deliveries find
the current counts in the snapshot and whose counters do not overflow. -/
theorem countsOnce_of_reachable {state : MonitorRun}
    (reached : monitorSystem.Reachable MonitorRun.Countable state) : state.CountsOnce := by
  refine MonitorRun.Sound.counts (reached.invariant ?_ ?_)
  · rintro _ ⟨consumers, _, fresh, rfl⟩
    refine ⟨⟨rfl, by simp, by simp⟩, fun given member kind uniqueName participantId => ?_⟩
    rw [fresh given member, TopicsMonitorProducer.pending_eq]
    simp [delivered]
  · rintro state call _ sound countable taken
    cases taken
    exact ⟨MonitorRun.recorded_perform sound.recorded,
      MonitorRun.countsOnce_perform sound.recorded sound.counts countable⟩

/-- An enabled producer with one consumer. -/
def monitoredOnce : MonitorRun := { producer := { enabled := true, consumers := [[]] } }

theorem initial_monitoredOnce : monitorSystem.Initial monitoredOnce :=
  ⟨[[]], List.cons_ne_nil _ _, fun _ member => List.mem_singleton.mp member, rfl⟩

theorem countsOnce_of_reachable_separate :
    (((monitoredOnce.perform (.msgsReceived { topicName := "t" } "a" 2)).perform .produce).perform
      .consume).CountsOnce := by
  have recorded : (monitoredOnce.perform
      (.msgsReceived { topicName := "t" } "a" 2)).producer.Recorded :=
    MonitorRun.recorded_perform ⟨rfl, by simp [monitoredOnce], by simp [monitoredOnce]⟩
  have counted : monitoredOnce.Countable (.msgsReceived { topicName := "t" } "a" 2) :=
    ⟨by decide +kernel, by decide +kernel⟩
  have current : ((monitoredOnce.perform (.msgsReceived { topicName := "t" } "a" 2)).perform
      .produce).Countable .consume :=
    TopicsMonitorProducer.snapshotCurrent_produceNts recorded
  have first := (System.Reachable.start initial_monitoredOnce).next counted rfl
  have second := first.next (show MonitorRun.Countable _ .produce from trivial) rfl
  exact countsOnce_of_reachable (second.next current rfl)

/-- A snapshot that is consumed twice. -/
theorem not_countsOnce_of_reachable :
    ∃ state, monitorSystem.Reachable anyStep state ∧ ¬ state.CountsOnce := by
  obtain ⟨state, reached, test⟩ := System.exists_reachable_of_run monitorSystem monitoredOnce
    [.msgsReceived { topicName := "t" } "a" 1, .produce, .consume, .consume]
    (fun state => state.producer.consumers.any fun given => decide
      ((delivered given .received "tpayload::rtps::v0" "a" : Int) +
        state.producer.pending .received "tpayload::rtps::v0" "a" ≠
          state.notified .received "tpayload::rtps::v0" "a"))
    (fun _ _ _ => trivial) initial_monitoredOnce (by decide +kernel)
  refine ⟨state, reached, fun counts => ?_⟩
  obtain ⟨given, member, different⟩ := List.any_eq_true.mp test
  exact of_decide_eq_true different (counts given member _ _ _)

end DdsPipe.Monitoring
