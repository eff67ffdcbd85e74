import DdsPipe.Dynamic.DiscoveryDatabase
import DdsPipe.Types.SpecificEndpointQoS
import DdsPipe.Library.OrderedMap
import DdsPipe.Library.TransitionSystem

/-!
Owns the way of the writer QoS through the pipe, for topics with partitions or
ownership: the reader that asks the discovery database for the QoS of the source
writer, and the writer that keeps one inner writer for each QoS.

A sample whose source writer is not in the database is logged as an error and
then forwarded with the default QoS (`not_preservesQos_of_reachable`). The QoS is
preserved in the runs in which every sample that is taken has its source writer
in the database (`preservesQos_of_reachable`).

Does not own: what becomes of a sample inside the inner writer, whose rate limit
and history decide whether it is sent, and the threads of the tracks.
-/

namespace DdsPipe.Participants

open Std (TreeMap)
open DdsPipe.Types DdsPipe.Dynamic
open TransitionSystem

/-! ### Samples -/

inductive ChangeKind where
  | alive
  | notAliveDisposed
  | notAliveUnregistered
  | notAliveDisposedUnregistered
deriving DecidableEq, Repr

abbrev Payload := List UInt8

/-- A sample in the history of a reader of the RTPS library. -/
structure CacheChange where
  writerGuid : Guid
  sourceTimestamp : Nat := 0
  serializedPayload : Payload := []
  maxSize : Nat := 0
  instanceHandle : Nat := 0
  kind : ChangeKind := .alive
deriving DecidableEq, Repr

/-- `payloadOwner` tells whether the owner is the pool of the pipe, or null. -/
structure RtpsPayloadData where
  payload : Payload := []
  payloadOwner : Bool := false
  writerQos : SpecificEndpointQoS := {}
  instanceHandle : Nat := 0
  kind : ChangeKind := .alive
  sourceTimestamp : Nat := 0
  sourceGuid : Guid := ⟨0, 0⟩
  participantReceiver : ParticipantId := ""
deriving DecidableEq, Repr

/-- `GUID_t::unknown`. -/
def unknownGuid : Guid := ⟨0, 0⟩

/-! ### The reader -/

/-- The exception of `get_endpoint`, as the pieces its message is formatted from. -/
structure NotFoundException where
  before : String
  guid : Guid
  after : String
deriving DecidableEq, Repr

/-- `get_endpoint`, which does not look at whether the endpoint is active. -/
def getEndpoint (entities : Entities) (endpointGuid : Guid) : Except NotFoundException Endpoint :=
  match entities[endpointGuid]? with
  | some endpoint => .ok endpoint
  | none => .error {
      before := "Error retrieving Endpoint with GUID "
      guid := endpointGuid
      after := " from database. Endpoint entry not found." }

def specificQosOfWriter (database : Entities) (guid : Guid) :
    Except NotFoundException SpecificEndpointQoS := do
  let endpoint ← getEndpoint database guid
  return endpoint.specificQos

inductive ReturnCode where
  | ok
  | noData
  | notEnabled
  | error
deriving DecidableEq, Repr

/-- `history` holds the unread samples, in the order in which they are taken. -/
structure SpecificQoSReader where
  participantId : ParticipantId
  keyed : Bool := false
  enabled : Bool := false
  history : List CacheChange := []
deriving DecidableEq, Repr

/-- What a take meets outside the reader: whether the library finds the unread
sample, and the payload that the pool makes of the one of the sample. -/
structure TakeEnvironment where
  nextUntakenCache : Bool := true
  getPayload : Payload → Payload := id

namespace SpecificQoSReader

def isDataCorrect (reader : SpecificQoSReader) (change : CacheChange) : Bool :=
  if change.writerGuid = unknownGuid then false
  else if change.maxSize > 0 then true
  else reader.keyed && change.kind != .alive

/-- `CommonReader::fill_received_data_`. -/
def fillCommonData (reader : SpecificQoSReader) (environment : TakeEnvironment)
    (change : CacheChange) (dataToFill : RtpsPayloadData) : RtpsPayloadData :=
  let data := { dataToFill with
    sourceGuid := change.writerGuid
    sourceTimestamp := change.sourceTimestamp
    participantReceiver := reader.participantId }
  let data :=
    if change.serializedPayload.length > 0 then
      { data with
        payload := environment.getPayload change.serializedPayload
        payloadOwner := true }
    else data
  let data := if reader.keyed then { data with instanceHandle := change.instanceHandle } else data
  { data with kind := change.kind }

def fillReceivedData (reader : SpecificQoSReader) (environment : TakeEnvironment)
    (discoveryDatabase : Entities) (change : CacheChange) (dataToFill : RtpsPayloadData) :
    RtpsPayloadData :=
  let data := reader.fillCommonData environment change dataToFill
  match specificQosOfWriter discoveryDatabase data.sourceGuid with
  | .ok qos => { data with writerQos := qos }
  -- The source logs the error and keeps the data.
  | .error _ => data

def takeNts (reader : SpecificQoSReader) (environment : TakeEnvironment)
    (discoveryDatabase : Entities) : SpecificQoSReader × ReturnCode × Option RtpsPayloadData :=
  match reader.history with
  | [] => (reader, .noData, none)
  | receivedChange :: unread =>
      if !environment.nextUntakenCache then (reader, .error, none)
      else if !reader.isDataCorrect receivedChange then
        ({ reader with history := unread }, .error, none)
      else
        ({ reader with history := unread }, .ok,
          some (reader.fillReceivedData environment discoveryDatabase receivedChange {}))

def take (reader : SpecificQoSReader) (environment : TakeEnvironment)
    (discoveryDatabase : Entities) : SpecificQoSReader × ReturnCode × Option RtpsPayloadData :=
  if reader.enabled then reader.takeNts environment discoveryDatabase
  else (reader, .notEnabled, none)

end SpecificQoSReader

/-! ### The writer -/

structure QoSSpecificWriter where
  specificQos : SpecificEndpointQoS
  enabled : Bool := false
deriving DecidableEq, Repr

/-- A sample that an inner writer writes, with the QoS of that writer. -/
structure Written where
  data : RtpsPayloadData
  writerQos : SpecificEndpointQoS
deriving DecidableEq, Repr

def QoSSpecificWriter.write (writer : QoSSpecificWriter) (data : RtpsPayloadData) :
    ReturnCode × List Written :=
  if writer.enabled then (.ok, [{ data := data, writerQos := writer.specificQos }])
  else (.notEnabled, [])

abbrev WritersMap := TreeMap SpecificEndpointQoS QoSSpecificWriter SpecificEndpointQoS.order

/-- `created` records the QoS of every inner writer that is created, and
`written` every sample that an inner writer writes. -/
structure MultiWriter where
  enabled : Bool := false
  writersMap : WritersMap := ∅
  created : List SpecificEndpointQoS := []
  written : List Written := []

namespace MultiWriter

def setEnabled (multiWriter : MultiWriter) (enabled : Bool) : MultiWriter :=
  { multiWriter with
    enabled := enabled
    writersMap := multiWriter.writersMap.map fun _ writer => { writer with enabled := enabled } }

def enable (multiWriter : MultiWriter) : MultiWriter :=
  if multiWriter.enabled then multiWriter else multiWriter.setEnabled true

def disable (multiWriter : MultiWriter) : MultiWriter :=
  if multiWriter.enabled then multiWriter.setEnabled false else multiWriter

def getWriterOrCreate (multiWriter : MultiWriter) (dataQos : SpecificEndpointQoS) :
    QoSSpecificWriter × MultiWriter :=
  match multiWriter.writersMap[dataQos]? with
  | some writer => (writer, multiWriter)
  | none =>
      let newWriter : QoSSpecificWriter :=
        { specificQos := dataQos, enabled := multiWriter.enabled }
      (newWriter, { multiWriter with
        writersMap := multiWriter.writersMap.insert dataQos newWriter
        created := multiWriter.created ++ [dataQos] })

def writeNts (multiWriter : MultiWriter) (data : RtpsPayloadData) : MultiWriter × ReturnCode :=
  let (thisQosWriter, multiWriter) := multiWriter.getWriterOrCreate data.writerQos
  let (code, written) := thisQosWriter.write data
  ({ multiWriter with written := multiWriter.written ++ written }, code)

def write (multiWriter : MultiWriter) (data : RtpsPayloadData) : MultiWriter × ReturnCode :=
  if multiWriter.enabled then multiWriter.writeNts data else (multiWriter, .notEnabled)

end MultiWriter

/-! ### The pipe of one topic -/

/-- A sample that a reader has handed on, with the QoS that the database stored
for its source writer when it was taken. -/
structure TakenSample where
  data : RtpsPayloadData
  stored : Option SpecificEndpointQoS
deriving DecidableEq, Repr

/-- The readers of the participants and the writer of one of them. `taken`
records every sample that a reader has handed on, and `handed` those that were
written while the writer was enabled. -/
structure QosPipe where
  entities : Entities := ∅
  readers : ParticipantId → SpecificQoSReader
  multiWriter : MultiWriter := {}
  taken : List TakenSample := []
  handed : List TakenSample := []

inductive QosAction where
  | process (item : DatabaseOperation × Endpoint)
  | receive (id : ParticipantId) (change : CacheChange)
  | enableReader (id : ParticipantId)
  | disableReader (id : ParticipantId)
  | take (id : ParticipantId) (environment : TakeEnvironment)
  | enableWriter
  | disableWriter
  /-- The sample that was taken at this position is written. -/
  | write (index : Nat)

namespace QosPipe

def setReader (pipe : QosPipe) (id : ParticipantId) (reader : SpecificQoSReader) : QosPipe :=
  { pipe with readers := Function.update pipe.readers id reader }

/-- The QoS that the database stores for a writer. -/
def storedQos (pipe : QosPipe) (guid : Guid) : Option SpecificEndpointQoS :=
  pipe.entities[guid]?.map Endpoint.specificQos

def take (pipe : QosPipe) (id : ParticipantId) (environment : TakeEnvironment) : QosPipe :=
  let (reader, _, data) := (pipe.readers id).take environment pipe.entities
  { pipe.setReader id reader with
    taken := pipe.taken ++ data.toList.map fun data =>
      { data := data, stored := pipe.storedQos data.sourceGuid } }

def write (pipe : QosPipe) (sample : TakenSample) : QosPipe :=
  { pipe with
    multiWriter := (pipe.multiWriter.write sample.data).1
    handed := if pipe.multiWriter.enabled then pipe.handed ++ [sample] else pipe.handed }

def perform (pipe : QosPipe) : QosAction → Option QosPipe
  | .process item => some { pipe with entities := (processItem pipe.entities item).1 }
  | .receive id change =>
      let reader := pipe.readers id
      some (pipe.setReader id { reader with history := reader.history ++ [change] })
  | .enableReader id => some (pipe.setReader id { pipe.readers id with enabled := true })
  | .disableReader id => some (pipe.setReader id { pipe.readers id with enabled := false })
  | .take id environment => some (pipe.take id environment)
  | .enableWriter => some { pipe with multiWriter := pipe.multiWriter.enable }
  | .disableWriter => some { pipe with multiWriter := pipe.multiWriter.disable }
  | .write index => pipe.taken[index]?.map pipe.write

end QosPipe

/-- The database may hold any endpoints when the topic is created. -/
def qosSystem : System QosPipe QosAction where
  Initial pipe := pipe.multiWriter = {} ∧ pipe.taken = [] ∧ pipe.handed = []
  step := QosPipe.perform

/-- The source writer of the sample that a take hands on is in the database. -/
def SourceStored (pipe : QosPipe) (action : QosAction) : Prop :=
  ∀ id environment change unread, action = .take id environment →
    (pipe.readers id).enabled = true → environment.nextUntakenCache = true →
    (pipe.readers id).history = change :: unread →
    (pipe.readers id).isDataCorrect change = true → change.writerGuid ∈ pipe.entities

/-- Every sample that is handed on has its source writer in the database; the
samples written are those handed to the enabled writer, each by the inner writer
of the QoS that was stored for its source; and one inner writer is created for
each of these QoS. -/
structure PreservesQos (pipe : QosPipe) : Prop where
  forwarded : ∀ sample ∈ pipe.taken, sample.stored.isSome = true
  written : pipe.multiWriter.written.map (fun written => (written.data, some written.writerQos)) =
    pipe.handed.map fun sample => (sample.data, sample.stored)
  createdOnce : pipe.multiWriter.created.Nodup
  created : ∀ qos, qos ∈ pipe.multiWriter.created ↔
    ∃ sample ∈ pipe.handed, sample.stored = some qos
  kept : ∀ qos, qos ∈ pipe.multiWriter.created ↔
    ∃ writer, pipe.multiWriter.writersMap[qos]? = some writer ∧ writer.specificQos = qos

/-! ### Taken samples -/

theorem specificQosOfWriter_stored {entities : Entities} {guid : Guid}
    (member : guid ∈ entities) :
    ∃ qos, entities[guid]?.map Endpoint.specificQos = some qos ∧
      specificQosOfWriter entities guid = .ok qos := by
  cases found : entities[guid]? with
  | none => exact absurd member (OrderedMap.getElem?_eq_none_iff.mp found)
  | some endpoint =>
      refine ⟨endpoint.specificQos, rfl, ?_⟩
      simp [specificQosOfWriter, getEndpoint, found, bind, Except.bind, pure, Except.pure]

namespace SpecificQoSReader

variable {reader : SpecificQoSReader} {environment : TakeEnvironment} {entities : Entities}

@[simp] theorem fillCommonData_sourceGuid (change : CacheChange) (data : RtpsPayloadData) :
    (reader.fillCommonData environment change data).sourceGuid = change.writerGuid := by
  unfold fillCommonData
  dsimp only
  split <;> split <;> rfl

theorem fillReceivedData_sourceGuid (change : CacheChange) (data : RtpsPayloadData) :
    (reader.fillReceivedData environment entities change data).sourceGuid =
      change.writerGuid := by
  unfold fillReceivedData
  dsimp only
  split <;> exact fillCommonData_sourceGuid change data

/-- A take that hands on data has taken the first unread sample. -/
theorem take_data {data : RtpsPayloadData}
    (handedOn : (reader.take environment entities).2.2 = some data) :
    ∃ change unread, reader.enabled = true ∧ environment.nextUntakenCache = true ∧
      reader.history = change :: unread ∧ reader.isDataCorrect change = true ∧
      data = reader.fillReceivedData environment entities change {} := by
  unfold take takeNts at handedOn
  split at handedOn
  · next enabled =>
      split at handedOn
      · cases handedOn
      · next change unread history =>
          split at handedOn
          · cases handedOn
          · next found =>
              split at handedOn
              · cases handedOn
              · next correct =>
                  simp only [Bool.not_eq_true', Bool.not_eq_false] at found correct
                  exact ⟨change, unread, enabled, found, history, correct,
                    (Option.some.inj handedOn).symm⟩
  · cases handedOn

/-- The data of a writer that is in the database carries the QoS stored there. -/
theorem fillReceivedData_writerQos {change : CacheChange} (data : RtpsPayloadData)
    (member : change.writerGuid ∈ entities) :
    entities[change.writerGuid]?.map Endpoint.specificQos =
      some (reader.fillReceivedData environment entities change data).writerQos := by
  obtain ⟨qos, stored, found⟩ := specificQosOfWriter_stored member
  rw [stored, fillReceivedData]
  simp only [fillCommonData_sourceGuid, found]

end SpecificQoSReader

/-! ### Inner writers -/

namespace MultiWriter

variable {multiWriter : MultiWriter}

/-- The inner writers are those created, each stored under its own QoS and
enabled with the writer. -/
structure Consistent (multiWriter : MultiWriter) : Prop where
  stored : ∀ qos writer, multiWriter.writersMap[qos]? = some writer →
    writer = ({ specificQos := qos, enabled := multiWriter.enabled } : QoSSpecificWriter)
  createdOnce : multiWriter.created.Nodup
  created : ∀ qos, qos ∈ multiWriter.created ↔ qos ∈ multiWriter.writersMap

theorem consistent_setEnabled (consistent : multiWriter.Consistent) (enabled : Bool) :
    (multiWriter.setEnabled enabled).Consistent where
  stored qos writer found := by
    rw [setEnabled, TreeMap.getElem?_map, Option.map_eq_some_iff] at found
    obtain ⟨before, known, rfl⟩ := found
    rw [consistent.stored qos before known]
    rfl
  createdOnce := consistent.createdOnce
  created qos := by
    rw [setEnabled, TreeMap.mem_map]
    exact consistent.created qos

theorem consistent_enable (consistent : multiWriter.Consistent) :
    multiWriter.enable.Consistent := by
  unfold enable
  split
  · exact consistent
  · exact consistent_setEnabled consistent true

theorem consistent_disable (consistent : multiWriter.Consistent) :
    multiWriter.disable.Consistent := by
  unfold disable
  split
  · exact consistent_setEnabled consistent false
  · exact consistent

theorem enable_frame (multiWriter : MultiWriter) :
    multiWriter.enable.created = multiWriter.created ∧
      multiWriter.enable.written = multiWriter.written := by
  unfold enable
  split <;> exact ⟨rfl, rfl⟩

theorem disable_frame (multiWriter : MultiWriter) :
    multiWriter.disable.created = multiWriter.created ∧
      multiWriter.disable.written = multiWriter.written := by
  unfold disable
  split <;> exact ⟨rfl, rfl⟩

/-- The inner writer that is found or created has the QoS of the data. -/
theorem getWriterOrCreate_spec (consistent : multiWriter.Consistent) (qos : SpecificEndpointQoS) :
    (multiWriter.getWriterOrCreate qos).1 =
        { specificQos := qos, enabled := multiWriter.enabled } ∧
      (multiWriter.getWriterOrCreate qos).2.Consistent ∧
      (multiWriter.getWriterOrCreate qos).2.enabled = multiWriter.enabled ∧
      (multiWriter.getWriterOrCreate qos).2.written = multiWriter.written ∧
      ∀ other, other ∈ (multiWriter.getWriterOrCreate qos).2.created ↔
        other ∈ multiWriter.created ∨ other = qos := by
  unfold getWriterOrCreate
  split
  · next writer found =>
      refine ⟨consistent.stored qos writer found, consistent, rfl, rfl, fun other => ?_⟩
      have known : qos ∈ multiWriter.created :=
        (consistent.created qos).mpr (OrderedMap.mem_iff_exists_getElem?.mpr ⟨writer, found⟩)
      constructor
      · exact .inl
      · rintro (member | rfl)
        · exact member
        · exact known
  · next absent =>
      have fresh : qos ∉ multiWriter.created := by
        rw [consistent.created]
        exact OrderedMap.getElem?_eq_none_iff.mp absent
      refine ⟨rfl, ⟨?_, ?_, ?_⟩, rfl, rfl, ?_⟩
      · intro other writer found
        rw [TreeMap.getElem?_insert] at found
        split at found
        · next same =>
            rw [← Std.LawfulEqCmp.eq_of_compare same]
            exact (Option.some.inj found).symm
        · exact consistent.stored other writer found
      · rw [List.nodup_append]
        refine ⟨consistent.createdOnce, List.nodup_singleton qos, ?_⟩
        rintro other member _ single rfl
        rw [List.mem_singleton.mp single] at member
        exact fresh member
      · intro other
        rw [List.mem_append, List.mem_singleton, OrderedMap.mem_insert_iff, consistent.created]
        exact or_comm
      · intro other
        rw [List.mem_append, List.mem_singleton]

/-- An enabled writer writes the sample through the inner writer of its QoS. -/
theorem write_spec (consistent : multiWriter.Consistent) (enabled : multiWriter.enabled = true)
    (data : RtpsPayloadData) :
    (multiWriter.write data).2 = .ok ∧ (multiWriter.write data).1.Consistent ∧
      (multiWriter.write data).1.written =
        multiWriter.written ++ [{ data := data, writerQos := data.writerQos }] ∧
      ∀ other, other ∈ (multiWriter.write data).1.created ↔
        other ∈ multiWriter.created ∨ other = data.writerQos := by
  obtain ⟨inner, kept, _, written, created⟩ := getWriterOrCreate_spec consistent data.writerQos
  simp only [write, writeNts, inner, QoSSpecificWriter.write, enabled, if_true, written]
  exact ⟨trivial, ⟨kept.stored, kept.createdOnce, kept.created⟩, trivial, created⟩

theorem write_disabled (disabled : multiWriter.enabled = false) (data : RtpsPayloadData) :
    multiWriter.write data = (multiWriter, .notEnabled) := by
  rw [write, disabled]
  rfl

end MultiWriter

/-! ### Runs -/

namespace QosPipe

variable {pipe : QosPipe}

/-- What the runs keep. -/
structure Sound (pipe : QosPipe) : Prop where
  filled : ∀ sample ∈ pipe.taken, sample.stored = some sample.data.writerQos
  handed : ∀ sample ∈ pipe.handed, sample ∈ pipe.taken
  consistent : pipe.multiWriter.Consistent
  written : pipe.multiWriter.written =
    pipe.handed.map fun sample => { data := sample.data, writerQos := sample.data.writerQos }
  created : ∀ qos, qos ∈ pipe.multiWriter.created ↔
    ∃ sample ∈ pipe.handed, sample.data.writerQos = qos

theorem Sound.preservesQos (sound : pipe.Sound) : PreservesQos pipe where
  forwarded sample member := by
    rw [sound.filled sample member]
    rfl
  written := by
    rw [sound.written, List.map_map]
    refine List.map_congr_left fun sample member => ?_
    rw [sound.filled sample (sound.handed sample member)]
    rfl
  createdOnce := sound.consistent.createdOnce
  created qos := by
    rw [sound.created]
    constructor
    · rintro ⟨sample, member, rfl⟩
      exact ⟨sample, member, sound.filled sample (sound.handed sample member)⟩
    · rintro ⟨sample, member, stored⟩
      rw [sound.filled sample (sound.handed sample member)] at stored
      exact ⟨sample, member, Option.some.inj stored⟩
  kept qos := by
    rw [sound.consistent.created, OrderedMap.mem_iff_exists_getElem?]
    constructor
    · rintro ⟨writer, found⟩
      exact ⟨writer, found, by rw [sound.consistent.stored qos writer found]⟩
    · rintro ⟨writer, found, _⟩
      exact ⟨writer, found⟩

theorem sound_initial (initial : qosSystem.Initial pipe) : pipe.Sound := by
  obtain ⟨fresh, taken, handed⟩ := initial
  refine ⟨?_, ?_, ?_, ?_, ?_⟩
  · simp [taken]
  · simp [handed]
  · rw [fresh]
    exact ⟨by simp, List.nodup_nil, by simp⟩
  · rw [fresh, handed]
    rfl
  · simp [fresh, handed]

/-- Nothing is taken or written, and the inner writers stay consistent. -/
theorem Sound.of_frame {next : QosPipe} (sound : pipe.Sound) (taken : next.taken = pipe.taken)
    (handed : next.handed = pipe.handed) (consistent : next.multiWriter.Consistent)
    (created : next.multiWriter.created = pipe.multiWriter.created)
    (written : next.multiWriter.written = pipe.multiWriter.written) : next.Sound where
  filled := by
    rw [taken]
    exact sound.filled
  handed := by
    rw [taken, handed]
    exact sound.handed
  consistent := consistent
  written := by
    rw [written, handed]
    exact sound.written
  created := by
    rw [created, handed]
    exact sound.created

theorem sound_take {id : ParticipantId} {environment : TakeEnvironment} (sound : pipe.Sound)
    (stored : SourceStored pipe (.take id environment)) : (pipe.take id environment).Sound := by
  refine ⟨?_, ?_, sound.consistent, sound.written, sound.created⟩
  · intro sample member
    rcases List.mem_append.mp member with before | fresh
    · exact sound.filled sample before
    · obtain ⟨data, handedOn, rfl⟩ := List.mem_map.mp fresh
      obtain ⟨change, unread, enabled, found, history, correct, rfl⟩ :=
        SpecificQoSReader.take_data (Option.mem_toList.mp handedOn)
      have member := stored id environment change unread rfl enabled found history correct
      show pipe.storedQos _ = _
      rw [storedQos, SpecificQoSReader.fillReceivedData_sourceGuid]
      exact SpecificQoSReader.fillReceivedData_writerQos {} member
  · intro sample member
    exact List.mem_append_left _ (sound.handed sample member)

theorem sound_write {sample : TakenSample} (sound : pipe.Sound) (member : sample ∈ pipe.taken) :
    (pipe.write sample).Sound := by
  cases enabled : pipe.multiWriter.enabled with
  | false =>
      refine sound.of_frame rfl ?_ ?_ ?_ ?_
      · simp [write, enabled]
      · simp only [write, MultiWriter.write_disabled enabled]
        exact sound.consistent
      · simp only [write, MultiWriter.write_disabled enabled]
      · simp only [write, MultiWriter.write_disabled enabled]
  | true =>
      obtain ⟨_, consistent, written, created⟩ :=
        MultiWriter.write_spec sound.consistent enabled sample.data
      refine ⟨sound.filled, ?_, consistent, ?_, ?_⟩
      · intro other handed
        simp only [write, enabled, if_true, List.mem_append, List.mem_singleton] at handed
        rcases handed with before | rfl
        · exact sound.handed other before
        · exact member
      · simp only [write, enabled, if_true, written, sound.written, List.map_append,
          List.map_cons, List.map_nil]
      · intro qos
        simp only [write, enabled, if_true, created, sound.created, List.mem_append,
          List.mem_singleton]
        constructor
        · rintro (⟨other, handed, rfl⟩ | rfl)
          · exact ⟨other, .inl handed, rfl⟩
          · exact ⟨sample, .inr rfl, rfl⟩
        · rintro ⟨other, handed | rfl, rfl⟩
          · exact .inl ⟨other, handed, rfl⟩
          · exact .inr rfl

theorem sound_perform {action : QosAction} {next : QosPipe} (sound : pipe.Sound)
    (stored : SourceStored pipe action) (performed : pipe.perform action = some next) :
    next.Sound := by
  cases action with
  | process item =>
      cases performed
      exact sound.of_frame rfl rfl sound.consistent rfl rfl
  | receive id change =>
      cases performed
      exact sound.of_frame rfl rfl sound.consistent rfl rfl
  | enableReader id =>
      cases performed
      exact sound.of_frame rfl rfl sound.consistent rfl rfl
  | disableReader id =>
      cases performed
      exact sound.of_frame rfl rfl sound.consistent rfl rfl
  | take id environment =>
      cases performed
      exact sound_take sound stored
  | enableWriter =>
      cases performed
      exact sound.of_frame rfl rfl (MultiWriter.consistent_enable sound.consistent)
        (MultiWriter.enable_frame _).1 (MultiWriter.enable_frame _).2
  | disableWriter =>
      cases performed
      exact sound.of_frame rfl rfl (MultiWriter.consistent_disable sound.consistent)
        (MultiWriter.disable_frame _).1 (MultiWriter.disable_frame _).2
  | write index =>
      obtain ⟨sample, found, rfl⟩ := Option.map_eq_some_iff.mp performed
      exact sound_write sound (List.mem_of_getElem? found)

end QosPipe

/-! ### The QoS of the source writer is preserved -/

/-- **The QoS of the source writers is preserved** in the runs in which every
sample that is taken has its source writer in the database. The inner writers are
told apart by a strict total order whose ties are equalities. -/
theorem preservesQos_of_reachable {pipe : QosPipe}
    (reached : qosSystem.Reachable SourceStored pipe) :
    PreservesQos pipe ∧ SpecificEndpointQoS.IsStrictTotal SpecificEndpointQoS.lt := by
  have sound : pipe.Sound := by
    refine reached.invariant ?_ ?_
    · exact fun _ initial => QosPipe.sound_initial initial
    · exact fun _ _ _ sound stored performed => QosPipe.sound_perform sound stored performed
  exact ⟨sound.preservesQos, SpecificEndpointQoS.isStrictTotal_lt⟩

/-- A pipe whose only endpoint is a writer of partition `p`, and whose readers
have not received anything. -/
def partitionPipe : QosPipe where
  entities := TreeMap.ofList [(⟨1, 7⟩, ({
    kind := .writer
    guid := ⟨1, 7⟩
    specificQos := { partitions := ["p"] } } : Endpoint))] _
  readers id := { participantId := id, enabled := true }

/-- A sample of a writer. -/
def sampleOf (writerGuid : Guid) : CacheChange :=
  { writerGuid := writerGuid, serializedPayload := [5], maxSize := 1 }

/-- A test of `SourceStored`. -/
def sourceStored (pipe : QosPipe) : QosAction → Bool
  | .take id _ =>
      match (pipe.readers id).history with
      | [] => true
      | change :: _ => pipe.entities.contains change.writerGuid
  | _ => true

theorem sourceStored_sound {pipe : QosPipe} {action : QosAction}
    (passed : sourceStored pipe action = true) : SourceStored pipe action := by
  rintro id environment change unread rfl _ _ history _
  rw [sourceStored, history] at passed
  exact TreeMap.mem_iff_contains.mpr passed

/-- Two samples of the writer are written, and one inner writer is created. -/
theorem preservesQos_of_reachable_partition :
    ∃ pipe : QosPipe, pipe.multiWriter.written.length = 2 ∧
      pipe.multiWriter.created = [{ partitions := ["p"] }] ∧
      PreservesQos pipe ∧ SpecificEndpointQoS.IsStrictTotal SpecificEndpointQoS.lt := by
  obtain ⟨pipe, reached, test⟩ := System.exists_reachable_of_runAdmitted qosSystem partitionPipe
    [.enableWriter, .receive "a" (sampleOf ⟨1, 7⟩), .receive "a" (sampleOf ⟨1, 7⟩),
      .take "a" {}, .write 0, .take "a" {}, .write 1] sourceStored
    (fun pipe => pipe.multiWriter.written.length = 2 ∧
      pipe.multiWriter.created = [{ partitions := ["p"] }])
    (fun _ _ _ => sourceStored_sound) ⟨rfl, rfl, rfl⟩ (by decide +kernel)
  obtain ⟨written, created⟩ := of_decide_eq_true test
  exact ⟨pipe, written, created, preservesQos_of_reachable reached⟩

/-- A sample of a writer that is not in the database is handed on. -/
theorem not_preservesQos_of_reachable :
    ¬ ∀ pipe, qosSystem.Reachable anyStep pipe → PreservesQos pipe := by
  intro preserves
  obtain ⟨pipe, reached, test⟩ := System.exists_reachable_of_run qosSystem partitionPipe
    [.enableWriter, .receive "a" (sampleOf ⟨2, 7⟩), .take "a" {}, .write 0]
    (fun pipe => pipe.taken.any fun sample => sample.stored.isNone)
    (fun _ _ _ => trivial) ⟨rfl, rfl, rfl⟩ (by decide +kernel)
  obtain ⟨sample, member, absent⟩ := List.any_eq_true.mp test
  have present := (preserves pipe reached).forwarded sample member
  rw [Option.isNone_iff_eq_none.mp absent] at present
  cases present

end DdsPipe.Participants
