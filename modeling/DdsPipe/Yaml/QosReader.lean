import DdsPipe.Dynamic.AllowedTopicList
import DdsPipe.Types.TopicQoS
import DdsPipe.Yaml.RoutesReader

/-!
Owns the reading of quality of service: the sections of the manual topics and of a
participant, which are read into objects that start from the default of the whole
execution.

What a participant uses for a topic is computed from the documents alone
(`followsDocuments_of_read`). A manual topic passes the default on as if it had been
written there.

Does not own: the other fields of a participant.
-/

namespace DdsPipe.Yaml

open Std (TreeSet)
open DdsPipe.Types DdsPipe.Dynamic

/-! ### Fields -/

/-- A field that a section may write: its tag, and the reading of its value. -/
structure QosField (Value : Type) where
  tag : String
  get : Node → String → Except ConfigurationException Value
  required : ∀ yml value, get yml tag = .ok value → (yml.find tag).isSome = true

namespace QosField

variable {Value : Type} (field : QosField Value)

/-- `if (is_tag_present(yml, tag)) qos.set_value(get(yml, tag));`, with the level that
`set_value` takes where none is given. -/
def fill (yml : Node) (qos : Fuzzy FuzzyLevelValues Value) :
    Except ConfigurationException (Fuzzy FuzzyLevelValues Value) :=
  getOptional yml field.tag
    (fun yml tag => (field.get yml tag).map fun value => qos.setValue value .fuzzyLevelSet) qos

/-- The value that a section writes. -/
def written? (yml : Node) : Option Value :=
  (field.get yml field.tag).toOption

/-- What is written replaces what there was. -/
def override (yml : Node) (qos : Fuzzy FuzzyLevelValues Value) : Fuzzy FuzzyLevelValues Value :=
  match field.written? yml with
  | some value => { value := value, level := .fuzzyLevelSet }
  | none => qos

theorem eq_override_of_fill {yml : Node} {qos filled : Fuzzy FuzzyLevelValues Value}
    (read : field.fill yml qos = .ok filled) : filled = field.override yml qos := by
  obtain ⟨_, read⟩ := getOptional_eq_ok.mp read
  unfold override written?
  cases got : field.get yml field.tag with
  | error exception =>
      simp only [got, Except.map] at read
      split at read
      · cases read
      · exact read
  | ok value =>
      rw [if_pos (field.required yml value got), got] at read
      cases read
      rfl

end QosField

/-- The types of the scalars. -/
structure QosTypes where
  bool : ScalarType Bool
  int : ScalarType Int
  float : ScalarType Float32
  historyDepth : ScalarType HistoryDepthType

theorem isSome_find_of_getInTag {Value : Type} {reader : Reader Value} {yml : Node} {tag : String}
    {value : Value} (read : getInTag reader yml tag = .ok value) :
    (yml.find tag).isSome = true := by
  obtain ⟨node, found, _⟩ := getInTag_eq_ok.mp read
  rw [found]
  rfl

/-- A field that is written as a truth value. -/
def boolField {Value : Type} (bool : ScalarType Bool) (tag : String) (kind : Bool → Value) :
    QosField Value where
  tag := tag
  get yml tag := (getInTag (scalarReader bool) yml tag).map kind
  required yml value read := by
    obtain ⟨_, read, _⟩ := OrderedMap.map_eq_ok_iff.mp read
    exact isSome_find_of_getInTag read

def getNonnegativeFloat (float : ScalarType Float32) (yml : Node) (tag : String) :
    Except ConfigurationException Float32 :=
  getBounded "nonnegative float" ((getValueInTag yml tag).bind (getScalar float))
    (fun value => decide (0 ≤ value)) "value is negative." tag

def rateField (float : ScalarType Float32) (tag : String) : QosField Float32 where
  tag := tag
  get := getNonnegativeFloat float
  required yml value read := by
    obtain ⟨read, _⟩ := getBounded_eq_ok.mp read
    obtain ⟨node, found, _⟩ := bind_eq_ok.mp read
    rw [getValueInTag_eq_ok.mp found]
    rfl

namespace QosTypes

variable (types : QosTypes)

def durability : QosField DurabilityKind :=
  boolField types.bool "durability" fun value => if value then .transientLocal else .volatile

def reliability : QosField ReliabilityKind :=
  boolField types.bool "reliability" fun value => if value then .reliable else .bestEffort

def ownership : QosField OwnershipQosPolicyKind :=
  boolField types.bool "ownership" fun value =>
    if value then .exclusiveOwnershipQos else .sharedOwnershipQos

def partitions : QosField Bool :=
  boolField types.bool "partitions" id

def keyed : QosField Bool :=
  boolField types.bool "keyed" id

def historyDepthField : QosField HistoryDepthType where
  tag := "history-depth"
  get := getInTag (scalarReader types.historyDepth)
  required _ _ := isSome_find_of_getInTag

def maxTxRate : QosField Float32 :=
  rateField types.float "max-tx-rate"

def maxRxRate : QosField Float32 :=
  rateField types.float "max-rx-rate"

def downsampling : QosField UInt32 where
  tag := "downsampling"
  get yml tag := (getPositiveInt types.int yml tag).map fun value => UInt32.ofNat value.toNat
  required yml value read := by
    obtain ⟨_, read, _⟩ := OrderedMap.map_eq_ok_iff.mp read
    obtain ⟨⟨_, found, _⟩, _⟩ := getPositiveInt_eq_ok.mp read
    rw [found]
    rfl

/-- `fill` of the quality of service of a topic. -/
def fillTopicQos (object : TopicQoS FuzzyLevelValues) (yml : Node) :
    Except ConfigurationException (TopicQoS FuzzyLevelValues) := do
  let durabilityQos ← types.durability.fill yml object.durabilityQos
  let reliabilityQos ← types.reliability.fill yml object.reliabilityQos
  let ownershipQos ← types.ownership.fill yml object.ownershipQos
  let usePartitions ← types.partitions.fill yml object.usePartitions
  let historyDepth ← types.historyDepthField.fill yml object.historyDepth
  let keyed ← types.keyed.fill yml object.keyed
  let maxTxRate ← types.maxTxRate.fill yml object.maxTxRate
  let maxRxRate ← types.maxRxRate.fill yml object.maxRxRate
  let downsampling ← types.downsampling.fill yml object.downsampling
  return { durabilityQos, reliabilityQos, ownershipQos, usePartitions, historyDepth, keyed,
           maxTxRate, maxRxRate, downsampling }

/-- Each field that is written replaces what there was. -/
def override (object : TopicQoS FuzzyLevelValues) (yml : Node) : TopicQoS FuzzyLevelValues where
  durabilityQos := types.durability.override yml object.durabilityQos
  reliabilityQos := types.reliability.override yml object.reliabilityQos
  ownershipQos := types.ownership.override yml object.ownershipQos
  usePartitions := types.partitions.override yml object.usePartitions
  keyed := types.keyed.override yml object.keyed
  historyDepth := types.historyDepthField.override yml object.historyDepth
  maxTxRate := types.maxTxRate.override yml object.maxTxRate
  maxRxRate := types.maxRxRate.override yml object.maxRxRate
  downsampling := types.downsampling.override yml object.downsampling

theorem eq_override_of_fillTopicQos {object filled : TopicQoS FuzzyLevelValues} {yml : Node}
    (read : types.fillTopicQos object yml = .ok filled) : filled = types.override object yml := by
  obtain ⟨durability, readDurability, read⟩ := OrderedMap.bind_eq_ok_iff.mp read
  obtain ⟨reliability, readReliability, read⟩ := OrderedMap.bind_eq_ok_iff.mp read
  obtain ⟨ownership, readOwnership, read⟩ := OrderedMap.bind_eq_ok_iff.mp read
  obtain ⟨partitions, readPartitions, read⟩ := OrderedMap.bind_eq_ok_iff.mp read
  obtain ⟨historyDepth, readHistoryDepth, read⟩ := OrderedMap.bind_eq_ok_iff.mp read
  obtain ⟨keyed, readKeyed, read⟩ := OrderedMap.bind_eq_ok_iff.mp read
  obtain ⟨maxTxRate, readMaxTxRate, read⟩ := OrderedMap.bind_eq_ok_iff.mp read
  obtain ⟨maxRxRate, readMaxRxRate, read⟩ := OrderedMap.bind_eq_ok_iff.mp read
  obtain ⟨downsampling, readDownsampling, read⟩ := OrderedMap.bind_eq_ok_iff.mp read
  cases read
  rw [QosField.eq_override_of_fill _ readDurability, QosField.eq_override_of_fill _ readReliability,
    QosField.eq_override_of_fill _ readOwnership, QosField.eq_override_of_fill _ readPartitions,
    QosField.eq_override_of_fill _ readHistoryDepth, QosField.eq_override_of_fill _ readKeyed,
    QosField.eq_override_of_fill _ readMaxTxRate, QosField.eq_override_of_fill _ readMaxRxRate,
    QosField.eq_override_of_fill _ readDownsampling]
  rfl

end QosTypes

/-! ### Objects -/

/-- `set_default_qos`. -/
def defaultQos : TopicQoS FuzzyLevelValues where
  durabilityQos := ⟨.volatile, .fuzzyLevelDefault⟩
  reliabilityQos := ⟨.bestEffort, .fuzzyLevelDefault⟩
  ownershipQos := ⟨.sharedOwnershipQos, .fuzzyLevelDefault⟩
  usePartitions := ⟨false, .fuzzyLevelDefault⟩
  keyed := ⟨false, .fuzzyLevelDefault⟩
  historyDepth := ⟨50000000, .fuzzyLevelDefault⟩
  maxTxRate := ⟨0, .fuzzyLevelDefault⟩
  maxRxRate := ⟨0, .fuzzyLevelDefault⟩
  downsampling := ⟨1, .fuzzyLevelDefault⟩

/-- `TopicQoS::TopicQoS`, with the value of `default_topic_qos` if it is set. -/
def createQos (defaultTopicQos : Option (TopicQoS FuzzyLevelValues)) : TopicQoS FuzzyLevelValues :=
  match defaultTopicQos with
  | some qos => defaultQos.setQos qos .fuzzyLevelSet
  | none => defaultQos

def topicQosTag : String := "qos"

def topicParticipantsTag : String := "participants"

def participantQosTag : String := "qos"

/-- A manual topic: its filter, with the quality of service and the participants. -/
structure ManualTopicEntry where
  filter : WildcardDdsFilterTopic
  manualTopic : ManualTopic FuzzyLevelValues

/-- `DdsPipeConfiguration::get_manual_topics`. -/
def getManualTopics [CppUtils] (manualTopics : List ManualTopicEntry) (topic : DdsTopic) :
    List (ManualTopic FuzzyLevelValues) :=
  (manualTopics.filter fun entry => entry.filter.matchesTopic topic).map
    ManualTopicEntry.manualTopic

section Reading

variable (printed : Printed) (types : QosTypes)
  (defaultTopicQos : Option (TopicQoS FuzzyLevelValues))

/-- The section under a tag, read into a new object. -/
def getSection (yml : Node) (tag : String) :
    Except ConfigurationException (TopicQoS FuzzyLevelValues) :=
  getOptional yml tag
    (fun yml tag =>
      (getValueInTag yml tag).bind (types.fillTopicQos (createQos defaultTopicQos)))
    (createQos defaultTopicQos)

/-- `get` of a wildcard filter. -/
def getWildcardDdsFilterTopic (yml : Node) :
    Except ConfigurationException (WildcardDdsFilterTopic × TopicQoS FuzzyLevelValues) := do
  let topicName ← getInTag printed.string yml topicNameTag
  let typeName ← getOptional yml topicTypeNameTag
    (fun yml tag => (getInTag printed.string yml tag).map some) none
  let topicQos ← getSection types defaultTopicQos yml topicQosTag
  return ({ topicName := some topicName, typeName := typeName }, topicQos)

/-- `get` of a manual topic. -/
def getManualTopic (yml : Node) : Except ConfigurationException ManualTopicEntry := do
  let (filter, topicQos) ← getWildcardDdsFilterTopic printed types defaultTopicQos yml
  let participantIds ← getOptional yml topicParticipantsTag (getSetInTag printed.string) ∅
  return { filter := filter
           manualTopic := { topicQos := topicQos, participantIds := participantIds } }

end Reading

/-! ### What the documents say -/

/-- The patterns of a manual topic match the topic, and it is for the participant. -/
def Node.appliesTo [CppUtils] (yml : Node) (topic : DdsTopic) (id : ParticipantId) : Bool :=
  (((yml.find topicNameTag).bind Node.text?).any fun pattern =>
    CppUtils.matchPattern pattern topic.topicName) &&
  (((yml.find topicTypeNameTag).bind Node.text?).all fun pattern =>
    CppUtils.matchPattern pattern topic.typeName) &&
  (((yml.find topicParticipantsTag).bind Node.elements?).all fun elements =>
    elements.isEmpty || elements.any fun element => element.text? == some id)

section Resolve

variable {Value : Type}

/-- The value of a field that is set. -/
def setValue? (fuzzy : Fuzzy FuzzyLevelValues Value) : Option Value :=
  if fuzzy.isSet then some fuzzy.value else none

/-- The value that an object read from a section passes on: what the section writes,
else the default of the execution. -/
def QosField.passedOn (field : QosField Value) (default? : Option Value) (yml : Node)
    (tag : String) : Option Value :=
  ((yml.find tag).bind field.written?).or default?

/-- The first manual topic that passes a value on decides, then the participant, then
the topic of the bridge. -/
def QosField.resolve (field : QosField Value) (default? : Option Value)
    (bridge : Fuzzy FuzzyLevelValues Value) (manualTopics : List Node) (participant : Node) :
    Value :=
  if bridge.level = .fuzzyLevelHard then bridge.value
  else
    (((manualTopics.filterMap fun yml => field.passedOn default? yml topicQosTag).head?).or
      (field.passedOn default? participant participantQosTag)).getD bridge.value

/-- The precedence, by the values that are set. -/
theorem resolve_eq_setValue? (bridge : Fuzzy FuzzyLevelValues Value)
    (manual : List (Fuzzy FuzzyLevelValues Value)) (participant : Fuzzy FuzzyLevelValues Value) :
    resolve bridge manual participant =
      if bridge.level = .fuzzyLevelHard then bridge.value
      else (((manual.filterMap setValue?).head?).or (setValue? participant)).getD bridge.value := by
  unfold resolve
  by_cases hard : bridge.level = .fuzzyLevelHard
  · rw [if_pos hard]
    exact if_pos hard
  · rw [if_neg hard]
    refine (if_neg hard).trans ?_
    induction manual with
    | nil => cases set : participant.isSet <;> simp [setValue?, set]
    | cons first rest inductionHypothesis =>
        cases set : first.isSet with
        | false =>
            rw [List.find?_cons_of_neg (by simp [set]), inductionHypothesis,
              List.filterMap_cons_none (by simp [setValue?, set])]
        | true =>
            have passes : setValue? first = some first.value := if_pos set
            rw [List.find?_cons_of_pos set, List.filterMap_cons_some passes]
            rfl

end Resolve

/-! ### What is read -/

section Read

variable {printed : Printed} {types : QosTypes}
  {defaultTopicQos : Option (TopicQoS FuzzyLevelValues)} {Value : Type} {field : QosField Value}

theorem setValue?_override (yml : Node) (qos : Fuzzy FuzzyLevelValues Value) :
    setValue? (field.override yml qos) = (field.written? yml).or (setValue? qos) := by
  unfold QosField.override
  cases field.written? yml with
  | none => rfl
  | some value => rfl

/-- A new object has the default of the execution where it is set. -/
theorem setValue?_createQos {access : TopicQoS FuzzyLevelValues → Fuzzy FuzzyLevelValues Value}
    (sets : ∀ own qos level, access (own.setQos qos level) =
      (access own).setFrom (access qos) level)
    (unset : (access defaultQos).level = .fuzzyLevelDefault) :
    setValue? (access (createQos defaultTopicQos)) =
      defaultTopicQos.bind fun qos => setValue? (access qos) := by
  have notSet : (access defaultQos).isSet = false := by
    show (_ != _) = false
    rw [unset]
    rfl
  have below : (access defaultQos).level < .fuzzyLevelSet := by
    rw [unset]
    decide
  cases defaultTopicQos with
  | none =>
      show setValue? (access defaultQos) = none
      rw [setValue?, notSet]
      rfl
  | some qos =>
      show setValue? (access (defaultQos.setQos qos .fuzzyLevelSet)) = setValue? (access qos)
      rw [sets]
      cases set : (access qos).isSet with
      | false => simp [setValue?, Fuzzy.setFrom, set, notSet]
      | true =>
          have passes : (access defaultQos).setFrom (access qos) .fuzzyLevelSet =
              { value := (access qos).value, level := .fuzzyLevelSet } := by
            unfold Fuzzy.setFrom
            rw [set, Bool.and_true, if_pos (decide_eq_true below)]
            rfl
          rw [passes, setValue?, setValue?, set]
          rfl

/-- A field of the quality of service, and how it is read. -/
structure QosField.Reads (field : QosField Value) (types : QosTypes)
    (access : TopicQoS FuzzyLevelValues → Fuzzy FuzzyLevelValues Value) : Prop where
  sets : ∀ own qos level, access (own.setQos qos level) = (access own).setFrom (access qos) level
  unset : (access defaultQos).level = .fuzzyLevelDefault
  overrides : ∀ object yml, access (types.override object yml) = field.override yml (access object)

variable {access : TopicQoS FuzzyLevelValues → Fuzzy FuzzyLevelValues Value}

/-- **A section** passes on what it writes, else the default. -/
theorem setValue?_of_getSection (reads : field.Reads types access) {yml : Node} {tag : String}
    {qos : TopicQoS FuzzyLevelValues} (read : getSection types defaultTopicQos yml tag = .ok qos) :
    setValue? (access qos) =
      field.passedOn (defaultTopicQos.bind fun qos => setValue? (access qos)) yml tag := by
  have create : setValue? (access (createQos defaultTopicQos)) = _ :=
    setValue?_createQos reads.sets reads.unset
  obtain ⟨_, read⟩ := getOptional_eq_ok.mp read
  unfold QosField.passedOn
  cases found : yml.find tag with
  | none =>
      rw [if_neg (by simp [found])] at read
      rw [read, create]
      rfl
  | some node =>
      rw [if_pos (by simp [found])] at read
      obtain ⟨other, there, filled⟩ := bind_eq_ok.mp read
      rw [getValueInTag_eq_ok, found] at there
      cases there
      rw [types.eq_override_of_fillTopicQos filled, reads.overrides, setValue?_override, create]
      rfl

/-- The participants that a manual topic is for. -/
theorem appliesTo_of_getOptional {yml : Node} {ids : TreeSet ParticipantId}
    (read : getOptional yml topicParticipantsTag (getSetInTag printed.string) ∅ = .ok ids)
    (id : ParticipantId) :
    (ids.isEmpty || ids.contains id) =
      (((yml.find topicParticipantsTag).bind Node.elements?).all fun elements =>
        elements.isEmpty || elements.any fun element => element.text? == some id) := by
  obtain ⟨_, read⟩ := getOptional_eq_ok.mp read
  cases found : yml.find topicParticipantsTag with
  | none =>
      rw [if_neg (by simp [found])] at read
      rw [read]
      rfl
  | some node =>
      rw [if_pos (by simp [found])] at read
      obtain ⟨texts, listed, rfl⟩ := OrderedMap.map_eq_ok_iff.mp read
      obtain ⟨other, there, listed⟩ := getListInTag_eq_ok.mp listed
      rw [found] at there
      cases there
      have scalars := getList_string.mp listed
      rw [scalars]
      have named : (texts.map Node.scalar).any (fun element => element.text? == some id) =
          texts.contains id := by
        rw [List.any_map, List.contains_eq_any_beq]
        congr 1
        funext text
        show (some text == some id) = _
        rw [Bool.eq_iff_iff, beq_iff_eq, beq_iff_eq, Option.some.injEq]
        exact eq_comm
      show _ = ((texts.map Node.scalar).isEmpty || _)
      rw [named, Std.TreeSet.contains_ofList, Std.TreeSet.isEmpty_ofList, List.isEmpty_map]

variable [CppUtils]

/-- **A manual topic** applies where its section says so, and passes on what it says. -/
theorem getManualTopic_spec (reads : field.Reads types access) {yml : Node}
    {entry : ManualTopicEntry}
    (read : getManualTopic printed types defaultTopicQos yml = .ok entry) (topic : DdsTopic)
    (id : ParticipantId) :
    (entry.filter.matchesTopic topic && entry.manualTopic.appliesTo id) =
        yml.appliesTo topic id ∧
      setValue? (access entry.manualTopic.topicQos) =
        field.passedOn (defaultTopicQos.bind fun qos => setValue? (access qos)) yml
          topicQosTag := by
  obtain ⟨⟨filter, topicQos⟩, readFilter, read⟩ := OrderedMap.bind_eq_ok_iff.mp read
  obtain ⟨ids, readIds, done⟩ := OrderedMap.bind_eq_ok_iff.mp read
  cases done
  obtain ⟨topicName, readName, readFilter⟩ := OrderedMap.bind_eq_ok_iff.mp readFilter
  obtain ⟨typeName, readType, readFilter⟩ := OrderedMap.bind_eq_ok_iff.mp readFilter
  obtain ⟨qos, readQos, done⟩ := OrderedMap.bind_eq_ok_iff.mp readFilter
  cases done
  refine ⟨?_, setValue?_of_getSection reads readQos⟩
  have named := getInTag_text?.mp readName
  have typed : typeName = (yml.find topicTypeNameTag).bind Node.text? := by
    obtain ⟨_, readType⟩ := getOptional_eq_ok.mp readType
    cases found : yml.find topicTypeNameTag with
    | none =>
        rw [if_neg (by simp [found])] at readType
        exact readType
    | some node =>
        rw [if_pos (by simp [found])] at readType
        obtain ⟨text, readText, rfl⟩ := OrderedMap.map_eq_ok_iff.mp readType
        rw [← getInTag_text?.mp readText, found]
  show (_ && (ids.isEmpty || ids.contains id)) = _
  rw [appliesTo_of_getOptional readIds id, Node.appliesTo, named, ← typed]
  cases typeName with
  | none => rfl
  | some pattern => rfl

/-- **The manual topics** pass on what their sections say, in order. -/
theorem filterMap_setValue?_of_read (reads : field.Reads types access) {ymls : List Node}
    {entries : List ManualTopicEntry}
    (read : List.Forall₂ (fun yml entry =>
      getManualTopic printed types defaultTopicQos yml = .ok entry) ymls entries)
    (topic : DdsTopic) (id : ParticipantId) :
    ((((getManualTopics entries topic).filter fun manualTopic =>
      manualTopic.appliesTo id).map ManualTopic.topicQos).map access).filterMap setValue? =
      (ymls.filter fun yml => yml.appliesTo topic id).filterMap fun yml =>
        field.passedOn (defaultTopicQos.bind fun qos => setValue? (access qos)) yml
          topicQosTag := by
  induction read with
  | nil => rfl
  | @cons yml entry ymls entries first rest inductionHypothesis =>
      obtain ⟨applies, passes⟩ := getManualTopic_spec reads first topic id
      unfold getManualTopics at inductionHypothesis ⊢
      rw [List.filter_cons, List.filter_cons, ← applies]
      cases matched : entry.filter.matchesTopic topic with
      | false =>
          simp only [Bool.false_and, Bool.false_eq_true, if_false]
          exact inductionHypothesis
      | true =>
          simp only [Bool.true_and, if_true, List.map_cons, List.filter_cons]
          cases entry.manualTopic.appliesTo id with
          | false => exact inductionHypothesis
          | true =>
              simp only [if_true, List.map_cons, List.filterMap_cons, passes]
              rw [inductionHypothesis]

end Read

namespace QosTypes

variable (types : QosTypes)

theorem reads_durabilityQos : types.durability.Reads types TopicQoS.durabilityQos where
  sets _ _ _ := rfl
  unset := rfl
  overrides _ _ := rfl

theorem reads_reliabilityQos : types.reliability.Reads types TopicQoS.reliabilityQos where
  sets _ _ _ := rfl
  unset := rfl
  overrides _ _ := rfl

theorem reads_ownershipQos : types.ownership.Reads types TopicQoS.ownershipQos where
  sets _ _ _ := rfl
  unset := rfl
  overrides _ _ := rfl

theorem reads_usePartitions : types.partitions.Reads types TopicQoS.usePartitions where
  sets _ _ _ := rfl
  unset := rfl
  overrides _ _ := rfl

theorem reads_keyed : types.keyed.Reads types TopicQoS.keyed where
  sets _ _ _ := rfl
  unset := rfl
  overrides _ _ := rfl

theorem reads_historyDepth : types.historyDepthField.Reads types TopicQoS.historyDepth where
  sets _ _ _ := rfl
  unset := rfl
  overrides _ _ := rfl

theorem reads_maxTxRate : types.maxTxRate.Reads types TopicQoS.maxTxRate where
  sets _ _ _ := rfl
  unset := rfl
  overrides _ _ := rfl

theorem reads_maxRxRate : types.maxRxRate.Reads types TopicQoS.maxRxRate where
  sets _ _ _ := rfl
  unset := rfl
  overrides _ _ := rfl

theorem reads_downsampling : types.downsampling.Reads types TopicQoS.downsampling where
  sets _ _ _ := rfl
  unset := rfl
  overrides _ _ := rfl

end QosTypes

/-! ### The quality of service that is used -/

/-- Each field has the value that the documents give it. -/
structure FollowsDocuments (types : QosTypes)
    (defaultTopicQos : Option (TopicQoS FuzzyLevelValues))
    (result bridge : TopicQoS FuzzyLevelValues)
    (manualTopics : List Node) (participant : Node) : Prop where
  durabilityQos : result.durabilityQos.value = types.durability.resolve
    (defaultTopicQos.bind fun qos => setValue? qos.durabilityQos) bridge.durabilityQos manualTopics
    participant
  reliabilityQos : result.reliabilityQos.value = types.reliability.resolve
    (defaultTopicQos.bind fun qos => setValue? qos.reliabilityQos) bridge.reliabilityQos
    manualTopics participant
  ownershipQos : result.ownershipQos.value = types.ownership.resolve
    (defaultTopicQos.bind fun qos => setValue? qos.ownershipQos) bridge.ownershipQos manualTopics
    participant
  usePartitions : result.usePartitions.value = types.partitions.resolve
    (defaultTopicQos.bind fun qos => setValue? qos.usePartitions) bridge.usePartitions manualTopics
    participant
  keyed : result.keyed.value = types.keyed.resolve
    (defaultTopicQos.bind fun qos => setValue? qos.keyed) bridge.keyed manualTopics participant
  historyDepth : result.historyDepth.value = types.historyDepthField.resolve
    (defaultTopicQos.bind fun qos => setValue? qos.historyDepth) bridge.historyDepth manualTopics
    participant
  maxTxRate : result.maxTxRate.value = types.maxTxRate.resolve
    (defaultTopicQos.bind fun qos => setValue? qos.maxTxRate) bridge.maxTxRate manualTopics
    participant
  maxRxRate : result.maxRxRate.value = types.maxRxRate.resolve
    (defaultTopicQos.bind fun qos => setValue? qos.maxRxRate) bridge.maxRxRate manualTopics
    participant
  downsampling : result.downsampling.value = types.downsampling.resolve
    (defaultTopicQos.bind fun qos => setValue? qos.downsampling) bridge.downsampling manualTopics
    participant

section Used

variable [CppUtils] {printed : Printed} {types : QosTypes}
  {defaultTopicQos : Option (TopicQoS FuzzyLevelValues)} {manualYmls : List Node}
  {manualTopics : List ManualTopicEntry} {participantYml : Node}
  {participantQos : TopicQoS FuzzyLevelValues}

/-- One field of the topic for a participant. -/
theorem value_eq_resolve {Value : Type} {field : QosField Value}
    {access : TopicQoS FuzzyLevelValues → Fuzzy FuzzyLevelValues Value}
    (reads : field.Reads types access)
    (readTopics : List.Forall₂ (fun yml entry =>
      getManualTopic printed types defaultTopicQos yml = .ok entry) manualYmls manualTopics)
    (readParticipant :
      getSection types defaultTopicQos participantYml participantQosTag = .ok participantQos)
    (bridgeTopic : DistributedTopic FuzzyLevelValues) (id : ParticipantId) :
    (access (createTopicForParticipant bridgeTopic (getManualTopics manualTopics bridgeTopic.topic)
      id participantQos).topicQos).value =
      field.resolve (defaultTopicQos.bind fun qos => setValue? (access qos))
        (access bridgeTopic.topicQos)
        (manualYmls.filter fun yml => yml.appliesTo bridgeTopic.topic id) participantYml := by
  rw [field_of_createTopicForParticipant access reads.sets, resolve_eq_setValue?,
    filterMap_setValue?_of_read reads readTopics, setValue?_of_getSection reads readParticipant]
  rfl

/-- **What is written is used.** The quality of service of a topic for a participant
is computed from the sections of the manual topics that apply and of the participant,
with the default of the execution in the place of what a section leaves out. -/
theorem followsDocuments_of_read
    (readTopics : List.Forall₂ (fun yml entry =>
      getManualTopic printed types defaultTopicQos yml = .ok entry) manualYmls manualTopics)
    (readParticipant :
      getSection types defaultTopicQos participantYml participantQosTag = .ok participantQos)
    (bridgeTopic : DistributedTopic FuzzyLevelValues) (id : ParticipantId) :
    FollowsDocuments types defaultTopicQos
      (createTopicForParticipant bridgeTopic (getManualTopics manualTopics bridgeTopic.topic)
        id participantQos).topicQos
      bridgeTopic.topicQos (manualYmls.filter fun yml => yml.appliesTo bridgeTopic.topic id)
      participantYml where
  durabilityQos :=
    value_eq_resolve types.reads_durabilityQos readTopics readParticipant bridgeTopic id
  reliabilityQos :=
    value_eq_resolve types.reads_reliabilityQos readTopics readParticipant bridgeTopic id
  ownershipQos :=
    value_eq_resolve types.reads_ownershipQos readTopics readParticipant bridgeTopic id
  usePartitions :=
    value_eq_resolve types.reads_usePartitions readTopics readParticipant bridgeTopic id
  keyed := value_eq_resolve types.reads_keyed readTopics readParticipant bridgeTopic id
  historyDepth :=
    value_eq_resolve types.reads_historyDepth readTopics readParticipant bridgeTopic id
  maxTxRate := value_eq_resolve types.reads_maxTxRate readTopics readParticipant bridgeTopic id
  maxRxRate := value_eq_resolve types.reads_maxRxRate readTopics readParticipant bridgeTopic id
  downsampling :=
    value_eq_resolve types.reads_downsampling readTopics readParticipant bridgeTopic id

end Used

/-- A manual topic that writes the depth only, and a participant that writes another
reliability than the default. -/
def chatterTopic : Node :=
  .map [("name", .scalar "chatter"), ("qos", .map [("history-depth", .scalar "10")])]

def bestEffortParticipant : Node :=
  .map [("name", .scalar "P"), ("qos", .map [("reliability", .scalar "false")])]

def reliableByDefault : TopicQoS FuzzyLevelValues :=
  { defaultQos with reliabilityQos := ⟨.reliable, .fuzzyLevelSet⟩ }

def plainTypes : QosTypes where
  bool := ⟨"bool", fun text => if text = "true" then .ok true else .ok false⟩
  int := ⟨"int", fun text => if text = "10" then .ok 10 else .error "bad conversion"⟩
  float := ⟨"float", fun _ => .error "bad conversion"⟩
  historyDepth :=
    ⟨"unsigned int", fun text => if text = "10" then .ok 10 else .error "bad conversion"⟩

/-- The default comes with the manual topic, and the participant's reliability is not
used. -/
theorem followsDocuments_of_read_masked :
    ∃ result : TopicQoS FuzzyLevelValues, result.reliabilityQos.value = .reliable ∧
      result.historyDepth.value = 10 ∧
        FollowsDocuments plainTypes (some reliableByDefault) result defaultQos [chatterTopic]
          bestEffortParticipant := by
  let : CppUtils := ⟨fun pattern text => pattern == text, fun _ => ""⟩
  have printed : Printed := ⟨"string", "RoutesConfiguration", DdsTopic.topicName⟩
  have topics : List.Forall₂ (fun yml entry =>
      getManualTopic printed plainTypes (some reliableByDefault) yml = .ok entry)
      [chatterTopic] [_] := .cons rfl .nil
  have participant : getSection plainTypes (some reliableByDefault) bestEffortParticipant
      participantQosTag = .ok _ := rfl
  have follows := followsDocuments_of_read topics participant
    ⟨{ topicName := "chatter", typeName := "String" }, defaultQos⟩ "P"
  exact ⟨_, rfl, rfl, follows⟩

end DdsPipe.Yaml
