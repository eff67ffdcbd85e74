import DdsPipe.Types.Topic

/-!
Owns the quality of service of a topic, whose fields each have a level that says
how firmly it was set, and its customization for a participant: the manual topics
that apply to the participant are imposed in order, and its own quality of service
after them.

Each field gets the value of the first source that defines it, whatever the other
fields are (`precedence_of_createTopicForParticipant`).

Does not own: which manual topics match a topic. The fuzzy values belong to the
utilities library, which is not part of this repository; their levels are a
parameter (`FuzzyLevels`).
-/

namespace DdsPipe.Types

open Std (TreeSet)

/-! ### Fuzzy values -/

/-- `utils::FuzzyLevelValues`: the levels are ordered, and the hard one is the
highest. `isSet` is what a value of the level says when it is asked whether it is
set. -/
class FuzzyLevels (Level : Type) extends LinearOrder Level where
  hard : Level
  isSet : Level → Bool
  le_hard : ∀ level : Level, level ≤ hard

/-- `utils::Fuzzy`. -/
structure Fuzzy (Level Value : Type) where
  value : Value
  level : Level
deriving DecidableEq, Repr

namespace Fuzzy

variable {Level Value : Type} [FuzzyLevels Level]

def isSet (fuzzy : Fuzzy Level Value) : Bool :=
  FuzzyLevels.isSet fuzzy.level

def setValue (_fuzzy : Fuzzy Level Value) (value : Value) (level : Level) : Fuzzy Level Value :=
  { value := value, level := level }

/-- One field of `TopicQoS::set_qos`. -/
def setFrom (field source : Fuzzy Level Value) (fuzzyLevel : Level) : Fuzzy Level Value :=
  if field.level < fuzzyLevel && source.isSet then field.setValue source.value fuzzyLevel
  else field

end Fuzzy

/-- The levels that this repository names. -/
inductive FuzzyLevelValues where
  | fuzzyLevelDefault
  | fuzzyLevelFuzzy
  | fuzzyLevelSet
  | fuzzyLevelHard
deriving DecidableEq, Repr

namespace FuzzyLevelValues

def rank : FuzzyLevelValues → Nat
  | fuzzyLevelDefault => 0
  | fuzzyLevelFuzzy => 1
  | fuzzyLevelSet => 2
  | fuzzyLevelHard => 3

theorem rank_injective : Function.Injective rank := by
  intro one other same
  cases one <;> cases other <;> first | rfl | cases same

instance : FuzzyLevels FuzzyLevelValues where
  toLinearOrder := LinearOrder.lift' rank rank_injective
  hard := fuzzyLevelHard
  isSet level := level != fuzzyLevelDefault
  le_hard level := by
    show rank level ≤ 3
    cases level <;> decide

end FuzzyLevelValues

/-! ### Topic quality of service -/

inductive DurabilityKind where
  | volatile
  | transientLocal
  | transient
  | persistent
deriving DecidableEq, Repr

inductive ReliabilityKind where
  | reliable
  | bestEffort
deriving DecidableEq, Repr

inductive OwnershipQosPolicyKind where
  | sharedOwnershipQos
  | exclusiveOwnershipQos
deriving DecidableEq, Repr

/-- `HistoryDepthType`. -/
abbrev HistoryDepthType := UInt32

structure TopicQoS (Level : Type) where
  durabilityQos : Fuzzy Level DurabilityKind
  reliabilityQos : Fuzzy Level ReliabilityKind
  ownershipQos : Fuzzy Level OwnershipQosPolicyKind
  usePartitions : Fuzzy Level Bool
  keyed : Fuzzy Level Bool
  historyDepth : Fuzzy Level HistoryDepthType
  maxTxRate : Fuzzy Level Float32
  maxRxRate : Fuzzy Level Float32
  downsampling : Fuzzy Level UInt32

section

variable {Level : Type} [FuzzyLevels Level]

def TopicQoS.setQos (own qos : TopicQoS Level) (fuzzyLevel : Level) : TopicQoS Level where
  durabilityQos := own.durabilityQos.setFrom qos.durabilityQos fuzzyLevel
  reliabilityQos := own.reliabilityQos.setFrom qos.reliabilityQos fuzzyLevel
  ownershipQos := own.ownershipQos.setFrom qos.ownershipQos fuzzyLevel
  usePartitions := own.usePartitions.setFrom qos.usePartitions fuzzyLevel
  historyDepth := own.historyDepth.setFrom qos.historyDepth fuzzyLevel
  keyed := own.keyed.setFrom qos.keyed fuzzyLevel
  maxTxRate := own.maxTxRate.setFrom qos.maxTxRate fuzzyLevel
  maxRxRate := own.maxRxRate.setFrom qos.maxRxRate fuzzyLevel
  downsampling := own.downsampling.setFrom qos.downsampling fuzzyLevel

/-! ### Customization for a participant -/

/-- A topic with its quality of service. -/
structure DistributedTopic (Level : Type) where
  topic : DdsTopic
  topicQos : TopicQoS Level

/-- What a manual topic configures, and for which participants. -/
structure ManualTopic (Level : Type) where
  topicQos : TopicQoS Level
  participantIds : TreeSet ParticipantId

namespace ManualTopic

/-- The manual topic is for every participant, or for this one. -/
def appliesTo (manualTopic : ManualTopic Level) (id : ParticipantId) : Bool :=
  manualTopic.participantIds.isEmpty || manualTopic.participantIds.contains id

end ManualTopic

/-- `DdsBridge::create_topic_for_participant_nts_`, for the topic and the manual
topics of the bridge. -/
def createTopicForParticipant (bridgeTopic : DistributedTopic Level)
    (manualTopics : List (ManualTopic Level)) (participantId : ParticipantId)
    (participantQos : TopicQoS Level) : DistributedTopic Level :=
  let topic := manualTopics.foldl (fun topic manualTopic =>
    if manualTopic.appliesTo participantId then
      { topic with topicQos := topic.topicQos.setQos manualTopic.topicQos FuzzyLevels.hard }
    else topic) bridgeTopic
  { topic with topicQos := topic.topicQos.setQos participantQos FuzzyLevels.hard }

/-! ### Precedence -/

/-- The source of a field that comes first: the bridge topic if it is at the hard
level, else the first of the manual topics that sets the field, else the
participant if it sets the field, else the bridge topic. -/
def resolve {Value : Type} (bridge : Fuzzy Level Value) (manual : List (Fuzzy Level Value))
    (participant : Fuzzy Level Value) : Value :=
  if bridge.level = FuzzyLevels.hard then bridge.value
  else
    match manual.find? Fuzzy.isSet with
    | some first => first.value
    | none => if participant.isSet then participant.value else bridge.value

/-- Every field has the value that `resolve` gives for this field of the sources. -/
structure Precedence (result bridge : TopicQoS Level) (manual : List (TopicQoS Level))
    (participant : TopicQoS Level) : Prop where
  durabilityQos : result.durabilityQos.value = resolve bridge.durabilityQos
    (manual.map TopicQoS.durabilityQos) participant.durabilityQos
  reliabilityQos : result.reliabilityQos.value = resolve bridge.reliabilityQos
    (manual.map TopicQoS.reliabilityQos) participant.reliabilityQos
  ownershipQos : result.ownershipQos.value = resolve bridge.ownershipQos
    (manual.map TopicQoS.ownershipQos) participant.ownershipQos
  usePartitions : result.usePartitions.value = resolve bridge.usePartitions
    (manual.map TopicQoS.usePartitions) participant.usePartitions
  keyed : result.keyed.value = resolve bridge.keyed (manual.map TopicQoS.keyed) participant.keyed
  historyDepth : result.historyDepth.value = resolve bridge.historyDepth
    (manual.map TopicQoS.historyDepth) participant.historyDepth
  maxTxRate : result.maxTxRate.value = resolve bridge.maxTxRate
    (manual.map TopicQoS.maxTxRate) participant.maxTxRate
  maxRxRate : result.maxRxRate.value = resolve bridge.maxRxRate
    (manual.map TopicQoS.maxRxRate) participant.maxRxRate
  downsampling : result.downsampling.value = resolve bridge.downsampling
    (manual.map TopicQoS.downsampling) participant.downsampling

section Field

variable {Value : Type} {field source : Fuzzy Level Value}

theorem setFrom_of_hard (source : Fuzzy Level Value) (hard : field.level = FuzzyLevels.hard) :
    field.setFrom source FuzzyLevels.hard = field := by
  unfold Fuzzy.setFrom
  rw [hard, if_neg]
  simp

theorem setFrom_of_not_isSet (level : Level) (unset : source.isSet = false) :
    field.setFrom source level = field := by
  unfold Fuzzy.setFrom
  rw [unset, Bool.and_false, if_neg Bool.false_ne_true]

theorem setFrom_of_isSet (soft : field.level ≠ FuzzyLevels.hard) (set : source.isSet = true) :
    field.setFrom source FuzzyLevels.hard =
      { value := source.value, level := FuzzyLevels.hard } := by
  have below : field.level < FuzzyLevels.hard :=
    lt_of_le_of_ne (FuzzyLevels.le_hard field.level) soft
  unfold Fuzzy.setFrom
  rw [set, Bool.and_true, if_pos (decide_eq_true below)]
  rfl

/-- A field that is imposed once is not changed by later sources. -/
theorem foldl_setFrom_of_hard (sources : List (Fuzzy Level Value))
    (hard : field.level = FuzzyLevels.hard) :
    sources.foldl (fun field source => field.setFrom source FuzzyLevels.hard) field = field := by
  induction sources with
  | nil => rfl
  | cons head tail inductionHypothesis =>
      rw [List.foldl_cons, setFrom_of_hard head hard]
      exact inductionHypothesis

/-- The first source that sets a field wins. -/
theorem foldl_setFrom_eq_resolve (bridge : Fuzzy Level Value) (manual : List (Fuzzy Level Value))
    (participant : Fuzzy Level Value) :
    ((manual.foldl (fun field source => field.setFrom source FuzzyLevels.hard) bridge).setFrom
      participant FuzzyLevels.hard).value = resolve bridge manual participant := by
  unfold resolve
  by_cases hard : bridge.level = FuzzyLevels.hard
  · rw [foldl_setFrom_of_hard manual hard, setFrom_of_hard participant hard, if_pos hard]
  · rw [if_neg hard]
    induction manual with
    | nil =>
        cases set : participant.isSet with
        | false =>
            rw [List.foldl_nil, setFrom_of_not_isSet FuzzyLevels.hard set]
            rfl
        | true =>
            rw [List.foldl_nil, setFrom_of_isSet hard set]
            rfl
    | cons head tail inductionHypothesis =>
        rw [List.foldl_cons]
        cases set : head.isSet with
        | false =>
            rw [setFrom_of_not_isSet FuzzyLevels.hard set, List.find?_cons_of_neg (by simp [set])]
            exact inductionHypothesis
        | true =>
            rw [setFrom_of_isSet hard set, foldl_setFrom_of_hard tail rfl,
              setFrom_of_hard participant rfl, List.find?_cons_of_pos set]

end Field

example : resolve (⟨5, .fuzzyLevelSet⟩ : Fuzzy FuzzyLevelValues Nat)
    [⟨1, .fuzzyLevelDefault⟩, ⟨2, .fuzzyLevelFuzzy⟩, ⟨3, .fuzzyLevelHard⟩]
    ⟨4, .fuzzyLevelHard⟩ = 2 := by decide

/-- A field of the customized topic depends on this field of the sources only. -/
theorem field_of_createTopicForParticipant {Value : Type}
    (field : TopicQoS Level → Fuzzy Level Value)
    (sets : ∀ (own qos : TopicQoS Level) (level : Level),
      field (own.setQos qos level) = (field own).setFrom (field qos) level)
    (bridgeTopic : DistributedTopic Level) (manualTopics : List (ManualTopic Level))
    (participantId : ParticipantId) (participantQos : TopicQoS Level) :
    (field (createTopicForParticipant bridgeTopic manualTopics participantId
      participantQos).topicQos).value =
      resolve (field bridgeTopic.topicQos)
        (((manualTopics.filter fun manualTopic => manualTopic.appliesTo participantId).map
          ManualTopic.topicQos).map field) (field participantQos) := by
  rw [← foldl_setFrom_eq_resolve]
  unfold createTopicForParticipant
  simp only [sets]
  congr 2
  induction manualTopics generalizing bridgeTopic with
  | nil => rfl
  | cons head tail inductionHypothesis =>
      rw [List.foldl_cons, inductionHypothesis, List.filter_cons]
      split
      · rw [List.map_cons, List.map_cons, List.foldl_cons, sets]
      · rfl

/-- **Precedence.** Each field of the topic for a participant has the value of the
first source that defines it. -/
theorem precedence_of_createTopicForParticipant (bridgeTopic : DistributedTopic Level)
    (manualTopics : List (ManualTopic Level)) (participantId : ParticipantId)
    (participantQos : TopicQoS Level) :
    Precedence
      (createTopicForParticipant bridgeTopic manualTopics participantId participantQos).topicQos
      bridgeTopic.topicQos
      ((manualTopics.filter fun manualTopic => manualTopic.appliesTo participantId).map
        ManualTopic.topicQos) participantQos where
  durabilityQos := field_of_createTopicForParticipant _ (fun _ _ _ => rfl) _ _ _ _
  reliabilityQos := field_of_createTopicForParticipant _ (fun _ _ _ => rfl) _ _ _ _
  ownershipQos := field_of_createTopicForParticipant _ (fun _ _ _ => rfl) _ _ _ _
  usePartitions := field_of_createTopicForParticipant _ (fun _ _ _ => rfl) _ _ _ _
  keyed := field_of_createTopicForParticipant _ (fun _ _ _ => rfl) _ _ _ _
  historyDepth := field_of_createTopicForParticipant _ (fun _ _ _ => rfl) _ _ _ _
  maxTxRate := field_of_createTopicForParticipant _ (fun _ _ _ => rfl) _ _ _ _
  maxRxRate := field_of_createTopicForParticipant _ (fun _ _ _ => rfl) _ _ _ _
  downsampling := field_of_createTopicForParticipant _ (fun _ _ _ => rfl) _ _ _ _

end

end DdsPipe.Types
