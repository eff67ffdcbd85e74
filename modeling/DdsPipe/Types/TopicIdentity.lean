import DdsPipe.Library.KeyOrder
import DdsPipe.Types.Topic
import Mathlib.Data.String.Basic

/-!
Owns which topics are one: both comparisons of topics go through the unique name,
in which the name of the topic, its discriminator and its type name follow each
other without a separator.

So two different topics are one exactly when what the name of the second has more
than that of the first, before the discriminator, is what the type name of the first
has more than that of the second, after it (`exactIdentity_iff`).

Does not own: the comparison of topics with different discriminators.
-/

namespace DdsPipe.Types

open KeyOrder

namespace DdsTopic

/-- `Topic::operator <`. -/
def less (topic other : DdsTopic) : Bool :=
  decide (topic.topicUniqueName < other.topicUniqueName)

/-- The name and the type name are the same. -/
def identical (topic other : DdsTopic) : Bool :=
  topic.topicName == other.topicName && topic.typeName == other.typeName

/-- The name of the second topic goes on with `extra`, the type name of the first
begins with `ending`, and the discriminator can be read before the one and after the
other. -/
def Confusable (topic other : DdsTopic) : Prop :=
  ∃ extra ending : String, extra ≠ "" ∧ other.topicName = topic.topicName ++ extra ∧
    topic.typeName = ending ++ other.typeName ∧
      topic.internalTypeDiscriminator ++ ending = extra ++ topic.internalTypeDiscriminator

/-- Some topics are told apart by their name and type name, and the maps keyed by
topic keep each of them. -/
structure ExactIdentity (topics : Set DdsTopic) : Prop where
  equality : ∀ topic ∈ topics, ∀ other ∈ topics,
    (topic.same other = true ↔
      topic.topicName = other.topicName ∧ topic.typeName = other.typeName)
  order : StrictWeakOrder less
  total : ConsistentOn less identical topics
  keys : KeepsOne less identical topics

theorem ordersBy_less : OrdersBy less topicUniqueName := by
  intro topic other
  exact decide_eq_true_iff

theorem identical_iff {topic other : DdsTopic} :
    topic.identical other = true ↔
      topic.topicName = other.topicName ∧ topic.typeName = other.typeName := by
  rw [identical, Bool.and_eq_true, beq_iff_eq, beq_iff_eq]

theorem identical_self (topic : DdsTopic) : topic.identical topic = true :=
  identical_iff.mpr ⟨rfl, rfl⟩

/-! ### Unique names -/

/-- What a word can be read in twice: the longer beginning goes on, and so does the
ending of the other. -/
theorem exists_of_append_eq {Letter : Type} {name other word ending otherEnding : List Letter}
    (same : name ++ word ++ ending = other ++ word ++ otherEnding)
    (longer : name.length < other.length) :
    ∃ extra more, extra ≠ [] ∧ other = name ++ extra ∧ ending = more ++ otherEnding ∧
      word ++ more = extra ++ word := by
  rw [List.append_assoc, List.append_assoc] at same
  rcases List.append_eq_append_iff.mp same with ⟨extra, rfl, rest⟩ | ⟨extra, rfl, _⟩
  · rw [← List.append_assoc] at rest
    have nonempty : extra ≠ [] := by
      rintro rfl
      simp at longer
    rcases List.append_eq_append_iff.mp rest with ⟨more, split, rfl⟩ | ⟨more, split, _⟩
    · exact ⟨extra, more, nonempty, rfl, rfl, split.symm⟩
    · have lengths := congrArg List.length split
      have positive := List.length_pos_iff.mpr nonempty
      rw [List.length_append, List.length_append] at lengths
      omega
  · rw [List.length_append] at longer
    omega

variable {topic other : DdsTopic}

theorem topicUniqueName_of_confusable
    (discriminator : topic.internalTypeDiscriminator = other.internalTypeDiscriminator)
    (confusable : topic.Confusable other) : topic.topicUniqueName = other.topicUniqueName := by
  obtain ⟨extra, ending, _, name, type, around⟩ := confusable
  rw [topicUniqueName, topicUniqueName, name, type, ← discriminator]
  calc topic.topicName ++ topic.internalTypeDiscriminator ++ (ending ++ other.typeName)
      = topic.topicName ++ (topic.internalTypeDiscriminator ++ ending) ++ other.typeName := by
        simp only [String.append_assoc]
    _ = topic.topicName ++ (extra ++ topic.internalTypeDiscriminator) ++ other.typeName := by
        rw [around]
    _ = topic.topicName ++ extra ++ topic.internalTypeDiscriminator ++ other.typeName := by
        simp only [String.append_assoc]

theorem not_identical_of_confusable (confusable : topic.Confusable other) :
    topic.topicName ≠ other.topicName := by
  obtain ⟨extra, _, nonempty, name, _, _⟩ := confusable
  rw [name]
  intro same
  apply nonempty
  have lengths := congrArg String.length same
  rw [String.length_append] at lengths
  exact String.length_eq_zero_iff.mp (by omega)

theorem confusable_of_shorter
    (discriminator : topic.internalTypeDiscriminator = other.internalTypeDiscriminator)
    (same : topic.topicUniqueName = other.topicUniqueName)
    (longer : topic.topicName.toList.length < other.topicName.toList.length) :
    topic.Confusable other := by
  have letters := congrArg String.toList same
  rw [topicUniqueName, topicUniqueName, ← discriminator] at letters
  simp only [String.toList_append] at letters
  obtain ⟨extra, ending, nonempty, name, type, around⟩ := exists_of_append_eq letters longer
  refine ⟨String.ofList extra, String.ofList ending, ?_, ?_, ?_, ?_⟩
  · intro empty
    apply nonempty
    rw [← String.toList_ofList (l := extra), empty]
    rfl
  all_goals
    apply String.toList_injective
    simpa using by assumption

/-- **Two topics with one unique name** are identical, or one of the two is
confusable with the other. -/
theorem topicUniqueName_eq_iff
    (discriminator : topic.internalTypeDiscriminator = other.internalTypeDiscriminator) :
    topic.topicUniqueName = other.topicUniqueName ↔
      (topic.topicName = other.topicName ∧ topic.typeName = other.typeName) ∨
        topic.Confusable other ∨ other.Confusable topic := by
  constructor
  · intro same
    rcases lt_trichotomy topic.topicName.toList.length other.topicName.toList.length with
      longer | equal | shorter
    · exact .inr (.inl (confusable_of_shorter discriminator same longer))
    · left
      have letters := congrArg String.toList same
      rw [topicUniqueName, topicUniqueName, discriminator] at letters
      simp only [String.toList_append] at letters
      obtain ⟨front, type⟩ := List.append_inj letters (by simp [equal])
      exact ⟨String.toList_injective (List.append_inj front equal).1, String.toList_injective type⟩
    · exact .inr (.inr (confusable_of_shorter discriminator.symm same.symm shorter))
  · rintro (⟨name, type⟩ | confusable | confusable)
    · rw [topicUniqueName, topicUniqueName, name, type, discriminator]
    · exact topicUniqueName_of_confusable discriminator confusable
    · exact (topicUniqueName_of_confusable discriminator.symm confusable).symm

/-! ### Exactness -/

theorem consistentOn_iff {topics : Set DdsTopic}
    (discriminator : ∀ topic ∈ topics, ∀ other ∈ topics,
      topic.internalTypeDiscriminator = other.internalTypeDiscriminator) :
    ConsistentOn less identical topics ↔
      ∀ topic ∈ topics, ∀ other ∈ topics, ¬ topic.Confusable other := by
  constructor
  · intro consistent topic member other otherMember confusable
    have identical := (consistent topic member other otherMember).mp
      ((incomparable_iff ordersBy_less).mpr (topicUniqueName_of_confusable
        (discriminator topic member other otherMember) confusable))
    exact not_identical_of_confusable confusable (identical_iff.mp identical).1
  · intro exact topic member other otherMember
    rw [incomparable_iff ordersBy_less,
      topicUniqueName_eq_iff (discriminator topic member other otherMember), identical_iff]
    constructor
    · rintro (identical | confusable | confusable)
      · exact identical
      · exact absurd confusable (exact topic member other otherMember)
      · exact absurd confusable (exact other otherMember topic member)
    · exact .inl

/-- **Identity is exact** where no topic is confusable with another. -/
theorem exactIdentity_iff {topics : Set DdsTopic}
    (discriminator : ∀ topic ∈ topics, ∀ other ∈ topics,
      topic.internalTypeDiscriminator = other.internalTypeDiscriminator) :
    ExactIdentity topics ↔ ∀ topic ∈ topics, ∀ other ∈ topics, ¬ topic.Confusable other := by
  rw [← consistentOn_iff discriminator]
  constructor
  · exact ExactIdentity.total
  · intro consistent
    refine ⟨fun topic member other otherMember => ?_, strictWeakOrder_of_ordersBy ordersBy_less,
      consistent, (keepsOne_iff ordersBy_less identical_self).mpr consistent⟩
    rw [same_iff, ← incomparable_iff ordersBy_less, ← identical_iff]
    exact consistent topic member other otherMember

/-- Two topics whose names begin with different letters. -/
theorem exactIdentity_iff_odom :
    ExactIdentity {⟨"chatter", internalTopicTypeRtps, defaultParticipantId, "String"⟩,
      ⟨"odom", internalTopicTypeRtps, defaultParticipantId, "Odometry"⟩} := by
  apply (exactIdentity_iff ?_).mpr
  · rintro topic (rfl | rfl) other (rfl | rfl) ⟨extra, ending, nonempty, name, _, _⟩
    all_goals
      have letters := congrArg String.toList name
      rw [String.toList_append] at letters
      first
        | exact nonempty (String.toList_injective (List.self_eq_append_right.mp letters))
        | simp at letters
  · rintro topic (rfl | rfl) other (rfl | rfl) <;> rfl

/-- The topic `a` with a type name that begins with the discriminator, and the topic
whose name is `a` followed by the discriminator. -/
theorem not_exactIdentity :
    ¬ ∀ topics : Set DdsTopic, (∀ topic ∈ topics, ∀ other ∈ topics,
      topic.internalTypeDiscriminator = other.internalTypeDiscriminator) →
        ExactIdentity topics := by
  intro exact
  let short : DdsTopic :=
    ⟨"a", internalTopicTypeRtps, defaultParticipantId, "payload::rtps::v0b"⟩
  let long : DdsTopic :=
    ⟨"apayload::rtps::v0", internalTopicTypeRtps, defaultParticipantId, "b"⟩
  have identity : ExactIdentity {short, long} := by
    apply exact
    rintro topic (rfl | rfl) other (rfl | rfl) <;> rfl
  have equal : short.same long = true := by decide
  have names := ((identity.equality short (by simp) long (by simp)).mp equal).1
  exact absurd names (by decide)

end DdsTopic

end DdsPipe.Types
