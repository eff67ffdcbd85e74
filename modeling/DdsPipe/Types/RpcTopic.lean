import DdsPipe.Types.StringSearch

/-!
Owns what the service topics keep of their names: which topics are classified as
request and reply topics, and whether the two topics of a service give the same
service topic.

The classification adds the length of an affix to a position that may be `npos`.
The sum wraps around, so topics without the affix are accepted when their name or
type has the length that the sum comes to (`classifiesExactly_iff`). The service
topic is derived by replacing every occurrence of an affix, so it is right for
the names and types in which no affix occurs (`identifiesServices_iff`).

Does not own: the endpoints of a service.
-/

namespace DdsPipe.Types

/-! ### The grammar of service topics -/

/-- What the request topics of services have around their names, and the reply
topics. -/
structure ServiceAffixes where
  start : String
  ending : String
  typeEnding : String

def requestAffixes : ServiceAffixes := ⟨requestPrefixStr, requestStr, requestStr⟩

def replyAffixes : ServiceAffixes := ⟨replyPrefixStr, replyStr, responseStr⟩

/-- The type name is some text, the ending, and exactly one more character. -/
def EndsBeforeLast (text ending : String) : Prop :=
  ∃ front last, text.toList = front ++ ending.toList ++ [last]

namespace ServiceAffixes

variable (affixes : ServiceAffixes) (topic : DdsTopic)

/-- `is_request_topic` and `is_reply_topic`. -/
def accepts : Bool :=
  find topic.topicName affixes.start == 0 &&
    endsWithBy topic.topicName affixes.ending 0 &&
    endsWithBy topic.typeName affixes.typeEnding 1

/-- The grammar that the check is for. -/
structure Grammar : Prop where
  starts : affixes.start.toList <+: topic.topicName.toList
  ends : affixes.ending.toList <:+ topic.topicName.toList
  typeEnds : EndsBeforeLast topic.typeName affixes.typeEnding

/-- `npos` and the length of the ending add up to the length of the name. -/
def WrapsName : Prop := topic.topicName.length + 1 = affixes.ending.length

/-- `npos`, the length of the ending and one add up to the length of the type
name, which is not the ending itself. -/
def WrapsType : Prop :=
  topic.typeName.length = affixes.typeEnding.length ∧ topic.typeName ≠ affixes.typeEnding

/-- The check takes a missing ending for one that is there. -/
def Misread : Prop :=
  affixes.start.toList <+: topic.topicName.toList ∧
    (affixes.WrapsName topic ∧
        (EndsBeforeLast topic.typeName affixes.typeEnding ∨ affixes.WrapsType topic) ∨
      affixes.ending.toList <:+ topic.topicName.toList ∧ affixes.WrapsType topic)

end ServiceAffixes

theorem isRequestTopic_eq_accepts (topic : DdsTopic) :
    isRequestTopic topic = requestAffixes.accepts topic := rfl

theorem isReplyTopic_eq_accepts (topic : DdsTopic) :
    isReplyTopic topic = replyAffixes.accepts topic := rfl

/-! ### What the check accepts -/

section Endings

variable {text ending : String}

theorem not_suffix_of_absent
    (absent : ∀ position ≤ text.length, ¬ ending.toList <+: text.toList.drop position) :
    ¬ ending.toList <:+ text.toList := by
  intro ends
  obtain ⟨front, same⟩ := ends
  apply absent front.length
  · have total := congrArg List.length same
    rw [List.length_append, String.length_toList, String.length_toList] at total
    omega
  · rw [← same, List.drop_left]

/-- The end of a text is the last position of the ending. -/
theorem rfind_of_suffix {position : Nat}
    (last : ∀ later ≤ text.length, ending.toList <+: text.toList.drop later → later ≤ position)
    (ends : ending.toList <:+ text.toList) : text.length ≤ position + ending.length := by
  obtain ⟨front, same⟩ := ends
  have total := congrArg List.length same
  rw [List.length_append, String.length_toList, String.length_toList] at total
  have bound := last front.length (by omega) (by rw [← same, List.drop_left])
  omega

theorem add_length_le {position : Nat} (inside : position ≤ text.length)
    (occurs : ending.toList <+: text.toList.drop position) :
    position + ending.length ≤ text.length := by
  have fits := occurs.length_le
  rw [List.length_drop, String.length_toList, String.length_toList] at fits
  omega

theorem endsWithBy_zero_iff (short : Representable text) (small : Representable ending)
    (nonempty : 0 < ending.length) :
    endsWithBy text ending 0 = true ↔
      ending.toList <:+ text.toList ∨ text.length + 1 = ending.length := by
  unfold Representable npos sizeTypeRange at short small
  unfold endsWithBy
  rw [beq_iff_eq, Nat.add_zero]
  rcases rfind_cases text ending with ⟨position, found, inside, occurs, last⟩ | ⟨none, absent⟩
  · have fits := add_length_le inside occurs
    have small : (position + ending.length) % sizeTypeRange = position + ending.length :=
      Nat.mod_eq_of_lt (by unfold sizeTypeRange; omega)
    rw [found, small]
    constructor
    · intro reaches
      have whole := eq_drop_of_prefix_drop occurs
        (by rw [String.length_toList, String.length_toList]; exact reaches)
      exact .inl (whole ▸ List.drop_suffix _ _)
    · intro either
      rcases either with ends | wraps
      · have bound := rfind_of_suffix last ends
        omega
      · omega
  · have wrapped : (npos + ending.length) % sizeTypeRange = ending.length - 1 := by
      unfold npos sizeTypeRange
      omega
    rw [none, wrapped]
    have unsuffixed := not_suffix_of_absent absent
    constructor
    · intro same
      exact .inr (by omega)
    · intro either
      have wraps := either.resolve_left unsuffixed
      omega

/-- The ending begins with two different characters, so it does not occur one
position later. -/
theorem endsWithBy_one_iff {one two : Char} {rest : List Char} (short : Representable text)
    (small : Representable ending) (begins : ending.toList = one :: two :: rest)
    (different : one ≠ two) :
    endsWithBy text ending 1 = true ↔
      EndsBeforeLast text ending ∨ text.length = ending.length ∧ text ≠ ending := by
  unfold Representable npos sizeTypeRange at short small
  unfold endsWithBy
  rw [beq_iff_eq]
  rcases rfind_cases text ending with ⟨position, found, inside, occurs, last⟩ | ⟨none, absent⟩
  · have fits := add_length_le inside occurs
    have small : (position + ending.length + 1) % sizeTypeRange = position + ending.length + 1 :=
      Nat.mod_eq_of_lt (by unfold sizeTypeRange; omega)
    rw [found, small]
    constructor
    · intro reaches
      obtain ⟨after, same⟩ := occurs
      have one := congrArg List.length same
      rw [List.length_append, List.length_drop, String.length_toList, String.length_toList] at one
      obtain ⟨character, rfl⟩ := List.length_eq_one_iff.mp (show after.length = 1 by omega)
      refine .inl ⟨text.toList.take position, character, ?_⟩
      rw [List.append_assoc, same, List.take_append_drop]
    · intro either
      rcases either with ⟨front, character, whole⟩ | ⟨same, other⟩
      · have total := congrArg List.length whole
        rw [List.length_append, List.length_append, String.length_toList, String.length_toList,
          List.length_singleton] at total
        have bound := last front.length (by omega)
          (by rw [whole, List.append_assoc, List.drop_left]; exact List.prefix_append _ _)
        -- The last position is this one or the next, and the next is excluded.
        have hereOrNext : position = front.length ∨ position = front.length + 1 := by omega
        rcases hereOrNext with here | next
        · omega
        · subst next
          have shifted : text.toList.drop (front.length + 1) = two :: (rest ++ [character]) := by
            rw [whole, begins, List.append_assoc, List.drop_append]
            simp
          rw [shifted, begins] at occurs
          exact absurd (List.cons_prefix_cons.mp occurs).1 different
      · have zero : position = 0 := by omega
        subst zero
        have equal := occurs.eq_of_length (by simp [String.length_toList, same])
        exact absurd (String.toList_inj.mp equal).symm other
  · have positive : 0 < ending.length := by
      rw [← String.length_toList, begins]
      exact Nat.succ_pos _
    have wrapped : (npos + ending.length + 1) % sizeTypeRange = ending.length := by
      unfold npos sizeTypeRange
      omega
    rw [none, wrapped]
    constructor
    · intro same
      refine .inr ⟨same.symm, ?_⟩
      rintro rfl
      exact absent 0 (Nat.zero_le _) (List.prefix_refl _)
    · intro either
      rcases either with ⟨front, character, whole⟩ | ⟨same, _⟩
      · refine absurd ?_ (absent front.length ?_)
        · rw [whole, List.append_assoc, List.drop_left]
          exact List.prefix_append _ _
        · rw [← String.length_toList, whole, List.append_assoc, List.length_append]
          omega
      · exact same.symm

end Endings

/-! ### Classification -/

/-- A topic whose names fit into a `std::string`. -/
structure DdsTopic.Representable (topic : DdsTopic) : Prop where
  name : DdsPipe.Types.Representable topic.topicName
  type : DdsPipe.Types.Representable topic.typeName

/-- The check accepts exactly the grammar, for requests and for replies. -/
structure ClassifiesExactly (topic : DdsTopic) : Prop where
  request : isRequestTopic topic = true ↔ requestAffixes.Grammar topic
  reply : isReplyTopic topic = true ↔ replyAffixes.Grammar topic

namespace ServiceAffixes

variable {affixes : ServiceAffixes} {topic : DdsTopic}

/-- The endings are not empty, and the one of the type begins with two different
characters. -/
structure Searchable (affixes : ServiceAffixes) : Prop where
  small : DdsPipe.Types.Representable affixes.ending
  nonempty : 0 < affixes.ending.length
  smallType : DdsPipe.Types.Representable affixes.typeEnding
  begins : ∃ one two rest, affixes.typeEnding.toList = one :: two :: rest ∧ one ≠ two

theorem searchable_requestAffixes : requestAffixes.Searchable where
  small := by decide
  nonempty := by decide
  smallType := by decide
  begins := ⟨'R', 'e', "quest".toList, by decide, by decide⟩

theorem searchable_replyAffixes : replyAffixes.Searchable where
  small := by decide
  nonempty := by decide
  smallType := by decide
  begins := ⟨'R', 'e', "sponse".toList, by decide, by decide⟩

theorem accepts_iff (searchable : affixes.Searchable) (representable : topic.Representable) :
    affixes.accepts topic = true ↔
      affixes.start.toList <+: topic.topicName.toList ∧
        (affixes.ending.toList <:+ topic.topicName.toList ∨ affixes.WrapsName topic) ∧
        (EndsBeforeLast topic.typeName affixes.typeEnding ∨ affixes.WrapsType topic) := by
  obtain ⟨one, two, rest, begins, different⟩ := searchable.begins
  rw [accepts, Bool.and_eq_true, Bool.and_eq_true, beq_iff_eq, find_eq_zero_iff,
    endsWithBy_zero_iff representable.name searchable.small searchable.nonempty,
    endsWithBy_one_iff representable.type searchable.smallType begins different, and_assoc]
  rfl

theorem accepts_of_grammar (searchable : affixes.Searchable) (representable : topic.Representable)
    (grammar : affixes.Grammar topic) : affixes.accepts topic = true :=
  (accepts_iff searchable representable).mpr
    ⟨grammar.starts, .inl grammar.ends, .inl grammar.typeEnds⟩

/-- A name or a type that wraps around is too short for its ending. -/
theorem not_grammar_of_misread (misread : affixes.Misread topic) : ¬ affixes.Grammar topic := by
  intro grammar
  rcases misread.2 with ⟨wraps, _⟩ | ⟨_, wraps⟩
  · have fits := grammar.ends.length_le
    rw [String.length_toList, String.length_toList] at fits
    unfold WrapsName at wraps
    omega
  · obtain ⟨front, last, whole⟩ := grammar.typeEnds
    have total := congrArg List.length whole
    rw [List.length_append, List.length_append, String.length_toList, String.length_toList,
      List.length_singleton] at total
    have same := wraps.1
    omega

theorem accepts_iff_grammar (searchable : affixes.Searchable)
    (representable : topic.Representable) :
    (affixes.accepts topic = true ↔ affixes.Grammar topic) ↔ ¬ affixes.Misread topic := by
  rw [accepts_iff searchable representable]
  constructor
  · intro exact misread
    apply not_grammar_of_misread misread
    apply exact.mp
    rcases misread.2 with ⟨wraps, type⟩ | ⟨ends, wraps⟩
    · exact ⟨misread.1, .inr wraps, type⟩
    · exact ⟨misread.1, .inl ends, .inr wraps⟩
  · intro read
    constructor
    · intro accepted
      obtain ⟨starts, ends | wraps, type⟩ := accepted
      · have typeEnds := type.resolve_right fun wraps => read ⟨starts, .inr ⟨ends, wraps⟩⟩
        exact ⟨starts, ends, typeEnds⟩
      · exact absurd ⟨starts, .inl ⟨wraps, type⟩⟩ read
    · intro grammar
      exact ⟨grammar.starts, .inl grammar.ends, .inl grammar.typeEnds⟩

end ServiceAffixes

open ServiceAffixes in
/-- **Classification.** A topic is classified by the grammar of requests and of
replies exactly when neither check wraps around on it. -/
theorem classifiesExactly_iff {topic : DdsTopic} (representable : topic.Representable) :
    ClassifiesExactly topic ↔ ¬ requestAffixes.Misread topic ∧ ¬ replyAffixes.Misread topic := by
  have requests := accepts_iff_grammar searchable_requestAffixes representable
  have replies := accepts_iff_grammar searchable_replyAffixes representable
  rw [← requests, ← replies]
  constructor
  · intro exact
    exact ⟨exact.request, exact.reply⟩
  · intro both
    exact ⟨both.1, both.2⟩

/-- The request topic of a service. -/
theorem classifiesExactly_iff_add :
    ClassifiesExactly { topicName := "rq/addRequest", typeName := "Add_Request_" } := by
  apply (classifiesExactly_iff ⟨by decide, by decide⟩).mpr
  constructor
  · intro misread
    rcases misread.2 with ⟨wraps, _⟩ | ⟨_, wraps⟩
    · exact absurd wraps (by unfold ServiceAffixes.WrapsName; decide)
    · exact absurd wraps.1 (by decide)
  · intro misread
    exact absurd misread.1 (by decide)

/-- An ordinary topic of six characters is taken for a request topic. -/
theorem not_classifiesExactly :
    ¬ ∀ topic : DdsTopic, topic.Representable → ClassifiesExactly topic := by
  intro classifies
  have exact := classifies { topicName := "rq/abc", typeName := "Add_Request_" }
    ⟨by decide, by decide⟩
  have ends := (exact.request.mp (by decide)).ends
  exact absurd ends (by decide)

/-! ### The two topics of a service -/

/-- A service, by its name and the name of its type. -/
structure Service where
  name : String
  typeName : String
deriving DecidableEq, Repr

/-- `RpcTopic::operator <`. -/
def RpcTopic.less (topic other : RpcTopic) : Bool :=
  decide (topic.serviceName < other.serviceName)

namespace ServiceAffixes

/-- The topic of the service that has these affixes. What else is in a topic is as
it was found. -/
def topicOf (affixes : ServiceAffixes) (found : DdsTopic) (service : Service) : DdsTopic :=
  { found with
    topicName := affixes.start ++ service.name ++ affixes.ending
    typeName := service.typeName ++ (affixes.typeEnding ++ "_") }

/-- How the constructor derives the name of a service, and the name and the type
of its other topic. -/
def serviceName (own : ServiceAffixes) (name : String) : String :=
  regexReplace name [own.start, own.ending] ""

def otherName (own other : ServiceAffixes) (name : String) : String :=
  regexReplace (regexReplace name [own.start] other.start) [own.ending] other.ending

def otherType (own other : ServiceAffixes) (typeName : String) : String :=
  regexReplace typeName [own.typeEnding] other.typeEnding

end ServiceAffixes

namespace Service

/-- The names of both topics of the service fit into a `std::string`. -/
structure Representable (service : Service) : Prop where
  request : ∀ found : DdsTopic, (requestAffixes.topicOf found service).Representable
  reply : ∀ found : DdsTopic, (replyAffixes.topicOf found service).Representable

/-- The service topics that are built from a request and from a reply topic. -/
def rpcTopics (service : Service) (request reply : DdsTopic) : List RpcTopic :=
  (rpcTopicOf (requestAffixes.topicOf request service)).toList ++
    (rpcTopicOf (replyAffixes.topicOf reply service)).toList

/-- The request and the reply topic of the service give one service topic, up to
what else was found in them, and it has the name of the service. -/
structure Identified (service : Service) (request reply : DdsTopic) : Prop where
  built : (service.rpcTopics request reply).length = 2
  named : ∀ topic ∈ service.rpcTopics request reply, topic.serviceName = service.name
  alike : ∀ topic ∈ service.rpcTopics request reply,
    ∀ other ∈ service.rpcTopics request reply,
      topic.requestTopic.topicName = other.requestTopic.topicName ∧
      topic.requestTopic.typeName = other.requestTopic.typeName ∧
      topic.replyTopic.topicName = other.replyTopic.topicName ∧
      topic.replyTopic.typeName = other.replyTopic.typeName ∧
      topic.less other = false

/-- No affix occurs in the name, and no ending of a type in the type name. -/
structure FreeOfAffixes (service : Service) : Prop where
  name : ∀ affix ∈ [requestPrefixStr, requestStr, replyPrefixStr, replyStr],
    ¬ affix.toList <:+: service.name.toList
  typeName : ∀ affix ∈ [requestStr, responseStr], ¬ affix.toList <:+: service.typeName.toList

end Service

/-- Both services are identified by their topics, and if their names differ their
topics are ordered one way or the other. -/
structure IdentifiesServices (request reply : DdsTopic) (service rival : Service) : Prop where
  identified : service.Identified request reply
  rivalIdentified : rival.Identified request reply
  apart : service.name ≠ rival.name → ∀ topic ∈ service.rpcTopics request reply,
    ∀ other ∈ rival.rpcTopics request reply, topic.less other = true ∨ other.less topic = true

/-! ### What the constructor derives -/

namespace ServiceAffixes

/-- What the affixes of a topic and of the other topic of its service have to do
with each other: no replacement of an affix reaches over its end. -/
structure Converts (own other : ServiceAffixes) : Prop where
  openStart : ClosedAfter ([own.start, own.ending].map String.toList) own.start.toList
  openEnding : ClosedBefore ([own.start, own.ending].map String.toList) own.ending.toList
  removesStart : own.serviceName own.start = ""
  removesEnding : own.serviceName own.ending = ""
  startAfter : ClosedAfter ([own.start].map String.toList) own.start.toList
  endingBefore : ClosedBefore ([own.start].map String.toList) own.ending.toList
  convertsStart : regexReplace own.start [own.start] other.start = other.start
  keepsEnding : regexReplace own.ending [own.start] other.start = own.ending
  otherAfter : ClosedAfter ([own.ending].map String.toList) other.start.toList
  ownBefore : ClosedBefore ([own.ending].map String.toList) own.ending.toList
  keepsStart : regexReplace other.start [own.ending] other.ending = other.start
  convertsEnding : regexReplace own.ending [own.ending] other.ending = other.ending
  typeBefore : ClosedBefore ([own.typeEnding].map String.toList) (own.typeEnding ++ "_").toList
  convertsType : own.otherType other (own.typeEnding ++ "_") = other.typeEnding ++ "_"

theorem converts_request_reply : requestAffixes.Converts replyAffixes := by
  constructor <;> decide

theorem converts_reply_request : replyAffixes.Converts requestAffixes := by
  constructor <;> decide

section Converts

variable {own other : ServiceAffixes} {text : String}

theorem serviceName_between (converts : own.Converts other) (text : String) :
    own.serviceName (own.start ++ text ++ own.ending) = own.serviceName text := by
  have removesStart := converts.removesStart
  have removesEnding := converts.removesEnding
  unfold serviceName at removesStart removesEnding ⊢
  rw [regexReplace_between converts.openStart converts.openEnding, removesStart, removesEnding]
  simp

theorem otherName_between (converts : own.Converts other)
    (noStart : ¬ own.start.toList <:+: text.toList)
    (noEnding : ¬ own.ending.toList <:+: text.toList) :
    own.otherName other (own.start ++ text ++ own.ending) =
      other.start ++ text ++ other.ending := by
  have keepsForStart : regexReplace text [own.start] other.start = text := by
    apply regexReplace_of_absent
    intro literal member
    exact List.mem_singleton.mp member ▸ noStart
  have keepsForEnding : regexReplace text [own.ending] other.ending = text := by
    apply regexReplace_of_absent
    intro literal member
    exact List.mem_singleton.mp member ▸ noEnding
  unfold otherName
  rw [regexReplace_between converts.startAfter converts.endingBefore, converts.convertsStart,
    converts.keepsEnding, keepsForStart,
    regexReplace_between converts.otherAfter converts.ownBefore, converts.keepsStart,
    converts.convertsEnding, keepsForEnding]

theorem otherType_append (converts : own.Converts other) (text : String) :
    own.otherType other (text ++ (own.typeEnding ++ "_")) =
      own.otherType other text ++ (other.typeEnding ++ "_") := by
  have convertsType := converts.convertsType
  unfold otherType at convertsType ⊢
  rw [regexReplace_append converts.typeBefore, convertsType]

end Converts

end ServiceAffixes

/-! ### Names that identify a service -/

section Services

open ServiceAffixes

variable {service rival : Service} {request reply : DdsTopic}

theorem grammar_topicOf (affixes : ServiceAffixes) (found : DdsTopic) (service : Service) :
    affixes.Grammar (affixes.topicOf found service) where
  starts := by
    simp only [topicOf, String.toList_append, List.append_assoc]
    exact List.prefix_append _ _
  ends := by
    simp only [topicOf, String.toList_append]
    exact List.suffix_append _ _
  typeEnds := ⟨service.typeName.toList, '_', by
    simp only [topicOf, String.toList_append, List.append_assoc]
    rfl⟩

theorem isRequestTopic_topicOf (fits : service.Representable) (found : DdsTopic) :
    isRequestTopic (requestAffixes.topicOf found service) = true := by
  rw [isRequestTopic_eq_accepts]
  exact accepts_of_grammar searchable_requestAffixes (fits.request found)
    (grammar_topicOf requestAffixes found service)

theorem isReplyTopic_topicOf (fits : service.Representable) (found : DdsTopic) :
    isReplyTopic (replyAffixes.topicOf found service) = true := by
  rw [isReplyTopic_eq_accepts]
  exact accepts_of_grammar searchable_replyAffixes (fits.reply found)
    (grammar_topicOf replyAffixes found service)

/-- A reply topic does not start as a request topic does. -/
theorem isRequestTopic_reply (found : DdsTopic) (service : Service) :
    isRequestTopic (replyAffixes.topicOf found service) = false := by
  have starts :
      ¬ requestPrefixStr.toList <+: (replyAffixes.topicOf found service).topicName.toList := by
    simp only [topicOf, replyAffixes, String.toList_append, List.append_assoc]
    intro begins
    have second := (List.cons_prefix_cons.mp begins).2
    exact absurd (List.cons_prefix_cons.mp second).1 (by decide)
  rw [isRequestTopic, Bool.and_assoc, Bool.and_eq_false_iff, beq_eq_false_iff_ne]
  exact .inl fun zero => starts (find_eq_zero_iff.mp zero)

theorem rpcTopicOf_request (fits : service.Representable) (found : DdsTopic) :
    rpcTopicOf (requestAffixes.topicOf found service) = some {
      serviceName := requestAffixes.serviceName (requestAffixes.topicOf found service).topicName
      requestTopic := { requestAffixes.topicOf found service with
        internalTypeDiscriminator := internalTopicTypeRpc }
      replyTopic := { requestAffixes.topicOf found service with
        topicName := requestAffixes.otherName replyAffixes
          (requestAffixes.topicOf found service).topicName
        typeName := requestAffixes.otherType replyAffixes
          (requestAffixes.topicOf found service).typeName
        internalTypeDiscriminator := internalTopicTypeRpc } } := by
  rw [rpcTopicOf, if_pos (isRequestTopic_topicOf fits found)]
  rfl

theorem rpcTopicOf_reply (fits : service.Representable) (found : DdsTopic) :
    rpcTopicOf (replyAffixes.topicOf found service) = some {
      serviceName := replyAffixes.serviceName (replyAffixes.topicOf found service).topicName
      requestTopic := { replyAffixes.topicOf found service with
        topicName := replyAffixes.otherName requestAffixes
          (replyAffixes.topicOf found service).topicName
        typeName := replyAffixes.otherType requestAffixes
          (replyAffixes.topicOf found service).typeName
        internalTypeDiscriminator := internalTopicTypeRpc }
      replyTopic := { replyAffixes.topicOf found service with
        internalTypeDiscriminator := internalTopicTypeRpc } } := by
  rw [rpcTopicOf, if_neg (by rw [isRequestTopic_reply]; exact Bool.false_ne_true),
    if_pos (isReplyTopic_topicOf fits found)]
  rfl

theorem mem_rpcTopics (request reply : DdsTopic) {topic : RpcTopic} :
    topic ∈ service.rpcTopics request reply ↔
    rpcTopicOf (requestAffixes.topicOf request service) = some topic ∨
      rpcTopicOf (replyAffixes.topicOf reply service) = some topic := by
  unfold Service.rpcTopics
  rw [List.mem_append, Option.mem_toList, Option.mem_toList]

/-- Without affixes in its names, a service is what both its topics give. -/
structure Derived (service : Service) (topic : RpcTopic) : Prop where
  serviceName : topic.serviceName = service.name
  requestName : topic.requestTopic.topicName = (requestAffixes.topicOf {} service).topicName
  requestType : topic.requestTopic.typeName = (requestAffixes.topicOf {} service).typeName
  replyName : topic.replyTopic.topicName = (replyAffixes.topicOf {} service).topicName
  replyType : topic.replyTopic.typeName = (replyAffixes.topicOf {} service).typeName

theorem derived_of_free (fits : service.Representable) (free : service.FreeOfAffixes)
    {topic : RpcTopic} (member : topic ∈ service.rpcTopics request reply) :
    Derived service topic := by
  have named (affixes other : ServiceAffixes) (converts : affixes.Converts other)
      (listed : ∀ affix ∈ [affixes.start, affixes.ending],
        ¬ affix.toList <:+: service.name.toList) (found : DdsTopic) :
      affixes.serviceName (affixes.topicOf found service).topicName = service.name := by
    rw [topicOf, serviceName_between converts]
    exact regexReplace_of_absent listed
  have typed (affixes other : ServiceAffixes) (converts : affixes.Converts other)
      (absent : ¬ affixes.typeEnding.toList <:+: service.typeName.toList) (found : DdsTopic) :
      affixes.otherType other (affixes.topicOf found service).typeName =
        (other.topicOf {} service).typeName := by
    have keeps : affixes.otherType other service.typeName = service.typeName := by
      apply regexReplace_of_absent
      intro literal member
      exact List.mem_singleton.mp member ▸ absent
    rw [topicOf, otherType_append converts, keeps]
    rfl
  have noRequest := free.name requestPrefixStr (by simp)
  have noRequestEnding := free.name requestStr (by simp)
  have noReply := free.name replyPrefixStr (by simp)
  have noReplyEnding := free.name replyStr (by simp)
  rcases (mem_rpcTopics request reply).mp member with built | built
  · rw [rpcTopicOf_request fits] at built
    cases built
    refine ⟨named _ _ converts_request_reply ?_ request, rfl, rfl, ?_,
      typed _ _ converts_request_reply (free.typeName requestStr (by simp)) request⟩
    · intro affix listed
      rcases List.mem_pair.mp listed with rfl | rfl
      · exact noRequest
      · exact noRequestEnding
    · exact otherName_between converts_request_reply noRequest noRequestEnding
  · rw [rpcTopicOf_reply fits] at built
    cases built
    refine ⟨named _ _ converts_reply_request ?_ reply, ?_,
      typed _ _ converts_reply_request (free.typeName responseStr (by simp)) reply, rfl, rfl⟩
    · intro affix listed
      rcases List.mem_pair.mp listed with rfl | rfl
      · exact noReply
      · exact noReplyEnding
    · exact otherName_between converts_reply_request noReply noReplyEnding

theorem identified_of_free (fits : service.Representable) (free : service.FreeOfAffixes) :
    service.Identified request reply where
  built := by
    rw [Service.rpcTopics, rpcTopicOf_request fits, rpcTopicOf_reply fits]
    rfl
  named topic member := (derived_of_free fits free member).serviceName
  alike topic member other present := by
    have one := derived_of_free fits free member
    have another := derived_of_free fits free present
    refine ⟨one.requestName.trans another.requestName.symm,
      one.requestType.trans another.requestType.symm,
      one.replyName.trans another.replyName.symm, one.replyType.trans another.replyType.symm, ?_⟩
    rw [RpcTopic.less, one.serviceName, another.serviceName]
    exact decide_eq_false (lt_irrefl _)

theorem otherType_eq_self {own other : ServiceAffixes} (converts : own.Converts other)
    {text : String}
    (same : own.otherType other (text ++ (own.typeEnding ++ "_")) =
      text ++ (other.typeEnding ++ "_")) : own.otherType other text = text := by
  rw [otherType_append converts] at same
  have characters := congrArg String.toList same
  generalize other.typeEnding ++ "_" = ending at characters
  rw [String.toList_append, String.toList_append] at characters
  exact String.toList_inj.mp (List.append_cancel_right characters)

/-- A name that is given back by both topics has no affix, and a type that both
topics agree on has no ending. -/
theorem free_of_identified (fits : service.Representable)
    (identified : service.Identified request reply) : service.FreeOfAffixes := by
  have oneBuilt := (mem_rpcTopics request reply).mpr (.inl (rpcTopicOf_request fits request))
  have anotherBuilt := (mem_rpcTopics request reply).mpr (.inr (rpcTopicOf_reply fits reply))
  have requestName := identified.named _ oneBuilt
  have replyName := identified.named _ anotherBuilt
  obtain ⟨_, requestType, _, replyType, _⟩ := identified.alike _ oneBuilt _ anotherBuilt
  have noRequest := absent_of_regexReplace_shorter (by decide)
    ((serviceName_between converts_request_reply service.name).symm.trans requestName)
  have noReply := absent_of_regexReplace_shorter (by decide)
    ((serviceName_between converts_reply_request service.name).symm.trans replyName)
  have noRequestType := absent_of_regexReplace_longer (by decide) (by decide)
    (otherType_eq_self converts_request_reply replyType)
  have noResponseType := absent_of_regexReplace_shorter (by decide)
    (otherType_eq_self converts_reply_request requestType.symm)
  constructor
  · intro affix member
    simp only [List.mem_cons, List.not_mem_nil, or_false] at member
    rcases member with rfl | rfl | rfl | rfl
    · exact noRequest requestPrefixStr (List.mem_cons_self)
    · exact noRequest requestStr (by simp [requestAffixes])
    · exact noReply replyPrefixStr (List.mem_cons_self)
    · exact noReply replyStr (by simp [replyAffixes])
  · intro affix member
    rcases List.mem_pair.mp member with rfl | rfl
    · exact noRequestType requestStr (List.mem_singleton_self _)
    · exact noResponseType responseStr (List.mem_singleton_self _)

theorem ordered_of_ne {topic other : RpcTopic} (different : topic.serviceName ≠ other.serviceName) :
    topic.less other = true ∨ other.less topic = true := by
  unfold RpcTopic.less
  rw [decide_eq_true_eq, decide_eq_true_eq]
  exact lt_or_gt_of_ne different

end Services

/-- **Request and reply identify the service**, and two services are kept apart,
exactly when no affix occurs in their names and types. -/
theorem identifiesServices_iff {request reply : DdsTopic} {service rival : Service}
    (fits : service.Representable) (rivalFits : rival.Representable) :
    IdentifiesServices request reply service rival ↔
      service.FreeOfAffixes ∧ rival.FreeOfAffixes := by
  constructor
  · intro identifies
    exact ⟨free_of_identified fits identifies.identified,
      free_of_identified rivalFits identifies.rivalIdentified⟩
  · intro free
    refine ⟨identified_of_free fits free.1, identified_of_free rivalFits free.2, ?_⟩
    intro different topic member other present
    apply ordered_of_ne
    rw [(derived_of_free fits free.1 member).serviceName,
      (derived_of_free rivalFits free.2 present).serviceName]
    exact different

theorem Service.representable_of_length {service : Service}
    (short : service.name.length < 2 ^ 32) (shortType : service.typeName.length < 2 ^ 32) :
    service.Representable := by
  have requestLengths : requestPrefixStr.length = 3 ∧ requestStr.length = 7 := by decide
  have replyLengths : replyPrefixStr.length = 3 ∧ replyStr.length = 5 ∧ responseStr.length = 8 := by
    decide
  have line : "_".length = 1 := by decide
  constructor
  all_goals
    intro found
    constructor
    all_goals
      simp only [DdsPipe.Types.Representable, ServiceAffixes.topicOf, requestAffixes, replyAffixes,
        String.length_append, npos, sizeTypeRange]
      omega

theorem identifiesServices_iff_add :
    IdentifiesServices {} {} { name := "add", typeName := "Add" }
      { name := "sub", typeName := "Sub" } := by
  apply (identifiesServices_iff (Service.representable_of_length (by decide) (by decide))
    (Service.representable_of_length (by decide) (by decide))).mpr
  exact ⟨⟨by decide, by decide⟩, ⟨by decide, by decide⟩⟩

/-- The service `addRequest` is taken for the service `add`. -/
theorem not_identifiesServices :
    ¬ ∀ (request reply : DdsTopic) (service rival : Service), service.Representable →
      rival.Representable → IdentifiesServices request reply service rival := by
  intro identifies
  have fits : Service.Representable { name := "addRequest", typeName := "Add" } :=
    Service.representable_of_length (by decide) (by decide)
  have identified := (identifies {} {} _ _ fits fits).identified
  have free := (free_of_identified fits identified).name requestStr (by simp)
  exact free (by decide)

end DdsPipe.Types
