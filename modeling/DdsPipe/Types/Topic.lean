import DdsPipe.Library.OrderedMap

/-!
Owns the topics that the pipe routes by: the DDS topic with its unique name, and
the service topic that pairs the request and the reply topic of one service.

Owns the classification of a DDS topic as request or reply topic, with the
`std::string` searches it rests on.

Does not own: the quality of service of a topic, and its validity check.
-/

namespace DdsPipe.Types

abbrev ParticipantId := String

/-- `DEFAULT_PARTICIPANT_ID`: the id of no participant. -/
def defaultParticipantId : ParticipantId := "Undefined"

abbrev TopicInternalTypeDiscriminator := String

def internalTopicTypeRtps : TopicInternalTypeDiscriminator := "payload::rtps::v0"

def internalTopicTypeRpc : TopicInternalTypeDiscriminator := "type::rpc::v0"

structure DdsTopic where
  topicName : String := ""
  internalTypeDiscriminator : TopicInternalTypeDiscriminator := internalTopicTypeRtps
  topicDiscoverer : ParticipantId := defaultParticipantId
  typeName : String := ""
deriving DecidableEq, Repr

/-- `topic_unique_name`: what topics are compared and ordered by. -/
def DdsTopic.topicUniqueName (topic : DdsTopic) : String :=
  topic.topicName ++ topic.internalTypeDiscriminator ++ topic.typeName

/-- `Topic::operator ==`. -/
def DdsTopic.same (topic other : DdsTopic) : Bool :=
  topic.topicUniqueName == other.topicUniqueName

theorem DdsTopic.same_iff {topic other : DdsTopic} :
    topic.same other = true ↔ topic.topicUniqueName = other.topicUniqueName := by
  simp [DdsTopic.same]

/-! ### Searches of `std::string` -/

/-- The number of values of `std::size_t`. -/
def sizeTypeRange : Nat := 2 ^ 64

/-- `std::string::npos`. -/
def npos : Nat := sizeTypeRange - 1

/-- The positions at which `pattern` occurs in `text`, in ascending order. -/
def occurrences (pattern : List Char) : Nat → List Char → List Nat
  | position, [] => if pattern.isPrefixOf [] then [position] else []
  | position, char :: rest =>
      if pattern.isPrefixOf (char :: rest) then
        position :: occurrences pattern (position + 1) rest
      else occurrences pattern (position + 1) rest

/-- `std::string::find`. -/
def find (text pattern : String) : Nat :=
  (occurrences pattern.toList 0 text.toList).head?.getD npos

/-- `std::string::rfind`. -/
def rfind (text pattern : String) : Nat :=
  (occurrences pattern.toList 0 text.toList).getLast?.getD npos

/-- `std::regex_replace` with an expression that is an alternation of literals:
at each position the first literal that occurs there is replaced and passed
over. `skip` characters belong to a literal already replaced. -/
def regexReplaceFrom (literals : List (List Char)) (replacement : List Char) :
    Nat → List Char → List Char
  | _, [] => []
  | skip + 1, _ :: rest => regexReplaceFrom literals replacement skip rest
  | 0, char :: rest =>
      match literals.find? fun literal => literal.isPrefixOf (char :: rest) with
      | some literal =>
          replacement ++ regexReplaceFrom literals replacement (literal.length - 1) rest
      | none => char :: regexReplaceFrom literals replacement 0 rest

def regexReplace (text : String) (literals : List String) (replacement : String) : String :=
  String.ofList (regexReplaceFrom (literals.map String.toList) replacement.toList 0 text.toList)

/-! ### Service topics -/

def requestPrefixStr : String := "rq/"

def replyPrefixStr : String := "rr/"

def requestStr : String := "Request"

def replyStr : String := "Reply"

def responseStr : String := "Response"

/-- The test `text.rfind(suffix) + suffix.length() + trailing == text.length()`,
whose sum is one of `std::size_t`. -/
def endsWithBy (text suffix : String) (trailing : Nat) : Bool :=
  (rfind text suffix + suffix.length + trailing) % sizeTypeRange == text.length

def isRequestTopic (topic : DdsTopic) : Bool :=
  find topic.topicName requestPrefixStr == 0 &&
    endsWithBy topic.topicName requestStr 0 &&
    endsWithBy topic.typeName requestStr 1

def isReplyTopic (topic : DdsTopic) : Bool :=
  find topic.topicName replyPrefixStr == 0 &&
    endsWithBy topic.topicName replyStr 0 &&
    endsWithBy topic.typeName responseStr 1

def isServiceTopic (topic : DdsTopic) : Bool :=
  isRequestTopic topic || isReplyTopic topic

structure RpcTopic where
  serviceName : String
  requestTopic : DdsTopic
  replyTopic : DdsTopic
deriving DecidableEq, Repr

/-- The constructor from one topic of the service. `none` is the call that the
source declares impossible: a topic that is neither request nor reply. -/
def rpcTopicOf (topic : DdsTopic) : Option RpcTopic :=
  if isRequestTopic topic then
    some {
      serviceName := regexReplace topic.topicName [requestPrefixStr, requestStr] ""
      requestTopic := { topic with internalTypeDiscriminator := internalTopicTypeRpc }
      replyTopic := { topic with
        topicName := regexReplace (regexReplace topic.topicName [requestPrefixStr] replyPrefixStr)
          [requestStr] replyStr
        typeName := regexReplace topic.typeName [requestStr] responseStr
        internalTypeDiscriminator := internalTopicTypeRpc } }
  else if isReplyTopic topic then
    some {
      serviceName := regexReplace topic.topicName [replyPrefixStr, replyStr] ""
      requestTopic := { topic with
        topicName := regexReplace (regexReplace topic.topicName [replyPrefixStr] requestPrefixStr)
          [replyStr] requestStr
        typeName := regexReplace topic.typeName [responseStr] requestStr
        internalTypeDiscriminator := internalTopicTypeRpc }
      replyTopic := { topic with internalTypeDiscriminator := internalTopicTypeRpc } }
  else none

theorem isSome_rpcTopicOf {topic : DdsTopic} :
    (rpcTopicOf topic).isSome = isServiceTopic topic := by
  unfold rpcTopicOf isServiceTopic
  split
  · simp [*]
  · split <;> simp [*]

example :
    (rpcTopicOf { topicName := "rq/addRequest", typeName := "Add_Request_" }).map
      (fun service => (service.serviceName, service.replyTopic.topicName,
        service.replyTopic.typeName)) =
      some ("add", "rr/addReply", "Add_Response_") := by decide

end DdsPipe.Types
