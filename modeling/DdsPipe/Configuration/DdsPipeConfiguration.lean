import DdsPipe.Dynamic.AllowedTopicList

/-!
Owns the configuration of a pipe: the routes between participants, the routes
of single topics, and the checks that a configuration passes before it is used.

Owns the participants database, against which the routes are checked.

Does not own: the manually configured quality of service and the configuration
of the log, which neither the checks nor the pipe's state depend on.
-/

namespace DdsPipe.Configuration

open Std (TreeMap TreeSet)
open DdsPipe.Types DdsPipe.Dynamic

/-! ### Participants -/

/-- What the bridges ask a participant about itself. -/
structure IParticipant where
  isRepeater : Bool := false
  isRtpsKind : Bool := true
deriving DecidableEq, Repr

abbrev ParticipantsDatabase := TreeMap ParticipantId IParticipant

namespace ParticipantsDatabase

def getParticipantsIds (participants : ParticipantsDatabase) : List ParticipantId :=
  participants.keys

def getRtpsParticipantsIds (participants : ParticipantsDatabase) : List ParticipantId :=
  (participants.filter fun _ participant => participant.isRtpsKind).keys

def getParticipantsRepeaterMap (participants : ParticipantsDatabase) :
    TreeMap ParticipantId Bool :=
  participants.map fun _ participant => participant.isRepeater

end ParticipantsDatabase

/-! ### Routes -/

/-- The destinations of each participant that has a route. -/
structure RoutesConfiguration where
  routes : TreeMap ParticipantId (TreeSet ParticipantId) := ∅

namespace RoutesConfiguration

/-- The check of one destination of the route of `srcId`. -/
def checkDestination (participantIds : TreeMap ParticipantId Bool) (srcId : ParticipantId)
    (isRepeater : Bool) (dstId : ParticipantId) : Except String Unit :=
  if !participantIds.contains dstId then
    .error ("Invalid route: participant " ++ dstId ++ " is not defined. ")
  else if dstId == srcId && !isRepeater then
    .error ("Invalid route: source found in destination for non-repeater participant " ++
      srcId ++ " . ")
  else .ok ()

def checkRoute (participantIds : TreeMap ParticipantId Bool)
    (route : ParticipantId × TreeSet ParticipantId) : Except String Unit :=
  match participantIds[route.1]? with
  | none => .error ("Invalid route: participant " ++ route.1 ++ " is not defined. ")
  | some isRepeater => route.2.toList.forM (checkDestination participantIds route.1 isRepeater)

/-- `RoutesConfiguration::is_valid`, with the text of its error. -/
def isValid (configuration : RoutesConfiguration) (participantIds : TreeMap ParticipantId Bool) :
    Except String Unit :=
  configuration.routes.toList.forM (checkRoute participantIds)

end RoutesConfiguration

/-- The routes of the topics that have their own, by the topic's unique name. -/
structure TopicRoutesConfiguration where
  topicRoutes : TreeMap String RoutesConfiguration := ∅

namespace TopicRoutesConfiguration

def isValid (configuration : TopicRoutesConfiguration)
    (participantIds : TreeMap ParticipantId Bool) : Except String Unit :=
  configuration.topicRoutes.toList.forM fun entry => entry.2.isValid participantIds

end TopicRoutesConfiguration

/-! ### The pipe -/

inductive DiscoveryTrigger where
  | reader
  | writer
  | none
  | any
deriving DecidableEq, Repr

/-- A set of topics, kept by unique name. -/
structure TopicSet where
  topics : TreeMap String DdsTopic
  keyed : ∀ (name : String) (topic : DdsTopic), topics[name]? = some topic →
    topic.topicUniqueName = name

namespace TopicSet

instance : EmptyCollection TopicSet where
  emptyCollection := { topics := ∅, keyed := by simp }

end TopicSet

structure DdsPipeConfiguration (Filter : Type) where
  allowlist : FilterSet Filter := ∅
  blocklist : FilterSet Filter := ∅
  builtinTopics : TopicSet := ∅
  routes : RoutesConfiguration := {}
  topicRoutes : TopicRoutesConfiguration := {}
  removeUnusedEntities : Bool := false
  initEnabled : Bool := false
  discoveryTrigger : DiscoveryTrigger := .reader

namespace DdsPipeConfiguration

variable {Filter : Type}

/-- `DdsPipeConfiguration::is_valid`, with the text of its error. -/
def isValid (configuration : DdsPipeConfiguration Filter)
    (participantIds : TreeMap ParticipantId Bool) : Except String Unit := do
  if configuration.removeUnusedEntities && configuration.discoveryTrigger != .reader then
    throw ("A discovery-trigger different from reader is incompatible with " ++
      "remove-unused-entities.")
  configuration.routes.isValid participantIds
  configuration.topicRoutes.isValid participantIds

def getRoutesConfig (configuration : DdsPipeConfiguration Filter) (topic : DdsTopic) :
    RoutesConfiguration :=
  match configuration.topicRoutes.topicRoutes[topic.topicUniqueName]? with
  | some routes => routes
  | none => configuration.routes

end DdsPipeConfiguration

end DdsPipe.Configuration
