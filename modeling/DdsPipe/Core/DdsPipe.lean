import DdsPipe.Communication.RpcBridge
import DdsPipe.Dynamic.DiscoveryDatabase
import DdsPipe.Library.TransitionSystem

/-!
Owns the pipe as its mutex serialises it: which topics and services it knows,
which of them are active, the bridges it keeps for them, and what enabling,
disabling, reloading and the notifications of the discovery database do to them.

Owns the system whose runs are the sequences of these calls.

Does not own: the threads that call it, and the transmissions of its bridges.
-/

namespace DdsPipe.Core

open Std (TreeMap)
open DdsPipe.Types DdsPipe.Dynamic DdsPipe.Configuration DdsPipe.Communication

/-! ### The state -/

inductive ReturnCode where
  | ok
  | preconditionNotMet
  | noData
deriving DecidableEq, Repr

/-- An entry of `current_topics_`: the topic that it was inserted with, and its
value. -/
structure CurrentTopic where
  topic : DdsTopic
  active : Bool
deriving DecidableEq, Repr

/-- An entry of `current_services_`. -/
structure CurrentService where
  service : RpcTopic
  allowed : Bool
deriving DecidableEq, Repr

/-- The topics are kept by unique name, and the services by service name.
`bridgesCreated` is history that no function reads: the unique name of every
bridge that has been created, the latest first. -/
structure Pipe (Filter : Type) where
  allowedTopics : AllowedTopicList Filter
  enabled : Bool := false
  currentTopics : TreeMap String CurrentTopic := ∅
  bridges : TreeMap String DdsBridge := ∅
  currentServices : TreeMap String CurrentService := ∅
  rpcBridges : TreeMap String RpcBridge := ∅
  bridgesCreated : List String := []

namespace Pipe

variable {Filter : Type} [IFilterTopic Filter] (configuration : DdsPipeConfiguration Filter)
  (environment : Environment)

/-! ### Bridges of topics -/

def createNewBridge (pipe : Pipe Filter) (topic : DdsTopic) (enabled : Bool) :
    Except Fault (Pipe Filter) :=
  match DdsBridge.construct environment topic (configuration.getRoutesConfig topic)
      configuration.removeUnusedEntities with
  | .ok newBridge =>
      .ok { pipe with
        bridges := pipe.bridges.insert topic.topicUniqueName
          (if enabled then newBridge.enable else newBridge)
        bridgesCreated := topic.topicUniqueName :: pipe.bridgesCreated }
  | .error .initializationException => .ok pipe
  | .error fault => .error fault

/-- `current_topics_[topic] = active`. -/
def setActive (pipe : Pipe Filter) (topic : DdsTopic) (active : Bool) : Pipe Filter :=
  { pipe with
    currentTopics := pipe.currentTopics.insert topic.topicUniqueName
      { topic := (pipe.currentTopics[topic.topicUniqueName]?.map CurrentTopic.topic).getD topic
        active := active } }

def activateTopic (pipe : Pipe Filter) (topic : DdsTopic) : Except Fault (Pipe Filter) :=
  let pipe := pipe.setActive topic true
  match pipe.bridges[topic.topicUniqueName]? with
  | none => pipe.createNewBridge configuration environment topic true
  | some bridge =>
      .ok { pipe with bridges := pipe.bridges.insert topic.topicUniqueName bridge.enable }

def deactivateTopic (pipe : Pipe Filter) (topic : DdsTopic) : Pipe Filter :=
  let pipe := pipe.setActive topic false
  match pipe.bridges[topic.topicUniqueName]? with
  | none => pipe
  | some bridge =>
      { pipe with bridges := pipe.bridges.insert topic.topicUniqueName bridge.disable }

/-- One round of `activate_all_topics_nts_`. -/
def activateAllowed (pipe : Pipe Filter) (entry : String × CurrentTopic) :
    Except Fault (Pipe Filter) :=
  if pipe.allowedTopics.isTopicAllowed entry.2.topic then
    pipe.activateTopic configuration environment entry.2.topic
  else .ok pipe

def activateAllTopics (pipe : Pipe Filter) : Except Fault (Pipe Filter) :=
  pipe.currentTopics.toList.foldlM (activateAllowed configuration environment) pipe

def deactivateAllTopics (pipe : Pipe Filter) : Pipe Filter :=
  pipe.currentTopics.toList.foldl (fun pipe entry => pipe.deactivateTopic entry.2.topic) pipe

def discoveredTopic (pipe : Pipe Filter) (topic : DdsTopic) : Except Fault (Pipe Filter) :=
  match pipe.bridges[topic.topicUniqueName]? with
  | none =>
      let pipe := { pipe with
        currentTopics := pipe.currentTopics.insertIfNew topic.topicUniqueName ⟨topic, false⟩ }
      if pipe.enabled && pipe.allowedTopics.isTopicAllowed topic then
        pipe.activateTopic configuration environment topic
      else .ok pipe
  | some bridge =>
      if configuration.removeUnusedEntities &&
          topic.topicDiscoverer != defaultParticipantId then do
        -- No function on the way to this call catches the exception.
        let bridge ← bridge.createWriter environment topic.topicDiscoverer
        return { pipe with bridges := pipe.bridges.insert topic.topicUniqueName bridge }
      else .ok pipe

/-! ### Bridges of services -/

/-- A call on `rpc_bridges_[name]`, which is dereferenced. -/
def onRpcBridge (pipe : Pipe Filter) (name : String)
    (call : RpcBridge → Except Fault RpcBridge) : Except Fault (Pipe Filter) :=
  match pipe.rpcBridges[name]? with
  | none => .error .nullEntity
  | some bridge => do
      let bridge ← call bridge
      return { pipe with rpcBridges := pipe.rpcBridges.insert name bridge }

/-- `current_services_[topic] = allowed`. -/
def setAllowed (pipe : Pipe Filter) (topic : RpcTopic) (allowed : Bool) : Pipe Filter :=
  { pipe with
    currentServices := pipe.currentServices.insert topic.serviceName
      { service := (pipe.currentServices[topic.serviceName]?.map CurrentService.service).getD topic
        allowed := allowed } }

/-- The value of `current_services_[name]`. -/
def serviceAllowed (pipe : Pipe Filter) (name : String) : Bool :=
  (pipe.currentServices[name]?.map CurrentService.allowed).getD false

/-- The part of `discovered_service_nts_` for a service without a bridge. -/
def createNewService (pipe : Pipe Filter) (topic : RpcTopic) : Pipe Filter :=
  match pipe.rpcBridges[topic.serviceName]? with
  | some _ => pipe
  | none =>
      { pipe with
        rpcBridges := pipe.rpcBridges.insert topic.serviceName { rpcTopic := topic }
      }.setAllowed topic (pipe.allowedTopics.isServiceAllowed topic)

def discoveredService (pipe : Pipe Filter) (topic : RpcTopic)
    (serverParticipantId : ParticipantId) (serverGuidPrefix : GuidPrefix) :
    Except Fault (Pipe Filter) := do
  let pipe ← (pipe.createNewService topic).onRpcBridge topic.serviceName fun bridge =>
    bridge.discoveredService serverParticipantId serverGuidPrefix
  if pipe.enabled && pipe.serviceAllowed topic.serviceName then
    pipe.onRpcBridge topic.serviceName (RpcBridge.enable environment)
  else return pipe

def removedService (pipe : Pipe Filter) (topic : RpcTopic)
    (serverParticipantId : ParticipantId) (serverGuidPrefix : GuidPrefix) : Pipe Filter :=
  match pipe.rpcBridges[topic.serviceName]? with
  | none => pipe
  | some bridge =>
      { pipe with
        rpcBridges := pipe.rpcBridges.insert topic.serviceName
          (bridge.removedService serverParticipantId serverGuidPrefix) }

/-! ### Enabling, disabling and reloading -/

/-- One round of the loop of `enable` over the services. -/
def enableAllowedService (pipe : Pipe Filter) (entry : String × CurrentService) :
    Except Fault (Pipe Filter) :=
  if entry.2.allowed then pipe.onRpcBridge entry.1 (RpcBridge.enable environment)
  else .ok pipe

def enable (pipe : Pipe Filter) : Except Fault (ReturnCode × Pipe Filter) :=
  if pipe.enabled then .ok (.preconditionNotMet, pipe)
  else do
    let pipe ← { pipe with enabled := true }.activateAllTopics configuration environment
    let pipe ← pipe.currentServices.toList.foldlM (enableAllowedService environment) pipe
    return (.ok, pipe)

def disable (pipe : Pipe Filter) : ReturnCode × Pipe Filter :=
  if pipe.enabled then (.ok, { pipe with enabled := false }.deactivateAllTopics)
  else (.preconditionNotMet, pipe)

/-- One round of the loop of `reload_allowed_topics_` over the topics. -/
def reloadTopic (pipe : Pipe Filter) (entry : String × CurrentTopic) :
    Except Fault (Pipe Filter) :=
  let allowed := pipe.allowedTopics.isTopicAllowed entry.2.topic
  if entry.2.active then
    if allowed then .ok pipe else .ok (pipe.deactivateTopic entry.2.topic)
  else if allowed then pipe.activateTopic configuration environment entry.2.topic
  else .ok pipe

/-- One round of its loop over the services. -/
def reloadService (pipe : Pipe Filter) (entry : String × CurrentService) :
    Except Fault (Pipe Filter) :=
  if pipe.allowedTopics.isServiceAllowed entry.2.service then
    (pipe.setAllowed entry.2.service true).onRpcBridge entry.1 (RpcBridge.enable environment)
  else
    (pipe.setAllowed entry.2.service false).onRpcBridge entry.1 fun bridge => .ok bridge.disable

def reloadAllowedTopics (pipe : Pipe Filter) (allowedTopics : AllowedTopicList Filter) :
    Except Fault (ReturnCode × Pipe Filter) :=
  if allowedTopics.same pipe.allowedTopics then .ok (.noData, pipe)
  else
    let pipe := { pipe with allowedTopics := allowedTopics }
    if !pipe.enabled then .ok (.ok, pipe)
    else do
      let pipe ← pipe.currentTopics.toList.foldlM (reloadTopic configuration environment) pipe
      let pipe ← pipe.currentServices.toList.foldlM (reloadService environment) pipe
      return (.ok, pipe)

/-- The text of a `ConfigurationException`, or the code that the reload returns. -/
def reloadConfiguration (pipe : Pipe Filter) (newConfiguration : DdsPipeConfiguration Filter) :
    Except Fault (Except String ReturnCode × Pipe Filter) :=
  match newConfiguration.isValid environment.participants.getParticipantsRepeaterMap with
  | .error message =>
      .ok (.error ("Configuration for Reload DDS Pipe is invalid: " ++ message), pipe)
  | .ok _ => do
      let (code, pipe) ← pipe.reloadAllowedTopics configuration environment
        (.create newConfiguration.allowlist newConfiguration.blocklist)
      return (.ok code, pipe)

/-! ### Notifications of the discovery database -/

def isEndpointKindRelevant (configuration : DdsPipeConfiguration Filter) (endpoint : Endpoint) :
    Bool :=
  match configuration.discoveryTrigger with
  | .reader => endpoint.isReader
  | .writer => endpoint.isWriter
  | .any => true
  | .none => false

/-- The endpoints of the database that count as the same source as `endpoint`. -/
def relevantEndpoints (configuration : DdsPipeConfiguration Filter) (entities : Entities)
    (endpoint : Endpoint) : Entities :=
  getEndpoints entities fun entity =>
    entity.active && isEndpointKindRelevant configuration entity &&
      entity.topic.same endpoint.topic &&
      entity.discovererParticipantId == endpoint.discovererParticipantId

def isEndpointRelevant (configuration : DdsPipeConfiguration Filter) (entities : Entities)
    (endpoint : Endpoint) : Bool :=
  if !isEndpointKindRelevant configuration endpoint then false
  else
    let relevant := relevantEndpoints configuration entities endpoint
    if endpoint.active then relevant.size == 1 && relevant.contains endpoint.guid
    else relevant.size == 0

/-- The call of a function on the service of `topic`, which has to be a topic of
a service. -/
def onService (pipe : Pipe Filter) (topic : DdsTopic)
    (call : RpcTopic → Except Fault (Pipe Filter)) : Except Fault (Pipe Filter) :=
  match rpcTopicOf topic with
  | some service => call service
  | none => .ok pipe

def discoveredEndpoint (pipe : Pipe Filter) (entities : Entities) (endpoint : Endpoint) :
    Except Fault (Pipe Filter) :=
  if isServiceTopic endpoint.topic then
    if isEndpointKindRelevant configuration endpoint && endpoint.isServerEndpoint then
      pipe.onService endpoint.topic fun service =>
        pipe.discoveredService environment service endpoint.discovererParticipantId
          endpoint.guid.guidPrefix
    else .ok pipe
  else if isEndpointRelevant configuration entities endpoint then
    pipe.discoveredTopic configuration environment endpoint.topic
  else .ok pipe

def removedEndpoint (pipe : Pipe Filter) (entities : Entities) (endpoint : Endpoint) :
    Except Fault (Pipe Filter) :=
  if isServiceTopic endpoint.topic then
    if endpoint.isServerEndpoint then
      pipe.onService endpoint.topic fun service =>
        .ok (pipe.removedService service endpoint.discovererParticipantId endpoint.guid.guidPrefix)
    else .ok pipe
  else if configuration.removeUnusedEntities &&
      isEndpointRelevant configuration entities endpoint then
    match pipe.bridges[endpoint.topic.topicUniqueName]? with
    | none => .ok pipe
    | some bridge =>
        if endpoint.discovererParticipantId != defaultParticipantId then
          .ok { pipe with
            bridges := pipe.bridges.insert endpoint.topic.topicUniqueName
              (bridge.removeWriter endpoint.discovererParticipantId) }
        else .ok pipe
  else .ok pipe

/-- Updates of endpoints on service topics go nowhere. -/
def updatedEndpoint (pipe : Pipe Filter) (entities : Entities) (endpoint : Endpoint) :
    Except Fault (Pipe Filter) :=
  if isServiceTopic endpoint.topic then .ok pipe
  else if endpoint.active then
    pipe.discoveredEndpoint configuration environment entities endpoint
  else pipe.removedEndpoint configuration entities endpoint

/-- The callback that the pipe registered for a notification. -/
def notified (pipe : Pipe Filter) (entities : Entities) : Notification → Except Fault (Pipe Filter)
  | .discovered endpoint => pipe.discoveredEndpoint configuration environment entities endpoint
  | .updated endpoint => pipe.updatedEndpoint configuration environment entities endpoint
  | .erased endpoint => pipe.removedEndpoint configuration entities endpoint

/-! ### Construction -/

/-- `init_allowed_topics_`, on the members as they are initialised. -/
def initAllowedTopics : Pipe Filter where
  allowedTopics := .create configuration.allowlist configuration.blocklist

/-- One round of `init_bridges_nts_`. -/
def initBridge (pipe : Pipe Filter) (entry : String × DdsTopic) : Except Fault (Pipe Filter) := do
  let pipe ← pipe.discoveredTopic configuration environment entry.2
  pipe.createNewBridge configuration environment entry.2 false

/-- The constructor: the text of a `ConfigurationException`, or the pipe. -/
def construct : Except Fault (Except String (Pipe Filter)) :=
  match configuration.isValid environment.participants.getParticipantsRepeaterMap with
  | .error message => .ok (.error ("Configuration for DDS Pipe is invalid: " ++ message))
  | .ok _ => do
      let pipe ← configuration.builtinTopics.topics.toList.foldlM
        (initBridge configuration environment) (initAllowedTopics configuration)
      if configuration.initEnabled then
        let (_, pipe) ← pipe.enable configuration environment
        return .ok pipe
      else return .ok pipe

end Pipe

/-! ### Runs -/

/-- A call on the pipe. A notification comes with what the discovery database
holds when the pipe looks into it. -/
inductive Call (Filter : Type) where
  | enable
  | disable
  | reloadConfiguration (newConfiguration : DdsPipeConfiguration Filter)
  | notified (entities : Entities) (notification : Notification)

/-- A call, and which of the entities that it asks for cannot be created. -/
structure Label (Filter : Type) where
  call : Call Filter
  createThrows : CreateThrows := neverThrows

section

variable {Filter : Type} [IFilterTopic Filter] (configuration : DdsPipeConfiguration Filter)
  (participants : ParticipantsDatabase)

def Pipe.perform (environment : Environment) (pipe : Pipe Filter) :
    Call Filter → Except Fault (Pipe Filter)
  | .enable => (pipe.enable configuration environment).map Prod.snd
  | .disable => .ok pipe.disable.2
  | .reloadConfiguration newConfiguration =>
      (pipe.reloadConfiguration configuration environment newConfiguration).map Prod.snd
  | .notified entities notification =>
      pipe.notified configuration environment entities notification

/-- The runs of a pipe with a configuration among some participants, which during
its construction behave as `Behaves` says. A call that ends in a fault ends the
process, and with it the run. -/
def pipeSystem (Behaves : CreateThrows → Prop) :
    TransitionSystem.System (Pipe Filter) (Label Filter) where
  Initial pipe := ∃ createThrows, Behaves createThrows ∧
    Pipe.construct configuration ⟨participants, createThrows⟩ = .ok (.ok pipe)
  step pipe label :=
    (pipe.perform configuration ⟨participants, label.createThrows⟩ label.call).toOption

end

/-! ### A pipe between two participants -/

/-- Patterns without wildcards, but for the one that matches everything. -/
@[reducible] def literalUtils : CppUtils where
  matchPattern pattern text := pattern == "*" || pattern == text
  fuzzyToString value := value.getD ""

def twoParticipants : ParticipantsDatabase :=
  TreeMap.ofList [("a", IParticipant.mk false true), ("b", IParticipant.mk false true)]

/-- A reader of `chatter` that participant `a` discovers. -/
def chatterReader : Endpoint where
  kind := .reader
  guid := ⟨1, 7⟩
  topic := { topicName := "chatter", typeName := "String", topicDiscoverer := "a" }
  discovererParticipantId := "a"

/-- The endpoint of a server of `add` that reads its requests, which participant
`a` discovers. -/
def addServer : Endpoint where
  kind := .reader
  guid := ⟨2, 4⟩
  topic := { topicName := "rq/addRequest", typeName := "Add_Request_", topicDiscoverer := "a" }
  discovererParticipantId := "a"

/-- The default configuration: nothing is filtered or routed, and the pipe starts
disabled. -/
def defaultConfiguration : DdsPipeConfiguration WildcardDdsFilterTopic := {}

/-- The notification of an endpoint that is the only one in the database. -/
def discoveredAlone {Filter : Type} (endpoint : Endpoint) : Call Filter :=
  .notified ((∅ : Entities).insert endpoint.guid endpoint) (.discovered endpoint)

end DdsPipe.Core
