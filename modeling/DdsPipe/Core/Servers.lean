import DdsPipe.Core.Discovery
import DdsPipe.Participants.CommonParticipant

/-!
Owns what the bridges of services know of the servers, against what the
discovery database holds of them. A participant reports a server that went away
as an update, which the pipe does not pass on for service topics, so that the
bridge keeps the server (`not_knowsServers_of_reachable`).

A bridge knows exactly the servers that are alive in the runs in which no
operation that the pipe does not hear of changes them (`knowsServers_of_reachable`).
-/

namespace DdsPipe.Core

open Std (TreeMap TreeSet)
open DdsPipe.Types DdsPipe.Dynamic DdsPipe.Configuration DdsPipe.Communication
open DdsPipe.Participants

/-- A server of a service, as the participant that discovers it tells it apart. -/
structure Server where
  serviceName : String
  participantId : ParticipantId
  guidPrefix : GuidPrefix
deriving DecidableEq, Repr

section

variable {Filter : Type}

/-- The server that an endpoint makes known, when the endpoint is alive and of a
kind that the configuration looks for. -/
def serverOf (configuration : DdsPipeConfiguration Filter) (endpoint : Endpoint) : Option Server :=
  if endpoint.active && Pipe.isEndpointKindRelevant configuration endpoint &&
      endpoint.isServerEndpoint then
    (rpcTopicOf endpoint.topic).map fun service =>
      ⟨service.serviceName, endpoint.discovererParticipantId, endpoint.guid.guidPrefix⟩
  else none

/-- The database holds an endpoint that makes the server known. -/
def Alive (configuration : DdsPipeConfiguration Filter) (entities : Entities) (server : Server) :
    Prop :=
  ∃ (guid : Guid) (endpoint : Endpoint), entities[guid]? = some endpoint ∧
    serverOf configuration endpoint = some server

/-- The servers that a pipe knows. -/
def Pipe.Knows (pipe : Pipe Filter) (server : Server) : Prop :=
  ∃ bridge, pipe.rpcBridges[server.serviceName]? = some bridge ∧
    server.guidPrefix ∈ bridge.serversOf server.participantId

/-- Every bridge knows exactly the servers of its service that are alive. -/
def KnowsServers (configuration : DdsPipeConfiguration Filter) (state : Discovery Filter) : Prop :=
  ∀ (name : String) bridge, state.pipe.rpcBridges[name]? = some bridge →
    ∀ participantId guidPrefix, guidPrefix ∈ bridge.serversOf participantId ↔
      Alive configuration state.entities ⟨name, participantId, guidPrefix⟩

/-- The user enables or disables the pipe, or a participant reports an endpoint. -/
def FromParticipants (_ : Discovery Filter) (event : Event Filter) : Prop :=
  match event.action with
  | .enable => True
  | .disable => True
  | .reloadConfiguration _ => False
  | .database item => ∃ participant : CommonParticipant, participant.Emits item

/-- An update, and an addition over an inactive endpoint, leaves the servers that
are alive as they are. -/
def KeepsServers (configuration : DdsPipeConfiguration Filter) (state : Discovery Filter)
    (event : Event Filter) : Prop :=
  ∀ item, event.action = .database item → ∀ stored, state.entities[item.2.guid]? = some stored →
    item.1 = .update ∨ item.1 = .add ∧ stored.active = false →
      ∀ server, Alive configuration (state.entities.insert item.2.guid item.2) server ↔
        Alive configuration state.entities server

/-! ### The database -/

variable {configuration : DdsPipeConfiguration Filter} {entities other : Entities}
  {endpoint : Endpoint}

theorem alive_congr (same : ∀ guid : Guid, other[guid]? = entities[guid]?) (server : Server) :
    Alive configuration other server ↔ Alive configuration entities server := by
  simp only [Alive, same]

/-- A new endpoint makes its own server known, and no other. -/
theorem alive_insert (new : entities[endpoint.guid]? = none) (server : Server) :
    Alive configuration (entities.insert endpoint.guid endpoint) server ↔
      Alive configuration entities server ∨ serverOf configuration endpoint = some server := by
  unfold Alive
  constructor
  · rintro ⟨guid, stored, found, makes⟩
    rw [getElem?_insert_guid] at found
    split at found
    · cases found
      exact .inr makes
    · exact .inl ⟨guid, stored, found, makes⟩
  · rintro (⟨guid, stored, found, makes⟩ | makes)
    · refine ⟨guid, stored, ?_, makes⟩
      rw [getElem?_insert_guid, if_neg, found]
      rintro rfl
      rw [new] at found
      cases found
    · exact ⟨endpoint.guid, endpoint, by rw [getElem?_insert_guid, if_pos rfl], makes⟩

/-! ### The slot of a service -/

/-- The servers that the bridge of a slot knows in a participant. -/
def ServiceSlot.Knows (slot : ServiceSlot) (participantId : ParticipantId)
    (guidPrefix : GuidPrefix) : Prop :=
  ∃ bridge, slot.bridge = some bridge ∧ guidPrefix ∈ bridge.serversOf participantId

section Slot

variable {environment : Environment} {slot after : ServiceSlot} {participantId : ParticipantId}
  {guidPrefix : GuidPrefix}

/-- A call that keeps the servers of its bridge keeps those of the slot. -/
theorem knows_onRpcBridge {call : RpcBridge → Except Fault RpcBridge}
    (keeps : ∀ bridge called, call bridge = .ok called →
      ∀ id, called.serversOf id = bridge.serversOf id)
    (changed : slot.onRpcBridge call = .ok after) :
    after.Knows participantId guidPrefix ↔ slot.Knows participantId guidPrefix := by
  obtain ⟨bridge, called, found, done, rfl⟩ := onRpcBridge_cases changed
  simp only [ServiceSlot.Knows, found, Option.some.injEq, exists_eq_left',
    keeps bridge called done]

theorem knows_enable (changed : slot.enable environment = .ok after) :
    after.Knows participantId guidPrefix ↔ slot.Knows participantId guidPrefix := by
  unfold ServiceSlot.enable at changed
  split at changed
  · split at changed
    · exact knows_onRpcBridge (fun _ _ done => (RpcBridge.enable_keeps done).2.1) changed
    · cases changed
      exact Iff.rfl
  · cases changed
    exact Iff.rfl

theorem knows_createNew [IFilterTopic Filter] (list : AllowedTopicList Filter)
    (service : RpcTopic) :
    (slot.createNew list service).Knows participantId guidPrefix ↔
      slot.Knows participantId guidPrefix := by
  unfold ServiceSlot.createNew
  split
  · exact Iff.rfl
  · next absent => simp [ServiceSlot.Knows, ServiceSlot.setAllowed, absent, RpcBridge.serversOf]

/-- **A discovered server** becomes known, and no other. -/
theorem knows_discovered [IFilterTopic Filter] {enabled : Bool} {list : AllowedTopicList Filter}
    {service : RpcTopic} {serverId : ParticipantId} {serverPrefix : GuidPrefix}
    (changed : slot.discovered environment enabled list service serverId serverPrefix = .ok after) :
    after.Knows participantId guidPrefix ↔ slot.Knows participantId guidPrefix ∨
      participantId = serverId ∧ guidPrefix = serverPrefix := by
  obtain ⟨middle, discovered, continued⟩ := OrderedMap.bind_eq_ok_iff.mp changed
  have last : after.Knows participantId guidPrefix ↔
      middle.Knows participantId guidPrefix := by
    split at continued
    · exact knows_onRpcBridge (fun _ _ done => (RpcBridge.enable_keeps done).2.1) continued
    · cases continued
      exact Iff.rfl
  have created : (slot.createNew list service).Knows participantId guidPrefix ↔
      slot.Knows participantId guidPrefix := knows_createNew list service
  obtain ⟨bridge, called, found, done, rfl⟩ := onRpcBridge_cases discovered
  rw [last, ← created]
  simp only [ServiceSlot.Knows, found, Option.some.injEq, exists_eq_left',
    (RpcBridge.discoveredService_keeps done).2.2.1]

end Slot

/-! ### One call -/

section Calls

variable [IFilterTopic Filter] {environment : Environment} {pipe next : Pipe Filter}

omit [IFilterTopic Filter] in
theorem knows_iff_serviceSlot (server : Server) :
    pipe.Knows server ↔
      (pipe.serviceSlot server.serviceName).Knows server.participantId server.guidPrefix :=
  Iff.rfl

theorem knows_enablePipe (keyed : pipe.WellKeyed)
    (succeeded : pipe.perform configuration environment .enable = .ok next) (server : Server) :
    next.Knows server ↔ pipe.Knows server := by
  obtain ⟨⟨code, after⟩, enabled, rfl⟩ := OrderedMap.map_eq_ok_iff.mp succeeded
  rcases enable_cases keyed enabled with ⟨_, rfl⟩ | ⟨_, _, _, _, services⟩
  · exact Iff.rfl
  · exact knows_enable (services server.serviceName)

theorem knows_disablePipe (keyed : pipe.WellKeyed)
    (succeeded : pipe.perform configuration environment .disable = .ok next) (server : Server) :
    next.Knows server ↔ pipe.Knows server := by
  cases succeeded
  rcases disable_cases keyed with ⟨_, unchanged⟩ | ⟨_, _, _, _, services⟩
  · rw [unchanged]
  · rw [knows_iff_serviceSlot, services, ← knows_iff_serviceSlot]

/-- The pipe does not hear of an update on a service topic, and not of a server on
any other topic. -/
theorem knows_updated {endpoint : Endpoint}
    (succeeded : pipe.notified configuration environment entities (.updated endpoint) =
      .ok next) (server : Server) : next.Knows server ↔ pipe.Knows server := by
  cases service : isServiceTopic endpoint.topic with
  | true =>
      simp only [Pipe.notified, Pipe.updatedEndpoint, service, if_true] at succeeded
      cases succeeded
      exact Iff.rfl
  | false =>
      have same := (onTopic_notified (by exact service) succeeded).services
      rw [knows_iff_serviceSlot, same.serviceSlot, ← knows_iff_serviceSlot]

/-- **A discovered endpoint** makes its server known, when it is alive. -/
theorem knows_discoveredEndpoint {endpoint : Endpoint} (active : endpoint.active = true)
    (succeeded : pipe.notified configuration environment entities (.discovered endpoint) =
      .ok next) (server : Server) :
    next.Knows server ↔ pipe.Knows server ∨ serverOf configuration endpoint = some server := by
  cases isService : isServiceTopic endpoint.topic with
  | false =>
      have same := (onTopic_notified (by exact isService) succeeded).services
      have none : serverOf configuration endpoint = none := by
        unfold serverOf
        rw [if_neg]
        intro alive
        rw [Bool.and_eq_true] at alive
        rw [Endpoint.isServiceTopic_of_isServerEndpoint alive.2] at isService
        cases isService
      rw [knows_iff_serviceSlot, same.serviceSlot, ← knows_iff_serviceSlot, none]
      simp
  | true =>
      rw [← isSome_rpcTopicOf, Option.isSome_iff_exists] at isService
      obtain ⟨service, ofService⟩ := isService
      obtain ⟨_, changed, others⟩ :=
        onService_notified (by exact ofService) succeeded
      simp only [ServiceSlot.notified] at changed
      rw [knows_iff_serviceSlot, knows_iff_serviceSlot]
      unfold serverOf
      rw [active, Bool.true_and, ofService]
      split at changed
      · next relevant =>
          rw [if_pos relevant, Option.map_some, Option.some.injEq]
          by_cases affected : server.serviceName = service.serviceName
          · rw [affected, knows_discovered changed]
            refine or_congr Iff.rfl ?_
            constructor
            · rintro ⟨sameId, samePrefix⟩
              rw [← affected, ← sameId, ← samePrefix]
            · rintro rfl
              exact ⟨rfl, rfl⟩
          · rw [others _ affected, iff_self_or]
            rintro rfl
            exact absurd rfl affected
      · next irrelevant =>
          rw [if_neg irrelevant]
          by_cases affected : server.serviceName = service.serviceName
          · rw [affected, Except.ok.inj changed]
            simp
          · rw [others _ affected]
            simp

end Calls

end

/-! ### Runs -/

section Runs

open TransitionSystem

variable {Filter : Type} [IFilterTopic Filter] {configuration : DdsPipeConfiguration Filter}
  {participants : ParticipantsDatabase} {state next : Discovery Filter}

/-- The pipe knows exactly the servers that are alive. -/
structure Discovery.Agrees (configuration : DdsPipeConfiguration Filter)
    (state : Discovery Filter) : Prop where
  keyed : state.pipe.WellKeyed
  knows : ∀ server, state.pipe.Knows server ↔ Alive configuration state.entities server

theorem agrees_initial (initial : (discoverySystem configuration participants).Initial state) :
    state.Agrees configuration := by
  obtain ⟨empty, createThrows, constructed⟩ := initial
  refine ⟨wellKeyed_construct constructed, fun server => iff_of_false ?_ ?_⟩
  · obtain ⟨middle, _, keyed, _, services, _, last⟩ := construct_cases constructed
    have nothing : ¬ middle.Knows server := by
      rw [knows_iff_serviceSlot, services]
      simp [ServiceSlot.Knows]
    rcases last with ⟨_, same⟩ | ⟨_, enabled⟩
    · rw [same]
      exact nothing
    · rwa [knows_enablePipe keyed enabled]
  · simp [Alive, empty]

/-- **An operation of the database** changes the servers that are alive and those
that the pipe knows alike, unless the pipe does not hear of it. -/
theorem knows_database {createThrows : CreateThrows} {participant : CommonParticipant}
    {item : DatabaseOperation × Endpoint} (emits : participant.Emits item)
    (keeps : KeepsServers configuration state ⟨.database item, createThrows⟩)
    (agrees : state.Agrees configuration)
    (succeeded : state.perform configuration ⟨participants, createThrows⟩ (.database item) =
      .ok next) (server : Server) :
    next.pipe.Knows server ↔ Alive configuration next.entities server := by
  obtain ⟨_, _, reported⟩ := CommonParticipant.emits_cases emits
  obtain ⟨operation, endpoint⟩ := item
  obtain ⟨_, cases⟩ := databasePerform_cases succeeded
  rcases cases with ⟨same, unchanged⟩ | ⟨adds, ⟨stored, found, inactive⟩, map, unchanged⟩ |
    ⟨fresh, map, told, notified⟩
  · rw [unchanged, alive_congr same, agrees.knows]
  · rw [unchanged, map, agrees.knows]
    exact (keeps _ rfl stored found (.inr ⟨adds, inactive⟩) server).symm
  · rw [map]
    rcases reported with ⟨rfl, active⟩ | rfl
    · rw [knows_discoveredEndpoint active notified, agrees.knows]
      exact (alive_insert (fresh rfl) server).symm
    · rw [knows_updated notified, agrees.knows]
      cases found : state.entities[endpoint.guid]? with
      | none => simp [processItem, updateEndpoint, found, Processed.notifications] at told
      | some stored => exact (keeps _ rfl stored found (.inl rfl) server).symm

/-- **A bridge knows exactly the servers that are alive** in the runs whose updates
and repeated discoveries change none of them, whatever cannot be created on the
way. -/
theorem knowsServers_of_reachable
    (reached : (discoverySystem configuration participants).Reachable
      (fun state event => FromParticipants state event ∧ KeepsServers configuration state event)
      state) : KnowsServers configuration state := by
  have initially : ∀ start, (discoverySystem configuration participants).Initial start →
      start.Agrees configuration := fun _ => agrees_initial
  have kept : ∀ before event after, before.Agrees configuration →
      FromParticipants before event ∧ KeepsServers configuration before event →
      (discoverySystem configuration participants).step before event = some after →
      after.Agrees configuration := by
    rintro before ⟨action, createThrows⟩ after agrees ⟨reported, keeps⟩ taken
    have succeeded := discoveryStep_eq_some_iff.mp taken
    refine ⟨wellKeyed_discoveryPerform agrees.keyed succeeded, fun server => ?_⟩
    cases action with
    | enable =>
        obtain ⟨map, ⟨other, _⟩ | ⟨call, only, performed⟩⟩ := discoveryPerform_cases succeeded
        · cases other
        · cases only
          rw [map, knows_enablePipe agrees.keyed performed]
          exact agrees.knows server
    | disable =>
        obtain ⟨map, ⟨other, _⟩ | ⟨call, only, performed⟩⟩ := discoveryPerform_cases succeeded
        · cases other
        · cases only
          rw [map, knows_disablePipe agrees.keyed performed]
          exact agrees.knows server
    | reloadConfiguration newConfiguration => exact reported.elim
    | database item =>
        obtain ⟨participant, emits⟩ := reported
        exact knows_database emits keeps agrees succeeded server
  intro name bridge found participantId guidPrefix
  have knows := (reached.invariant initially kept).knows ⟨name, participantId, guidPrefix⟩
  rw [← knows]
  simp only [Pipe.Knows, found, Option.some.injEq, exists_eq_left']

/-! ### A server between two participants -/

def participantA : CommonParticipant := { id := "a", guidPrefix := 0 }

/-- The report of the endpoint of `addServer`. -/
def addServerInfo (status : DiscoveryStatus) : DiscoveryInfo where
  status := status
  guid := addServer.guid
  topicName := addServer.topic.topicName
  typeName := addServer.topic.typeName

/-- The event that a report of a reader to participant `a` leads to. -/
def readerReport {Filter : Type} (info : DiscoveryInfo) : Event Filter where
  action := match participantA.onReaderDiscovery info with
    | some item => .database item
    | none => .enable

omit [IFilterTopic Filter] in
theorem fromParticipants_readerReport (info : DiscoveryInfo) (state : Discovery Filter) :
    FromParticipants state (readerReport info) := by
  unfold FromParticipants readerReport
  cases reported : participantA.onReaderDiscovery info with
  | none => trivial
  | some item => exact ⟨participantA, info, .inl reported⟩

/-- Updates and repeated discoveries that make the same server known as before, as
a test. -/
def keepsServers (configuration : DdsPipeConfiguration Filter) (state : Discovery Filter)
    (event : Event Filter) : Bool :=
  match event.action with
  | .database item =>
      match state.entities[item.2.guid]? with
      | some stored => serverOf configuration stored == serverOf configuration item.2
      | none => true
  | _ => true

omit [IFilterTopic Filter] in
theorem keepsServers_sound {event : Event Filter}
    (passed : keepsServers configuration state event = true) :
    KeepsServers configuration state event := by
  intro item database stored found _ server
  simp only [keepsServers, database, found, beq_iff_eq] at passed
  have same : ∀ guid : Guid,
      ((state.entities.insert item.2.guid item.2)[guid]?).map (serverOf configuration) =
        (state.entities[guid]?).map (serverOf configuration) := by
    intro guid
    rw [getElem?_insert_guid]
    split
    · next here => rw [← here, found, Option.map_some, Option.map_some, passed]
    · rfl
  have mapped : ∀ entities : Entities, Alive configuration entities server ↔
      ∃ guid : Guid, (entities[guid]?).map (serverOf configuration) = some (some server) := by
    intro entities
    simp only [Alive, Option.map_eq_some_iff]
  rw [mapped, mapped]
  simp only [same]

/-- The run that enables the pipe, discovers a server and changes its quality of
service. -/
theorem knowsServers_of_reachable_add :
    letI := literalUtils
    ∃ state : Discovery WildcardDdsFilterTopic,
      state.pipe.rpcBridges.contains "add" = true ∧ KnowsServers defaultConfiguration state := by
  let := literalUtils
  have admitted : ∀ (state : Discovery WildcardDdsFilterTopic) event,
      event ∈ [{ action := .enable }, readerReport (addServerInfo .discovered),
        readerReport { addServerInfo .changedQos with partitions := ["left"] }] →
      keepsServers defaultConfiguration state event = true →
      FromParticipants state event ∧ KeepsServers defaultConfiguration state event := by
    intro state event member passed
    refine ⟨?_, keepsServers_sound passed⟩
    simp only [List.mem_cons, List.not_mem_nil, or_false] at member
    rcases member with rfl | rfl | rfl
    · trivial
    · exact fromParticipants_readerReport _ state
    · exact fromParticipants_readerReport _ state
  obtain ⟨state, reached, test⟩ := System.exists_reachable_of_runAdmitted
    (discoverySystem defaultConfiguration twoParticipants)
    { pipe := Pipe.initAllowedTopics defaultConfiguration }
    [{ action := .enable }, readerReport (addServerInfo .discovered),
      readerReport { addServerInfo .changedQos with partitions := ["left"] }]
    (keepsServers defaultConfiguration)
    (fun state => state.pipe.rpcBridges.contains "add")
    admitted ⟨rfl, neverThrows, rfl⟩ (by decide +kernel)
  exact ⟨state, test, knowsServers_of_reachable reached⟩

/-- A server is discovered and removed: the bridge still knows it. -/
theorem not_knowsServers_of_reachable :
    letI := literalUtils
    ¬ ∀ state : Discovery WildcardDdsFilterTopic,
      (discoverySystem defaultConfiguration twoParticipants).Reachable FromParticipants state →
        KnowsServers defaultConfiguration state := by
  let := literalUtils
  intro knows
  obtain ⟨state, reached, test⟩ := System.exists_reachable_of_run
    (discoverySystem defaultConfiguration twoParticipants)
    { pipe := Pipe.initAllowedTopics defaultConfiguration }
    [readerReport (addServerInfo .discovered), readerReport (addServerInfo .removed)]
    (fun state => (state.pipe.rpcBridges["add"]?.any fun bridge =>
        (bridge.serversOf "a").contains 2) &&
      state.entities.toList.all fun entry => !entry.2.active)
    (by
      intro event member state
      simp only [List.mem_cons, List.not_mem_nil, or_false] at member
      rcases member with rfl | rfl
      · exact fromParticipants_readerReport _ state
      · exact fromParticipants_readerReport _ state)
    ⟨rfl, neverThrows, rfl⟩ (by decide +kernel)
  rw [Bool.and_eq_true, Option.any_eq_true, List.all_eq_true] at test
  obtain ⟨⟨bridge, found, known⟩, inactive⟩ := test
  obtain ⟨guid, endpoint, stored, makes⟩ :=
    (knows state reached "add" bridge found "a" 2).mp (TreeSet.mem_iff_contains.mpr known)
  have dead := inactive (guid, endpoint) (TreeMap.mem_toList_iff_getElem?_eq_some.mpr stored)
  rw [Bool.not_eq_true'] at dead
  unfold serverOf at makes
  rw [dead] at makes
  cases makes

end Runs

end DdsPipe.Core
