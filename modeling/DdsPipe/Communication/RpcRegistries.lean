import DdsPipe.Communication.RpcTransmission
import DdsPipe.Library.TransitionSystem

/-!
Owns the runs of one service bridge: servers that come and go, enabling and
disabling, and the samples that are transmitted; and what the maps of the bridge
hold along them.

A server that is discovered by a participant without proxies makes an
initialised bridge dereference a null registry; in all other runs every lookup
finds its entity. A registry stays enabled when the last server of its
participant is removed while the bridge is initialised; in all other runs the
registries follow the servers.

Does not own: transmissions that run at the same time.
-/

namespace DdsPipe.Communication

open Std (TreeMap TreeSet)
open DdsPipe.Types DdsPipe.Configuration

/-! ### Runs -/

/-- A data callback looks nothing up by participant, and is no action here. -/
inductive RpcAction where
  | enable
  | disable
  | discoveredService (serverParticipantId : ParticipantId) (serverGuidPrefix : GuidPrefix)
  | removedService (serverParticipantId : ParticipantId) (serverGuidPrefix : GuidPrefix)
  /-- A sample of the request reader of a participant is transmitted. -/
  | transmitRequest (readerId : ParticipantId) (data : RpcPayloadData) (writers : Writers)
  /-- A sample of the reply reader of a participant is transmitted. -/
  | transmitReply (readerId : ParticipantId) (data : RpcPayloadData) (writers : Writers)

/-- An action, and which entities cannot be created meanwhile. -/
structure RpcEvent where
  action : RpcAction
  createThrows : CreateThrows := neverThrows

/-- `fill_received_data_`: a sample names the participant of its reader. -/
def RpcPayloadData.receivedBy (data : RpcPayloadData) (readerId : ParticipantId) :
    RpcPayloadData :=
  { data with participantReceiver := readerId }

namespace RpcBridge

/-- A transmission ends at once when the bridge is disabled. -/
def perform (environment : Environment) (bridge : RpcBridge) :
    RpcAction → Except Fault RpcBridge
  | .enable => bridge.enable environment
  | .disable => .ok bridge.disable
  | .discoveredService serverParticipantId serverGuidPrefix =>
      bridge.discoveredService serverParticipantId serverGuidPrefix
  | .removedService serverParticipantId serverGuidPrefix =>
      .ok (bridge.removedService serverParticipantId serverGuidPrefix)
  | .transmitRequest readerId data writers =>
      if bridge.enabled && bridge.requestReaders.contains readerId then
        (bridge.transmitRequest environment writers (data.receivedBy readerId)).map
          Forwarding.bridge
      else .ok bridge
  | .transmitReply readerId data writers =>
      if bridge.enabled && bridge.replyReaders.contains readerId then
        (transmitReply writers bridge readerId (data.receivedBy readerId)).map Forwarding.bridge
      else .ok bridge

end RpcBridge

open TransitionSystem

/-- The runs of the bridge of one service. A fault ends them. -/
def rpcSystem (rpcTopic : RpcTopic) (participants : ParticipantsDatabase) :
    System (Except Fault RpcBridge) RpcEvent where
  Initial state := state = .ok { rpcTopic := rpcTopic }
  step
    | .ok bridge, event =>
        some (bridge.perform { participants, createThrows := event.createThrows } event.action)
    | .error _, _ => none

/-! ### What the maps hold -/

/-- The participants in which the bridge creates proxies. -/
def IsRtps (participants : ParticipantsDatabase) (id : ParticipantId) : Prop :=
  ∃ participant, participants[id]? = some participant ∧ participant.isRtpsKind = true

theorem mem_getRtpsParticipantsIds {participants : ParticipantsDatabase} {id : ParticipantId} :
    id ∈ participants.getRtpsParticipantsIds ↔ IsRtps participants id := by
  rw [ParticipantsDatabase.getRtpsParticipantsIds, TreeMap.mem_keys,
    OrderedMap.mem_iff_exists_getElem?]
  simp only [TreeMap.getElem?_filter', Option.filter_eq_some_iff, IsRtps]

namespace RpcBridge

/-- No registry is null, and everything that a map or a registry names is a
participant in which proxies are created. -/
structure Wired (participants : ParticipantsDatabase) (bridge : RpcBridge) : Prop where
  registries : ∀ (id : ParticipantId) (entry : Option ServiceRegistry),
    bridge.serviceRegistries[id]? = some entry → IsRtps participants id ∧ ∃ registry,
      entry = some registry ∧ ∀ (sequenceNumber : SequenceNumber)
        (requester : ParticipantId × SampleIdentity),
        registry.registry[sequenceNumber]? = some requester → IsRtps participants requester.1
  requestReaders : ∀ id, id ∈ bridge.requestReaders → IsRtps participants id
  replyReaders : ∀ id, id ∈ bridge.replyReaders → IsRtps participants id

/-- All proxies of a participant are there. -/
structure HasProxies (bridge : RpcBridge) (id : ParticipantId) : Prop where
  requestReaders : id ∈ bridge.requestReaders
  replyWriters : id ∈ bridge.replyWriters
  replyReaders : id ∈ bridge.replyReaders
  requestWriters : id ∈ bridge.requestWriters
  serviceRegistries : id ∈ bridge.serviceRegistries

/-- The registry of a participant is enabled exactly when it has a server. -/
def RegistryFollows (bridge : RpcBridge) (id : ParticipantId) : Prop :=
  ∃ registry, bridge.serviceRegistries[id]? = some (some registry) ∧
    (registry.enabled = true ↔ ∃ guidPrefix, guidPrefix ∈ bridge.serversOf id)

/-- An initialised bridge has all its proxies, and only such a bridge is enabled. -/
structure Complete (participants : ParticipantsDatabase) (bridge : RpcBridge) : Prop where
  wired : bridge.Wired participants
  proxies : bridge.init = true → ∀ id, IsRtps participants id → bridge.HasProxies id
  initialised : bridge.enabled = true → bridge.init = true

variable {participants : ParticipantsDatabase} {environment : Environment}
  {bridge next : RpcBridge} {id : ParticipantId}

theorem Wired.setRegistry (wired : bridge.Wired participants) (registry : ServiceRegistry)
    (rtps : IsRtps participants id)
    (requesters : ∀ (sequenceNumber : SequenceNumber) (requester : ParticipantId × SampleIdentity),
      registry.registry[sequenceNumber]? = some requester → IsRtps participants requester.1) :
    (bridge.setRegistry id registry).Wired participants := by
  refine ⟨fun other entry found => ?_, wired.requestReaders, wired.replyReaders⟩
  by_cases same : other = id
  · subst same
    rw [RpcBridge.setRegistry, TreeMap.getElem?_insert_self] at found
    exact ⟨rtps, registry, (Option.some.inj found).symm, requesters⟩
  · rw [RpcBridge.setRegistry, OrderedMap.getElem?_insert_of_ne same] at found
    exact wired.registries other entry found

theorem Wired.lookupRegistry (wired : bridge.Wired participants)
    (present : id ∈ bridge.serviceRegistries) :
    ∃ registry, bridge.serviceRegistries[id]? = some (some registry) := by
  obtain ⟨entry, found⟩ := OrderedMap.mem_iff_exists_getElem?.mp present
  obtain ⟨_, registry, rfl, _⟩ := wired.registries id entry found
  exact ⟨registry, found⟩

theorem enableRegistry_of_present (bridge : RpcBridge) (registry : ServiceRegistry)
    (present : bridge.serviceRegistries[id]? = some (some registry)) :
    bridge.enableRegistry id = (bridge.setRegistry id registry.enable, .ok ()) := by
  simp [enableRegistry, present, RpcBridge.setRegistry]

/-! ### The initialisation -/

/-- What a part of the initialisation keeps, whether it throws or not. -/
structure Harmless (participants : ParticipantsDatabase) (bridge : RpcBridge)
    (attempt : Attempt) : Prop where
  wired : bridge.Wired participants → attempt.1.Wired participants
  init : attempt.1.init = bridge.init
  throws : ∀ fault, attempt.2 = .error fault → fault = .initializationException

/-- An entity of a participant that exists can only fail to be created. -/
theorem create_throws (rtps : IsRtps environment.participants id) {kind : EntityKind}
    {topic : DdsTopic} {fault : Fault} (failed : environment.create kind id topic = .error fault) :
    fault = .initializationException := by
  obtain ⟨participant, found, _⟩ := rtps
  have known : environment.getParticipant id = .ok participant := by
    simp [Environment.getParticipant, found]
  unfold Environment.create at failed
  rw [known] at failed
  simp only [bind, Except.bind] at failed
  split at failed
  · cases failed
    rfl
  · cases failed

theorem createProxyClient_harmless (environment : Environment) (bridge : RpcBridge)
    (rtps : IsRtps environment.participants id) :
    Harmless environment.participants bridge (createProxyClient environment bridge id) := by
  unfold createProxyClient
  split
  · next fault failed =>
      refine ⟨fun wired => wired, rfl, fun other same => ?_⟩
      cases same
      exact create_throws rtps failed
  · dsimp only
    split
    · next fault failed =>
        refine ⟨fun wired => { wired with }, rfl, fun other same => ?_⟩
        cases same
        exact create_throws rtps failed
    · refine ⟨fun wired => ?_, rfl, by simp⟩
      have registered := wired.setRegistry {} rtps (by simp)
      refine { registered with replyReaders := fun other member => ?_ }
      rcases OrderedMap.mem_insert_iff.mp member with rfl | before
      · exact rtps
      · exact wired.replyReaders other before

theorem createProxyServer_harmless (environment : Environment) (bridge : RpcBridge)
    (rtps : IsRtps environment.participants id) :
    Harmless environment.participants bridge (createProxyServer environment bridge id) := by
  unfold createProxyServer
  split
  · next fault failed =>
      refine ⟨fun wired => wired, rfl, fun other same => ?_⟩
      cases same
      exact create_throws rtps failed
  · dsimp only
    split
    · next fault failed =>
        refine ⟨fun wired => { wired with }, rfl, fun other same => ?_⟩
        cases same
        exact create_throws rtps failed
    · refine ⟨fun wired => { wired with requestReaders := fun other member => ?_ }, rfl, by simp⟩
      rcases OrderedMap.mem_insert_iff.mp member with rfl | before
      · exact rtps
      · exact wired.requestReaders other before

theorem createProxyClient_ok {done : Unit}
    (created : createProxyClient environment bridge id = (next, .ok done)) :
    next = { bridge with
      requestWriters := bridge.requestWriters.insert id false
      replyReaders := bridge.replyReaders.insert id false
      serviceRegistries := bridge.serviceRegistries.insert id (some {}) } := by
  unfold createProxyClient at created
  split at created
  · cases created
  · dsimp only at created
    split at created
    · cases created
    · cases created
      rfl

theorem createProxyServer_ok {done : Unit}
    (created : createProxyServer environment bridge id = (next, .ok done)) :
    next = { bridge with
      replyWriters := bridge.replyWriters.insert id false
      requestReaders := bridge.requestReaders.insert id false } := by
  unfold createProxyServer at created
  split at created
  · cases created
  · dsimp only at created
    split at created
    · cases created
    · cases created
      rfl

theorem exists_mem_iff_size_pos {servers : TreeSet GuidPrefix} :
    (∃ guidPrefix, guidPrefix ∈ servers) ↔ servers.size > 0 := by
  rw [← TreeSet.isEmpty_eq_false_iff_exists_mem, TreeSet.isEmpty_eq_size_eq_zero,
    beq_eq_false_iff_ne]
  exact Nat.pos_iff_ne_zero.symm

theorem initParticipant_harmless (environment : Environment) (bridge : RpcBridge)
    (rtps : IsRtps environment.participants id) :
    Harmless environment.participants bridge (initParticipant environment bridge id) := by
  have client := createProxyClient_harmless environment bridge rtps
  unfold initParticipant
  split
  · next left fault attempt =>
      rw [attempt] at client
      exact client
  · next middle done attempt =>
      rw [attempt] at client
      have created := createProxyClient_ok attempt
      have server := createProxyServer_harmless environment middle rtps
      split
      · next left fault attempt =>
          rw [attempt] at server
          exact ⟨fun wired => server.wired (client.wired wired), server.init.trans client.init,
            server.throws⟩
      · next left done attempt =>
          rw [attempt] at server
          have registry : (left.setServersOf id (left.serversOf id)).serviceRegistries[id]? =
              some (some {}) := by
            rw [setServersOf, createProxyServer_ok attempt, created]
            exact TreeMap.getElem?_insert_self
          have wires (wired : bridge.Wired environment.participants) :
              (left.setServersOf id (left.serversOf id)).Wired environment.participants :=
            { server.wired (client.wired wired) with }
          dsimp only
          split
          · rw [enableRegistry_of_present _ _ registry]
            exact ⟨fun wired => (wires wired).setRegistry _ rtps (by simp [ServiceRegistry.enable]),
              server.init.trans client.init, by simp⟩
          · exact ⟨wires, server.init.trans client.init, by simp⟩

/-- The registry that a participant is given is enabled when it has a server. -/
theorem initParticipant_registries {done : Unit}
    (started : initParticipant environment bridge id = (next, .ok done)) (other : ParticipantId) :
    next.serviceRegistries[other]? = if other = id then
      some (some { enabled := decide ((bridge.serversOf id).size > 0) })
    else bridge.serviceRegistries[other]? := by
  unfold initParticipant at started
  split at started
  · cases started
  · next middle _ client =>
      split at started
      · cases started
      · next left _ server =>
          have registries : left.serviceRegistries =
              bridge.serviceRegistries.insert id (some {}) := by
            rw [createProxyServer_ok server, createProxyClient_ok client]
          have servers : left.serversOf id = bridge.serversOf id := by
            rw [createProxyServer_ok server, createProxyClient_ok client]
            rfl
          have written : (left.setServersOf id (left.serversOf id)).serversOf id =
              bridge.serversOf id := by
            rw [serversOf_setServersOf, if_pos rfl, servers]
          dsimp only at started
          rw [written] at started
          split at started
          · next some =>
              rw [enableRegistry_of_present _ {} (by
                rw [setServersOf, registries]
                exact TreeMap.getElem?_insert_self)] at started
              cases started
              rw [setRegistry, setServersOf, registries]
              by_cases same : other = id
              · subst same
                rw [TreeMap.getElem?_insert_self, if_pos rfl, decide_eq_true some]
                rfl
              · rw [OrderedMap.getElem?_insert_of_ne same, OrderedMap.getElem?_insert_of_ne same,
                  if_neg same]
          · next none =>
              cases started
              rw [setServersOf, registries]
              by_cases same : other = id
              · subst same
                rw [TreeMap.getElem?_insert_self, if_pos rfl, decide_eq_false none]
              · rw [OrderedMap.getElem?_insert_of_ne same, if_neg same]

theorem initParticipant_proxies {done : Unit}
    (started : initParticipant environment bridge id = (next, .ok done)) :
    next.requestReaders = bridge.requestReaders.insert id false ∧
      next.replyWriters = bridge.replyWriters.insert id false ∧
      next.replyReaders = bridge.replyReaders.insert id false ∧
      next.requestWriters = bridge.requestWriters.insert id false := by
  unfold initParticipant at started
  split at started
  · cases started
  · next middle _ client =>
      split at started
      · cases started
      · next left _ server =>
          have created := createProxyServer_ok server
          rw [createProxyClient_ok client] at created
          dsimp only at started
          split at started
          · next some =>
              rw [enableRegistry_of_present _ {} (by
                rw [setServersOf, created]
                exact TreeMap.getElem?_insert_self)] at started
              cases started
              rw [created]
              exact ⟨rfl, rfl, rfl, rfl⟩
          · cases started
            rw [created]
            exact ⟨rfl, rfl, rfl, rfl⟩

/-- All that one round of the initialisation gives a participant. -/
def Equipped (bridge : RpcBridge) (id : ParticipantId) : Prop :=
  bridge.HasProxies id ∧ bridge.RegistryFollows id

theorem initParticipant_equips {done : Unit}
    (started : initParticipant environment bridge id = (next, .ok done)) :
    next.Equipped id ∧ ∀ other, bridge.Equipped other → next.Equipped other := by
  obtain ⟨requestReaders, replyWriters, replyReaders, requestWriters⟩ :=
    initParticipant_proxies started
  have registries := initParticipant_registries started
  have servers : ∀ other, next.serversOf other = bridge.serversOf other := by
    have kept := (kept_initParticipant environment bridge id).serversOf
    rwa [started] at kept
  have here : next.serviceRegistries[id]? =
      some (some { enabled := decide ((bridge.serversOf id).size > 0) }) := by
    rw [registries, if_pos rfl]
  have equipped : next.Equipped id := by
    refine ⟨⟨?_, ?_, ?_, ?_, OrderedMap.mem_iff_exists_getElem?.mpr ⟨_, here⟩⟩, _, here, ?_⟩
    · rw [requestReaders]
      exact OrderedMap.mem_insert_iff.mpr (.inl rfl)
    · rw [replyWriters]
      exact OrderedMap.mem_insert_iff.mpr (.inl rfl)
    · rw [replyReaders]
      exact OrderedMap.mem_insert_iff.mpr (.inl rfl)
    · rw [requestWriters]
      exact OrderedMap.mem_insert_iff.mpr (.inl rfl)
    · rw [servers, exists_mem_iff_size_pos, decide_eq_true_eq]
  refine ⟨equipped, fun other before => ?_⟩
  by_cases same : other = id
  · rw [same]
    exact equipped
  · have found := registries other
    rw [if_neg same] at found
    refine ⟨⟨?_, ?_, ?_, ?_, ?_⟩, ?_⟩
    · rw [requestReaders]
      exact OrderedMap.mem_insert_iff.mpr (.inr before.1.requestReaders)
    · rw [replyWriters]
      exact OrderedMap.mem_insert_iff.mpr (.inr before.1.replyWriters)
    · rw [replyReaders]
      exact OrderedMap.mem_insert_iff.mpr (.inr before.1.replyReaders)
    · rw [requestWriters]
      exact OrderedMap.mem_insert_iff.mpr (.inr before.1.requestWriters)
    · rw [OrderedMap.mem_iff_exists_getElem?, found, ← OrderedMap.mem_iff_exists_getElem?]
      exact before.1.serviceRegistries
    · obtain ⟨registry, stored, follows⟩ := before.2
      exact ⟨registry, found.trans stored, by rw [servers]; exact follows⟩

theorem initParticipants_harmless (environment : Environment) (bridge : RpcBridge)
    {ids : List ParticipantId} (rtps : ∀ id ∈ ids, IsRtps environment.participants id) :
    Harmless environment.participants bridge (initParticipants environment ids bridge) := by
  induction ids generalizing bridge with
  | nil => exact ⟨fun wired => wired, rfl, by simp [initParticipants]⟩
  | cons id rest inductionHypothesis =>
      have first := initParticipant_harmless environment bridge (rtps id List.mem_cons_self)
      unfold initParticipants
      split
      · next left fault attempt =>
          rw [attempt] at first
          exact first
      · next middle done attempt =>
          rw [attempt] at first
          have remaining := inductionHypothesis middle
            fun other member => rtps other (List.mem_cons_of_mem _ member)
          exact ⟨fun wired => remaining.wired (first.wired wired),
            remaining.init.trans first.init, remaining.throws⟩

theorem initParticipants_equips {ids : List ParticipantId} {done : Unit}
    (started : initParticipants environment ids bridge = (next, .ok done)) :
    (∀ id ∈ ids, next.Equipped id) ∧ ∀ other, bridge.Equipped other → next.Equipped other := by
  induction ids generalizing bridge with
  | nil =>
      cases started
      exact ⟨by simp, fun _ equipped => equipped⟩
  | cons id rest inductionHypothesis =>
      unfold initParticipants at started
      split at started
      · cases started
      · next middle done attempt =>
          obtain ⟨here, kept⟩ := initParticipant_equips attempt
          obtain ⟨later, stays⟩ := inductionHypothesis started
          refine ⟨fun other member => ?_, fun other before => stays other (kept other before)⟩
          rcases List.mem_cons.mp member with rfl | inRest
          · exact stays other here
          · exact later other inRest

theorem initRtps_harmless (environment : Environment) (bridge : RpcBridge) :
    Harmless environment.participants bridge
      (initParticipants environment environment.participants.getRtpsParticipantsIds bridge) :=
  initParticipants_harmless environment bridge fun _ member => mem_getRtpsParticipantsIds.mp member

theorem initNts_error {fault : Fault}
    (failed : initNts environment bridge = (next, .error fault)) :
    (bridge.Wired environment.participants → next.Wired environment.participants) ∧
      next.init = bridge.init ∧ fault = .initializationException := by
  have harmless := initRtps_harmless environment bridge
  unfold initNts at failed
  split at failed
  · next left cause attempt =>
      cases failed
      rw [attempt] at harmless
      exact ⟨harmless.wired, harmless.init, harmless.throws fault rfl⟩
  · cases failed

theorem initNts_ok {done : Unit} (started : initNts environment bridge = (next, .ok done)) :
    (bridge.Wired environment.participants → next.Wired environment.participants) ∧
      next.init = true ∧ ∀ id, IsRtps environment.participants id → next.Equipped id := by
  have harmless := initRtps_harmless environment bridge
  unfold initNts at started
  split at started
  · cases started
  · next left _ attempt =>
      cases started
      rw [attempt] at harmless
      refine ⟨fun wired => { harmless.wired wired with }, rfl, fun id rtps => ?_⟩
      have equipped := (initParticipants_equips attempt).1 id (mem_getRtpsParticipantsIds.mpr rtps)
      exact ⟨{ equipped.1 with }, equipped.2⟩

/-! ### Enabling and disabling -/

theorem wired_setEnabled (wired : bridge.Wired participants) (enabled : Bool) :
    (bridge.setEnabled enabled).Wired participants where
  registries := wired.registries
  requestReaders other member := wired.requestReaders other (TreeMap.mem_map.mp member)
  replyReaders other member := wired.replyReaders other (TreeMap.mem_map.mp member)

theorem hasProxies_setEnabled (proxies : bridge.HasProxies id) (enabled : Bool) :
    (bridge.setEnabled enabled).HasProxies id where
  requestReaders := TreeMap.mem_map.mpr proxies.requestReaders
  replyWriters := TreeMap.mem_map.mpr proxies.replyWriters
  replyReaders := TreeMap.mem_map.mpr proxies.replyReaders
  requestWriters := TreeMap.mem_map.mpr proxies.requestWriters
  serviceRegistries := proxies.serviceRegistries

theorem complete_enable (complete : bridge.Complete environment.participants)
    (succeeded : bridge.enable environment = .ok next) :
    next.Complete environment.participants := by
  unfold enable at succeeded
  split at succeeded
  · next waiting =>
      split at succeeded
      · next initialised =>
          cases succeeded
          exact ⟨wired_setEnabled complete.wired true, fun init id rtps =>
            hasProxies_setEnabled (complete.proxies init id rtps) true, fun _ => initialised⟩
      · next uninitialised =>
          split at succeeded
          · next middle _ attempt =>
              cases succeeded
              obtain ⟨wires, init, equipped⟩ := initNts_ok attempt
              exact ⟨wired_setEnabled (wires complete.wired) true, fun _ id rtps =>
                hasProxies_setEnabled (equipped id rtps).1 true, fun _ => init⟩
          · next middle attempt =>
              cases succeeded
              obtain ⟨wires, init, _⟩ := initNts_error attempt
              have kept := kept_initNts environment bridge
              rw [attempt] at kept
              rw [Bool.and_eq_true, Bool.not_eq_true'] at waiting
              refine ⟨wires complete.wired, fun initialised => ?_, fun running => ?_⟩
              · rw [init] at initialised
                exact absurd initialised uninitialised
              · rw [kept.enabled, waiting.1] at running
                cases running
          · cases succeeded
  · cases succeeded
    exact complete

/-- Enabling catches all that the creation of the proxies throws. -/
theorem enable_ok (environment : Environment) (bridge : RpcBridge) :
    ∃ next, bridge.enable environment = .ok next := by
  unfold enable
  split
  · split
    · exact ⟨_, rfl⟩
    · split
      · exact ⟨_, rfl⟩
      · exact ⟨_, rfl⟩
      · next left fault uncaught attempt =>
          exact absurd (initNts_error attempt).2.2 uncaught
  · exact ⟨_, rfl⟩

theorem complete_disable (complete : bridge.Complete participants) :
    bridge.disable.Complete participants := by
  unfold disable
  split
  · exact ⟨wired_setEnabled complete.wired false, fun init id rtps =>
      hasProxies_setEnabled (complete.proxies init id rtps) false, fun running => by cases running⟩
  · exact complete

/-! ### Servers -/

theorem complete_setServersOf (complete : bridge.Complete participants) (id : ParticipantId)
    (servers : TreeSet GuidPrefix) : (bridge.setServersOf id servers).Complete participants :=
  ⟨{ complete.wired with }, fun init other rtps => { complete.proxies init other rtps with },
    complete.initialised⟩

theorem complete_setRegistry (complete : bridge.Complete participants)
    {registry : ServiceRegistry} (rtps : IsRtps participants id)
    (requesters : ∀ (sequenceNumber : SequenceNumber) (requester : ParticipantId × SampleIdentity),
      registry.registry[sequenceNumber]? = some requester → IsRtps participants requester.1) :
    (bridge.setRegistry id registry).Complete participants :=
  ⟨complete.wired.setRegistry registry rtps requesters, fun init other isRtps =>
    { complete.proxies init other isRtps with
      serviceRegistries := OrderedMap.mem_insert_iff.mpr
        (.inr (complete.proxies init other isRtps).serviceRegistries) },
    complete.initialised⟩

/-- A server that is discovered where the bridge has its proxies is registered. -/
theorem discoveredService_of_rtps (complete : bridge.Complete participants)
    (guidPrefix : GuidPrefix) (rtps : bridge.init = true → IsRtps participants id) :
    ∃ next, bridge.discoveredService id guidPrefix = .ok next ∧ next.Complete participants ∧
      next.init = bridge.init ∧ (bridge.init = true → ∃ registry, registry.enabled = true ∧
        next.serviceRegistries = bridge.serviceRegistries.insert id (some registry)) := by
  have discovered := complete_setServersOf complete id
    ((bridge.serversOf id).insert guidPrefix)
  unfold discoveredService
  dsimp only
  split
  · next init =>
      have proxies := complete.proxies init id (rtps init)
      obtain ⟨registry, found⟩ := complete.wired.lookupRegistry proxies.serviceRegistries
      have enabled := enableRegistry_of_present
        (bridge.setServersOf id ((bridge.serversOf id).insert guidPrefix)) registry found
      rw [enabled]
      obtain ⟨_, _, same, requesters⟩ := complete.wired.registries id _ found
      cases same
      exact ⟨_, rfl, complete_setRegistry discovered (rtps init) requesters, rfl,
        fun _ => ⟨registry.enable, rfl, rfl⟩⟩
  · next uninitialised => exact ⟨_, rfl, discovered, rfl, fun init => absurd init uninitialised⟩

theorem complete_removedService (complete : bridge.Complete participants)
    {guidPrefix : GuidPrefix} : (bridge.removedService id guidPrefix).Complete participants := by
  have removed := complete_setServersOf complete id ((bridge.serversOf id).erase guidPrefix)
  unfold removedService
  dsimp only
  split
  · exact complete_disable removed
  · exact removed

/-! ### Transmission -/

/-- What transmitting a sample keeps, and through which participants it sends. -/
structure Forwards (participants : ParticipantsDatabase) (forwarding next : Forwarding) :
    Prop where
  complete : forwarding.bridge.Complete participants → next.bridge.Complete participants
  enabled : next.bridge.enabled = forwarding.bridge.enabled
  init : next.bridge.init = forwarding.bridge.init
  receiver : next.data.participantReceiver = forwarding.data.participantReceiver
  servers : ∀ id, next.bridge.serversOf id = forwarding.bridge.serversOf id
  follows : ∀ id, forwarding.bridge.RegistryFollows id → next.bridge.RegistryFollows id

theorem Forwards.refl (participants : ParticipantsDatabase) (forwarding : Forwarding) :
    Forwards participants forwarding forwarding :=
  ⟨fun complete => complete, rfl, rfl, rfl, fun _ => rfl, fun _ follows => follows⟩

theorem Forwards.trans {forwarding middle next : Forwarding}
    (first : Forwards participants forwarding middle)
    (second : Forwards participants middle next) : Forwards participants forwarding next where
  complete before := second.complete (first.complete before)
  enabled := second.enabled.trans first.enabled
  init := second.init.trans first.init
  receiver := second.receiver.trans first.receiver
  servers id := (second.servers id).trans (first.servers id)
  follows id before := second.follows id (first.follows id before)

/-- A change of the entries of a registry leaves it as enabled as it was. -/
theorem registryFollows_setRegistry {registry changed : ServiceRegistry}
    (found : bridge.serviceRegistries[id]? = some (some registry))
    (enabled : changed.enabled = registry.enabled) (other : ParticipantId)
    (follows : bridge.RegistryFollows other) :
    (bridge.setRegistry id changed).RegistryFollows other := by
  obtain ⟨stored, there, servers⟩ := follows
  by_cases same : other = id
  · subst same
    rw [found] at there
    cases there
    exact ⟨changed, TreeMap.getElem?_insert_self, by rw [enabled]; exact servers⟩
  · exact ⟨stored, by rw [setRegistry, OrderedMap.getElem?_insert_of_ne same, there], servers⟩

theorem lookup_of_mem {entities : TreeMap ParticipantId Bool} (present : id ∈ entities) :
    ∃ entity, lookup entities id = .ok entity := by
  obtain ⟨entity, found⟩ := OrderedMap.mem_iff_exists_getElem?.mp present
  exact ⟨entity, by simp [lookup, found]⟩

theorem skipsRegistry_of_rtps (rtps : IsRtps environment.participants id)
    (receiver : ParticipantId) (registry : ServiceRegistry) :
    ∃ skips, skipsRegistry environment receiver id registry = .ok skips ∧
      (skips = false → registry.enabled = true) := by
  obtain ⟨participant, found, _⟩ := rtps
  unfold skipsRegistry
  split
  · have known : environment.getParticipant id = .ok participant := by
      simp [Environment.getParticipant, found]
    rw [known]
    exact ⟨_, rfl, by simp⟩
  · exact ⟨_, rfl, by simp⟩

/-- The participant has proxies and, if its registry follows the servers, a server. -/
def ReachesServer (participants : ParticipantsDatabase) (bridge : RpcBridge)
    (id : ParticipantId) : Prop :=
  IsRtps participants id ∧
    (bridge.RegistryFollows id → ∃ guidPrefix, guidPrefix ∈ bridge.serversOf id)

/-- **One round of a request** finds all that it looks up, and writes only where
the registry is enabled. -/
theorem forwardRequest_forwards {writers : Writers} {identity : SampleIdentity}
    {forwarding : Forwarding} (complete : forwarding.bridge.Complete environment.participants)
    (init : forwarding.bridge.init = true) (rtps : IsRtps environment.participants id)
    (receiver : IsRtps environment.participants forwarding.data.participantReceiver) :
    ∃ next, forwardRequest environment writers identity forwarding id = .ok next ∧
      Forwards environment.participants forwarding next ∧
      ∀ entry ∈ next.written, entry ∈ forwarding.written ∨
        forwarding.bridge.ReachesServer environment.participants entry.1 := by
  have proxies := complete.proxies init id rtps
  obtain ⟨registry, found⟩ := complete.wired.lookupRegistry proxies.serviceRegistries
  obtain ⟨_, _, same, requesters⟩ := complete.wired.registries id _ found
  cases same
  have looked : forwarding.bridge.lookupRegistry id = .ok registry := by
    simp [RpcBridge.lookupRegistry, found]
  obtain ⟨skips, skipped, enabled⟩ :=
    skipsRegistry_of_rtps rtps forwarding.data.participantReceiver registry
  obtain ⟨_, reader⟩ := lookup_of_mem proxies.replyReaders
  obtain ⟨_, writer⟩ := lookup_of_mem proxies.requestWriters
  unfold forwardRequest
  rw [looked]
  simp only [bind, Except.bind, skipped, reader, writer]
  cases skips with
  | true => exact ⟨forwarding, rfl, .refl _ _, fun _ member => .inl member⟩
  | false =>
      have servers : ∀ data : RpcPayloadData,
          ∀ entry ∈ forwarding.written ++ [(id, data)], entry ∈ forwarding.written ∨
            forwarding.bridge.ReachesServer environment.participants entry.1 := by
        intro data entry member
        rcases List.mem_append.mp member with before | new
        · exact .inl before
        · rw [List.mem_singleton] at new
          subst new
          refine .inr ⟨rtps, fun follows => ?_⟩
          obtain ⟨stored, there, alike⟩ := follows
          rw [found] at there
          cases there
          exact alike.mp (enabled rfl)
      simp only [Bool.false_eq_true, if_false]
      split
      · exact ⟨_, rfl, ⟨fun before => before, rfl, rfl, rfl, fun _ => rfl,
          fun _ follows => follows⟩, servers _⟩
      · next data returned =>
          have sameReceiver : data.participantReceiver =
              forwarding.data.participantReceiver := (WriteOutcome.returned_keeps returned).1
          refine ⟨_, rfl, ⟨fun before => complete_setRegistry before rtps ?_, rfl, rfl,
            sameReceiver, fun _ => rfl, fun other follows => registryFollows_setRegistry found
              (ServiceRegistry.enabled_add _ _ _) other follows⟩, servers _⟩
          intro sequenceNumber requester stored
          rcases ServiceRegistry.getElem?_add stored with before | ⟨_, rfl⟩
          · exact requesters sequenceNumber requester before
          · rw [sameReceiver]
            exact receiver

theorem foldlM_forwardRequest {writers : Writers} {identity : SampleIdentity}
    {ids : List ParticipantId} (rtps : ∀ id ∈ ids, IsRtps environment.participants id)
    (forwarding : Forwarding) (complete : forwarding.bridge.Complete environment.participants)
    (init : forwarding.bridge.init = true)
    (receiver : IsRtps environment.participants forwarding.data.participantReceiver) :
    ∃ next, ids.foldlM (forwardRequest environment writers identity) forwarding = .ok next ∧
      Forwards environment.participants forwarding next ∧
      ∀ entry ∈ next.written, entry ∈ forwarding.written ∨
        forwarding.bridge.ReachesServer environment.participants entry.1 := by
  induction ids generalizing forwarding with
  | nil => exact ⟨forwarding, rfl, .refl _ _, fun _ member => .inl member⟩
  | cons id rest inductionHypothesis =>
      obtain ⟨middle, executed, forwards, first⟩ := forwardRequest_forwards complete init
        (rtps id List.mem_cons_self) receiver
      obtain ⟨next, remaining, later, second⟩ := inductionHypothesis
        (fun other member => rtps other (List.mem_cons_of_mem _ member)) middle
        (forwards.complete complete) (forwards.init.trans init)
        (by rw [forwards.receiver]; exact receiver)
      refine ⟨next, ?_, forwards.trans later, fun entry member => ?_⟩
      · rw [List.foldlM_cons, executed]
        exact remaining
      · rcases second entry member with between | sent
        · exact first entry between
        · refine .inr ⟨sent.1, fun follows => ?_⟩
          rw [← forwards.servers]
          exact sent.2 (forwards.follows _ follows)

/-- **A request** is transmitted without a fault, and only through participants
with a server. -/
theorem transmitRequest_forwards (writers : Writers)
    (complete : bridge.Complete environment.participants) (init : bridge.init = true)
    {data : RpcPayloadData} (receiver : IsRtps environment.participants data.participantReceiver) :
    ∃ next, bridge.transmitRequest environment writers data = .ok next ∧
      Forwards environment.participants { bridge := bridge, data := data } next ∧
      ∀ entry ∈ next.written, bridge.ReachesServer environment.participants entry.1 := by
  unfold transmitRequest
  dsimp only
  split
  · exact ⟨_, rfl, .refl _ _, by simp⟩
  · have rtps : ∀ id ∈ bridge.serviceRegistries.keys, IsRtps environment.participants id := by
      intro id member
      obtain ⟨entry, found⟩ := OrderedMap.mem_iff_exists_getElem?.mp (TreeMap.mem_keys.mp member)
      exact (complete.wired.registries id entry found).1
    obtain ⟨next, executed, forwards, sent⟩ :=
      foldlM_forwardRequest rtps { bridge := bridge, data := data } complete init receiver
    refine ⟨next, executed, forwards, fun entry member => ?_⟩
    rcases sent entry member with before | sent
    · simp at before
    · exact sent

/-- **A reply** is transmitted without a fault. -/
theorem transmitReply_forwards (writers : Writers) (complete : bridge.Complete participants)
    (init : bridge.init = true) (rtps : IsRtps participants id) (data : RpcPayloadData) :
    ∃ next, transmitReply writers bridge id data = .ok next ∧
      Forwards participants { bridge := bridge, data := data } next := by
  have proxies := complete.proxies init id rtps
  obtain ⟨registry, found⟩ := complete.wired.lookupRegistry proxies.serviceRegistries
  obtain ⟨_, _, same, requesters⟩ := complete.wired.registries id _ found
  cases same
  have looked : bridge.lookupRegistry id = .ok registry := by
    simp [RpcBridge.lookupRegistry, found]
  unfold transmitReply
  dsimp only
  split
  · exact ⟨_, rfl, .refl _ _⟩
  · simp only [looked, bind, Except.bind]
    split
    · exact ⟨_, rfl, .refl _ _⟩
    · next known =>
        have stored : registry.registry[data.writeParams.sampleIdentity.sequenceNumber]? =
            some (registry.get data.writeParams.sampleIdentity.sequenceNumber) := by
          unfold ServiceRegistry.get at known ⊢
          cases entry : registry.registry[data.writeParams.sampleIdentity.sequenceNumber]? with
          | none => simp [entry] at known
          | some requester => rfl
        have requester := requesters _ _ stored
        obtain ⟨_, writer⟩ := lookup_of_mem (complete.proxies init _ requester).replyWriters
        simp only [writer]
        split
        · exact ⟨_, rfl, ⟨fun before => before, rfl, rfl, rfl, fun _ => rfl,
            fun _ follows => follows⟩⟩
        · next returned outcome =>
            refine ⟨_, rfl, ⟨fun before => complete_setRegistry before rtps ?_, rfl, rfl,
              (WriteOutcome.returned_keeps outcome).1, fun _ => rfl,
              fun other follows => registryFollows_setRegistry found
                (ServiceRegistry.enabled_erase _ _) other follows⟩⟩
            intro sequenceNumber requester stored
            exact requesters sequenceNumber requester (ServiceRegistry.getElem?_erase stored).2

end RpcBridge

/-! ### Every lookup finds its entity -/

/-- No null entity was dereferenced, and no null registry is stored. -/
def DereferencesPresent (state : Except Fault RpcBridge) : Prop :=
  state ≠ .error .nullEntity ∧ ∀ bridge, state = .ok bridge →
    ∀ id : ParticipantId, bridge.serviceRegistries[id]? ≠ some none

/-- An initialised bridge is told only of servers in participants with proxies. -/
def DiscoversWithProxies (participants : ParticipantsDatabase) (state : Except Fault RpcBridge)
    (event : RpcEvent) : Prop :=
  ∀ bridge id guidPrefix, state = .ok bridge → event.action = .discoveredService id guidPrefix →
    bridge.init = true → IsRtps participants id

variable {participants : ParticipantsDatabase} {rpcTopic : RpcTopic}

theorem complete_initial : RpcBridge.Complete participants { rpcTopic := rpcTopic } where
  wired := ⟨by simp, by simp, by simp⟩
  proxies := by simp
  initialised := by simp

theorem complete_perform (environment : Environment) {bridge : RpcBridge} {action : RpcAction}
    (complete : bridge.Complete environment.participants)
    (discovered : ∀ id guidPrefix, action = .discoveredService id guidPrefix →
      bridge.init = true → IsRtps environment.participants id) :
    ∃ next, bridge.perform environment action = .ok next ∧
      next.Complete environment.participants := by
  cases action with
  | enable =>
      obtain ⟨next, succeeded⟩ := RpcBridge.enable_ok environment bridge
      exact ⟨next, succeeded, RpcBridge.complete_enable complete succeeded⟩
  | disable => exact ⟨_, rfl, RpcBridge.complete_disable complete⟩
  | discoveredService id guidPrefix =>
      obtain ⟨next, succeeded, stays, _⟩ := RpcBridge.discoveredService_of_rtps complete guidPrefix
        (discovered id guidPrefix rfl)
      exact ⟨next, succeeded, stays⟩
  | removedService id guidPrefix => exact ⟨_, rfl, RpcBridge.complete_removedService complete⟩
  | transmitRequest readerId data writers =>
      simp only [RpcBridge.perform]
      split
      · next ready =>
          rw [Bool.and_eq_true] at ready
          have rtps := complete.wired.requestReaders readerId
            (TreeMap.mem_iff_contains.mpr ready.2)
          have receiver :
              IsRtps environment.participants (data.receivedBy readerId).participantReceiver := rtps
          obtain ⟨next, executed, forwards, _⟩ := RpcBridge.transmitRequest_forwards writers
            complete (complete.initialised ready.1) receiver
          exact ⟨next.bridge, by rw [executed]; rfl, forwards.complete complete⟩
      · exact ⟨_, rfl, complete⟩
  | transmitReply readerId data writers =>
      simp only [RpcBridge.perform]
      split
      · next ready =>
          rw [Bool.and_eq_true] at ready
          have rtps := complete.wired.replyReaders readerId (TreeMap.mem_iff_contains.mpr ready.2)
          obtain ⟨next, executed, forwards⟩ := RpcBridge.transmitReply_forwards writers
            complete (complete.initialised ready.1) rtps (data.receivedBy readerId)
          exact ⟨next.bridge, by rw [executed]; rfl, forwards.complete complete⟩
      · exact ⟨_, rfl, complete⟩

/-- In these runs the bridge never ends in a fault, and stays complete. -/
theorem complete_of_reachable {state : Except Fault RpcBridge}
    (reached : (rpcSystem rpcTopic participants).Reachable (DiscoversWithProxies participants)
      state) : ∃ bridge, state = .ok bridge ∧ bridge.Complete participants := by
  have initially : ∀ start, (rpcSystem rpcTopic participants).Initial start →
      ∃ bridge, start = .ok bridge ∧ bridge.Complete participants :=
    fun start initial => ⟨_, initial, complete_initial⟩
  refine reached.invariant initially ?_
  rintro _ event after ⟨bridge, rfl, complete⟩ discovers taken
  have performed := Option.some.inj taken
  obtain ⟨next, succeeded, stays⟩ := complete_perform
    { participants, createThrows := event.createThrows } complete
    fun id guidPrefix same => discovers bridge id guidPrefix rfl same
  exact ⟨next, performed.symm.trans succeeded, stays⟩

/-- **Every lookup finds its entity** in the runs in which an initialised bridge
is told only of servers that participants with proxies discover. -/
theorem dereferencesPresent_of_reachable {state : Except Fault RpcBridge}
    (reached : (rpcSystem rpcTopic participants).Reachable (DiscoversWithProxies participants)
      state) : DereferencesPresent state := by
  obtain ⟨bridge, rfl, complete⟩ := complete_of_reachable reached
  refine ⟨by simp, fun other same id null => ?_⟩
  cases same
  obtain ⟨_, registry, absent, _⟩ := complete.wired.registries id none null
  cases absent

def addService : RpcTopic where
  serviceName := "add"
  requestTopic := { topicName := "rq/addRequest", typeName := "Add_Request_" }
  replyTopic := { topicName := "rr/addReply", typeName := "Add_Response_" }

/-- A participant with proxies, and one without. -/
def mixedParticipants : ParticipantsDatabase :=
  TreeMap.ofList [("a", ({} : IParticipant)), ("b", ({ isRtpsKind := false } : IParticipant))]

theorem dereferencesPresent_of_reachable_add :
    ∃ bridge : RpcBridge, bridge.enabled = true ∧ DereferencesPresent (.ok bridge) := by
  have admitted : ∀ event ∈ ([{ action := .discoveredService "a" 7 }, { action := .enable }] :
      List RpcEvent), ∀ state, DiscoversWithProxies mixedParticipants state event := by
    rintro event member state bridge id guidPrefix _ discovered _
    simp only [List.mem_cons, List.not_mem_nil, or_false] at member
    rcases member with rfl | rfl
    · cases discovered
      exact ⟨{}, by decide +kernel, rfl⟩
    · cases discovered
  obtain ⟨state, reached, test⟩ := System.exists_reachable_of_run
    (rpcSystem addService mixedParticipants) (.ok { rpcTopic := addService }) _
    (fun state => match state with
      | .ok bridge => bridge.enabled
      | .error _ => false) admitted rfl (by decide +kernel)
  cases state with
  | error fault => cases test
  | ok bridge => exact ⟨bridge, test, dereferencesPresent_of_reachable reached⟩

/-- A server that the participant without proxies discovers is looked for in a
null registry. -/
theorem not_dereferencesPresent_of_reachable :
    ¬ ∀ state, (rpcSystem addService mixedParticipants).Reachable anyStep state →
      DereferencesPresent state := by
  intro present
  obtain ⟨state, reached, test⟩ := System.exists_reachable_of_run
    (rpcSystem addService mixedParticipants) (.ok { rpcTopic := addService })
    [{ action := .discoveredService "a" 7 }, { action := .enable },
      { action := .discoveredService "b" 9 }]
    (fun state => match state with
      | .ok _ => false
      | .error fault => fault == .nullEntity) (fun _ _ _ => trivial) rfl (by decide +kernel)
  cases state with
  | ok bridge => cases test
  | error fault =>
      rw [beq_iff_eq] at test
      exact (present _ reached).1 (by rw [test])

end DdsPipe.Communication
