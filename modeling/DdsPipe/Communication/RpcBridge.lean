import DdsPipe.Communication.DdsBridge
import DdsPipe.Communication.ServiceRegistry

/-!
Owns the bridge of one service as its mutex serialises it: the proxy clients
and servers it creates in the participants, the servers it knows of, and how it
is enabled and disabled.

Does not own: the transmission of requests and replies, and the threads that
run it.
-/

namespace DdsPipe.Communication

open Std (TreeMap TreeSet)
open DdsPipe.Types DdsPipe.Configuration

/-- The four maps of proxies hold whether each endpoint is enabled. An absent
pointer in `serviceRegistries` is one that a lookup by `operator[]` left there. -/
structure RpcBridge where
  rpcTopic : RpcTopic
  enabled : Bool := false
  init : Bool := false
  requestReaders : TreeMap ParticipantId Bool := ∅
  replyWriters : TreeMap ParticipantId Bool := ∅
  replyReaders : TreeMap ParticipantId Bool := ∅
  requestWriters : TreeMap ParticipantId Bool := ∅
  serviceRegistries : TreeMap ParticipantId (Option ServiceRegistry) := ∅
  currentServers : TreeMap ParticipantId (TreeSet GuidPrefix) := ∅

namespace RpcBridge

/-- The servers known in one participant; none where the map has no entry. -/
def serversOf (bridge : RpcBridge) (participantId : ParticipantId) : TreeSet GuidPrefix :=
  bridge.currentServers[participantId]?.getD ∅

/-- An assignment to `current_servers_[participantId]`. -/
def setServersOf (bridge : RpcBridge) (participantId : ParticipantId)
    (servers : TreeSet GuidPrefix) : RpcBridge :=
  { bridge with currentServers := bridge.currentServers.insert participantId servers }

def serversAvailable (bridge : RpcBridge) : Bool :=
  bridge.currentServers.toList.any fun entry => entry.2.size > 0

/-! ### Creation of the proxies -/

/-- A part of the initialisation: the bridge it leaves, also when it throws. -/
abbrev Attempt := RpcBridge × Except Fault Unit

def createProxyServer (environment : Environment) (bridge : RpcBridge)
    (participantId : ParticipantId) : Attempt :=
  match environment.create .writer participantId bridge.rpcTopic.replyTopic with
  | .error fault => (bridge, .error fault)
  | .ok _ =>
      let bridge := { bridge with
        replyWriters := bridge.replyWriters.insert participantId false }
      match environment.create .reader participantId bridge.rpcTopic.requestTopic with
      | .error fault => (bridge, .error fault)
      | .ok _ =>
          ({ bridge with
            requestReaders := bridge.requestReaders.insert participantId false }, .ok ())

def createProxyClient (environment : Environment) (bridge : RpcBridge)
    (participantId : ParticipantId) : Attempt :=
  match environment.create .writer participantId bridge.rpcTopic.requestTopic with
  | .error fault => (bridge, .error fault)
  | .ok _ =>
      let bridge := { bridge with
        requestWriters := bridge.requestWriters.insert participantId false }
      match environment.create .reader participantId bridge.rpcTopic.replyTopic with
      | .error fault => (bridge, .error fault)
      | .ok _ =>
          ({ bridge with
            replyReaders := bridge.replyReaders.insert participantId false
            serviceRegistries := bridge.serviceRegistries.insert participantId (some {}) }, .ok ())

/-- `service_registries_[participantId]->enable()`. -/
def enableRegistry (bridge : RpcBridge) (participantId : ParticipantId) : Attempt :=
  match bridge.serviceRegistries[participantId]? with
  | some (some registry) =>
      ({ bridge with
        serviceRegistries := bridge.serviceRegistries.insert participantId (some registry.enable) },
        .ok ())
  | _ =>
      ({ bridge with serviceRegistries := bridge.serviceRegistries.insert participantId none },
        .error .nullEntity)

/-- One round of `init_nts_`. -/
def initParticipant (environment : Environment) (bridge : RpcBridge)
    (participantId : ParticipantId) : Attempt :=
  match createProxyClient environment bridge participantId with
  | (bridge, .error fault) => (bridge, .error fault)
  | (bridge, .ok _) =>
      match createProxyServer environment bridge participantId with
      | (bridge, .error fault) => (bridge, .error fault)
      | (bridge, .ok _) =>
          let bridge := bridge.setServersOf participantId (bridge.serversOf participantId)
          if (bridge.serversOf participantId).size > 0 then bridge.enableRegistry participantId
          else (bridge, .ok ())

def initParticipants (environment : Environment) : List ParticipantId → RpcBridge → Attempt
  | [], bridge => (bridge, .ok ())
  | participantId :: rest, bridge =>
      match initParticipant environment bridge participantId with
      | (bridge, .error fault) => (bridge, .error fault)
      | (bridge, .ok _) => initParticipants environment rest bridge

def initNts (environment : Environment) (bridge : RpcBridge) : Attempt :=
  match initParticipants environment environment.participants.getRtpsParticipantsIds bridge with
  | (bridge, .error fault) => (bridge, .error fault)
  | (bridge, .ok _) => ({ bridge with init := true }, .ok ())

/-! ### Enabling and disabling -/

/-- Set the bridge and all its proxies to `enabled`. -/
def setEnabled (bridge : RpcBridge) (enabled : Bool) : RpcBridge :=
  { bridge with
    enabled := enabled
    requestReaders := bridge.requestReaders.map fun _ _ => enabled
    replyWriters := bridge.replyWriters.map fun _ _ => enabled
    replyReaders := bridge.replyReaders.map fun _ _ => enabled
    requestWriters := bridge.requestWriters.map fun _ _ => enabled }

/-- `enable` catches the exception of its initialisation, and keeps what that
had created. -/
def enable (environment : Environment) (bridge : RpcBridge) : Except Fault RpcBridge :=
  if !bridge.enabled && bridge.serversAvailable then
    if bridge.init then .ok (bridge.setEnabled true)
    else
      match initNts environment bridge with
      | (bridge, .ok _) => .ok (bridge.setEnabled true)
      | (bridge, .error .initializationException) => .ok bridge
      | (_, .error fault) => .error fault
  else .ok bridge

def disable (bridge : RpcBridge) : RpcBridge :=
  if bridge.enabled then bridge.setEnabled false else bridge

/-! ### Servers -/

def discoveredService (bridge : RpcBridge) (serverParticipantId : ParticipantId)
    (serverGuidPrefix : GuidPrefix) : Except Fault RpcBridge :=
  let bridge := bridge.setServersOf serverParticipantId
    ((bridge.serversOf serverParticipantId).insert serverGuidPrefix)
  if bridge.init then
    match bridge.enableRegistry serverParticipantId with
    | (bridge, .ok _) => .ok bridge
    | (_, .error fault) => .error fault
  else .ok bridge

def removedService (bridge : RpcBridge) (serverParticipantId : ParticipantId)
    (serverGuidPrefix : GuidPrefix) : RpcBridge :=
  let bridge := bridge.setServersOf serverParticipantId
    ((bridge.serversOf serverParticipantId).erase serverGuidPrefix)
  if (bridge.serversOf serverParticipantId).size == 0 && !bridge.serversAvailable then
    bridge.disable
  else bridge

/-! ### Proxies follow the bridge -/

def AllAre (flag : Bool) (proxies : TreeMap ParticipantId Bool) : Prop :=
  ∀ (id : ParticipantId) (value : Bool), proxies[id]? = some value → value = flag

/-- The proxies are enabled when the bridge is, and disabled when it is not. -/
structure Uniform (bridge : RpcBridge) : Prop where
  requestReaders : AllAre bridge.enabled bridge.requestReaders
  replyWriters : AllAre bridge.enabled bridge.replyWriters
  replyReaders : AllAre bridge.enabled bridge.replyReaders
  requestWriters : AllAre bridge.enabled bridge.requestWriters

/-- A proxy is created disabled. -/
theorem AllAre.insertFalse {flag : Bool} {proxies : TreeMap ParticipantId Bool}
    (stopped : flag = false) (all : AllAre flag proxies) (id : ParticipantId) :
    AllAre flag (proxies.insert id false) := by
  intro other value found
  by_cases same : other = id
  · subst same
    rw [TreeMap.getElem?_insert_self] at found
    rw [stopped, Option.some.inj found]
  · rw [OrderedMap.getElem?_insert_of_ne same] at found
    exact all other value found

theorem allAre_map (flag : Bool) (proxies : TreeMap ParticipantId Bool) :
    AllAre flag (proxies.map fun _ _ => flag) := by
  intro id value found
  rw [TreeMap.getElem?_map, Option.map_eq_some_iff] at found
  obtain ⟨_, _, same⟩ := found
  exact same.symm

theorem uniform_setEnabled (bridge : RpcBridge) (enabled : Bool) :
    (bridge.setEnabled enabled).Uniform :=
  ⟨allAre_map _ _, allAre_map _ _, allAre_map _ _, allAre_map _ _⟩

theorem uniform_disable {bridge : RpcBridge} (uniform : bridge.Uniform) :
    bridge.disable.Uniform := by
  unfold disable
  split
  · exact uniform_setEnabled bridge false
  · exact uniform

@[simp] theorem enabled_disable (bridge : RpcBridge) : bridge.disable.enabled = false := by
  unfold disable
  split
  · rfl
  · next stopped => simpa using stopped

@[simp] theorem serversOf_setEnabled (bridge : RpcBridge) (enabled : Bool) :
    (bridge.setEnabled enabled).serversOf = bridge.serversOf := rfl

@[simp] theorem serversOf_disable (bridge : RpcBridge) :
    bridge.disable.serversOf = bridge.serversOf := by
  unfold disable
  split <;> rfl

@[simp] theorem rpcTopic_disable (bridge : RpcBridge) :
    bridge.disable.rpcTopic = bridge.rpcTopic := by
  unfold disable
  split <;> rfl

/-! ### What the initialisation leaves as it is -/

/-- The parts that the initialisation of a disabled bridge does not change, also
when it throws. -/
structure Kept (bridge next : RpcBridge) : Prop where
  rpcTopic : next.rpcTopic = bridge.rpcTopic
  enabled : next.enabled = bridge.enabled
  serversOf : ∀ id, next.serversOf id = bridge.serversOf id
  uniform : bridge.enabled = false → bridge.Uniform → next.Uniform

theorem Kept.refl (bridge : RpcBridge) : Kept bridge bridge :=
  ⟨rfl, rfl, fun _ => rfl, fun _ uniform => uniform⟩

theorem Kept.trans {bridge middle next : RpcBridge} (first : Kept bridge middle)
    (second : Kept middle next) : Kept bridge next where
  rpcTopic := second.rpcTopic.trans first.rpcTopic
  enabled := second.enabled.trans first.enabled
  serversOf id := (second.serversOf id).trans (first.serversOf id)
  uniform stopped uniform :=
    second.uniform (first.enabled.trans stopped) (first.uniform stopped uniform)

theorem kept_createProxyServer (environment : Environment) (bridge : RpcBridge)
    (participantId : ParticipantId) :
    Kept bridge (createProxyServer environment bridge participantId).1 := by
  unfold createProxyServer
  split
  · exact .refl bridge
  · dsimp only
    split
    · exact ⟨rfl, rfl, fun _ => rfl, fun stopped uniform => { uniform with
        replyWriters := uniform.replyWriters.insertFalse stopped participantId }⟩
    · exact ⟨rfl, rfl, fun _ => rfl, fun stopped uniform => { uniform with
        replyWriters := uniform.replyWriters.insertFalse stopped participantId
        requestReaders := uniform.requestReaders.insertFalse stopped participantId }⟩

theorem kept_createProxyClient (environment : Environment) (bridge : RpcBridge)
    (participantId : ParticipantId) :
    Kept bridge (createProxyClient environment bridge participantId).1 := by
  unfold createProxyClient
  split
  · exact .refl bridge
  · dsimp only
    split
    · exact ⟨rfl, rfl, fun _ => rfl, fun stopped uniform => { uniform with
        requestWriters := uniform.requestWriters.insertFalse stopped participantId }⟩
    · exact ⟨rfl, rfl, fun _ => rfl, fun stopped uniform => { uniform with
        requestWriters := uniform.requestWriters.insertFalse stopped participantId
        replyReaders := uniform.replyReaders.insertFalse stopped participantId }⟩

theorem uniform_enableRegistry {bridge : RpcBridge} (uniform : bridge.Uniform)
    (participantId : ParticipantId) : (bridge.enableRegistry participantId).1.Uniform := by
  unfold enableRegistry
  split <;> exact { uniform with }

theorem kept_enableRegistry (bridge : RpcBridge) (participantId : ParticipantId) :
    Kept bridge (bridge.enableRegistry participantId).1 := by
  have frame : (bridge.enableRegistry participantId).1.rpcTopic = bridge.rpcTopic ∧
      (bridge.enableRegistry participantId).1.enabled = bridge.enabled ∧
      (bridge.enableRegistry participantId).1.serversOf = bridge.serversOf := by
    unfold enableRegistry
    split <;> exact ⟨rfl, rfl, rfl⟩
  exact ⟨frame.1, frame.2.1, fun id => congrFun frame.2.2 id,
    fun _ uniform => uniform_enableRegistry uniform participantId⟩

/-- The servers of every participant, after those of one are written. -/
theorem serversOf_setServersOf (bridge : RpcBridge) (participantId id : ParticipantId)
    (servers : TreeSet GuidPrefix) :
    (bridge.setServersOf participantId servers).serversOf id =
      if id = participantId then servers else bridge.serversOf id := by
  unfold setServersOf
  split
  · next same =>
      subst same
      simp [serversOf]
  · next different =>
      simp only [serversOf, OrderedMap.getElem?_insert_of_ne different]

theorem uniform_setServersOf {bridge : RpcBridge} (uniform : bridge.Uniform)
    (participantId : ParticipantId) (servers : TreeSet GuidPrefix) :
    (bridge.setServersOf participantId servers).Uniform :=
  { uniform with }

/-- Writing back the servers of a participant, as a lookup by `operator[]` does. -/
theorem kept_serversOf (bridge : RpcBridge) (participantId : ParticipantId) :
    Kept bridge (bridge.setServersOf participantId (bridge.serversOf participantId)) := by
  refine ⟨rfl, rfl, fun other => ?_, fun _ uniform => uniform_setServersOf uniform _ _⟩
  rw [serversOf_setServersOf]
  split
  · next same => rw [same]
  · rfl

theorem kept_initParticipant (environment : Environment) (bridge : RpcBridge)
    (participantId : ParticipantId) :
    Kept bridge (initParticipant environment bridge participantId).1 := by
  have client := kept_createProxyClient environment bridge participantId
  unfold initParticipant
  split
  · next left fault attempt =>
      rw [attempt] at client
      exact client
  · next middle done attempt =>
      rw [attempt] at client
      have server := kept_createProxyServer environment middle participantId
      split
      · next left fault attempt =>
          rw [attempt] at server
          exact client.trans server
      · next left done attempt =>
          rw [attempt] at server
          have found := kept_serversOf left participantId
          dsimp only
          split
          · exact (client.trans server).trans (found.trans (kept_enableRegistry _ participantId))
          · exact (client.trans server).trans found

theorem kept_initParticipants (environment : Environment) (ids : List ParticipantId)
    (bridge : RpcBridge) : Kept bridge (initParticipants environment ids bridge).1 := by
  induction ids generalizing bridge with
  | nil => exact .refl bridge
  | cons participantId rest inductionHypothesis =>
      have first := kept_initParticipant environment bridge participantId
      unfold initParticipants
      split
      · next left fault attempt =>
          rw [attempt] at first
          exact first
      · next middle done attempt =>
          rw [attempt] at first
          exact first.trans (inductionHypothesis middle)

theorem kept_initNts (environment : Environment) (bridge : RpcBridge) :
    Kept bridge (initNts environment bridge).1 := by
  have loop := kept_initParticipants environment
    environment.participants.getRtpsParticipantsIds bridge
  unfold initNts
  split
  · next left fault attempt =>
      rw [attempt] at loop
      exact loop
  · next left done attempt =>
      rw [attempt] at loop
      exact ⟨loop.rpcTopic, loop.enabled, loop.serversOf, fun stopped uniform =>
        { loop.uniform stopped uniform with }⟩

/-! ### What each call does -/

section Calls

variable {environment : Environment} {bridge next : RpcBridge}

/-- **Enabling** changes neither the service nor its servers, and enables only a
bridge that has a server. -/
theorem enable_keeps (succeeded : bridge.enable environment = .ok next) :
    next.rpcTopic = bridge.rpcTopic ∧ (∀ id, next.serversOf id = bridge.serversOf id) ∧
      (bridge.Uniform → next.Uniform) ∧
      (next.enabled = true → bridge.enabled = true ∨ bridge.serversAvailable = true) := by
  unfold enable at succeeded
  split at succeeded
  · next waiting =>
      rw [Bool.and_eq_true, Bool.not_eq_true'] at waiting
      split at succeeded
      · cases succeeded
        exact ⟨rfl, fun _ => rfl, fun _ => uniform_setEnabled bridge true, fun _ => .inr waiting.2⟩
      · have kept := kept_initNts environment bridge
        split at succeeded
        · next middle done attempt =>
            cases succeeded
            rw [attempt] at kept
            exact ⟨kept.rpcTopic, kept.serversOf, fun _ => uniform_setEnabled middle true,
              fun _ => .inr waiting.2⟩
        · next middle attempt =>
            cases succeeded
            rw [attempt] at kept
            exact ⟨kept.rpcTopic, kept.serversOf, kept.uniform waiting.1, fun _ => .inr waiting.2⟩
        · cases succeeded
  · cases succeeded
    exact ⟨rfl, fun _ => rfl, fun uniform => uniform, .inl⟩

/-- **A discovered server** is added to those of its participant. -/
theorem discoveredService_keeps {participantId : ParticipantId} {guidPrefix : GuidPrefix}
    (succeeded : bridge.discoveredService participantId guidPrefix = .ok next) :
    next.rpcTopic = bridge.rpcTopic ∧ next.enabled = bridge.enabled ∧
      (∀ id other, other ∈ next.serversOf id ↔
        other ∈ bridge.serversOf id ∨ id = participantId ∧ other = guidPrefix) ∧
      (bridge.Uniform → next.Uniform) := by
  have added : ∀ id other, other ∈ (bridge.setServersOf participantId
      ((bridge.serversOf participantId).insert guidPrefix)).serversOf id ↔
        other ∈ bridge.serversOf id ∨ id = participantId ∧ other = guidPrefix := by
    intro id other
    rw [serversOf_setServersOf]
    split
    · next same =>
        rw [TreeSet.mem_insert, Std.compare_eq_iff_eq, same]
        tauto
    · next different => simp [different]
  unfold discoveredService at succeeded
  dsimp only at succeeded
  split at succeeded
  · split at succeeded
    · next left done attempt =>
        cases succeeded
        have kept := kept_enableRegistry (bridge.setServersOf participantId
          ((bridge.serversOf participantId).insert guidPrefix)) participantId
        have uniform (before : bridge.Uniform) :=
          uniform_enableRegistry (uniform_setServersOf before participantId
            ((bridge.serversOf participantId).insert guidPrefix)) participantId
        rw [attempt] at kept uniform
        exact ⟨kept.rpcTopic, kept.enabled, fun id other => by rw [kept.serversOf, added], uniform⟩
    · cases succeeded
  · cases succeeded
    exact ⟨rfl, rfl, added, fun uniform => uniform_setServersOf uniform _ _⟩

/-- **A removed server** is taken from those of its participant; without any
server left the bridge is disabled. -/
theorem removedService_keeps (participantId : ParticipantId) (guidPrefix : GuidPrefix) :
    (bridge.removedService participantId guidPrefix).rpcTopic = bridge.rpcTopic ∧
      ((bridge.removedService participantId guidPrefix).enabled = true → bridge.enabled = true) ∧
      (∀ id other, other ∈ (bridge.removedService participantId guidPrefix).serversOf id ↔
        other ∈ bridge.serversOf id ∧ ¬ (id = participantId ∧ other = guidPrefix)) ∧
      (bridge.Uniform → (bridge.removedService participantId guidPrefix).Uniform) := by
  have removed : ∀ id other, other ∈ (bridge.setServersOf participantId
      ((bridge.serversOf participantId).erase guidPrefix)).serversOf id ↔
        other ∈ bridge.serversOf id ∧ ¬ (id = participantId ∧ other = guidPrefix) := by
    intro id other
    rw [serversOf_setServersOf]
    split
    · next same =>
        rw [TreeSet.mem_erase, Ne, Std.compare_eq_iff_eq, same]
        tauto
    · next different => simp [different]
  unfold removedService
  dsimp only
  split
  · exact ⟨rpcTopic_disable _, by simp, fun id other => by rw [serversOf_disable, removed],
      fun uniform => uniform_disable (uniform_setServersOf uniform _ _)⟩
  · exact ⟨rfl, fun running => running, removed, fun uniform => uniform_setServersOf uniform _ _⟩

end Calls

end RpcBridge

end DdsPipe.Communication
