import DdsPipe.Core.DdsPipe

/-!
Owns the pipe as one service sees it: the slot of a service is its entry among
the known services and its bridge.

As for the topics, the theorems give for each function on the services the
function on a slot that it performs in the slot of every service.
-/

namespace DdsPipe.Core

open Std (TreeMap)
open DdsPipe.Types DdsPipe.Dynamic DdsPipe.Configuration DdsPipe.Communication

structure ServiceSlot where
  current : Option CurrentService
  bridge : Option RpcBridge

/-- The pipe as the service of a name sees it. -/
def Pipe.serviceSlot {Filter : Type} (pipe : Pipe Filter) (name : String) : ServiceSlot where
  current := pipe.currentServices[name]?
  bridge := pipe.rpcBridges[name]?

namespace ServiceSlot

variable {Filter : Type} [IFilterTopic Filter] (environment : Environment)

def onRpcBridge (call : RpcBridge → Except Fault RpcBridge) (slot : ServiceSlot) :
    Except Fault ServiceSlot :=
  match slot.bridge with
  | none => .error .nullEntity
  | some bridge => do
      let bridge ← call bridge
      return { slot with bridge := some bridge }

def setAllowed (topic : RpcTopic) (allowed : Bool) (slot : ServiceSlot) : ServiceSlot :=
  { slot with
    current := some {
      service := (slot.current.map CurrentService.service).getD topic
      allowed := allowed } }

def allowed (slot : ServiceSlot) : Bool :=
  (slot.current.map CurrentService.allowed).getD false

/-- Enabling the pipe, on the slot of a service. -/
def enable (slot : ServiceSlot) : Except Fault ServiceSlot :=
  match slot.current with
  | some entry =>
      if entry.allowed then slot.onRpcBridge (RpcBridge.enable environment) else .ok slot
  | none => .ok slot

/-- Reloading a changed list while the pipe is enabled, on the slot of a service. -/
def reload (allowedTopics : AllowedTopicList Filter) (slot : ServiceSlot) :
    Except Fault ServiceSlot :=
  match slot.current with
  | some entry =>
      if allowedTopics.isServiceAllowed entry.service then
        (slot.setAllowed entry.service true).onRpcBridge (RpcBridge.enable environment)
      else (slot.setAllowed entry.service false).onRpcBridge fun bridge => .ok bridge.disable
  | none => .ok slot

def createNew (allowedTopics : AllowedTopicList Filter) (topic : RpcTopic) (slot : ServiceSlot) :
    ServiceSlot :=
  match slot.bridge with
  | some _ => slot
  | none =>
      { slot with bridge := some { rpcTopic := topic } }.setAllowed topic
        (allowedTopics.isServiceAllowed topic)

/-- The discovery of a server, on the slot of its service. -/
def discovered (pipeEnabled : Bool) (allowedTopics : AllowedTopicList Filter) (topic : RpcTopic)
    (participantId : ParticipantId) (guidPrefix : GuidPrefix) (slot : ServiceSlot) :
    Except Fault ServiceSlot := do
  let slot ← (slot.createNew allowedTopics topic).onRpcBridge fun bridge =>
    bridge.discoveredService participantId guidPrefix
  if pipeEnabled && slot.allowed then slot.onRpcBridge (RpcBridge.enable environment)
  else return slot

/-- The removal of a server, on the slot of its service. -/
def removed (participantId : ParticipantId) (guidPrefix : GuidPrefix) (slot : ServiceSlot) :
    ServiceSlot :=
  { slot with bridge := slot.bridge.map fun bridge =>
      bridge.removedService participantId guidPrefix }

end ServiceSlot

/-- Nothing but the services differs. -/
structure SameTopics {Filter : Type} (pipe next : Pipe Filter) : Prop where
  allowedTopics : next.allowedTopics = pipe.allowedTopics
  enabled : next.enabled = pipe.enabled
  currentTopics : next.currentTopics = pipe.currentTopics
  bridges : next.bridges = pipe.bridges
  bridgesCreated : next.bridgesCreated = pipe.bridgesCreated

namespace SameTopics

variable {Filter : Type} {pipe middle next : Pipe Filter}

theorem refl (pipe : Pipe Filter) : SameTopics pipe pipe := ⟨rfl, rfl, rfl, rfl, rfl⟩

theorem trans (first : SameTopics pipe middle) (second : SameTopics middle next) :
    SameTopics pipe next :=
  ⟨second.allowedTopics.trans first.allowedTopics, second.enabled.trans first.enabled,
    second.currentTopics.trans first.currentTopics, second.bridges.trans first.bridges,
    second.bridgesCreated.trans first.bridgesCreated⟩

end SameTopics

/-- Every entry is kept under the name of its service. -/
def Pipe.KeyedServices {Filter : Type} (pipe : Pipe Filter) : Prop :=
  ∀ (name : String) (entry : CurrentService), pipe.currentServices[name]? = some entry →
    entry.service.serviceName = name

/-- `change` is what the slot of `service` undergoes; the other slots, and all
but the services, are as before. -/
structure OnService {Filter : Type} (pipe next : Pipe Filter) (service : String)
    (change : ServiceSlot → Except Fault ServiceSlot) : Prop where
  topics : SameTopics pipe next
  changed : change (pipe.serviceSlot service) = .ok (next.serviceSlot service)
  others : ∀ name, name ≠ service → next.serviceSlot name = pipe.serviceSlot name

section OneService

variable {Filter : Type} {pipe next : Pipe Filter}

/-- A call on the bridge of a slot needs a bridge, and changes nothing else. -/
theorem onRpcBridge_cases {call : RpcBridge → Except Fault RpcBridge} {slot after : ServiceSlot}
    (changed : slot.onRpcBridge call = .ok after) :
    ∃ bridge called, slot.bridge = some bridge ∧ call bridge = .ok called ∧
      after = { slot with bridge := some called } := by
  unfold ServiceSlot.onRpcBridge at changed
  split at changed
  · cases changed
  · next bridge found =>
      obtain ⟨called, done, stored⟩ := OrderedMap.bind_eq_ok_iff.mp changed
      cases stored
      exact ⟨bridge, called, found, done, rfl⟩

/-- Two changes of the same slot, one after the other. -/
theorem OnService.seq {middle : Pipe Filter} {service : String}
    {first second : ServiceSlot → Except Fault ServiceSlot}
    (before : OnService pipe middle service first) (after : OnService middle next service second) :
    OnService pipe next service fun slot => first slot >>= second :=
  ⟨before.topics.trans after.topics,
    OrderedMap.bind_eq_ok_iff.mpr ⟨_, before.changed, after.changed⟩,
    fun name different => (after.others name different).trans (before.others name different)⟩

theorem onService_onRpcBridge {name : String} {call : RpcBridge → Except Fault RpcBridge}
    (succeeded : pipe.onRpcBridge name call = .ok next) :
    OnService pipe next name (ServiceSlot.onRpcBridge call) := by
  unfold Pipe.onRpcBridge at succeeded
  split at succeeded
  · cases succeeded
  · next bridge found =>
      obtain ⟨called, done, stored⟩ := OrderedMap.bind_eq_ok_iff.mp succeeded
      cases stored
      refine ⟨⟨rfl, rfl, rfl, rfl, rfl⟩, ?_, fun other different => ?_⟩
      · simp only [ServiceSlot.onRpcBridge, Pipe.serviceSlot, found, done,
          TreeMap.getElem?_insert_self]
        rfl
      · simp only [Pipe.serviceSlot, OrderedMap.getElem?_insert_of_ne different]

theorem serviceSlot_setAllowed (topic : RpcTopic) (allowed : Bool) (name : String) :
    (pipe.setAllowed topic allowed).serviceSlot name =
      if name = topic.serviceName then (pipe.serviceSlot name).setAllowed topic allowed
      else pipe.serviceSlot name := by
  split
  · next same =>
      subst same
      simp [Pipe.serviceSlot, Pipe.setAllowed, ServiceSlot.setAllowed]
  · next different =>
      simp only [Pipe.serviceSlot, Pipe.setAllowed, OrderedMap.getElem?_insert_of_ne different]

variable [IFilterTopic Filter] {environment : Environment}

theorem onService_createNewService (pipe : Pipe Filter) (topic : RpcTopic) :
    OnService pipe (pipe.createNewService topic) topic.serviceName fun slot =>
      .ok (slot.createNew pipe.allowedTopics topic) := by
  unfold Pipe.createNewService
  split
  · next bridge found =>
      refine ⟨.refl pipe, ?_, fun _ _ => rfl⟩
      have before : (pipe.serviceSlot topic.serviceName).bridge = some bridge := found
      simp only [ServiceSlot.createNew, before]
  · next absent =>
      have before : (pipe.serviceSlot topic.serviceName).bridge = none := absent
      refine ⟨⟨rfl, rfl, rfl, rfl, rfl⟩, ?_, fun name different => ?_⟩
      · rw [serviceSlot_setAllowed, if_pos rfl]
        simp only [ServiceSlot.createNew, before]
        simp [Pipe.serviceSlot]
      · rw [serviceSlot_setAllowed, if_neg different]
        simp only [Pipe.serviceSlot, OrderedMap.getElem?_insert_of_ne different]

theorem onService_discoveredService {topic : RpcTopic} {participantId : ParticipantId}
    {guidPrefix : GuidPrefix}
    (succeeded : pipe.discoveredService environment topic participantId guidPrefix = .ok next) :
    OnService pipe next topic.serviceName
      (ServiceSlot.discovered environment pipe.enabled pipe.allowedTopics topic participantId
        guidPrefix) := by
  obtain ⟨middle, discovered, continued⟩ := OrderedMap.bind_eq_ok_iff.mp succeeded
  have known := (onService_createNewService pipe topic).seq (onService_onRpcBridge discovered)
  have value : middle.serviceAllowed topic.serviceName =
      (middle.serviceSlot topic.serviceName).allowed := rfl
  rw [known.topics.enabled, value] at continued
  have changed := known.changed
  split at continued
  · next enables =>
      have enabled := onService_onRpcBridge continued
      refine ⟨known.topics.trans enabled.topics, ?_, (known.seq enabled).others⟩
      refine OrderedMap.bind_eq_ok_iff.mpr ⟨_, changed, ?_⟩
      rw [if_pos enables]
      exact enabled.changed
  · next keeps =>
      cases continued
      refine ⟨known.topics, ?_, known.others⟩
      refine OrderedMap.bind_eq_ok_iff.mpr ⟨_, changed, ?_⟩
      rw [if_neg keeps]
      rfl

omit [IFilterTopic Filter] in
theorem onService_removedService (pipe : Pipe Filter) (topic : RpcTopic)
    (participantId : ParticipantId) (guidPrefix : GuidPrefix) :
    OnService pipe (pipe.removedService topic participantId guidPrefix) topic.serviceName
      fun slot => .ok (slot.removed participantId guidPrefix) := by
  unfold Pipe.removedService
  split
  · next absent =>
      refine ⟨.refl pipe, ?_, fun _ _ => rfl⟩
      have before : (pipe.serviceSlot topic.serviceName).bridge = none := absent
      simp only [ServiceSlot.removed, before, Option.map_none]
      rw [← before]
  · next bridge found =>
      refine ⟨⟨rfl, rfl, rfl, rfl, rfl⟩, ?_, fun name different => ?_⟩
      · simp [ServiceSlot.removed, Pipe.serviceSlot, found]
      · simp only [Pipe.serviceSlot, OrderedMap.getElem?_insert_of_ne different]

end OneService

/-! ### Loops over the known services -/

section Loops

variable {Filter : Type} {pipe next : Pipe Filter} {environment : Environment}

/-- A loop over the known services whose round for a service performs `change`
on the slot of the service performs it on every slot of a known service. -/
theorem serviceSlot_of_loop (change : CurrentService → ServiceSlot → Except Fault ServiceSlot)
    {body : Pipe Filter → String × CurrentService → Except Fault (Pipe Filter)}
    (round : ∀ current entry after, SameTopics pipe current → entry ∈ pipe.currentServices.toList →
      body current entry = .ok after → OnService current after entry.1 (change entry.2))
    (succeeded : pipe.currentServices.toList.foldlM body pipe = .ok next) :
    SameTopics pipe next ∧ ∀ name,
      (match (pipe.serviceSlot name).current with
        | some entry => change entry (pipe.serviceSlot name)
        | none => .ok (pipe.serviceSlot name)) = .ok (next.serviceSlot name) := by
  obtain ⟨topics, visited, untouched⟩ :=
    OrderedMap.foldlM_keywise Pipe.serviceSlot Prod.fst (SameTopics pipe)
      (fun entry old new => change entry.2 old = .ok new)
      (fun current entry after member same executed =>
        have step := round current entry after same member executed
        ⟨same.trans step.topics, step.changed, step.others⟩)
      (OrderedMap.nodup_map_fst_toList _) (.refl pipe) succeeded
  refine ⟨topics, fun name => ?_⟩
  split
  · next entry found =>
      exact visited (name, entry) (TreeMap.mem_toList_iff_getElem?_eq_some.mpr found)
  · next absent =>
      rw [untouched name]
      rw [OrderedMap.mem_map_fst_toList, ← OrderedMap.getElem?_eq_none_iff]
      exact absent

theorem serviceSlot_enableServices
    (succeeded : pipe.currentServices.toList.foldlM (Pipe.enableAllowedService environment) pipe =
      .ok next) :
    SameTopics pipe next ∧ ∀ name,
      (pipe.serviceSlot name).enable environment = .ok (next.serviceSlot name) := by
  refine serviceSlot_of_loop (fun entry slot =>
    if entry.allowed then slot.onRpcBridge (RpcBridge.enable environment) else .ok slot) ?_
    succeeded
  intro current entry after _ _ executed
  unfold Pipe.enableAllowedService at executed
  split at executed
  · next allowed => simpa only [if_pos allowed] using onService_onRpcBridge executed
  · next blocked =>
      cases executed
      simp only [if_neg blocked]
      exact ⟨.refl current, rfl, fun _ _ => rfl⟩

theorem onService_setAllowed (pipe : Pipe Filter) (topic : RpcTopic) (allowed : Bool) :
    OnService pipe (pipe.setAllowed topic allowed) topic.serviceName
      fun slot => .ok (slot.setAllowed topic allowed) :=
  ⟨⟨rfl, rfl, rfl, rfl, rfl⟩, by rw [serviceSlot_setAllowed, if_pos rfl],
    fun name different => by rw [serviceSlot_setAllowed, if_neg different]⟩

variable [IFilterTopic Filter]

theorem serviceSlot_reloadServices (keyed : pipe.KeyedServices)
    (succeeded : pipe.currentServices.toList.foldlM (Pipe.reloadService environment) pipe =
      .ok next) :
    SameTopics pipe next ∧ ∀ name,
      (pipe.serviceSlot name).reload environment pipe.allowedTopics =
        .ok (next.serviceSlot name) := by
  refine serviceSlot_of_loop (fun entry slot =>
    if pipe.allowedTopics.isServiceAllowed entry.service then
      (slot.setAllowed entry.service true).onRpcBridge (RpcBridge.enable environment)
    else (slot.setAllowed entry.service false).onRpcBridge fun bridge => .ok bridge.disable) ?_
    succeeded
  intro current entry after same member executed
  have key := keyed entry.1 entry.2 (TreeMap.mem_toList_iff_getElem?_eq_some.mp member)
  unfold Pipe.reloadService at executed
  rw [same.allowedTopics, ← key] at executed
  rw [← key]
  split at executed
  · next allowed =>
      simp only [if_pos allowed]
      exact (onService_setAllowed current entry.2.service true).seq
        (onService_onRpcBridge executed)
  · next blocked =>
      simp only [if_neg blocked]
      exact (onService_setAllowed current entry.2.service false).seq
        (onService_onRpcBridge executed)

end Loops

end DdsPipe.Core
