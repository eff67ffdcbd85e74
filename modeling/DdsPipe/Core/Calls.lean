import DdsPipe.Core.TopicSlot
import DdsPipe.Core.ServiceSlot

/-!
Owns what each call of the pipe does to the slot of every topic and of every
service, as one theorem for each call, and the construction of the pipe.

The invariants of the pipe are derived from these theorems; they do not unfold
the functions of the pipe again.
-/

namespace DdsPipe.Core

open Std (TreeMap)
open DdsPipe.Types DdsPipe.Dynamic DdsPipe.Configuration DdsPipe.Communication

/-- Every entry of the pipe is kept under its own name. -/
structure Pipe.WellKeyed {Filter : Type} (pipe : Pipe Filter) : Prop where
  topics : pipe.Keyed
  services : pipe.KeyedServices

namespace TopicSlot

variable {Filter : Type} [IFilterTopic Filter] (configuration : DdsPipeConfiguration Filter)
  (environment : Environment)

/-- A removed source, on the slot of its topic. -/
def removed (participantId : ParticipantId) (slot : TopicSlot) : TopicSlot :=
  if participantId != defaultParticipantId then
    { slot with bridge := slot.bridge.map fun bridge => bridge.removeWriter participantId }
  else slot

/-- A notification of an endpoint whose topic is no service topic, on the slot of
that topic. -/
def notified (pipeEnabled : Bool) (allowedTopics : AllowedTopicList Filter) (entities : Entities)
    (notification : Notification) (slot : TopicSlot) : Except Fault TopicSlot :=
  let discovered (endpoint : Endpoint) :=
    if Pipe.isEndpointRelevant configuration entities endpoint then
      slot.discovered configuration environment pipeEnabled allowedTopics endpoint.topic
    else .ok slot
  let removed (endpoint : Endpoint) :=
    if configuration.removeUnusedEntities &&
        Pipe.isEndpointRelevant configuration entities endpoint then
      .ok (slot.removed endpoint.discovererParticipantId)
    else .ok slot
  match notification with
  | .discovered endpoint => discovered endpoint
  | .updated endpoint => if endpoint.active then discovered endpoint else removed endpoint
  | .erased endpoint => removed endpoint

end TopicSlot

namespace ServiceSlot

variable {Filter : Type} [IFilterTopic Filter] (configuration : DdsPipeConfiguration Filter)
  (environment : Environment)

/-- A notification of an endpoint on a topic of `service`, on the slot of that
service. -/
def notified (pipeEnabled : Bool) (allowedTopics : AllowedTopicList Filter) (service : RpcTopic)
    (notification : Notification) (slot : ServiceSlot) : Except Fault ServiceSlot :=
  match notification with
  | .discovered endpoint =>
      if Pipe.isEndpointKindRelevant configuration endpoint && endpoint.isServerEndpoint then
        slot.discovered environment pipeEnabled allowedTopics service
          endpoint.discovererParticipantId endpoint.guid.guidPrefix
      else .ok slot
  | .updated _ => .ok slot
  | .erased endpoint =>
      if endpoint.isServerEndpoint then
        .ok (slot.removed endpoint.discovererParticipantId endpoint.guid.guidPrefix)
      else .ok slot

end ServiceSlot

section Frames

variable {Filter : Type} {pipe next : Pipe Filter}

theorem SameServices.serviceSlot (same : SameServices pipe next) (name : String) :
    next.serviceSlot name = pipe.serviceSlot name := by
  simp only [Pipe.serviceSlot, same.currentServices, same.rpcBridges]

theorem SameTopics.topicSlot (same : SameTopics pipe next) (name : String) :
    next.topicSlot name = pipe.topicSlot name := by
  simp only [Pipe.topicSlot, same.currentTopics, same.bridges, same.bridgesCreated]

end Frames

section Calls

variable {Filter : Type} [IFilterTopic Filter] {configuration : DdsPipeConfiguration Filter}
  {environment : Environment} {pipe next : Pipe Filter}

/-- **Enabling** acts on the slots of a disabled pipe only. -/
theorem enable_cases {code : ReturnCode} (keyed : pipe.WellKeyed)
    (succeeded : pipe.enable configuration environment = .ok (code, next)) :
    (pipe.enabled = true ∧ next = pipe) ∨
    (pipe.enabled = false ∧ next.enabled = true ∧ next.allowedTopics = pipe.allowedTopics ∧
      (∀ name, (pipe.topicSlot name).enable configuration environment pipe.allowedTopics =
        .ok (next.topicSlot name)) ∧
      ∀ name, (pipe.serviceSlot name).enable environment = .ok (next.serviceSlot name)) := by
  unfold Pipe.enable at succeeded
  split at succeeded
  · next running =>
      cases succeeded
      exact .inl ⟨running, rfl⟩
  · next stopped =>
      obtain ⟨middle, activated, continued⟩ := OrderedMap.bind_eq_ok_iff.mp succeeded
      obtain ⟨last, enabled, finished⟩ := OrderedMap.bind_eq_ok_iff.mp continued
      cases finished
      have enabledKeyed : ({ pipe with enabled := true } : Pipe Filter).Keyed := keyed.topics
      obtain ⟨services, topicSlots⟩ := topicSlot_activateAllTopics enabledKeyed activated
      obtain ⟨topics, serviceSlots⟩ := serviceSlot_enableServices enabled
      refine .inr ⟨by simpa using stopped, topics.enabled.trans services.enabled,
        topics.allowedTopics.trans services.allowedTopics, fun name => ?_, fun name => ?_⟩
      · rw [topics.topicSlot]
        exact topicSlots name
      · have slot := serviceSlots name
        rwa [services.serviceSlot] at slot

omit [IFilterTopic Filter] in
/-- **Disabling** acts on the slots of the topics of an enabled pipe only. -/
theorem disable_cases (keyed : pipe.WellKeyed) :
    (pipe.enabled = false ∧ pipe.disable.2 = pipe) ∨
    (pipe.enabled = true ∧ pipe.disable.2.enabled = false ∧
      pipe.disable.2.allowedTopics = pipe.allowedTopics ∧
      (∀ name, pipe.disable.2.topicSlot name = (pipe.topicSlot name).disable) ∧
      ∀ name, pipe.disable.2.serviceSlot name = pipe.serviceSlot name) := by
  unfold Pipe.disable
  split
  · next running =>
      have disabledKeyed : ({ pipe with enabled := false } : Pipe Filter).Keyed := keyed.topics
      obtain ⟨services, topicSlots⟩ := topicSlot_deactivateAllTopics disabledKeyed
      exact .inr ⟨running, services.enabled, services.allowedTopics, topicSlots,
        services.serviceSlot⟩
  · next stopped => exact .inl ⟨by simpa using stopped, rfl⟩

/-- **Reloading** an equal list does nothing; a different list is installed, and
acts on the slots of an enabled pipe only. -/
theorem reloadAllowedTopics_cases {code : ReturnCode} {allowedTopics : AllowedTopicList Filter}
    (keyed : pipe.WellKeyed)
    (succeeded : pipe.reloadAllowedTopics configuration environment allowedTopics =
      .ok (code, next)) :
    (allowedTopics.same pipe.allowedTopics = true ∧ next = pipe) ∨
    (allowedTopics.same pipe.allowedTopics = false ∧ pipe.enabled = false ∧
      next = { pipe with allowedTopics := allowedTopics }) ∨
    (allowedTopics.same pipe.allowedTopics = false ∧ pipe.enabled = true ∧
      next.enabled = true ∧ next.allowedTopics = allowedTopics ∧
      (∀ name, (pipe.topicSlot name).reload configuration environment allowedTopics =
        .ok (next.topicSlot name)) ∧
      ∀ name, (pipe.serviceSlot name).reload environment allowedTopics =
        .ok (next.serviceSlot name)) := by
  unfold Pipe.reloadAllowedTopics at succeeded
  split at succeeded
  · next same =>
      cases succeeded
      exact .inl ⟨same, rfl⟩
  · next differs =>
      rw [Bool.not_eq_true] at differs
      dsimp only at succeeded
      split at succeeded
      · next stopped =>
          cases succeeded
          exact .inr (.inl ⟨differs, by simpa using stopped, rfl⟩)
      · next running =>
          obtain ⟨middle, reloaded, continued⟩ := OrderedMap.bind_eq_ok_iff.mp succeeded
          obtain ⟨last, enabled, finished⟩ := OrderedMap.bind_eq_ok_iff.mp continued
          cases finished
          have running : pipe.enabled = true := by simpa using running
          have installedKeyed :
              ({ pipe with allowedTopics := allowedTopics } : Pipe Filter).Keyed := keyed.topics
          obtain ⟨services, topicSlots⟩ := topicSlot_reloadTopics installedKeyed reloaded
          have middleKeyed : middle.KeyedServices := by
            intro name entry found
            rw [services.currentServices] at found
            exact keyed.services name entry found
          obtain ⟨topics, serviceSlots⟩ := serviceSlot_reloadServices middleKeyed enabled
          refine .inr (.inr ⟨differs, running,
            (topics.enabled.trans services.enabled).trans running,
            topics.allowedTopics.trans services.allowedTopics, fun name => ?_, fun name => ?_⟩)
          · rw [topics.topicSlot]
            exact topicSlots name
          · have slot := serviceSlots name
            rwa [services.serviceSlot, services.allowedTopics] at slot

/-- A reload with an invalid configuration leaves the pipe as it is. -/
theorem reloadConfiguration_cases {newConfiguration : DdsPipeConfiguration Filter}
    {answer : Except String ReturnCode}
    (succeeded : pipe.reloadConfiguration configuration environment newConfiguration =
      .ok (answer, next)) :
    next = pipe ∨
      newConfiguration.isValid environment.participants.getParticipantsRepeaterMap = .ok () ∧
        ∃ code, pipe.reloadAllowedTopics configuration environment
          (.create newConfiguration.allowlist newConfiguration.blocklist) = .ok (code, next) := by
  unfold Pipe.reloadConfiguration at succeeded
  split at succeeded
  · cases succeeded
    exact .inl rfl
  · next valid =>
      obtain ⟨⟨code, reloaded⟩, done, finished⟩ := OrderedMap.bind_eq_ok_iff.mp succeeded
      cases finished
      exact .inr ⟨valid, code, done⟩

/-! ### Notifications -/

omit [IFilterTopic Filter] in
theorem OnTopic.unchanged (pipe : Pipe Filter) (topic : DdsTopic) : OnTopic pipe pipe topic .ok :=
  ⟨.refl pipe, rfl, fun _ _ => rfl⟩

omit [IFilterTopic Filter] in
theorem onTopic_removedEndpoint {entities : Entities} {endpoint : Endpoint}
    (notService : isServiceTopic endpoint.topic = false)
    (succeeded : pipe.removedEndpoint configuration entities endpoint = .ok next) :
    OnTopic pipe next endpoint.topic fun slot =>
      if configuration.removeUnusedEntities &&
          Pipe.isEndpointRelevant configuration entities endpoint then
        .ok (slot.removed endpoint.discovererParticipantId)
      else .ok slot := by
  unfold Pipe.removedEndpoint at succeeded
  rw [if_neg (by rw [notService]; exact Bool.false_ne_true)] at succeeded
  split at succeeded
  · next relevant =>
      simp only [if_pos relevant]
      split at succeeded
      · next absent =>
          cases succeeded
          refine ⟨.refl pipe, ?_, fun _ _ => rfl⟩
          have before : (pipe.topicSlot endpoint.topic.topicUniqueName).bridge = none := absent
          unfold TopicSlot.removed
          split
          · rw [before, Option.map_none, ← before]
          · rfl
      · next bridge found =>
          split at succeeded
          · next known =>
              cases succeeded
              refine onTopic_of_insert ⟨rfl, rfl, rfl, rfl⟩ ?_ (fun _ _ => rfl)
                (fun name different => OrderedMap.getElem?_insert_of_ne different) (fun _ _ => rfl)
              simp [TopicSlot.removed, known, Pipe.topicSlot, found]
          · next unknown =>
              cases succeeded
              refine ⟨.refl pipe, ?_, fun _ _ => rfl⟩
              simp only [TopicSlot.removed, if_neg unknown]
  · next irrelevant =>
      cases succeeded
      simp only [if_neg irrelevant]
      exact .unchanged pipe endpoint.topic

theorem onTopic_discoveredEndpoint {entities : Entities} {endpoint : Endpoint}
    (notService : isServiceTopic endpoint.topic = false)
    (succeeded : pipe.discoveredEndpoint configuration environment entities endpoint =
      .ok next) :
    OnTopic pipe next endpoint.topic fun slot =>
      if Pipe.isEndpointRelevant configuration entities endpoint then
        slot.discovered configuration environment pipe.enabled pipe.allowedTopics endpoint.topic
      else .ok slot := by
  unfold Pipe.discoveredEndpoint at succeeded
  rw [if_neg (by rw [notService]; exact Bool.false_ne_true)] at succeeded
  split at succeeded
  · next relevant => simpa only [if_pos relevant] using onTopic_discoveredTopic succeeded
  · next irrelevant =>
      cases succeeded
      simp only [if_neg irrelevant]
      exact .unchanged pipe endpoint.topic

/-- **A notification on a topic** that is no service topic acts on its slot. -/
theorem onTopic_notified {entities : Entities} {notification : Notification}
    (notService : isServiceTopic notification.endpoint.topic = false)
    (succeeded : pipe.notified configuration environment entities notification = .ok next) :
    OnTopic pipe next notification.endpoint.topic
      (TopicSlot.notified configuration environment pipe.enabled pipe.allowedTopics entities
        notification) := by
  cases notification with
  | discovered endpoint => exact onTopic_discoveredEndpoint notService succeeded
  | erased endpoint => exact onTopic_removedEndpoint notService succeeded
  | updated endpoint =>
      simp only [Pipe.notified, Pipe.updatedEndpoint] at succeeded
      simp only [Notification.endpoint] at notService ⊢
      rw [if_neg (by rw [notService]; exact Bool.false_ne_true)] at succeeded
      split at succeeded
      · next active =>
          unfold TopicSlot.notified
          simpa only [if_pos active] using
            onTopic_discoveredEndpoint notService succeeded
      · next inactive =>
          unfold TopicSlot.notified
          simpa only [if_neg inactive] using
            onTopic_removedEndpoint notService succeeded

/-- **A notification on a topic of a service** acts on the slot of the service. -/
theorem onService_notified {entities : Entities} {notification : Notification}
    {service : RpcTopic} (ofService : rpcTopicOf notification.endpoint.topic = some service)
    (succeeded : pipe.notified configuration environment entities notification = .ok next) :
    OnService pipe next service.serviceName
      (ServiceSlot.notified configuration environment pipe.enabled pipe.allowedTopics service
        notification) := by
  have unchanged : OnService pipe pipe service.serviceName .ok :=
    ⟨.refl pipe, rfl, fun _ _ => rfl⟩
  have isService : isServiceTopic notification.endpoint.topic = true := by
    rw [← isSome_rpcTopicOf, ofService, Option.isSome_some]
  cases notification with
  | discovered endpoint =>
      simp only [Notification.endpoint] at ofService isService
      simp only [Pipe.notified, Pipe.discoveredEndpoint, if_pos isService, Pipe.onService,
        ofService] at succeeded
      split at succeeded
      · next server =>
          unfold ServiceSlot.notified
          simpa only [if_pos server] using
            onService_discoveredService succeeded
      · next other =>
          cases succeeded
          unfold ServiceSlot.notified
          simpa only [if_neg other] using unchanged
  | updated endpoint =>
      simp only [Notification.endpoint] at isService
      simp only [Pipe.notified, Pipe.updatedEndpoint, if_pos isService] at succeeded
      cases succeeded
      exact unchanged
  | erased endpoint =>
      simp only [Notification.endpoint] at ofService isService
      simp only [Pipe.notified, Pipe.removedEndpoint, if_pos isService, Pipe.onService,
        ofService] at succeeded
      split at succeeded
      · next server =>
          cases succeeded
          unfold ServiceSlot.notified
          simpa only [if_pos server] using
            onService_removedService pipe service endpoint.discovererParticipantId
              endpoint.guid.guidPrefix
      · next other =>
          cases succeeded
          unfold ServiceSlot.notified
          simpa only [if_neg other] using unchanged

end Calls

end DdsPipe.Core
