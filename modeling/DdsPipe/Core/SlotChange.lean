import DdsPipe.Core.Calls

/-!
Owns what a call of the pipe can do to the slot of one topic: one case for each
function on a slot, with the call it belongs to and the flag and the list of the
pipe before and after it.

Does not own: any invariant of the slots.
-/

namespace DdsPipe.Core

open DdsPipe.Types DdsPipe.Dynamic DdsPipe.Configuration DdsPipe.Communication

/-- The endpoint that a notification has processed as discovered: a discovered
one, or an updated one that is active. -/
def discoveredBy : Notification → Option Endpoint
  | .discovered endpoint => some endpoint
  | .updated endpoint => if endpoint.active then some endpoint else none
  | .erased _ => none

theorem endpoint_of_discoveredBy {notification : Notification} {endpoint : Endpoint}
    (discovers : discoveredBy notification = some endpoint) : notification.endpoint = endpoint := by
  cases notification with
  | discovered other => exact Option.some.inj discovers
  | updated other =>
      simp only [discoveredBy] at discovers
      split at discovers
      · exact Option.some.inj discovers
      · cases discovers
  | erased other => cases discovers

variable {Filter : Type} [IFilterTopic Filter]

/-- What a call does to the slot of the topic of a unique name. -/
inductive SlotChange (configuration : DdsPipeConfiguration Filter) (environment : Environment)
    (pipe next : Pipe Filter) (name : String) : Call Filter → Prop where
  | unchanged {call : Call Filter} (sameEnabled : next.enabled = pipe.enabled)
      (sameList : next.allowedTopics = pipe.allowedTopics)
      (same : next.topicSlot name = pipe.topicSlot name) :
      SlotChange configuration environment pipe next name call
  | enabled (stopped : pipe.enabled = false) (running : next.enabled = true)
      (sameList : next.allowedTopics = pipe.allowedTopics)
      (changed : (pipe.topicSlot name).enable configuration environment pipe.allowedTopics =
        .ok (next.topicSlot name)) :
      SlotChange configuration environment pipe next name .enable
  | disabled (running : pipe.enabled = true) (stopped : next.enabled = false)
      (sameList : next.allowedTopics = pipe.allowedTopics)
      (changed : next.topicSlot name = (pipe.topicSlot name).disable) :
      SlotChange configuration environment pipe next name .disable
  | reinstalled {newConfiguration : DdsPipeConfiguration Filter} (stopped : pipe.enabled = false)
      (stillStopped : next.enabled = false)
      (same : next.topicSlot name = pipe.topicSlot name) :
      SlotChange configuration environment pipe next name (.reloadConfiguration newConfiguration)
  | reloaded {newConfiguration : DdsPipeConfiguration Filter}
      (valid : newConfiguration.isValid environment.participants.getParticipantsRepeaterMap =
        .ok ())
      (differs : (AllowedTopicList.create newConfiguration.allowlist
        newConfiguration.blocklist).same pipe.allowedTopics = false)
      (running : pipe.enabled = true) (stillRunning : next.enabled = true)
      (newList : next.allowedTopics =
        .create newConfiguration.allowlist newConfiguration.blocklist)
      (changed : (pipe.topicSlot name).reload configuration environment
        (.create newConfiguration.allowlist newConfiguration.blocklist) =
          .ok (next.topicSlot name)) :
      SlotChange configuration environment pipe next name (.reloadConfiguration newConfiguration)
  | notified {entities : Entities} {notification : Notification}
      (notService : isServiceTopic notification.endpoint.topic = false)
      (named : notification.endpoint.topic.topicUniqueName = name)
      (sameEnabled : next.enabled = pipe.enabled)
      (sameList : next.allowedTopics = pipe.allowedTopics)
      (changed : (pipe.topicSlot name).notified configuration environment pipe.enabled
        pipe.allowedTopics entities notification = .ok (next.topicSlot name)) :
      SlotChange configuration environment pipe next name (.notified entities notification)

variable {configuration : DdsPipeConfiguration Filter} {environment : Environment}
  {pipe next : Pipe Filter}

/-- A notification discovers its topic in the slot, removes a source from it, or
leaves it as it is. -/
theorem notified_cases {entities : Entities} {notification : Notification} {enabled : Bool}
    {list : AllowedTopicList Filter} {slot after : TopicSlot}
    (changed : slot.notified configuration environment enabled list entities notification =
      .ok after) :
    (∃ endpoint, discoveredBy notification = some endpoint ∧
        Pipe.isEndpointRelevant configuration entities endpoint = true ∧
        slot.discovered configuration environment enabled list endpoint.topic = .ok after) ∨
      (∃ participantId, after = slot.removed participantId) ∨ after = slot := by
  have discovered : ∀ endpoint, discoveredBy notification = some endpoint →
      (if Pipe.isEndpointRelevant configuration entities endpoint then
        slot.discovered configuration environment enabled list endpoint.topic
      else .ok slot) = .ok after →
      (∃ endpoint, discoveredBy notification = some endpoint ∧
        Pipe.isEndpointRelevant configuration entities endpoint = true ∧
        slot.discovered configuration environment enabled list endpoint.topic = .ok after) ∨
      (∃ participantId, after = slot.removed participantId) ∨ after = slot := by
    intro endpoint discovers done
    split at done
    · next relevant => exact .inl ⟨endpoint, discovers, relevant, done⟩
    · cases done
      exact .inr (.inr rfl)
  have removed : ∀ endpoint : Endpoint,
      (if configuration.removeUnusedEntities &&
          Pipe.isEndpointRelevant configuration entities endpoint then
        .ok (slot.removed endpoint.discovererParticipantId)
      else (.ok slot : Except Fault TopicSlot)) = .ok after →
      (∃ participantId, after = slot.removed participantId) ∨ after = slot := by
    intro endpoint done
    split at done
    · cases done
      exact .inl ⟨_, rfl⟩
    · cases done
      exact .inr rfl
  cases notification with
  | discovered endpoint => exact discovered endpoint rfl changed
  | erased endpoint => exact .inr (removed endpoint changed)
  | updated endpoint =>
      simp only [TopicSlot.notified] at changed
      split at changed
      · next active => exact discovered endpoint (if_pos active) changed
      · exact .inr (removed endpoint changed)

/-- **Every call changes every slot in one of these ways.** -/
theorem slotChange_perform {call : Call Filter} (keyed : pipe.WellKeyed)
    (succeeded : pipe.perform configuration environment call = .ok next) (name : String) :
    SlotChange configuration environment pipe next name call := by
  cases call with
  | enable =>
      obtain ⟨⟨code, after⟩, enabled, rfl⟩ := OrderedMap.map_eq_ok_iff.mp succeeded
      rcases enable_cases keyed enabled with
        ⟨_, rfl⟩ | ⟨stopped, running, sameList, topics, _⟩
      · exact .unchanged rfl rfl rfl
      · exact .enabled stopped running sameList (topics name)
  | disable =>
      cases succeeded
      rcases disable_cases keyed with ⟨_, unchanged⟩ | ⟨running, stopped, sameList, topics, _⟩
      · rw [unchanged]
        exact .unchanged rfl rfl rfl
      · exact .disabled running stopped sameList (topics name)
  | reloadConfiguration newConfiguration =>
      obtain ⟨⟨answer, after⟩, reloaded, rfl⟩ := OrderedMap.map_eq_ok_iff.mp succeeded
      rcases reloadConfiguration_cases reloaded with rfl | ⟨valid, code, installed⟩
      · exact .unchanged rfl rfl rfl
      · rcases reloadAllowedTopics_cases keyed installed with
          ⟨_, rfl⟩ | ⟨_, stopped, rfl⟩ | ⟨differs, running, stillRunning, newList, topics, _⟩
        · exact .unchanged rfl rfl rfl
        · exact .reinstalled stopped stopped rfl
        · exact .reloaded valid differs running stillRunning newList (topics name)
  | notified entities notification =>
      cases service : isServiceTopic notification.endpoint.topic with
      | false =>
          obtain ⟨same, changed, others⟩ := onTopic_notified service succeeded
          by_cases affected : name = notification.endpoint.topic.topicUniqueName
          · subst affected
            exact .notified service rfl same.enabled same.allowedTopics changed
          · exact .unchanged same.enabled same.allowedTopics (others name affected)
      | true =>
          rw [← isSome_rpcTopicOf, Option.isSome_iff_exists] at service
          obtain ⟨rpcTopic, ofService⟩ := service
          have same := (onService_notified ofService succeeded).topics
          exact .unchanged same.enabled same.allowedTopics (same.topicSlot name)

end DdsPipe.Core
