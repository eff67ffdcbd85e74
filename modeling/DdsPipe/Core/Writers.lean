import DdsPipe.Core.Discovery

/-!
Owns which writers the bridges of topics have, against the readers that the
discovery database holds, for a pipe that removes unused entities and looks for
readers.

The writers follow the readers as long as the pipe hears of every change of
them, and every bridge is created when the readers of its topic are those of the
participant it is created for (`writersFollow_of_reachable`). A bridge that is
created when two participants have readers has the writer of one of them
(`not_writersFollow_of_reachable`).
-/

namespace DdsPipe.Core

open Std (TreeMap)
open DdsPipe.Types DdsPipe.Dynamic DdsPipe.Configuration DdsPipe.Communication

/-! ### Readers in the database -/

/-- The endpoint is an active reader of the topic of that unique name, which the
participant discovered. -/
structure IsActiveReader (name : String) (participantId : ParticipantId) (endpoint : Endpoint) :
    Prop where
  active : endpoint.active = true
  reader : endpoint.isReader = true
  topic : endpoint.topic.topicUniqueName = name
  discoverer : endpoint.discovererParticipantId = participantId

/-- The database holds such an endpoint. -/
def ActiveReader (entities : Entities) (name : String) (participantId : ParticipantId) : Prop :=
  ∃ (guid : Guid) (endpoint : Endpoint), entities[guid]? = some endpoint ∧
    IsActiveReader name participantId endpoint

/-- The endpoints agree in what a guid keeps. -/
structure SameIdentity (endpoint other : Endpoint) : Prop where
  topic : endpoint.topic = other.topic
  kind : endpoint.kind = other.kind
  discoverer : endpoint.discovererParticipantId = other.discovererParticipantId

/-- The maps differ at the guid of `endpoint` at most, where both hold an endpoint
of the same identity or none. -/
structure ChangedAt (endpoint : Endpoint) (entities other : Entities) : Prop where
  elsewhere : ∀ guid : Guid, guid ≠ endpoint.guid → other[guid]? = entities[guid]?
  before : ∀ stored, entities[endpoint.guid]? = some stored → SameIdentity stored endpoint
  after : ∀ stored, other[endpoint.guid]? = some stored → SameIdentity stored endpoint

section Database

variable {entities other : Entities} {endpoint : Endpoint} {name : String}
  {participantId : ParticipantId}

theorem ChangedAt.symm (changed : ChangedAt endpoint entities other) :
    ChangedAt endpoint other entities :=
  ⟨fun guid different => (changed.elsewhere guid different).symm, changed.after, changed.before⟩

/-- A reader at another guid stays. -/
theorem ChangedAt.stays (changed : ChangedAt endpoint entities other) {guid : Guid}
    {stored : Endpoint} (found : entities[guid]? = some stored)
    (reader : IsActiveReader name participantId stored) (different : guid ≠ endpoint.guid) :
    ActiveReader other name participantId :=
  ⟨guid, stored, by rw [changed.elsewhere guid different, found], reader⟩

/-- What is not of the identity of the endpoint is not affected. -/
theorem ChangedAt.activeReader_of_other (changed : ChangedAt endpoint entities other)
    (unlike : endpoint.isReader = true → endpoint.topic.topicUniqueName = name →
      participantId ≠ endpoint.discovererParticipantId) :
    ActiveReader other name participantId ↔ ActiveReader entities name participantId := by
  have one : ∀ first second : Entities, ChangedAt endpoint first second →
      ActiveReader first name participantId → ActiveReader second name participantId := by
    rintro first second changes ⟨guid, stored, found, reader⟩
    refine changes.stays found reader ?_
    rintro rfl
    have same := changes.before stored found
    refine unlike ?_ ?_ ?_
    · have kind := reader.reader
      rwa [Endpoint.isReader, same.kind] at kind
    · rw [← same.topic, reader.topic]
    · rw [← same.discoverer, reader.discoverer]
  exact ⟨one _ _ changed.symm, one _ _ changed⟩

theorem activeReader_congr (same : ∀ guid : Guid, other[guid]? = entities[guid]?) :
    ActiveReader other name participantId ↔ ActiveReader entities name participantId := by
  simp only [ActiveReader, same]

/-- No active reader has the identifier of no participant as its source. -/
def ReadersNamed (entities : Entities) : Prop :=
  ∀ name participantId, ActiveReader entities name participantId →
    participantId ≠ defaultParticipantId

theorem readersNamed_insert (named : ReadersNamed entities)
    (known : endpoint.isReader = true → endpoint.active = true →
      endpoint.discovererParticipantId ≠ defaultParticipantId) :
    ReadersNamed (entities.insert endpoint.guid endpoint) := by
  intro name participantId counted
  obtain ⟨guid, stored, found, reader⟩ := counted
  rw [getElem?_insert_guid] at found
  split at found
  · cases found
    rw [← reader.discoverer]
    exact known reader.reader reader.active
  · exact named name participantId ⟨guid, stored, found, reader⟩

theorem readersNamed_erase (named : ReadersNamed entities) (guid : Guid) :
    ReadersNamed (entities.erase guid) := by
  intro name participantId counted
  obtain ⟨other, stored, found, reader⟩ := counted
  have before : entities[other]? = some stored := by
    rw [OrderedMap.getElem?_erase_eq_ite] at found
    exact (Option.ite_none_left_eq_some.mp found).2
  exact named name participantId ⟨other, stored, before, reader⟩

/-- An operation keeps the active readers named when it names the one that it stores. -/
theorem readersNamed_processItem {item : DatabaseOperation × Endpoint}
    (named : ReadersNamed entities)
    (known : item.2.isReader = true → item.2.active = true →
      item.2.discovererParticipantId ≠ defaultParticipantId) :
    ReadersNamed (processItem entities item).1 := by
  rcases processItem_cases entities item with
    ⟨_, _, same, _⟩ | ⟨_, _, map, _⟩ | ⟨_, _, _, _, map⟩
  · intro name participantId counted
    exact named name participantId ((activeReader_congr same).mp counted)
  · rw [map]
    cases item.1 with
    | add | update => exact readersNamed_insert named known
    | erase => exact readersNamed_erase named item.2.guid
  · rw [map]
    exact readersNamed_insert named known

end Database

/-! ### Relevant endpoints -/

section Relevant

variable {Filter : Type} {configuration : DdsPipeConfiguration Filter}
  (trigger : configuration.discoveryTrigger = .reader) {entities : Entities} {endpoint : Endpoint}

include trigger

theorem isEndpointKindRelevant_eq_isReader :
    Pipe.isEndpointKindRelevant configuration endpoint = endpoint.isReader := by
  rw [Pipe.isEndpointKindRelevant, trigger]

theorem mem_relevantEndpoints (guid : Guid) :
    guid ∈ Pipe.relevantEndpoints configuration entities endpoint ↔
      ∃ stored, entities[guid]? = some stored ∧
        IsActiveReader endpoint.topic.topicUniqueName endpoint.discovererParticipantId stored := by
  rw [OrderedMap.mem_iff_exists_getElem?, Pipe.relevantEndpoints]
  simp only [getElem?_getEndpoints, Option.filter_eq_some_iff, Bool.and_eq_true,
    isEndpointKindRelevant_eq_isReader trigger, DdsTopic.same_iff, beq_iff_eq]
  refine exists_congr fun stored => and_congr Iff.rfl ?_
  constructor
  · rintro ⟨⟨⟨active, reader⟩, topic⟩, discoverer⟩
    exact ⟨active, reader, topic, discoverer⟩
  · rintro ⟨active, reader, topic, discoverer⟩
    exact ⟨⟨⟨active, reader⟩, topic⟩, discoverer⟩

/-- An inactive reader is relevant when no active one counts as the same source. -/
theorem isEndpointRelevant_inactive (inactive : endpoint.active = false) :
    Pipe.isEndpointRelevant configuration entities endpoint = true ↔
      endpoint.isReader = true ∧ ¬ ActiveReader entities endpoint.topic.topicUniqueName
        endpoint.discovererParticipantId := by
  have none : (Pipe.relevantEndpoints configuration entities endpoint).size = 0 ↔
      ¬ ActiveReader entities endpoint.topic.topicUniqueName endpoint.discovererParticipantId := by
    rw [OrderedMap.size_eq_zero_iff]
    simp only [mem_relevantEndpoints trigger, ActiveReader, not_exists]
  rw [Pipe.isEndpointRelevant, isEndpointKindRelevant_eq_isReader trigger]
  cases endpoint.isReader <;> simp [inactive, none]

/-- An active reader is relevant when it is the only one that counts as its
source. -/
theorem isEndpointRelevant_active (active : endpoint.active = true) :
    Pipe.isEndpointRelevant configuration entities endpoint = true ↔
      endpoint.isReader = true ∧ ∀ guid : Guid,
        (∃ stored, entities[guid]? = some stored ∧ IsActiveReader endpoint.topic.topicUniqueName
          endpoint.discovererParticipantId stored) ↔ guid = endpoint.guid := by
  have only : (Pipe.relevantEndpoints configuration entities endpoint).size = 1 ∧
      endpoint.guid ∈ Pipe.relevantEndpoints configuration entities endpoint ↔
        ∀ guid : Guid, (∃ stored, entities[guid]? = some stored ∧
          IsActiveReader endpoint.topic.topicUniqueName endpoint.discovererParticipantId stored) ↔
            guid = endpoint.guid := by
    rw [OrderedMap.size_eq_one_and_mem_iff]
    simp only [mem_relevantEndpoints trigger]
  rw [← only, Pipe.isEndpointRelevant, isEndpointKindRelevant_eq_isReader trigger]
  cases endpoint.isReader <;> simp [active, TreeMap.contains_iff_mem]

end Relevant

/-! ### The slot of a topic -/

/-- The bridge of a slot, if any, follows `sources`. -/
def TopicSlot.Follows (participants : ParticipantsDatabase) (sources : ParticipantId → Prop)
    (slot : TopicSlot) : Prop :=
  ∀ bridge, slot.bridge = some bridge → bridge.Follows participants sources

section Slot

variable {Filter : Type} {configuration : DdsPipeConfiguration Filter} {environment : Environment}
  {participants : ParticipantsDatabase} {slot after : TopicSlot} {topic : DdsTopic}
  {before sources : ParticipantId → Prop} {list : AllowedTopicList Filter}

/-- Whatever bridge is created from the topic follows `sources`. -/
def OpensFollowing (configuration : DdsPipeConfiguration Filter) (environment : Environment)
    (sources : ParticipantId → Prop) (topic : DdsTopic) : Prop :=
  ∀ bridge, DdsBridge.construct environment topic (configuration.getRoutesConfig topic)
      configuration.removeUnusedEntities = .ok bridge →
    bridge.Follows environment.participants sources

/-- A bridge that is created for the only source follows the sources. -/
theorem opensFollowing_of_only (removes : configuration.removeUnusedEntities = true)
    (discovered : topic.topicDiscoverer ≠ defaultParticipantId)
    (only : ∀ bridge, DdsBridge.construct environment topic (configuration.getRoutesConfig topic)
      configuration.removeUnusedEntities = .ok bridge →
        ∀ writer, sources writer ↔ writer = topic.topicDiscoverer) :
    OpensFollowing configuration environment sources topic := by
  intro bridge constructed
  have same := only bridge constructed
  rw [removes] at constructed
  exact (DdsBridge.construct_follows discovered constructed).congr fun writer =>
    (same writer).symm

theorem follows_activate (follows : slot.Follows environment.participants sources)
    (opens : slot.bridge = none → OpensFollowing configuration environment sources topic)
    (changed : slot.activate configuration environment topic = .ok after) :
    after.Follows environment.participants sources := by
  unfold TopicSlot.activate at changed
  dsimp only at changed
  split at changed
  · next absent =>
      have none : slot.bridge = none := absent
      unfold TopicSlot.createNewBridge at changed
      split at changed
      · next bridge constructed =>
          cases changed
          intro other same
          cases same
          exact DdsBridge.enable_follows (opens none bridge constructed)
      · cases changed
        intro other same
        have some : slot.bridge = some other := same
        rw [none] at some
        cases some
      · cases changed
  · next bridge found =>
      cases changed
      intro other same
      cases same
      exact DdsBridge.enable_follows (follows bridge found)

theorem follows_deactivate (follows : slot.Follows participants sources) :
    (slot.deactivate topic).Follows participants sources := by
  intro bridge found
  obtain ⟨old, stored, rfl⟩ := Option.map_eq_some_iff.mp found
  exact DdsBridge.disable_follows (follows old stored)

theorem follows_disable (follows : slot.Follows participants sources) :
    slot.disable.Follows participants sources := by
  unfold TopicSlot.disable
  split
  · exact follows_deactivate follows
  · exact follows

variable [IFilterTopic Filter]

theorem follows_enable (follows : slot.Follows environment.participants sources)
    (opens : ∀ entry, slot.current = some entry → list.isTopicAllowed entry.topic = true →
      slot.bridge = none → OpensFollowing configuration environment sources entry.topic)
    (changed : slot.enable configuration environment list = .ok after) :
    after.Follows environment.participants sources := by
  unfold TopicSlot.enable at changed
  split at changed
  · next entry current =>
      split at changed
      · next allowed => exact follows_activate follows (opens entry current allowed) changed
      · cases changed
        exact follows
  · cases changed
    exact follows

theorem follows_reload (follows : slot.Follows environment.participants sources)
    (opens : ∀ entry, slot.current = some entry → entry.active = false →
      list.isTopicAllowed entry.topic = true → slot.bridge = none →
        OpensFollowing configuration environment sources entry.topic)
    (changed : slot.reload configuration environment list = .ok after) :
    after.Follows environment.participants sources := by
  unfold TopicSlot.reload at changed
  split at changed
  · next entry current =>
      split at changed
      · split at changed
        · cases changed
          exact follows
        · cases changed
          exact follows_deactivate follows
      · next inactive =>
          split at changed
          · next allowed =>
              exact follows_activate follows
                (opens entry current (by simpa using inactive) allowed) changed
          · cases changed
            exact follows
  · cases changed
    exact follows

/-- **A discovered source** joins those that an existing bridge follows. -/
theorem follows_discovered {enabled : Bool} (removes : configuration.removeUnusedEntities = true)
    (discoverer : slot.bridge ≠ none → topic.topicDiscoverer ≠ defaultParticipantId)
    (follows : slot.Follows environment.participants before)
    (joins : slot.bridge ≠ none → ∀ writer,
      before writer ∨ writer = topic.topicDiscoverer ↔ sources writer)
    (opens : slot.bridge = none → enabled = true → list.isTopicAllowed topic = true →
      OpensFollowing configuration environment sources topic)
    (changed : slot.discovered configuration environment enabled list topic = .ok after) :
    after.Follows environment.participants sources := by
  unfold TopicSlot.discovered at changed
  split at changed
  · next absent =>
      have nothing : (slot.emplace topic).Follows environment.participants sources := by
        intro bridge found
        have some : slot.bridge = some bridge := found
        rw [absent] at some
        cases some
      dsimp only at changed
      split at changed
      · next activates =>
          rw [Bool.and_eq_true] at activates
          exact follows_activate nothing (fun none => opens none activates.1 activates.2) changed
      · cases changed
        exact nothing
  · next bridge found =>
      have discovered := discoverer (by simp [found])
      rw [if_pos (by simpa [removes] using discovered)] at changed
      obtain ⟨written, created, stored⟩ := OrderedMap.bind_eq_ok_iff.mp changed
      cases stored
      intro other same
      cases same
      exact (DdsBridge.createWriter_follows created (follows bridge found)).congr
        (joins (by simp [found]))

omit [IFilterTopic Filter] in
/-- **A removed source** leaves those that the bridge follows. -/
theorem follows_removed {participantId : ParticipantId}
    (named : ∀ writer, before writer → writer ≠ defaultParticipantId)
    (follows : slot.Follows participants before)
    (leaves : ∀ writer, before writer ∧ writer ≠ participantId ↔ sources writer) :
    (slot.removed participantId).Follows participants sources := by
  unfold TopicSlot.removed
  by_cases known : participantId = defaultParticipantId
  · rw [if_neg (by simpa using known)]
    intro bridge found
    refine (follows bridge found).congr fun writer => ?_
    rw [← leaves, known]
    exact ⟨fun there => ⟨there, named writer there⟩, fun both => both.1⟩
  · rw [if_pos (by simpa using known)]
    intro bridge found
    obtain ⟨old, stored, rfl⟩ := Option.map_eq_some_iff.mp found
    exact (DdsBridge.removeWriter_follows (follows old stored)).congr leaves

end Slot

/-! ### One notification -/

section Notification

variable {Filter : Type} [IFilterTopic Filter] {configuration : DdsPipeConfiguration Filter}
  {environment : Environment} {slot after : TopicSlot} {list : AllowedTopicList Filter}
  {enabled : Bool} {entities other : Entities} {endpoint : Endpoint}

omit [IFilterTopic Filter] in
/-- When the source of a reader counts as before, every source does. -/
theorem ChangedAt.sameReaders (changed : ChangedAt endpoint entities other)
    (here : endpoint.isReader = true →
      (ActiveReader entities endpoint.topic.topicUniqueName endpoint.discovererParticipantId ↔
        ActiveReader other endpoint.topic.topicUniqueName endpoint.discovererParticipantId))
    (writer : ParticipantId) :
    ActiveReader entities endpoint.topic.topicUniqueName writer ↔
      ActiveReader other endpoint.topic.topicUniqueName writer := by
  by_cases same : endpoint.isReader = true ∧ writer = endpoint.discovererParticipantId
  · rw [same.2]
    exact here same.1
  · refine (changed.activeReader_of_other fun reader _ differs => ?_).symm
    exact same ⟨reader, differs⟩

variable (trigger : configuration.discoveryTrigger = .reader)
  (removes : configuration.removeUnusedEntities = true)
  (changes : ChangedAt endpoint entities other)

include trigger removes changes

/-- **An endpoint that is reported as discovered**, once the database holds it. -/
theorem follows_discoveredEndpoint (named : ReadersNamed other)
    (follows : slot.Follows environment.participants
      (ActiveReader entities endpoint.topic.topicUniqueName))
    (sourced : endpoint.topic.topicDiscoverer = endpoint.discovererParticipantId)
    (holds : other[endpoint.guid]? = some endpoint)
    (inactive : endpoint.active = false → slot.bridge ≠ none → endpoint.isReader = true →
      ActiveReader other endpoint.topic.topicUniqueName endpoint.discovererParticipantId)
    (opens : slot.bridge = none →
      Pipe.isEndpointRelevant configuration other endpoint = true → enabled = true →
        list.isTopicAllowed endpoint.topic = true → OpensFollowing configuration environment
          (ActiveReader other endpoint.topic.topicUniqueName) endpoint.topic)
    (done : (if Pipe.isEndpointRelevant configuration other endpoint then
        slot.discovered configuration environment enabled list endpoint.topic
      else .ok slot) = .ok after) :
    after.Follows environment.participants
      (ActiveReader other endpoint.topic.topicUniqueName) := by
  split at done
  · next relevant =>
      have counts : slot.bridge ≠ none → ActiveReader other endpoint.topic.topicUniqueName
          endpoint.discovererParticipantId := by
        intro bridged
        cases active : endpoint.active with
        | true =>
            obtain ⟨_, only⟩ := (isEndpointRelevant_active trigger active).mp relevant
            exact ⟨endpoint.guid, (only endpoint.guid).mpr rfl⟩
        | false =>
            exact inactive active bridged
              ((isEndpointRelevant_inactive trigger active).mp relevant).1
      refine follows_discovered removes (fun bridged => ?_) follows (fun bridged writer => ?_)
        (fun none => opens none relevant) done
      · rw [sourced]
        exact named _ _ (counts bridged)
      rw [sourced]
      by_cases same : writer = endpoint.discovererParticipantId
      · rw [same]
        exact iff_of_true (.inr rfl) (counts bridged)
      · rw [changes.activeReader_of_other fun _ _ => same]
        simp [same]
  · next irrelevant =>
      cases done
      intro bridge found
      refine (follows bridge found).congr (changes.sameReaders fun reader => ?_)
      -- Another endpoint makes the source count, before and after.
      obtain ⟨guid, stored, present, counts, different⟩ : ∃ (guid : Guid) (stored : Endpoint),
          other[guid]? = some stored ∧ IsActiveReader endpoint.topic.topicUniqueName
            endpoint.discovererParticipantId stored ∧ guid ≠ endpoint.guid := by
        cases active : endpoint.active with
        | true =>
            rw [isEndpointRelevant_active trigger active, not_and] at irrelevant
            obtain ⟨guid, unlike⟩ := not_forall.mp (irrelevant reader)
            have differs : guid ≠ endpoint.guid := by
              rintro rfl
              exact unlike (iff_of_true ⟨endpoint, holds, active, reader, rfl, rfl⟩ rfl)
            rw [iff_false_right differs, not_not] at unlike
            obtain ⟨stored, present, counts⟩ := unlike
            exact ⟨guid, stored, present, counts, differs⟩
        | false =>
            rw [isEndpointRelevant_inactive trigger active, not_and, not_not] at irrelevant
            obtain ⟨guid, stored, present, counts⟩ := irrelevant reader
            refine ⟨guid, stored, present, counts, ?_⟩
            rintro rfl
            rw [holds] at present
            cases present
            rw [counts.active] at active
            cases active
      exact iff_of_true (changes.symm.stays present counts different)
        ⟨guid, stored, present, counts⟩

omit [IFilterTopic Filter] in
/-- **An endpoint that is reported as removed**, once the database holds no active
one in its place. -/
theorem follows_removedEndpoint {participants : ParticipantsDatabase}
    (named : ReadersNamed entities)
    (follows : slot.Follows participants (ActiveReader entities endpoint.topic.topicUniqueName))
    (inactive : endpoint.active = false)
    (gone : ∀ stored, other[endpoint.guid]? = some stored → stored.active = false)
    (done : (if configuration.removeUnusedEntities &&
        Pipe.isEndpointRelevant configuration other endpoint then
        .ok (slot.removed endpoint.discovererParticipantId)
      else (.ok slot : Except Fault TopicSlot)) = .ok after) :
    after.Follows participants
      (ActiveReader other endpoint.topic.topicUniqueName) := by
  rw [removes, Bool.true_and] at done
  split at done
  · next relevant =>
      cases done
      obtain ⟨_, none⟩ := (isEndpointRelevant_inactive trigger inactive).mp relevant
      refine follows_removed (named _) follows fun writer => ?_
      by_cases same : writer = endpoint.discovererParticipantId
      · rw [same]
        exact iff_of_false (fun both => both.2 rfl) none
      · rw [changes.activeReader_of_other fun _ _ => same]
        simp [same]
  · next irrelevant =>
      cases done
      intro bridge found
      refine (follows bridge found).congr (changes.sameReaders fun reader => ?_)
      rw [isEndpointRelevant_inactive trigger inactive, not_and, not_not] at irrelevant
      obtain ⟨guid, stored, present, active⟩ := irrelevant reader
      refine iff_of_true (changes.symm.stays present active ?_) ⟨guid, stored, present, active⟩
      rintro rfl
      have dead := gone stored present
      rw [active.active] at dead
      cases dead

end Notification

/-! ### Runs -/

/-- What every endpoint of a guid has in common. -/
structure Identity where
  topic : DdsTopic
  kind : EndpointKind
  discovererParticipantId : ParticipantId

structure Identified (identity : Guid → Identity) (endpoint : Endpoint) : Prop where
  topic : endpoint.topic = (identity endpoint.guid).topic
  kind : endpoint.kind = (identity endpoint.guid).kind
  discoverer : endpoint.discovererParticipantId =
    (identity endpoint.guid).discovererParticipantId

section Runs

open TransitionSystem

variable {Filter : Type} [IFilterTopic Filter]

/-- Every guid keeps its topic, its kind and its discoverer, which is a
participant and the discoverer of the topic. -/
def FromSources (participants : ParticipantsDatabase) (identity : Guid → Identity)
    (event : Event Filter) : Prop :=
  ∀ item, event.action = .database item → Identified identity item.2 ∧
    item.2.topic.topicDiscoverer = item.2.discovererParticipantId ∧
      item.2.discovererParticipantId ∈ participants

/-- The writers of every active topic that is no service topic follow its readers. -/
def WritersFollow (participants : ParticipantsDatabase) (state : Discovery Filter) : Prop :=
  ∀ (name : String) entry bridge, state.pipe.currentTopics[name]? = some entry →
    entry.active = true → isServiceTopic entry.topic = false →
    state.pipe.bridges[name]? = some bridge →
    ∀ reader ∈ participants, ∀ writer ∈ participants,
      bridge.RouteAllows participants reader writer →
        (bridge.HasWriterIn reader writer ↔ ActiveReader state.entities name writer)

/-- The topic that a call creates the bridge of a unique name from, unless the
creation fails. -/
def Pipe.opensFrom (configuration : DdsPipeConfiguration Filter)
    (participants : ParticipantsDatabase) (pipe : Pipe Filter) (name : String) :
    Call Filter → Option DdsTopic
  | .enable =>
      if pipe.enabled || pipe.bridges.contains name then none
      else (pipe.currentTopics[name]?.map CurrentTopic.topic).filter
        pipe.allowedTopics.isTopicAllowed
  | .disable => none
  | .reloadConfiguration newConfiguration =>
      let list := AllowedTopicList.create newConfiguration.allowlist newConfiguration.blocklist
      if (newConfiguration.isValid participants.getParticipantsRepeaterMap).toOption.isSome &&
          pipe.enabled && !list.same pipe.allowedTopics && !pipe.bridges.contains name then
        ((pipe.currentTopics[name]?.filter fun entry => !entry.active).map
          CurrentTopic.topic).filter list.isTopicAllowed
      else none
  | .notified entities notification =>
      let endpoint := notification.endpoint
      let discovers := match notification with
        | .discovered _ => true
        | .updated endpoint => endpoint.active
        | .erased _ => false
      if discovers && !isServiceTopic endpoint.topic && endpoint.topic.topicUniqueName == name &&
          Pipe.isEndpointRelevant configuration entities endpoint && pipe.enabled &&
          pipe.allowedTopics.isTopicAllowed endpoint.topic && !pipe.bridges.contains name then
        some endpoint.topic
      else none

/-- A bridge is created only when the sources that have readers of its topic are
the discoverer of the topic that it is created from. -/
def OpensForReaders (configuration : DdsPipeConfiguration Filter)
    (participants : ParticipantsDatabase) (state : Discovery Filter) (event : Event Filter) :
    Prop :=
  ∀ call ∈ (event.action.calls state.entities).2, ∀ name topic,
    state.pipe.opensFrom configuration participants name call = some topic →
    ∀ bridge, DdsBridge.construct ⟨participants, event.createThrows⟩ topic
      (configuration.getRoutesConfig topic) configuration.removeUnusedEntities = .ok bridge →
    ∀ writer, ActiveReader (event.action.calls state.entities).1 name writer ↔
      writer = topic.topicDiscoverer

/-- An operation on an endpoint whose topic has a bridge leaves the sources that
have readers of the topic as they are, when the pipe does not hear of it; and an
inactive reader is added next to an active one of its source only. -/
structure HearsReaders (entities : Entities) (item : DatabaseOperation × Endpoint) : Prop where
  unheard : isServiceTopic item.2.topic = true ∨
      item.1 = .add ∧ (∃ stored, entities[item.2.guid]? = some stored) ∨
      item.1 = .erase ∧ item.2.active = true →
    ∀ writer, ActiveReader (processItem entities item).1 item.2.topic.topicUniqueName writer ↔
      ActiveReader entities item.2.topic.topicUniqueName writer
  added : isServiceTopic item.2.topic = false → item.1 = .add → item.2.active = false →
    item.2.isReader = true → entities[item.2.guid]? = none →
      ActiveReader entities item.2.topic.topicUniqueName item.2.discovererParticipantId

/-- The condition on one event under which the writers go on to follow the readers. -/
structure KeepsFollowing (configuration : DdsPipeConfiguration Filter)
    (participants : ParticipantsDatabase) (state : Discovery Filter) (event : Event Filter) : Prop
    where
  named : ∀ item, event.action = .database item → item.2.isReader = true →
    item.2.active = true → item.2.discovererParticipantId ≠ defaultParticipantId
  hears : ∀ item, event.action = .database item →
    state.pipe.bridges.contains item.2.topic.topicUniqueName = true →
      HearsReaders state.entities item
  opens : OpensForReaders configuration participants state event

variable {configuration : DdsPipeConfiguration Filter} {participants : ParticipantsDatabase}
  {identity : Guid → Identity} {state next : Discovery Filter}

omit [IFilterTopic Filter] in
theorem Identified.same {endpoint other : Endpoint} (first : Identified identity endpoint)
    (second : Identified identity other) (sameGuid : endpoint.guid = other.guid) :
    SameIdentity endpoint other := by
  refine ⟨?_, ?_, ?_⟩
  · rw [first.topic, second.topic, sameGuid]
  · rw [first.kind, second.kind, sameGuid]
  · rw [first.discoverer, second.discoverer, sameGuid]

/-- The endpoints that the database holds, each under its own guid. -/
def EntitiesIdentified (identity : Guid → Identity) (entities : Entities) : Prop :=
  ∀ (guid : Guid) endpoint, entities[guid]? = some endpoint →
    endpoint.guid = guid ∧ Identified identity endpoint

/-- **An operation changes the map at its own guid** at most. -/
theorem changedAt_processItem {entities : Entities} {item : DatabaseOperation × Endpoint}
    (identified : EntitiesIdentified identity entities) (endpoint : Identified identity item.2) :
    ChangedAt item.2 entities (processItem entities item).1 ∧
      EntitiesIdentified identity (processItem entities item).1 := by
  have before : ∀ stored, entities[item.2.guid]? = some stored → SameIdentity stored item.2 :=
    fun stored found => (identified _ stored found).2.same endpoint (identified _ stored found).1
  have inserted : ChangedAt item.2 entities (entities.insert item.2.guid item.2) ∧
      EntitiesIdentified identity (entities.insert item.2.guid item.2) := by
    refine ⟨⟨fun guid different => ?_, before, fun stored found => ?_⟩,
      fun guid stored found => ?_⟩
    · rw [getElem?_insert_guid, if_neg (Ne.symm different)]
    · rw [getElem?_insert_guid, if_pos rfl] at found
      cases found
      exact ⟨rfl, rfl, rfl⟩
    · rw [getElem?_insert_guid] at found
      split at found
      · next same =>
          cases found
          exact ⟨same, endpoint⟩
      · exact identified guid stored found
  have erased : ChangedAt item.2 entities (entities.erase item.2.guid) ∧
      EntitiesIdentified identity (entities.erase item.2.guid) := by
    refine ⟨⟨fun guid different => OrderedMap.getElem?_erase_of_ne different, before,
      fun stored found => ?_⟩, fun guid stored found => ?_⟩
    · rw [TreeMap.getElem?_erase_self] at found
      cases found
    · by_cases same : guid = item.2.guid
      · rw [same, TreeMap.getElem?_erase_self] at found
        cases found
      · rw [OrderedMap.getElem?_erase_of_ne same] at found
        exact identified guid stored found
  rcases processItem_cases entities item with
    ⟨_, _, same, _⟩ | ⟨_, _, map, _⟩ | ⟨_, _, _, _, map⟩
  · exact ⟨⟨fun guid _ => same guid, before, fun stored found => before stored (same _ ▸ found)⟩,
      fun guid stored found => identified guid stored (same guid ▸ found)⟩
  · rw [map]
    cases item.1 with
    | add => exact inserted
    | update => exact inserted
    | erase => exact erased
  · rw [map]
    exact inserted

/-! ### One event -/

section Step

variable {environment : Environment} {pipe after : Pipe Filter}
  {sources : String → ParticipantId → Prop}

variable (keyed : pipe.WellKeyed)
  (follows : ∀ name, (pipe.topicSlot name).Follows environment.participants (sources name))

include keyed follows

theorem follows_enablePipe
    (opens : ∀ name topic, pipe.opensFrom configuration environment.participants name .enable =
      some topic → OpensFollowing configuration environment (sources name) topic)
    (performed : pipe.perform configuration environment .enable = .ok after) (name : String) :
    (after.topicSlot name).Follows environment.participants (sources name) := by
  obtain ⟨⟨code, last⟩, enabled, rfl⟩ := OrderedMap.map_eq_ok_iff.mp performed
  rcases enable_cases keyed enabled with ⟨_, rfl⟩ | ⟨stopped, _, _, topics, _⟩
  · exact follows name
  · refine follows_enable (follows name) (fun entry current allowed none => ?_) (topics name)
    apply opens name entry.topic
    have known : pipe.currentTopics[name]? = some entry := current
    have absent : pipe.bridges.contains name = false := by
      rw [TreeMap.contains_eq_isSome_getElem?, show pipe.bridges[name]? = Option.none from none]
      rfl
    simp [Pipe.opensFrom, stopped, known, absent, allowed]

theorem follows_disablePipe
    (performed : pipe.perform configuration environment .disable = .ok after) (name : String) :
    (after.topicSlot name).Follows environment.participants (sources name) := by
  cases performed
  rcases disable_cases keyed with ⟨_, unchanged⟩ | ⟨_, _, _, topics, _⟩
  · rw [unchanged]
    exact follows name
  · rw [topics name]
    exact follows_disable (follows name)

theorem follows_reloadPipe {newConfiguration : DdsPipeConfiguration Filter}
    (opens : ∀ name topic, pipe.opensFrom configuration environment.participants name
      (.reloadConfiguration newConfiguration) = some topic →
        OpensFollowing configuration environment (sources name) topic)
    (performed : pipe.perform configuration environment (.reloadConfiguration newConfiguration) =
      .ok after) (name : String) :
    (after.topicSlot name).Follows environment.participants (sources name) := by
  obtain ⟨⟨answer, last⟩, reloaded, rfl⟩ := OrderedMap.map_eq_ok_iff.mp performed
  rcases reloadConfiguration_cases reloaded with rfl | ⟨valid, code, installed⟩
  · exact follows name
  · rcases reloadAllowedTopics_cases keyed installed with
      ⟨_, rfl⟩ | ⟨_, _, rfl⟩ | ⟨differs, running, _, _, topics, _⟩
    · exact follows name
    · exact follows name
    · refine follows_reload (follows name) (fun entry current inactive allowed none => ?_)
        (topics name)
      apply opens name entry.topic
      have known : pipe.currentTopics[name]? = some entry := current
      have absent : pipe.bridges.contains name = false := by
        rw [TreeMap.contains_eq_isSome_getElem?, show pipe.bridges[name]? = Option.none from none]
        rfl
      simp [Pipe.opensFrom, valid, Except.toOption, running, differs, known, absent, inactive,
        allowed]

end Step

omit [IFilterTopic Filter] in
/-- A slot that is passed by follows the new sources when they are the old ones. -/
theorem follows_passedBy {pipe : Pipe Filter} {name : String} {before after : ParticipantId → Prop}
    (follows : (pipe.topicSlot name).Follows participants before)
    (same : pipe.bridges.contains name = true → ∀ writer, after writer ↔ before writer) :
    (pipe.topicSlot name).Follows participants after := by
  intro bridge found
  have bridged : pipe.bridges.contains name = true := by
    rw [TreeMap.contains_eq_isSome_getElem?, show pipe.bridges[name]? = some bridge from found]
    rfl
  exact (follows bridge found).congr fun writer => (same bridged writer).symm

section Database

variable (trigger : configuration.discoveryTrigger = .reader)
  (removes : configuration.removeUnusedEntities = true)
  {createThrows : CreateThrows} {item : DatabaseOperation × Endpoint} {pipe after : Pipe Filter}
  {entities : Entities}
  (named : ReadersNamed entities) (namedAfter : ReadersNamed (processItem entities item).1)
  (changes : ChangedAt item.2 entities (processItem entities item).1)
  (hears : pipe.bridges.contains item.2.topic.topicUniqueName = true → HearsReaders entities item)
  (follows : ∀ name, (pipe.topicSlot name).Follows participants (ActiveReader entities name))

include changes follows

omit [IFilterTopic Filter] in
/-- The topics of other unique names have the readers that they had. -/
theorem follows_elsewhere {name : String} (other : name ≠ item.2.topic.topicUniqueName) :
    (pipe.topicSlot name).Follows participants
      (ActiveReader (processItem entities item).1 name) :=
  follows_passedBy (follows name) fun _ _ =>
    changes.activeReader_of_other fun _ named => absurd named (Ne.symm other)

include trigger removes named namedAfter hears

/-- **The notification of an endpoint** on a topic that is no service topic, on the
slot of that topic. -/
theorem follows_notifiedSlot {slot : TopicSlot}
    (sourced : item.2.topic.topicDiscoverer = item.2.discovererParticipantId)
    (notService : isServiceTopic item.2.topic = false)
    (map : (processItem entities item).1 = hear entities (item.1.callback item.2))
    (fresh : item.1 = .add → entities[item.2.guid]? = none)
    (opens : pipe.bridges.contains item.2.topic.topicUniqueName = false →
      (match item.1.callback item.2 with
        | .discovered _ => true
        | .updated endpoint => endpoint.active
        | .erased _ => false) = true →
      Pipe.isEndpointRelevant configuration (processItem entities item).1 item.2 = true →
      pipe.enabled = true → pipe.allowedTopics.isTopicAllowed item.2.topic = true →
        OpensFollowing configuration ⟨participants, createThrows⟩
          (ActiveReader (processItem entities item).1 item.2.topic.topicUniqueName) item.2.topic)
    (changed : (pipe.topicSlot item.2.topic.topicUniqueName).notified configuration
      ⟨participants, createThrows⟩ pipe.enabled pipe.allowedTopics (processItem entities item).1
        (item.1.callback item.2) = .ok slot) :
    slot.Follows participants
      (ActiveReader (processItem entities item).1 item.2.topic.topicUniqueName) := by
  have bridged : (pipe.topicSlot item.2.topic.topicUniqueName).bridge ≠ none →
      pipe.bridges.contains item.2.topic.topicUniqueName = true := by
    intro some
    rw [TreeMap.contains_eq_isSome_getElem?]
    exact Option.isSome_iff_ne_none.mpr some
  have unbridged : (pipe.topicSlot item.2.topic.topicUniqueName).bridge = none →
      pipe.bridges.contains item.2.topic.topicUniqueName = false := by
    intro none
    rw [TreeMap.contains_eq_isSome_getElem?]
    exact Option.isSome_eq_false_iff.mpr (Option.isNone_iff_eq_none.mpr none)
  obtain ⟨operation, endpoint⟩ := item
  cases operation with
  | add =>
      have holds : (processItem entities (.add, endpoint)).1[endpoint.guid]? = some endpoint := by
        rw [map]
        exact TreeMap.getElem?_insert_self
      refine follows_discoveredEndpoint trigger removes changes namedAfter (follows _) sourced holds
        (fun inactive some reader => ?_) (fun none => opens (unbridged none) rfl) changed
      obtain ⟨guid, stored, found, counts⟩ :=
        (hears (bridged some)).added notService rfl inactive reader (fresh rfl)
      refine changes.stays found counts ?_
      rintro rfl
      rw [fresh rfl] at found
      cases found
  | update =>
      have holds : (processItem entities (.update, endpoint)).1[endpoint.guid]? =
          some endpoint := by
        rw [map]
        exact TreeMap.getElem?_insert_self
      simp only [DatabaseOperation.callback, TopicSlot.notified] at changed
      split at changed
      · next active =>
          exact follows_discoveredEndpoint trigger removes changes namedAfter (follows _)
            sourced holds (fun inactive => by rw [active] at inactive; cases inactive)
            (fun none => opens (unbridged none) active) changed
      · next inactive =>
          rw [Bool.not_eq_true] at inactive
          refine follows_removedEndpoint trigger removes changes named (follows _) inactive
            (fun stored found => ?_) changed
          rw [holds] at found
          cases found
          exact inactive
  | erase =>
      have gone : (processItem entities (.erase, endpoint)).1[endpoint.guid]? = none := by
        rw [map]
        exact TreeMap.getElem?_erase_self
      simp only [DatabaseOperation.callback, TopicSlot.notified] at changed
      cases active : endpoint.active with
      | false =>
          refine follows_removedEndpoint trigger removes changes named (follows _) active
            (fun stored found => ?_) changed
          rw [gone] at found
          cases found
      | true =>
          rw [if_neg] at changed
          · cases changed
            exact follows_passedBy (follows _) fun some =>
              (hears some).unheard (.inr (.inr ⟨rfl, active⟩))
          · rw [Bool.and_eq_true, not_and]
            intro _ relevant
            obtain ⟨_, only⟩ := (isEndpointRelevant_active trigger active).mp relevant
            obtain ⟨stored, found, _⟩ := (only endpoint.guid).mpr rfl
            rw [gone] at found
            cases found

end Database

/-- The pipe's bridges follow the readers, and what that rests on. -/
structure Discovery.Following (participants : ParticipantsDatabase) (identity : Guid → Identity)
    (state : Discovery Filter) : Prop where
  keyed : state.pipe.WellKeyed
  named : ReadersNamed state.entities
  identified : EntitiesIdentified identity state.entities
  follows : ∀ name, (state.pipe.topicSlot name).Follows participants
    (ActiveReader state.entities name)

theorem following_initial (empty : configuration.builtinTopics.topics.isEmpty = true)
    (initial : (discoverySystem configuration participants).Initial state) :
    state.Following participants identity := by
  obtain ⟨unknown, createThrows, constructed⟩ := initial
  obtain ⟨middle, _, keyed, _, _, topics, last⟩ := construct_cases constructed
  have blank : ∀ name, middle.topicSlot name = ⟨none, none, 0⟩ := by
    intro name
    rcases topics name with blank | ⟨topic, builtin, _⟩
    · exact blank
    · rw [TreeMap.getElem?_of_isEmpty empty] at builtin
      cases builtin
  have named : ReadersNamed state.entities := by
    rintro name writer ⟨guid, stored, found, _⟩
    simp [unknown] at found
  have follows : ∀ name, (middle.topicSlot name).Follows participants fun _ => False := by
    intro name bridge found
    rw [blank name] at found
    cases found
  have identified : EntitiesIdentified identity state.entities := by
    intro guid endpoint found
    simp [unknown] at found
  have none : ∀ name writer, False ↔ ActiveReader state.entities name writer := by
    intro name writer
    simp [ActiveReader, unknown]
  rcases last with ⟨_, rfl⟩ | ⟨_, enabled⟩
  · exact ⟨keyed, named, identified, fun name bridge found =>
      (follows name bridge found).congr (none name)⟩
  · refine ⟨wellKeyed_perform keyed enabled, named, identified, fun name bridge found => ?_⟩
    have opens : ∀ name topic, middle.opensFrom configuration participants name .enable =
        some topic →
          OpensFollowing configuration ⟨participants, createThrows⟩ (fun _ => False) topic := by
      intro name topic opened
      have nothing : middle.currentTopics[name]? = Option.none :=
        congrArg TopicSlot.current (blank name)
      simp [Pipe.opensFrom, nothing] at opened
    have kept := follows_enablePipe keyed follows opens enabled name bridge found
    exact kept.congr (none name)

/-- What the condition on the creation of bridges says of a topic, whose discoverer has an
active reader then. -/
theorem OpensForReaders.opensFollowing {event : Event Filter} {call : Call Filter}
    (removes : configuration.removeUnusedEntities = true)
    (opens : OpensForReaders configuration participants state event)
    (calls : call ∈ (event.action.calls state.entities).2) {name : String} {topic : DdsTopic}
    (opened : state.pipe.opensFrom configuration participants name call = some topic)
    (named : ReadersNamed (event.action.calls state.entities).1) :
    OpensFollowing configuration ⟨participants, event.createThrows⟩
      (ActiveReader (event.action.calls state.entities).1 name) topic := by
  intro bridge constructed
  have only := opens call calls name topic opened bridge constructed
  have discovered := named name topic.topicDiscoverer ((only _).mpr rfl)
  exact opensFollowing_of_only removes discovered (fun _ _ => only) bridge constructed

/-- The same for the calls of the user, which leave the database as it is. -/
theorem OpensForReaders.opensFollowing_of_call {event : Event Filter} {call : Call Filter}
    (removes : configuration.removeUnusedEntities = true)
    (opens : OpensForReaders configuration participants state event)
    (only : event.action.calls state.entities = (state.entities, [call]))
    (named : ReadersNamed state.entities) (name : String) (topic : DdsTopic)
    (opened : state.pipe.opensFrom configuration participants name call = some topic) :
    OpensFollowing configuration ⟨participants, event.createThrows⟩
      (ActiveReader state.entities name) topic := by
  have calls : call ∈ (event.action.calls state.entities).2 := by simp [only]
  have following := opens.opensFollowing removes calls opened (by rwa [only])
  rwa [only] at following

/-- **A call of the user** keeps the bridges following the readers. -/
theorem follows_user {event : Event Filter} {call : Call Filter}
    (user : call = .enable ∨ call = .disable ∨
      ∃ newConfiguration, call = .reloadConfiguration newConfiguration)
    (only : event.action.calls state.entities = (state.entities, [call]))
    (removes : configuration.removeUnusedEntities = true)
    (opens : OpensForReaders configuration participants state event)
    (following : state.Following participants identity)
    (succeeded : state.perform configuration ⟨participants, event.createThrows⟩ event.action =
      .ok next) (name : String) :
    (next.pipe.topicSlot name).Follows participants (ActiveReader next.entities name) := by
  have opensFollowing := opens.opensFollowing_of_call removes only following.named
  obtain ⟨map, ⟨other, _⟩ | ⟨called, same, performed⟩⟩ := discoveryPerform_cases succeeded
  · rw [only] at other
    cases other
  · rw [only] at map same
    cases same
    rw [map]
    rcases user with rfl | rfl | ⟨newConfiguration, rfl⟩
    · exact follows_enablePipe following.keyed following.follows opensFollowing performed name
    · exact follows_disablePipe following.keyed following.follows performed name
    · refine follows_reloadPipe following.keyed following.follows ?_ performed name
      exact opensFollowing

/-- **An operation of the database** keeps the bridges following the readers. -/
theorem follows_database (trigger : configuration.discoveryTrigger = .reader)
    (removes : configuration.removeUnusedEntities = true) {createThrows : CreateThrows}
    {item : DatabaseOperation × Endpoint}
    (sources : FromSources participants identity (⟨.database item, createThrows⟩ : Event Filter))
    (keeps : KeepsFollowing configuration participants state ⟨.database item, createThrows⟩)
    (following : state.Following participants identity)
    (succeeded : state.perform configuration ⟨participants, createThrows⟩ (.database item) =
      .ok next) (name : String) :
    (next.pipe.topicSlot name).Follows participants (ActiveReader next.entities name) := by
  obtain ⟨identified, sourced, _⟩ := sources item rfl
  have namedAfter := readersNamed_processItem following.named (keeps.named item rfl)
  have hears := keeps.hears item rfl
  obtain ⟨changes, _⟩ := changedAt_processItem following.identified identified
  obtain ⟨processed, cases⟩ := databasePerform_cases succeeded
  have named : (item.1.callback item.2).endpoint = item.2 := by
    cases item.1 <;> rfl
  by_cases here : name = item.2.topic.topicUniqueName
  case neg =>
    have elsewhere := follows_elsewhere changes following.follows here
    have slot : next.pipe.topicSlot name = state.pipe.topicSlot name := by
      rcases cases with ⟨_, unchanged⟩ | ⟨_, _, _, unchanged⟩ | ⟨_, _, _, notified⟩
      · rw [unchanged]
      · rw [unchanged]
      · cases service : isServiceTopic item.2.topic with
        | true =>
            rw [← named, ← isSome_rpcTopicOf, Option.isSome_iff_exists] at service
            obtain ⟨rpcTopic, ofService⟩ := service
            exact (onService_notified ofService notified).topics.topicSlot name
        | false =>
            rw [← named] at service here
            exact (onTopic_notified service notified).others name here
    rw [slot, processed]
    exact elsewhere
  case pos =>
    subst here
    rcases cases with ⟨same, unchanged⟩ | ⟨adds, ⟨stored, found, _⟩, _, unchanged⟩ |
      ⟨fresh, map, told, notified⟩
    · rw [unchanged]
      exact follows_passedBy (following.follows _) fun _ _ => activeReader_congr same
    · rw [unchanged, processed]
      exact follows_passedBy (following.follows _) fun bridged =>
        (hears bridged).unheard (.inr (.inl ⟨adds, stored, found⟩))
    · rw [processed] at map notified ⊢
      cases service : isServiceTopic item.2.topic with
      | true =>
          have heard := service
          rw [← named, ← isSome_rpcTopicOf, Option.isSome_iff_exists] at service
          obtain ⟨rpcTopic, ofService⟩ := service
          rw [(onService_notified ofService notified).topics.topicSlot]
          exact follows_passedBy (following.follows _) fun bridged =>
            (hears bridged).unheard (.inl heard)
      | false =>
          have changed := (onTopic_notified (by rwa [named]) notified).changed
          rw [named] at changed
          refine follows_notifiedSlot trigger removes following.named namedAfter changes hears
            following.follows sourced service map fresh
            (fun unbridged discovers relevant running allowed => ?_) changed
          have calls : Call.notified (processItem state.entities item).1
              (item.1.callback item.2) ∈
                ((Action.database item : Action Filter).calls state.entities).2 := by
            simp [Action.calls, told]
          refine keeps.opens.opensFollowing removes calls ?_ namedAfter
          simp only [Pipe.opensFrom, named]
          rw [discovers, service, relevant, running, allowed, unbridged]
          simp

/-- **The writers follow the readers** in the runs that keep each guid's identity,
whose changes of the readers the pipe hears of, and whose bridges are created
for all the readers that there are. -/
theorem writersFollow_of_reachable (trigger : configuration.discoveryTrigger = .reader)
    (removes : configuration.removeUnusedEntities = true)
    (empty : configuration.builtinTopics.topics.isEmpty = true)
    (reached : (discoverySystem configuration participants).Reachable
      (fun state event => FromSources participants identity event ∧
        KeepsFollowing configuration participants state event) state) :
    WritersFollow participants state := by
  have initially : ∀ start, (discoverySystem configuration participants).Initial start →
      start.Following participants identity := fun _ => following_initial empty
  have kept : ∀ before event after, before.Following participants identity →
      FromSources participants identity event ∧
        KeepsFollowing configuration participants before event →
      (discoverySystem configuration participants).step before event = some after →
      after.Following participants identity := by
    rintro before ⟨action, createThrows⟩ after following ⟨sources, keeps⟩ taken
    have succeeded := discoveryStep_eq_some_iff.mp taken
    refine ⟨wellKeyed_discoveryPerform following.keyed succeeded, ?_, ?_, fun name => ?_⟩
    · rw [(discoveryPerform_cases succeeded).1]
      cases action with
      | database item => exact readersNamed_processItem following.named (keeps.named item rfl)
      | _ => exact following.named
    · rw [(discoveryPerform_cases succeeded).1]
      cases action with
      | database item => exact (changedAt_processItem following.identified (sources item rfl).1).2
      | _ => exact following.identified
    · cases action with
      | database item =>
          exact follows_database trigger removes sources keeps following succeeded name
      | enable => exact follows_user (.inl rfl) rfl removes keeps.opens following succeeded name
      | disable =>
          exact follows_user (.inr (.inl rfl)) rfl removes keeps.opens following succeeded name
      | reloadConfiguration newConfiguration =>
          exact follows_user (.inr (.inr ⟨newConfiguration, rfl⟩)) rfl removes keeps.opens following
            succeeded name
  intro name entry bridge _ _ _ found reader participant writer _ allowed
  have follows := (reached.invariant initially kept).follows name bridge found reader writer
  rw [follows]
  exact ⟨fun all => all.2.1, fun active => ⟨participant, active, allowed⟩⟩

/-! ### Two participants with readers of one topic -/

/-- A simple case of the condition on one event, as a test: endpoints are added once
and then updated, on a topic with a bridge or in an empty database. -/
def keepsFollowing (state : Discovery Filter) (event : Event Filter) : Bool :=
  match event.action with
  | .enable => state.pipe.currentTopics.isEmpty
  | .disable => true
  | .reloadConfiguration _ => false
  | .database (operation, endpoint) =>
      endpoint.discovererParticipantId != defaultParticipantId &&
        !isServiceTopic endpoint.topic &&
        (operation == .update || operation == .add && endpoint.active &&
          !state.entities.contains endpoint.guid) &&
        (state.pipe.bridges.contains endpoint.topic.topicUniqueName ||
          operation == .add && endpoint.active && endpoint.isReader && state.entities.isEmpty)

omit [IFilterTopic Filter] in
/-- The only endpoint of the database is the only reader. -/
theorem activeReader_insert_of_isEmpty {entities : Entities} {endpoint : Endpoint}
    (empty : entities.isEmpty = true) (active : endpoint.active = true)
    (reader : endpoint.isReader = true) (writer : ParticipantId) :
    ActiveReader (entities.insert endpoint.guid endpoint) endpoint.topic.topicUniqueName writer ↔
      writer = endpoint.discovererParticipantId := by
  constructor
  · rintro ⟨guid, stored, found, counts⟩
    rw [getElem?_insert_guid, TreeMap.getElem?_of_isEmpty empty] at found
    split at found
    · cases found
      exact counts.discoverer.symm
    · cases found
  · rintro rfl
    exact ⟨endpoint.guid, endpoint, TreeMap.getElem?_insert_self, active, reader, rfl, rfl⟩

theorem keepsFollowing_sound {event : Event Filter}
    (sources : FromSources participants identity event)
    (passed : keepsFollowing state event = true) :
    KeepsFollowing configuration participants state event := by
  obtain ⟨action, createThrows⟩ := event
  cases action with
  | enable =>
      refine ⟨fun _ other => (by cases other), fun _ other => (by cases other), ?_⟩
      intro call calls name topic opened
      rw [List.mem_singleton.mp calls] at opened
      simp [Pipe.opensFrom, TreeMap.getElem?_of_isEmpty (show _ = true from passed)] at opened
  | disable =>
      refine ⟨fun _ other => (by cases other), fun _ other => (by cases other), ?_⟩
      intro call calls name topic opened
      rw [List.mem_singleton.mp calls] at opened
      cases opened
  | reloadConfiguration newConfiguration => cases passed
  | database item =>
      obtain ⟨operation, endpoint⟩ := item
      simp only [keepsFollowing, Bool.and_eq_true, bne_iff_ne, Bool.not_eq_true'] at passed
      obtain ⟨⟨⟨known, notService⟩, once⟩, simple⟩ := passed
      refine ⟨?_, ?_, ?_⟩
      · rintro item same _ _
        cases same
        exact known
      · rintro item same _
        cases same
        refine ⟨fun unheard => ?_, fun _ adds inactive => ?_⟩
        · rcases unheard with service | ⟨adds, stored, found⟩ | ⟨erases, _⟩
          · rw [notService] at service
            cases service
          · cases adds
            rw [TreeMap.contains_eq_isSome_getElem?, found] at once
            simp at once
          · cases erases
            simp at once
        · cases adds
          have active : endpoint.active = false := inactive
          simp [active] at once
      · intro call calls name topic opened bridge _ writer
        obtain ⟨notification, told, rfl⟩ := List.mem_map.mp calls
        rcases processItem_cases state.entities (operation, endpoint) with
          ⟨_, silent, _⟩ | ⟨_, one, map, _⟩ | ⟨_, _, _, silent, _⟩
        · rw [silent] at told
          cases told
        · rw [one, List.mem_singleton] at told
          subst told
          have named : (operation.callback endpoint).endpoint = endpoint := by
            cases operation <;> rfl
          simp only [Pipe.opensFrom, named] at opened
          obtain ⟨opens, same⟩ := Option.ite_none_right_eq_some.mp opened
          cases same
          simp only [Bool.and_eq_true, beq_iff_eq, Bool.not_eq_true'] at opens
          obtain ⟨⟨⟨⟨⟨_, rfl⟩, _⟩, _⟩, _⟩, absent⟩ := opens
          rw [absent, Bool.false_or, Bool.and_eq_true, Bool.and_eq_true, Bool.and_eq_true]
            at simple
          obtain ⟨⟨⟨adds, active⟩, reader⟩, empty⟩ := simple
          rw [beq_iff_eq] at adds
          cases adds
          have discoverer := (sources _ rfl).2.1
          simp only [Action.calls, map, DatabaseOperation.callback, hear]
          rw [activeReader_insert_of_isEmpty empty active reader, ← discoverer]
        · rw [silent] at told
          cases told

end Runs

section Example

open TransitionSystem

/-- A reader of `chatter` that a participant discovers under a prefix. -/
def readerOf (participantId : ParticipantId) (guidPrefix : GuidPrefix) : Endpoint :=
  { chatterReader with
    guid := ⟨guidPrefix, 7⟩
    topic := { chatterReader.topic with topicDiscoverer := participantId }
    discovererParticipantId := participantId }

/-- The readers of prefix 1 are those of participant `a`, the others of `b`. -/
def chatterIdentity (guid : Guid) : Identity where
  topic := { chatterReader.topic with
    topicDiscoverer := if guid.guidPrefix = 1 then "a" else "b" }
  kind := .reader
  discovererParticipantId := if guid.guidPrefix = 1 then "a" else "b"

def removingConfiguration : DdsPipeConfiguration WildcardDdsFilterTopic where
  removeUnusedEntities := true

/-- An operation on an endpoint, as an event. -/
def operate {Filter : Type} (operation : DatabaseOperation) (endpoint : Endpoint) : Event Filter
    where
  action := .database (operation, endpoint)

theorem fromSources_operate {Filter : Type} {operation : DatabaseOperation} {endpoint : Endpoint}
    (identified : Identified chatterIdentity endpoint)
    (sourced : endpoint.topic.topicDiscoverer = endpoint.discovererParticipantId)
    (participant : endpoint.discovererParticipantId ∈ twoParticipants) :
    FromSources twoParticipants chatterIdentity (operate operation endpoint : Event Filter) := by
  intro item same
  cases same
  exact ⟨identified, sourced, participant⟩

theorem mem_twoParticipants : "a" ∈ twoParticipants ∧ "b" ∈ twoParticipants := by
  decide +kernel

theorem fromSources_readerA {Filter : Type} {operation : DatabaseOperation} {active : Bool} :
    FromSources twoParticipants chatterIdentity
      (operate operation { readerOf "a" 1 with active := active } : Event Filter) :=
  fromSources_operate ⟨rfl, rfl, rfl⟩ rfl mem_twoParticipants.1

theorem fromSources_readerB {Filter : Type} {operation : DatabaseOperation} :
    FromSources twoParticipants chatterIdentity
      (operate operation (readerOf "b" 3) : Event Filter) :=
  fromSources_operate ⟨rfl, rfl, rfl⟩ rfl mem_twoParticipants.2

theorem fromSources_enable {Filter : Type} :
    FromSources twoParticipants chatterIdentity ({ action := .enable } : Event Filter) :=
  fun _ other => by cases other

/-- The run that enables the pipe, discovers a reader in each participant and
removes the first. -/
theorem writersFollow_of_reachable_chatter :
    letI := literalUtils
    ∃ state : Discovery WildcardDdsFilterTopic,
      state.pipe.bridges.contains chatterReader.topic.topicUniqueName = true ∧
        WritersFollow twoParticipants state := by
  let := literalUtils
  have admitted : ∀ (state : Discovery WildcardDdsFilterTopic) event,
      event ∈ [{ action := .enable }, operate .add { readerOf "a" 1 with active := true },
        operate .add (readerOf "b" 3), operate .update { readerOf "a" 1 with active := false }] →
      keepsFollowing state event = true →
      FromSources twoParticipants chatterIdentity event ∧
        KeepsFollowing removingConfiguration twoParticipants state event := by
    intro state event member passed
    have sources : FromSources twoParticipants chatterIdentity event := by
      simp only [List.mem_cons, List.not_mem_nil, or_false] at member
      rcases member with rfl | rfl | rfl | rfl
      · exact fromSources_enable
      · exact fromSources_readerA
      · exact fromSources_readerB
      · exact fromSources_readerA
    exact ⟨sources, keepsFollowing_sound sources passed⟩
  obtain ⟨state, reached, test⟩ := System.exists_reachable_of_runAdmitted
    (discoverySystem removingConfiguration twoParticipants)
    { pipe := Pipe.initAllowedTopics removingConfiguration }
    [{ action := .enable }, operate .add { readerOf "a" 1 with active := true },
      operate .add (readerOf "b" 3), operate .update { readerOf "a" 1 with active := false }]
    keepsFollowing
    (fun state => state.pipe.bridges.contains chatterReader.topic.topicUniqueName)
    admitted ⟨rfl, neverThrows, rfl⟩ (by decide +kernel)
  exact ⟨state, test, writersFollow_of_reachable rfl rfl rfl reached⟩

/-- Each of the participants discovers a reader while the pipe is disabled, and the
pipe is enabled: the bridge has no writer of the second. -/
theorem not_writersFollow_of_reachable :
    letI := literalUtils
    ¬ ∀ state : Discovery WildcardDdsFilterTopic,
      (discoverySystem removingConfiguration twoParticipants).Reachable
        (fun _ event => FromSources twoParticipants chatterIdentity event) state →
          WritersFollow twoParticipants state := by
  let := literalUtils
  intro follow
  have admitted : ∀ event : Event WildcardDdsFilterTopic,
      event ∈ [operate .add { readerOf "a" 1 with active := true },
        operate .add (readerOf "b" 3), { action := .enable }] →
      Discovery WildcardDdsFilterTopic →
        FromSources twoParticipants chatterIdentity event := by
    intro event member _
    simp only [List.mem_cons, List.not_mem_nil, or_false] at member
    rcases member with rfl | rfl | rfl
    · exact fromSources_readerA
    · exact fromSources_readerB
    · exact fromSources_enable
  obtain ⟨state, reached, test⟩ := System.exists_reachable_of_run
    (discoverySystem removingConfiguration twoParticipants)
    { pipe := Pipe.initAllowedTopics removingConfiguration }
    [operate .add { readerOf "a" 1 with active := true }, operate .add (readerOf "b" 3),
      { action := .enable }]
    (fun state =>
      (state.pipe.currentTopics[chatterReader.topic.topicUniqueName]?.any fun entry =>
        entry.active && !isServiceTopic entry.topic) &&
      (state.pipe.bridges[chatterReader.topic.topicUniqueName]?.any fun bridge =>
        !bridge.routes.contains "a" && !bridge.tracks.contains "a") &&
      (state.entities[(readerOf "b" 3).guid]? == some (readerOf "b" 3)))
    admitted ⟨rfl, neverThrows, rfl⟩ (by decide +kernel)
  simp only [Bool.and_eq_true, Option.any_eq_true, Bool.not_eq_true', beq_iff_eq] at test
  obtain ⟨⟨⟨entry, known, active, notService⟩, bridge, found, noRoute, noTrack⟩, stored⟩ := test
  have allowed : bridge.RouteAllows twoParticipants "a" "b" := by
    rw [TreeMap.contains_eq_isSome_getElem?, Option.isSome_eq_false_iff,
      Option.isNone_iff_eq_none] at noRoute
    simp [DdsBridge.RouteAllows, noRoute]
  have follows := follow state reached _ entry bridge known active notService found "a"
    mem_twoParticipants.1 "b" mem_twoParticipants.2 allowed
  obtain ⟨track, present, _⟩ := follows.mpr ⟨_, readerOf "b" 3, stored, rfl, rfl, rfl, rfl⟩
  rw [TreeMap.contains_eq_isSome_getElem?, present] at noTrack
  cases noTrack

end Example

end DdsPipe.Core
