import DdsPipe.Core.Invariants
import DdsPipe.Communication.BridgeFailures

/-!
Owns what becomes of an entity that cannot be created while the pipe processes an
endpoint: the creation of a bridge and the proxies of a service catch the
exception, and a bridge that could not be constructed is not stored. The
creation of a writer in a bridge that is there does not catch it
(`contained_notified_iff`).

Does not own: the calls that enable and reload a pipe.
-/

namespace DdsPipe.Core

open Std (TreeMap)
open DdsPipe.Types DdsPipe.Dynamic DdsPipe.Configuration DdsPipe.Communication

/-- No exception of an entity that cannot be created comes out. -/
abbrev CatchesAll {Result : Type} (outcome : Except Fault Result) : Prop :=
  OrderedMap.FailsOnly (· ≠ Fault.initializationException) outcome

/-! ### The bridge of a service -/

theorem catchesAll_enable (environment : Environment) (bridge : RpcBridge) :
    CatchesAll (bridge.enable environment) := by
  intro fault failed same
  subst same
  unfold RpcBridge.enable at failed
  split at failed
  · split at failed
    · cases failed
    · split at failed
      · cases failed
      · cases failed
      · next other _ => exact other (Except.error.inj failed)
  · cases failed

theorem catchesAll_enableRegistry (bridge : RpcBridge) (participantId : ParticipantId) :
    CatchesAll (bridge.enableRegistry participantId).2 := by
  unfold RpcBridge.enableRegistry
  split
  · exact OrderedMap.failsOnly_ok ()
  · intro fault failed
    cases failed
    exact fun same => by cases same

theorem catchesAll_serverDiscovered (bridge : RpcBridge) (participantId : ParticipantId)
    (guidPrefix : GuidPrefix) : CatchesAll (bridge.discoveredService participantId guidPrefix) := by
  unfold RpcBridge.discoveredService
  dsimp only
  split
  · split
    · exact OrderedMap.failsOnly_ok _
    · next outcome =>
        intro fault failed
        cases failed
        exact catchesAll_enableRegistry _ _ _ (congrArg Prod.snd outcome)
  · exact OrderedMap.failsOnly_ok _

/-! ### The pipe -/

section

variable {Filter : Type} [IFilterTopic Filter]

/-- Processing the notification creates the writer of a participant in a bridge
that is there. -/
structure AddsWriter (configuration : DdsPipeConfiguration Filter) (pipe : Pipe Filter)
    (entities : Entities) (notification : Notification) (bridge : DdsBridge)
    (participantId : ParticipantId) : Prop where
  removesUnused : configuration.removeUnusedEntities = true
  discovers : ∃ endpoint, discoveredBy notification = some endpoint ∧
    isServiceTopic endpoint.topic = false ∧
    Pipe.isEndpointRelevant configuration entities endpoint = true ∧
    pipe.bridges[endpoint.topic.topicUniqueName]? = some bridge ∧
    endpoint.topic.topicDiscoverer = participantId
  named : participantId ≠ defaultParticipantId

/-- No exception leaves the processing of a notification, and the bridges that it
stores for new names could be constructed. -/
structure Contained (configuration : DdsPipeConfiguration Filter) (environment : Environment)
    (pipe : Pipe Filter) (outcome : Except Fault (Pipe Filter)) : Prop where
  caught : outcome ≠ .error .initializationException
  constructed : ∀ next, outcome = .ok next → ∀ (name : String) bridge,
    next.bridges[name]? = some bridge → pipe.bridges[name]? = none →
      ∃ topic new, topic.topicUniqueName = name ∧
        DdsBridge.construct environment topic (configuration.getRoutesConfig topic)
          configuration.removeUnusedEntities = .ok new ∧ bridge = new.enable

variable {configuration : DdsPipeConfiguration Filter} {environment : Environment}
  {pipe next : Pipe Filter}

omit [IFilterTopic Filter] in
theorem catchesAll_createNewBridge (pipe : Pipe Filter) (topic : DdsTopic) (enabled : Bool) :
    CatchesAll (pipe.createNewBridge configuration environment topic enabled) := by
  intro fault failed same
  subst same
  unfold Pipe.createNewBridge at failed
  split at failed
  · cases failed
  · cases failed
  · next other _ => exact other (Except.error.inj failed)

omit [IFilterTopic Filter] in
theorem catchesAll_activateTopic (pipe : Pipe Filter) (topic : DdsTopic) :
    CatchesAll (pipe.activateTopic configuration environment topic) := by
  unfold Pipe.activateTopic
  dsimp only
  split
  · exact catchesAll_createNewBridge _ _ _
  · exact OrderedMap.failsOnly_ok _

omit [IFilterTopic Filter] in
theorem catchesAll_onRpcBridge (pipe : Pipe Filter) (name : String)
    {call : RpcBridge → Except Fault RpcBridge} (caught : ∀ bridge, CatchesAll (call bridge)) :
    CatchesAll (pipe.onRpcBridge name call) := by
  unfold Pipe.onRpcBridge
  split
  · intro fault failed
    cases failed
    exact fun same => by cases same
  · exact OrderedMap.failsOnly_bind (caught _) fun _ => OrderedMap.failsOnly_ok _

theorem catchesAll_discoveredService (pipe : Pipe Filter) (service : RpcTopic)
    (participantId : ParticipantId) (guidPrefix : GuidPrefix) :
    CatchesAll (pipe.discoveredService environment service participantId guidPrefix) := by
  refine OrderedMap.failsOnly_bind (catchesAll_onRpcBridge _ _ fun bridge =>
    catchesAll_serverDiscovered bridge _ _) fun middle => ?_
  split
  · exact catchesAll_onRpcBridge _ _ (catchesAll_enable environment)
  · exact OrderedMap.failsOnly_ok _

omit [IFilterTopic Filter] in
theorem catchesAll_onService {topic : DdsTopic} {call : RpcTopic → Except Fault (Pipe Filter)}
    (caught : ∀ service, CatchesAll (call service)) : CatchesAll (pipe.onService topic call) := by
  unfold Pipe.onService
  split
  · exact caught _
  · exact OrderedMap.failsOnly_ok _

theorem discoveredTopic_throws_iff {topic : DdsTopic} :
    pipe.discoveredTopic configuration environment topic = .error .initializationException ↔
      ∃ bridge, pipe.bridges[topic.topicUniqueName]? = some bridge ∧
        (configuration.removeUnusedEntities &&
          topic.topicDiscoverer != defaultParticipantId) = true ∧
        bridge.CannotCreateWriter environment topic.topicDiscoverer := by
  unfold Pipe.discoveredTopic
  split
  · next absent =>
      refine iff_of_false (fun failed => ?_) (by simp [absent])
      dsimp only at failed
      split at failed
      · exact catchesAll_activateTopic _ _ _ failed rfl
      · cases failed
  · next bridge found =>
      simp only [found, Option.some.injEq, exists_eq_left']
      split
      · next adds =>
          rw [OrderedMap.bind_eq_error_iff, DdsBridge.createWriter_throws_iff]
          simp [adds, pure, Except.pure]
      · next keeps => simp [keeps]

theorem discoveredEndpoint_throws_iff {entities : Entities} {endpoint : Endpoint} :
    pipe.discoveredEndpoint configuration environment entities endpoint =
        .error .initializationException ↔
      isServiceTopic endpoint.topic = false ∧
        Pipe.isEndpointRelevant configuration entities endpoint = true ∧
        pipe.discoveredTopic configuration environment endpoint.topic =
          .error .initializationException := by
  unfold Pipe.discoveredEndpoint
  split
  · next service =>
      refine iff_of_false (fun failed => ?_) (by simp [service])
      split at failed
      · exact catchesAll_onService (fun _ => catchesAll_discoveredService _ _ _ _) _ failed rfl
      · cases failed
  · next topic =>
      split
      · next relevant => simp [topic, relevant]
      · next irrelevant => simp [irrelevant]

omit [IFilterTopic Filter] in
theorem catchesAll_removedEndpoint (entities : Entities) (endpoint : Endpoint) :
    CatchesAll (pipe.removedEndpoint configuration entities endpoint) := by
  unfold Pipe.removedEndpoint
  split
  · split
    · exact catchesAll_onService fun _ => OrderedMap.failsOnly_ok _
    · exact OrderedMap.failsOnly_ok _
  · split
    · split
      · exact OrderedMap.failsOnly_ok _
      · split <;> exact OrderedMap.failsOnly_ok _
    · exact OrderedMap.failsOnly_ok _

variable {entities : Entities} {notification : Notification}

theorem notified_throws_iff_discovered :
    pipe.notified configuration environment entities notification =
        .error .initializationException ↔
      ∃ endpoint, discoveredBy notification = some endpoint ∧
        pipe.discoveredEndpoint configuration environment entities endpoint =
          .error .initializationException := by
  cases notification with
  | discovered endpoint => simp [Pipe.notified, discoveredBy]
  | updated endpoint =>
      simp only [Pipe.notified, Pipe.updatedEndpoint]
      split
      · next service =>
          refine iff_of_false (fun failed => by cases failed) ?_
          rintro ⟨other, discovers, failed⟩
          have same : endpoint = other := endpoint_of_discoveredBy discovers
          have topic := (discoveredEndpoint_throws_iff.mp failed).1
          rw [← same, service] at topic
          cases topic
      · split
        · next active => simp [discoveredBy, active]
        · next inactive =>
            refine iff_of_false (fun failed => ?_) (by simp [discoveredBy, inactive])
            exact catchesAll_removedEndpoint _ _ _ failed rfl
  | erased endpoint =>
      refine iff_of_false (fun failed => ?_) (by simp [discoveredBy])
      exact catchesAll_removedEndpoint _ _ _ failed rfl

/-- **What escapes** is the exception of a writer that is created in a bridge that
is there, or of the reader of a track that this writer newly needs. -/
theorem notified_throws_iff :
    pipe.notified configuration environment entities notification =
        .error .initializationException ↔
      ∃ bridge participantId,
        AddsWriter configuration pipe entities notification bridge participantId ∧
          bridge.CannotCreateWriter environment participantId := by
  rw [notified_throws_iff_discovered]
  constructor
  · rintro ⟨endpoint, discovers, failed⟩
    obtain ⟨topic, relevant, failed⟩ := discoveredEndpoint_throws_iff.mp failed
    obtain ⟨bridge, found, adds, cannot⟩ := discoveredTopic_throws_iff.mp failed
    rw [Bool.and_eq_true, bne_iff_ne] at adds
    exact ⟨bridge, _, ⟨adds.1, ⟨endpoint, discovers, topic, relevant, found, rfl⟩, adds.2⟩, cannot⟩
  · rintro ⟨bridge, _, ⟨removesUnused, ⟨endpoint, discovers, topic, relevant, found, rfl⟩, named⟩,
      cannot⟩
    refine ⟨endpoint, discovers, discoveredEndpoint_throws_iff.mpr ⟨topic, relevant, ?_⟩⟩
    refine discoveredTopic_throws_iff.mpr ⟨bridge, found, ?_, cannot⟩
    rw [removesUnused, Bool.true_and, bne_iff_ne]
    exact named

/-! ### What is stored -/

omit [IFilterTopic Filter] in
theorem constructed_of_activate {slot after : TopicSlot} {topic : DdsTopic} {bridge : DdsBridge}
    (changed : slot.activate configuration environment topic = .ok after)
    (absent : slot.bridge = none) (found : after.bridge = some bridge) :
    ∃ new, DdsBridge.construct environment topic (configuration.getRoutesConfig topic)
      configuration.removeUnusedEntities = .ok new ∧ bridge = new.enable := by
  unfold TopicSlot.activate at changed
  dsimp only at changed
  split at changed
  · unfold TopicSlot.createNewBridge at changed
    split at changed
    · next new constructed =>
        cases changed
        exact ⟨new, constructed, (Option.some.inj found).symm⟩
    · cases changed
      rw [show slot.bridge = some bridge from found] at absent
      cases absent
    · cases changed
  · next there =>
      rw [show slot.bridge = some _ from there] at absent
      cases absent

/-- A bridge that a discovery stores where there was none has been constructed. -/
theorem constructed_of_discovered {slot after : TopicSlot} {topic : DdsTopic} {enabled : Bool}
    {list : AllowedTopicList Filter} {bridge : DdsBridge}
    (changed : slot.discovered configuration environment enabled list topic = .ok after)
    (absent : slot.bridge = none) (found : after.bridge = some bridge) :
    ∃ new, DdsBridge.construct environment topic (configuration.getRoutesConfig topic)
      configuration.removeUnusedEntities = .ok new ∧ bridge = new.enable := by
  unfold TopicSlot.discovered at changed
  rw [absent] at changed
  dsimp only at changed
  split at changed
  · exact constructed_of_activate changed absent found
  · cases changed
    rw [show slot.bridge = some bridge from found] at absent
    cases absent

theorem constructed_of_notified
    (succeeded : pipe.notified configuration environment entities notification = .ok next)
    {name : String} {bridge : DdsBridge} (found : next.bridges[name]? = some bridge)
    (absent : pipe.bridges[name]? = none) :
    ∃ topic new, topic.topicUniqueName = name ∧
      DdsBridge.construct environment topic (configuration.getRoutesConfig topic)
        configuration.removeUnusedEntities = .ok new ∧ bridge = new.enable := by
  have unchanged : next.topicSlot name ≠ pipe.topicSlot name := by
    intro same
    rw [show next.bridges[name]? = pipe.bridges[name]? from congrArg TopicSlot.bridge same,
      absent] at found
    cases found
  cases service : isServiceTopic notification.endpoint.topic with
  | true =>
      rw [← isSome_rpcTopicOf, Option.isSome_iff_exists] at service
      obtain ⟨rpcTopic, ofService⟩ := service
      exact absurd ((onService_notified ofService succeeded).topics.topicSlot name) unchanged
  | false =>
      obtain ⟨_, changed, others⟩ := onTopic_notified service succeeded
      by_cases affected : name = notification.endpoint.topic.topicUniqueName
      · subst affected
        rcases notified_cases changed with
          ⟨endpoint, discovers, _, done⟩ | ⟨participantId, removed⟩ | same
        · obtain ⟨new, constructed, enabled⟩ := constructed_of_discovered done absent found
          rw [endpoint_of_discoveredBy discovers]
          exact ⟨endpoint.topic, new, rfl, constructed, enabled⟩
        · have kept := congrArg TopicSlot.bridge removed
          unfold TopicSlot.removed at kept
          have before :
              (pipe.topicSlot notification.endpoint.topic.topicUniqueName).bridge = none :=
            absent
          have after : (next.topicSlot notification.endpoint.topic.topicUniqueName).bridge =
            some bridge := found
          rw [after] at kept
          split at kept <;> simp [before] at kept
        · exact absurd same unchanged
      · exact absurd (others name affected) unchanged

/-- **Failures are contained** in the processing of a notification exactly when
the writer that it creates in a bridge that is there, and the readers of the
tracks that this writer newly needs, can be created. -/
theorem contained_notified_iff :
    Contained configuration environment pipe
        (pipe.notified configuration environment entities notification) ↔
      ∀ bridge participantId,
        AddsWriter configuration pipe entities notification bridge participantId →
          ¬ bridge.CannotCreateWriter environment participantId := by
  constructor
  · intro contained bridge participantId adds cannot
    exact contained.caught (notified_throws_iff.mpr ⟨bridge, participantId, adds, cannot⟩)
  · intro can
    refine ⟨fun failed => ?_, fun next succeeded name bridge found absent =>
      constructed_of_notified succeeded found absent⟩
    obtain ⟨bridge, participantId, adds, cannot⟩ := notified_throws_iff.mp failed
    exact can bridge participantId adds cannot

/-! ### An exception that escapes -/

open TransitionSystem

/-- Entities that nobody uses are removed, and created when they are needed. -/
def onDemandConfiguration : DdsPipeConfiguration WildcardDdsFilterTopic where
  removeUnusedEntities := true

/-- A reader of `chatter` that participant `b` discovers. -/
def otherChatterReader : Endpoint where
  kind := .reader
  guid := ⟨3, 7⟩
  topic := { topicName := "chatter", typeName := "String", topicDiscoverer := "b" }
  discovererParticipantId := "b"

/-- The readers of `a` and of `b` are discovered one after the other, and the writer
of `b` cannot be created. -/
theorem not_contained_notified :
    letI := literalUtils
    ¬ ∀ (pipe : Pipe WildcardDdsFilterTopic) (createThrows : CreateThrows) (entities : Entities)
      (notification : Notification),
      (pipeSystem onDemandConfiguration twoParticipants (fun _ => True)).Reachable anyStep pipe →
        Contained onDemandConfiguration ⟨twoParticipants, createThrows⟩ pipe
          (pipe.notified onDemandConfiguration ⟨twoParticipants, createThrows⟩ entities
            notification) := by
  let := literalUtils
  intro contained
  let createThrows : CreateThrows := fun kind id _ => kind == .writer && id == "b"
  let entities : Entities := ((∅ : Entities).insert chatterReader.guid chatterReader).insert
    otherChatterReader.guid otherChatterReader
  obtain ⟨pipe, reached, test⟩ := System.exists_reachable_of_run
    (pipeSystem onDemandConfiguration twoParticipants (fun _ => True))
    (Pipe.initAllowedTopics onDemandConfiguration)
    [⟨.enable, neverThrows⟩, ⟨discoveredAlone chatterReader, neverThrows⟩]
    (fun pipe => (pipe.notified onDemandConfiguration ⟨twoParticipants, createThrows⟩ entities
      (.discovered otherChatterReader)).map (fun _ => ()) = .error .initializationException)
    (fun _ _ _ => trivial) ⟨neverThrows, trivial, rfl⟩ (by decide +kernel)
  have caught :=
    (contained pipe createThrows entities (.discovered otherChatterReader) reached).caught
  cases outcome : pipe.notified onDemandConfiguration ⟨twoParticipants, createThrows⟩ entities
      (.discovered otherChatterReader) with
  | ok next =>
      rw [outcome] at test
      cases of_decide_eq_true test
  | error fault =>
      rw [outcome] at test
      cases of_decide_eq_true test
      exact caught outcome

end

end DdsPipe.Core
