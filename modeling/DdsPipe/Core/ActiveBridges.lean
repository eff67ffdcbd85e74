import DdsPipe.Core.Activation
import DdsPipe.Communication.BridgeFailures

/-!
Owns what an active topic stands for when bridges may fail to be created: it has
an enabled bridge, and a topic without one is activated again by whatever
activates topics, in every run in which no creation of a bridge throws that an
activation asks for (`activeAreBridged_of_reachable`).

The flag of a topic is set before its bridge is created, and stays set when the
creation throws; a reload then passes the topic by
(`not_activeAreBridged_of_reachable`).
-/

namespace DdsPipe.Core

open Std (TreeMap)
open DdsPipe.Types DdsPipe.Dynamic DdsPipe.Configuration DdsPipe.Communication

section

variable {Filter : Type} [IFilterTopic Filter]

/-! ### Activations -/

/-- The call activates `topic` in the slot of the topic of a unique name. -/
inductive Activates (configuration : DdsPipeConfiguration Filter)
    (participants : ParticipantsDatabase) (pipe : Pipe Filter) (name : String) :
    Call Filter → DdsTopic → Prop where
  | enabled {entry : CurrentTopic} (stopped : pipe.enabled = false)
      (found : pipe.currentTopics[name]? = some entry)
      (allowed : pipe.allowedTopics.isTopicAllowed entry.topic = true) :
      Activates configuration participants pipe name .enable entry.topic
  | reloaded {newConfiguration : DdsPipeConfiguration Filter} {entry : CurrentTopic}
      (valid : newConfiguration.isValid participants.getParticipantsRepeaterMap = .ok ())
      (differs : (AllowedTopicList.create newConfiguration.allowlist
        newConfiguration.blocklist).same pipe.allowedTopics = false)
      (running : pipe.enabled = true) (found : pipe.currentTopics[name]? = some entry)
      (inactive : entry.active = false)
      (allowed : (AllowedTopicList.create newConfiguration.allowlist
        newConfiguration.blocklist).isTopicAllowed entry.topic = true) :
      Activates configuration participants pipe name (.reloadConfiguration newConfiguration)
        entry.topic
  | discovered {entities : Entities} {notification : Notification} {endpoint : Endpoint}
      (discovers : discoveredBy notification = some endpoint)
      (notService : isServiceTopic endpoint.topic = false)
      (relevant : Pipe.isEndpointRelevant configuration entities endpoint = true)
      (named : endpoint.topic.topicUniqueName = name) (running : pipe.enabled = true)
      (allowed : pipe.allowedTopics.isTopicAllowed endpoint.topic = true) :
      Activates configuration participants pipe name (.notified entities notification)
        endpoint.topic

/-- No entity throws of a bridge that the call needs for a topic it activates. -/
def CreatesBridges (configuration : DdsPipeConfiguration Filter)
    (participants : ParticipantsDatabase) (pipe : Pipe Filter) (label : Label Filter) : Prop :=
  ∀ (name : String) (topic : DdsTopic), pipe.bridges[name]? = none →
    Activates configuration participants pipe name label.call topic →
      ¬ DdsBridge.CannotConstruct ⟨participants, label.createThrows⟩ topic
        (configuration.getRoutesConfig topic) configuration.removeUnusedEntities

/-- The same for the builtin topics of a pipe that is constructed enabled. -/
def CreatesBuiltinBridges (configuration : DdsPipeConfiguration Filter)
    (participants : ParticipantsDatabase) (createThrows : CreateThrows) : Prop :=
  configuration.initEnabled = true → ∀ (name : String) (topic : DdsTopic),
    configuration.builtinTopics.topics[name]? = some topic →
    (AllowedTopicList.create configuration.allowlist configuration.blocklist).isTopicAllowed topic =
      true →
      ¬ DdsBridge.CannotConstruct ⟨participants, createThrows⟩ topic
        (configuration.getRoutesConfig topic) configuration.removeUnusedEntities

/-- Every active topic has an enabled bridge, and a reload activates a topic
without a bridge as soon as its list allows it. -/
structure ActiveAreBridged (configuration : DdsPipeConfiguration Filter) (pipe : Pipe Filter) :
    Prop where
  bridged : ∀ (name : String) entry, pipe.currentTopics[name]? = some entry →
    entry.active = true → ∃ bridge, pipe.bridges[name]? = some bridge ∧ bridge.enabled = true
  retried : ∀ (environment : Environment) (list : AllowedTopicList Filter) (name : String) entry,
    pipe.currentTopics[name]? = some entry → pipe.bridges[name]? = none →
    list.isTopicAllowed entry.topic = true →
      { pipe with allowedTopics := list }.reloadTopic configuration environment (name, entry) =
        { pipe with allowedTopics := list }.activateTopic configuration environment entry.topic

/-! ### One slot -/

/-- An active topic has a bridge. -/
def TopicSlot.Bridged (slot : TopicSlot) : Prop :=
  ∀ entry, slot.current = some entry → entry.active = true → slot.bridge.isSome = true

variable {configuration : DdsPipeConfiguration Filter} {environment : Environment}
  {slot next : TopicSlot} {topic : DdsTopic} {list : AllowedTopicList Filter} {enabled : Bool}

omit [IFilterTopic Filter] in
/-- A topic that is activated has a bridge afterwards, if one can be created where
there is none. -/
theorem bridge_activate
    (can : slot.bridge = none → ¬ DdsBridge.CannotConstruct environment topic
      (configuration.getRoutesConfig topic) configuration.removeUnusedEntities)
    (changed : slot.activate configuration environment topic = .ok next) :
    next.bridge.isSome = true := by
  unfold TopicSlot.activate at changed
  dsimp only at changed
  split at changed
  · next absent =>
      unfold TopicSlot.createNewBridge at changed
      split at changed
      · cases changed
        rfl
      · next threw => exact absurd (DdsBridge.cannotConstruct_of_throws threw) (can absent)
      · cases changed
  · cases changed
    rfl

theorem bridged_enable
    (can : ∀ entry, slot.current = some entry → list.isTopicAllowed entry.topic = true →
      slot.bridge = none → ¬ DdsBridge.CannotConstruct environment entry.topic
        (configuration.getRoutesConfig entry.topic) configuration.removeUnusedEntities)
    (bridged : slot.Bridged) (changed : slot.enable configuration environment list = .ok next) :
    next.Bridged := by
  unfold TopicSlot.enable at changed
  split at changed
  · next entry found =>
      split at changed
      · next allowed =>
          exact fun _ _ _ => bridge_activate (can entry found allowed) changed
      · cases changed
        exact bridged
  · cases changed
    exact bridged

theorem bridged_deactivate (slot : TopicSlot) (topic : DdsTopic) :
    (slot.deactivate topic).Bridged := by
  intro entry found active
  cases found
  cases active

theorem bridged_disable (bridged : slot.Bridged) : slot.disable.Bridged := by
  unfold TopicSlot.disable
  split
  · exact bridged_deactivate slot _
  · exact bridged

theorem bridged_reload
    (can : ∀ entry, slot.current = some entry → entry.active = false →
      list.isTopicAllowed entry.topic = true → slot.bridge = none →
      ¬ DdsBridge.CannotConstruct environment entry.topic
        (configuration.getRoutesConfig entry.topic) configuration.removeUnusedEntities)
    (bridged : slot.Bridged) (changed : slot.reload configuration environment list = .ok next) :
    next.Bridged := by
  unfold TopicSlot.reload at changed
  split at changed
  · next entry found =>
      split at changed
      · split at changed
        · cases changed
          exact bridged
        · cases changed
          exact bridged_deactivate slot _
      · next inactive =>
          split at changed
          · next allowed =>
              rw [Bool.not_eq_true] at inactive
              exact fun _ _ _ => bridge_activate (can entry found inactive allowed) changed
          · cases changed
            exact bridged
  · cases changed
    exact bridged

theorem bridged_discovered
    (can : enabled = true → list.isTopicAllowed topic = true → slot.bridge = none →
      ¬ DdsBridge.CannotConstruct environment topic (configuration.getRoutesConfig topic)
        configuration.removeUnusedEntities)
    (bridged : slot.Bridged)
    (changed : slot.discovered configuration environment enabled list topic = .ok next) :
    next.Bridged := by
  unfold TopicSlot.discovered at changed
  split at changed
  · next absent =>
      dsimp only at changed
      split at changed
      · next activates =>
          rw [Bool.and_eq_true] at activates
          exact fun _ _ _ => bridge_activate (fun _ => can activates.1 activates.2 absent) changed
      · cases changed
        intro entry found active
        rcases current_emplace found with current | rfl
        · exact bridged entry current active
        · cases active
  · next bridge found =>
      split at changed
      · obtain ⟨gained, _, stored⟩ := OrderedMap.bind_eq_ok_iff.mp changed
        cases stored
        exact fun _ _ _ => rfl
      · cases changed
        exact bridged

theorem bridged_removed (bridged : slot.Bridged) (participantId : ParticipantId) :
    (slot.removed participantId).Bridged := by
  unfold TopicSlot.removed
  split
  · intro entry found active
    rw [Option.isSome_map]
    exact bridged entry found active
  · exact bridged

/-! ### Runs -/

variable {participants : ParticipantsDatabase} {createThrows : CreateThrows}
  {pipe after : Pipe Filter}

/-- One call keeps the active topics bridged. -/
theorem bridged_perform (label : Label Filter) (keyed : pipe.WellKeyed)
    (creates : CreatesBridges configuration participants pipe label)
    (bridged : ∀ name, (pipe.topicSlot name).Bridged)
    (succeeded : pipe.perform configuration ⟨participants, label.createThrows⟩ label.call =
      .ok after) (name : String) : (after.topicSlot name).Bridged := by
  obtain ⟨call, createThrows⟩ := label
  have before := bridged name
  have can := creates name
  cases slotChange_perform keyed succeeded name with
  | unchanged _ _ same =>
      rw [same]
      exact before
  | enabled stopped _ _ changed =>
      refine bridged_enable (fun entry found allowed absent => ?_) before changed
      exact can _ absent (.enabled stopped found allowed)
  | disabled _ _ _ changed =>
      rw [changed]
      exact bridged_disable before
  | reinstalled _ _ same =>
      rw [same]
      exact before
  | reloaded valid differs running _ _ changed =>
      refine bridged_reload (fun entry found inactive allowed absent => ?_) before changed
      exact can _ absent (.reloaded valid differs running found inactive allowed)
  | notified notService named _ _ changed =>
      rcases notified_cases changed with
        ⟨endpoint, discovers, relevant, done⟩ | ⟨participantId, removed⟩ | same
      · rw [endpoint_of_discoveredBy discovers] at notService named
        refine bridged_discovered (fun running allowed absent => ?_) before done
        exact can _ absent (.discovered discovers notService relevant named running allowed)
      · rw [removed]
        exact bridged_removed before participantId
      · rw [same]
        exact before

theorem bridged_construct
    (creates : CreatesBuiltinBridges configuration participants createThrows)
    (constructed : Pipe.construct configuration ⟨participants, createThrows⟩ = .ok (.ok pipe))
    (name : String) : (pipe.topicSlot name).Bridged := by
  obtain ⟨middle, _, keyed, sameList, _, topics, last⟩ := construct_cases constructed
  have inactive : ∀ name entry, (middle.topicSlot name).current = some entry →
      entry.active = false ∧ configuration.builtinTopics.topics[name]? = some entry.topic := by
    intro name entry found
    rcases topics name with unknown | ⟨topic, builtin, created⟩
    · rw [unknown] at found
      cases found
    · rw [current_createNewBridge created] at found
      cases found
      exact ⟨rfl, builtin⟩
  have bridged : ∀ name, (middle.topicSlot name).Bridged := by
    intro name entry found active
    rw [(inactive name entry found).1] at active
    cases active
  rcases last with ⟨_, rfl⟩ | ⟨asked, enabled⟩
  · exact bridged name
  · refine bridged_perform ⟨.enable, createThrows⟩ keyed ?_ bridged enabled name
    intro name topic _ activates
    cases activates with
    | enabled stopped found allowed =>
        rw [sameList] at allowed
        exact creates asked name _ (inactive name _ found).2 allowed

theorem activeAreBridged_of_bridged (bridged : ∀ name, (pipe.topicSlot name).Bridged)
    (steady : ∀ name, (pipe.topicSlot name).Steady pipe.enabled) :
    ActiveAreBridged configuration pipe where
  bridged name entry found active := by
    obtain ⟨bridge, there⟩ := Option.isSome_iff_exists.mp (bridged name entry found active)
    obtain ⟨_, stored, current, same⟩ := (steady name).bridged bridge there
    have sameEntry : entry = stored := Option.some.inj (found.symm.trans current)
    exact ⟨bridge, there, by rw [same, ← sameEntry, active]⟩
  retried environment list name entry found absent allowed := by
    have inactive : entry.active ≠ true := by
      intro active
      have there : pipe.bridges[name]?.isSome = true := bridged name entry found active
      rw [absent] at there
      cases there
    simp only [Pipe.reloadTopic, if_neg inactive, if_pos allowed]

open TransitionSystem

/-- **Active topics are bridged.** In every run in which no creation of a bridge
throws that an activation asks for, every active topic has an enabled bridge, and
a reload activates the topics without one. -/
theorem activeAreBridged_of_reachable
    (reached : (pipeSystem configuration participants
      (CreatesBuiltinBridges configuration participants)).Reachable
        (CreatesBridges configuration participants) pipe) :
    ActiveAreBridged configuration pipe := by
  have initially : ∀ start, (pipeSystem configuration participants
      (CreatesBuiltinBridges configuration participants)).Initial start →
      start.WellKeyed ∧ ∀ name, (start.topicSlot name).Bridged := by
    rintro start ⟨createThrows, creates, constructed⟩
    exact ⟨wellKeyed_construct constructed, bridged_construct creates constructed⟩
  have kept : ∀ before label after,
      (before.WellKeyed ∧ ∀ name, (before.topicSlot name).Bridged) →
      CreatesBridges configuration participants before label →
      (pipeSystem configuration participants
        (CreatesBuiltinBridges configuration participants)).step
        before label = some after →
      after.WellKeyed ∧ ∀ name, (after.topicSlot name).Bridged := by
    intro before label after holds creates taken
    have performed := step_eq_some_iff.mp taken
    exact ⟨wellKeyed_perform holds.1 performed,
      bridged_perform label holds.1 creates holds.2 performed⟩
  have bridged := (reached.invariant initially kept).2
  have steady : pipe.EveryTopic (fun enabled (_ : AllowedTopicList Filter) _ slot =>
      slot.Steady enabled) :=
    (steady_invariant configuration).reachable (fun _ _ => trivial) (fun _ _ _ => trivial)
      (fun _ _ _ => ⟨trivial, fun _ _ _ _ => trivial⟩) reached
  exact activeAreBridged_of_bridged bridged steady

/-- No entity can be created. -/
def alwaysThrows : CreateThrows := fun _ _ _ => true

/-- The run in which nothing can be created while a reader is discovered, but the
pipe is enabled only afterwards. -/
theorem activeAreBridged_of_reachable_chatter :
    letI := literalUtils
    ∃ pipe : Pipe WildcardDdsFilterTopic,
      (pipe.currentTopics[chatterReader.topic.topicUniqueName]?.any CurrentTopic.active) = true ∧
        ActiveAreBridged defaultConfiguration pipe := by
  let := literalUtils
  have sound : ∀ (pipe : Pipe WildcardDdsFilterTopic) label,
      label ∈ [⟨discoveredAlone chatterReader, alwaysThrows⟩, ⟨.enable, neverThrows⟩] →
      (!pipe.enabled) = true →
      CreatesBridges defaultConfiguration twoParticipants pipe label := by
    intro pipe label member stopped name topic _ activates
    simp only [List.mem_cons, List.not_mem_nil, or_false] at member
    rcases member with rfl | rfl
    · cases activates with
      | discovered _ _ _ _ running _ =>
          rw [running] at stopped
          cases stopped
    · rw [DdsBridge.CannotConstruct]
      simp [defaultConfiguration, DdsBridge.CannotCreateAllTracks, DdsBridge.CannotAddWriters,
        DdsBridge.CannotTrack, neverThrows]
  obtain ⟨pipe, reached, test⟩ := System.exists_reachable_of_runAdmitted
    (pipeSystem defaultConfiguration twoParticipants
      (CreatesBuiltinBridges defaultConfiguration twoParticipants))
    (Pipe.initAllowedTopics defaultConfiguration)
    [⟨discoveredAlone chatterReader, alwaysThrows⟩, ⟨.enable, neverThrows⟩]
    (fun pipe _ => !pipe.enabled)
    (fun pipe => pipe.currentTopics[chatterReader.topic.topicUniqueName]?.any CurrentTopic.active)
    sound ⟨neverThrows, fun asked => (by cases asked), rfl⟩ (by decide +kernel)
  exact ⟨pipe, test, activeAreBridged_of_reachable reached⟩

/-- Nothing can be created when a reader is discovered on an enabled pipe, and a
reload with another list follows when everything can be: the topic is active
and has no bridge. -/
theorem not_activeAreBridged_of_reachable :
    letI := literalUtils
    ¬ ∀ pipe : Pipe WildcardDdsFilterTopic,
      (pipeSystem defaultConfiguration twoParticipants (fun _ => True)).Reachable anyStep pipe →
        ActiveAreBridged defaultConfiguration pipe := by
  let := literalUtils
  intro bridged
  obtain ⟨pipe, reached, test⟩ := System.exists_reachable_of_run
    (pipeSystem defaultConfiguration twoParticipants (fun _ => True))
    (Pipe.initAllowedTopics defaultConfiguration)
    [⟨.enable, neverThrows⟩, ⟨discoveredAlone chatterReader, alwaysThrows⟩,
      ⟨.reloadConfiguration { blocklist := .ofList [{ topicName := some "other" }] }, neverThrows⟩]
    (fun pipe =>
      (pipe.currentTopics[chatterReader.topic.topicUniqueName]?.any CurrentTopic.active) &&
        pipe.bridges[chatterReader.topic.topicUniqueName]?.isNone)
    (fun _ _ _ => trivial) ⟨neverThrows, trivial, rfl⟩ (by decide +kernel)
  rw [Bool.and_eq_true, Option.any_eq_true, Option.isNone_iff_eq_none] at test
  obtain ⟨⟨entry, found, active⟩, absent⟩ := test
  obtain ⟨bridge, there, _⟩ := (bridged pipe reached).bridged _ entry found active
  rw [absent] at there
  cases there

end

end DdsPipe.Core
