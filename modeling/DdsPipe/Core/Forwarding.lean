import DdsPipe.Core.Activation
import DdsPipe.Communication.Routing

/-!
Owns the end that the pipe serves: which participant's samples of a topic reach
which participant.

A sample is never forwarded without authorisation, in any run and whatever
cannot be created (`authorized_of_forwards`). When every entity can be created
and no writer is removed, the forwarding of a reachable pipe is determined by its
list, its known topics and its routes (`forwards_iff_of_reachable`); and
disabling an enabled pipe and enabling it again gives back the same forwarding
(`forwards_disable_enable`).

Does not own: the transmission of a single sample.
-/

namespace DdsPipe.Communication

open Std (TreeMap TreeSet)
open DdsPipe.Types DdsPipe.Configuration

/-! ### What a bridge forwards -/

namespace DdsBridge

/-- The bridge takes the samples of `source` and hands them to an enabled writer
of `destination`. -/
def forwards (bridge : DdsBridge) (source destination : ParticipantId) : Bool :=
  bridge.tracks[source]?.any fun track =>
    track.enabled && track.readerEnabled && track.writers[destination]? == some true

end DdsBridge

section Bridge

variable {participants : ParticipantsDatabase}
  {routes : TreeMap ParticipantId (TreeSet ParticipantId)} {bridge : DdsBridge}
  {created : TreeSet ParticipantId} {source destination : ParticipantId}

/-- **An enabled bridge forwards along its routes**, to the participants whose
writers it has. -/
theorem Keeps.forwards_iff (keeps : Keeps participants routes bridge created) :
    bridge.forwards source destination = true ↔
      bridge.enabled = true ∧ source ∈ participants ∧
        Destination participants routes source destination ∧ destination ∈ created := by
  have routed := keeps.routed
  unfold DdsBridge.forwards
  rw [Option.any_eq_true]
  constructor
  · rintro ⟨track, found, flags⟩
    rw [Bool.and_eq_true, Bool.and_eq_true, beq_iff_eq] at flags
    obtain ⟨⟨trackEnabled, _⟩, writer⟩ := flags
    have running : bridge.enabled = true := by
      rw [← (keeps.uniform source track found).1]
      exact trackEnabled
    have member : destination ∈ track.writers :=
      OrderedMap.mem_iff_exists_getElem?.mpr ⟨true, writer⟩
    have present : source ∈ bridge.tracks :=
      OrderedMap.mem_iff_exists_getElem?.mpr ⟨track, found⟩
    exact ⟨running, ((routed.tracks source).mp present).1,
      (routed.writers source track found destination).mp member⟩
  · rintro ⟨running, known, leads, made⟩
    have present : source ∈ bridge.tracks :=
      (routed.tracks source).mpr ⟨known, destination, leads, made⟩
    obtain ⟨track, found⟩ := OrderedMap.mem_iff_exists_getElem?.mp present
    obtain ⟨trackEnabled, readerEnabled, flags⟩ := routed.enabled running source track found
    have member : destination ∈ track.writers :=
      (routed.writers source track found destination).mpr ⟨leads, made⟩
    obtain ⟨flag, writer⟩ := OrderedMap.mem_iff_exists_getElem?.mp member
    refine ⟨track, found, ?_⟩
    rw [trackEnabled, readerEnabled, writer, flags destination flag writer]
    rfl

/-- Two bridges with the same routes and writers forward alike. -/
theorem Keeps.forwards_congr {other : DdsBridge}
    (keeps : Keeps participants routes bridge created)
    (others : Keeps participants routes other created) (same : other.enabled = bridge.enabled) :
    other.forwards source destination = bridge.forwards source destination := by
  rw [Bool.eq_iff_iff, keeps.forwards_iff, others.forwards_iff, same]

/-- A route leads back to its source only where that is a repeater. -/
theorem isRepeater_of_destination_self (valid : ValidRoutes participants routes)
    (leads : Destination participants routes source source) : IsRepeater participants source := by
  unfold Destination at leads
  split at leads
  · next route found => exact valid.repeaters source route found leads
  · exact leads.2.resolve_left fun different => different rfl

end Bridge

end DdsPipe.Communication

namespace DdsPipe.Core

open Std (TreeMap TreeSet)
open DdsPipe.Types DdsPipe.Dynamic DdsPipe.Configuration DdsPipe.Communication
open TransitionSystem

section

variable {Filter : Type}

/-! ### What a pipe forwards -/

/-- The samples of `source` on the topic of a unique name reach `destination`. -/
def Pipe.forwards (pipe : Pipe Filter) (name : String) (source destination : ParticipantId) :
    Bool :=
  pipe.bridges[name]?.any fun bridge => bridge.forwards source destination

theorem Pipe.forwards_iff_bridge (pipe : Pipe Filter) {name : String}
    {source destination : ParticipantId} :
    pipe.forwards name source destination = true ↔
      ∃ bridge, (pipe.topicSlot name).bridge = some bridge ∧
        bridge.forwards source destination = true := by
  rw [Pipe.forwards, Option.any_eq_true]
  exact Iff.rfl

/-- The topic is one that the pipe bridges: no topic of a service, unless the
configuration lists it as builtin. -/
def Bridgeable (configuration : DdsPipeConfiguration Filter) (name : String) (topic : DdsTopic) :
    Prop :=
  topic.topicUniqueName = name ∧
    (isServiceTopic topic = false ∨ configuration.builtinTopics.topics[name]? = some topic)

/-- What forwarding the samples of `source` to `destination` needs: a running
pipe, an active topic that its list allows, and a route. -/
structure Authorized [IFilterTopic Filter] (configuration : DdsPipeConfiguration Filter)
    (participants : ParticipantsDatabase) (pipe : Pipe Filter) (name : String)
    (source destination : ParticipantId) : Prop where
  running : pipe.enabled = true
  active : ∃ entry, pipe.currentTopics[name]? = some entry ∧ entry.active = true ∧
    Bridgeable configuration name entry.topic
  allowed : ∃ topic : DdsTopic, topic.topicUniqueName = name ∧
    pipe.allowedTopics.isTopicAllowed topic = true
  members : source ∈ participants ∧ destination ∈ participants
  routed : ∀ topic : DdsTopic, topic.topicUniqueName = name →
    Destination participants (configuration.getRoutesConfig topic).routes source destination
  noEcho : source = destination → IsRepeater participants source

variable {configuration : DdsPipeConfiguration Filter} {environment : Environment}
  {participants : ParticipantsDatabase} {slot next : TopicSlot} {topic other : DdsTopic}
  {name : String}

/-- The routes depend on the unique name only. -/
theorem getRoutesConfig_congr (same : topic.topicUniqueName = other.topicUniqueName) :
    configuration.getRoutesConfig topic = configuration.getRoutesConfig other := by
  unfold DdsPipeConfiguration.getRoutesConfig
  rw [same]

/-! ### The bridge of a slot keeps to the routes of its topic -/

/-- The bridge, if any, has the tracks that the routes of the topic give the
writers which have been created, a set that is as `Made` says. -/
def TopicSlot.Routed (configuration : DdsPipeConfiguration Filter)
    (participants : ParticipantsDatabase) (Made : TreeSet ParticipantId → Prop) (name : String)
    (slot : TopicSlot) : Prop :=
  ∀ bridge, slot.bridge = some bridge → ∀ topic : DdsTopic, topic.topicUniqueName = name →
    ∃ created, Made created ∧
      Keeps participants (configuration.getRoutesConfig topic).routes bridge created

/-- What holds of the writers that a bridge is constructed with stays true while
the pipe adds and removes writers. -/
structure WritersKept (configuration : DdsPipeConfiguration Filter)
    (participants : ParticipantsDatabase) (Made : TreeSet ParticipantId → Prop) : Prop where
  valid : configuration.isValid participants.getParticipantsRepeaterMap = .ok ()
  constructed : ∀ topic,
    Made (constructedWriters participants topic configuration.removeUnusedEntities)
  inserted : configuration.removeUnusedEntities = true → ∀ created id, Made created →
    Made (created.insert id)
  erased : configuration.removeUnusedEntities = true → ∀ created id, Made created →
    Made (created.erase id)

/-- A writer is created for a participant only. -/
theorem mem_of_createWriter {bridge written : DdsBridge} {id : ParticipantId}
    (succeeded : bridge.createWriter environment id = .ok written) :
    id ∈ environment.participants := by
  obtain ⟨_, created, _⟩ := OrderedMap.bind_eq_ok_iff.mp succeeded
  obtain ⟨participant, found, _⟩ := OrderedMap.bind_eq_ok_iff.mp created
  unfold Environment.getParticipant at found
  split at found
  · next stored known => exact OrderedMap.mem_iff_exists_getElem?.mpr ⟨stored, known⟩
  · cases found

theorem keeps_of_construct {routesConfig : RoutesConfiguration} {removeUnusedEntities : Bool}
    {bridge : DdsBridge} (valid : ValidRoutes environment.participants routesConfig.routes)
    (succeeded : DdsBridge.construct environment topic routesConfig removeUnusedEntities =
      .ok bridge) :
    Keeps environment.participants routesConfig.routes bridge
      (constructedWriters environment.participants topic removeUnusedEntities) := by
  by_cases initial : removeUnusedEntities && topic.topicDiscoverer != defaultParticipantId
  · refine keeps_construct valid (.inr ?_) succeeded
    rw [DdsBridge.construct, if_pos initial] at succeeded
    exact mem_of_createWriter succeeded
  · have all := succeeded
    rw [DdsBridge.construct, if_neg initial] at all
    rw [constructedWriters, if_neg initial]
    exact keeps_createAllTracks valid (keeps_bare _ topic routesConfig.routes) all

variable {Made : TreeSet ParticipantId → Prop}

theorem routed_createNewBridge {enabled : Bool}
    (kept : WritersKept configuration environment.participants Made)
    (named : topic.topicUniqueName = name)
    (routed : slot.Routed configuration environment.participants Made name)
    (changed : slot.createNewBridge configuration environment topic enabled = .ok next) :
    next.Routed configuration environment.participants Made name := by
  unfold TopicSlot.createNewBridge at changed
  split at changed
  · next newBridge constructed =>
      cases changed
      intro bridge found other sameName
      cases found
      rw [getRoutesConfig_congr (sameName.trans named.symm)]
      have keeps := keeps_of_construct (validRoutes_getRoutesConfig kept.valid topic) constructed
      refine ⟨_, kept.constructed topic, ?_⟩
      split
      · exact keeps_enable keeps
      · exact keeps
  · cases changed
    exact routed
  · cases changed

theorem routed_activate (kept : WritersKept configuration environment.participants Made)
    (named : topic.topicUniqueName = name)
    (routed : slot.Routed configuration environment.participants Made name)
    (changed : slot.activate configuration environment topic = .ok next) :
    next.Routed configuration environment.participants Made name := by
  have marked : (slot.setActive topic true).Routed configuration environment.participants Made
      name := routed
  unfold TopicSlot.activate at changed
  dsimp only at changed
  split at changed
  · exact routed_createNewBridge kept named marked changed
  · next bridge found =>
      cases changed
      intro other same topic named
      cases same
      obtain ⟨created, made, keeps⟩ := marked bridge found topic named
      exact ⟨created, made, keeps_enable keeps⟩

theorem routed_deactivate (routed : slot.Routed configuration participants Made name) :
    (slot.deactivate topic).Routed configuration participants Made name := by
  intro bridge found other named
  obtain ⟨old, stored, rfl⟩ := Option.map_eq_some_iff.mp found
  obtain ⟨created, made, keeps⟩ := routed old stored other named
  exact ⟨created, made, keeps_disable keeps⟩

theorem routed_disable (routed : slot.Routed configuration participants Made name) :
    slot.disable.Routed configuration participants Made name := by
  unfold TopicSlot.disable
  split
  · exact routed_deactivate routed
  · exact routed

theorem routed_removed (kept : WritersKept configuration participants Made)
    (removes : configuration.removeUnusedEntities = true)
    (routed : slot.Routed configuration participants Made name) (participantId : ParticipantId) :
    (slot.removed participantId).Routed configuration participants Made name := by
  unfold TopicSlot.removed
  split
  · intro bridge found other named
    obtain ⟨old, stored, rfl⟩ := Option.map_eq_some_iff.mp found
    obtain ⟨created, made, keeps⟩ := routed old stored other named
    exact ⟨_, kept.erased removes created participantId made, keeps_removeWriter keeps⟩
  · exact routed

variable [IFilterTopic Filter] {list : AllowedTopicList Filter} {enabled : Bool}

theorem routed_enable (kept : WritersKept configuration environment.participants Made)
    (named : ∀ entry, slot.current = some entry → entry.topic.topicUniqueName = name)
    (routed : slot.Routed configuration environment.participants Made name)
    (changed : slot.enable configuration environment list = .ok next) :
    next.Routed configuration environment.participants Made name := by
  unfold TopicSlot.enable at changed
  split at changed
  · next entry found =>
      split at changed
      · exact routed_activate kept (named entry found) routed changed
      · cases changed
        exact routed
  · cases changed
    exact routed

theorem routed_reload (kept : WritersKept configuration environment.participants Made)
    (named : ∀ entry, slot.current = some entry → entry.topic.topicUniqueName = name)
    (routed : slot.Routed configuration environment.participants Made name)
    (changed : slot.reload configuration environment list = .ok next) :
    next.Routed configuration environment.participants Made name := by
  unfold TopicSlot.reload at changed
  split at changed
  · next entry found =>
      split at changed
      · split at changed
        · cases changed
          exact routed
        · cases changed
          exact routed_deactivate routed
      · split at changed
        · exact routed_activate kept (named entry found) routed changed
        · cases changed
          exact routed
  · cases changed
    exact routed

theorem routed_discovered (kept : WritersKept configuration environment.participants Made)
    (named : topic.topicUniqueName = name)
    (routed : slot.Routed configuration environment.participants Made name)
    (changed : slot.discovered configuration environment enabled list topic = .ok next) :
    next.Routed configuration environment.participants Made name := by
  have emplaced : (slot.emplace topic).Routed configuration environment.participants Made name :=
    routed
  unfold TopicSlot.discovered at changed
  split at changed
  · dsimp only at changed
    split at changed
    · exact routed_activate kept named emplaced changed
    · cases changed
      exact emplaced
  · next bridge found =>
      split at changed
      · next adds =>
          rw [Bool.and_eq_true] at adds
          obtain ⟨written, created, stored⟩ := OrderedMap.bind_eq_ok_iff.mp changed
          cases stored
          intro other same topic named
          cases same
          obtain ⟨before, made, keeps⟩ := routed bridge found topic named
          exact ⟨_, kept.inserted adds.1 before _ made,
            keeps_createWriter keeps (mem_of_createWriter created) created⟩
      · cases changed
        exact routed

theorem routed_notified {entities : Entities} {notification : Notification}
    (kept : WritersKept configuration environment.participants Made)
    (named : notification.endpoint.topic.topicUniqueName = name)
    (routed : slot.Routed configuration environment.participants Made name)
    (changed : slot.notified configuration environment enabled list entities notification =
      .ok next) :
    next.Routed configuration environment.participants Made name := by
  by_cases removes : configuration.removeUnusedEntities = true
  · rcases notified_cases changed with
      ⟨endpoint, discovers, _, done⟩ | ⟨participantId, rfl⟩ | rfl
    · rw [endpoint_of_discoveredBy discovers] at named
      exact routed_discovered kept named routed done
    · exact routed_removed kept removes routed participantId
    · exact routed
  · rw [Bool.not_eq_true] at removes
    have discovered : ∀ endpoint, endpoint.topic.topicUniqueName = name →
        (if Pipe.isEndpointRelevant configuration entities endpoint then
          slot.discovered configuration environment enabled list endpoint.topic
        else .ok slot) = .ok next →
        next.Routed configuration environment.participants Made name := by
      intro endpoint named done
      split at done
      · exact routed_discovered kept named routed done
      · cases done
        exact routed
    cases notification with
    | discovered endpoint => exact discovered endpoint named changed
    | erased endpoint =>
        simp only [TopicSlot.notified, removes, Bool.false_and] at changed
        cases changed
        exact routed
    | updated endpoint =>
        simp only [TopicSlot.notified, removes, Bool.false_and] at changed
        split at changed
        · exact discovered endpoint named changed
        · cases changed
          exact routed

theorem routed_perform {pipe after : Pipe Filter} {call : Call Filter}
    (kept : WritersKept configuration environment.participants Made) (keyed : pipe.WellKeyed)
    (routed : ∀ name, (pipe.topicSlot name).Routed configuration environment.participants Made name)
    (succeeded : pipe.perform configuration environment call = .ok after) (name : String) :
    (after.topicSlot name).Routed configuration environment.participants Made name := by
  have before := routed name
  cases slotChange_perform keyed succeeded name with
  | unchanged _ _ same =>
      rw [same]
      exact before
  | enabled _ _ _ changed => exact routed_enable kept (keyed.topics name) before changed
  | disabled _ _ _ changed =>
      rw [changed]
      exact routed_disable before
  | reinstalled _ _ same =>
      rw [same]
      exact before
  | reloaded _ _ _ _ _ changed => exact routed_reload kept (keyed.topics name) before changed
  | notified _ named _ _ changed => exact routed_notified kept named before changed

theorem routed_construct {pipe : Pipe Filter}
    (kept : WritersKept configuration environment.participants Made)
    (constructed : Pipe.construct configuration environment = .ok (.ok pipe)) (name : String) :
    (pipe.topicSlot name).Routed configuration environment.participants Made name := by
  obtain ⟨middle, _, keyed, _, _, topics, last⟩ := construct_cases constructed
  have routed : ∀ name,
      (middle.topicSlot name).Routed configuration environment.participants Made name := by
    intro name
    rcases topics name with unknown | ⟨topic, builtin, created⟩
    · rw [unknown]
      intro bridge found
      cases found
    · refine routed_createNewBridge kept (configuration.builtinTopics.keyed name topic builtin)
        (fun bridge found => ?_) created
      cases found
  rcases last with ⟨_, rfl⟩ | ⟨_, enabled⟩
  · exact routed name
  · exact routed_perform kept keyed routed enabled name

/-! ### Active topics are allowed -/

/-- An active topic belongs to a running pipe whose list allows a topic of that
name. Topics of one unique name may differ in their names, so that this is not
always the topic of the entry. -/
structure TopicSlot.Approved (enabled : Bool) (list : AllowedTopicList Filter) (name : String)
    (slot : TopicSlot) : Prop where
  named : slot.Stores (fun key topic => topic.topicUniqueName = key) name
  approved : ∀ entry, slot.current = some entry → entry.active = true →
    enabled = true ∧ ∃ topic : DdsTopic, topic.topicUniqueName = name ∧
      list.isTopicAllowed topic = true

theorem approved_activate
    (stores : slot.Stores (fun key topic => topic.topicUniqueName = key) name)
    (named : topic.topicUniqueName = name) (allowed : list.isTopicAllowed topic = true)
    (changed : slot.activate configuration environment topic = .ok next) :
    next.Approved true list name :=
  ⟨stores_activate stores named changed, fun _ _ _ => ⟨rfl, topic, named, allowed⟩⟩

theorem approved_deactivate
    (stores : slot.Stores (fun key topic => topic.topicUniqueName = key) name)
    (named : topic.topicUniqueName = name) :
    (slot.deactivate topic).Approved enabled list name := by
  refine ⟨stores_setActive stores named, fun entry found active => ?_⟩
  cases found
  cases active

theorem approved_inactive
    (stores : slot.Stores (fun key topic => topic.topicUniqueName = key) name)
    (inactive : ∀ entry, slot.current = some entry → entry.active = false) :
    slot.Approved enabled list name := by
  refine ⟨stores, fun entry found active => ?_⟩
  rw [inactive entry found] at active
  cases active

theorem TopicSlot.Approved.inactive (approved : slot.Approved false list name) :
    ∀ entry, slot.current = some entry → entry.active = false := by
  intro entry found
  by_contra active
  rw [Bool.not_eq_false] at active
  cases (approved.approved entry found active).1

/-- **Active topics are allowed**, whatever cannot be created. -/
theorem approved_invariant (configuration : DdsPipeConfiguration Filter) :
    TopicInvariant configuration (fun _ => True) (fun _ => True) TopicSlot.Approved where
  unknown _ _ := ⟨by simp [TopicSlot.Stores], by simp⟩
  builtin := by
    intro environment list topic next _ _ changed
    refine approved_inactive (fun entry found => ?_) fun entry found => ?_
    all_goals
      rw [current_createNewBridge changed] at found
      cases found
      rfl
  enable := by
    intro environment list name slot next _ approved changed
    have still : slot.Approved true list name :=
      approved_inactive approved.named approved.inactive
    unfold TopicSlot.enable at changed
    split at changed
    · next entry found =>
        split at changed
        · next allowed =>
            exact approved_activate approved.named (approved.named entry found) allowed changed
        · cases changed
          exact still
    · cases changed
      exact still
  disable := by
    intro list name slot approved
    unfold TopicSlot.disable
    split
    · next entry found => exact approved_deactivate approved.named (approved.named entry found)
    · next absent => exact ⟨approved.named, fun entry found => by simp [absent] at found⟩
  reinstall other approved := approved_inactive approved.named approved.inactive
  reload := by
    intro environment list other name slot next _ approved changed
    unfold TopicSlot.reload at changed
    split at changed
    · next entry found =>
        have named := approved.named entry found
        split at changed
        · split at changed
          · next allowed =>
              cases changed
              exact ⟨approved.named, fun _ _ _ => ⟨rfl, entry.topic, named, allowed⟩⟩
          · cases changed
            exact approved_deactivate approved.named named
        · next inactive =>
            split at changed
            · next allowed => exact approved_activate approved.named named allowed changed
            · cases changed
              refine approved_inactive approved.named fun other same => ?_
              rw [found] at same
              cases same
              rwa [Bool.not_eq_true] at inactive
    · next absent =>
        cases changed
        exact ⟨approved.named, fun entry found => by simp [absent] at found⟩
  discovered := by
    intro environment enabled list topic slot next _ _ approved changed
    have emplaced : (slot.emplace topic).Approved enabled list topic.topicUniqueName := by
      refine ⟨fun entry found => ?_, fun entry found active => ?_⟩
      · rcases current_emplace found with current | rfl
        · exact approved.named entry current
        · rfl
      · rcases current_emplace found with current | rfl
        · exact approved.approved entry current active
        · cases active
    unfold TopicSlot.discovered at changed
    split at changed
    · dsimp only at changed
      split at changed
      · next activates =>
          rw [Bool.and_eq_true] at activates
          rw [activates.1]
          exact approved_activate emplaced.named rfl activates.2 changed
      · cases changed
        exact emplaced
    · split at changed
      · obtain ⟨written, _, stored⟩ := OrderedMap.bind_eq_ok_iff.mp changed
        cases stored
        exact ⟨approved.named, approved.approved⟩
      · cases changed
        exact approved
  removed := by
    intro enabled list name slot participantId approved
    unfold TopicSlot.removed
    split
    · exact ⟨approved.named, approved.approved⟩
    · exact approved

/-! ### Runs -/

variable {Behaves : CreateThrows → Prop} {Admits : Pipe Filter → Label Filter → Prop}
  {pipe : Pipe Filter} {source destination : ParticipantId}

theorem isValid_of_reachable
    (reached : (pipeSystem configuration participants Behaves).Reachable Admits pipe) :
    configuration.isValid participants.getParticipantsRepeaterMap = .ok () := by
  obtain ⟨start, ⟨createThrows, _, constructed⟩, _⟩ := reached
  unfold Pipe.construct at constructed
  split at constructed
  · cases constructed
  · assumption

theorem slotsRouted_of_reachable (kept : WritersKept configuration participants Made)
    (reached : (pipeSystem configuration participants Behaves).Reachable Admits pipe)
    (name : String) : (pipe.topicSlot name).Routed configuration participants Made name := by
  have initially : ∀ start, (pipeSystem configuration participants Behaves).Initial start →
      start.WellKeyed ∧
        ∀ name, (start.topicSlot name).Routed configuration participants Made name := by
    rintro start ⟨createThrows, _, constructed⟩
    have here : WritersKept configuration
        (Environment.mk participants createThrows).participants Made := kept
    exact ⟨wellKeyed_construct constructed, routed_construct here constructed⟩
  have step : ∀ before label after,
      (before.WellKeyed ∧
        ∀ name, (before.topicSlot name).Routed configuration participants Made name) →
      Admits before label →
      (pipeSystem configuration participants Behaves).step before label = some after →
      after.WellKeyed ∧
        ∀ name, (after.topicSlot name).Routed configuration participants Made name := by
    rintro before label after ⟨keyed, routed⟩ _ taken
    have performed := step_eq_some_iff.mp taken
    have here : WritersKept configuration
        (Environment.mk participants label.createThrows).participants Made := kept
    exact ⟨wellKeyed_perform keyed performed, routed_perform here keyed routed performed⟩
  exact (reached.invariant initially step).2 name

omit [IFilterTopic Filter] in
theorem writersKept_any
    (valid : configuration.isValid participants.getParticipantsRepeaterMap = .ok ()) :
    WritersKept configuration participants fun _ => True :=
  ⟨valid, fun _ => trivial, fun _ _ _ _ => trivial, fun _ _ _ _ => trivial⟩

omit [IFilterTopic Filter] in
/-- A pipe that removes no writers has those of all participants. -/
theorem writersKept_everyone
    (valid : configuration.isValid participants.getParticipantsRepeaterMap = .ok ())
    (keeping : configuration.removeUnusedEntities = false) :
    WritersKept configuration participants fun created =>
      ∀ id, id ∈ created ↔ id ∈ participants where
  valid := valid
  constructed topic id := by
    rw [constructedWriters, keeping, Bool.false_and, if_neg Bool.false_ne_true]
    exact mem_everyone
  inserted removes := by
    rw [keeping] at removes
    cases removes
  erased removes := by
    rw [keeping] at removes
    cases removes

theorem steady_of_reachable
    (reached : (pipeSystem configuration participants Behaves).Reachable Admits pipe)
    (name : String) : (pipe.topicSlot name).Steady pipe.enabled := by
  have steady : pipe.EveryTopic (fun enabled (_ : AllowedTopicList Filter) _ slot =>
      slot.Steady enabled) :=
    (steady_invariant configuration).reachable (fun _ _ => trivial) (fun _ _ _ => trivial)
      (fun _ _ _ => ⟨trivial, fun _ _ _ _ => trivial⟩) reached
  exact steady name

/-- The run that enables a pipe and discovers a reader on it. -/
def enableAndDiscover : List (Label WildcardDdsFilterTopic) :=
  [⟨.enable, neverThrows⟩, ⟨discoveredAlone chatterReader, neverThrows⟩]

theorem enableAndDiscover_creates :
    ∀ label ∈ enableAndDiscover, ∀ pipe, CreatesKnown (· = chatterReader.topic) pipe label := by
  intro label member pipe
  simp only [enableAndDiscover, List.mem_cons, List.not_mem_nil, or_false] at member
  rcases member with rfl | rfl
  · exact ⟨rfl, fun _ _ other => by cases other⟩
  · refine ⟨rfl, fun entities notification same _ => ?_⟩
    cases same
    rfl

/-- **Nothing is forwarded without authorisation**, in any run and whatever cannot
be created. -/
theorem authorized_of_forwards
    (reached : (pipeSystem configuration participants (fun _ => True)).Reachable anyStep pipe)
    (forwards : pipe.forwards name source destination = true) :
    Authorized configuration participants pipe name source destination := by
  have valid := isValid_of_reachable reached
  have routed := slotsRouted_of_reachable (writersKept_any valid) reached name
  have steady := steady_of_reachable reached name
  have approved : pipe.EveryTopic TopicSlot.Approved :=
    (approved_invariant configuration).reachable (fun _ _ => trivial) (fun _ _ _ => trivial)
      (fun _ _ _ => ⟨trivial, fun _ _ _ _ => trivial⟩) reached
  have bridgeable : pipe.EveryTopic (fun _ (_ : AllowedTopicList Filter) name slot =>
      slot.Stores (Bridgeable configuration) name) := by
    have rules : TopicInvariant configuration (fun _ => True)
        (fun topic => Bridgeable configuration topic.topicUniqueName topic)
        (fun _ (_ : AllowedTopicList Filter) name slot =>
          slot.Stores (Bridgeable configuration) name) :=
      stores_invariant configuration fun _ known => known
    refine rules.reachable (fun _ _ => trivial) (fun name topic builtin => ?_)
      (fun _ _ _ => ⟨trivial, fun _ _ _ notService => ⟨rfl, .inl notService⟩⟩) reached
    rw [configuration.builtinTopics.keyed name topic builtin]
    exact ⟨configuration.builtinTopics.keyed name topic builtin, .inr builtin⟩
  obtain ⟨bridge, found, bridged⟩ := pipe.forwards_iff_bridge.mp forwards
  obtain ⟨_, entry, current, sameActive⟩ := steady.bridged bridge found
  have named := (approved name).named entry current
  obtain ⟨created, _, keeps⟩ := routed bridge found entry.topic named
  obtain ⟨running, known, leads, made⟩ := keeps.forwards_iff.mp bridged
  have active : entry.active = true := sameActive.symm.trans running
  obtain ⟨enabled, allowed⟩ := (approved name).approved entry current active
  have routes : ∀ topic : DdsTopic, topic.topicUniqueName = name →
      Destination participants (configuration.getRoutesConfig topic).routes source
        destination := by
    intro topic sameName
    rw [getRoutesConfig_congr (sameName.trans named.symm)]
    exact leads
  refine ⟨enabled, ⟨entry, current, active, bridgeable name entry current⟩, allowed,
    ⟨known, keeps.known destination made⟩, routes, fun same => ?_⟩
  subst same
  exact isRepeater_of_destination_self (validRoutes_getRoutesConfig valid entry.topic) leads

/-- A pipe that is enabled and hears of a reader forwards the topic from one
participant to the other. -/
theorem authorized_of_forwards_chatter :
    letI := literalUtils
    ∃ pipe : Pipe WildcardDdsFilterTopic,
      pipe.forwards chatterReader.topic.topicUniqueName "a" "b" = true ∧
        Authorized defaultConfiguration twoParticipants pipe chatterReader.topic.topicUniqueName
          "a" "b" := by
  let := literalUtils
  obtain ⟨pipe, reached, test⟩ := System.exists_reachable_of_run
    (pipeSystem defaultConfiguration twoParticipants (fun _ => True))
    (Pipe.initAllowedTopics defaultConfiguration) enableAndDiscover
    (fun pipe => pipe.forwards chatterReader.topic.topicUniqueName "a" "b")
    (fun _ _ _ => trivial) ⟨neverThrows, trivial, rfl⟩ (by decide +kernel)
  exact ⟨pipe, test, authorized_of_forwards reached test⟩

/-- **Forwarding is exact.** When every entity can be created, topics with equal
unique names have equal names, and no writer is removed, a pipe forwards the
samples of each participant exactly along the routes of the known topics that its
list allows, while it is enabled. -/
theorem forwards_iff_of_reachable [FiltersByName Filter] {Known : DdsTopic → Prop}
    (keeping : configuration.removeUnusedEntities = false)
    (distinct : ∀ topic other, Known topic → Known other →
      topic.topicUniqueName = other.topicUniqueName →
        topic.topicName = other.topicName ∧ topic.typeName = other.typeName)
    (builtin : ∀ (name : String) topic, configuration.builtinTopics.topics[name]? = some topic →
      Known topic)
    (reached : (pipeSystem configuration participants (· = neverThrows)).Reachable
      (CreatesKnown Known) pipe) :
    pipe.forwards name source destination = true ↔
      pipe.enabled = true ∧ ∃ entry, pipe.currentTopics[name]? = some entry ∧
        pipe.allowedTopics.isTopicAllowed entry.topic = true ∧
        source ∈ participants ∧ destination ∈ participants ∧
        Destination participants (configuration.getRoutesConfig entry.topic).routes source
          destination := by
  have valid := isValid_of_reachable reached
  have routed := slotsRouted_of_reachable (writersKept_everyone valid keeping) reached name
  have settled : (pipe.topicSlot name).Settled Known pipe.enabled pipe.allowedTopics name :=
    (settled_invariant configuration distinct).reachable (fun _ never => never) builtin
      (fun _ _ admitted => admitted) reached name
  constructor
  · intro forwards
    obtain ⟨bridge, found, bridged⟩ := pipe.forwards_iff_bridge.mp forwards
    obtain ⟨_, entry, current, sameActive⟩ := settled.steady.bridged bridge found
    obtain ⟨created, all, keeps⟩ := routed bridge found entry.topic (settled.known entry current).2
    obtain ⟨running, known, leads, made⟩ := keeps.forwards_iff.mp bridged
    have active : entry.active = true := sameActive.symm.trans running
    have enabled : pipe.enabled = true := by
      by_contra stopped
      rw [Bool.not_eq_true] at stopped
      rw [settled.steady.stopped stopped entry current] at active
      cases active
    refine ⟨enabled, entry, current, ?_, known, (all destination).mp made, leads⟩
    rw [← settled.verdict enabled entry current]
    exact active
  · rintro ⟨enabled, entry, current, allowed, known, member, leads⟩
    have active : entry.active = true := (settled.verdict enabled entry current).trans allowed
    have present : (pipe.topicSlot name).bridge.isSome = true :=
      settled.bridged entry current active
    obtain ⟨bridge, found⟩ := Option.isSome_iff_exists.mp present
    obtain ⟨_, stored, there, sameActive⟩ := settled.steady.bridged bridge found
    have sameEntry : entry = stored := Option.some.inj (current.symm.trans there)
    obtain ⟨created, all, keeps⟩ := routed bridge found entry.topic (settled.known entry current).2
    refine pipe.forwards_iff_bridge.mpr ⟨bridge, found, keeps.forwards_iff.mpr ?_⟩
    refine ⟨?_, known, leads, (all destination).mpr member⟩
    rw [sameActive, ← sameEntry]
    exact active

theorem forwards_iff_of_reachable_chatter :
    letI := literalUtils
    ∃ pipe : Pipe WildcardDdsFilterTopic,
      (pipe.forwards chatterReader.topic.topicUniqueName "a" "b" = true ↔
        pipe.enabled = true ∧ ∃ entry,
          pipe.currentTopics[chatterReader.topic.topicUniqueName]? = some entry ∧
          pipe.allowedTopics.isTopicAllowed entry.topic = true ∧ "a" ∈ twoParticipants ∧
          "b" ∈ twoParticipants ∧ Destination twoParticipants
            (defaultConfiguration.getRoutesConfig entry.topic).routes "a" "b") := by
  let := literalUtils
  obtain ⟨pipe, reached, _⟩ := System.exists_reachable_of_run
    (pipeSystem defaultConfiguration twoParticipants (· = neverThrows))
    (Pipe.initAllowedTopics defaultConfiguration) enableAndDiscover (fun pipe => pipe.enabled)
    enableAndDiscover_creates ⟨neverThrows, rfl, rfl⟩ (by decide +kernel)
  exact ⟨pipe, forwards_iff_of_reachable rfl (by rintro _ _ rfl rfl _; exact ⟨rfl, rfl⟩)
    (fun name topic found => by cases found) reached⟩

/-! ### Disabling and enabling again -/

/-- Disabled and enabled again, a bridge is switched back to what it was. -/
theorem bridge_disable_enable {Known : DdsTopic → Prop}
    (settled : slot.Settled Known true list name)
    (changed : slot.disable.enable configuration environment list = .ok next) :
    next.bridge = slot.bridge.map fun bridge =>
      if bridge.enabled then bridge.disable.enable else bridge := by
  cases current : slot.current with
  | none =>
      have absent : slot.bridge = none := by
        cases found : slot.bridge with
        | none => rfl
        | some bridge =>
            obtain ⟨_, entry, there, _⟩ := settled.steady.bridged bridge found
            rw [current] at there
            cases there
      simp only [TopicSlot.disable, TopicSlot.enable, current] at changed
      cases changed
      rw [absent]
      rfl
  | some entry =>
      have verdict := settled.verdict rfl entry current
      have sameActive : ∀ bridge, slot.bridge = some bridge → bridge.enabled = entry.active := by
        intro bridge found
        obtain ⟨_, stored, there, same⟩ := settled.steady.bridged bridge found
        rw [current] at there
        cases there
        exact same
      have stopped : slot.disable = slot.deactivate entry.topic := by
        simp only [TopicSlot.disable, current]
      have now : (slot.deactivate entry.topic).current = some ⟨entry.topic, false⟩ := by
        simp [TopicSlot.deactivate, TopicSlot.setActive, current]
      have switched :
          (slot.deactivate entry.topic).bridge = slot.bridge.map DdsBridge.disable := rfl
      rw [stopped, TopicSlot.enable, now] at changed
      dsimp only at changed
      split at changed
      · next allowed =>
          have active : entry.active = true := verdict.trans allowed
          obtain ⟨bridge, found⟩ := Option.isSome_iff_exists.mp
            (settled.bridged entry current active)
          rw [found, Option.map_some] at switched
          unfold TopicSlot.activate at changed
          dsimp only at changed
          rw [show ((slot.deactivate entry.topic).setActive entry.topic true).bridge =
            some bridge.disable from switched] at changed
          cases changed
          rw [found, Option.map_some, if_pos ((sameActive bridge found).trans active)]
      · next blocked =>
          rw [Bool.not_eq_true] at blocked
          have inactive : entry.active = false := verdict.trans blocked
          cases changed
          rw [switched]
          refine Option.map_congr fun bridge found => ?_
          have idle : ¬ bridge.enabled = true := by
            rw [sameActive bridge found, inactive]
            exact Bool.false_ne_true
          rw [if_neg idle, DdsBridge.disable, if_neg idle]

omit [IFilterTopic Filter] in
/-- A switched bridge forwards as before. -/
theorem forwards_switched {bridge : DdsBridge}
    {routes : TreeMap ParticipantId (TreeSet ParticipantId)} {created : TreeSet ParticipantId}
    (keeps : Keeps participants routes bridge created) :
    (if bridge.enabled then bridge.disable.enable else bridge).forwards source destination =
      bridge.forwards source destination := by
  split
  · next running =>
      refine keeps.forwards_congr (keeps_enable (keeps_disable keeps)) ?_
      rw [DdsBridge.enabled_enable, running]
  · rfl

omit [IFilterTopic Filter] in
/-- Slots whose bridges forward alike make pipes that do. -/
theorem forwards_of_bridge_map {after : Pipe Filter} {change : DdsBridge → DdsBridge}
    (same : (after.topicSlot name).bridge = (pipe.topicSlot name).bridge.map change)
    (alike : ∀ bridge, (pipe.topicSlot name).bridge = some bridge →
      (change bridge).forwards source destination = bridge.forwards source destination) :
    after.forwards name source destination = pipe.forwards name source destination := by
  rw [Bool.eq_iff_iff, after.forwards_iff_bridge, pipe.forwards_iff_bridge, same]
  constructor
  · rintro ⟨bridge, found, forwards⟩
    obtain ⟨old, stored, rfl⟩ := Option.map_eq_some_iff.mp found
    rw [alike old stored] at forwards
    exact ⟨old, stored, forwards⟩
  · rintro ⟨bridge, found, forwards⟩
    refine ⟨change bridge, by rw [found, Option.map_some], ?_⟩
    rw [alike bridge found]
    exact forwards

/-- **Disabling stops all forwarding, and enabling again gives it back**, when
every entity can be created and topics with equal unique names have equal
names. -/
theorem forwards_disable_enable [FiltersByName Filter] {Known : DdsTopic → Prop}
    (distinct : ∀ topic other, Known topic → Known other →
      topic.topicUniqueName = other.topicUniqueName →
        topic.topicName = other.topicName ∧ topic.typeName = other.typeName)
    (builtin : ∀ (name : String) topic, configuration.builtinTopics.topics[name]? = some topic →
      Known topic)
    (reached : (pipeSystem configuration participants (· = neverThrows)).Reachable
      (CreatesKnown Known) pipe)
    (running : pipe.enabled = true) {stopped after : Pipe Filter}
    (disabled : pipe.perform configuration ⟨participants, neverThrows⟩ .disable = .ok stopped)
    (enabled : stopped.perform configuration ⟨participants, neverThrows⟩ .enable = .ok after) :
    (∀ name source destination, stopped.forwards name source destination = false) ∧
      ∀ name source destination,
        after.forwards name source destination = pipe.forwards name source destination := by
  have keyed := wellKeyed_of_reachable reached
  have routed := slotsRouted_of_reachable (writersKept_any (isValid_of_reachable reached)) reached
  have settled : pipe.EveryTopic (TopicSlot.Settled Known) :=
    (settled_invariant configuration distinct).reachable (fun _ never => never) builtin
      (fun _ _ admitted => admitted) reached
  have stoppedKeyed : stopped.WellKeyed := wellKeyed_perform keyed disabled
  rw [Pipe.perform, Except.ok.injEq] at disabled
  rw [Pipe.EveryTopic, running] at settled
  obtain ⟨stays, _⟩ | ⟨_, nowStopped, sameList, topics, _⟩ := disable_cases keyed
  · rw [running] at stays
    cases stays
  rw [disabled] at nowStopped sameList topics
  obtain ⟨⟨code, last⟩, done, rfl⟩ := OrderedMap.map_eq_ok_iff.mp enabled
  obtain ⟨stays, _⟩ | ⟨_, _, _, slots, _⟩ := enable_cases stoppedKeyed done
  · rw [nowStopped] at stays
    cases stays
  refine ⟨fun name source destination => ?_, fun name source destination => ?_⟩
  · have steady := steady_disable (settled name).steady
    have stoppedRouted := routed_disable (routed name)
    rw [← topics name] at steady stoppedRouted
    rw [Bool.eq_false_iff]
    intro forwards
    obtain ⟨bridge, found, bridged⟩ := stopped.forwards_iff_bridge.mp forwards
    obtain ⟨_, entry, current, sameActive⟩ := steady.bridged bridge found
    obtain ⟨created, _, keeps⟩ := stoppedRouted bridge found entry.topic
      (stoppedKeyed.topics name entry current)
    rw [keeps.forwards_iff, sameActive, steady.stopped rfl entry current] at bridged
    cases bridged.1
  · have changed := slots name
    rw [topics name, sameList] at changed
    refine forwards_of_bridge_map (bridge_disable_enable (settled name) changed) ?_
    intro bridge found
    obtain ⟨_, entry, current, _⟩ := (settled name).steady.bridged bridge found
    obtain ⟨created, _, keeps⟩ := routed name bridge found entry.topic
      (keyed.topics name entry current)
    exact forwards_switched keeps

theorem forwards_disable_enable_chatter :
    letI := literalUtils
    ∃ pipe stopped after : Pipe WildcardDdsFilterTopic,
      pipe.forwards chatterReader.topic.topicUniqueName "a" "b" = true ∧
        (∀ name source destination, stopped.forwards name source destination = false) ∧
        ∀ name source destination,
          after.forwards name source destination = pipe.forwards name source destination := by
  let := literalUtils
  obtain ⟨pipe, reached, test⟩ := System.exists_reachable_of_run
    (pipeSystem defaultConfiguration twoParticipants (· = neverThrows))
    (Pipe.initAllowedTopics defaultConfiguration) enableAndDiscover
    (fun pipe => pipe.enabled && pipe.forwards chatterReader.topic.topicUniqueName "a" "b" &&
      (pipe.disable.2.perform defaultConfiguration ⟨twoParticipants, neverThrows⟩ .enable).isOk)
    enableAndDiscover_creates ⟨neverThrows, rfl, rfl⟩ (by decide +kernel)
  rw [Bool.and_eq_true, Bool.and_eq_true] at test
  obtain ⟨⟨running, forwards⟩, succeeds⟩ := test
  cases enabled : pipe.disable.2.perform defaultConfiguration ⟨twoParticipants, neverThrows⟩
      .enable with
  | error fault =>
      rw [enabled] at succeeds
      cases succeeds
  | ok after =>
      exact ⟨pipe, pipe.disable.2, after, forwards, forwards_disable_enable
        (by rintro _ _ rfl rfl _; exact ⟨rfl, rfl⟩) (fun name topic found => by cases found)
        reached running rfl enabled⟩

end

end DdsPipe.Core
