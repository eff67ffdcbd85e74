import DdsPipe.Core.Invariants

/-!
Owns the activation of topics: in every run, whatever fails to be created, a
bridge is enabled exactly while its topic is active, and no topic is active
while the pipe is disabled (`TopicSlot.Steady`).

Owns what holds on top of it when every entity can be created and topics with
equal unique names have equal names: an enabled pipe has active exactly the
topics that its list allows, each with a bridge, and a topic gets at most one
bridge (`activation_of_reachable`).
-/

namespace DdsPipe.Core

open Std (TreeMap)
open DdsPipe.Types DdsPipe.Dynamic DdsPipe.Configuration DdsPipe.Communication

/-! ### Bridges and the activity of their topics -/

/-- The bridge of a topic is enabled exactly while the topic is active, and its
tracks with it; a disabled pipe has no active topic. -/
structure TopicSlot.Steady (enabled : Bool) (slot : TopicSlot) : Prop where
  bridged : ∀ bridge, slot.bridge = some bridge →
    bridge.Uniform ∧ ∃ entry, slot.current = some entry ∧ bridge.enabled = entry.active
  stopped : enabled = false → ∀ entry, slot.current = some entry → entry.active = false

section Steady

variable {Filter : Type} {configuration : DdsPipeConfiguration Filter}
  {environment : Environment} {slot next : TopicSlot} {topic : DdsTopic} {enabled : Bool}

/-- A bridge that is created for an active topic is created enabled. -/
theorem steady_createNewBridge {stored : DdsTopic} {active : Bool} (steady : slot.Steady enabled)
    (current : slot.current = some ⟨stored, active⟩)
    (changed : slot.createNewBridge configuration environment topic active = .ok next) :
    next.Steady enabled := by
  unfold TopicSlot.createNewBridge at changed
  split at changed
  · next bridge constructed =>
      obtain ⟨_, _, stopped, uniform⟩ := DdsBridge.construct_frame constructed
      cases changed
      refine ⟨fun bridge found => ?_, steady.stopped⟩
      cases found
      cases active with
      | true => exact ⟨DdsBridge.enable_uniform uniform, _, current, by simp⟩
      | false => exact ⟨uniform, _, current, by simp [stopped]⟩
  · cases changed
    exact steady
  · cases changed

theorem steady_activate (steady : slot.Steady enabled)
    (changed : slot.activate configuration environment topic = .ok next) : next.Steady true := by
  unfold TopicSlot.activate at changed
  dsimp only at changed
  split at changed
  · next absent =>
      have none : slot.bridge = none := absent
      have marked : (slot.setActive topic true).Steady true := by
        refine ⟨fun bridge found => ?_, fun stopped => by cases stopped⟩
        rw [show (slot.setActive topic true).bridge = slot.bridge from rfl, none] at found
        cases found
      exact steady_createNewBridge marked rfl changed
  · next bridge found =>
      cases changed
      refine ⟨fun bridge found => ?_, fun stopped => by cases stopped⟩
      cases found
      exact ⟨DdsBridge.enable_uniform (steady.bridged _ found).1, _, rfl, by simp⟩

theorem steady_deactivate (steady : slot.Steady enabled) :
    (slot.deactivate topic).Steady enabled := by
  refine ⟨fun bridge found => ?_, fun _ entry found => ?_⟩
  · obtain ⟨old, before, rfl⟩ := Option.map_eq_some_iff.mp found
    exact ⟨DdsBridge.disable_uniform (steady.bridged old before).1, _, rfl, by simp⟩
  · cases found
    rfl

theorem TopicSlot.Steady.reflag {other : Bool} (steady : slot.Steady enabled)
    (stopped : other = false → enabled = false) : slot.Steady other :=
  ⟨steady.bridged, fun disabled => steady.stopped (stopped disabled)⟩

theorem current_emplace {entry : CurrentTopic} (found : (slot.emplace topic).current = some entry) :
    slot.current = some entry ∨ entry = ⟨topic, false⟩ := by
  cases found
  cases slot.current with
  | none => exact .inr rfl
  | some entry => exact .inl rfl

theorem steady_emplace (steady : slot.Steady enabled) (absent : slot.bridge = none) :
    (slot.emplace topic).Steady enabled := by
  refine ⟨fun bridge found => ?_, fun stopped entry found => ?_⟩
  · rw [show slot.bridge = some bridge from found] at absent
    cases absent
  · rcases current_emplace found with current | rfl
    · exact steady.stopped stopped entry current
    · rfl

theorem steady_discovered [IFilterTopic Filter] {list : AllowedTopicList Filter}
    (steady : slot.Steady enabled)
    (changed : slot.discovered configuration environment enabled list topic = .ok next) :
    next.Steady enabled := by
  unfold TopicSlot.discovered at changed
  split at changed
  · next absent =>
      have emplaced : (slot.emplace topic).Steady enabled := steady_emplace steady absent
      dsimp only at changed
      split at changed
      · next activates =>
          rw [Bool.and_eq_true] at activates
          exact (steady_activate emplaced changed).reflag fun stopped => by
            rw [activates.1] at stopped
            cases stopped
      · cases changed
        exact emplaced
  · next bridge found =>
      obtain ⟨uniform, entry, current, same⟩ := steady.bridged bridge found
      split at changed
      · obtain ⟨gained, created, stored⟩ := OrderedMap.bind_eq_ok_iff.mp changed
        cases stored
        obtain ⟨⟨_, _, sameEnabled⟩, gainedUniform⟩ := DdsBridge.createWriter_frame created
        refine ⟨fun bridge found => ?_, steady.stopped⟩
        cases found
        exact ⟨gainedUniform uniform, entry, current, sameEnabled.trans same⟩
      · cases changed
        exact steady

theorem steady_builtin
    (changed : TopicSlot.createNewBridge configuration environment ⟨some ⟨topic, false⟩, none, 0⟩
      topic false = .ok next) : next.Steady false := by
  have fresh : TopicSlot.Steady false ⟨some ⟨topic, false⟩, none, 0⟩ :=
    ⟨by simp, fun _ entry found => by cases found; rfl⟩
  exact steady_createNewBridge fresh rfl changed

theorem steady_disable (steady : slot.Steady enabled) : slot.disable.Steady false := by
  unfold TopicSlot.disable
  split
  · refine ⟨(steady_deactivate steady).bridged, fun _ entry found => ?_⟩
    cases found
    rfl
  · next absent => exact ⟨steady.bridged, fun _ entry found => by simp [absent] at found⟩

theorem steady_removed (steady : slot.Steady enabled) (participantId : ParticipantId) :
    (slot.removed participantId).Steady enabled := by
  unfold TopicSlot.removed
  split
  · refine ⟨fun bridge found => ?_, steady.stopped⟩
    obtain ⟨old, before, rfl⟩ := Option.map_eq_some_iff.mp found
    obtain ⟨uniform, entry, current, same⟩ := steady.bridged old before
    exact ⟨DdsBridge.removeWriter_uniform uniform, entry, current, same⟩
  · exact steady

/-- **Bridges follow the activity of their topics**, whatever cannot be created. -/
theorem steady_invariant [IFilterTopic Filter] (configuration : DdsPipeConfiguration Filter) :
    TopicInvariant configuration (fun _ => True) (fun _ => True)
      (fun enabled (_ : AllowedTopicList Filter) _ slot => slot.Steady enabled) where
  unknown _ _ := ⟨by simp, by simp⟩
  builtin _ _ changed := steady_builtin changed
  enable := by
    intro environment list name slot next _ steady changed
    unfold TopicSlot.enable at changed
    split at changed
    · split at changed
      · exact steady_activate steady changed
      · cases changed
        exact steady.reflag fun disabled => by cases disabled
    · cases changed
      exact steady.reflag fun disabled => by cases disabled
  disable steady := steady_disable steady
  reinstall _ steady := steady
  reload := by
    intro environment list other name slot next _ steady changed
    unfold TopicSlot.reload at changed
    split at changed
    · split at changed
      · split at changed
        · cases changed
          exact steady
        · cases changed
          exact steady_deactivate steady
      · split at changed
        · exact steady_activate steady changed
        · cases changed
          exact steady
    · cases changed
      exact steady
  discovered _ _ steady changed := steady_discovered steady changed
  removed participantId steady := steady_removed steady participantId

end Steady

/-! ### The verdict of the list -/

/-- The topic is active exactly when the list of an enabled pipe allows it, an
active topic has a bridge, and no topic has had more than one. `Known` holds of
the topics that the run is about. -/
structure TopicSlot.Settled {Filter : Type} [IFilterTopic Filter] (Known : DdsTopic → Prop)
    (enabled : Bool) (list : AllowedTopicList Filter) (name : String) (slot : TopicSlot) :
    Prop where
  steady : slot.Steady enabled
  known : ∀ entry, slot.current = some entry →
    Known entry.topic ∧ entry.topic.topicUniqueName = name
  verdict : enabled = true → ∀ entry, slot.current = some entry →
    entry.active = list.isTopicAllowed entry.topic
  bridged : ∀ entry, slot.current = some entry → entry.active = true →
    slot.bridge.isSome = true
  created : slot.created = if slot.bridge.isSome then 1 else 0

section Settled

variable {Filter : Type} {configuration : DdsPipeConfiguration Filter}
  {environment : Environment} {slot next : TopicSlot} {topic : DdsTopic} {enabled : Bool}

/-- Without a creation that throws, a created bridge is there. -/
theorem created_createNewBridge (never : environment.createThrows = neverThrows)
    (changed : slot.createNewBridge configuration environment topic enabled = .ok next) :
    next.current = slot.current ∧ next.bridge.isSome = true ∧
      next.created = slot.created + 1 := by
  unfold TopicSlot.createNewBridge at changed
  split at changed
  · cases changed
    exact ⟨rfl, rfl, rfl⟩
  · next failed =>
      cases DdsBridge.construct_failsOnly never _ _ _ _ failed
  · cases changed

theorem created_activate (never : environment.createThrows = neverThrows)
    (created : slot.created = if slot.bridge.isSome then 1 else 0)
    (changed : slot.activate configuration environment topic = .ok next) :
    next.current = (slot.setActive topic true).current ∧ next.bridge.isSome = true ∧
      next.created = 1 := by
  unfold TopicSlot.activate at changed
  dsimp only at changed
  split at changed
  · next absent =>
      obtain ⟨current, bridged, counted⟩ := created_createNewBridge never changed
      have none : slot.bridge = none := absent
      refine ⟨current, bridged, counted.trans ?_⟩
      show slot.created + 1 = 1
      rw [created, none]
      rfl
  · next bridge found =>
      cases changed
      have before : slot.bridge = some bridge := found
      exact ⟨rfl, rfl, created.trans (by rw [before]; rfl)⟩

variable [IFilterTopic Filter] {Known : DdsTopic → Prop} {list other : AllowedTopicList Filter}
  {name : String}

/-- An allowed topic, activated. -/
theorem settled_activate (never : environment.createThrows = neverThrows)
    (steady : slot.Steady enabled)
    (known : ∀ entry, slot.current = some entry →
      Known entry.topic ∧ entry.topic.topicUniqueName = name)
    (created : slot.created = if slot.bridge.isSome then 1 else 0)
    {entry : CurrentTopic} (current : slot.current = some entry)
    (allowed : list.isTopicAllowed entry.topic = true)
    (changed : slot.activate configuration environment topic = .ok next) :
    next.Settled Known true list name := by
  obtain ⟨now, bridged, once⟩ := created_activate never created changed
  have now : next.current = some ⟨entry.topic, true⟩ := by
    rw [now]
    simp [TopicSlot.setActive, current]
  refine ⟨steady_activate steady changed, fun entry found => ?_, fun _ entry found => ?_,
    fun _ _ _ => bridged, by rw [once, bridged]; rfl⟩
  · rw [now] at found
    cases found
    exact known entry current
  · rw [now] at found
    cases found
    exact allowed.symm

/-- A topic that the list does not allow, deactivated. -/
theorem settled_deactivate {running : Bool} (settled : slot.Settled Known enabled list name)
    {entry : CurrentTopic} (current : slot.current = some entry)
    (steady : (slot.deactivate topic).Steady running)
    (blocked : running = true → other.isTopicAllowed entry.topic = false) :
    (slot.deactivate topic).Settled Known running other name := by
  have now : (slot.deactivate topic).current = some ⟨entry.topic, false⟩ := by
    simp [TopicSlot.deactivate, TopicSlot.setActive, current]
  refine ⟨steady, fun entry found => ?_, fun running entry found => ?_,
    fun entry found active => ?_, ?_⟩
  · rw [now] at found
    cases found
    exact settled.known entry current
  · rw [now] at found
    cases found
    exact (blocked running).symm
  · rw [now] at found
    cases found
    cases active
  · simpa [TopicSlot.deactivate, TopicSlot.setActive] using settled.created

/-- The discovery of a topic whose names, among the known topics, its unique name
determines. -/
theorem settled_discovered [FiltersByName Filter] (never : environment.createThrows = neverThrows)
    (distinct : ∀ topic other, Known topic → Known other →
      topic.topicUniqueName = other.topicUniqueName →
        topic.topicName = other.topicName ∧ topic.typeName = other.typeName)
    (knownTopic : Known topic) (settled : slot.Settled Known enabled list topic.topicUniqueName)
    (changed : slot.discovered configuration environment enabled list topic = .ok next) :
    next.Settled Known enabled list topic.topicUniqueName := by
  have steady := steady_discovered settled.steady changed
  unfold TopicSlot.discovered at changed
  split at changed
  · next absent =>
      have emplaced : (slot.emplace topic).Steady enabled := steady_emplace settled.steady absent
      have known : ∀ entry, (slot.emplace topic).current = some entry →
          Known entry.topic ∧ entry.topic.topicUniqueName = topic.topicUniqueName := by
        intro entry found
        rcases current_emplace found with current | rfl
        · exact settled.known entry current
        · exact ⟨knownTopic, rfl⟩
      have sameVerdict : ∀ entry, (slot.emplace topic).current = some entry →
          list.isTopicAllowed entry.topic = list.isTopicAllowed topic := by
        intro entry found
        obtain ⟨knownEntry, named⟩ := known entry found
        obtain ⟨sameName, sameType⟩ := distinct _ _ knownEntry knownTopic named
        exact list.isTopicAllowed_congr sameName sameType
      dsimp only at changed
      split at changed
      · next activates =>
          rw [Bool.and_eq_true] at activates
          rw [activates.1]
          exact settled_activate never emplaced known settled.created rfl
            ((sameVerdict _ rfl).trans activates.2) changed
      · next waits =>
          cases changed
          refine ⟨steady, known, fun running entry found => ?_, fun entry found active => ?_,
            settled.created⟩
          · have blocked : list.isTopicAllowed topic = false := by simpa [running] using waits
            rcases current_emplace found with current | rfl
            · exact settled.verdict running entry current
            · exact blocked.symm
          · rcases current_emplace found with current | rfl
            · exact settled.bridged entry current active
            · cases active
  · next bridge found =>
      split at changed
      · obtain ⟨gained, created, stored⟩ := OrderedMap.bind_eq_ok_iff.mp changed
        cases stored
        refine ⟨steady, settled.known, settled.verdict, fun _ _ _ => rfl, ?_⟩
        simpa [found] using settled.created
      · cases changed
        exact settled

/-- **The verdict of the list decides which topics are active.** -/
theorem settled_invariant [FiltersByName Filter] (configuration : DdsPipeConfiguration Filter)
    (distinct : ∀ topic other, Known topic → Known other →
      topic.topicUniqueName = other.topicUniqueName →
        topic.topicName = other.topicName ∧ topic.typeName = other.typeName) :
    TopicInvariant configuration (fun environment => environment.createThrows = neverThrows) Known
      (TopicSlot.Settled Known) where
  unknown _ _ := ⟨⟨by simp, by simp⟩, by simp, by simp, by simp, by simp⟩
  builtin := by
    intro environment list topic next never knownTopic changed
    obtain ⟨current, bridged, counted⟩ := created_createNewBridge never changed
    refine ⟨steady_builtin changed, fun entry found => ?_, (fun running => by cases running),
      fun _ _ _ => bridged, by rw [counted, bridged]; rfl⟩
    rw [current] at found
    cases found
    exact ⟨knownTopic, rfl⟩
  enable := by
    intro environment list name slot next never settled changed
    unfold TopicSlot.enable at changed
    split at changed
    · next entry current =>
        split at changed
        · next allowed =>
            exact settled_activate never settled.steady settled.known settled.created current
              allowed changed
        · next blocked =>
            cases changed
            refine ⟨settled.steady.reflag (fun disabled => by cases disabled), settled.known,
              fun _ entry found => ?_, settled.bridged, settled.created⟩
            rw [current] at found
            cases found
            rw [settled.steady.stopped rfl _ current]
            simpa using blocked
    · next absent =>
        cases changed
        exact ⟨settled.steady.reflag (fun disabled => by cases disabled), settled.known,
          (fun _ entry found => by simp [absent] at found), settled.bridged,
          settled.created⟩
  disable := by
    intro list name slot settled
    have steady := steady_disable settled.steady
    unfold TopicSlot.disable at steady ⊢
    cases current : slot.current with
    | some entry =>
        simp only [current] at steady ⊢
        exact settled_deactivate settled current steady fun running => by cases running
    | none =>
        simp only [current] at steady ⊢
        exact ⟨steady, settled.known, (fun running => by cases running), settled.bridged,
          settled.created⟩
  reinstall other settled :=
    ⟨settled.steady, settled.known, (fun running => by cases running), settled.bridged,
      settled.created⟩
  reload := by
    intro environment list other name slot next never settled changed
    unfold TopicSlot.reload at changed
    split at changed
    · next entry current =>
        split at changed
        · next active =>
            split at changed
            · next allowed =>
                cases changed
                refine ⟨settled.steady, settled.known, fun _ entry found => ?_, settled.bridged,
                  settled.created⟩
                rw [current] at found
                cases found
                rw [active, allowed]
            · next blocked =>
                cases changed
                exact settled_deactivate settled current (steady_deactivate settled.steady)
                  fun _ => by simpa using blocked
        · next inactive =>
            split at changed
            · next allowed =>
                exact settled_activate never settled.steady settled.known settled.created current
                  allowed changed
            · next blocked =>
                cases changed
                refine ⟨settled.steady, settled.known, fun _ entry found => ?_, settled.bridged,
                  settled.created⟩
                rw [current] at found
                cases found
                simp_all
    · next absent =>
        cases changed
        exact ⟨settled.steady, settled.known,
          (fun _ entry found => by simp [absent] at found), settled.bridged,
          settled.created⟩
  discovered never knownTopic settled changed :=
    settled_discovered never distinct knownTopic settled changed
  removed := by
    intro enabled list name slot participantId settled
    have steady := steady_removed settled.steady participantId
    unfold TopicSlot.removed at steady ⊢
    split
    · next known =>
        rw [if_pos known] at steady
        exact ⟨steady, settled.known, settled.verdict,
          by simpa using settled.bridged, by simpa using settled.created⟩
    · exact settled

end Settled

/-! ### Runs -/

section Runs

open TransitionSystem

/-- Every entity can be created, and the notifications on topics that are no
service topics are on known ones. -/
def CreatesKnown {Filter : Type} (Known : DdsTopic → Prop) (_ : Pipe Filter)
    (label : Label Filter) : Prop :=
  label.createThrows = neverThrows ∧
    ∀ entities notification, label.call = .notified entities notification →
      isServiceTopic notification.endpoint.topic = false → Known notification.endpoint.topic

/-- The activation of the topics of a pipe. -/
structure Activation {Filter : Type} [IFilterTopic Filter] (pipe : Pipe Filter) : Prop where
  enabled : pipe.enabled = true → ∀ (name : String) entry,
    pipe.currentTopics[name]? = some entry →
      (entry.active = true ↔ pipe.allowedTopics.isTopicAllowed entry.topic = true) ∧
        (entry.active = true → ∃ bridge, pipe.bridges[name]? = some bridge)
  disabled : pipe.enabled = false → ∀ (name : String) entry,
    pipe.currentTopics[name]? = some entry → entry.active = false
  bridges : ∀ (name : String) bridge, pipe.bridges[name]? = some bridge →
    ∃ entry, pipe.currentTopics[name]? = some entry ∧
      (bridge.enabled = true ↔ entry.active = true)
  createdOnce : pipe.bridgesCreated.Nodup

variable {Filter : Type} [IFilterTopic Filter] {configuration : DdsPipeConfiguration Filter}
  {participants : ParticipantsDatabase} {pipe : Pipe Filter}

theorem activation_of_settled {Known : DdsTopic → Prop}
    (settled : pipe.EveryTopic (TopicSlot.Settled Known)) : Activation pipe where
  enabled running name entry found := by
    refine ⟨by rw [(settled name).verdict running entry found], fun active => ?_⟩
    exact Option.isSome_iff_exists.mp ((settled name).bridged entry found active)
  disabled stopped name entry found := (settled name).steady.stopped stopped entry found
  bridges name bridge found := by
    obtain ⟨_, entry, current, same⟩ := (settled name).steady.bridged bridge found
    exact ⟨entry, current, by rw [same]⟩
  createdOnce := by
    rw [List.nodup_iff_count_le_one]
    intro name
    have created := (settled name).created
    rw [show (pipe.topicSlot name).created = pipe.bridgesCreated.count name from rfl] at created
    rw [created]
    split <;> omega

omit [IFilterTopic Filter] in
theorem isSome_activate {environment : Environment} {slot next : TopicSlot} {topic : DdsTopic}
    (changed : slot.activate configuration environment topic = .ok next) :
    next.current.isSome = true := by
  rw [current_activate changed]
  rfl

theorem stays_kept (configuration : DdsPipeConfiguration Filter) (known : String) :
    TopicKept configuration (fun _ => True) (fun _ => True)
      (fun _ (_ : AllowedTopicList Filter) name slot =>
        name = known → slot.current.isSome = true) where
  enable _ stays changed same := by
    unfold TopicSlot.enable at changed
    split at changed
    · split at changed
      · exact isSome_activate changed
      · cases changed
        exact stays same
    · cases changed
      exact stays same
  disable stays same := by
    unfold TopicSlot.disable
    split
    · rfl
    · exact stays same
  reinstall _ stays := stays
  reload _ stays changed same := by
    unfold TopicSlot.reload at changed
    split at changed
    · split at changed
      · split at changed
        · cases changed
          exact stays same
        · cases changed
          rfl
      · split at changed
        · exact isSome_activate changed
        · cases changed
          exact stays same
    · cases changed
      exact stays same
  discovered _ _ stays changed same := by
    unfold TopicSlot.discovered at changed
    split at changed
    · dsimp only at changed
      split at changed
      · exact isSome_activate changed
      · cases changed
        rfl
    · split at changed
      · obtain ⟨_, _, stored⟩ := OrderedMap.bind_eq_ok_iff.mp changed
        cases stored
        exact stays same
      · cases changed
        exact stays same
  removed participantId stays same := by
    unfold TopicSlot.removed
    split <;> exact stays same

/-- No topic leaves the known topics. -/
def Pipe.KeepsTopics {Filter : Type} (pipe next : Pipe Filter) : Prop :=
  ∀ name ∈ pipe.currentTopics, name ∈ next.currentTopics

theorem keepsTopics_perform {environment : Environment} {call : Call Filter}
    {next : Pipe Filter} (keyed : pipe.WellKeyed)
    (succeeded : pipe.perform configuration environment call = .ok next) :
    pipe.KeepsTopics next := by
  intro name known
  have before : pipe.EveryTopic (fun _ (_ : AllowedTopicList Filter) other slot =>
      other = name → slot.current.isSome = true) := by
    rintro _ rfl
    exact TreeMap.isSome_getElem?_iff_mem.mpr known
  have after := (stays_kept configuration name).step keyed trivial (fun _ _ _ _ => trivial) before
    succeeded
  exact TreeMap.isSome_getElem?_iff_mem.mp (after name rfl)

/-- **Topic activation.** When every entity can be created and topics with equal
unique names have equal names, the activation of the topics is right in every
reachable state, and no topic leaves the known topics from there on. -/
theorem activation_of_reachable [FiltersByName Filter] {Known : DdsTopic → Prop}
    (distinct : ∀ topic other, Known topic → Known other →
      topic.topicUniqueName = other.topicUniqueName →
        topic.topicName = other.topicName ∧ topic.typeName = other.typeName)
    (builtin : ∀ (name : String) topic, configuration.builtinTopics.topics[name]? = some topic →
      Known topic)
    (reached : (pipeSystem configuration participants (· = neverThrows)).Reachable
      (CreatesKnown Known) pipe) :
    Activation pipe ∧
      ∀ next, (pipeSystem configuration participants (· = neverThrows)).Leads
        (CreatesKnown Known) pipe next →
          pipe.KeepsTopics next := by
  have settled : pipe.EveryTopic (TopicSlot.Settled Known) :=
    (settled_invariant configuration distinct).reachable (fun _ never => never) builtin
      (fun _ _ admitted => admitted) reached
  refine ⟨activation_of_settled settled, fun next leads => ?_⟩
  have stepwise : ∀ before label after, (pipeSystem configuration participants
      (· = neverThrows)).Reachable (CreatesKnown Known) before → CreatesKnown Known before label →
      (pipeSystem configuration participants (· = neverThrows)).step before label = some after →
      before.KeepsTopics after := by
    intro before label after from_start _ taken
    exact keepsTopics_perform (wellKeyed_of_reachable from_start) (step_eq_some_iff.mp taken)
  exact leads.related (fun _ _ known => known)
    (fun _ _ _ first second name known => second name (first name known)) stepwise reached

/-- The run that enables a pipe and discovers a reader on it. -/
theorem activation_of_reachable_chatter :
    letI := literalUtils
    ∃ pipe : Pipe WildcardDdsFilterTopic, pipe.enabled = true ∧
      pipe.bridges.contains chatterReader.topic.topicUniqueName = true ∧ Activation pipe := by
  let := literalUtils
  have known : ∀ label ∈ [⟨.enable, neverThrows⟩, ⟨discoveredAlone chatterReader, neverThrows⟩],
      ∀ pipe : Pipe WildcardDdsFilterTopic, CreatesKnown (· = chatterReader.topic) pipe label := by
    intro label member pipe
    simp only [List.mem_cons, List.not_mem_nil, or_false] at member
    rcases member with rfl | rfl
    · exact ⟨rfl, fun _ _ other => by cases other⟩
    · refine ⟨rfl, fun entities notification same _ => ?_⟩
      cases same
      rfl
  obtain ⟨pipe, reached, test⟩ := System.exists_reachable_of_run
    (pipeSystem defaultConfiguration twoParticipants (· = neverThrows))
    (Pipe.initAllowedTopics defaultConfiguration)
    [⟨.enable, neverThrows⟩, ⟨discoveredAlone chatterReader, neverThrows⟩]
    (fun pipe => pipe.enabled && pipe.bridges.contains chatterReader.topic.topicUniqueName)
    known ⟨neverThrows, rfl, rfl⟩ (by decide +kernel)
  rw [Bool.and_eq_true] at test
  refine ⟨pipe, test.1, test.2, ?_⟩
  exact (activation_of_reachable (by rintro _ _ rfl rfl _; exact ⟨rfl, rfl⟩)
    (fun name topic found => by cases found) reached).1

end Runs

end DdsPipe.Core
