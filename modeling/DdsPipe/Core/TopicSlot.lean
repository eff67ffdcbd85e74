import DdsPipe.Core.DdsPipe

/-!
Owns the pipe as one topic sees it: the slot of a topic is its entry among the
known topics, its bridge and the number of bridges created for it.

Every call of the pipe acts on the slots separately. The theorems here give, for
each function on the topics, the function on a slot that it performs in the slot
of every topic; invariants of the topics are then proved on one slot.
-/

namespace DdsPipe.Core

open Std (TreeMap)
open DdsPipe.Types DdsPipe.Dynamic DdsPipe.Configuration DdsPipe.Communication

structure TopicSlot where
  current : Option CurrentTopic
  bridge : Option DdsBridge
  created : Nat

/-- The pipe as the topic of a unique name sees it. -/
def Pipe.topicSlot {Filter : Type} (pipe : Pipe Filter) (name : String) : TopicSlot where
  current := pipe.currentTopics[name]?
  bridge := pipe.bridges[name]?
  created := pipe.bridgesCreated.count name

namespace TopicSlot

variable {Filter : Type} [IFilterTopic Filter] (configuration : DdsPipeConfiguration Filter)
  (environment : Environment)

def createNewBridge (slot : TopicSlot) (topic : DdsTopic) (enabled : Bool) :
    Except Fault TopicSlot :=
  match DdsBridge.construct environment topic (configuration.getRoutesConfig topic)
      configuration.removeUnusedEntities with
  | .ok newBridge =>
      .ok { slot with
        bridge := some (if enabled then newBridge.enable else newBridge)
        created := slot.created + 1 }
  | .error .initializationException => .ok slot
  | .error fault => .error fault

def setActive (slot : TopicSlot) (topic : DdsTopic) (active : Bool) : TopicSlot :=
  { slot with
    current := some {
      topic := (slot.current.map CurrentTopic.topic).getD topic
      active := active } }

def activate (slot : TopicSlot) (topic : DdsTopic) : Except Fault TopicSlot :=
  let slot := slot.setActive topic true
  match slot.bridge with
  | none => slot.createNewBridge configuration environment topic true
  | some bridge => .ok { slot with bridge := some bridge.enable }

def deactivate (slot : TopicSlot) (topic : DdsTopic) : TopicSlot :=
  let slot := slot.setActive topic false
  { slot with bridge := slot.bridge.map DdsBridge.disable }

/-- `current_topics_.emplace(topic, false)`: an entry that is there stays. -/
def emplace (slot : TopicSlot) (topic : DdsTopic) : TopicSlot :=
  { slot with current := some (slot.current.getD ⟨topic, false⟩) }

/-- Enabling the pipe, on the slot of a topic. -/
def enable (allowedTopics : AllowedTopicList Filter) (slot : TopicSlot) : Except Fault TopicSlot :=
  match slot.current with
  | some entry =>
      if allowedTopics.isTopicAllowed entry.topic then
        slot.activate configuration environment entry.topic
      else .ok slot
  | none => .ok slot

/-- Disabling the pipe, on the slot of a topic. -/
def disable (slot : TopicSlot) : TopicSlot :=
  match slot.current with
  | some entry => slot.deactivate entry.topic
  | none => slot

/-- Reloading a changed list while the pipe is enabled, on the slot of a topic. -/
def reload (allowedTopics : AllowedTopicList Filter) (slot : TopicSlot) : Except Fault TopicSlot :=
  match slot.current with
  | some entry =>
      if entry.active then
        if allowedTopics.isTopicAllowed entry.topic then .ok slot
        else .ok (slot.deactivate entry.topic)
      else if allowedTopics.isTopicAllowed entry.topic then
        slot.activate configuration environment entry.topic
      else .ok slot
  | none => .ok slot

/-- The discovery of a topic, on its slot. -/
def discovered (pipeEnabled : Bool) (allowedTopics : AllowedTopicList Filter) (topic : DdsTopic)
    (slot : TopicSlot) : Except Fault TopicSlot :=
  match slot.bridge with
  | none =>
      let slot := slot.emplace topic
      if pipeEnabled && allowedTopics.isTopicAllowed topic then
        slot.activate configuration environment topic
      else .ok slot
  | some bridge =>
      if configuration.removeUnusedEntities &&
          topic.topicDiscoverer != defaultParticipantId then do
        let bridge ← bridge.createWriter environment topic.topicDiscoverer
        return { slot with bridge := some bridge }
      else .ok slot

end TopicSlot

/-! ### What does not touch the topics, and what touches nothing else -/

/-- Nothing but the topics differs. -/
structure SameServices {Filter : Type} (pipe next : Pipe Filter) : Prop where
  allowedTopics : next.allowedTopics = pipe.allowedTopics
  enabled : next.enabled = pipe.enabled
  currentServices : next.currentServices = pipe.currentServices
  rpcBridges : next.rpcBridges = pipe.rpcBridges

namespace SameServices

variable {Filter : Type} {pipe middle next : Pipe Filter}

theorem refl (pipe : Pipe Filter) : SameServices pipe pipe := ⟨rfl, rfl, rfl, rfl⟩

theorem trans (first : SameServices pipe middle) (second : SameServices middle next) :
    SameServices pipe next :=
  ⟨second.allowedTopics.trans first.allowedTopics, second.enabled.trans first.enabled,
    second.currentServices.trans first.currentServices, second.rpcBridges.trans first.rpcBridges⟩

end SameServices

/-- Every entry is kept under the unique name of its topic. -/
def Pipe.Keyed {Filter : Type} (pipe : Pipe Filter) : Prop :=
  ∀ (name : String) (entry : CurrentTopic), pipe.currentTopics[name]? = some entry →
    entry.topic.topicUniqueName = name

/-- `change` is what the slot of `topic` undergoes; the other slots, and all but
the topics, are as before. -/
structure OnTopic {Filter : Type} (pipe next : Pipe Filter) (topic : DdsTopic)
    (change : TopicSlot → Except Fault TopicSlot) : Prop where
  services : SameServices pipe next
  changed : change (pipe.topicSlot topic.topicUniqueName) =
    .ok (next.topicSlot topic.topicUniqueName)
  others : ∀ name, name ≠ topic.topicUniqueName → next.topicSlot name = pipe.topicSlot name

section OneTopic

variable {Filter : Type} {pipe next : Pipe Filter}

/-- Two changes of the same slot, one after the other. -/
theorem OnTopic.seq {middle : Pipe Filter} {topic : DdsTopic}
    {first second : TopicSlot → Except Fault TopicSlot}
    (before : OnTopic pipe middle topic first) (after : OnTopic middle next topic second) :
    OnTopic pipe next topic fun slot => first slot >>= second :=
  ⟨before.services.trans after.services,
    OrderedMap.bind_eq_ok_iff.mpr ⟨_, before.changed, after.changed⟩,
    fun name different => (after.others name different).trans (before.others name different)⟩

/-- A change of the maps at the unique name of `topic` only. -/
theorem onTopic_of_insert {topic : DdsTopic} {change : TopicSlot → Except Fault TopicSlot}
    (services : SameServices pipe next)
    (changed : change (pipe.topicSlot topic.topicUniqueName) =
      .ok (next.topicSlot topic.topicUniqueName))
    (currentTopics : ∀ name, name ≠ topic.topicUniqueName →
      next.currentTopics[name]? = pipe.currentTopics[name]?)
    (bridges : ∀ name, name ≠ topic.topicUniqueName → next.bridges[name]? = pipe.bridges[name]?)
    (created : ∀ name, name ≠ topic.topicUniqueName →
      next.bridgesCreated.count name = pipe.bridgesCreated.count name) :
    OnTopic pipe next topic change :=
  ⟨services, changed, fun name different => by
    simp only [Pipe.topicSlot, currentTopics name different, bridges name different,
      created name different]⟩

theorem topicSlot_setActive (topic : DdsTopic) (active : Bool) (name : String) :
    (pipe.setActive topic active).topicSlot name =
      if name = topic.topicUniqueName then (pipe.topicSlot name).setActive topic active
      else pipe.topicSlot name := by
  split
  · next same =>
      subst same
      simp [Pipe.topicSlot, Pipe.setActive, TopicSlot.setActive]
  · next different =>
      simp only [Pipe.topicSlot, Pipe.setActive, OrderedMap.getElem?_insert_of_ne different]

theorem onTopic_deactivateTopic (pipe : Pipe Filter) (topic : DdsTopic) :
    OnTopic pipe (pipe.deactivateTopic topic) topic fun slot => .ok (slot.deactivate topic) := by
  unfold Pipe.deactivateTopic
  dsimp only
  split
  · next absent =>
      refine ⟨⟨rfl, rfl, rfl, rfl⟩, ?_, fun name different => ?_⟩
      · rw [topicSlot_setActive, if_pos rfl]
        simp only [TopicSlot.deactivate, TopicSlot.setActive, Except.ok.injEq]
        rw [show (pipe.topicSlot topic.topicUniqueName).bridge = none from absent, Option.map_none]
      · rw [topicSlot_setActive, if_neg different]
  · next bridge found =>
      refine onTopic_of_insert ⟨rfl, rfl, rfl, rfl⟩ ?_
        (fun name different => OrderedMap.getElem?_insert_of_ne different)
        (fun name different => OrderedMap.getElem?_insert_of_ne different) (fun _ _ => rfl)
      have before : pipe.bridges[topic.topicUniqueName]? = some bridge := found
      simp [TopicSlot.deactivate, TopicSlot.setActive, before, Pipe.topicSlot, Pipe.setActive]

theorem topicSlot_emplace (pipe : Pipe Filter) (topic : DdsTopic) (name : String) :
    { pipe with
      currentTopics := pipe.currentTopics.insertIfNew topic.topicUniqueName
        ⟨topic, false⟩ }.topicSlot name =
      if name = topic.topicUniqueName then (pipe.topicSlot name).emplace topic
      else pipe.topicSlot name := by
  split
  · next same =>
      subst same
      simp only [Pipe.topicSlot, TopicSlot.emplace, OrderedMap.getElem?_insertIfNew_self]
  · next different =>
      simp only [Pipe.topicSlot, OrderedMap.getElem?_insertIfNew_of_ne different]

variable {configuration : DdsPipeConfiguration Filter} {environment : Environment}

theorem onTopic_createNewBridge {topic : DdsTopic} {enabled : Bool}
    (succeeded : pipe.createNewBridge configuration environment topic enabled = .ok next) :
    OnTopic pipe next topic fun slot =>
      slot.createNewBridge configuration environment topic enabled := by
  unfold Pipe.createNewBridge at succeeded
  split at succeeded
  · next newBridge constructed =>
      cases succeeded
      refine onTopic_of_insert ⟨rfl, rfl, rfl, rfl⟩ ?_ (fun _ _ => rfl)
        (fun name different => OrderedMap.getElem?_insert_of_ne different)
        (fun name different => List.count_cons_of_ne different.symm)
      simp [TopicSlot.createNewBridge, constructed, Pipe.topicSlot]
  · next constructed =>
      cases succeeded
      refine onTopic_of_insert (.refl pipe) ?_ (fun _ _ => rfl) (fun _ _ => rfl) (fun _ _ => rfl)
      simp [TopicSlot.createNewBridge, constructed]
  · cases succeeded

theorem onTopic_activateTopic {topic : DdsTopic}
    (succeeded : pipe.activateTopic configuration environment topic = .ok next) :
    OnTopic pipe next topic fun slot => slot.activate configuration environment topic := by
  have marked : (pipe.setActive topic true).topicSlot topic.topicUniqueName =
      (pipe.topicSlot topic.topicUniqueName).setActive topic true := by
    rw [topicSlot_setActive, if_pos rfl]
  unfold Pipe.activateTopic at succeeded
  dsimp only at succeeded
  split at succeeded
  · next absent =>
      obtain ⟨services, changed, others⟩ := onTopic_createNewBridge succeeded
      refine ⟨⟨services.allowedTopics, services.enabled, services.currentServices,
        services.rpcBridges⟩, ?_, fun name different => ?_⟩
      · rw [marked] at changed
        have before : (pipe.topicSlot topic.topicUniqueName).bridge = none := absent
        simpa only [TopicSlot.activate, TopicSlot.setActive, before] using changed
      · rw [others name different, topicSlot_setActive, if_neg different]
  · next bridge found =>
      cases succeeded
      refine onTopic_of_insert ⟨rfl, rfl, rfl, rfl⟩ ?_
        (fun name different => OrderedMap.getElem?_insert_of_ne different)
        (fun name different => OrderedMap.getElem?_insert_of_ne different) (fun _ _ => rfl)
      have before : pipe.bridges[topic.topicUniqueName]? = some bridge := found
      simp [TopicSlot.activate, TopicSlot.setActive, before, Pipe.topicSlot, Pipe.setActive]

variable [IFilterTopic Filter]

theorem onTopic_discoveredTopic {topic : DdsTopic}
    (succeeded : pipe.discoveredTopic configuration environment topic = .ok next) :
    OnTopic pipe next topic
      (TopicSlot.discovered configuration environment pipe.enabled pipe.allowedTopics topic) := by
  unfold Pipe.discoveredTopic at succeeded
  split at succeeded
  · next absent =>
      have before : (pipe.topicSlot topic.topicUniqueName).bridge = none := absent
      have emplaced := topicSlot_emplace pipe topic
      dsimp only at succeeded
      split at succeeded
      · next activates =>
          obtain ⟨services, changed, others⟩ := onTopic_activateTopic succeeded
          refine ⟨⟨services.allowedTopics, services.enabled, services.currentServices,
            services.rpcBridges⟩, ?_, fun name different => ?_⟩
          · rw [emplaced, if_pos rfl] at changed
            simp only [TopicSlot.discovered, before, if_pos activates]
            simpa only [before] using changed
          · rw [others name different, emplaced, if_neg different]
      · next waits =>
          cases succeeded
          refine ⟨⟨rfl, rfl, rfl, rfl⟩, ?_, fun name different => ?_⟩
          · rw [emplaced, if_pos rfl]
            simp only [TopicSlot.discovered, before, if_neg waits]
          · rw [emplaced, if_neg different]
  · next bridge found =>
      have before : (pipe.topicSlot topic.topicUniqueName).bridge = some bridge := found
      split at succeeded
      · next adds =>
          obtain ⟨gained, created, stored⟩ := OrderedMap.bind_eq_ok_iff.mp succeeded
          cases stored
          refine onTopic_of_insert ⟨rfl, rfl, rfl, rfl⟩ ?_ (fun _ _ => rfl)
            (fun name different => OrderedMap.getElem?_insert_of_ne different) (fun _ _ => rfl)
          simp only [TopicSlot.discovered, before, adds, if_true, created]
          simp [Pipe.topicSlot, pure, Except.pure, bind, Except.bind]
      · next keeps =>
          cases succeeded
          exact ⟨.refl pipe, by simp only [TopicSlot.discovered, before, if_neg keeps],
            fun _ _ => rfl⟩

end OneTopic

/-! ### Loops over the known topics -/

section Loops

variable {Filter : Type} {pipe next : Pipe Filter}

/-- The slots that a loop over the known topics goes through are distinct. -/
theorem nodup_map_topicUniqueName (keyed : pipe.Keyed) :
    (pipe.currentTopics.toList.map fun entry => entry.2.topic.topicUniqueName).Nodup := by
  have same : pipe.currentTopics.toList.map (fun entry => entry.2.topic.topicUniqueName) =
      pipe.currentTopics.toList.map Prod.fst := by
    refine List.map_congr_left fun entry member => ?_
    exact keyed entry.1 entry.2 (TreeMap.mem_toList_iff_getElem?_eq_some.mp member)
  rw [same]
  exact OrderedMap.nodup_map_fst_toList _

/-- A loop over the known topics whose round for a topic performs `change` on
the slot of the topic performs it on every slot of a known topic. -/
theorem topicSlot_of_loop (change : CurrentTopic → TopicSlot → Except Fault TopicSlot)
    {body : Pipe Filter → String × CurrentTopic → Except Fault (Pipe Filter)}
    (round : ∀ current entry after, SameServices pipe current →
      body current entry = .ok after → OnTopic current after entry.2.topic (change entry.2))
    (keyed : pipe.Keyed) (succeeded : pipe.currentTopics.toList.foldlM body pipe = .ok next) :
    SameServices pipe next ∧ ∀ name,
      (match (pipe.topicSlot name).current with
        | some entry => change entry (pipe.topicSlot name)
        | none => .ok (pipe.topicSlot name)) = .ok (next.topicSlot name) := by
  obtain ⟨services, visited, untouched⟩ :=
    OrderedMap.foldlM_keywise Pipe.topicSlot (fun entry => entry.2.topic.topicUniqueName)
      (SameServices pipe) (fun entry old new => change entry.2 old = .ok new)
      (fun current entry after _ same executed =>
        have step := round current entry after same executed
        ⟨same.trans step.services, step.changed, step.others⟩)
      (nodup_map_topicUniqueName keyed) (.refl pipe) succeeded
  refine ⟨services, fun name => ?_⟩
  split
  · next entry found =>
      have member : (name, entry) ∈ pipe.currentTopics.toList :=
        TreeMap.mem_toList_iff_getElem?_eq_some.mpr found
      have changed := visited (name, entry) member
      rwa [keyed name entry found] at changed
  · next absent =>
      rw [untouched name]
      intro member
      obtain ⟨entry, listed, same⟩ := List.mem_map.mp member
      have found := TreeMap.mem_toList_iff_getElem?_eq_some.mp listed
      have key := keyed entry.1 entry.2 found
      rw [← same, key] at absent
      rw [show pipe.currentTopics[entry.1]? = none from absent] at found
      cases found

variable [IFilterTopic Filter] {configuration : DdsPipeConfiguration Filter}
  {environment : Environment}

theorem topicSlot_activateAllTopics (keyed : pipe.Keyed)
    (succeeded : pipe.activateAllTopics configuration environment = .ok next) :
    SameServices pipe next ∧ ∀ name,
      (pipe.topicSlot name).enable configuration environment pipe.allowedTopics =
        .ok (next.topicSlot name) := by
  refine topicSlot_of_loop (fun entry slot =>
    if pipe.allowedTopics.isTopicAllowed entry.topic then
      slot.activate configuration environment entry.topic
    else .ok slot) ?_ keyed succeeded
  intro current entry after same executed
  unfold Pipe.activateAllowed at executed
  rw [same.allowedTopics] at executed
  split at executed
  · next allowed =>
      simpa only [if_pos allowed] using onTopic_activateTopic executed
  · next blocked =>
      cases executed
      simp only [if_neg blocked]
      exact ⟨.refl current, rfl, fun _ _ => rfl⟩

theorem topicSlot_reloadTopics (keyed : pipe.Keyed)
    (succeeded : pipe.currentTopics.toList.foldlM (Pipe.reloadTopic configuration environment)
      pipe = .ok next) :
    SameServices pipe next ∧ ∀ name,
      (pipe.topicSlot name).reload configuration environment pipe.allowedTopics =
        .ok (next.topicSlot name) := by
  refine topicSlot_of_loop (fun entry slot =>
    if entry.active then
      if pipe.allowedTopics.isTopicAllowed entry.topic then .ok slot
      else .ok (slot.deactivate entry.topic)
    else if pipe.allowedTopics.isTopicAllowed entry.topic then
      slot.activate configuration environment entry.topic
    else .ok slot) ?_ keyed succeeded
  intro current entry after same executed
  unfold Pipe.reloadTopic at executed
  dsimp only at executed
  rw [same.allowedTopics] at executed
  have unchanged : ∀ unchanged : Pipe Filter, unchanged = after →
      OnTopic unchanged after entry.2.topic .ok := by
    rintro _ rfl
    exact ⟨.refl _, rfl, fun _ _ => rfl⟩
  split at executed
  · next active =>
      split at executed
      · next allowed =>
          simp only [if_pos active, if_pos allowed]
          exact unchanged current (Except.ok.inj executed)
      · next blocked =>
          cases executed
          simpa only [if_pos active, if_neg blocked] using
            onTopic_deactivateTopic current entry.2.topic
  · next inactive =>
      split at executed
      · next allowed =>
          simpa only [if_neg inactive, if_pos allowed] using onTopic_activateTopic executed
      · next blocked =>
          simp only [if_neg inactive, if_neg blocked]
          exact unchanged current (Except.ok.inj executed)

omit [IFilterTopic Filter] in
theorem topicSlot_deactivateAllTopics (keyed : pipe.Keyed) :
    SameServices pipe pipe.deactivateAllTopics ∧ ∀ name,
      pipe.deactivateAllTopics.topicSlot name = (pipe.topicSlot name).disable := by
  have executed : pipe.currentTopics.toList.foldlM
      (fun pipe entry => (.ok (pipe.deactivateTopic entry.2.topic) : Except Fault _)) pipe =
      .ok pipe.deactivateAllTopics := OrderedMap.foldlM_ok _ _ _
  obtain ⟨services, slots⟩ := topicSlot_of_loop
    (fun entry slot => .ok (slot.deactivate entry.topic))
    (fun current entry after _ done => by
      cases done
      exact onTopic_deactivateTopic current entry.2.topic) keyed executed
  refine ⟨services, fun name => ?_⟩
  have changed := slots name
  unfold TopicSlot.disable
  split at changed
  · exact (Except.ok.inj changed).symm
  · exact (Except.ok.inj changed).symm

end Loops

end DdsPipe.Core
