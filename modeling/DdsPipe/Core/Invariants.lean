import DdsPipe.Core.SlotChange

/-!
Owns the rules by which an invariant of the pipe is proved on one slot: what
holds of the slot of a topic or a service that the pipe does not know yet, and
is kept by each function on the slot, holds of every slot in every run.

The rules take the conditions of an invariant on the calls of a run as
predicates: the environments that a call may meet, the topics that a
notification may carry, and what a slot has to be like when a call passes it by.
-/

namespace DdsPipe.Core

open Std (TreeMap)
open DdsPipe.Types DdsPipe.Dynamic DdsPipe.Configuration DdsPipe.Communication

section

variable {Filter : Type} [IFilterTopic Filter]

/-- Every function on the slot of a topic keeps `Ok enabled allowedTopics name
slot`, in a pipe with that flag and that list. -/
structure TopicKept (configuration : DdsPipeConfiguration Filter) (Env : Environment → Prop)
    (Known : DdsTopic → Prop) (Ok : Bool → AllowedTopicList Filter → String → TopicSlot → Prop) :
    Prop where
  enable : ∀ {environment list name slot next}, Env environment → Ok false list name slot →
    slot.enable configuration environment list = .ok next → Ok true list name next
  disable : ∀ {list name slot}, Ok true list name slot → Ok false list name slot.disable
  reinstall : ∀ {list name slot} other, Ok false list name slot → Ok false other name slot
  reload : ∀ {environment list other name slot next}, Env environment → Ok true list name slot →
    slot.reload configuration environment other = .ok next → Ok true other name next
  discovered : ∀ {environment enabled list topic slot next}, Env environment → Known topic →
    Ok enabled list topic.topicUniqueName slot →
    slot.discovered configuration environment enabled list topic = .ok next →
      Ok enabled list topic.topicUniqueName next
  removed : ∀ {enabled list name slot} participantId, Ok enabled list name slot →
    Ok enabled list name (slot.removed participantId)

/-- It also holds of the slots of a pipe that has just been constructed. -/
structure TopicInvariant (configuration : DdsPipeConfiguration Filter) (Env : Environment → Prop)
    (Known : DdsTopic → Prop) (Ok : Bool → AllowedTopicList Filter → String → TopicSlot → Prop) :
    Prop extends TopicKept configuration Env Known Ok where
  unknown : ∀ list name, Ok false list name ⟨none, none, 0⟩
  builtin : ∀ {environment list topic next}, Env environment → Known topic →
    TopicSlot.createNewBridge configuration environment ⟨some ⟨topic, false⟩, none, 0⟩ topic false =
      .ok next → Ok false list topic.topicUniqueName next

/-- The same for the slots of the services. Disabling the pipe, and installing a
list while it is disabled, pass the slots by, and enabling it does not look at the
list. -/
structure ServiceInvariant (Enables Installs : AllowedTopicList Filter → ServiceSlot → Prop)
    (Stops : ServiceSlot → Prop)
    (Ok : Bool → AllowedTopicList Filter → String → ServiceSlot → Prop) : Prop where
  unknown : ∀ list name, Ok false list name ⟨none, none⟩ ∧ Enables list ⟨none, none⟩
  enable : ∀ {environment list name slot next}, Enables list slot → Ok false list name slot →
    slot.enable environment = .ok next → Ok true list name next
  disable : ∀ {list name slot}, Stops slot → Ok true list name slot → Ok false list name slot
  reinstall : ∀ {list other name slot}, Installs other slot → Ok false list name slot →
    Ok false other name slot
  reload : ∀ {environment list other name slot next}, Ok true list name slot →
    slot.reload environment other = .ok next → Ok true other name next
  discovered : ∀ {environment enabled list service participantId guidPrefix slot next},
    Ok enabled list service.serviceName slot →
    slot.discovered environment enabled list service participantId guidPrefix = .ok next →
      Ok enabled list service.serviceName next
  removed : ∀ {enabled list name slot} participantId guidPrefix, Ok enabled list name slot →
    Ok enabled list name (slot.removed participantId guidPrefix)

/-- The list that a call installs in a disabled pipe without a look at the
services. -/
def Pipe.reinstalls (participants : ParticipantsDatabase) (pipe : Pipe Filter) :
    Call Filter → Option (AllowedTopicList Filter)
  | .reloadConfiguration newConfiguration =>
      match newConfiguration.isValid participants.getParticipantsRepeaterMap with
      | .ok _ =>
          let list := AllowedTopicList.create newConfiguration.allowlist newConfiguration.blocklist
          if !pipe.enabled && !list.same pipe.allowedTopics then some list else none
      | .error _ => none
  | _ => none

variable {configuration : DdsPipeConfiguration Filter} {environment : Environment}
  {pipe next : Pipe Filter}

/-- What holds of every slot of a pipe, given its flag and its list. -/
def Pipe.EveryTopic (Ok : Bool → AllowedTopicList Filter → String → TopicSlot → Prop)
    (pipe : Pipe Filter) : Prop :=
  ∀ name, Ok pipe.enabled pipe.allowedTopics name (pipe.topicSlot name)

def Pipe.EveryService (Ok : Bool → AllowedTopicList Filter → String → ServiceSlot → Prop)
    (pipe : Pipe Filter) : Prop :=
  ∀ name, Ok pipe.enabled pipe.allowedTopics name (pipe.serviceSlot name)

/-! ### One call -/

section Step

variable {Env : Environment → Prop} {Known : DdsTopic → Prop}
  {Ok : Bool → AllowedTopicList Filter → String → TopicSlot → Prop}

theorem TopicKept.notified (rules : TopicKept configuration Env Known Ok)
    {entities : Entities} {notification : Notification} {enabled : Bool}
    {list : AllowedTopicList Filter} {slot after : TopicSlot} (possible : Env environment)
    (known : Known notification.endpoint.topic)
    (holds : Ok enabled list notification.endpoint.topic.topicUniqueName slot)
    (changed : slot.notified configuration environment enabled list entities notification =
      .ok after) :
    Ok enabled list notification.endpoint.topic.topicUniqueName after := by
  rcases notified_cases changed with
    ⟨endpoint, discovers, _, done⟩ | ⟨participantId, rfl⟩ | rfl
  · rw [endpoint_of_discoveredBy discovers] at known holds ⊢
    exact rules.discovered possible known holds done
  · exact rules.removed participantId holds
  · exact holds

/-- **One call keeps an invariant of the topics.** -/
theorem TopicKept.step (rules : TopicKept configuration Env Known Ok)
    {call : Call Filter} (keyed : pipe.WellKeyed) (possible : Env environment)
    (known : ∀ entities notification, call = .notified entities notification →
      isServiceTopic notification.endpoint.topic = false → Known notification.endpoint.topic)
    (holds : pipe.EveryTopic Ok)
    (succeeded : pipe.perform configuration environment call = .ok next) :
    next.EveryTopic Ok := by
  intro name
  have before := holds name
  cases slotChange_perform keyed succeeded name with
  | unchanged sameEnabled sameList same =>
      rw [sameEnabled, sameList, same]
      exact before
  | enabled stopped running sameList changed =>
      rw [stopped] at before
      rw [running, sameList]
      exact rules.enable possible before changed
  | disabled running stopped sameList changed =>
      rw [running] at before
      rw [stopped, sameList, changed]
      exact rules.disable before
  | reinstalled stopped stillStopped same =>
      rw [stopped] at before
      rw [stillStopped, same]
      exact rules.reinstall _ before
  | reloaded _ _ running stillRunning newList changed =>
      rw [running] at before
      rw [stillRunning, newList]
      exact rules.reload possible before changed
  | notified notService named sameEnabled sameList changed =>
      subst named
      rw [sameEnabled, sameList]
      exact rules.notified possible (known _ _ rfl notService) before changed

end Step

section Step

variable {Enables Installs : AllowedTopicList Filter → ServiceSlot → Prop}
  {Stops : ServiceSlot → Prop} {Ok : Bool → AllowedTopicList Filter → String → ServiceSlot → Prop}

theorem ServiceInvariant.notified (rules : ServiceInvariant Enables Installs Stops Ok)
    {notification : Notification} {enabled : Bool} {list : AllowedTopicList Filter}
    {service : RpcTopic} {slot after : ServiceSlot}
    (holds : Ok enabled list service.serviceName slot)
    (changed : slot.notified configuration environment enabled list service notification =
      .ok after) : Ok enabled list service.serviceName after := by
  cases notification with
  | discovered endpoint =>
      simp only [ServiceSlot.notified] at changed
      split at changed
      · exact rules.discovered holds changed
      · cases changed
        exact holds
  | updated endpoint =>
      cases changed
      exact holds
  | erased endpoint =>
      simp only [ServiceSlot.notified] at changed
      split at changed
      · cases changed
        exact rules.removed _ _ holds
      · cases changed
        exact holds

/-- **One call keeps an invariant of the services**, when the calls that pass the
slots by meet its conditions. -/
theorem ServiceInvariant.step (rules : ServiceInvariant Enables Installs Stops Ok)
    {call : Call Filter} (keyed : pipe.WellKeyed)
    (enables : call = .enable → pipe.enabled = false → ∀ name,
      Enables pipe.allowedTopics (pipe.serviceSlot name))
    (stops : call = .disable → pipe.enabled = true → ∀ name, Stops (pipe.serviceSlot name))
    (installs : ∀ list, pipe.reinstalls environment.participants call = some list →
      ∀ name, Installs list (pipe.serviceSlot name))
    (holds : pipe.EveryService Ok)
    (succeeded : pipe.perform configuration environment call = .ok next) :
    next.EveryService Ok := by
  intro name
  cases call with
  | enable =>
      obtain ⟨⟨code, after⟩, enabled, rfl⟩ := OrderedMap.map_eq_ok_iff.mp succeeded
      rcases enable_cases keyed enabled with
        ⟨_, rfl⟩ | ⟨stopped, running, sameList, _, services⟩
      · exact holds name
      · rw [running, sameList]
        have before := holds name
        rw [stopped] at before
        exact rules.enable (enables rfl stopped name) before (services name)
  | disable =>
      cases succeeded
      rcases disable_cases keyed with ⟨_, unchanged⟩ | ⟨running, stopped, sameList, _, services⟩
      · rw [unchanged]
        exact holds name
      · rw [stopped, sameList, services name]
        have before := holds name
        rw [running] at before
        exact rules.disable (stops rfl running name) before
  | reloadConfiguration newConfiguration =>
      obtain ⟨⟨answer, after⟩, reloaded, rfl⟩ := OrderedMap.map_eq_ok_iff.mp succeeded
      rcases reloadConfiguration_cases reloaded with rfl | ⟨valid, code, installed⟩
      · exact holds name
      · rcases reloadAllowedTopics_cases keyed installed with
          ⟨_, rfl⟩ | ⟨differs, stopped, rfl⟩ | ⟨_, running, stillRunning, newList, _, services⟩
        · exact holds name
        · have before := holds name
          rw [stopped] at before
          have reinstalled := installs
            (.create newConfiguration.allowlist newConfiguration.blocklist)
            (by simp [Pipe.reinstalls, valid, stopped, differs]) name
          show Ok pipe.enabled _ name (pipe.serviceSlot name)
          rw [stopped]
          exact rules.reinstall reinstalled before
        · have before := holds name
          rw [running] at before
          rw [stillRunning, newList]
          exact rules.reload before (services name)
  | notified entities notification =>
      cases service : isServiceTopic notification.endpoint.topic with
      | false =>
          have same := (onTopic_notified service succeeded).services
          rw [same.enabled, same.allowedTopics, same.serviceSlot]
          exact holds name
      | true =>
          rw [← isSome_rpcTopicOf, Option.isSome_iff_exists] at service
          obtain ⟨rpcTopic, ofService⟩ := service
          obtain ⟨same, changed, others⟩ := onService_notified ofService succeeded
          rw [same.enabled, same.allowedTopics]
          by_cases affected : name = rpcTopic.serviceName
          · subst affected
            exact rules.notified (holds _) changed
          · rw [others name affected]
            exact holds name

end Step

/-! ### Every entry stays under its own name -/

/-- The topic that the entry was inserted with is one that `Holds` for its key. -/
def TopicSlot.Stores (Holds : String → DdsTopic → Prop) (name : String) (slot : TopicSlot) : Prop :=
  ∀ entry, slot.current = some entry → Holds name entry.topic

def ServiceSlot.KeyedBy (name : String) (slot : ServiceSlot) : Prop :=
  ∀ entry, slot.current = some entry → entry.service.serviceName = name

section Keys

variable {slot after : TopicSlot} {topic : DdsTopic} {name : String}
  {Known : DdsTopic → Prop} {Holds : String → DdsTopic → Prop}

omit [IFilterTopic Filter] in
theorem current_createNewBridge {enabled : Bool}
    (changed : slot.createNewBridge configuration environment topic enabled = .ok after) :
    after.current = slot.current := by
  unfold TopicSlot.createNewBridge at changed
  split at changed <;> cases changed <;> rfl

omit [IFilterTopic Filter] in
theorem current_activate (changed : slot.activate configuration environment topic = .ok after) :
    after.current = (slot.setActive topic true).current := by
  unfold TopicSlot.activate at changed
  dsimp only at changed
  split at changed
  · exact current_createNewBridge changed
  · cases changed
    rfl

theorem stores_setActive {active : Bool} (stores : slot.Stores Holds name)
    (holds : Holds name topic) : (slot.setActive topic active).Stores Holds name := by
  intro entry found
  cases found
  cases current : slot.current with
  | none => exact holds
  | some entry => exact stores entry current

omit [IFilterTopic Filter] in
theorem stores_activate (stores : slot.Stores Holds name) (holds : Holds name topic)
    (changed : slot.activate configuration environment topic = .ok after) :
    after.Stores Holds name := by
  intro entry found
  rw [current_activate changed] at found
  exact stores_setActive stores holds entry found

/-- **Every stored topic** is one that was discovered under its unique name. -/
theorem stores_invariant (configuration : DdsPipeConfiguration Filter)
    (fresh : ∀ topic, Known topic → Holds topic.topicUniqueName topic) :
    TopicInvariant configuration (fun _ => True) Known
      (fun _ (_ : AllowedTopicList Filter) name slot => slot.Stores Holds name) where
  unknown _ _ entry found := by cases found
  builtin _ known changed entry found := by
    rw [current_createNewBridge changed] at found
    cases found
    exact fresh _ known
  enable _ stores changed := by
    unfold TopicSlot.enable at changed
    split at changed
    · next entry found =>
        split at changed
        · exact stores_activate stores (stores entry found) changed
        · cases changed
          exact stores
    · cases changed
      exact stores
  disable stores := by
    unfold TopicSlot.disable
    split
    · next entry found => exact stores_setActive stores (stores entry found)
    · exact stores
  reinstall _ stores := stores
  reload _ stores changed := by
    unfold TopicSlot.reload at changed
    split at changed
    · next entry found =>
        split at changed
        · split at changed
          · cases changed
            exact stores
          · cases changed
            exact stores_setActive stores (stores entry found)
        · split at changed
          · exact stores_activate stores (stores entry found) changed
          · cases changed
            exact stores
    · cases changed
      exact stores
  discovered := by
    intro environment enabled list topic slot next _ known stores changed
    have emplaced : (slot.emplace topic).Stores Holds topic.topicUniqueName := by
      intro entry found
      cases found
      cases current : slot.current with
      | none => exact fresh topic known
      | some entry => exact stores entry current
    unfold TopicSlot.discovered at changed
    split at changed
    · dsimp only at changed
      split at changed
      · exact stores_activate emplaced (fresh topic known) changed
      · cases changed
        exact emplaced
    · split at changed
      · obtain ⟨bridge, _, stored⟩ := OrderedMap.bind_eq_ok_iff.mp changed
        cases stored
        exact stores
      · cases changed
        exact stores
  removed participantId stores := by
    unfold TopicSlot.removed
    split <;> exact stores

theorem keyedBy_invariant (configuration : DdsPipeConfiguration Filter) :
    TopicInvariant configuration (fun _ => True) (fun _ => True)
      (fun _ (_ : AllowedTopicList Filter) name slot =>
        slot.Stores (fun key topic => topic.topicUniqueName = key) name) :=
  stores_invariant configuration fun _ _ => rfl

theorem onRpcBridge_current {call : RpcBridge → Except Fault RpcBridge} {slot after : ServiceSlot}
    (changed : slot.onRpcBridge call = .ok after) : after.current = slot.current := by
  obtain ⟨_, _, _, _, rfl⟩ := onRpcBridge_cases changed
  rfl

theorem keyedBy_setAllowed {slot : ServiceSlot} {service : RpcTopic} {allowed : Bool}
    (keyed : slot.KeyedBy name) (named : service.serviceName = name) :
    (slot.setAllowed service allowed).KeyedBy name := by
  intro entry found
  cases found
  cases current : slot.current with
  | none => exact named
  | some entry => exact keyed entry current

theorem serviceKeyedBy_invariant :
    ServiceInvariant (fun _ _ => True) (fun _ _ => True) (fun _ => True)
      (fun _ (_ : AllowedTopicList Filter) name slot => slot.KeyedBy name) where
  unknown _ _ := ⟨nofun, trivial⟩
  enable _ keyed changed entry found := by
    unfold ServiceSlot.enable at changed
    split at changed
    · split at changed
      · rw [onRpcBridge_current changed] at found
        exact keyed entry found
      · cases changed
        exact keyed entry found
    · cases changed
      exact keyed entry found
  disable _ keyed := keyed
  reinstall _ keyed := keyed
  reload keyed changed entry found := by
    unfold ServiceSlot.reload at changed
    split at changed
    · next stored current =>
        split at changed
        all_goals
          rw [onRpcBridge_current changed] at found
          exact keyedBy_setAllowed keyed (keyed stored current) entry found
    · cases changed
      exact keyed entry found
  discovered := by
    intro environment enabled list service participantId guidPrefix slot next keyed changed
    have created : (slot.createNew list service).KeyedBy service.serviceName := by
      unfold ServiceSlot.createNew
      split
      · exact keyed
      · exact keyedBy_setAllowed keyed rfl
    obtain ⟨middle, discovered, continued⟩ := OrderedMap.bind_eq_ok_iff.mp changed
    have between : middle.KeyedBy service.serviceName := by
      intro entry found
      rw [onRpcBridge_current discovered] at found
      exact created entry found
    split at continued
    · intro entry found
      rw [onRpcBridge_current continued] at found
      exact between entry found
    · cases continued
      exact between
  removed _ _ keyed := keyed

end Keys

/-! ### The constructed pipe -/

section Initial

variable {participants : ParticipantsDatabase}

/-- The construction of the builtin bridges, from a pipe that knows no topic. -/
theorem initBridges_cases (stopped : pipe.enabled = false)
    (empty : ∀ name, pipe.topicSlot name = ⟨none, none, 0⟩)
    (succeeded : configuration.builtinTopics.topics.toList.foldlM
      (Pipe.initBridge configuration environment) pipe = .ok next) :
    SameServices pipe next ∧ ∀ name,
      next.topicSlot name = ⟨none, none, 0⟩ ∨
      ∃ topic, configuration.builtinTopics.topics[name]? = some topic ∧
        TopicSlot.createNewBridge configuration environment ⟨some ⟨topic, false⟩, none, 0⟩ topic
          false = .ok (next.topicSlot name) := by
  have round : ∀ current (entry : String × DdsTopic) after,
      entry ∈ configuration.builtinTopics.topics.toList → SameServices pipe current →
      Pipe.initBridge configuration environment current entry = .ok after →
      SameServices pipe after ∧
        (TopicSlot.discovered configuration environment false pipe.allowedTopics entry.2
          (current.topicSlot entry.1) >>= fun slot =>
            slot.createNewBridge configuration environment entry.2 false) =
          .ok (after.topicSlot entry.1) ∧
        ∀ other, other ≠ entry.1 → after.topicSlot other = current.topicSlot other := by
    intro current entry after member same executed
    have key := configuration.builtinTopics.keyed entry.1 entry.2
      (TreeMap.mem_toList_iff_getElem?_eq_some.mp member)
    obtain ⟨middle, discovered, created⟩ := OrderedMap.bind_eq_ok_iff.mp executed
    obtain ⟨services, changed, others⟩ :=
      (onTopic_discoveredTopic discovered).seq (onTopic_createNewBridge created)
    rw [key] at changed others
    rw [same.enabled, stopped, same.allowedTopics] at changed
    exact ⟨same.trans services, changed, others⟩
  obtain ⟨services, visited, untouched⟩ :=
    OrderedMap.foldlM_keywise Pipe.topicSlot Prod.fst (SameServices pipe)
      (fun entry old new => (TopicSlot.discovered configuration environment false
        pipe.allowedTopics entry.2 old >>= fun slot =>
          slot.createNewBridge configuration environment entry.2 false) = .ok new)
      round (OrderedMap.nodup_map_fst_toList _) (.refl pipe) succeeded
  refine ⟨services, fun name => ?_⟩
  cases found : configuration.builtinTopics.topics[name]? with
  | none =>
      refine .inl ?_
      rw [untouched name, empty name]
      rw [OrderedMap.mem_map_fst_toList, ← OrderedMap.getElem?_eq_none_iff]
      exact found
  | some topic =>
      have created := visited (name, topic) (TreeMap.mem_toList_iff_getElem?_eq_some.mpr found)
      rw [empty name] at created
      exact .inr ⟨topic, rfl, created⟩

/-- A constructed pipe knows the builtin topics at most, and is enabled only by
the call that the configuration asks for. -/
theorem construct_cases
    (succeeded : Pipe.construct configuration environment = .ok (.ok next)) :
    ∃ middle : Pipe Filter, middle.enabled = false ∧ middle.WellKeyed ∧
      middle.allowedTopics = .create configuration.allowlist configuration.blocklist ∧
      (∀ name, middle.serviceSlot name = ⟨none, none⟩) ∧
      (∀ name, middle.topicSlot name = ⟨none, none, 0⟩ ∨
        ∃ topic, configuration.builtinTopics.topics[name]? = some topic ∧
          TopicSlot.createNewBridge configuration environment ⟨some ⟨topic, false⟩, none, 0⟩ topic
            false = .ok (middle.topicSlot name)) ∧
      (configuration.initEnabled = false ∧ next = middle ∨ configuration.initEnabled = true ∧
        middle.perform configuration environment .enable = .ok next) := by
  unfold Pipe.construct at succeeded
  split at succeeded
  · cases succeeded
  · obtain ⟨middle, initialised, continued⟩ := OrderedMap.bind_eq_ok_iff.mp succeeded
    have empty : ∀ name, (Pipe.initAllowedTopics configuration).topicSlot name =
        ⟨none, none, 0⟩ := by
      simp [Pipe.topicSlot, Pipe.initAllowedTopics]
    obtain ⟨services, topics⟩ := initBridges_cases rfl empty initialised
    have noService : ∀ name, middle.serviceSlot name = ⟨none, none⟩ := by
      intro name
      rw [services.serviceSlot]
      simp [Pipe.serviceSlot, Pipe.initAllowedTopics]
    have keyed : middle.WellKeyed := by
      refine ⟨fun name entry found => ?_, fun name entry found => ?_⟩
      · have current : (middle.topicSlot name).current = some entry := found
        rcases topics name with unknown | ⟨topic, builtin, created⟩
        · rw [unknown] at current
          cases current
        · rw [current_createNewBridge created] at current
          cases current
          exact configuration.builtinTopics.keyed name topic builtin
      · have current : (middle.serviceSlot name).current = some entry := found
        rw [noService name] at current
        cases current
    refine ⟨middle, services.enabled, keyed, services.allowedTopics, noService, topics, ?_⟩
    split at continued
    · next asked =>
        obtain ⟨⟨code, last⟩, enabled, finished⟩ := OrderedMap.bind_eq_ok_iff.mp continued
        cases finished
        exact .inr ⟨asked, OrderedMap.map_eq_ok_iff.mpr ⟨_, enabled, rfl⟩⟩
    · next unasked =>
        cases continued
        exact .inl ⟨by simpa using unasked, rfl⟩

end Initial

/-! ### Runs -/

section Runs

open TransitionSystem

variable {participants : ParticipantsDatabase} {Behaves : CreateThrows → Prop}
  {Admits : Pipe Filter → Label Filter → Prop}

theorem step_eq_some_iff {label : Label Filter} :
    (pipeSystem configuration participants Behaves).step pipe label = some next ↔
      pipe.perform configuration ⟨participants, label.createThrows⟩ label.call = .ok next := by
  simp only [pipeSystem]
  cases pipe.perform configuration ⟨participants, label.createThrows⟩ label.call <;>
    simp [Except.toOption]

theorem wellKeyed_perform {call : Call Filter} (keyed : pipe.WellKeyed)
    (succeeded : pipe.perform configuration environment call = .ok next) : next.WellKeyed where
  topics := (keyedBy_invariant configuration).step keyed trivial (fun _ _ _ _ => trivial)
    keyed.topics succeeded
  services := serviceKeyedBy_invariant.step keyed (fun _ _ _ => trivial) (fun _ _ _ => trivial)
    (fun _ _ _ => trivial)
    keyed.services succeeded

theorem wellKeyed_construct
    (succeeded : Pipe.construct configuration environment = .ok (.ok next)) : next.WellKeyed := by
  obtain ⟨middle, _, keyed, _, _, _, last⟩ := construct_cases succeeded
  rcases last with ⟨_, rfl⟩ | ⟨_, enabled⟩
  · exact keyed
  · exact wellKeyed_perform keyed enabled

theorem wellKeyed_of_reachable
    (reached : (pipeSystem configuration participants Behaves).Reachable Admits pipe) :
    pipe.WellKeyed := by
  refine reached.invariant ?_ ?_
  · rintro _ ⟨_, _, constructed⟩
    exact wellKeyed_construct constructed
  · intro _ _ _ keyed _ taken
    exact wellKeyed_perform keyed (step_eq_some_iff.mp taken)

/-- **An invariant of the topics holds in every run** whose environments and
topics are those it is kept for. -/
theorem TopicInvariant.reachable {Env : Environment → Prop} {Known : DdsTopic → Prop}
    {Ok : Bool → AllowedTopicList Filter → String → TopicSlot → Prop}
    (rules : TopicInvariant configuration Env Known Ok)
    (behaves : ∀ createThrows, Behaves createThrows → Env ⟨participants, createThrows⟩)
    (builtin : ∀ (name : String) topic, configuration.builtinTopics.topics[name]? = some topic →
      Known topic)
    (admitted : ∀ pipe label, Admits pipe label → Env ⟨participants, label.createThrows⟩ ∧
      ∀ entities notification, label.call = .notified entities notification →
        isServiceTopic notification.endpoint.topic = false → Known notification.endpoint.topic)
    (reached : (pipeSystem configuration participants Behaves).Reachable Admits pipe) :
    pipe.EveryTopic Ok := by
  have initially : ∀ start, (pipeSystem configuration participants Behaves).Initial start →
      start.WellKeyed ∧ start.EveryTopic Ok := by
    rintro start ⟨createThrows, possible, constructed⟩
    refine ⟨wellKeyed_construct constructed, ?_⟩
    obtain ⟨middle, stopped, keyed, _, _, topics, last⟩ := construct_cases constructed
    have holds : middle.EveryTopic Ok := by
      intro name
      rw [stopped]
      rcases topics name with unknown | ⟨topic, listed, created⟩
      · rw [unknown]
        exact rules.unknown _ name
      · have kept : Ok false middle.allowedTopics topic.topicUniqueName
            (middle.topicSlot name) :=
          rules.builtin (behaves createThrows possible) (builtin name topic listed) created
        rwa [configuration.builtinTopics.keyed name topic listed] at kept
    rcases last with ⟨_, rfl⟩ | ⟨_, enabled⟩
    · exact holds
    · exact rules.step keyed (behaves createThrows possible) (fun _ _ other => by cases other)
        holds enabled
  have kept : ∀ before label after, before.WellKeyed ∧ before.EveryTopic Ok →
      Admits before label →
      (pipeSystem configuration participants Behaves).step before label = some after →
      after.WellKeyed ∧ after.EveryTopic Ok := by
    rintro before label after ⟨keyed, holds⟩ allowed taken
    have performed := step_eq_some_iff.mp taken
    obtain ⟨possible, known⟩ := admitted before label allowed
    exact ⟨wellKeyed_perform keyed performed, rules.step keyed possible known holds performed⟩
  exact (reached.invariant initially kept).2

/-- **An invariant of the services holds in every run** whose calls meet its
conditions when they pass the slots by. -/
theorem ServiceInvariant.reachable
    {Enables Installs : AllowedTopicList Filter → ServiceSlot → Prop} {Stops : ServiceSlot → Prop}
    {Ok : Bool → AllowedTopicList Filter → String → ServiceSlot → Prop}
    (rules : ServiceInvariant Enables Installs Stops Ok)
    (enables : ∀ pipe label, Admits pipe label → label.call = .enable → pipe.enabled = false →
      ∀ name, Enables pipe.allowedTopics (pipe.serviceSlot name))
    (stops : ∀ pipe label, Admits pipe label → label.call = .disable → pipe.enabled = true →
      ∀ name, Stops (pipe.serviceSlot name))
    (installs : ∀ pipe label, Admits pipe label → ∀ list,
      pipe.reinstalls participants label.call = some list →
        ∀ name, Installs list (pipe.serviceSlot name))
    (reached : (pipeSystem configuration participants Behaves).Reachable Admits pipe) :
    pipe.EveryService Ok := by
  have initially : ∀ start, (pipeSystem configuration participants Behaves).Initial start →
      start.WellKeyed ∧ start.EveryService Ok := by
    rintro start ⟨createThrows, possible, constructed⟩
    refine ⟨wellKeyed_construct constructed, ?_⟩
    obtain ⟨middle, stopped, keyed, _, services, _, last⟩ := construct_cases constructed
    have holds : middle.EveryService Ok := by
      intro name
      rw [stopped, services name]
      exact (rules.unknown _ name).1
    have blank : ∀ name, Enables middle.allowedTopics (middle.serviceSlot name) := by
      intro name
      rw [services name]
      exact (rules.unknown _ name).2
    rcases last with ⟨_, rfl⟩ | ⟨_, enabled⟩
    · exact holds
    · exact rules.step keyed (fun _ _ => blank) (fun other => by cases other)
        (fun _ other => by simp [Pipe.reinstalls] at other) holds enabled
  have kept : ∀ before label after, before.WellKeyed ∧ before.EveryService Ok →
      Admits before label →
      (pipeSystem configuration participants Behaves).step before label = some after →
      after.WellKeyed ∧ after.EveryService Ok := by
    rintro before label after ⟨keyed, holds⟩ allowed taken
    have performed := step_eq_some_iff.mp taken
    exact ⟨wellKeyed_perform keyed performed,
      rules.step keyed (enables before label allowed) (stops before label allowed)
        (installs before label allowed) holds performed⟩
  exact (reached.invariant initially kept).2

end Runs

end

end DdsPipe.Core
