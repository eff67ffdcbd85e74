import DdsPipe.Core.Invariants

/-!
Owns the verdicts on services. The pipe keeps the verdict on each known service
next to it, and a reload while the pipe is disabled installs a new list without
a look at them; the next `enable` goes by the old verdicts
(`not_governed_of_reachable`).

The verdicts are right throughout the runs in which such a reload blocks no service
whose bridge is enabled, and the pipe is enabled only while the verdicts kept are
those of the list (`governed_of_reachable`).
-/

namespace DdsPipe.Core

open Std (TreeMap)
open DdsPipe.Types DdsPipe.Dynamic DdsPipe.Configuration DdsPipe.Communication

section

variable {Filter : Type} [IFilterTopic Filter]

/-- The list governs the services: it accepts every service whose bridge is
enabled, and in an enabled pipe the verdicts kept are its own. -/
structure Pipe.Governed (pipe : Pipe Filter) : Prop where
  bridges : ∀ (name : String) bridge, pipe.rpcBridges[name]? = some bridge →
    bridge.enabled = true → pipe.allowedTopics.isServiceAllowed bridge.rpcTopic = true
  verdicts : pipe.enabled = true → ∀ (name : String) entry,
    pipe.currentServices[name]? = some entry →
      entry.allowed = pipe.allowedTopics.isServiceAllowed entry.service

/-- The condition on one call: a list that is installed in the disabled pipe accepts the
services whose bridges are enabled, and the pipe is enabled only while the verdicts kept
are those of its list. -/
structure KeepsToList (participants : ParticipantsDatabase) (pipe : Pipe Filter)
    (label : Label Filter) : Prop where
  reinstalls : ∀ list, pipe.reinstalls participants label.call = some list →
    ∀ (name : String) bridge, pipe.rpcBridges[name]? = some bridge → bridge.enabled = true →
      list.isServiceAllowed bridge.rpcTopic = true
  enables : label.call = .enable → pipe.enabled = false →
    ∀ (name : String) entry, pipe.currentServices[name]? = some entry →
      entry.allowed = pipe.allowedTopics.isServiceAllowed entry.service

/-- The verdict kept in an enabled pipe is that of the list, and a bridge is enabled only
for a service that the list accepts. -/
structure ServiceSlot.Governed (enabled : Bool) (list : AllowedTopicList Filter)
    (slot : ServiceSlot) : Prop where
  verdict : enabled = true → ∀ entry, slot.current = some entry →
    entry.allowed = list.isServiceAllowed entry.service
  bridged : ∀ bridge, slot.bridge = some bridge → ∃ entry, slot.current = some entry ∧
    bridge.rpcTopic = entry.service ∧
      (bridge.enabled = true → list.isServiceAllowed entry.service = true)
  unbridged : slot.bridge = none → slot.current = none

variable {environment : Environment} {slot next : ServiceSlot} {enabled : Bool}
  {list other : AllowedTopicList Filter}

/-- Enabling the bridge of a service that is kept as allowed. -/
theorem governed_enable (governed : slot.Governed true list) {entry : CurrentService}
    (current : slot.current = some entry) (allowed : entry.allowed = true)
    (changed : slot.onRpcBridge (RpcBridge.enable environment) = .ok next) :
    next.Governed true list := by
  obtain ⟨bridge, called, found, done, rfl⟩ := onRpcBridge_cases changed
  refine ⟨governed.verdict, fun other same => ?_, fun absent => by cases absent⟩
  cases same
  obtain ⟨stored, known, named, _⟩ := governed.bridged bridge found
  rw [current] at known
  cases known
  rw [governed.verdict rfl entry current] at allowed
  exact ⟨entry, current, (RpcBridge.enable_keeps done).1.trans named, fun _ => allowed⟩

theorem governed_createNew (governed : slot.Governed enabled list) (service : RpcTopic) :
    (slot.createNew list service).Governed enabled list := by
  unfold ServiceSlot.createNew
  split
  · exact governed
  · next absent =>
      have unknown := governed.unbridged absent
      refine ⟨fun _ entry found => ?_, fun bridge found => ?_, fun absent => by cases absent⟩
      · simp only [ServiceSlot.setAllowed, unknown, Option.map_none, Option.getD_none] at found
        cases found
        rfl
      · cases found
        exact ⟨_, rfl, by simp [unknown], fun running => by cases running⟩

/-- The new verdict on a known service, before its bridge is told. -/
theorem current_setAllowed {entry : CurrentService} (current : slot.current = some entry)
    (allowed : Bool) :
    (slot.setAllowed entry.service allowed).current = some ⟨entry.service, allowed⟩ := by
  simp [ServiceSlot.setAllowed, current]

theorem governed_reload (governed : slot.Governed enabled list)
    (changed : slot.reload environment other = .ok next) : next.Governed enabled other := by
  unfold ServiceSlot.reload at changed
  split at changed
  · next entry current =>
      have named : ∀ bridge, slot.bridge = some bridge → bridge.rpcTopic = entry.service := by
        intro bridge found
        obtain ⟨stored, known, same, _⟩ := governed.bridged bridge found
        rw [current] at known
        cases known
        exact same
      split at changed
      · next allowed =>
          obtain ⟨bridge, called, found, done, rfl⟩ := onRpcBridge_cases changed
          have now := current_setAllowed current true
          refine ⟨fun _ stored known => ?_, fun stored same => ?_, fun absent => by cases absent⟩
          · rw [now] at known
            cases known
            exact allowed.symm
          · cases same
            exact ⟨_, now, (RpcBridge.enable_keeps done).1.trans (named bridge found),
              fun _ => allowed⟩
      · next blocked =>
          obtain ⟨bridge, called, found, done, rfl⟩ := onRpcBridge_cases changed
          cases done
          have now := current_setAllowed current false
          refine ⟨fun _ stored known => ?_, fun stored same => ?_, fun absent => by cases absent⟩
          · rw [now] at known
            cases known
            simpa using blocked
          · cases same
            refine ⟨_, now, (RpcBridge.rpcTopic_disable bridge).trans (named bridge found), ?_⟩
            simp
  · next unknown =>
      cases changed
      refine ⟨fun _ entry found => by simp [unknown] at found, fun bridge found => ?_,
        governed.unbridged⟩
      obtain ⟨entry, known, _⟩ := governed.bridged bridge found
      simp [unknown] at known

theorem governed_discovered {service : RpcTopic} {participantId : ParticipantId}
    {guidPrefix : GuidPrefix} (governed : slot.Governed enabled list)
    (changed : slot.discovered environment enabled list service participantId guidPrefix =
      .ok next) : next.Governed enabled list := by
  have created := governed_createNew governed service
  obtain ⟨middle, discovered, continued⟩ := OrderedMap.bind_eq_ok_iff.mp changed
  obtain ⟨bridge, called, found, done, rfl⟩ := onRpcBridge_cases discovered
  obtain ⟨sameTopic, sameEnabled, _, _⟩ := RpcBridge.discoveredService_keeps done
  obtain ⟨entry, current, named, onlyAllowed⟩ := created.bridged bridge found
  have between : ServiceSlot.Governed enabled list
      { slot.createNew list service with bridge := some called } := by
    refine ⟨created.verdict, fun other same => ?_, fun absent => by cases absent⟩
    cases same
    exact ⟨entry, current, sameTopic.trans named, fun running =>
      onlyAllowed (sameEnabled ▸ running)⟩
  split at continued
  · next enables =>
      rw [Bool.and_eq_true] at enables
      have allowed : entry.allowed = true := by
        simpa [ServiceSlot.allowed, current] using enables.2
      rw [enables.1] at between ⊢
      exact governed_enable between current allowed continued
  · cases continued
    exact between

/-- **The list governs the services** as long as those that pass the slots by agree with
them. -/
theorem governed_invariant :
    ServiceInvariant
      (fun (list : AllowedTopicList Filter) slot => ∀ entry, slot.current = some entry →
        entry.allowed = list.isServiceAllowed entry.service)
      (fun list slot => ∀ bridge, slot.bridge = some bridge → bridge.enabled = true →
        list.isServiceAllowed bridge.rpcTopic = true)
      (fun _ => True) (fun enabled list _ slot => slot.Governed enabled list) where
  unknown _ _ := ⟨⟨nofun, nofun, fun _ => rfl⟩, nofun⟩
  enable := by
    intro environment list name slot next same governed changed
    have agrees : slot.Governed true list := ⟨fun _ => same, governed.bridged, governed.unbridged⟩
    unfold ServiceSlot.enable at changed
    split at changed
    · next entry current =>
        split at changed
        · next allowed => exact governed_enable agrees current allowed changed
        · cases changed
          exact agrees
    · cases changed
      exact agrees
  disable _ governed := ⟨nofun, governed.bridged, governed.unbridged⟩
  reinstall accepts governed := by
    refine ⟨nofun, fun bridge found => ?_, governed.unbridged⟩
    obtain ⟨entry, current, named, _⟩ := governed.bridged bridge found
    refine ⟨entry, current, named, fun running => ?_⟩
    rw [← named]
    exact accepts bridge found running
  reload governed changed := governed_reload governed changed
  discovered governed changed := governed_discovered governed changed
  removed := by
    intro enabled list name slot participantId guidPrefix governed
    refine ⟨governed.verdict, fun bridge found => ?_, fun absent => ?_⟩
    · obtain ⟨old, before, rfl⟩ := Option.map_eq_some_iff.mp found
      obtain ⟨entry, current, named, onlyAllowed⟩ := governed.bridged old before
      obtain ⟨sameTopic, runs, _⟩ := old.removedService_keeps participantId guidPrefix
      exact ⟨entry, current, sameTopic.trans named, fun running => onlyAllowed (runs running)⟩
    · exact governed.unbridged (by simpa [ServiceSlot.removed] using absent)

end

section Runs

open TransitionSystem

variable {Filter : Type} [IFilterTopic Filter] {configuration : DdsPipeConfiguration Filter}
  {participants : ParticipantsDatabase} {pipe : Pipe Filter}

/-- **The list governs the services at all times** in the runs whose calls keep to it,
whatever cannot be created on the way. -/
theorem governed_of_reachable
    (reached : (pipeSystem configuration participants (fun _ => True)).Reachable
      (KeepsToList participants) pipe) : pipe.Governed := by
  have services : pipe.EveryService (fun enabled list _ slot => slot.Governed enabled list) :=
    governed_invariant.reachable
      (fun _ _ keeps enabling stopped name entry found =>
        keeps.enables enabling stopped name entry found)
      (fun _ _ _ _ _ _ => trivial)
      (fun _ _ keeps list installs name bridge found =>
        keeps.reinstalls list installs name bridge found)
      reached
  refine ⟨fun name bridge found running => ?_, fun enabled name entry found =>
    (services name).verdict enabled entry found⟩
  obtain ⟨entry, _, named, accepted⟩ := (services name).bridged bridge found
  rw [named]
  exact accepted running

/-- The condition on the call, as a test. -/
def keepsToList (participants : ParticipantsDatabase) (pipe : Pipe Filter) (label : Label Filter) :
    Bool :=
  (match pipe.reinstalls participants label.call with
    | some list => pipe.rpcBridges.toList.all fun entry =>
        !entry.2.enabled || list.isServiceAllowed entry.2.rpcTopic
    | none => true) &&
  match label.call with
  | .enable => pipe.currentServices.toList.all fun entry =>
      entry.2.allowed == pipe.allowedTopics.isServiceAllowed entry.2.service
  | _ => true

theorem keepsToList_sound (pipe : Pipe Filter) (label : Label Filter)
    (passed : keepsToList participants pipe label = true) :
    KeepsToList participants pipe label := by
  obtain ⟨installing, enabling⟩ := Bool.and_eq_true_iff.mp passed
  constructor
  · intro list installs name bridge found running
    rw [installs] at installing
    have accepts := List.all_eq_true.mp installing (name, bridge)
      (TreeMap.mem_toList_iff_getElem?_eq_some.mpr found)
    rw [running] at accepts
    exact accepts
  · intro called _ name entry found
    rw [called] at enabling
    have same := List.all_eq_true.mp enabling (name, entry)
      (TreeMap.mem_toList_iff_getElem?_eq_some.mpr found)
    exact eq_of_beq same

/-- A configuration that blocks the topics of one name. -/
def blockingConfiguration (topicName : String) :
    letI := literalUtils
    DdsPipeConfiguration WildcardDdsFilterTopic :=
  letI := literalUtils
  { blocklist := .ofList [{ topicName := some topicName }] }

/-- The run that discovers a server on a disabled pipe, blocks its service, then a topic of
no service in its place, and enables the pipe. -/
theorem governed_of_reachable_add :
    letI := literalUtils
    ∃ pipe : Pipe WildcardDdsFilterTopic,
      (pipe.rpcBridges["add"]?.any fun bridge => bridge.enabled) = true ∧
        pipe.allowedTopics.isTopicAllowed chatterReader.topic = false ∧ pipe.Governed := by
  let := literalUtils
  obtain ⟨pipe, reached, test⟩ := System.exists_reachable_of_runAdmitted
    (pipeSystem defaultConfiguration twoParticipants (fun _ => True))
    (Pipe.initAllowedTopics defaultConfiguration)
    [⟨discoveredAlone addServer, neverThrows⟩,
      ⟨.reloadConfiguration (blockingConfiguration "rq/addRequest"), neverThrows⟩,
      ⟨.reloadConfiguration (blockingConfiguration "chatter"), neverThrows⟩, ⟨.enable, neverThrows⟩]
    (keepsToList twoParticipants)
    (fun pipe => (pipe.rpcBridges["add"]?.any fun bridge => bridge.enabled) &&
      !pipe.allowedTopics.isTopicAllowed chatterReader.topic)
    (fun pipe label _ => keepsToList_sound pipe label) ⟨neverThrows, trivial, rfl⟩
    (by decide +kernel)
  rw [Bool.and_eq_true, Bool.not_eq_true'] at test
  exact ⟨pipe, test.1, test.2, governed_of_reachable reached⟩

/-- A server is discovered on a disabled pipe, its service is blocked and the pipe
is enabled: the bridge of the service is enabled. -/
theorem not_governed_of_reachable :
    letI := literalUtils
    ¬ ∀ pipe : Pipe WildcardDdsFilterTopic,
      (pipeSystem defaultConfiguration twoParticipants (fun _ => True)).Reachable anyStep pipe →
        pipe.Governed := by
  let := literalUtils
  intro governed
  obtain ⟨pipe, reached, test⟩ := System.exists_reachable_of_run
    (pipeSystem defaultConfiguration twoParticipants (fun _ => True))
    (Pipe.initAllowedTopics defaultConfiguration)
    [⟨discoveredAlone addServer, neverThrows⟩,
      ⟨.reloadConfiguration (blockingConfiguration "rq/addRequest"), neverThrows⟩,
      ⟨.enable, neverThrows⟩]
    (fun pipe => pipe.rpcBridges["add"]?.any fun bridge =>
      bridge.enabled && !pipe.allowedTopics.isServiceAllowed bridge.rpcTopic)
    (fun _ _ _ => trivial) ⟨neverThrows, trivial, rfl⟩ (by decide +kernel)
  rw [Option.any_eq_true] at test
  obtain ⟨bridge, found, running⟩ := test
  rw [Bool.and_eq_true] at running
  rw [(governed pipe reached).bridges "add" bridge found running.1] at running
  cases running.2

end Runs

end DdsPipe.Core
