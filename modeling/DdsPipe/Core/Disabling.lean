import DdsPipe.Core.Activation

/-!
Owns what a disabled pipe keeps running. Its bridges of topics are disabled, and
their tracks and readers with them. Its bridges of services are the ones that
were disabled when the pipe was: `disable` passes them by
(`not_stopped_of_reachable`), so that nothing runs in a disabled pipe exactly as
long as no bridge of a service is enabled when the pipe is disabled
(`stopped_of_reachable`).
-/

namespace DdsPipe.Core

open Std (TreeMap)
open DdsPipe.Types DdsPipe.Dynamic DdsPipe.Configuration DdsPipe.Communication

/-- No bridge of a disabled pipe is enabled, nor is a track, a reader or a proxy
of one. -/
structure Pipe.Stopped {Filter : Type} (pipe : Pipe Filter) : Prop where
  bridges : pipe.enabled = false → ∀ (name : String) bridge, pipe.bridges[name]? = some bridge →
    bridge.enabled = false ∧ ∀ (id : ParticipantId) track, bridge.tracks[id]? = some track →
      track.enabled = false ∧ track.readerEnabled = false
  rpcBridges : pipe.enabled = false → ∀ (name : String) bridge,
    pipe.rpcBridges[name]? = some bridge →
      bridge.enabled = false ∧ RpcBridge.AllAre false bridge.requestReaders ∧
        RpcBridge.AllAre false bridge.replyWriters ∧ RpcBridge.AllAre false bridge.replyReaders ∧
          RpcBridge.AllAre false bridge.requestWriters

/-- Whenever the call disables the pipe, no bridge of a service is enabled. -/
def DisablesNoService {Filter : Type} (pipe : Pipe Filter) (label : Label Filter) : Prop :=
  label.call = .disable → pipe.enabled = true → ∀ (name : String) bridge,
    pipe.rpcBridges[name]? = some bridge → bridge.enabled = false

/-- The proxies of the bridge of a service are enabled with it. -/
structure ServiceSlot.Steady (enabled : Bool) (slot : ServiceSlot) : Prop where
  uniform : ∀ bridge, slot.bridge = some bridge → bridge.Uniform
  stopped : enabled = false → ∀ bridge, slot.bridge = some bridge → bridge.enabled = false

section Steady

variable {environment : Environment} {slot next : ServiceSlot} {enabled : Bool}

theorem serviceSteady_enable (steady : slot.Steady enabled)
    (changed : slot.onRpcBridge (RpcBridge.enable environment) = .ok next) : next.Steady true := by
  obtain ⟨bridge, called, found, done, rfl⟩ := onRpcBridge_cases changed
  refine ⟨fun other same => ?_, fun stopped => by cases stopped⟩
  cases same
  exact (RpcBridge.enable_keeps done).2.2.1 (steady.uniform bridge found)

theorem ServiceSlot.Steady.setAllowed (steady : slot.Steady enabled) (service : RpcTopic)
    (allowed : Bool) : (slot.setAllowed service allowed).Steady enabled :=
  ⟨steady.uniform, steady.stopped⟩

theorem serviceSteady_createNew {Filter : Type} [IFilterTopic Filter]
    (steady : slot.Steady enabled) (list : AllowedTopicList Filter) (service : RpcTopic) :
    (slot.createNew list service).Steady enabled := by
  unfold ServiceSlot.createNew
  split
  · exact steady
  · refine ⟨fun bridge found => ?_, fun _ bridge found => ?_⟩
    · cases found
      exact ⟨fun _ _ => by simp, fun _ _ => by simp, fun _ _ => by simp, fun _ _ => by simp⟩
    · cases found
      rfl

theorem serviceSteady_invariant {Filter : Type} [IFilterTopic Filter] :
    ServiceInvariant (fun _ _ => True) (fun _ _ => True)
      (fun slot => ∀ bridge, slot.bridge = some bridge → bridge.enabled = false)
      (fun enabled (_ : AllowedTopicList Filter) _ slot => slot.Steady enabled) where
  unknown _ _ := ⟨⟨by simp, by simp⟩, trivial⟩
  enable := by
    intro environment list name slot next _ steady changed
    unfold ServiceSlot.enable at changed
    split at changed
    · split at changed
      · exact serviceSteady_enable steady changed
      · cases changed
        exact ⟨steady.uniform, fun stopped => by cases stopped⟩
    · cases changed
      exact ⟨steady.uniform, fun stopped => by cases stopped⟩
  disable stops steady := ⟨steady.uniform, fun _ => stops⟩
  reinstall _ steady := steady
  reload := by
    intro environment list other name slot next steady changed
    unfold ServiceSlot.reload at changed
    split at changed
    · split at changed
      · exact serviceSteady_enable (steady.setAllowed _ true) changed
      · obtain ⟨bridge, called, found, done, rfl⟩ := onRpcBridge_cases changed
        cases done
        refine ⟨fun other same => ?_, fun stopped => by cases stopped⟩
        cases same
        exact RpcBridge.uniform_disable (steady.uniform bridge found)
    · cases changed
      exact steady
  discovered := by
    intro environment enabled list service participantId guidPrefix slot next steady changed
    have created := serviceSteady_createNew steady list service
    obtain ⟨middle, discovered, continued⟩ := OrderedMap.bind_eq_ok_iff.mp changed
    obtain ⟨bridge, called, found, done, rfl⟩ := onRpcBridge_cases discovered
    obtain ⟨_, sameEnabled, _, uniform⟩ := RpcBridge.discoveredService_keeps done
    have between : ServiceSlot.Steady enabled
        { slot.createNew list service with bridge := some called } := by
      refine ⟨fun other same => ?_, fun stopped other same => ?_⟩
      · cases same
        exact uniform (created.uniform bridge found)
      · cases same
        exact sameEnabled.trans (created.stopped stopped bridge found)
    split at continued
    · next enables =>
        rw [Bool.and_eq_true] at enables
        rw [enables.1]
        exact serviceSteady_enable between continued
    · cases continued
      exact between
  removed := by
    intro enabled list name slot participantId guidPrefix steady
    refine ⟨fun bridge found => ?_, fun stopped bridge found => ?_⟩
    · obtain ⟨old, before, rfl⟩ := Option.map_eq_some_iff.mp found
      exact (RpcBridge.removedService_keeps participantId guidPrefix).2.2.2
        (steady.uniform old before)
    · obtain ⟨old, before, rfl⟩ := Option.map_eq_some_iff.mp found
      rw [← Bool.not_eq_true]
      intro running
      have runningBefore :=
        (RpcBridge.removedService_keeps participantId guidPrefix).2.1 running
      rw [steady.stopped stopped old before] at runningBefore
      cases runningBefore

end Steady

section Runs

open TransitionSystem

variable {Filter : Type} [IFilterTopic Filter] {configuration : DdsPipeConfiguration Filter}
  {participants : ParticipantsDatabase} {pipe : Pipe Filter}

/-- **A disabled pipe runs nothing** in the runs that disable it while no bridge of
a service is enabled, whatever cannot be created on the way. -/
theorem stopped_of_reachable
    (reached : (pipeSystem configuration participants (fun _ => True)).Reachable DisablesNoService
      pipe) : pipe.Stopped := by
  have topics : pipe.EveryTopic (fun enabled _ _ slot => slot.Steady enabled) :=
    (steady_invariant configuration).reachable (fun _ _ => trivial) (fun _ _ _ => trivial)
      (fun _ _ _ => ⟨trivial, fun _ _ _ _ => trivial⟩) reached
  have services : pipe.EveryService (fun enabled _ _ slot => slot.Steady enabled) :=
    serviceSteady_invariant.reachable (fun _ _ _ _ _ _ => trivial)
      (fun _ _ admitted disables running name bridge found =>
        admitted disables running name bridge found)
      (fun _ _ _ _ _ _ => trivial) reached
  refine ⟨fun disabled name bridge found => ?_, fun disabled name bridge found => ?_⟩
  · obtain ⟨uniform, entry, current, same⟩ := (topics name).bridged bridge found
    have stopped : bridge.enabled = false :=
      same.trans ((topics name).stopped disabled entry current)
    refine ⟨stopped, fun id track present => ?_⟩
    rw [← stopped]
    exact uniform id track present
  · have stopped := (services name).stopped disabled bridge found
    obtain ⟨first, second, third, fourth⟩ := (services name).uniform bridge found
    rw [stopped] at first second third fourth
    exact ⟨stopped, first, second, third, fourth⟩

/-- The condition on the call, as a test. -/
def disablesNoService (pipe : Pipe Filter) (label : Label Filter) : Bool :=
  match label.call with
  | .disable => pipe.rpcBridges.toList.all fun entry => !entry.2.enabled
  | _ => true

omit [IFilterTopic Filter] in
theorem disablesNoService_sound (pipe : Pipe Filter) (label : Label Filter)
    (passed : disablesNoService pipe label = true) : DisablesNoService pipe label := by
  intro disables _ name bridge found
  rw [disablesNoService, disables, List.all_eq_true] at passed
  have stopped := passed (name, bridge) (TreeMap.mem_toList_iff_getElem?_eq_some.mpr found)
  simpa using stopped

/-- The run that enables a pipe, discovers a reader on it and disables it. -/
theorem stopped_of_reachable_chatter :
    letI := literalUtils
    ∃ pipe : Pipe WildcardDdsFilterTopic, pipe.enabled = false ∧
      pipe.bridges.contains chatterReader.topic.topicUniqueName = true ∧ pipe.Stopped := by
  let := literalUtils
  obtain ⟨pipe, reached, test⟩ := System.exists_reachable_of_runAdmitted
    (pipeSystem defaultConfiguration twoParticipants (fun _ => True))
    (Pipe.initAllowedTopics defaultConfiguration)
    [⟨.enable, neverThrows⟩, ⟨discoveredAlone chatterReader, neverThrows⟩, ⟨.disable, neverThrows⟩]
    disablesNoService
    (fun pipe => !pipe.enabled && pipe.bridges.contains chatterReader.topic.topicUniqueName)
    (fun pipe label _ => disablesNoService_sound pipe label) ⟨neverThrows, trivial, rfl⟩
    (by decide +kernel)
  rw [Bool.and_eq_true, Bool.not_eq_true'] at test
  exact ⟨pipe, test.1, test.2, stopped_of_reachable reached⟩

/-- A server is discovered while the pipe is enabled, and the pipe is disabled:
the bridge of the service goes on. -/
theorem not_stopped_of_reachable :
    letI := literalUtils
    ¬ ∀ pipe : Pipe WildcardDdsFilterTopic,
      (pipeSystem defaultConfiguration twoParticipants (fun _ => True)).Reachable anyStep pipe →
        pipe.Stopped := by
  let := literalUtils
  intro stopped
  obtain ⟨pipe, reached, test⟩ := System.exists_reachable_of_run
    (pipeSystem defaultConfiguration twoParticipants (fun _ => True))
    (Pipe.initAllowedTopics defaultConfiguration)
    [⟨.enable, neverThrows⟩, ⟨discoveredAlone addServer, neverThrows⟩, ⟨.disable, neverThrows⟩]
    (fun pipe => !pipe.enabled && (pipe.rpcBridges["add"]?.any fun bridge => bridge.enabled))
    (fun _ _ _ => trivial) ⟨neverThrows, trivial, rfl⟩ (by decide +kernel)
  rw [Bool.and_eq_true, Bool.not_eq_true', Option.any_eq_true] at test
  obtain ⟨disabled, bridge, found, running⟩ := test
  rw [((stopped pipe reached).rpcBridges disabled "add" bridge found).1] at running
  cases running

end Runs

end DdsPipe.Core
