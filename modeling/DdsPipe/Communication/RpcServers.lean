import DdsPipe.Communication.RpcRegistries

/-!
Owns the agreement between the registries of a service bridge and the servers
it knows of, which decides through which participants a request is sent.

`removed_service` disables the bridge with the last server of all, but no
registry with the last server of its participant: the bridge goes on sending
requests there (`not_followsServers_of_reachable`). The registries follow the
servers in the runs in which a participant keeps a server once the bridge is
initialised (`followsServers_of_reachable`).
-/

namespace DdsPipe.Communication

open Std (TreeMap TreeSet)
open DdsPipe.Types DdsPipe.Configuration
open TransitionSystem

/-- The registries follow the servers, the bridge runs only with a server, and a
request goes only to participants that have one. -/
structure FollowsServers (participants : ParticipantsDatabase) (bridge : RpcBridge) : Prop where
  registries : bridge.init = true → ∀ id, id ∈ participants → bridge.RegistryFollows id
  available : bridge.enabled = true → ∃ id guidPrefix, guidPrefix ∈ bridge.serversOf id
  requests : bridge.enabled = true → ∀ (environment : Environment) (writers : Writers)
    (data : RpcPayloadData) (readerId : ParticipantId) (forwarding : Forwarding),
    environment.participants = participants → readerId ∈ bridge.requestReaders →
    bridge.transmitRequest environment writers (data.receivedBy readerId) = .ok forwarding →
    ∀ entry ∈ forwarding.written, ∃ guidPrefix, guidPrefix ∈ bridge.serversOf entry.1

/-- The servers are discovered by participants of the pipe. -/
def FromParticipants (participants : ParticipantsDatabase) (event : RpcEvent) : Prop :=
  ∀ id guidPrefix, event.action = .discoveredService id guidPrefix → id ∈ participants

/-- Once the bridge is initialised, a participant does not lose its last server. -/
def ServerStays (state : Except Fault RpcBridge) (event : RpcEvent) : Prop :=
  ∀ bridge id guidPrefix, state = .ok bridge → event.action = .removedService id guidPrefix →
    bridge.init = true → guidPrefix ∈ bridge.serversOf id →
      ∃ other, other ∈ bridge.serversOf id ∧ other ≠ guidPrefix

/-! ### Registries and servers -/

namespace RpcBridge

theorem serversAvailable_iff {bridge : RpcBridge} :
    bridge.serversAvailable = true ↔ ∃ id guidPrefix, guidPrefix ∈ bridge.serversOf id := by
  simp only [serversAvailable, List.any_eq_true, decide_eq_true_eq, serversOf]
  constructor
  · rintro ⟨⟨id, servers⟩, member, some⟩
    obtain ⟨guidPrefix, server⟩ := exists_mem_iff_size_pos.mpr some
    rw [TreeMap.mem_toList_iff_getElem?_eq_some] at member
    exact ⟨id, guidPrefix, by rw [member]; exact server⟩
  · rintro ⟨id, guidPrefix, server⟩
    cases found : bridge.currentServers[id]? with
    | none =>
        rw [found] at server
        simp at server
    | some servers =>
        rw [found] at server
        exact ⟨(id, servers), TreeMap.mem_toList_iff_getElem?_eq_some.mpr found,
          exists_mem_iff_size_pos.mp ⟨guidPrefix, server⟩⟩

/-- What the runs keep. -/
structure Following (participants : ParticipantsDatabase) (bridge : RpcBridge) : Prop where
  complete : bridge.Complete participants
  registries : bridge.init = true → ∀ id, id ∈ participants → bridge.RegistryFollows id
  available : bridge.enabled = true → ∃ id guidPrefix, guidPrefix ∈ bridge.serversOf id

variable {participants : ParticipantsDatabase} {environment : Environment}
  {bridge next : RpcBridge} {id : ParticipantId} {guidPrefix : GuidPrefix}

theorem Following.followsServers (following : bridge.Following participants) :
    FollowsServers participants bridge where
  registries := following.registries
  available := following.available
  requests := by
    rintro running environment writers data readerId forwarding rfl reader executed entry sent
    have init := following.complete.initialised running
    have receiver := following.complete.wired.requestReaders readerId reader
    obtain ⟨_, done, _, servers⟩ := transmitRequest_forwards writers following.complete init
      (show IsRtps environment.participants (data.receivedBy readerId).participantReceiver
        from receiver)
    rw [executed] at done
    cases done
    obtain ⟨⟨participant, known, _⟩, served⟩ := servers entry sent
    exact served (following.registries init entry.1
      (OrderedMap.mem_iff_exists_getElem?.mpr ⟨participant, known⟩))

theorem following_enable (following : bridge.Following environment.participants)
    (rtps : ∀ id, id ∈ environment.participants → IsRtps environment.participants id)
    (succeeded : bridge.enable environment = .ok next) :
    next.Following environment.participants := by
  have complete := complete_enable following.complete succeeded
  obtain ⟨_, servers, _, running⟩ := enable_keeps succeeded
  refine ⟨complete, ?_, fun enabled => ?_⟩
  · unfold enable at succeeded
    split at succeeded
    · split at succeeded
      · cases succeeded
        exact following.registries
      · next uninitialised =>
        split at succeeded
        · next middle _ attempt =>
            cases succeeded
            exact fun _ id member => ((initNts_ok attempt).2.2 id (rtps id member)).2
        · next middle attempt =>
            cases succeeded
            intro init
            rw [(initNts_error attempt).2.1] at init
            exact absurd init uninitialised
        · cases succeeded
    · cases succeeded
      exact following.registries
  · have some : ∃ id guidPrefix, guidPrefix ∈ bridge.serversOf id := by
      rcases running enabled with before | available
      · exact following.available before
      · exact serversAvailable_iff.mp available
    obtain ⟨id, guidPrefix, member⟩ := some
    exact ⟨id, guidPrefix, by rw [servers]; exact member⟩

theorem following_disable (following : bridge.Following participants) :
    bridge.disable.Following participants := by
  refine ⟨complete_disable following.complete, ?_, fun running => ?_⟩
  · unfold disable
    split <;> exact following.registries
  · rw [enabled_disable] at running
    cases running

theorem following_discoveredService (following : bridge.Following participants)
    (guidPrefix : GuidPrefix) (rtps : IsRtps participants id) :
    ∃ next, bridge.discoveredService id guidPrefix = .ok next ∧ next.Following participants := by
  obtain ⟨next, succeeded, complete, sameInit, registered⟩ :=
    discoveredService_of_rtps following.complete guidPrefix fun _ => rtps
  obtain ⟨_, sameEnabled, servers, _⟩ := discoveredService_keeps succeeded
  refine ⟨next, succeeded, complete, fun init other member => ?_, fun running => ?_⟩
  · rw [sameInit] at init
    obtain ⟨registry, enabled, registries⟩ := registered init
    obtain ⟨stored, found, alike⟩ := following.registries init other member
    unfold RegistryFollows
    rw [registries]
    by_cases same : other = id
    · subst same
      have served : ∃ server, server ∈ next.serversOf other :=
        ⟨guidPrefix, (servers other guidPrefix).mpr (.inr ⟨rfl, rfl⟩)⟩
      exact ⟨registry, TreeMap.getElem?_insert_self, by simp [enabled, served]⟩
    · refine ⟨stored, by rw [OrderedMap.getElem?_insert_of_ne same, found], ?_⟩
      simp only [servers, same, false_and, or_false, alike]
  · rw [sameEnabled] at running
    obtain ⟨other, server, member⟩ := following.available running
    exact ⟨other, server, (servers other server).mpr (.inl member)⟩

theorem removedService_frame (bridge : RpcBridge) (id : ParticipantId) (guidPrefix : GuidPrefix) :
    (bridge.removedService id guidPrefix).serviceRegistries = bridge.serviceRegistries ∧
      (bridge.removedService id guidPrefix).init = bridge.init ∧
      ((bridge.removedService id guidPrefix).enabled = true → ∃ other server,
        server ∈ (bridge.removedService id guidPrefix).serversOf other) := by
  unfold removedService disable
  dsimp only
  split
  · split
    · exact ⟨rfl, rfl, fun running => by cases running⟩
    · next stopped => exact ⟨rfl, rfl, fun running => absurd running stopped⟩
  · next left =>
      refine ⟨rfl, rfl, fun _ => ?_⟩
      rw [Bool.and_eq_true, Bool.not_eq_true', not_and, Bool.not_eq_false] at left
      by_cases last : ((bridge.setServersOf id
          ((bridge.serversOf id).erase guidPrefix)).serversOf id).size = 0
      · exact serversAvailable_iff.mp (left (by rw [last]; rfl))
      · obtain ⟨server, member⟩ := exists_mem_iff_size_pos.mpr (Nat.pos_of_ne_zero last)
        exact ⟨id, server, member⟩

theorem following_removedService (following : bridge.Following participants)
    (stays : bridge.init = true → guidPrefix ∈ bridge.serversOf id →
      ∃ other, other ∈ bridge.serversOf id ∧ other ≠ guidPrefix) :
    (bridge.removedService id guidPrefix).Following participants := by
  obtain ⟨registries, sameInit, available⟩ := removedService_frame bridge id guidPrefix
  obtain ⟨_, _, servers, _⟩ := @removedService_keeps bridge id guidPrefix
  refine ⟨complete_removedService following.complete, fun init other member => ?_, available⟩
  rw [sameInit] at init
  obtain ⟨registry, found, alike⟩ := following.registries init other member
  refine ⟨registry, by rw [registries, found], alike.trans ?_⟩
  simp only [servers]
  constructor
  · rintro ⟨server, known⟩
    by_cases removed : other = id ∧ server = guidPrefix
    · obtain ⟨rfl, rfl⟩ := removed
      obtain ⟨remaining, stillKnown, different⟩ := stays init known
      exact ⟨remaining, stillKnown, fun same => different same.2⟩
    · exact ⟨server, known, removed⟩
  · rintro ⟨server, known, _⟩
    exact ⟨server, known⟩

theorem Following.of_forwards {forwarding next : Forwarding}
    (following : forwarding.bridge.Following participants)
    (forwards : Forwards participants forwarding next) : next.bridge.Following participants where
  complete := forwards.complete following.complete
  registries init id member := by
    rw [forwards.init] at init
    exact forwards.follows id (following.registries init id member)
  available running := by
    rw [forwards.enabled] at running
    obtain ⟨id, guidPrefix, member⟩ := following.available running
    exact ⟨id, guidPrefix, by rw [forwards.servers]; exact member⟩

theorem following_perform (environment : Environment)
    (rtps : ∀ id, id ∈ environment.participants → IsRtps environment.participants id)
    {action : RpcAction} (following : bridge.Following environment.participants)
    (discovered : ∀ id guidPrefix, action = .discoveredService id guidPrefix →
      id ∈ environment.participants)
    (stays : ∀ id guidPrefix, action = .removedService id guidPrefix → bridge.init = true →
      guidPrefix ∈ bridge.serversOf id →
        ∃ other, other ∈ bridge.serversOf id ∧ other ≠ guidPrefix) :
    ∃ next, bridge.perform environment action = .ok next ∧
      next.Following environment.participants := by
  cases action with
  | enable =>
      obtain ⟨next, succeeded⟩ := enable_ok environment bridge
      exact ⟨next, succeeded, following_enable following rtps succeeded⟩
  | disable => exact ⟨_, rfl, following_disable following⟩
  | discoveredService id guidPrefix =>
      exact following_discoveredService following guidPrefix
        (rtps id (discovered id guidPrefix rfl))
  | removedService id guidPrefix =>
      exact ⟨_, rfl, following_removedService following (stays id guidPrefix rfl)⟩
  | transmitRequest readerId data writers =>
      simp only [perform]
      split
      · next ready =>
          rw [Bool.and_eq_true] at ready
          have receiver : IsRtps environment.participants
              (data.receivedBy readerId).participantReceiver :=
            following.complete.wired.requestReaders readerId (TreeMap.mem_iff_contains.mpr ready.2)
          obtain ⟨next, executed, forwards, _⟩ := transmitRequest_forwards writers
            following.complete (following.complete.initialised ready.1) receiver
          exact ⟨next.bridge, by rw [executed]; rfl, Following.of_forwards following forwards⟩
      · exact ⟨_, rfl, following⟩
  | transmitReply readerId data writers =>
      simp only [perform]
      split
      · next ready =>
          rw [Bool.and_eq_true] at ready
          obtain ⟨next, executed, forwards⟩ := transmitReply_forwards writers following.complete
            (following.complete.initialised ready.1)
            (following.complete.wired.replyReaders readerId (TreeMap.mem_iff_contains.mpr ready.2))
            (data.receivedBy readerId)
          exact ⟨next.bridge, by rw [executed]; rfl, Following.of_forwards following forwards⟩
      · exact ⟨_, rfl, following⟩

end RpcBridge

/-! ### Requests go only where a server is -/

/-- **The registries follow the servers** in the runs in which no participant
loses its last server once the bridge is initialised. -/
theorem followsServers_of_reachable {participants : ParticipantsDatabase} {rpcTopic : RpcTopic}
    (allRtps : ∀ (id : ParticipantId) (participant : IParticipant),
      participants[id]? = some participant → participant.isRtpsKind = true)
    {state : Except Fault RpcBridge}
    (reached : (rpcSystem rpcTopic participants).Reachable
      (fun state event => FromParticipants participants event ∧ ServerStays state event) state) :
    ∃ bridge, state = .ok bridge ∧ FollowsServers participants bridge := by
  have rtps : ∀ id, id ∈ participants → IsRtps participants id := by
    intro id member
    obtain ⟨participant, found⟩ := OrderedMap.mem_iff_exists_getElem?.mp member
    exact ⟨participant, found, allRtps id participant found⟩
  have initially : ∀ start, (rpcSystem rpcTopic participants).Initial start →
      ∃ bridge, start = .ok bridge ∧ bridge.Following participants :=
    fun start initial => ⟨_, initial, complete_initial, by simp, by simp⟩
  have kept : ∀ state event after, (∃ bridge, state = .ok bridge ∧ bridge.Following participants) →
      FromParticipants participants event ∧ ServerStays state event →
      (rpcSystem rpcTopic participants).step state event = some after →
      ∃ bridge, after = .ok bridge ∧ bridge.Following participants := by
    rintro _ event after ⟨bridge, rfl, following⟩ ⟨discovered, stays⟩ taken
    have performed := Option.some.inj taken
    obtain ⟨next, succeeded, still⟩ := RpcBridge.following_perform
      { participants, createThrows := event.createThrows } rtps following discovered
        fun id guidPrefix => stays bridge id guidPrefix rfl
    exact ⟨next, performed.symm.trans succeeded, still⟩
  obtain ⟨bridge, same, following⟩ := reached.invariant initially kept
  exact ⟨bridge, same, following.followsServers⟩

/-- Two participants with proxies. -/
def rtpsParticipants : ParticipantsDatabase :=
  TreeMap.ofList [("a", ({} : IParticipant)), ("b", ({} : IParticipant))]

/-- A test of `ServerStays`. -/
def serverStays (state : Except Fault RpcBridge) (event : RpcEvent) : Bool :=
  match state, event.action with
  | .ok bridge, .removedService id guidPrefix =>
      (bridge.serversOf id).toList.any fun other => other != guidPrefix
  | _, _ => true

theorem serverStays_sound {state : Except Fault RpcBridge} {event : RpcEvent}
    (passed : serverStays state event = true) : ServerStays state event := by
  rintro bridge id guidPrefix rfl removed _ _
  simp only [serverStays, removed] at passed
  obtain ⟨other, member, different⟩ := List.any_eq_true.mp passed
  exact ⟨other, TreeSet.mem_toList.mp member, bne_iff_ne.mp different⟩

/-- One of two servers of a participant is removed. -/
theorem followsServers_of_reachable_add :
    ∃ bridge : RpcBridge, bridge.enabled = true ∧ FollowsServers rtpsParticipants bridge := by
  have allRtps : ∀ (id : ParticipantId) (participant : IParticipant),
      rtpsParticipants[id]? = some participant → participant.isRtpsKind = true := by
    intro id participant found
    have member := TreeMap.mem_toList_iff_getElem?_eq_some.mpr found
    have every : ∀ entry ∈ rtpsParticipants.toList, entry.2.isRtpsKind = true := by
      decide +kernel
    exact every (id, participant) member
  have admitted : ∀ state (event : RpcEvent), event ∈ [
        { action := .discoveredService "a" 7 : RpcEvent },
        { action := .discoveredService "a" 9 : RpcEvent }, { action := .enable : RpcEvent },
        { action := .removedService "a" 7 : RpcEvent }] → serverStays state event = true →
      FromParticipants rtpsParticipants event ∧ ServerStays state event := by
    intro state event member passed
    refine ⟨fun id guidPrefix discovered => ?_, serverStays_sound passed⟩
    simp only [List.mem_cons, List.not_mem_nil, or_false] at member
    rcases member with rfl | rfl | rfl | rfl <;> cases discovered <;> decide +kernel
  obtain ⟨state, reached, test⟩ := System.exists_reachable_of_runAdmitted
    (rpcSystem addService rtpsParticipants) (.ok { rpcTopic := addService }) _ serverStays
    (fun state => match state with
      | .ok bridge => bridge.enabled
      | .error _ => false) admitted rfl (by decide +kernel)
  obtain ⟨bridge, rfl, follows⟩ := followsServers_of_reachable allRtps reached
  exact ⟨bridge, test, follows⟩

/-- The only server of one participant goes while another participant has one:
the registry of the first stays enabled. -/
theorem not_followsServers_of_reachable :
    ¬ ∀ state, (rpcSystem addService rtpsParticipants).Reachable
      (fun _ event => FromParticipants rtpsParticipants event) state →
        ∃ bridge, state = .ok bridge ∧ FollowsServers rtpsParticipants bridge := by
  intro follows
  have admitted : ∀ event ∈ [{ action := .discoveredService "a" 7 : RpcEvent },
        { action := .discoveredService "b" 9 : RpcEvent }, { action := .enable : RpcEvent },
        { action := .removedService "a" 7 : RpcEvent }],
      ∀ _ : Except Fault RpcBridge, FromParticipants rtpsParticipants event := by
    intro event member _ id guidPrefix discovered
    simp only [List.mem_cons, List.not_mem_nil, or_false] at member
    rcases member with rfl | rfl | rfl | rfl <;> cases discovered <;> decide +kernel
  obtain ⟨state, reached, test⟩ := System.exists_reachable_of_run
    (rpcSystem addService rtpsParticipants) (.ok { rpcTopic := addService }) _
    (fun state => match state with
      | .ok bridge => bridge.init && (bridge.serversOf "a").isEmpty &&
          (bridge.serviceRegistries["a"]?.join.any fun registry => registry.enabled)
      | .error _ => false) (fun event member state => admitted event member state) rfl
    (by decide +kernel)
  obtain ⟨bridge, rfl, following⟩ := follows state reached
  simp only [Bool.and_eq_true, Option.any_eq_true] at test
  obtain ⟨⟨init, empty⟩, registry, stored, enabled⟩ := test
  obtain ⟨held, found, alike⟩ := following.registries init "a" (by decide +kernel)
  rw [found] at stored
  cases stored
  obtain ⟨guidPrefix, member⟩ := alike.mp enabled
  exact TreeSet.not_mem_of_isEmpty empty member

end DdsPipe.Communication
