import DdsPipe.Communication.RegistryHistory
import DdsPipe.Communication.RpcRegistries
import Mathlib.Logic.Function.Basic

/-!
Owns the transmissions of one service bridge that run at the same time: one request or
reply per reader, step by step, with the sequence numbers that the writers give to the
requests they send. Every reply is written for the request that it answers, as long as
no write that sends nothing puts a number into a registry
(`correlated_of_reachable`).

A write that the rate limit skips returns OK and leaves the number in the sample as it
was, which is then registered (`not_correlated_of_reachable`).

Does not own: when a transmission starts and ends, and the lookups of a bridge whose
maps are not complete, at which a run ends.
-/

namespace DdsPipe.Communication

open TransitionSystem
open Std (TreeMap)
open DdsPipe.Types DdsPipe.Configuration

/-! ### The steps of a reply -/

/-- A reply on its way to the participant that the registry names. -/
structure ReplyTransmission where
  data : RpcPayloadData
  requester : ParticipantId
  /-- The write has returned OK, and the entry is not erased yet. -/
  written : Bool := false
deriving DecidableEq, Repr

namespace RpcBridge

/-- The part of a reply up to the write: the entry of the registry is fetched. -/
def fetchReply (replyReaderGuid : ParticipantId → Guid) (bridge : RpcBridge)
    (readerId : ParticipantId) (data : RpcPayloadData) :
    Except Fault (Option ReplyTransmission) := do
  if data.writeParams.sampleIdentity.writerGuid ≠ replyReaderGuid readerId then
    return none
  let registry ← bridge.lookupRegistry readerId
  let registryEntry := registry.get data.writeParams.sampleIdentity.sequenceNumber
  if registryEntry.1 == "" then return none
  return some {
    data := data.setRelatedSampleIdentity registryEntry.2
    requester := registryEntry.1 }

/-- The write of a reply, after which it is over or its entry has to be erased. -/
def writeReply (bridge : RpcBridge) (reply : ReplyTransmission) (outcome : WriteOutcome) :
    Except Fault (Option ReplyTransmission) := do
  let _ ← lookup bridge.replyWriters reply.requester
  return (outcome.returned reply.data).map fun data => { reply with data := data, written := true }

def eraseEntry (bridge : RpcBridge) (readerId : ParticipantId) (sequenceNumber : SequenceNumber) :
    Except Fault RpcBridge := do
  let registry ← bridge.lookupRegistry readerId
  return bridge.setRegistry readerId (registry.erase sequenceNumber)

/-- **A reply that nothing comes between** is transmitted in these steps. -/
theorem transmitReply_eq (writers : Writers) (bridge : RpcBridge) (readerId : ParticipantId)
    (data : RpcPayloadData) :
    (transmitReply writers bridge readerId data).map Forwarding.bridge = (do
      match ← bridge.fetchReply writers.replyReaderGuid readerId data with
      | none => return bridge
      | some reply =>
          match ← bridge.writeReply reply (writers.outcome reply.requester) with
          | none => return bridge
          | some reply =>
              bridge.eraseEntry readerId reply.data.writeParams.sampleIdentity.sequenceNumber) := by
  unfold transmitReply fetchReply
  by_cases foreign : data.writeParams.sampleIdentity.writerGuid ≠ writers.replyReaderGuid readerId
  · simp only [if_pos foreign]
    rfl
  · simp only [if_neg foreign]
    cases looked : bridge.lookupRegistry readerId with
    | error fault => rfl
    | ok registry =>
        simp only [bind, Except.bind, pure, Except.pure]
        by_cases absent :
            (registry.get data.writeParams.sampleIdentity.sequenceNumber).1 == ""
        · simp only [if_pos absent]
          rfl
        · simp only [if_neg absent, writeReply]
          cases lookup bridge.replyWriters
              (registry.get data.writeParams.sampleIdentity.sequenceNumber).1 with
          | error fault => rfl
          | ok writer =>
              simp only [bind, Except.bind, pure, Except.pure]
              cases outcome : writers.outcome
                  (registry.get data.writeParams.sampleIdentity.sequenceNumber).1 with
              | failed => rfl
              | skipped | sent sequenceNumber =>
                  simp only [WriteOutcome.returned, Option.map_some, looked, eraseEntry]
                  rfl

end RpcBridge

/-! ### State -/

/-- A request on its way to the participants that remain. -/
structure RequestTransmission where
  data : RpcPayloadData
  identity : SampleIdentity
  remaining : List ParticipantId
deriving DecidableEq, Repr

/-- A request that a proxy client has sent, under its sequence number there. -/
structure SentRequest where
  client : ParticipantId
  sequenceNumber : SequenceNumber
  data : RpcPayloadData
deriving DecidableEq, Repr

/-- A reply that arrived at a proxy client and was handed to a writer. -/
structure WrittenReply where
  client : ParticipantId
  writer : ParticipantId
  data : RpcPayloadData
  outcome : WriteOutcome
deriving DecidableEq, Repr

/-- The bridge with what each of its readers transmits. The rest is history: the
requests that were received, those that were sent and the replies that were
written. -/
structure Correlation where
  bridge : RpcBridge
  requests : ParticipantId → Option RequestTransmission := fun _ => none
  replies : ParticipantId → Option ReplyTransmission := fun _ => none
  received : List RpcPayloadData := []
  sent : List SentRequest := []
  written : List WrittenReply := []

inductive CorrelationStep where
  | enable (createThrows : CreateThrows)
  | disable
  | discoveredService (serverParticipantId : ParticipantId) (serverGuidPrefix : GuidPrefix)
  | removedService (serverParticipantId : ParticipantId) (serverGuidPrefix : GuidPrefix)
  /-- The request reader of a participant takes a sample. -/
  | takeRequest (readerId : ParticipantId) (data : RpcPayloadData)
  /-- The next round of the loop over the registries. -/
  | forward (readerId : ParticipantId) (outcome : WriteOutcome)
  /-- The reply reader of a participant takes a sample, and fetches its entry. -/
  | takeReply (readerId : ParticipantId) (data : RpcPayloadData)
  | writeReply (readerId : ParticipantId) (outcome : WriteOutcome)
  | eraseEntry (readerId : ParticipantId)

namespace Correlation

/-- A transmission ends when it has no registry left. -/
def request? (data : RpcPayloadData) (identity : SampleIdentity) :
    List ParticipantId → Option RequestTransmission
  | [] => none
  | id :: rest => some { data := data, identity := identity, remaining := id :: rest }

/-- The number under which a writer sends is larger than those before. -/
def admitsNumber (state : Correlation) (client : ParticipantId) : WriteOutcome → Bool
  | .sent sequenceNumber => state.sent.all fun request =>
      request.client != client || request.sequenceNumber < sequenceNumber
  | _ => true

/-- What the writes of one round have sent. -/
def sentBy (writes : List (ParticipantId × RpcPayloadData)) : WriteOutcome → List SentRequest
  | .sent sequenceNumber => writes.map fun write =>
      { client := write.1, sequenceNumber := sequenceNumber, data := write.2 }
  | _ => []

def step (participants : ParticipantsDatabase) (replyReaderGuid : ParticipantId → Guid)
    (state : Correlation) : CorrelationStep → Option Correlation
  | .enable createThrows =>
      (state.bridge.enable { participants, createThrows }).toOption.map fun bridge =>
        { state with bridge := bridge }
  | .disable => some { state with bridge := state.bridge.disable }
  | .discoveredService serverParticipantId serverGuidPrefix =>
      (state.bridge.discoveredService serverParticipantId serverGuidPrefix).toOption.map
        fun bridge => { state with bridge := bridge }
  | .removedService serverParticipantId serverGuidPrefix =>
      some { state with bridge := state.bridge.removedService serverParticipantId serverGuidPrefix }
  | .takeRequest readerId data =>
      if state.bridge.enabled && state.bridge.requestReaders.contains readerId &&
          (state.requests readerId).isNone then
        let data := data.receivedBy readerId
        let identity := data.replyRelatedSampleIdentity
        let remaining :=
          if identity = .unknown then [] else state.bridge.serviceRegistries.keys
        some { state with
          requests := Function.update state.requests readerId (request? data identity remaining)
          received := data :: state.received }
      else none
  | .forward readerId outcome =>
      match state.requests readerId with
      | some { data, identity, remaining := id :: rest } =>
          if state.admitsNumber id outcome then
            (RpcBridge.forwardRequest { participants } ⟨replyReaderGuid, fun _ => outcome⟩ identity
              { bridge := state.bridge, data := data } id).toOption.map fun forwarding =>
                { state with
                  bridge := forwarding.bridge
                  requests := Function.update state.requests readerId
                    (request? forwarding.data identity rest)
                  sent := sentBy forwarding.written outcome ++ state.sent }
          else none
      | _ => none
  | .takeReply readerId data =>
      if state.bridge.enabled && state.bridge.replyReaders.contains readerId &&
          (state.replies readerId).isNone then
        (state.bridge.fetchReply replyReaderGuid readerId (data.receivedBy readerId)).toOption.map
          fun reply => { state with replies := Function.update state.replies readerId reply }
      else none
  | .writeReply readerId outcome =>
      match state.replies readerId with
      | some reply =>
          if reply.written then none
          else
            (state.bridge.writeReply reply outcome).toOption.map fun next =>
              { state with
                replies := Function.update state.replies readerId next
                written := ⟨readerId, reply.requester, reply.data, outcome⟩ :: state.written }
      | none => none
  | .eraseEntry readerId =>
      match state.replies readerId with
      | some reply =>
          if reply.written then
            (state.bridge.eraseEntry readerId
              reply.data.writeParams.sampleIdentity.sequenceNumber).toOption.map fun bridge =>
                { state with
                  bridge := bridge
                  replies := Function.update state.replies readerId none }
          else none
      | none => none

end Correlation

/-- The runs of a bridge from its construction. -/
def correlationSystem (rpcTopic : RpcTopic) (participants : ParticipantsDatabase)
    (replyReaderGuid : ParticipantId → Guid) : System Correlation CorrelationStep where
  Initial state := state = { bridge := { rpcTopic := rpcTopic } }
  step := Correlation.step participants replyReaderGuid

/-! ### Correlation -/

/-- The entry that the registry of a proxy client has for a sequence number. -/
def RpcBridge.entryOf (bridge : RpcBridge) (id : ParticipantId) (sequenceNumber : SequenceNumber) :
    Option (ParticipantId × SampleIdentity) :=
  match bridge.serviceRegistries[id]? with
  | some (some registry) => registry.registry[sequenceNumber]?
  | _ => none

/-- A proxy client has sent a request under this number, which the requester received
under this identity. -/
def SentFor (sent : List SentRequest) (client : ParticipantId) (sequenceNumber : SequenceNumber)
    (requester : ParticipantId × SampleIdentity) : Prop :=
  ∃ request ∈ sent, request.client = client ∧ request.sequenceNumber = sequenceNumber ∧
    request.data.participantReceiver = requester.1 ∧
      request.data.replyRelatedSampleIdentity = requester.2

instance (sent : List SentRequest) (client : ParticipantId) (sequenceNumber : SequenceNumber)
    (requester : ParticipantId × SampleIdentity) :
    Decidable (SentFor sent client sequenceNumber requester) :=
  inferInstanceAs (Decidable (∃ request ∈ sent, _))

/-- The client and the number to which a reply is related. -/
def WrittenReply.answers (reply : WrittenReply) : ParticipantId × SequenceNumber :=
  (reply.client, reply.data.writeParams.sampleIdentity.sequenceNumber)

def SentRequest.key (request : SentRequest) : ParticipantId × SequenceNumber :=
  (request.client, request.sequenceNumber)

/-- A reply that its writer has sent. -/
def WrittenReply.isForwarded (reply : WrittenReply) : Bool :=
  match reply.outcome with
  | .sent _ => true
  | _ => false

namespace Correlation

def forwarded (state : Correlation) : List (ParticipantId × SequenceNumber) :=
  (state.written.filter WrittenReply.isForwarded).map WrittenReply.answers

/-- Replies reach the client that asked. -/
structure Correlated (state : Correlation) : Prop where
  /-- Each reply is written for the request that was sent under its number. -/
  replies : ∀ reply ∈ state.written, SentFor state.sent reply.client reply.answers.2
    (reply.writer, reply.data.writeParams.relatedSampleIdentity)
  /-- What was sent has been received by the request reader it names. -/
  requests : ∀ request ∈ state.sent, ∃ data ∈ state.received,
    data.participantReceiver = request.data.participantReceiver ∧
      data.replyRelatedSampleIdentity = request.data.replyRelatedSampleIdentity
  unique : (state.sent.map SentRequest.key).Nodup
  /-- No request has two replies forwarded from the same participant. -/
  once : state.forwarded.Nodup
  entries : ∀ id sequenceNumber requester,
    state.bridge.entryOf id sequenceNumber = some requester →
      SentFor state.sent id sequenceNumber requester

end Correlation

/-- Adding an entry under this number changes nothing: there is one, or the registry
is full with it and all other numbers are larger. -/
def ServiceRegistry.ignores (registry : ServiceRegistry) (idx : SequenceNumber) : Prop :=
  registry.registry.contains idx = true ∨
    registry.registry.size + 1 = defaultMaxEntries ∧ ∀ other ∈ registry.registry, idx < other

/-- Whenever the rate limit skips a request that is written to a participant, its
registry ignores the number that is left in the sample. -/
def SkipsIgnored (participants : ParticipantsDatabase) (state : Correlation)
    (action : CorrelationStep) : Prop :=
  ∀ readerId data identity id rest registry, action = .forward readerId .skipped →
    state.requests readerId = some ⟨data, identity, id :: rest⟩ →
      state.bridge.lookupRegistry id = .ok registry →
        RpcBridge.skipsRegistry { participants } data.participantReceiver id registry = .ok false →
          registry.ignores data.sentSequenceNumber

/-! ### What happens to the registries -/

namespace RpcBridge

/-- The registries have no entry that they did not have. -/
def Shrinks (bridge next : RpcBridge) : Prop :=
  ∀ id sequenceNumber requester, next.entryOf id sequenceNumber = some requester →
    bridge.entryOf id sequenceNumber = some requester

theorem Shrinks.refl (bridge : RpcBridge) : Shrinks bridge bridge :=
  fun _ _ _ found => found

theorem Shrinks.trans {bridge middle next : RpcBridge} (first : Shrinks bridge middle)
    (second : Shrinks middle next) : Shrinks bridge next :=
  fun id sequenceNumber requester found =>
    first id sequenceNumber requester (second id sequenceNumber requester found)

theorem shrinks_of_registries {bridge next : RpcBridge}
    (same : next.serviceRegistries = bridge.serviceRegistries) : Shrinks bridge next := by
  intro id sequenceNumber requester found
  rw [entryOf, same] at found
  exact found

/-- The entry of a participant whose registry is replaced. -/
theorem entryOf_insert {bridge next : RpcBridge} {id : ParticipantId}
    {registry : Option ServiceRegistry}
    (inserted : next.serviceRegistries = bridge.serviceRegistries.insert id registry)
    (other : ParticipantId) (sequenceNumber : SequenceNumber) :
    next.entryOf other sequenceNumber =
      if other = id then registry.bind (·.registry[sequenceNumber]?)
      else bridge.entryOf other sequenceNumber := by
  rw [entryOf, inserted]
  by_cases same : other = id
  · rw [same, TreeMap.getElem?_insert_self, if_pos rfl]
    cases registry with
    | none => rfl
    | some registry => rfl
  · rw [OrderedMap.getElem?_insert_of_ne same, if_neg same]
    rfl

theorem entryOf_of_lookup {bridge : RpcBridge} {id : ParticipantId} {registry : ServiceRegistry}
    (looked : bridge.lookupRegistry id = .ok registry) (sequenceNumber : SequenceNumber) :
    bridge.entryOf id sequenceNumber = registry.registry[sequenceNumber]? := by
  rw [lookupRegistry] at looked
  split at looked
  · next found =>
      cases looked
      rw [entryOf, found]
  · cases looked

theorem shrinks_insert {bridge next : RpcBridge} {id : ParticipantId}
    {registry : Option ServiceRegistry}
    (inserted : next.serviceRegistries = bridge.serviceRegistries.insert id registry)
    (shrinks : ∀ sequenceNumber requester, registry.bind (·.registry[sequenceNumber]?) =
      some requester → bridge.entryOf id sequenceNumber = some requester) :
    Shrinks bridge next := by
  intro other sequenceNumber requester found
  rw [entryOf_insert inserted] at found
  split at found
  · next same =>
      rw [same]
      exact shrinks sequenceNumber requester found
  · exact found

theorem shrinks_enableRegistry (bridge : RpcBridge) (id : ParticipantId) :
    Shrinks bridge (bridge.enableRegistry id).1 := by
  unfold enableRegistry
  split
  · next registry found =>
      apply shrinks_insert rfl
      intro sequenceNumber requester there
      rw [entryOf, found]
      exact there
  · apply shrinks_insert rfl
    intro sequenceNumber requester there
    cases there

theorem shrinks_createProxyServer (environment : Environment) (bridge : RpcBridge)
    (id : ParticipantId) : Shrinks bridge (createProxyServer environment bridge id).1 := by
  unfold createProxyServer
  split
  · exact .refl bridge
  · dsimp only
    split
    · exact shrinks_of_registries rfl
    · exact shrinks_of_registries rfl

theorem shrinks_createProxyClient (environment : Environment) (bridge : RpcBridge)
    (id : ParticipantId) : Shrinks bridge (createProxyClient environment bridge id).1 := by
  unfold createProxyClient
  split
  · exact .refl bridge
  · dsimp only
    split
    · exact shrinks_of_registries rfl
    · apply shrinks_insert rfl
      intro sequenceNumber requester there
      simp at there

theorem shrinks_initParticipant (environment : Environment) (bridge : RpcBridge)
    (id : ParticipantId) : Shrinks bridge (initParticipant environment bridge id).1 := by
  have client := shrinks_createProxyClient environment bridge id
  unfold initParticipant
  split
  · next left fault attempt =>
      rw [attempt] at client
      exact client
  · next middle done attempt =>
      rw [attempt] at client
      have server := shrinks_createProxyServer environment middle id
      split
      · next left fault attempt =>
          rw [attempt] at server
          exact client.trans server
      · next left done attempt =>
          rw [attempt] at server
          have servers : Shrinks left (left.setServersOf id (left.serversOf id)) :=
            shrinks_of_registries rfl
          have before := (client.trans server).trans servers
          dsimp only
          split
          · exact before.trans (shrinks_enableRegistry _ id)
          · exact before

theorem shrinks_initParticipants (environment : Environment) (ids : List ParticipantId)
    (bridge : RpcBridge) : Shrinks bridge (initParticipants environment ids bridge).1 := by
  induction ids generalizing bridge with
  | nil => exact .refl bridge
  | cons id rest inductionHypothesis =>
      have first := shrinks_initParticipant environment bridge id
      unfold initParticipants
      split
      · next left fault attempt =>
          rw [attempt] at first
          exact first
      · next middle done attempt =>
          rw [attempt] at first
          exact first.trans (inductionHypothesis middle)

theorem shrinks_enable {environment : Environment} {bridge next : RpcBridge}
    (succeeded : bridge.enable environment = .ok next) : Shrinks bridge next := by
  have loop := shrinks_initParticipants environment
    environment.participants.getRtpsParticipantsIds bridge
  unfold enable initNts at succeeded
  split at succeeded
  · split at succeeded
    · cases succeeded
      exact shrinks_of_registries rfl
    · cases attempt : initParticipants environment
          environment.participants.getRtpsParticipantsIds bridge with
      | mk left outcome =>
          rw [attempt] at succeeded loop
          have passedOn : Shrinks left (({ left with init := true } : RpcBridge).setEnabled true) :=
            shrinks_of_registries rfl
          cases outcome with
          | ok done =>
              cases succeeded
              exact loop.trans passedOn
          | error fault =>
              cases fault <;> cases succeeded
              exact loop
  · cases succeeded
    exact .refl bridge

theorem shrinks_disable (bridge : RpcBridge) : Shrinks bridge bridge.disable := by
  unfold disable
  split
  · exact shrinks_of_registries rfl
  · exact .refl bridge

theorem shrinks_discoveredService {bridge next : RpcBridge} {id : ParticipantId}
    {guidPrefix : GuidPrefix} (succeeded : bridge.discoveredService id guidPrefix = .ok next) :
    Shrinks bridge next := by
  have servers : Shrinks bridge
      (bridge.setServersOf id ((bridge.serversOf id).insert guidPrefix)) :=
    shrinks_of_registries rfl
  have enables := shrinks_enableRegistry
    (bridge.setServersOf id ((bridge.serversOf id).insert guidPrefix)) id
  unfold discoveredService at succeeded
  dsimp only at succeeded
  split at succeeded
  · split at succeeded
    · next left done attempt =>
        cases succeeded
        rw [attempt] at enables
        exact servers.trans enables
    · cases succeeded
  · cases succeeded
    exact servers

theorem shrinks_removedService (bridge : RpcBridge) (id : ParticipantId) (guidPrefix : GuidPrefix) :
    Shrinks bridge (bridge.removedService id guidPrefix) := by
  have servers : Shrinks bridge
      (bridge.setServersOf id ((bridge.serversOf id).erase guidPrefix)) := shrinks_of_registries rfl
  unfold removedService
  dsimp only
  split
  · exact servers.trans (shrinks_disable _)
  · exact servers

theorem shrinks_eraseEntry {bridge next : RpcBridge} {readerId : ParticipantId}
    {sequenceNumber : SequenceNumber}
    (succeeded : bridge.eraseEntry readerId sequenceNumber = .ok next) :
    Shrinks bridge next ∧ next.entryOf readerId sequenceNumber = none := by
  obtain ⟨registry, looked, made⟩ := OrderedMap.bind_eq_ok_iff.mp succeeded
  cases made
  constructor
  · apply shrinks_insert rfl
    intro number requester found
    rw [entryOf_of_lookup looked]
    exact (ServiceRegistry.getElem?_erase found).2
  · rw [entryOf_insert rfl, if_pos rfl]
    exact TreeMap.getElem?_erase_self

/-- A registry that ignores a number has no other entries after it is added. -/
theorem shrinks_add {bridge : RpcBridge} {id : ParticipantId} {registry : ServiceRegistry}
    (looked : bridge.lookupRegistry id = .ok registry) {sequenceNumber : SequenceNumber}
    (ignored : registry.ignores sequenceNumber) (newEntry : ParticipantId × SampleIdentity) :
    Shrinks bridge (bridge.setRegistry id (registry.add sequenceNumber newEntry)) := by
  apply shrinks_insert rfl
  intro number requester found
  rw [entryOf_of_lookup looked]
  change (registry.add sequenceNumber newEntry).registry[number]? = some requester at found
  rcases ignored with present | ⟨full, smaller⟩
  · rw [ServiceRegistry.add_of_contains present] at found
    exact found
  · cases absent : registry.registry.contains sequenceNumber with
    | true =>
        rw [ServiceRegistry.add_of_contains absent] at found
        exact found
    | false =>
        rcases ServiceRegistry.add_cases newEntry absent with
          ⟨notFull, _⟩ | ⟨oldest, member, _, least, dropped⟩
        · exact absurd full notFull
        · have isOldest : oldest = sequenceNumber := by
            have below := least sequenceNumber TreeMap.mem_insert_self
            rcases OrderedMap.mem_insert_iff.mp member with same | there
            · exact same
            · exact absurd (Nat.lt_of_lt_of_le (smaller oldest there) below) (Nat.lt_irrefl _)
          rw [dropped, isOldest] at found
          by_cases same : number = sequenceNumber
          · rw [same, TreeMap.getElem?_erase_self] at found
            cases found
          · rw [OrderedMap.getElem?_erase_of_ne same,
              OrderedMap.getElem?_insert_of_ne same] at found
            exact found

/-- **One round of a request**: the registry is passed by, the write fails, or it
returns OK and the number that is in the sample then is registered. -/
theorem forwardRequest_cases {environment : Environment} {writers : Writers}
    {identity : SampleIdentity} {forwarding next : Forwarding} {id : ParticipantId}
    (executed : forwardRequest environment writers identity forwarding id = .ok next) :
    next = forwarding ∨
      ∃ registry, forwarding.bridge.lookupRegistry id = .ok registry ∧
        skipsRegistry environment forwarding.data.participantReceiver id registry = .ok false ∧
          let data := forwarding.data.setRelatedWriterGuid (writers.replyReaderGuid id)
          let written := forwarding.written ++ [(id, data)]
          (writers.outcome id = .failed ∧
              next = { bridge := forwarding.bridge, data := data, written := written }) ∨
            ∃ after, (writers.outcome id).returned data = some after ∧ next = {
              bridge := forwarding.bridge.setRegistry id
                (registry.add after.sentSequenceNumber (after.participantReceiver, identity))
              data := after
              written := written } := by
  unfold forwardRequest at executed
  obtain ⟨registry, looked, executed⟩ := OrderedMap.bind_eq_ok_iff.mp executed
  obtain ⟨skips, skipped, executed⟩ := OrderedMap.bind_eq_ok_iff.mp executed
  cases skips with
  | true =>
      cases executed
      exact .inl rfl
  | false =>
      obtain ⟨reader, _, executed⟩ := OrderedMap.bind_eq_ok_iff.mp executed
      obtain ⟨writer, _, executed⟩ := OrderedMap.bind_eq_ok_iff.mp executed
      refine .inr ⟨registry, looked, skipped, ?_⟩
      cases outcome : writers.outcome id with
      | failed =>
          rw [outcome] at executed
          cases executed
          exact .inl ⟨rfl, rfl⟩
      | skipped | sent sequenceNumber =>
          rw [outcome] at executed
          cases executed
          exact .inr ⟨_, rfl, rfl⟩

end RpcBridge

/-! ### What every step keeps -/

theorem SentFor.mono {sent later : List SentRequest} (grown : sent ⊆ later) {client : ParticipantId}
    {sequenceNumber : SequenceNumber} {requester : ParticipantId × SampleIdentity}
    (sentFor : SentFor sent client sequenceNumber requester) :
    SentFor later client sequenceNumber requester := by
  obtain ⟨request, member, same⟩ := sentFor
  exact ⟨request, grown member, same⟩

def ReplyTransmission.sequenceNumber (reply : ReplyTransmission) : SequenceNumber :=
  reply.data.writeParams.sampleIdentity.sequenceNumber

/-- What a map holds after one of its values has been replaced. -/
theorem update_eq_some_cases {Value : Type} {values : ParticipantId → Option Value}
    {id other : ParticipantId} {value : Option Value} {found : Value}
    (there : Function.update values id value other = some found) :
    (other = id ∧ value = some found) ∨ (other ≠ id ∧ values other = some found) := by
  by_cases same : other = id
  · rw [same, Function.update_self] at there
    exact .inl ⟨same, there⟩
  · rw [Function.update_of_ne same] at there
    exact .inr ⟨same, there⟩

namespace Correlation

/-- A sample of a request names its receiver and carries the identity for replies. -/
def Received (received : List RpcPayloadData) (data : RpcPayloadData) : Prop :=
  ∃ original ∈ received, original.participantReceiver = data.participantReceiver ∧
    original.replyRelatedSampleIdentity = data.replyRelatedSampleIdentity

/-- What holds between the steps of the transmissions. -/
structure Sound (state : Correlation) : Prop where
  correlated : state.Correlated
  requests : ∀ readerId request, state.requests readerId = some request →
    request.data.replyRelatedSampleIdentity = request.identity ∧
      Received state.received request.data
  pending : ∀ readerId reply, state.replies readerId = some reply →
    SentFor state.sent readerId reply.sequenceNumber
        (reply.requester, reply.data.writeParams.relatedSampleIdentity) ∧
      (reply.written = false → (readerId, reply.sequenceNumber) ∉ state.forwarded)
  /-- A request with a reply has no entry any more, or it is about to be erased. -/
  erased : ∀ id sequenceNumber, (id, sequenceNumber) ∈ state.forwarded →
    state.bridge.entryOf id sequenceNumber = none ∨
      ∃ reply, state.replies id = some reply ∧ reply.written = true ∧
        reply.sequenceNumber = sequenceNumber

theorem sound_initial (rpcTopic : RpcTopic) : Sound { bridge := { rpcTopic := rpcTopic } } where
  correlated :=
    { replies := fun _ member => absurd member List.not_mem_nil
      requests := fun _ member => absurd member List.not_mem_nil
      unique := List.nodup_nil
      once := List.nodup_nil
      entries := by
        intro id sequenceNumber requester found
        simp [RpcBridge.entryOf] at found }
  requests := by simp
  pending := by simp
  erased := fun _ _ member => absurd member List.not_mem_nil

theorem Sound.sentFor_of_mem_forwarded {state : Correlation} (sound : state.Sound)
    {id : ParticipantId} {sequenceNumber : SequenceNumber}
    (member : (id, sequenceNumber) ∈ state.forwarded) :
    ∃ request ∈ state.sent, request.key = (id, sequenceNumber) := by
  obtain ⟨reply, kept, same⟩ := List.mem_map.mp member
  obtain ⟨request, isSent, client, number, _⟩ :=
    sound.correlated.replies reply (List.mem_filter.mp kept).1
  refine ⟨request, isSent, ?_⟩
  rw [SentRequest.key, client, number, ← same]
  rfl

/-- **Requests are sent**: what is new was received, has new numbers, and is all that
the registries have gained. -/
theorem Sound.grow {state : Correlation} (sound : state.Sound) {bridge : RpcBridge}
    {requests : ParticipantId → Option RequestTransmission} {new : List SentRequest}
    (fresh : ∀ request ∈ new, ∀ earlier ∈ state.sent, earlier.key ≠ request.key)
    (apart : (new.map SentRequest.key).Nodup)
    (received : ∀ request ∈ new, Received state.received request.data)
    (entries : ∀ id sequenceNumber requester, bridge.entryOf id sequenceNumber = some requester →
      state.bridge.entryOf id sequenceNumber = some requester ∨
        SentFor new id sequenceNumber requester)
    (underWay : ∀ readerId request, requests readerId = some request →
      request.data.replyRelatedSampleIdentity = request.identity ∧
        Received state.received request.data) :
    Sound { state with bridge := bridge, requests := requests, sent := new ++ state.sent } where
  correlated :=
    { replies := fun reply member =>
        (sound.correlated.replies reply member).mono (List.subset_append_right _ _)
      requests := by
        intro request member
        rcases List.mem_append.mp member with isNew | before
        · exact received request isNew
        · exact sound.correlated.requests request before
      unique := by
        rw [List.map_append]
        apply List.nodup_append.mpr
        refine ⟨apart, sound.correlated.unique, ?_⟩
        intro key isNew earlierKey before same
        obtain ⟨request, member, rfl⟩ := List.mem_map.mp isNew
        obtain ⟨earlier, there, rfl⟩ := List.mem_map.mp before
        exact fresh request member earlier there same.symm
      once := sound.correlated.once
      entries := by
        intro id sequenceNumber requester found
        rcases entries id sequenceNumber requester found with before | isNew
        · exact (sound.correlated.entries id sequenceNumber requester before).mono
            (List.subset_append_right _ _)
        · exact isNew.mono (List.subset_append_left _ _) }
  requests := underWay
  pending := by
    intro readerId reply pending
    obtain ⟨sentFor, notForwarded⟩ := sound.pending readerId reply pending
    exact ⟨sentFor.mono (List.subset_append_right _ _), notForwarded⟩
  erased := by
    intro id sequenceNumber member
    rcases sound.erased id sequenceNumber member with gone | aboutTo
    · left
      cases found : bridge.entryOf id sequenceNumber with
      | none => rfl
      | some requester =>
          rcases entries id sequenceNumber requester found with before | isNew
          · rw [gone] at before
            cases before
          · obtain ⟨request, isSent, client, number, _⟩ := isNew
            obtain ⟨earlier, before, key⟩ := sound.sentFor_of_mem_forwarded member
            have same : request.key = (id, sequenceNumber) := by
              rw [SentRequest.key, client, number]
            exact absurd (key.trans same.symm) (fresh request isSent earlier before)
    · exact .inr aboutTo

/-- The registries may lose entries at any time, and requests go on. -/
theorem Sound.shrink {state : Correlation} (sound : state.Sound) {bridge : RpcBridge}
    {requests : ParticipantId → Option RequestTransmission}
    (shrinks : RpcBridge.Shrinks state.bridge bridge)
    (underWay : ∀ readerId request, requests readerId = some request →
      request.data.replyRelatedSampleIdentity = request.identity ∧
        Received state.received request.data) :
    Sound { state with bridge := bridge, requests := requests } := by
  have nothing : ∀ request ∈ ([] : List SentRequest), Received state.received request.data :=
    fun _ member => absurd member List.not_mem_nil
  exact sound.grow (fun _ member => absurd member List.not_mem_nil) List.nodup_nil nothing
    (fun id sequenceNumber requester found =>
      .inl (shrinks id sequenceNumber requester found)) underWay

/-! ### Requests -/

theorem request?_cases {data : RpcPayloadData} {identity : SampleIdentity}
    {remaining : List ParticipantId} {request : RequestTransmission}
    (underWay : request? data identity remaining = some request) :
    request.data = data ∧ request.identity = identity := by
  cases remaining with
  | nil => cases underWay
  | cons id rest =>
      cases underWay
      exact ⟨rfl, rfl⟩

/-- A sample is received. -/
theorem Sound.receive {state : Correlation} (sound : state.Sound) (data : RpcPayloadData) :
    Sound { state with received := data :: state.received } := by
  have keeps : ∀ other, Received state.received other →
      Received (data :: state.received) other := by
    rintro other ⟨original, member, same⟩
    exact ⟨original, List.mem_cons_of_mem _ member, same⟩
  refine ⟨{ sound.correlated with requests := ?_ }, ?_, sound.pending, sound.erased⟩
  · intro request member
    exact keeps request.data (sound.correlated.requests request member)
  · intro other request underWay
    obtain ⟨sameIdentity, received⟩ := sound.requests other request underWay
    exact ⟨sameIdentity, keeps request.data received⟩

/-- A request that goes on is one that was received. -/
theorem Sound.underWay_update {state : Correlation} (sound : state.Sound) {readerId : ParticipantId}
    {data : RpcPayloadData} {identity : SampleIdentity} {remaining : List ParticipantId}
    (sameIdentity : data.replyRelatedSampleIdentity = identity)
    (received : Received state.received data) :
    ∀ other request,
      Function.update state.requests readerId (request? data identity remaining) other =
          some request →
        request.data.replyRelatedSampleIdentity = request.identity ∧
          Received state.received request.data := by
  intro other request underWay
  rcases update_eq_some_cases underWay with ⟨_, goesOn⟩ | ⟨_, before⟩
  · obtain ⟨sameData, identityKept⟩ := request?_cases goesOn
    rw [sameData, identityKept]
    exact ⟨sameIdentity, received⟩
  · exact sound.requests other request before

/-- A number that a writer may send under is larger than those of its requests. -/
theorem lt_of_admitsNumber {state : Correlation} {client : ParticipantId}
    {sequenceNumber : SequenceNumber}
    (admitted : state.admitsNumber client (.sent sequenceNumber) = true) {earlier : SentRequest}
    (member : earlier ∈ state.sent) (sameClient : earlier.client = client) :
    earlier.sequenceNumber < sequenceNumber := by
  have tested := List.all_eq_true.mp admitted earlier member
  simpa [sameClient] using tested

/-- A request is sent under a new number, and registered under it. -/
theorem Sound.send {state : Correlation} (sound : state.Sound) {id : ParticipantId}
    {registry : ServiceRegistry} {identity : SampleIdentity}
    {requests : ParticipantId → Option RequestTransmission} (request : SentRequest)
    (sameClient : request.client = id)
    (sameIdentity : request.data.replyRelatedSampleIdentity = identity)
    (admitted : state.admitsNumber id (.sent request.sequenceNumber) = true)
    (looked : state.bridge.lookupRegistry id = .ok registry)
    (received : Received state.received request.data)
    (underWay : ∀ readerId request, requests readerId = some request →
      request.data.replyRelatedSampleIdentity = request.identity ∧
        Received state.received request.data) :
    Sound { state with
      bridge := state.bridge.setRegistry id
        (registry.add request.sequenceNumber (request.data.participantReceiver, identity))
      requests := requests
      sent := [request] ++ state.sent } := by
  apply sound.grow
  · intro new isNew earlier member sameKey
    rw [List.mem_singleton.mp isNew] at sameKey
    have client : earlier.client = request.client := congrArg Prod.fst sameKey
    have number : earlier.sequenceNumber = request.sequenceNumber := congrArg Prod.snd sameKey
    have smaller := lt_of_admitsNumber admitted member (client.trans sameClient)
    rw [number] at smaller
    exact Nat.lt_irrefl _ smaller
  · exact List.nodup_singleton _
  · intro new isNew
    rw [List.mem_singleton.mp isNew]
    exact received
  · intro other number requester found
    rw [RpcBridge.entryOf_insert rfl] at found
    split at found
    · next same =>
        rw [same]
        rcases ServiceRegistry.getElem?_add found with before | ⟨rfl, rfl⟩
        · rw [RpcBridge.entryOf_of_lookup looked]
          exact .inl before
        · exact .inr ⟨request, List.mem_cons_self, sameClient, rfl, rfl, sameIdentity⟩
    · exact .inl found
  · exact underWay

/-- **A round of a request** that is sent, fails, or is skipped where that is
ignored. -/
theorem Sound.forward {participants : ParticipantsDatabase}
    {replyReaderGuid : ParticipantId → Guid} {state : Correlation} (sound : state.Sound)
    {readerId id : ParticipantId} {data : RpcPayloadData} {identity : SampleIdentity}
    {rest : List ParticipantId} {outcome : WriteOutcome} {forwarding : Forwarding}
    (running : state.requests readerId = some ⟨data, identity, id :: rest⟩)
    (admitted : state.admitsNumber id outcome = true)
    (ignored : SkipsIgnored participants state (.forward readerId outcome))
    (executed : RpcBridge.forwardRequest { participants } ⟨replyReaderGuid, fun _ => outcome⟩
      identity { bridge := state.bridge, data := data } id = .ok forwarding) :
    Sound { state with
      bridge := forwarding.bridge
      requests := Function.update state.requests readerId (request? forwarding.data identity rest)
      sent := sentBy forwarding.written outcome ++ state.sent } := by
  obtain ⟨sameIdentity, received⟩ := sound.requests readerId _ running
  rcases RpcBridge.forwardRequest_cases executed with
    rfl | ⟨registry, looked, written, ⟨failed, rfl⟩ | ⟨after, returned, rfl⟩⟩
  · have nothing : sentBy [] outcome = [] := by cases outcome <;> rfl
    rw [nothing]
    exact sound.shrink (.refl _) (sound.underWay_update sameIdentity received)
  · cases failed
    exact sound.shrink (.refl _) (sound.underWay_update sameIdentity received)
  · cases outcome with
    | failed => cases returned
    | skipped =>
        cases returned
        have ignores := ignored readerId data identity id rest registry rfl running looked written
        exact sound.shrink (RpcBridge.shrinks_add looked ignores _)
          (sound.underWay_update sameIdentity received)
    | sent sequenceNumber =>
        cases returned
        exact sound.send ⟨id, sequenceNumber, data.setRelatedWriterGuid (replyReaderGuid id)⟩ rfl
          sameIdentity admitted looked received (sound.underWay_update sameIdentity received)

/-! ### Replies -/

/-- A reply that goes on has an entry. -/
theorem fetchReply_some {replyReaderGuid : ParticipantId → Guid} {bridge : RpcBridge}
    {readerId : ParticipantId} {data : RpcPayloadData} {reply : ReplyTransmission}
    (executed : bridge.fetchReply replyReaderGuid readerId data = .ok (some reply)) :
    bridge.entryOf readerId reply.sequenceNumber =
      some (reply.requester, reply.data.writeParams.relatedSampleIdentity) := by
  unfold RpcBridge.fetchReply at executed
  by_cases foreign : data.writeParams.sampleIdentity.writerGuid ≠ replyReaderGuid readerId
  · rw [if_pos foreign] at executed
    cases executed
  · rw [if_neg foreign] at executed
    obtain ⟨registry, looked, executed⟩ := OrderedMap.bind_eq_ok_iff.mp executed
    dsimp only at executed
    split at executed
    · cases executed
    · next present =>
        cases executed
        rw [RpcBridge.entryOf_of_lookup looked]
        cases found : registry.registry[data.writeParams.sampleIdentity.sequenceNumber]? with
        | none =>
            rw [ServiceRegistry.get, found] at present
            exact absurd rfl present
        | some entry =>
            have got : registry.get data.writeParams.sampleIdentity.sequenceNumber = entry := by
              rw [ServiceRegistry.get, found]
              rfl
            rw [got]
            exact found

/-- **A reply** that has an entry answers a request that has no reply yet. -/
theorem Sound.takeReply {state : Correlation} (sound : state.Sound)
    {replyReaderGuid : ParticipantId → Guid} {readerId : ParticipantId} {data : RpcPayloadData}
    {fetched : Option ReplyTransmission} (idle : state.replies readerId = none)
    (executed : state.bridge.fetchReply replyReaderGuid readerId data = .ok fetched) :
    Sound { state with replies := Function.update state.replies readerId fetched } := by
  refine ⟨{ sound.correlated with }, sound.requests, ?_, ?_⟩
  · intro other reply pending
    rcases update_eq_some_cases pending with ⟨rfl, rfl⟩ | ⟨_, before⟩
    · have entry := fetchReply_some executed
      refine ⟨sound.correlated.entries other reply.sequenceNumber _ entry, fun _ member => ?_⟩
      rcases sound.erased other reply.sequenceNumber member with gone | ⟨_, aboutTo, _⟩
      · rw [gone] at entry
        cases entry
      · rw [idle] at aboutTo
        cases aboutTo
    · exact sound.pending other reply before
  · intro id sequenceNumber member
    rcases sound.erased id sequenceNumber member with gone | ⟨reply, pending, written, number⟩
    · exact .inl gone
    · have other : id ≠ readerId := by
        rintro rfl
        rw [idle] at pending
        cases pending
      exact .inr ⟨reply, (Function.update_of_ne other _ _).trans pending, written, number⟩

theorem mem_forwarded_cons {state : Correlation} {reply : WrittenReply}
    {key : ParticipantId × SequenceNumber} :
    key ∈ forwarded { state with written := reply :: state.written } ↔
      (reply.isForwarded = true ∧ key = reply.answers) ∨ key ∈ state.forwarded := by
  rw [forwarded, List.filter_cons]
  by_cases sent : reply.isForwarded = true
  · rw [if_pos sent, List.map_cons, List.mem_cons]
    simp only [sent, true_and]
    rfl
  · rw [if_neg sent]
    simp only [sent, false_and, false_or, Bool.false_eq_true]
    rfl

theorem nodup_forwarded_cons {state : Correlation} {reply : WrittenReply}
    (new : reply.answers ∉ state.forwarded) (once : state.forwarded.Nodup) :
    (forwarded { state with written := reply :: state.written }).Nodup := by
  rw [forwarded, List.filter_cons]
  split
  · exact List.nodup_cons.mpr ⟨new, once⟩
  · exact once

/-- What a write leaves of a reply, if that has to have its entry erased. -/
theorem writeReply_ok {bridge : RpcBridge} {reply : ReplyTransmission} {outcome : WriteOutcome}
    {next : Option ReplyTransmission} (executed : bridge.writeReply reply outcome = .ok next) :
    (∀ after, next = some after → after.written = true ∧ after.requester = reply.requester ∧
      after.data.writeParams = reply.data.writeParams) ∧
        ((∃ sequenceNumber, outcome = .sent sequenceNumber) → ∃ after, next = some after) := by
  obtain ⟨writer, _, made⟩ := OrderedMap.bind_eq_ok_iff.mp executed
  cases made
  constructor
  · intro after goesOn
    obtain ⟨data, returned, rfl⟩ := Option.map_eq_some_iff.mp goesOn
    exact ⟨rfl, rfl, (WriteOutcome.returned_keeps returned).2.1⟩
  · rintro ⟨sequenceNumber, rfl⟩
    exact ⟨_, rfl⟩

/-- **A reply is written** for the request that it answers, and sent once. -/
theorem Sound.writeReply {state : Correlation} (sound : state.Sound) {readerId : ParticipantId}
    {reply : ReplyTransmission} {outcome : WriteOutcome} {next : Option ReplyTransmission}
    (pending : state.replies readerId = some reply) (unwritten : reply.written = false)
    (executed : state.bridge.writeReply reply outcome = .ok next) :
    Sound { state with
      replies := Function.update state.replies readerId next
      written := ⟨readerId, reply.requester, reply.data, outcome⟩ :: state.written } := by
  obtain ⟨sentFor, new⟩ := sound.pending readerId reply pending
  have notForwarded := new unwritten
  obtain ⟨afterWrite, sentGoesOn⟩ := writeReply_ok executed
  refine ⟨{ sound.correlated with replies := ?_, once := ?_ }, sound.requests, ?_, ?_⟩
  · intro written member
    rcases List.mem_cons.mp member with rfl | before
    · exact sentFor
    · exact sound.correlated.replies written before
  · exact nodup_forwarded_cons notForwarded sound.correlated.once
  · intro other goingOn there
    rcases update_eq_some_cases there with ⟨rfl, rfl⟩ | ⟨different, before⟩
    · obtain ⟨isWritten, sameRequester, sameParams⟩ := afterWrite goingOn rfl
      rw [ReplyTransmission.sequenceNumber, sameRequester, sameParams]
      refine ⟨sentFor, fun notWritten => ?_⟩
      rw [isWritten] at notWritten
      cases notWritten
    · obtain ⟨otherSentFor, otherNew⟩ := sound.pending other goingOn before
      refine ⟨otherSentFor, fun notWritten member => ?_⟩
      rcases mem_forwarded_cons.mp member with ⟨_, same⟩ | already
      · exact different (congrArg Prod.fst same)
      · exact otherNew notWritten already
  · intro id sequenceNumber member
    rcases mem_forwarded_cons.mp member with ⟨sent, same⟩ | already
    · have isSent : ∃ sequenceNumber, outcome = .sent sequenceNumber := by
        cases outcome with
        | sent number => exact ⟨number, rfl⟩
        | skipped | failed => cases sent
      obtain ⟨after, rfl⟩ := sentGoesOn isSent
      obtain ⟨isWritten, _, sameParams⟩ := afterWrite after rfl
      cases same
      refine .inr ⟨after, Function.update_self .., isWritten, ?_⟩
      rw [ReplyTransmission.sequenceNumber, sameParams]
    · rcases sound.erased id sequenceNumber already with gone | ⟨other, aboutTo, written, number⟩
      · exact .inl gone
      · have different : id ≠ readerId := by
          rintro rfl
          rw [pending, Option.some.injEq] at aboutTo
          rw [aboutTo, written] at unwritten
          cases unwritten
        exact .inr ⟨other, (Function.update_of_ne different _ _).trans aboutTo, written, number⟩

/-- **The entry of a reply is erased** once that is written. -/
theorem Sound.eraseEntry {state : Correlation} (sound : state.Sound) {readerId : ParticipantId}
    {reply : ReplyTransmission} {bridge : RpcBridge}
    (pending : state.replies readerId = some reply)
    (executed : state.bridge.eraseEntry readerId reply.sequenceNumber = .ok bridge) :
    Sound { state with
      bridge := bridge
      replies := Function.update state.replies readerId none } := by
  obtain ⟨shrinks, gone⟩ := RpcBridge.shrinks_eraseEntry executed
  have shrunk := sound.shrink shrinks sound.requests
  refine ⟨{ shrunk.correlated with }, sound.requests, ?_, ?_⟩
  · intro other goingOn there
    rcases update_eq_some_cases there with ⟨_, none⟩ | ⟨_, before⟩
    · cases none
    · exact sound.pending other goingOn before
  · intro id sequenceNumber member
    rcases shrunk.erased id sequenceNumber member with erased | ⟨other, aboutTo, written, number⟩
    · exact .inl erased
    · by_cases same : id = readerId
      · subst same
        have aboutReply : some reply = some other := pending.symm.trans aboutTo
        cases aboutReply
        rw [← number]
        exact .inl gone
      · exact .inr ⟨other, (Function.update_of_ne same _ _).trans aboutTo, written, number⟩

/-! ### Runs -/

/-- A step that a fault ends is not taken. -/
theorem ok_of_toOption_map {First Second : Type} {attempt : Except Fault First}
    {change : First → Second} {result : Second}
    (taken : attempt.toOption.map change = some result) :
    ∃ value, attempt = .ok value ∧ change value = result := by
  cases attempt with
  | error fault => cases taken
  | ok value => exact ⟨value, rfl, Option.some.inj taken⟩

theorem sound_step {participants : ParticipantsDatabase} {replyReaderGuid : ParticipantId → Guid}
    {state next : Correlation} {action : CorrelationStep} (sound : state.Sound)
    (ignored : SkipsIgnored participants state action)
    (taken : state.step participants replyReaderGuid action = some next) : next.Sound := by
  cases action with
  | enable createThrows =>
      obtain ⟨bridge, succeeded, rfl⟩ := ok_of_toOption_map taken
      exact sound.shrink (RpcBridge.shrinks_enable succeeded) sound.requests
  | disable =>
      cases taken
      exact sound.shrink (RpcBridge.shrinks_disable _) sound.requests
  | discoveredService id guidPrefix =>
      obtain ⟨bridge, succeeded, rfl⟩ := ok_of_toOption_map taken
      exact sound.shrink (RpcBridge.shrinks_discoveredService succeeded) sound.requests
  | removedService id guidPrefix =>
      cases taken
      exact sound.shrink (RpcBridge.shrinks_removedService _ id guidPrefix) sound.requests
  | takeRequest readerId data =>
      rw [step] at taken
      split at taken
      · cases taken
        have arrived := sound.receive (data.receivedBy readerId)
        exact arrived.shrink (.refl _)
          (arrived.underWay_update rfl ⟨_, List.mem_cons_self, rfl, rfl⟩)
      · cases taken
  | forward readerId outcome =>
      rw [step] at taken
      split at taken
      · next data identity id rest running =>
          split at taken
          · next admitted =>
              obtain ⟨forwarding, executed, rfl⟩ := ok_of_toOption_map taken
              exact sound.forward running admitted ignored executed
          · cases taken
      · cases taken
  | takeReply readerId data =>
      rw [step] at taken
      split at taken
      · next ready =>
          obtain ⟨fetched, executed, rfl⟩ := ok_of_toOption_map taken
          rw [Bool.and_eq_true] at ready
          exact sound.takeReply (Option.isNone_iff_eq_none.mp ready.2) executed
      · cases taken
  | writeReply readerId outcome =>
      rw [step] at taken
      split at taken
      · next reply pending =>
          split at taken
          · cases taken
          · next unwritten =>
              obtain ⟨after, executed, rfl⟩ := ok_of_toOption_map taken
              exact sound.writeReply pending (Bool.eq_false_iff.mpr unwritten) executed
      · cases taken
  | eraseEntry readerId =>
      rw [step] at taken
      split at taken
      · next reply pending =>
          split at taken
          · obtain ⟨bridge, executed, rfl⟩ := ok_of_toOption_map taken
            exact sound.eraseEntry pending executed
          · cases taken
      · cases taken

variable {rpcTopic : RpcTopic} {participants : ParticipantsDatabase}
  {replyReaderGuid : ParticipantId → Guid}

theorem sound_of_reachable {state : Correlation}
    (reached : (correlationSystem rpcTopic participants replyReaderGuid).Reachable
      (SkipsIgnored participants) state) : state.Sound := by
  have initially : ∀ start,
      (correlationSystem rpcTopic participants replyReaderGuid).Initial start →
        start.Sound := by
    rintro _ rfl
    exact sound_initial rpcTopic
  exact reached.invariant initially fun _ _ _ sound ignored taken => sound_step sound ignored taken

/-- **Replies reach the client that asked** in every run in which no skipped request
puts a number into a registry. -/
theorem correlated_of_reachable {state : Correlation}
    (reached : (correlationSystem rpcTopic participants replyReaderGuid).Reachable
      (SkipsIgnored participants) state) : state.Correlated :=
  (sound_of_reachable reached).correlated

/-- Three participants with proxies. -/
def threeParticipants : ParticipantsDatabase :=
  TreeMap.ofList [("a", ({} : IParticipant)), ("b", ({} : IParticipant)),
    ("c", ({} : IParticipant))]

def guidOfReplyReader (id : ParticipantId) : Guid :=
  if id = "b" then ⟨2, 1⟩ else if id = "c" then ⟨3, 1⟩ else ⟨1, 1⟩

/-- A request of the client with this guid. -/
def requestOf (client : Guid) (sequenceNumber : SequenceNumber) : RpcPayloadData :=
  { writeParams := { sampleIdentity := { writerGuid := client } }
    originSequenceNumber := sequenceNumber }

/-- The reply to what the proxy client of a participant has sent under a number. -/
def replyTo (client : ParticipantId) (sequenceNumber : SequenceNumber) : RpcPayloadData :=
  { writeParams := { sampleIdentity := ⟨guidOfReplyReader client, sequenceNumber⟩ } }

/-- A request to two servers, of which one replies. -/
theorem correlated_of_reachable_answered :
    ∃ state : Correlation, state.forwarded = [("b", 1)] ∧ state.Correlated := by
  have admitted : ∀ action ∈ ([.discoveredService "b" 21, .discoveredService "c" 31,
      .enable neverThrows, .takeRequest "a" (requestOf ⟨100, 1⟩ 5), .forward "a" .failed,
      .forward "a" (.sent 1), .forward "a" (.sent 1), .takeReply "b" (replyTo "b" 1),
      .writeReply "b" (.sent 1), .eraseEntry "b"] : List CorrelationStep),
      ∀ state, SkipsIgnored threeParticipants state action := by
    intro action member state readerId data identity id rest registry skipped
    subst skipped
    simp at member
  obtain ⟨state, reached, test⟩ := System.exists_reachable_of_run
    (correlationSystem addService threeParticipants guidOfReplyReader)
    { bridge := { rpcTopic := addService } } _
    (fun state => state.forwarded == [("b", 1)]) admitted rfl (by decide +kernel)
  exact ⟨state, beq_iff_eq.mp test, correlated_of_reachable reached⟩

/-- The writers of `b` and `c` have sent a request before. When `c` skips the next one, the
number is left under which `b` has sent it, and the reply to the request that `c` sends
under that number is written for the client of the skipped one. -/
theorem not_correlated_of_reachable :
    ¬ ∀ state, (correlationSystem addService threeParticipants guidOfReplyReader).Reachable anyStep
      state → state.Correlated := by
  intro correlated
  -- With at most one sample a second: the four requests come at 0, 0.9, 1.2 and 2.3 s.
  obtain ⟨state, reached, test⟩ := System.exists_reachable_of_run
    (correlationSystem addService threeParticipants guidOfReplyReader)
    { bridge := { rpcTopic := addService } }
    [.discoveredService "b" 21, .discoveredService "c" 31, .enable neverThrows,
      .takeRequest "c" (requestOf ⟨300, 1⟩ 4), .forward "c" .failed, .forward "c" (.sent 1),
      .forward "c" .failed, .takeRequest "b" (requestOf ⟨400, 1⟩ 6), .forward "b" .failed,
      .forward "b" .failed, .forward "b" (.sent 1),
      .takeRequest "a" (requestOf ⟨100, 1⟩ 5), .forward "a" .failed, .forward "a" (.sent 2),
      .forward "a" .skipped, .takeRequest "a" (requestOf ⟨200, 1⟩ 9), .forward "a" .failed,
      .forward "a" (.sent 3), .forward "a" (.sent 2), .takeReply "c" (replyTo "c" 2),
      .writeReply "c" (.sent 1)]
    (fun state => state.written.any fun reply => !decide (SentFor state.sent reply.client
      reply.answers.2 (reply.writer, reply.data.writeParams.relatedSampleIdentity)))
    (fun _ _ _ => trivial) rfl (by decide +kernel)
  obtain ⟨reply, member, notSent⟩ := List.any_eq_true.mp test
  rw [Bool.not_eq_true', decide_eq_false_iff_not] at notSent
  exact notSent ((correlated state reached).replies reply member)

end Correlation

end DdsPipe.Communication
