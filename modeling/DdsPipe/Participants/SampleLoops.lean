import DdsPipe.Library.TransitionSystem
import DdsPipe.Participants.CommonParticipant
import DdsPipe.Participants.RtpsWriter
import DdsPipe.Types.TopicQoS
import Mathlib.Data.Fintype.EquivFin
import Mathlib.Data.Set.Finite.Range
import Mathlib.Data.Set.Finite.Lattice

/-!
Owns the way of a sample between the networks that a pipe connects: which readers
and writers its participants create for a topic, which changes a writer keeps from a
reader, which changes a reader refuses, and the copies that are made of a sample.

A copy is never forwarded again exactly when each participant writes under the
prefix that the readers of its domain refuse (`forwardedOnce_iff`). Then no sample
is received twice from the pipe, nor by the participant that wrote it
(`noEcho_of_reachable`). The writers of the DDS layer belong to a participant of
their own, and two participants that have them send a sample back and forth for ever
(`forwardedForever`).

Does not own: the network, which is taken to hand a change at most once to a reader
of its domain, and never to another domain.
-/

namespace DdsPipe.Types

variable {Level : Type}

def TopicQoS.hasOwnership (qos : TopicQoS Level) : Bool :=
  qos.ownershipQos.value == .exclusiveOwnershipQos

def TopicQoS.hasPartitions (qos : TopicQoS Level) : Bool :=
  qos.usePartitions.value

end DdsPipe.Types

namespace DdsPipe.Participants

open DdsPipe.Types
open TransitionSystem

/-! ### Readers and writers of a topic -/

inductive WriterKind where
  | blankWriter
  | rpcSimpleWriter
  | multiWriter
  | ddsSimpleWriter
deriving DecidableEq, Repr

inductive ReaderKind where
  | blankReader
  | rpcSimpleReader
  | specificQosReader
  | simpleReader
deriving DecidableEq, Repr

section Creation

variable {Level : Type}

/-- `CommonParticipant::create_writer`. There is no topic where it is not a
`DdsTopic`. -/
def createWriter : Option (DistributedTopic Level) → WriterKind
  | none => .blankWriter
  | some topic =>
      if topic.topic.internalTypeDiscriminator = internalTopicTypeRpc then .rpcSimpleWriter
      else if topic.topic.internalTypeDiscriminator = internalTopicTypeRtps then
        if topic.topicQos.hasPartitions || topic.topicQos.hasOwnership then .multiWriter
        else .ddsSimpleWriter
      else .blankWriter

/-- `CommonParticipant::create_reader`. -/
def createReader : Option (DistributedTopic Level) → ReaderKind
  | none => .blankReader
  | some topic =>
      if topic.topic.internalTypeDiscriminator = internalTopicTypeRpc then .rpcSimpleReader
      else if topic.topic.internalTypeDiscriminator = internalTopicTypeRtps then
        if topic.topicQos.hasPartitions || topic.topicQos.hasOwnership then .specificQosReader
        else .simpleReader
      else .blankReader

/-- A participant has a reader for the topics for which it has a writer. -/
theorem createReader_eq_blank_iff {topic : Option (DistributedTopic Level)} :
    createReader topic = .blankReader ↔ createWriter topic = .blankWriter := by
  unfold createReader createWriter
  cases topic with
  | none => simp
  | some topic =>
      dsimp only
      split
      · simp
      · split
        · split <;> simp
        · simp

end Creation

/-- A participant with one topic. The entities of the RTPS layer have the prefix
`guidPrefix`, and those of the DDS layer that of a second participant,
`ddsGuidPrefix`. -/
structure RtpsParticipant (Level : Type) extends CommonParticipant where
  ddsGuidPrefix : GuidPrefix
  domainId : Nat
  isRepeater : Bool := false
  topic : Option (DistributedTopic Level)
  readerEntity : Nat := 0

/-! ### Changes and filters -/

/-- The filter of a writer, if one is known. -/
inductive DataFilter where
  | none
  | selfDataFilter
  | repeaterDataFilter
deriving DecidableEq, Repr

/-- A change on the network of a domain. `sample`, `origin` and `copies` are proof
data: the position at which the sample was first written, who wrote it, and how often
it has been forwarded. -/
structure NetworkChange where
  domainId : Nat
  writerGuid : GuidPrefix
  lastWriterGuidPrefix : Option GuidPrefix := none
  dataFilter : DataFilter := .none
  sample : Nat
  origin : GuidPrefix
  copies : Nat := 0
deriving DecidableEq, Repr

def SelfDataFilter.isRelevant (change : NetworkChange) (readerGuid : Guid) : Bool :=
  change.writerGuid != readerGuid.guidPrefix

def RepeaterDataFilter.isRelevant (change : NetworkChange) (readerGuid : Guid) : Bool :=
  if !SelfDataFilter.isRelevant change readerGuid then false
  else change.lastWriterGuidPrefix != some readerGuid.guidPrefix

namespace NetworkChange

/-- A sample as its writer puts it on the network. -/
def published (domainOf : GuidPrefix → Nat) (position : Nat) (writerGuid : GuidPrefix) :
    NetworkChange where
  domainId := domainOf writerGuid
  writerGuid := writerGuid
  sample := position
  origin := writerGuid

def isRelevant (change : NetworkChange) (readerGuid : Guid) : Bool :=
  match change.dataFilter with
  | .none => true
  | .selfDataFilter => SelfDataFilter.isRelevant change readerGuid
  | .repeaterDataFilter => RepeaterDataFilter.isRelevant change readerGuid

end NetworkChange

namespace RtpsParticipant

variable {Level : Type} (participant : RtpsParticipant Level)

def readerGuid : Guid :=
  ⟨participant.guidPrefix, participant.readerEntity⟩

def reads : Bool :=
  createReader participant.topic != .blankReader

/-- `come_from_this_participant_` of the reader. -/
def comeFromThisParticipant (change : NetworkChange) : Bool :=
  change.writerGuid == participant.guidPrefix

/-- `CommonReader::should_accept_change_`, given what the rate and the downsampling
of the reader say. -/
def shouldAcceptChange (change : NetworkChange) (shouldAcceptSample : Bool) : Bool :=
  if participant.comeFromThisParticipant change then false else shouldAcceptSample

/-- The prefix under which the participant writes the topic, if it does. -/
def writerPrefix : Option GuidPrefix :=
  match createWriter participant.topic with
  | .blankWriter => none
  | .rpcSimpleWriter | .multiWriter => some participant.guidPrefix
  | .ddsSimpleWriter => some participant.ddsGuidPrefix

/-- The change that the writer of the participant makes of a change that has been
taken: a writer of the RTPS layer has a filter and, in a repeater, remembers who
wrote the change before. -/
def copyOf (change : NetworkChange) : Option NetworkChange :=
  let copied (writerGuid : GuidPrefix) : NetworkChange :=
    { change with
      domainId := participant.domainId
      writerGuid := writerGuid
      lastWriterGuidPrefix := none
      dataFilter := .none
      copies := change.copies + 1 }
  match createWriter participant.topic with
  | .blankWriter => none
  | .rpcSimpleWriter | .multiWriter =>
      some { copied participant.guidPrefix with
        lastWriterGuidPrefix := if participant.isRepeater then some change.writerGuid else none
        dataFilter :=
          if participant.isRepeater then .repeaterDataFilter else .selfDataFilter }
  | .ddsSimpleWriter => some (copied participant.ddsGuidPrefix)

end RtpsParticipant

section Copies

variable {Level : Type} {participant : RtpsParticipant Level} {change copy : NetworkChange}

/-- What a copy keeps of a change, and where it is written. -/
theorem copyOf_eq_some (made : participant.copyOf change = some copy) :
    copy.domainId = participant.domainId ∧ participant.writerPrefix = some copy.writerGuid ∧
      copy.sample = change.sample ∧ copy.origin = change.origin ∧
        copy.copies = change.copies + 1 := by
  unfold RtpsParticipant.copyOf at made
  unfold RtpsParticipant.writerPrefix
  cases kind : createWriter participant.topic with
  | blankWriter => simp [kind] at made
  | rpcSimpleWriter | multiWriter | ddsSimpleWriter =>
      simp only [kind, Option.some.injEq] at made
      rw [← made]
      exact ⟨rfl, rfl, rfl, rfl, rfl⟩

theorem exists_copyOf {writerGuid : GuidPrefix}
    (writes : participant.writerPrefix = some writerGuid) (change : NetworkChange) :
    ∃ copy, participant.copyOf change = some copy := by
  unfold RtpsParticipant.writerPrefix at writes
  unfold RtpsParticipant.copyOf
  cases kind : createWriter participant.topic with
  | blankWriter => simp [kind] at writes
  | rpcSimpleWriter | multiWriter | ddsSimpleWriter => exact ⟨_, rfl⟩

/-- The filters keep a copy from the readers of its writer's participant, and a
repeater's from those of the writer before. -/
theorem isRelevant_copyOf (made : participant.copyOf change = some copy) {readerGuid : Guid}
    (other : copy.writerGuid ≠ readerGuid.guidPrefix)
    (before : change.writerGuid ≠ readerGuid.guidPrefix) :
    copy.isRelevant readerGuid = true := by
  unfold RtpsParticipant.copyOf at made
  cases kind : createWriter participant.topic with
  | blankWriter => simp [kind] at made
  | rpcSimpleWriter | multiWriter =>
      simp only [kind, Option.some.injEq] at made
      subst made
      cases repeats : participant.isRepeater <;>
        simp_all [NetworkChange.isRelevant, RepeaterDataFilter.isRelevant,
          SelfDataFilter.isRelevant]
  | ddsSimpleWriter =>
      simp only [kind, Option.some.injEq] at made
      subst made
      rfl

/-- A repeater of the RTPS layer sends nothing back to who wrote it. -/
theorem isRelevant_copyOf_repeater (made : participant.copyOf change = some copy)
    (repeats : participant.isRepeater = true)
    (own : participant.writerPrefix = some participant.guidPrefix)
    (apart : participant.ddsGuidPrefix ≠ participant.guidPrefix) {readerGuid : Guid}
    (relevant : copy.isRelevant readerGuid = true) :
    change.writerGuid ≠ readerGuid.guidPrefix := by
  intro back
  unfold RtpsParticipant.copyOf at made
  unfold RtpsParticipant.writerPrefix at own
  cases kind : createWriter participant.topic with
  | blankWriter => simp [kind] at made
  | rpcSimpleWriter | multiWriter =>
      simp only [kind, Option.some.injEq] at made
      subst made
      simp [NetworkChange.isRelevant, RepeaterDataFilter.isRelevant, repeats, back] at relevant
  | ddsSimpleWriter => simp_all

/-- A copy remembers what the writer of the RTPS layer puts into a change for the
sample that was taken. -/
theorem lastWriterGuidPrefix_copyOf (made : participant.copyOf change = some copy)
    (own : createWriter participant.topic ≠ .ddsSimpleWriter) {writer : RtpsWriter}
    (same : writer.repeater = participant.isRepeater) {data : RtpsPayloadData}
    (taken : data.sourceGuid.guidPrefix = change.writerGuid) (getPayload : Option Payload)
    (params : WriteParams) :
    copy.lastWriterGuidPrefix =
      (writer.fillCommonToSendData getPayload {} params data).2.1.lastWriterGuidPrefix := by
  have filled : (writer.fillCommonToSendData getPayload {} params data).2.1.lastWriterGuidPrefix =
      if writer.repeater then some data.sourceGuid.guidPrefix else none := by
    unfold RtpsWriter.fillCommonToSendData
    cases writer.repeater <;> cases writer.keyed <;> cases getPayload <;>
      by_cases empty : data.payload.length > 0 <;> simp [empty]
  rw [filled, same, taken]
  unfold RtpsParticipant.copyOf at made
  cases kind : createWriter participant.topic with
  | blankWriter => simp [kind] at made
  | rpcSimpleWriter | multiWriter =>
      simp only [kind, Option.some.injEq] at made
      rw [← made]
  | ddsSimpleWriter => exact absurd kind own

end Copies

/-! ### A pipe on its networks -/

/-- The participants of a pipe, each with the topic as it is customized for it, and
the participants to which the samples of a participant are forwarded. -/
structure PipeOnNetwork (Participant Level : Type) where
  participant : Participant → RtpsParticipant Level
  forwards : Participant → Participant → Bool
  ddsGuidPrefix_ne : ∀ one other,
    (participant one).ddsGuidPrefix ≠ (participant other).guidPrefix

/-- `written` holds every change that has been written, and `handed` what has been
handed to a reader: positions in `written` with the guid of the reader. -/
structure NetworkState where
  written : List NetworkChange := []
  handed : List (Nat × Guid) := []
deriving DecidableEq, Repr

inductive NetworkStep (Participant : Type) where
  /-- A participant that is not of the pipe writes a sample. -/
  | publish (writerGuid : GuidPrefix)
  /-- A reader that is not of the pipe receives a change. -/
  | receive (position : Nat) (readerGuid : Guid)
  /-- A reader of the pipe is handed a change which, if it is accepted, is taken and
  written to the destinations whose writers take it. -/
  | forward (position : Nat) (reader : Participant) (shouldAcceptSample : Bool)
      (destinations : List Participant)

namespace PipeOnNetwork

variable {Participant Level : Type} (pipe : PipeOnNetwork Participant Level)

/-- The prefix is one of the participants of the pipe. -/
def OfPipe (guidPrefix : GuidPrefix) : Prop :=
  ∃ participant, guidPrefix = (pipe.participant participant).guidPrefix ∨
    guidPrefix = (pipe.participant participant).ddsGuidPrefix

instance [Fintype Participant] : DecidablePred pipe.OfPipe := fun _ =>
  Fintype.decidableExistsFintype

/-- What becomes of a change that is handed to the reader of a participant. -/
def forwarded (change : NetworkChange) (reader : Participant) (shouldAcceptSample : Bool)
    (destinations : List Participant) : List NetworkChange :=
  if (pipe.participant reader).shouldAcceptChange change shouldAcceptSample then
    destinations.filterMap fun destination => (pipe.participant destination).copyOf change
  else []

/-- A change is handed to a reader of its domain, once, if the filter of its writer
lets it. -/
def CanHand (state : NetworkState) (position : Nat) (change : NetworkChange) (domainId : Nat)
    (readerGuid : Guid) : Prop :=
  change.domainId = domainId ∧ (position, readerGuid) ∉ state.handed ∧
    change.isRelevant readerGuid = true

instance {state : NetworkState} {position : Nat} {change : NetworkChange} {domainId : Nat}
    {readerGuid : Guid} : Decidable (CanHand state position change domainId readerGuid) :=
  inferInstanceAs (Decidable (_ ∧ _))

section Steps

variable [Fintype Participant] [DecidableEq Participant]

/-- A step of the networks, on which the other participants are in the domains
`domainOf`. -/
def step (domainOf : GuidPrefix → Nat) (state : NetworkState) :
    NetworkStep Participant → Option NetworkState
  | .publish writerGuid =>
      if pipe.OfPipe writerGuid then none
      else some { state with
        written := state.written ++
          [NetworkChange.published domainOf state.written.length writerGuid] }
  | .receive position readerGuid =>
      state.written[position]?.bind fun change =>
        if ¬ pipe.OfPipe readerGuid.guidPrefix ∧
            CanHand state position change (domainOf readerGuid.guidPrefix) readerGuid then
          some { state with handed := state.handed ++ [(position, readerGuid)] }
        else none
  | .forward position reader shouldAcceptSample destinations =>
      let participant := pipe.participant reader
      state.written[position]?.bind fun change =>
        if participant.reads = true ∧
            CanHand state position change participant.domainId participant.readerGuid ∧
            destinations.Nodup ∧ ∀ destination ∈ destinations, pipe.forwards reader destination then
          some {
            written := state.written ++
              pipe.forwarded change reader shouldAcceptSample destinations
            handed := state.handed ++ [(position, participant.readerGuid)] }
        else none

def network (domainOf : GuidPrefix → Nat) : System NetworkState (NetworkStep Participant) where
  Initial state := state = {}
  step := pipe.step domainOf

variable {pipe} {domainOf : GuidPrefix → Nat} {state next : NetworkState}

/-- What a step can do. -/
theorem step_cases {label : NetworkStep Participant}
    (taken : pipe.step domainOf state label = some next) :
    (∃ writerGuid, ¬ pipe.OfPipe writerGuid ∧ next = { state with
        written := state.written ++
          [NetworkChange.published domainOf state.written.length writerGuid] }) ∨
    (∃ position change readerGuid, state.written[position]? = some change ∧
      ¬ pipe.OfPipe readerGuid.guidPrefix ∧
      CanHand state position change (domainOf readerGuid.guidPrefix) readerGuid ∧
      next = { state with handed := state.handed ++ [(position, readerGuid)] }) ∨
    (∃ position change reader shouldAcceptSample destinations,
      state.written[position]? = some change ∧ (pipe.participant reader).reads = true ∧
      CanHand state position change (pipe.participant reader).domainId
        (pipe.participant reader).readerGuid ∧
      destinations.Nodup ∧ (∀ destination ∈ destinations, pipe.forwards reader destination) ∧
      next = {
        written := state.written ++
          pipe.forwarded change reader shouldAcceptSample destinations
        handed := state.handed ++ [(position, (pipe.participant reader).readerGuid)] }) := by
  cases label with
  | publish writerGuid =>
      simp only [step] at taken
      split at taken
      · cases taken
      · next foreign =>
          cases taken
          exact .inl ⟨writerGuid, foreign, rfl⟩
  | receive position readerGuid =>
      obtain ⟨change, found, handed⟩ := Option.bind_eq_some_iff.mp taken
      split at handed
      · next able =>
          cases handed
          exact .inr (.inl ⟨position, change, readerGuid, found, able.1, able.2, rfl⟩)
      · cases handed
  | forward position reader shouldAcceptSample destinations =>
      obtain ⟨change, found, handed⟩ := Option.bind_eq_some_iff.mp taken
      split at handed
      · next able =>
          cases handed
          obtain ⟨reads, hands, distinct, routed⟩ := able
          exact .inr (.inr ⟨position, change, reader, shouldAcceptSample, destinations, found,
            reads, hands, distinct, routed, rfl⟩)
      · cases handed

theorem forward_eq_some {position : Nat} {change copy : NetworkChange}
    {reader destination : Participant} (found : state.written[position]? = some change)
    (reads : (pipe.participant reader).reads = true)
    (hands : CanHand state position change (pipe.participant reader).domainId
      (pipe.participant reader).readerGuid)
    (routed : pipe.forwards reader destination = true)
    (foreign : change.writerGuid ≠ (pipe.participant reader).guidPrefix)
    (made : (pipe.participant destination).copyOf change = some copy) :
    (pipe.network domainOf).step state (.forward position reader true [destination]) = some {
      written := state.written ++ [copy]
      handed := state.handed ++ [(position, (pipe.participant reader).readerGuid)] } := by
  have accepted : (pipe.participant reader).shouldAcceptChange change true = true := by
    simp [RtpsParticipant.shouldAcceptChange, RtpsParticipant.comeFromThisParticipant, foreign]
  simp only [network, step, found, Option.bind_some]
  rw [if_pos ⟨reads, hands, by simp, by simpa using routed⟩]
  simp [forwarded, accepted, made]

theorem publish_eq_some {writerGuid : GuidPrefix} (foreign : ¬ pipe.OfPipe writerGuid) :
    (pipe.network domainOf).step state (.publish writerGuid) = some { state with
      written := state.written ++
        [NetworkChange.published domainOf state.written.length writerGuid] } :=
  if_neg foreign

end Steps

/-! ### Forwarded once -/

/-- The samples that a participant forwards to another come back, from the network of
the latter, to a participant that forwards them again. -/
def Returns : Prop :=
  ∃ reader destination other next writerGuid,
    (pipe.participant reader).reads = true ∧ pipe.forwards reader destination = true ∧
      (pipe.participant destination).writerPrefix = some writerGuid ∧
      (pipe.participant other).reads = true ∧ pipe.forwards other next = true ∧
      (pipe.participant next).writerPrefix.isSome = true ∧
      (pipe.participant other).domainId = (pipe.participant destination).domainId ∧
      writerGuid ≠ (pipe.participant other).guidPrefix

/-- What a copy in the network tells of the pipe. -/
structure Copied (change : NetworkChange) : Prop where
  once : change.copies ≤ 1
  made : change.copies = 1 → ∃ reader destination,
    (pipe.participant reader).reads = true ∧ pipe.forwards reader destination = true ∧
      (pipe.participant destination).writerPrefix = some change.writerGuid ∧
      change.domainId = (pipe.participant destination).domainId

def AllCopied (state : NetworkState) : Prop :=
  ∀ change ∈ state.written, pipe.Copied change

variable {pipe} {domainOf : GuidPrefix → Nat} {state next : NetworkState}

theorem mem_forwarded {change copy : NetworkChange} {reader : Participant}
    {shouldAcceptSample : Bool} {destinations : List Participant}
    (member : copy ∈ pipe.forwarded change reader shouldAcceptSample destinations) :
    change.writerGuid ≠ (pipe.participant reader).guidPrefix ∧
      ∃ destination ∈ destinations,
        (pipe.participant destination).copyOf change = some copy := by
  unfold forwarded at member
  split at member
  · next accepted =>
      refine ⟨?_, List.mem_filterMap.mp member⟩
      intro own
      simp [RtpsParticipant.shouldAcceptChange, RtpsParticipant.comeFromThisParticipant, own]
        at accepted
  · cases member

/-- There is always a participant that is not of the pipe. -/
theorem exists_foreign [Fintype Participant] (pipe : PipeOnNetwork Participant Level) :
    ∃ guidPrefix, ¬ pipe.OfPipe guidPrefix := by
  have finite : (Set.range fun participant => (pipe.participant participant).guidPrefix).Finite :=
    Set.finite_range _
  have ddsFinite :
      (Set.range fun participant => (pipe.participant participant).ddsGuidPrefix).Finite :=
    Set.finite_range _
  obtain ⟨guidPrefix, apart⟩ := (finite.union ddsFinite).infinite_compl.nonempty
  refine ⟨guidPrefix, ?_⟩
  intro ofPipe
  obtain ⟨participant, rtps | dds⟩ := ofPipe
  · exact apart (.inl ⟨participant, rtps.symm⟩)
  · exact apart (.inr ⟨participant, dds.symm⟩)

theorem copied_forwarded (onlyOnce : ¬ pipe.Returns) {change copy : NetworkChange}
    {reader : Participant} {shouldAcceptSample : Bool} {destinations : List Participant}
    (before : pipe.Copied change) (reads : (pipe.participant reader).reads = true)
    (domain : change.domainId = (pipe.participant reader).domainId)
    (routed : ∀ destination ∈ destinations, pipe.forwards reader destination)
    (member : copy ∈ pipe.forwarded change reader shouldAcceptSample destinations) :
    pipe.Copied copy := by
  obtain ⟨foreign, destination, chosen, made⟩ := mem_forwarded member
  obtain ⟨copyDomain, writes, _, _, counted⟩ := copyOf_eq_some made
  have first : change.copies = 0 := by
    by_contra again
    have once := before.once
    obtain ⟨source, sender, sourceReads, sourceRouted, senderWrites, senderDomain⟩ :=
      before.made (by omega)
    apply onlyOnce
    exact ⟨source, sender, reader, destination, change.writerGuid, sourceReads, sourceRouted,
      senderWrites, reads, routed destination chosen, by rw [writes]; rfl,
      domain.symm.trans senderDomain, foreign⟩
  constructor
  · omega
  · intro _
    exact ⟨reader, destination, reads, routed destination chosen, writes, copyDomain⟩

section Runs

variable [Fintype Participant] [DecidableEq Participant]

/-- **A step** keeps what the copies tell, when no copy returns. -/
theorem copied_step (onlyOnce : ¬ pipe.Returns) {label : NetworkStep Participant}
    (before : pipe.AllCopied state) (taken : pipe.step domainOf state label = some next) :
    pipe.AllCopied next := by
  obtain ⟨writerGuid, _, rfl⟩ | ⟨_, _, _, _, _, _, rfl⟩ |
    ⟨position, change, reader, accepted, destinations, found, reads, hands, _, routed, rfl⟩ :=
      step_cases taken
  · intro change member
    rcases List.mem_append.mp member with old | new
    · exact before change old
    · rw [List.mem_singleton.mp new]
      exact ⟨Nat.zero_le 1, fun copied => absurd copied Nat.zero_ne_one⟩
  · exact before
  · intro copy member
    rcases List.mem_append.mp member with old | new
    · exact before copy old
    · exact copied_forwarded onlyOnce (before change (List.mem_of_getElem? found)) reads
        hands.1 routed new

/-- **A sample is forwarded once**, whatever the other participants do, exactly when
the samples that are forwarded do not return. -/
theorem forwardedOnce_iff :
    (∀ domainOf state, (pipe.network domainOf).Reachable anyStep state →
      ∀ change ∈ state.written, change.copies ≤ 1) ↔ ¬ pipe.Returns := by
  constructor
  · intro once returns
    obtain ⟨reader, destination, other, next, writerGuid, reads, routed, writes, otherReads,
      otherRouted, nextWrites, sameDomain, foreign⟩ := returns
    obtain ⟨remote, notOfPipe⟩ := pipe.exists_foreign
    have remote_ne : ∀ participant, remote ≠ (pipe.participant participant).guidPrefix :=
      fun participant same => notOfPipe ⟨participant, .inl same⟩
    obtain ⟨nextPrefix, nextWrites⟩ := Option.isSome_iff_exists.mp nextWrites
    let original : NetworkChange := {
      domainId := (pipe.participant reader).domainId
      writerGuid := remote
      sample := 0
      origin := remote }
    obtain ⟨copy, made⟩ := exists_copyOf writes original
    obtain ⟨second, madeAgain⟩ := exists_copyOf nextWrites copy
    obtain ⟨copyDomain, copyWrites, _, _, _⟩ := copyOf_eq_some made
    have copyPrefix : copy.writerGuid = writerGuid := Option.some.inj (copyWrites.symm.trans writes)
    have published : (pipe.network fun _ => (pipe.participant reader).domainId).Reachable anyStep
        { written := [original] } :=
      System.Reachable.next (System.Reachable.start rfl) trivial (publish_eq_some notOfPipe)
    have foundFirst : ({ written := [original] } : NetworkState).written[0]? = some original := rfl
    have forwarded := published.next trivial
      (forward_eq_some foundFirst reads ⟨rfl, by simp, rfl⟩ routed (remote_ne reader) made)
    have relevant : copy.isRelevant (pipe.participant other).readerGuid = true :=
      isRelevant_copyOf made (by rw [copyPrefix]; exact foreign) (remote_ne other)
    have foundSecond : ([original] ++ [copy])[1]? = some copy := rfl
    have again := forwarded.next trivial
      (forward_eq_some foundSecond otherReads
        ⟨copyDomain.trans sameDomain.symm, by simp, relevant⟩ otherRouted
        (by rw [copyPrefix]; exact foreign) madeAgain)
    have counted := once _ _ again second (by simp)
    have first := (copyOf_eq_some made).2.2.2.2
    have twice := (copyOf_eq_some madeAgain).2.2.2.2
    omega
  · intro onlyOnce domainOf state reached change member
    have copied : pipe.AllCopied state := by
      apply reached.invariant
      · intro start initial change member
        rw [show start = {} from initial] at member
        cases member
      · intro before label after invariant _ taken
        exact copied_step onlyOnce invariant taken
    exact (copied change member).once

/-! ### Forwarded for ever -/

/-- A change that a reader of the participant would accept, and has not been handed. -/
structure Waits (pipe : PipeOnNetwork Participant Level) (state : NetworkState)
    (change : NetworkChange) (reader : Participant) : Prop where
  last : state.written.getLast? = some change
  unhanded : ∀ entry ∈ state.handed, entry.1 + 1 < state.written.length
  domain : change.domainId = (pipe.participant reader).domainId
  unfiltered : change.dataFilter = .none
  foreign : ∀ participant, change.writerGuid ≠ (pipe.participant participant).guidPrefix

theorem waits_forward {change : NetworkChange} {reader destination : Participant}
    (waits : Waits pipe state change reader)
    (reads : (pipe.participant reader).reads = true)
    (routed : pipe.forwards reader destination = true)
    (dds : createWriter (pipe.participant destination).topic = .ddsSimpleWriter) :
    ∃ label next copy, (pipe.network domainOf).step state label = some next ∧
      Waits pipe next copy destination ∧ copy.copies = change.copies + 1 := by
  have nonempty : state.written ≠ [] := by
    intro empty
    have last := waits.last
    simp [empty] at last
  have length : state.written.length - 1 + 1 = state.written.length := by
    have positive := List.length_pos_iff.mpr nonempty
    omega
  have found : state.written[state.written.length - 1]? = some change := by
    rw [← List.getLast?_eq_getElem?]
    exact waits.last
  have unhanded : (state.written.length - 1, (pipe.participant reader).readerGuid) ∉
      state.handed := by
    intro handed
    have earlier := waits.unhanded _ handed
    dsimp only at earlier
    omega
  have relevant : change.isRelevant (pipe.participant reader).readerGuid = true := by
    simp [NetworkChange.isRelevant, waits.unfiltered]
  let copy : NetworkChange := { change with
    domainId := (pipe.participant destination).domainId
    writerGuid := (pipe.participant destination).ddsGuidPrefix
    lastWriterGuidPrefix := none
    dataFilter := .none
    copies := change.copies + 1 }
  have made : (pipe.participant destination).copyOf change = some copy := by
    simp only [RtpsParticipant.copyOf, dds, copy]
  refine ⟨_, _, copy, forward_eq_some found reads ⟨waits.domain, unhanded, relevant⟩ routed
    (waits.foreign reader) made, ?_, rfl⟩
  constructor
  · simp
  · intro entry member
    rw [List.length_append, List.length_singleton]
    rcases List.mem_append.mp member with old | new
    · have earlier := waits.unhanded entry old
      omega
    · rw [List.mem_singleton.mp new]
      omega
  · rfl
  · rfl
  · intro participant
    exact pipe.ddsGuidPrefix_ne destination participant

/-- **Participants with writers of the DDS layer** that all forward to one another
forward one sample as often as one likes. -/
theorem forwardedForever (pipe : PipeOnNetwork Participant Level) {among : Set Participant}
    (nonempty : among.Nonempty)
    (dds : ∀ participant ∈ among,
      createWriter (pipe.participant participant).topic = .ddsSimpleWriter)
    (routed : ∀ reader ∈ among, ∃ destination ∈ among, pipe.forwards reader destination = true) :
    ∃ domainOf, ∀ times, ∃ state, (pipe.network domainOf).Reachable anyStep state ∧
      ∃ change ∈ state.written, change.copies = times := by
  obtain ⟨first, chosen⟩ := nonempty
  obtain ⟨remote, notOfPipe⟩ := pipe.exists_foreign
  have reads : ∀ participant ∈ among, (pipe.participant participant).reads = true := by
    intro participant member
    unfold RtpsParticipant.reads
    rw [bne_iff_ne]
    intro blank
    have writes := createReader_eq_blank_iff.mp blank
    rw [dds participant member] at writes
    cases writes
  refine ⟨fun _ => (pipe.participant first).domainId, ?_⟩
  have waiting : ∀ times, ∃ state reader change,
      (pipe.network fun _ => (pipe.participant first).domainId).Reachable anyStep state ∧
        reader ∈ among ∧ Waits pipe state change reader ∧ change.copies = times := by
    intro times
    induction times with
    | zero =>
        refine ⟨_, first, _, System.Reachable.next (System.Reachable.start rfl) trivial
          (publish_eq_some notOfPipe), chosen, ⟨rfl, by simp, rfl, rfl, ?_⟩, rfl⟩
        intro participant same
        exact notOfPipe ⟨participant, .inl same⟩
    | succ times inductionHypothesis =>
        obtain ⟨state, reader, change, reached, member, waits, counted⟩ := inductionHypothesis
        obtain ⟨destination, there, leads⟩ := routed reader member
        obtain ⟨label, next, copy, taken, again, more⟩ :=
          waits_forward waits (reads reader member) leads (dds destination there)
        exact ⟨next, destination, copy, reached.next trivial taken, there, again, by omega⟩
  intro times
  obtain ⟨state, reader, change, reached, _, waits, counted⟩ := waiting times
  exact ⟨state, reached, change, List.mem_of_getLast? waits.last, counted⟩

end Runs

/-- A topic that two participants forward to each other, with partitions or not. -/
def twoSided (usePartitions : Bool) : PipeOnNetwork Bool FuzzyLevelValues where
  participant side := {
    id := if side then "b" else "a"
    guidPrefix := if side then 3 else 1
    ddsGuidPrefix := if side then 4 else 2
    domainId := if side then 1 else 0
    topic := some {
      topic := { topicName := "chatter", typeName := "String" }
      topicQos := {
        durabilityQos := ⟨.volatile, .fuzzyLevelDefault⟩
        reliabilityQos := ⟨.bestEffort, .fuzzyLevelDefault⟩
        ownershipQos := ⟨.sharedOwnershipQos, .fuzzyLevelDefault⟩
        usePartitions := ⟨usePartitions, .fuzzyLevelSet⟩
        keyed := ⟨false, .fuzzyLevelDefault⟩
        historyDepth := ⟨5000, .fuzzyLevelDefault⟩
        maxTxRate := ⟨0, .fuzzyLevelDefault⟩
        maxRxRate := ⟨0, .fuzzyLevelDefault⟩
        downsampling := ⟨1, .fuzzyLevelDefault⟩ } } }
  forwards reader destination := reader != destination
  ddsGuidPrefix_ne one other := by
    cases one <;> cases other <;> simp

/-- Without partitions a sample goes back and forth. -/
theorem forwardedForever_twoSided :
    ∃ domainOf, ∀ times, ∃ state,
      ((twoSided false).network domainOf).Reachable anyStep state ∧
        ∃ change ∈ state.written, change.copies = times :=
  @forwardedForever Bool FuzzyLevelValues _ _ (twoSided false) Set.univ ⟨true, trivial⟩
    (fun _ _ => rfl) (fun reader _ => ⟨!reader, trivial, by cases reader <;> rfl⟩)

/-! ### No echo -/

/-- Each participant has a domain of its own and no writer of the DDS layer, and only
repeaters forward to themselves. -/
structure Separate (pipe : PipeOnNetwork Participant Level) : Prop where
  domains : ∀ one other,
    (pipe.participant one).domainId = (pipe.participant other).domainId → one = other
  rtpsWriters : ∀ participant,
    createWriter (pipe.participant participant).topic ≠ .ddsSimpleWriter
  repeaters : ∀ participant, pipe.forwards participant participant = true →
    (pipe.participant participant).isRepeater = true

theorem Separate.own (separate : Separate pipe) {participant : Participant}
    {writerGuid : GuidPrefix}
    (writes : (pipe.participant participant).writerPrefix = some writerGuid) :
    writerGuid = (pipe.participant participant).guidPrefix := by
  unfold RtpsParticipant.writerPrefix at writes
  cases kind : createWriter (pipe.participant participant).topic with
  | blankWriter => simp [kind] at writes
  | rpcSimpleWriter | multiWriter =>
      simp only [kind, Option.some.injEq] at writes
      exact writes.symm
  | ddsSimpleWriter => exact absurd kind (separate.rtpsWriters participant)

/-- A separate pipe forwards each sample once. -/
theorem not_returns_of_separate (separate : Separate pipe) : ¬ pipe.Returns := by
  intro returns
  obtain ⟨_, destination, other, _, writerGuid, _, _, writes, _, _, _, domain, foreign⟩ := returns
  rw [separate.domains other destination domain] at foreign
  exact foreign (separate.own writes)

/-- A change that another participant has written, at this position. -/
structure Original (pipe : PipeOnNetwork Participant Level) (domainOf : GuidPrefix → Nat)
    (position : Nat) (change : NetworkChange) : Prop where
  sample : change.sample = position
  origin : change.origin = change.writerGuid
  foreign : ¬ pipe.OfPipe change.writerGuid
  domain : change.domainId = domainOf change.writerGuid

/-- A copy, with the participants that have taken and written it. -/
structure CopyBy (pipe : PipeOnNetwork Participant Level) (state : NetworkState)
    (change original : NetworkChange) (reader destination : Participant) : Prop where
  routed : pipe.forwards reader destination = true
  found : state.written[change.sample]? = some original
  first : original.copies = 0
  made : (pipe.participant destination).copyOf original = some change
  domain : original.domainId = (pipe.participant reader).domainId
  handed : (change.sample, (pipe.participant reader).readerGuid) ∈ state.handed

/-- What is written and handed in a run of a separate pipe. -/
structure Traced (pipe : PipeOnNetwork Participant Level) (domainOf : GuidPrefix → Nat)
    (state : NetworkState) : Prop where
  original : ∀ position change, state.written[position]? = some change → change.copies = 0 →
    Original pipe domainOf position change
  copied : ∀ change ∈ state.written, change.copies ≠ 0 →
    ∃ original reader destination, CopyBy pipe state change original reader destination
  distinct : ∀ (position other : Nat) (one two : NetworkChange),
    state.written[position]? = some one → state.written[other]? = some two →
      one.copies ≠ 0 → two.copies ≠ 0 →
        one.sample = two.sample → one.domainId = two.domainId → position = other
  handed : ∀ entry ∈ state.handed, ∃ change, state.written[entry.1]? = some change ∧
    change.isRelevant entry.2 = true ∧
      (¬ pipe.OfPipe entry.2.guidPrefix → change.domainId = domainOf entry.2.guidPrefix)
  nodup : state.handed.Nodup

/-- No reader outside the pipe receives two copies of a sample, nor a copy of what its
own participant has written, and none is handed a change twice. -/
structure NoEcho (pipe : PipeOnNetwork Participant Level) (state : NetworkState) : Prop where
  once : ∀ readerGuid, ¬ pipe.OfPipe readerGuid.guidPrefix →
    ∀ (position other : Nat) (one two : NetworkChange),
      (position, readerGuid) ∈ state.handed → (other, readerGuid) ∈ state.handed →
      state.written[position]? = some one → state.written[other]? = some two →
        one.copies ≠ 0 → two.copies ≠ 0 → one.sample = two.sample → position = other
  notBack : ∀ readerGuid, ¬ pipe.OfPipe readerGuid.guidPrefix →
    ∀ (position : Nat) (change : NetworkChange),
      (position, readerGuid) ∈ state.handed → state.written[position]? = some change →
        change.copies ≠ 0 → change.origin ≠ readerGuid.guidPrefix
  nodup : state.handed.Nodup

theorem CopyBy.append {change original : NetworkChange} {reader destination : Participant}
    (copied : CopyBy pipe state change original reader destination)
    (more : List NetworkChange) (handed : List (Nat × Guid)) :
    CopyBy pipe { written := state.written ++ more, handed := state.handed ++ handed }
      change original reader destination := by
  obtain ⟨inside, _⟩ := List.getElem?_eq_some_iff.mp copied.found
  have kept : (state.written ++ more)[change.sample]? = some original := by
    rw [List.getElem?_append_left inside]
    exact copied.found
  exact ⟨copied.routed, kept, copied.first, copied.made, copied.domain,
    List.mem_append_left _ copied.handed⟩

/-- A copy that waits at a reader of the pipe is refused. -/
theorem first_of_accepted (separate : Separate pipe) (traced : Traced pipe domainOf state)
    {change : NetworkChange} {reader : Participant} (member : change ∈ state.written)
    (domain : change.domainId = (pipe.participant reader).domainId)
    (foreign : change.writerGuid ≠ (pipe.participant reader).guidPrefix) : change.copies = 0 := by
  by_contra again
  obtain ⟨original, _, destination, copied⟩ := traced.copied change member again
  obtain ⟨copyDomain, writes, _⟩ := copyOf_eq_some copied.made
  have same : reader = destination :=
    separate.domains reader destination (domain.symm.trans copyDomain)
  apply foreign
  rw [same]
  exact separate.own writes

/-- The reader that has taken a sample is the only one of its domain. -/
theorem handed_of_copy (separate : Separate pipe) (traced : Traced pipe domainOf state)
    {position : Nat} {change copy : NetworkChange} {reader : Participant}
    (found : state.written[position]? = some change)
    (domain : change.domainId = (pipe.participant reader).domainId)
    (member : copy ∈ state.written) (again : copy.copies ≠ 0) (same : copy.sample = position) :
    (position, (pipe.participant reader).readerGuid) ∈ state.handed := by
  obtain ⟨original, other, destination, copied⟩ := traced.copied copy member again
  have equal : original = change := by
    have there := copied.found
    rw [same, found] at there
    exact (Option.some.inj there).symm
  have readers : other = reader := by
    apply separate.domains
    rw [← copied.domain, equal, domain]
  have handed := copied.handed
  rw [same, readers] at handed
  exact handed

theorem getElem?_append_cases {Item : Type} {items more : List Item} {position : Nat} {item : Item}
    (found : (items ++ more)[position]? = some item) :
    items[position]? = some item ∨
      items.length ≤ position ∧ more[position - items.length]? = some item := by
  rcases Nat.lt_or_ge position items.length with inside | beyond
  · rw [List.getElem?_append_left inside] at found
    exact .inl found
  · rw [List.getElem?_append_right beyond] at found
    exact .inr ⟨beyond, found⟩

theorem Traced.handed_append (traced : Traced pipe domainOf state) (more : List NetworkChange)
    {position : Nat} {change : NetworkChange} {readerGuid : Guid}
    (found : state.written[position]? = some change)
    (relevant : change.isRelevant readerGuid = true)
    (domain : ¬ pipe.OfPipe readerGuid.guidPrefix →
      change.domainId = domainOf readerGuid.guidPrefix) :
    ∀ entry ∈ state.handed ++ [(position, readerGuid)],
      ∃ change, (state.written ++ more)[entry.1]? = some change ∧
        change.isRelevant entry.2 = true ∧
          (¬ pipe.OfPipe entry.2.guidPrefix → change.domainId = domainOf entry.2.guidPrefix) := by
  have kept : ∀ (position : Nat) (change : NetworkChange), state.written[position]? = some change →
      (state.written ++ more)[position]? = some change := by
    intro position change found
    obtain ⟨inside, _⟩ := List.getElem?_eq_some_iff.mp found
    rw [List.getElem?_append_left inside]
    exact found
  intro entry member
  rcases List.mem_append.mp member with old | new
  · obtain ⟨change, there, rest⟩ := traced.handed entry old
    exact ⟨change, kept _ _ there, rest⟩
  · rw [List.mem_singleton.mp new]
    exact ⟨change, kept _ _ found, relevant, domain⟩

theorem nodup_handed_append {position : Nat} {readerGuid : Guid} (nodup : state.handed.Nodup)
    (fresh : (position, readerGuid) ∉ state.handed) :
    (state.handed ++ [(position, readerGuid)]).Nodup := by
  rw [List.nodup_append]
  refine ⟨nodup, List.nodup_singleton _, ?_⟩
  intro entry old other new same
  rw [List.mem_singleton.mp new] at same
  exact fresh (same ▸ old)

theorem traced_receive (traced : Traced pipe domainOf state) {position : Nat}
    {change : NetworkChange} {readerGuid : Guid} (found : state.written[position]? = some change)
    (hands : CanHand state position change (domainOf readerGuid.guidPrefix) readerGuid) :
    Traced pipe domainOf { state with handed := state.handed ++ [(position, readerGuid)] } := by
  constructor
  · exact traced.original
  · intro copy member again
    obtain ⟨original, reader, destination, copied⟩ := traced.copied copy member again
    have appended := copied.append [] [(position, readerGuid)]
    rw [List.append_nil] at appended
    exact ⟨original, reader, destination, appended⟩
  · exact traced.distinct
  · have handed := traced.handed_append [] found hands.2.2 fun _ => hands.1
    rw [List.append_nil] at handed
    exact handed
  · exact nodup_handed_append traced.nodup hands.2.1

theorem traced_publish (traced : Traced pipe domainOf state) {writerGuid : GuidPrefix}
    (foreign : ¬ pipe.OfPipe writerGuid) :
    Traced pipe domainOf { state with
      written := state.written ++
        [NetworkChange.published domainOf state.written.length writerGuid] } := by
  constructor
  · intro position change found first
    rcases getElem?_append_cases found with old | ⟨beyond, new⟩
    · exact traced.original position change old first
    · rw [List.getElem?_singleton] at new
      split at new
      · next here =>
          cases new
          exact ⟨(by omega : state.written.length = position), rfl, foreign, rfl⟩
      · cases new
  · intro copy member again
    rcases List.mem_append.mp member with old | new
    · obtain ⟨original, reader, destination, copied⟩ := traced.copied copy old again
      have appended :=
        copied.append [NetworkChange.published domainOf state.written.length writerGuid] []
      rw [List.append_nil] at appended
      exact ⟨original, reader, destination, appended⟩
    · rw [List.mem_singleton.mp new] at again
      exact absurd rfl again
  · intro position other one two foundOne foundTwo againOne againTwo sample domain
    have old : ∀ (position : Nat) (change : NetworkChange), (state.written ++
        [NetworkChange.published domainOf state.written.length writerGuid])[position]? =
          some change →
        change.copies ≠ 0 → state.written[position]? = some change := by
      intro position change found again
      rcases getElem?_append_cases found with old | ⟨_, new⟩
      · exact old
      · have there := List.mem_of_getElem? new
        rw [List.mem_singleton.mp there] at again
        exact absurd rfl again
    exact traced.distinct position other one two (old _ _ foundOne againOne)
      (old _ _ foundTwo againTwo) againOne againTwo sample domain
  · intro entry member
    obtain ⟨change, there, rest⟩ := traced.handed entry member
    obtain ⟨inside, _⟩ := List.getElem?_eq_some_iff.mp there
    refine ⟨change, ?_, rest⟩
    rw [List.getElem?_append_left inside]
    exact there
  · exact traced.nodup

/-- The copies that are made of a change differ in their domains. -/
theorem eq_of_forwarded (separate : Separate pipe) {change one two : NetworkChange}
    {reader : Participant} {shouldAcceptSample : Bool} {destinations : List Participant}
    (distinct : destinations.Nodup) {position other : Nat}
    (foundOne : (pipe.forwarded change reader shouldAcceptSample destinations)[position]? =
      some one)
    (foundTwo : (pipe.forwarded change reader shouldAcceptSample destinations)[other]? = some two)
    (domain : one.domainId = two.domainId) : position = other := by
  have domains : (pipe.forwarded change reader shouldAcceptSample destinations).Pairwise
      fun one two => one.domainId ≠ two.domainId := by
    unfold forwarded
    split
    · rw [List.pairwise_filterMap]
      apply distinct.imp
      intro first second different one madeOne two madeTwo same
      apply different
      apply separate.domains
      rw [← (copyOf_eq_some madeOne).1, ← (copyOf_eq_some madeTwo).1, same]
    · exact List.Pairwise.nil
  obtain ⟨insideOne, rfl⟩ := List.getElem?_eq_some_iff.mp foundOne
  obtain ⟨insideTwo, rfl⟩ := List.getElem?_eq_some_iff.mp foundTwo
  have apart := List.pairwise_iff_getElem.mp domains
  rcases Nat.lt_trichotomy position other with less | same | more
  · exact absurd domain (apart position other insideOne insideTwo less)
  · exact same
  · exact absurd domain.symm (apart other position insideTwo insideOne more)

theorem traced_forward (separate : Separate pipe) (traced : Traced pipe domainOf state)
    {position : Nat} {change : NetworkChange} {reader : Participant} {shouldAcceptSample : Bool}
    {destinations : List Participant} (found : state.written[position]? = some change)
    (hands : CanHand state position change (pipe.participant reader).domainId
      (pipe.participant reader).readerGuid)
    (distinct : destinations.Nodup)
    (routed : ∀ destination ∈ destinations, pipe.forwards reader destination) :
    Traced pipe domainOf {
      written := state.written ++ pipe.forwarded change reader shouldAcceptSample destinations
      handed := state.handed ++ [(position, (pipe.participant reader).readerGuid)] } := by
  have written := List.mem_of_getElem? found
  -- What is accepted has been written by another participant.
  have fresh : ∀ copy ∈ pipe.forwarded change reader shouldAcceptSample destinations,
      change.copies = 0 ∧ copy.copies = 1 ∧ copy.sample = position := by
    intro copy member
    obtain ⟨foreign, destination, _, made⟩ := mem_forwarded member
    have first := first_of_accepted separate traced written hands.1 foreign
    obtain ⟨_, _, sample, _, counted⟩ := copyOf_eq_some made
    exact ⟨first, by omega, sample.trans (traced.original position change found first).sample⟩
  -- No copy of it has been made before.
  have unmade : ∀ copy ∈ state.written, copy.copies ≠ 0 → copy.sample ≠ position := by
    intro copy member again same
    exact hands.2.1 (handed_of_copy separate traced found hands.1 member again same)
  constructor
  · intro place copy there first
    rcases getElem?_append_cases there with old | ⟨_, new⟩
    · exact traced.original place copy old first
    · have made := (fresh copy (List.mem_of_getElem? new)).2.1
      omega
  · intro copy member again
    rcases List.mem_append.mp member with old | new
    · obtain ⟨original, source, destination, copied⟩ := traced.copied copy old again
      exact ⟨original, source, destination, copied.append _ _⟩
    · obtain ⟨_, destination, chosen, made⟩ := mem_forwarded new
      obtain ⟨first, _, sample⟩ := fresh copy new
      obtain ⟨inside, _⟩ := List.getElem?_eq_some_iff.mp found
      refine ⟨change, reader, destination, routed destination chosen, ?_, first, made, hands.1, ?_⟩
      · rw [sample, List.getElem?_append_left inside]
        exact found
      · rw [sample]
        exact List.mem_append_right _ List.mem_cons_self
  · intro place other one two foundOne foundTwo againOne againTwo sample domain
    rcases getElem?_append_cases foundOne with oldOne | ⟨beyondOne, newOne⟩ <;>
      rcases getElem?_append_cases foundTwo with oldTwo | ⟨beyondTwo, newTwo⟩
    · exact traced.distinct place other one two oldOne oldTwo againOne againTwo sample domain
    · have made := fresh two (List.mem_of_getElem? newTwo)
      exact absurd (sample.trans made.2.2) (unmade one (List.mem_of_getElem? oldOne) againOne)
    · have made := fresh one (List.mem_of_getElem? newOne)
      exact absurd (sample.symm.trans made.2.2)
        (unmade two (List.mem_of_getElem? oldTwo) againTwo)
    · have same := eq_of_forwarded separate distinct newOne newTwo domain
      omega
  · apply traced.handed_append _ found hands.2.2
    intro foreign
    exact absurd ⟨reader, .inl rfl⟩ foreign
  · exact nodup_handed_append traced.nodup hands.2.1

theorem traced_initial : Traced pipe domainOf {} :=
  ⟨by simp, by simp, by simp, by simp, by simp⟩

theorem Traced.noEcho (separate : Separate pipe) (traced : Traced pipe domainOf state) :
    NoEcho pipe state := by
  constructor
  · intro readerGuid foreign position other one two handedOne handedTwo foundOne foundTwo
      againOne againTwo sample
    obtain ⟨_, thereOne, _, domainOne⟩ := traced.handed _ handedOne
    obtain ⟨_, thereTwo, _, domainTwo⟩ := traced.handed _ handedTwo
    cases foundOne.symm.trans thereOne
    cases foundTwo.symm.trans thereTwo
    exact traced.distinct position other one two foundOne foundTwo againOne againTwo sample
      ((domainOne foreign).trans (domainTwo foreign).symm)
  · intro readerGuid foreign position change handed found again back
    obtain ⟨_, there, relevant, domain⟩ := traced.handed _ handed
    cases found.symm.trans there
    obtain ⟨original, reader, destination, copied⟩ :=
      traced.copied change (List.mem_of_getElem? found) again
    obtain ⟨copyDomain, writes, _, origin, _⟩ := copyOf_eq_some copied.made
    have first := traced.original _ original copied.found copied.first
    have wroteIt : original.writerGuid = readerGuid.guidPrefix := by
      rw [← first.origin, ← origin, back]
    -- The writer is in the domain of the reader and of the destination.
    have same : reader = destination := by
      apply separate.domains
      rw [← copied.domain, first.domain, wroteIt, ← domain foreign, copyDomain]
    have repeats := separate.repeaters destination (same ▸ copied.routed)
    have own : (pipe.participant destination).writerPrefix =
        some (pipe.participant destination).guidPrefix := by
      rw [writes, separate.own writes]
    exact isRelevant_copyOf_repeater copied.made repeats own
      (pipe.ddsGuidPrefix_ne destination destination) relevant wroteIt
  · exact traced.nodup

section Runs

variable [Fintype Participant] [DecidableEq Participant]

theorem traced_step (separate : Separate pipe) {label : NetworkStep Participant}
    (traced : Traced pipe domainOf state) (taken : pipe.step domainOf state label = some next) :
    Traced pipe domainOf next := by
  obtain ⟨writerGuid, foreign, rfl⟩ | ⟨_, _, _, found, _, hands, rfl⟩ |
    ⟨_, _, _, _, _, found, _, hands, distinct, routed, rfl⟩ := step_cases taken
  · exact traced_publish traced foreign
  · exact traced_receive traced found hands
  · exact traced_forward separate traced found hands distinct routed

/-- **Nobody hears an echo** of a separate pipe, in any run. -/
theorem noEcho_of_reachable (separate : Separate pipe)
    (reached : (pipe.network domainOf).Reachable anyStep state) : NoEcho pipe state := by
  have traced : Traced pipe domainOf state := by
    apply reached.invariant
    · intro start initial
      rw [show start = {} from initial]
      exact traced_initial
    · intro before label after invariant _ taken
      exact traced_step separate invariant taken
  exact traced.noEcho separate

end Runs

theorem separate_twoSided : Separate (twoSided true) where
  domains := by decide
  rtpsWriters := by decide
  repeaters participant back := by
    cases participant <;> cases back

/-- A copy reaches a participant on the other side. -/
theorem noEcho_of_reachable_twoSided :
    ∃ state, NoEcho (twoSided true) state ∧ state.handed.length = 2 := by
  obtain ⟨state, reached, test⟩ := System.exists_reachable_of_run
    ((twoSided true).network fun guidPrefix => guidPrefix % 2) {}
    [.publish 10, .forward 0 false true [true], .receive 1 ⟨11, 0⟩]
    (fun state => decide (state.handed.length = 2)) (fun _ _ _ => trivial) rfl (by decide +kernel)
  exact ⟨state, noEcho_of_reachable separate_twoSided reached, of_decide_eq_true test⟩

end PipeOnNetwork

end DdsPipe.Participants
