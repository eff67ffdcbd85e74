import DdsPipe.Communication.ServiceRegistry
import DdsPipe.Participants.RateLimit
import DdsPipe.Participants.SpecificQos

/-!
Owns a write of the RTPS writers: the change that is obtained for the sample, how it
is filled by `CommonWriter` and by the `SimpleWriter` of services, the history to
which it is added, and which of the changes obtained are given back.

A write whose payload cannot be allocated leaves a change behind in the one writer,
and is sent without a payload by the other (`writesCleanly_iff`).

Does not own: what the writer of the RTPS library sends from its history.
-/

namespace DdsPipe.Participants

open DdsPipe.Types
open DdsPipe.Communication (SampleIdentity SequenceNumber)

/-! ### Samples and changes -/

structure WriteParams where
  sourceTimestamp : Nat := 0
  sampleIdentity : SampleIdentity := {}
  relatedSampleIdentity : SampleIdentity := {}
deriving DecidableEq, Repr

/-- A sample of a service. `CommonWriter` looks at no more than what any sample
has. -/
structure RpcPayloadData extends RtpsPayloadData where
  writeParams : Option WriteParams := none
  originSequenceNumber : SequenceNumber := 0
  sentSequenceNumber : SequenceNumber := 0
deriving DecidableEq, Repr

/-- A change in the history of a writer. -/
structure WriterChange where
  kind : ChangeKind := .alive
  instanceHandle : Nat := 0
  serializedPayload : Payload := []
  /-- Only the changes of a repeater have one. -/
  lastWriterGuidPrefix : Option GuidPrefix := none
  sequenceNumber : SequenceNumber := 0
deriving DecidableEq, Repr

/-- The class of a writer, by which the hooks are chosen. -/
inductive WriterClass where
  | commonWriter
  | rpcSimpleWriter
deriving DecidableEq, Repr

/-- `historyDepth` is zero where there is no limit, and `removesReceived` tells
whether the reliability is best effort or the durability is volatile. `obtained` and
`givenBack` count the changes, and are proof data. -/
structure RtpsWriter where
  writerClass : WriterClass
  base : BaseWriter
  guid : Guid := ⟨0, 0⟩
  keyed : Bool := false
  repeater : Bool := false
  removesReceived : Bool := true
  historyDepth : Nat := 0
  history : List WriterChange := []
  lastSequenceNumber : SequenceNumber := 0
  obtained : Nat := 0
  givenBack : Nat := 0

/-- A sample to write, and what the write meets outside the writer: the time,
whether `new_change` returns a change, the payload that the pool makes of the one of
the sample, if any, and whether `add_change` finds the change received by all. -/
structure WriteCall where
  data : RpcPayloadData
  now : Int := 0
  newChange : Bool := true
  getPayload : Option Payload
  receivedByAll : Bool := false
deriving DecidableEq, Repr

inductive RtpsWriterCall where
  | enable
  | disable
  | write (call : WriteCall)
  /-- A change in the history has been received by all readers. -/
  | receivedByAll (sequenceNumber : SequenceNumber)
deriving DecidableEq, Repr

namespace RtpsWriter

/-! ### The history -/

def isFull (writer : RtpsWriter) : Bool :=
  0 < writer.historyDepth && writer.history.length == writer.historyDepth

def removeMinChange (writer : RtpsWriter) : RtpsWriter :=
  match writer.history with
  | [] => writer
  | _ :: rest => { writer with history := rest, givenBack := writer.givenBack + 1 }

/-- `CommonWriter::onWriterChangeReceivedByAll`. -/
def onWriterChangeReceivedByAll (writer : RtpsWriter) (sequenceNumber : SequenceNumber) :
    RtpsWriter :=
  let received := fun change : WriterChange => change.sequenceNumber == sequenceNumber
  if writer.removesReceived && writer.history.any received then
    { writer with
      history := writer.history.eraseP received
      givenBack := writer.givenBack + 1 }
  else writer

/-- The change is added under the next sequence number, which the parameters carry
back. -/
def addChange (writer : RtpsWriter) (change : WriterChange) (params : WriteParams)
    (receivedByAll : Bool) : RtpsWriter × WriteParams :=
  let sequenceNumber := writer.lastSequenceNumber + 1
  let added := { writer with
    history := writer.history ++ [{ change with sequenceNumber := sequenceNumber }]
    lastSequenceNumber := sequenceNumber }
  let sent := { params with sampleIdentity := ⟨writer.guid, sequenceNumber⟩ }
  (if receivedByAll then added.onWriterChangeReceivedByAll sequenceNumber else added, sent)

/-! ### The hooks -/

/-- `CommonWriter::fill_to_send_data_`. -/
def fillCommonToSendData (writer : RtpsWriter) (getPayload : Option Payload)
    (change : WriterChange) (params : WriteParams) (data : RtpsPayloadData) :
    ReturnCode × WriterChange × WriteParams :=
  let change :=
    if writer.repeater then { change with lastWriterGuidPrefix := some data.sourceGuid.guidPrefix }
    else change
  let change :=
    if writer.keyed then { change with instanceHandle := data.instanceHandle } else change
  if data.payload.length > 0 then
    match getPayload with
    | none => (.error, change, params)
    | some payload =>
        (.ok, { change with serializedPayload := payload, kind := data.kind },
          { params with sourceTimestamp := data.sourceTimestamp })
  else (.ok, { change with kind := data.kind },
    { params with sourceTimestamp := data.sourceTimestamp })

/-- `SimpleWriter::fill_to_send_data_`, which drops what the hook of the base class
returns. -/
def fillSimpleToSendData (writer : RtpsWriter) (getPayload : Option Payload)
    (change : WriterChange) (params : WriteParams) (data : RpcPayloadData) :
    ReturnCode × WriterChange × WriteParams :=
  let (_, change, params) :=
    writer.fillCommonToSendData getPayload change params data.toRtpsPayloadData
  let params := match data.writeParams with
    | some received => { params with relatedSampleIdentity := received.relatedSampleIdentity }
    | none => params
  (.ok, change, params)

def fillToSendData (writer : RtpsWriter) (getPayload : Option Payload) (change : WriterChange)
    (params : WriteParams) (data : RpcPayloadData) : ReturnCode × WriterChange × WriteParams :=
  match writer.writerClass with
  | .commonWriter => writer.fillCommonToSendData getPayload change params data.toRtpsPayloadData
  | .rpcSimpleWriter => writer.fillSimpleToSendData getPayload change params data

def fillSentData (writer : RtpsWriter) (params : WriteParams) (data : RpcPayloadData) :
    RpcPayloadData :=
  match writer.writerClass with
  | .commonWriter => data
  | .rpcSimpleWriter => { data with sentSequenceNumber := params.sampleIdentity.sequenceNumber }

/-! ### Writes -/

/-- The change that is obtained is lost if it cannot be filled. -/
def writeNts (writer : RtpsWriter) (call : WriteCall) :
    ReturnCode × RtpsWriter × RpcPayloadData :=
  if !call.newChange then (.error, writer, call.data)
  else
    let writer := { writer with obtained := writer.obtained + 1 }
    let newChange : WriterChange := {
      kind := call.data.kind
      instanceHandle := if writer.keyed then call.data.instanceHandle else 0 }
    let (code, change, params) := writer.fillToSendData call.getPayload newChange {} call.data
    if code ≠ .ok then (code, writer, call.data)
    else
      let writer := if writer.isFull then writer.removeMinChange else writer
      let (writer, params) := writer.addChange change params call.receivedByAll
      (.ok, writer, writer.fillSentData params call.data)

def write (writer : RtpsWriter) (call : WriteCall) : ReturnCode × RtpsWriter × RpcPayloadData :=
  if !writer.base.enabled then (.notEnabled, writer, call.data)
  else
    let (sends, base) := writer.base.shouldSendSample call.now
    let writer := { writer with base := base }
    if sends then writer.writeNts call else (.ok, writer, call.data)

def call (writer : RtpsWriter) : RtpsWriterCall → RtpsWriter
  | .enable => { writer with base := { writer.base with enabled := true } }
  | .disable => { writer with base := { writer.base with enabled := false } }
  | .write call => (writer.write call).2.1
  | .receivedByAll sequenceNumber => writer.onWriterChangeReceivedByAll sequenceNumber

def callAll (writer : RtpsWriter) (calls : List RtpsWriterCall) : RtpsWriter :=
  calls.foldl call writer

/-! ### Failed allocations -/

/-- A change is obtained for a sample with a payload, and the pool makes none of
that payload. -/
def AllocationFails (writer : RtpsWriter) (call : WriteCall) : Prop :=
  (writer.base.write call.now).1 = true ∧ call.newChange = true ∧
    0 < call.data.payload.length ∧ call.getPayload = none

/-- The write undoes what it has done, and says that it failed. -/
structure FailsCleanly (writer : RtpsWriter) (call : WriteCall) : Prop where
  code : (writer.write call).1 ≠ .ok
  history : (writer.write call).2.1.history = writer.history
  obtained : (writer.write call).2.1.obtained = writer.obtained + 1
  givenBack : (writer.write call).2.1.givenBack = writer.givenBack + 1
  sent : (writer.write call).2.2.sentSequenceNumber = call.data.sentSequenceNumber

/-- The changes that have not been given back are those in the history. -/
def Balanced (writer : RtpsWriter) : Prop :=
  writer.obtained = writer.givenBack + writer.history.length

/-- Every write of a run whose allocation fails does so cleanly, and the changes are
accounted for all along. -/
structure WritesCleanly (writer : RtpsWriter) (calls : List RtpsWriterCall) : Prop where
  failures : ∀ before call after, calls = before ++ .write call :: after →
    (writer.callAll before).AllocationFails call → (writer.callAll before).FailsCleanly call
  balanced : ∀ before after, calls = before ++ after → (writer.callAll before).Balanced

variable {writer : RtpsWriter} {call : WriteCall}

/-! ### One write -/

theorem fillToSendData_of_fails {change : WriterChange} {params : WriteParams}
    (payload : 0 < call.data.payload.length) :
    (writer.fillToSendData none change params call.data).1 =
      match writer.writerClass with
      | .commonWriter => .error
      | .rpcSimpleWriter => .ok := by
  unfold fillToSendData
  cases writer.writerClass with
  | commonWriter => simp [fillCommonToSendData, payload]
  | rpcSimpleWriter => rfl

theorem fillToSendData_ok {change : WriterChange} {params : WriteParams} {payload : Option Payload}
    (made : 0 < call.data.payload.length → payload ≠ none) :
    (writer.fillToSendData payload change params call.data).1 = .ok := by
  unfold fillToSendData
  cases writer.writerClass with
  | rpcSimpleWriter => rfl
  | commonWriter =>
      unfold fillCommonToSendData
      by_cases length : 0 < call.data.payload.length
      · obtain ⟨made, rfl⟩ := Option.ne_none_iff_exists'.mp (made length)
        simp [length]
      · simp [length]

theorem write_of_sends (sends : (writer.base.write call.now).1 = true) :
    writer.write call =
      { writer with base := (writer.base.shouldSendSample call.now).2 }.writeNts call := by
  unfold BaseWriter.write at sends
  cases enabled : writer.base.enabled with
  | false =>
      rw [enabled] at sends
      cases sends
  | true =>
      rw [enabled, if_pos rfl] at sends
      simp [write, enabled, sends]

/-- A write that is not passed on changes no more than when the last sample was
sent. -/
theorem write_of_not_sends (keeps : (writer.base.write call.now).1 = false) :
    ∃ base, (writer.write call).2.1 = { writer with base := base } := by
  unfold BaseWriter.write at keeps
  cases enabled : writer.base.enabled with
  | false => exact ⟨writer.base, by simp [write, enabled]⟩
  | true =>
      rw [enabled, if_pos rfl] at keeps
      exact ⟨(writer.base.shouldSendSample call.now).2, by simp [write, enabled, keeps]⟩

/-- **A failed allocation is never undone.** -/
theorem not_failsCleanly (fails : writer.AllocationFails call) : ¬ writer.FailsCleanly call := by
  obtain ⟨sends, change, payload, none⟩ := fails
  rintro ⟨code, _, _, givenBack, _⟩
  rw [write_of_sends sends] at code givenBack
  unfold writeNts at code givenBack
  simp only [change, none, Bool.not_true, Bool.false_eq_true, if_false,
    fillToSendData_of_fails payload] at code givenBack
  cases hooks : writer.writerClass with
  | commonWriter => simp [hooks] at givenBack
  | rpcSimpleWriter => simp [hooks] at code

/-! ### Accounting -/

theorem removeMinChange_accounts (writer : RtpsWriter) :
    writer.removeMinChange.obtained = writer.obtained ∧
      writer.removeMinChange.givenBack + writer.removeMinChange.history.length =
        writer.givenBack + writer.history.length := by
  unfold removeMinChange
  cases held : writer.history with
  | nil => simp [held]
  | cons oldest rest =>
      refine ⟨rfl, ?_⟩
      rw [List.length_cons]
      dsimp only
      omega

theorem balanced_onWriterChangeReceivedByAll (balanced : writer.Balanced)
    (sequenceNumber : SequenceNumber) :
    (writer.onWriterChangeReceivedByAll sequenceNumber).Balanced := by
  unfold onWriterChangeReceivedByAll
  dsimp only
  split
  · next removes =>
      obtain ⟨change, member, received⟩ := List.any_eq_true.mp (Bool.and_eq_true_iff.mp removes).2
      have shorter : (writer.history.eraseP fun change =>
          change.sequenceNumber == sequenceNumber).length = writer.history.length - 1 :=
        List.length_eraseP_of_mem member received
      have positive := List.length_pos_of_mem member
      unfold Balanced at *
      dsimp only
      omega
  · exact balanced

/-- A change that has been obtained and is added is accounted for again. -/
theorem balanced_addChange {change : WriterChange} {params : WriteParams} {receivedByAll : Bool}
    (owed : writer.obtained = writer.givenBack + writer.history.length + 1) :
    (writer.addChange change params receivedByAll).1.Balanced := by
  unfold addChange
  dsimp only
  have added : Balanced { writer with
      history := writer.history ++ [{ change with sequenceNumber := writer.lastSequenceNumber + 1 }]
      lastSequenceNumber := writer.lastSequenceNumber + 1 } := by
    unfold Balanced
    dsimp only
    rw [List.length_append, List.length_singleton]
    omega
  split
  · exact balanced_onWriterChangeReceivedByAll added _
  · exact added

/-- The accounts hold after a write whose allocation does not fail. -/
theorem balanced_write (balanced : writer.Balanced) (succeeds : ¬ writer.AllocationFails call) :
    (writer.write call).2.1.Balanced := by
  cases sends : (writer.base.write call.now).1 with
  | false =>
      obtain ⟨base, same⟩ := write_of_not_sends sends
      rw [same]
      exact balanced
  | true =>
      rw [write_of_sends sends]
      unfold writeNts
      cases obtains : call.newChange with
      | false => exact balanced
      | true =>
          have made : 0 < call.data.payload.length → call.getPayload ≠ none :=
            fun payload none => succeeds ⟨sends, obtains, payload, none⟩
          simp only [Bool.not_true, Bool.false_eq_true, if_false, fillToSendData_ok made, ne_eq,
            not_true_eq_false]
          apply balanced_addChange
          unfold Balanced at balanced
          split
          · obtain ⟨same, moved⟩ := removeMinChange_accounts { writer with
              base := (writer.base.shouldSendSample call.now).2
              obtained := writer.obtained + 1 }
            dsimp only at same moved
            omega
          · dsimp only
            omega

theorem balanced_call {step : RtpsWriterCall} (balanced : writer.Balanced)
    (succeeds : ∀ call, step = .write call → ¬ writer.AllocationFails call) :
    (writer.call step).Balanced := by
  cases step with
  | enable => exact balanced
  | disable => exact balanced
  | write call => exact balanced_write balanced (succeeds call rfl)
  | receivedByAll sequenceNumber =>
      exact balanced_onWriterChangeReceivedByAll balanced sequenceNumber

/-- The accounts hold all along a run without failed allocations. -/
theorem balanced_callAll {calls : List RtpsWriterCall} (balanced : writer.Balanced)
    (succeed : ∀ before call after, calls = before ++ .write call :: after →
      ¬ (writer.callAll before).AllocationFails call) : (writer.callAll calls).Balanced := by
  induction calls using List.reverseRecOn with
  | nil => exact balanced
  | append_singleton calls last inductionHypothesis =>
      rw [callAll, List.foldl_append]
      apply balanced_call
      · apply inductionHypothesis
        intro before call after split
        exact succeed before call (after ++ [last]) (by simp [split])
      · rintro call rfl
        exact succeed calls call [] rfl

/-- **Writes fail cleanly** exactly where no allocation fails. -/
theorem writesCleanly_iff {calls : List RtpsWriterCall} (balanced : writer.Balanced) :
    writer.WritesCleanly calls ↔ ∀ before call after, calls = before ++ .write call :: after →
      ¬ (writer.callAll before).AllocationFails call := by
  constructor
  · intro cleanly before call after split fails
    exact not_failsCleanly fails (cleanly.failures before call after split fails)
  · intro succeed
    refine ⟨fun before call after split fails => absurd fails (succeed before call after split),
      fun before after split => balanced_callAll balanced fun earlier call later within => ?_⟩
    exact succeed earlier call (later ++ after) (by simp [split, within])

/-! ### Runs of both writers -/

section

/-- A writer without limits of its rate or its history. -/
def unlimited (writerClass : WriterClass) : RtpsWriter where
  writerClass := writerClass
  base := { maxTxRate := 0, minIntersamplePeriod := 0, enabled := true, lastSentTs := 0 }

/-- A sample with a payload of one octet. -/
def oneOctet (getPayload : Option Payload) : WriteCall where
  data := { payload := [7] }
  getPayload := getPayload

instance (writer : RtpsWriter) (call : WriteCall) : Decidable (writer.AllocationFails call) :=
  inferInstanceAs (Decidable ((writer.base.write call.now).1 = true ∧ call.newChange = true ∧
    0 < call.data.payload.length ∧ call.getPayload = none))

/-- Two samples are written, and the first is received by all in between. -/
theorem writesCleanly_iff_two :
    (unlimited .rpcSimpleWriter).WritesCleanly
      [.write (oneOctet (some [7])), .receivedByAll 1, .write (oneOctet (some [7]))] := by
  apply (writesCleanly_iff (show Balanced (unlimited .rpcSimpleWriter) from rfl)).mpr
  rintro before call after split ⟨_, _, _, none⟩
  have member : RtpsWriterCall.write call ∈
      [.write (oneOctet (some [7])), .receivedByAll 1, .write (oneOctet (some [7]))] := by
    rw [split]
    exact List.mem_append_right _ List.mem_cons_self
  simp only [List.mem_cons, List.not_mem_nil, or_false, RtpsWriterCall.write.injEq, reduceCtorEq,
    false_or, or_self] at member
  rw [member] at none
  cases none

/-- The payload of one sample cannot be allocated: the change of the one writer is
not given back, and the other writer says that it has sent the sample. -/
theorem not_writesCleanly :
    ¬ (unlimited .commonWriter).WritesCleanly [.write (oneOctet none)] ∧
      ¬ (unlimited .rpcSimpleWriter).WritesCleanly [.write (oneOctet none)] := by
  constructor
  · intro cleanly
    have fails := cleanly.failures [] (oneOctet none) [] rfl (by decide +kernel)
    have lost : ((unlimited .commonWriter).write (oneOctet none)).2.1.givenBack = 0 := by
      decide +kernel
    have givenBack : ((unlimited .commonWriter).write (oneOctet none)).2.1.givenBack = 1 :=
      fails.givenBack
    omega
  · intro cleanly
    have fails := cleanly.failures [] (oneOctet none) [] rfl (by decide +kernel)
    exact fails.code (by decide +kernel)

end

end RtpsWriter

end DdsPipe.Participants
