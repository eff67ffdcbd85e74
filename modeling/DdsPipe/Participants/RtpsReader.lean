import DdsPipe.Library.TransitionSystem
import DdsPipe.Participants.Downsampling
import DdsPipe.Participants.SpecificQos
import Mathlib.Data.List.Perm.Basic
import Mathlib.Data.List.InsertIdx

/-!
Owns a reader of the RTPS layer over its runs: the changes that the library adds to
its history, its listener, which accepts a change or removes it, and the calls of
its track, whose parts run under two locks and may have arrivals between them.

In every run a change is handed over, discarded as incorrect or still in the history
exactly when both filters accept it and it came while the reader was enabled or the
topic is reliable (`changesConserved_of_reachable`). A reliable reader whose history is not
empty has told its track (`callsBack_of_reachable`).

Does not own: the order of a history, which the library chooses, and what else the
library removes from it.
-/

namespace DdsPipe.Participants

open DdsPipe.Types
open TransitionSystem

/-! ### The reader -/

/-- What stays as the reader is created, and what the payload pool makes of the payload of
a change, which is a copy unless the pool has no memory left. -/
structure ReaderAttributes where
  participantId : ParticipantId
  guidPrefix : GuidPrefix
  keyed : Bool := false
  reliable : Bool := false
  baseReader : BaseReader
  fresh : baseReader.downsamplingIdx = 0
  getPayload : (change : Nat) → Payload → Payload := fun _ payload => payload

/-- A change that is added to the history, with the time, and whether the reader is
enabled then. -/
structure Arrival where
  change : CacheChange
  now : Int
  enabled : Bool

/-- What the call that has locked the mutex of the reader has done. -/
inductive MutexHolder where
  | free
  /-- `enable` has set the flag. -/
  | enabling
  /-- `take` has seen an unread change. -/
  | counted
  /-- `take` has got the change. -/
  | holding (change : Nat)
deriving DecidableEq, Repr

/-- A change is referred to by its position in `arrivals`. `handedOver` and
`discarded` record what the takes have removed, and `called` whether the track has
been called since it last found nothing; they are proof data. -/
structure RtpsReader where
  base : BaseReader
  enabled : Bool := false
  onDataAvailableLambdaSet : Bool := false
  arrivals : List Arrival := []
  history : List Nat := []
  holder : MutexHolder := .free
  handedOver : List (Nat × RtpsPayloadData) := []
  discarded : List Nat := []
  called : Bool := false

inductive ReaderStep where
  /-- The library adds a change at a place of the history and calls the listener. -/
  | newCacheChangeAdded (change : CacheChange) (now : Int) (place : Nat)
  | setOnDataAvailableCallback
  | unsetOnDataAvailableCallback
  | enable
  /-- `enable_nts_`. -/
  | enableNts
  | disable
  /-- `take` up to the test of the unread count. -/
  | take
  | nextUntakenCache (found : Bool)
  /-- The rest of `take`. -/
  | fillReceivedData

namespace ReaderAttributes

variable (attributes : ReaderAttributes)

/-- The fields of the reader that filling a sample looks at. -/
def reader : SpecificQoSReader :=
  { participantId := attributes.participantId, keyed := attributes.keyed }

def create : RtpsReader :=
  { base := attributes.baseReader }

/-- The data of a change: the fields of the change, its payload as the pool has made it,
which is left out when it is empty, and the instance in a topic with keys. -/
def dataOf (id : Nat) (change : CacheChange) : RtpsPayloadData where
  payload :=
    if change.serializedPayload = [] then []
    else attributes.getPayload id change.serializedPayload
  payloadOwner := !change.serializedPayload.isEmpty
  writerQos := {}
  instanceHandle := if attributes.keyed then change.instanceHandle else 0
  kind := change.kind
  sourceTimestamp := change.sourceTimestamp
  sourceGuid := change.writerGuid
  participantReceiver := attributes.participantId

end ReaderAttributes

namespace RtpsReader

variable (attributes : ReaderAttributes) (reader : RtpsReader)

/-- `on_data_available_`. -/
def onDataAvailable : RtpsReader :=
  if reader.onDataAvailableLambdaSet then { reader with called := true } else reader

def removeChange (change : Nat) : RtpsReader :=
  { reader with history := reader.history.erase change }

/-- `onNewCacheChangeAdded`, under the lock of the RTPS reader. -/
def onNewCacheChangeAdded (change : CacheChange) (now : Int) (place : Nat) : RtpsReader :=
  let (accepts, base) := reader.base.shouldAcceptChange attributes.guidPrefix
    change.writerGuid.guidPrefix now
  let added := reader.arrivals.length
  let reader : RtpsReader := { reader with
    base := base
    arrivals := reader.arrivals ++ [{ change := change, now := now, enabled := reader.enabled }]
    history := reader.history.insertIdx place added }
  if accepts then
    if reader.enabled then reader.onDataAvailable
    else if !attributes.reliable then reader.removeChange added
    else reader
  else reader.removeChange added

/-- What `take_nts_` does with the change that it has got. -/
def takeChange (id : Nat) (change : CacheChange) : RtpsReader :=
  if !attributes.reader.isDataCorrect change then
    { reader.removeChange id with discarded := reader.discarded ++ [id], holder := .free }
  else
    { reader.removeChange id with
      handedOver := reader.handedOver ++
        [(id, attributes.reader.fillCommonData
          { getPayload := attributes.getPayload id } change {})]
      holder := .free }

def step : ReaderStep → Option RtpsReader
  | .newCacheChangeAdded change now place =>
      if place ≤ reader.history.length then
        some (reader.onNewCacheChangeAdded attributes change now place)
      else none
  | .setOnDataAvailableCallback =>
      if reader.holder = .free then some { reader with onDataAvailableLambdaSet := true } else none
  | .unsetOnDataAvailableCallback =>
      if reader.holder = .free then some { reader with onDataAvailableLambdaSet := false } else none
  | .enable =>
      if reader.holder = .free then
        some (if reader.enabled then reader
          else { reader with enabled := true, holder := .enabling })
      else none
  | .enableNts =>
      if reader.holder = .enabling then
        some { (if attributes.reliable then reader.onDataAvailable else reader) with
          holder := .free }
      else none
  | .disable => if reader.holder = .free then some { reader with enabled := false } else none
  | .take =>
      if reader.holder = .free then
        some (if !reader.enabled then reader
          else if reader.history.isEmpty then { reader with called := false }
          else { reader with holder := .counted })
      else none
  | .nextUntakenCache found =>
      if reader.holder = .counted then
        match reader.history with
        | id :: _ => some { reader with holder := if found then .holding id else .free }
        | [] => some { reader with holder := .free }
      else none
  | .fillReceivedData =>
      match reader.holder with
      | .holding id => reader.arrivals[id]?.map fun arrival =>
          reader.takeChange attributes id arrival.change
      | _ => none

end RtpsReader

def readerSystem (attributes : ReaderAttributes) : System RtpsReader ReaderStep where
  Initial reader := reader = attributes.create
  step := RtpsReader.step attributes

/-! ### What is kept -/

/-- The changes of other participants, with their positions. -/
def othersOf (guidPrefix : GuidPrefix) (arrivals : List Arrival) : List (Arrival × Nat) :=
  arrivals.zipIdx.filter fun arrival => arrival.1.change.writerGuid.guidPrefix ≠ guidPrefix

def timesOf (others : List (Arrival × Nat)) : List Int :=
  others.map fun other => other.1.now

/-- The change that comes at a position of those of other participants passes both
filters, and the reader is enabled or the topic is reliable. -/
def keeps (attributes : ReaderAttributes) (times : List Int) (other : (Arrival × Nat) × Nat) :
    Bool :=
  (other.1.1.enabled || attributes.reliable) && attributes.baseReader.acceptsAt times other.2

def keptOf (attributes : ReaderAttributes) (arrivals : List Arrival) : List Nat :=
  let others := othersOf attributes.guidPrefix arrivals
  (others.zipIdx.filter (keeps attributes (timesOf others))).map fun other => other.1.2

section Kept

variable {attributes : ReaderAttributes} {arrivals : List Arrival} {arrival : Arrival}

theorem othersOf_append : othersOf attributes.guidPrefix (arrivals ++ [arrival]) =
    othersOf attributes.guidPrefix arrivals ++
      if arrival.change.writerGuid.guidPrefix ≠ attributes.guidPrefix then
        [(arrival, arrivals.length)]
      else [] := by
  unfold othersOf
  rw [List.zipIdx_append, List.filter_append]
  by_cases own : arrival.change.writerGuid.guidPrefix = attributes.guidPrefix <;> simp [own]

theorem keptOf_append_own (own : arrival.change.writerGuid.guidPrefix = attributes.guidPrefix) :
    keptOf attributes (arrivals ++ [arrival]) = keptOf attributes arrivals := by
  unfold keptOf
  rw [othersOf_append, if_neg (not_not.mpr own), List.append_nil]

/-- One more change of another participant is kept or not, and the earlier ones are
judged as before. -/
theorem keptOf_append_other (other : arrival.change.writerGuid.guidPrefix ≠ attributes.guidPrefix) :
    keptOf attributes (arrivals ++ [arrival]) = keptOf attributes arrivals ++
      if (arrival.enabled || attributes.reliable) = true ∧
          ((attributes.baseReader.receiveAll
            (timesOf (othersOf attributes.guidPrefix arrivals))).shouldAcceptSample
              arrival.now).1 = true then [arrivals.length]
      else [] := by
  unfold keptOf
  rw [othersOf_append, if_pos other]
  generalize othersOf attributes.guidPrefix arrivals = others
  have times : timesOf (others ++ [(arrival, arrivals.length)]) =
      timesOf others ++ [arrival.now] := List.map_append
  have length : (timesOf others).length = others.length := List.length_map _
  dsimp only
  rw [times, List.zipIdx_append, List.filter_append, List.map_append]
  congr 1
  · apply congrArg
    apply List.filter_congr
    intro entry member
    have before : entry.2 < (timesOf others).length := by
      have bound := List.snd_lt_of_mem_zipIdx member
      rw [length]
      omega
    rw [keeps, keeps, BaseReader.acceptsAt_append_of_lt before]
  · have last := @BaseReader.acceptsAt_last attributes.baseReader (timesOf others) arrival.now
    rw [length] at last
    by_cases stays : (arrival.enabled || attributes.reliable) = true <;>
      by_cases accepted : ((attributes.baseReader.receiveAll
        (timesOf others)).shouldAcceptSample arrival.now).1 = true <;>
      simp [keeps, last, stays, accepted]

end Kept

/-! ### Conservation -/

/-- What is handed over, discarded or in the history is what has been kept; what is
handed over is the data of its change, and only incorrect changes are discarded. -/
structure Conserves (attributes : ReaderAttributes) (reader : RtpsReader) : Prop where
  conserved : (reader.handedOver.map Prod.fst ++ reader.discarded ++ reader.history).Perm
    (keptOf attributes reader.arrivals)
  carried : ∀ entry ∈ reader.handedOver, ∃ arrival,
    reader.arrivals[entry.1]? = some arrival ∧
      attributes.reader.isDataCorrect arrival.change = true ∧
        entry.2 = attributes.dataOf entry.1 arrival.change
  incorrect : ∀ id ∈ reader.discarded, ∃ arrival, reader.arrivals[id]? = some arrival ∧
    attributes.reader.isDataCorrect arrival.change = false

/-- The conservation, the filters' state and the change that a take holds. -/
structure RtpsReader.Sound (attributes : ReaderAttributes) (reader : RtpsReader) : Prop
    extends Conserves attributes reader where
  base : reader.base = attributes.baseReader.receiveAll
    (timesOf (othersOf attributes.guidPrefix reader.arrivals))
  held : ∀ id, reader.holder = .holding id → id ∈ reader.history

namespace RtpsReader

variable {attributes : ReaderAttributes} {reader next : RtpsReader}

/-- What the callback leaves. -/
theorem Sound.onDataAvailable (sound : reader.Sound attributes) :
    reader.onDataAvailable.Sound attributes := by
  unfold RtpsReader.onDataAvailable
  split
  · exact ⟨⟨sound.conserved, sound.carried, sound.incorrect⟩, sound.base, sound.held⟩
  · exact sound

/-- One more arrival leaves what is recorded of the earlier ones. -/
theorem carried_append (sound : reader.Sound attributes) (arrival : Arrival) :
    (∀ entry ∈ reader.handedOver, ∃ earlier,
      (reader.arrivals ++ [arrival])[entry.1]? = some earlier ∧
        attributes.reader.isDataCorrect earlier.change = true ∧
          entry.2 = attributes.dataOf entry.1 earlier.change) ∧
    ∀ id ∈ reader.discarded, ∃ earlier, (reader.arrivals ++ [arrival])[id]? = some earlier ∧
      attributes.reader.isDataCorrect earlier.change = false := by
  have kept : ∀ (id : Nat) (earlier : Arrival), reader.arrivals[id]? = some earlier →
      (reader.arrivals ++ [arrival])[id]? = some earlier := by
    intro id earlier found
    obtain ⟨inside, _⟩ := List.getElem?_eq_some_iff.mp found
    rw [List.getElem?_append_left inside]
    exact found
  constructor
  · intro entry member
    obtain ⟨earlier, found, rest⟩ := sound.carried entry member
    exact ⟨earlier, kept _ _ found, rest⟩
  · intro id member
    obtain ⟨earlier, found, rest⟩ := sound.incorrect id member
    exact ⟨earlier, kept _ _ found, rest⟩

/-- The reader after an arrival that leaves this history. -/
def added (attributes : ReaderAttributes) (reader : RtpsReader) (change : CacheChange) (now : Int)
    (history : List Nat) : RtpsReader :=
  { reader with
    base := (reader.base.shouldAcceptChange attributes.guidPrefix change.writerGuid.guidPrefix
      now).2
    arrivals := reader.arrivals ++ [{ change := change, now := now, enabled := reader.enabled }]
    history := history }

/-- The filters and the reader let the change stay. -/
def Stays (attributes : ReaderAttributes) (reader : RtpsReader) (change : CacheChange)
    (now : Int) : Prop :=
  (reader.enabled || attributes.reliable) = true ∧
    (reader.base.shouldAcceptChange attributes.guidPrefix change.writerGuid.guidPrefix now).1 = true

/-- **An arrival** either stays in the history, and is notified to the track when
the reader is enabled, or is removed. -/
theorem onNewCacheChangeAdded_cases (attributes : ReaderAttributes) (reader : RtpsReader)
    (change : CacheChange) (now : Int) {place : Nat} (inside : place ≤ reader.history.length) :
    (Stays attributes reader change now ∧
      ∃ history, history.Perm (reader.history ++ [reader.arrivals.length]) ∧
        reader.onNewCacheChangeAdded attributes change now place =
          if reader.enabled then (reader.added attributes change now history).onDataAvailable
          else reader.added attributes change now history) ∨
    (¬ Stays attributes reader change now ∧
      ∃ history, history.Perm reader.history ∧
        reader.onNewCacheChangeAdded attributes change now place =
          reader.added attributes change now history) := by
  have inserted : (reader.history.insertIdx place reader.arrivals.length).Perm
      (reader.arrivals.length :: reader.history) := List.perm_insertIdx _ _ inside
  have removed := inserted.erase reader.arrivals.length
  rw [List.erase_cons_head] at removed
  have gained := inserted.trans (List.perm_append_singleton _ _).symm
  unfold onNewCacheChangeAdded Stays
  dsimp only
  split
  · next accepts =>
      cases enabled : reader.enabled with
      | true => exact .inl ⟨⟨rfl, accepts⟩, _, gained, by simp [added, enabled]⟩
      | false =>
          cases reliable : attributes.reliable with
          | true => exact .inl ⟨⟨rfl, accepts⟩, _, gained, by simp [added, enabled]⟩
          | false =>
              exact .inr ⟨fun stays => by simp at stays, _, removed,
                by simp [added, removeChange, enabled]⟩
  · next refuses => exact .inr ⟨fun stays => refuses stays.2, _, removed, rfl⟩

/-- What is kept of an arrival. -/
theorem keptOf_added (sound : reader.Sound attributes) (change : CacheChange) (now : Int)
    (history : List Nat) :
    (Stays attributes reader change now →
      keptOf attributes (reader.added attributes change now history).arrivals =
        keptOf attributes reader.arrivals ++ [reader.arrivals.length]) ∧
    (¬ Stays attributes reader change now →
      keptOf attributes (reader.added attributes change now history).arrivals =
        keptOf attributes reader.arrivals) := by
  let arrival : Arrival := { change := change, now := now, enabled := reader.enabled }
  unfold Stays
  by_cases own : change.writerGuid.guidPrefix = attributes.guidPrefix
  · have kept := @keptOf_append_own attributes reader.arrivals arrival own
    rw [BaseReader.shouldAcceptChange, if_pos own]
    exact ⟨fun stays => by simp at stays, fun _ => kept⟩
  · have kept := @keptOf_append_other attributes reader.arrivals arrival own
    rw [← sound.base] at kept
    rw [BaseReader.shouldAcceptChange, if_neg own]
    constructor
    · intro stays
      exact kept.trans (by rw [if_pos stays])
    · intro leaves
      exact kept.trans (by rw [if_neg leaves, List.append_nil])

/-- An arrival keeps the reader sound when the history gains what is kept of it. -/
theorem Sound.added (sound : reader.Sound attributes) {change : CacheChange} {now : Int}
    {new history : List Nat}
    (kept : keptOf attributes (reader.added attributes change now history).arrivals =
      keptOf attributes reader.arrivals ++ new)
    (gains : history.Perm (reader.history ++ new)) :
    (reader.added attributes change now history).Sound attributes := by
  obtain ⟨carried, incorrect⟩ := carried_append sound
    { change := change, now := now, enabled := reader.enabled }
  constructor
  · constructor
    · rw [kept]
      have moved := gains.append_left (reader.handedOver.map Prod.fst ++ reader.discarded)
      rw [← List.append_assoc] at moved
      exact moved.trans (sound.conserved.append_right new)
    · exact carried
    · exact incorrect
  · show (reader.base.shouldAcceptChange attributes.guidPrefix change.writerGuid.guidPrefix now).2 =
      attributes.baseReader.receiveAll (timesOf (othersOf attributes.guidPrefix
        (reader.arrivals ++ [{ change := change, now := now, enabled := reader.enabled }])))
    rw [othersOf_append]
    by_cases own : change.writerGuid.guidPrefix = attributes.guidPrefix
    · rw [if_neg (not_not.mpr own), List.append_nil, BaseReader.shouldAcceptChange, if_pos own]
      exact sound.base
    · have times (others : List (Arrival × Nat)) (other : Arrival × Nat) :
          timesOf (others ++ [other]) = timesOf others ++ [other.1.now] := List.map_append
      rw [if_pos own, BaseReader.shouldAcceptChange, if_neg own, times,
        BaseReader.receiveAll_append, ← sound.base]
      rfl
  · intro id holds
    exact gains.symm.subset (List.mem_append_left _ (sound.held id holds))

theorem sound_newCacheChangeAdded (sound : reader.Sound attributes) (change : CacheChange)
    (now : Int) {place : Nat} (inside : place ≤ reader.history.length) :
    (reader.onNewCacheChangeAdded attributes change now place).Sound attributes := by
  obtain ⟨stays, history, gained, outcome⟩ | ⟨leaves, history, same, outcome⟩ :=
    onNewCacheChangeAdded_cases attributes reader change now inside
  · have after := sound.added ((keptOf_added sound change now history).1 stays) gained
    rw [outcome]
    split
    · exact after.onDataAvailable
    · exact after
  · rw [outcome]
    have kept := (keptOf_added sound change now history).2 leaves
    rw [← List.append_nil (keptOf attributes reader.arrivals)] at kept
    rw [← List.append_nil reader.history] at same
    exact sound.added kept same

/-- The data that a take fills is that of the change. -/
theorem fillCommonData_eq (attributes : ReaderAttributes) (id : Nat) (change : CacheChange) :
    attributes.reader.fillCommonData { getPayload := attributes.getPayload id } change {} =
      attributes.dataOf id change := by
  unfold SpecificQoSReader.fillCommonData ReaderAttributes.dataOf ReaderAttributes.reader
  cases payload : change.serializedPayload with
  | nil => cases attributes.keyed <;> simp
  | cons => cases attributes.keyed <;> simp

theorem sound_takeChange (sound : reader.Sound attributes) {id : Nat} {arrival : Arrival}
    (member : id ∈ reader.history) (found : reader.arrivals[id]? = some arrival) :
    (reader.takeChange attributes id arrival.change).Sound attributes := by
  have out : reader.history.Perm (id :: reader.history.erase id) := List.perm_cons_erase member
  unfold takeChange
  rw [fillCommonData_eq]
  cases correct : attributes.reader.isDataCorrect arrival.change with
  | false =>
      refine ⟨⟨?_, sound.carried, ?_⟩, sound.base, fun _ holds => by cases holds⟩
      · show (reader.handedOver.map Prod.fst ++ (reader.discarded ++ [id]) ++
          reader.history.erase id).Perm _
        have moved := (out.append_left (reader.handedOver.map Prod.fst ++ reader.discarded)).symm
        apply List.Perm.trans _ (moved.trans sound.conserved)
        simp
      · intro other member
        rcases List.mem_append.mp member with old | new
        · exact sound.incorrect other old
        · rw [List.mem_singleton.mp new]
          exact ⟨arrival, found, correct⟩
  | true =>
      refine ⟨⟨?_, ?_, sound.incorrect⟩, sound.base, fun _ holds => by cases holds⟩
      · show ((reader.handedOver ++ [(id, attributes.dataOf id arrival.change)]).map Prod.fst ++
          reader.discarded ++ reader.history.erase id).Perm _
        have moved := (out.append_left (reader.handedOver.map Prod.fst ++ reader.discarded)).symm
        apply List.Perm.trans _ (moved.trans sound.conserved)
        have taken : ([id] ++ reader.discarded).Perm (reader.discarded ++ [id]) :=
          List.perm_append_comm
        have whole := (taken.append_left (reader.handedOver.map Prod.fst)).append_right
          (reader.history.erase id)
        simpa using whole
      · intro entry member
        rcases List.mem_append.mp member with old | new
        · exact sound.carried entry old
        · rw [List.mem_singleton.mp new]
          exact ⟨arrival, found, correct, rfl⟩

/-- A step that leaves the changes alone keeps the reader sound. -/
theorem Sound.of_frame (sound : reader.Sound attributes) (base : next.base = reader.base)
    (arrivals : next.arrivals = reader.arrivals) (history : next.history = reader.history)
    (handedOver : next.handedOver = reader.handedOver)
    (discarded : next.discarded = reader.discarded)
    (held : ∀ id, next.holder = .holding id → id ∈ reader.history) : next.Sound attributes := by
  refine ⟨⟨?_, ?_, ?_⟩, ?_, ?_⟩
  · rw [handedOver, discarded, history, arrivals]
    exact sound.conserved
  · rw [handedOver, arrivals]
    exact sound.carried
  · rw [discarded, arrivals]
    exact sound.incorrect
  · rw [base, arrivals]
    exact sound.base
  · rw [history]
    exact held

theorem onDataAvailable_frame : reader.onDataAvailable.base = reader.base ∧
    reader.onDataAvailable.arrivals = reader.arrivals ∧
      reader.onDataAvailable.history = reader.history ∧
        reader.onDataAvailable.handedOver = reader.handedOver ∧
          reader.onDataAvailable.discarded = reader.discarded := by
  unfold RtpsReader.onDataAvailable
  split <;> exact ⟨rfl, rfl, rfl, rfl, rfl⟩

/-- **A step** keeps the reader sound. -/
theorem sound_step (sound : reader.Sound attributes) {label : ReaderStep}
    (taken : reader.step attributes label = some next) : next.Sound attributes := by
  cases label with
  | newCacheChangeAdded change now place =>
      obtain ⟨inside, rfl⟩ : place ≤ reader.history.length ∧
          reader.onNewCacheChangeAdded attributes change now place = next := by
        simpa [step] using taken
      exact sound_newCacheChangeAdded sound change now inside
  | setOnDataAvailableCallback | unsetOnDataAvailableCallback | disable =>
      simp only [step, Option.ite_none_right_eq_some, Option.some.injEq] at taken
      obtain ⟨free, rfl⟩ := taken
      exact sound.of_frame rfl rfl rfl rfl rfl fun id holds => sound.held id holds
  | enable =>
      simp only [step, Option.ite_none_right_eq_some, Option.some.injEq] at taken
      obtain ⟨free, rfl⟩ := taken
      split
      · exact sound
      · exact sound.of_frame rfl rfl rfl rfl rfl fun id holds => by cases holds
  | enableNts =>
      simp only [step, Option.ite_none_right_eq_some, Option.some.injEq] at taken
      obtain ⟨enabling, rfl⟩ := taken
      obtain ⟨base, arrivals, history, handedOver, discarded⟩ := reader.onDataAvailable_frame
      split
      · exact sound.of_frame base arrivals history handedOver discarded
          fun id holds => by cases holds
      · exact sound.of_frame rfl rfl rfl rfl rfl fun id holds => by cases holds
  | take =>
      simp only [step, Option.ite_none_right_eq_some, Option.some.injEq] at taken
      obtain ⟨free, rfl⟩ := taken
      split
      · exact sound
      · split
        · exact sound.of_frame rfl rfl rfl rfl rfl fun id holds => sound.held id holds
        · exact sound.of_frame rfl rfl rfl rfl rfl fun id holds => by cases holds
  | nextUntakenCache found =>
      simp only [step, Option.ite_none_right_eq_some] at taken
      obtain ⟨counted, outcome⟩ := taken
      split at outcome
      · next id rest history =>
          cases outcome
          refine sound.of_frame rfl rfl rfl rfl rfl ?_
          intro other holds
          cases found with
          | true =>
              cases holds
              rw [history]
              exact List.mem_cons_self
          | false => cases holds
      · cases outcome
        exact sound.of_frame rfl rfl rfl rfl rfl fun id holds => by cases holds
  | fillReceivedData =>
      simp only [step] at taken
      split at taken
      · next id holds =>
          obtain ⟨arrival, found, rfl⟩ := Option.map_eq_some_iff.mp taken
          exact sound_takeChange sound (sound.held id holds) found
      · cases taken

theorem sound_create : attributes.create.Sound attributes :=
  ⟨⟨.refl _, by simp [ReaderAttributes.create], by simp [ReaderAttributes.create]⟩, rfl,
    fun id holds => by cases holds⟩

end RtpsReader

theorem nodup_keptOf (attributes : ReaderAttributes) (arrivals : List Arrival) :
    (keptOf attributes arrivals).Nodup := by
  have others : ((othersOf attributes.guidPrefix arrivals).map Prod.snd).Nodup := by
    apply List.Nodup.sublist (List.filter_sublist.map Prod.snd)
    rw [List.zipIdx_map_snd]
    exact List.nodup_range'
  apply List.Nodup.sublist (List.filter_sublist.map _)
  have ids : (othersOf attributes.guidPrefix arrivals).zipIdx.map (fun other => other.1.2) =
      ((othersOf attributes.guidPrefix arrivals).zipIdx.map Prod.fst).map Prod.snd :=
    List.map_map.symm
  rw [ids, List.zipIdx_map_fst]
  exact others

/-- Which changes are kept: of those of other participants that pass the rate check
one out of `downsampling`, if the reader is enabled or the topic is reliable. -/
theorem mem_keptOf_iff {attributes : ReaderAttributes} {arrivals : List Arrival} {id : Nat} :
    id ∈ keptOf attributes arrivals ↔ ∃ position arrival multiple,
      (othersOf attributes.guidPrefix arrivals)[position]? = some (arrival, id) ∧
        (arrival.enabled = true ∨ attributes.reliable = true) ∧
          (attributes.baseReader.passed
            (timesOf (othersOf attributes.guidPrefix arrivals)))[multiple *
              attributes.baseReader.downsampling]? = some position := by
  unfold keptOf
  generalize othersOf attributes.guidPrefix arrivals = others
  rw [List.mem_map]
  constructor
  · intro kept
    obtain ⟨⟨⟨arrival, other⟩, position⟩, member, rfl⟩ := kept
    obtain ⟨there, keeps⟩ := List.mem_filter.mp member
    obtain ⟨stays, accepts⟩ := Bool.and_eq_true_iff.mp keeps
    obtain ⟨multiple, passes⟩ :=
      (BaseReader.acceptsAt_iff attributes.fresh (timesOf others) position).mp accepts
    exact ⟨position, arrival, multiple, List.mem_zipIdx_iff_getElem?.mp there,
      Bool.or_eq_true_iff.mp stays, passes⟩
  · intro kept
    obtain ⟨position, arrival, multiple, found, stays, passes⟩ := kept
    have accepts := (BaseReader.acceptsAt_iff attributes.fresh (timesOf others) position).mpr
      ⟨multiple, passes⟩
    exact ⟨((arrival, id), position), List.mem_filter.mpr
      ⟨List.mem_zipIdx_iff_getElem?.mpr found,
        Bool.and_eq_true_iff.mpr ⟨Bool.or_eq_true_iff.mpr stays, accepts⟩⟩, rfl⟩

/-- **Nothing is lost, doubled or made up.** In every run a change is handed over,
discarded as incorrect or still in the history, once, exactly when it is kept. -/
theorem changesConserved_of_reachable {attributes : ReaderAttributes} {reader : RtpsReader}
    (reached : (readerSystem attributes).Reachable anyStep reader) :
    Conserves attributes reader ∧
      (reader.handedOver.map Prod.fst ++ reader.discarded ++ reader.history).Nodup ∧
      ∀ id, (id ∈ reader.handedOver.map Prod.fst ∨ id ∈ reader.discarded ∨ id ∈ reader.history) ↔
        ∃ position arrival multiple,
          (othersOf attributes.guidPrefix reader.arrivals)[position]? = some (arrival, id) ∧
            (arrival.enabled = true ∨ attributes.reliable = true) ∧
              (attributes.baseReader.passed (timesOf (othersOf attributes.guidPrefix
                reader.arrivals)))[multiple * attributes.baseReader.downsampling]? =
                  some position := by
  have sound : reader.Sound attributes := by
    apply reached.invariant
    · intro start initial
      rw [show start = attributes.create from initial]
      exact RtpsReader.sound_create
    · intro before label after invariant _ taken
      exact RtpsReader.sound_step invariant taken
  refine ⟨sound.toConserves, ?_, ?_⟩
  · exact sound.conserved.nodup_iff.mpr (nodup_keptOf attributes reader.arrivals)
  · intro id
    rw [← mem_keptOf_iff, ← sound.conserved.mem_iff, List.mem_append, List.mem_append, or_assoc]

/-- The reader as a call of `take` sees it when nothing comes in between. -/
def unread (attributes : ReaderAttributes) (reader : RtpsReader) : SpecificQoSReader :=
  { attributes.reader with
    enabled := reader.enabled
    history := reader.history.filterMap fun id => reader.arrivals[id]?.map Arrival.change }

/-- A take without arrivals in between is that of one call. -/
theorem unread_run_take {attributes : ReaderAttributes} {reader : RtpsReader}
    (free : reader.holder = .free) (enabled : reader.enabled = true) {id : Nat} {rest : List Nat}
    (history : reader.history = id :: rest) {arrival : Arrival}
    (found : reader.arrivals[id]? = some arrival) (database : Dynamic.Entities) :
    ((readerSystem attributes).run reader
        [.take, .nextUntakenCache true, .fillReceivedData]).map (unread attributes) =
      some ((unread attributes reader).take { getPayload := attributes.getPayload id }
        database).1 := by
  have seen : (unread attributes reader).history = arrival.change ::
      rest.filterMap fun id => reader.arrivals[id]?.map Arrival.change := by
    simp [unread, history, found]
  have taken : ((unread attributes reader).take { getPayload := attributes.getPayload id }
      database).1 =
      { unread attributes reader with
        history := rest.filterMap fun id => reader.arrivals[id]?.map Arrival.change } := by
    unfold SpecificQoSReader.take SpecificQoSReader.takeNts
    rw [if_pos (show (unread attributes reader).enabled = true from enabled), seen]
    simp only [Bool.not_true, Bool.false_eq_true, if_false]
    split <;> rfl
  rw [taken]
  -- A change that is discarded leaves the history as one that is handed over.
  cases correct : attributes.reader.isDataCorrect arrival.change <;>
    simp [System.run, readerSystem, RtpsReader.step, RtpsReader.takeChange,
      RtpsReader.removeChange, unread, free, enabled, history, found, correct]

/-- A reader of participant 1, without limits. -/
def unlimitedReader : ReaderAttributes where
  participantId := "a"
  guidPrefix := 1
  reliable := true
  baseReader := BaseReader.create 0 0 1
  fresh := rfl

/-- A change arrives while another one is being taken. -/
def interruptedTake : List ReaderStep :=
  [.setOnDataAvailableCallback, .enable, .enableNts,
    .newCacheChangeAdded { writerGuid := ⟨2, 1⟩, maxSize := 4 } 10 0, .take, .nextUntakenCache true,
    .newCacheChangeAdded { writerGuid := ⟨2, 1⟩, maxSize := 4 } 20 0, .fillReceivedData]

theorem changesConserved_of_reachable_interruptedTake :
    ∃ reader, Conserves unlimitedReader reader ∧ reader.history = [1] := by
  obtain ⟨reader, reached, test⟩ := System.exists_reachable_of_run (readerSystem unlimitedReader)
    unlimitedReader.create interruptedTake (fun reader => decide (reader.history = [1]))
    (fun _ _ _ => trivial) rfl (by decide +kernel)
  exact ⟨reader, (changesConserved_of_reachable reached).1, of_decide_eq_true test⟩

/-! ### Callbacks -/

/-- A track sets its callback before it enables the reader, and unsets it only once
the reader is disabled. -/
def SetsCallback (reader : RtpsReader) : ReaderStep → Prop
  | .enable => reader.onDataAvailableLambdaSet = true
  | .unsetOnDataAvailableCallback => reader.enabled = false
  | _ => True

structure RtpsReader.CallsBack (reader : RtpsReader) : Prop where
  set : reader.enabled = true → reader.onDataAvailableLambdaSet = true
  called : reader.enabled = true → reader.holder ≠ .enabling → reader.history ≠ [] →
    reader.called = true

namespace RtpsReader

variable {attributes : ReaderAttributes} {reader next : RtpsReader}

theorem callsBack_onDataAvailable
    (set : reader.enabled = true → reader.onDataAvailableLambdaSet = true) :
    reader.onDataAvailable.CallsBack := by
  unfold RtpsReader.onDataAvailable
  split
  · next callback => exact ⟨fun _ => callback, fun _ _ _ => rfl⟩
  · next unset => exact ⟨set, fun enabled => absurd (set enabled) unset⟩

theorem onDataAvailable_setHolder (holder : MutexHolder) :
    ({ reader with holder := holder } : RtpsReader).onDataAvailable =
      { reader.onDataAvailable with holder := holder } := by
  unfold RtpsReader.onDataAvailable
  split <;> rfl

theorem callsBack_newCacheChangeAdded (callsBack : reader.CallsBack) (change : CacheChange)
    (now : Int) {place : Nat} (inside : place ≤ reader.history.length) :
    (reader.onNewCacheChangeAdded attributes change now place).CallsBack := by
  obtain ⟨_, history, _, outcome⟩ | ⟨_, history, same, outcome⟩ :=
    onNewCacheChangeAdded_cases attributes reader change now inside
  · rw [outcome]
    cases enabled : reader.enabled with
    | true =>
        rw [if_pos rfl]
        exact callsBack_onDataAvailable callsBack.set
    | false =>
        rw [if_neg Bool.false_ne_true]
        have disabled : (reader.added attributes change now history).enabled ≠ true := by
          rw [show (reader.added attributes change now history).enabled = reader.enabled from rfl,
            enabled]
          exact Bool.false_ne_true
        exact ⟨fun impossible => absurd impossible disabled,
          fun impossible => absurd impossible disabled⟩
  · rw [outcome]
    refine ⟨callsBack.set, ?_⟩
    intro enabled running unread
    apply callsBack.called enabled running
    intro empty
    rw [empty] at same
    exact unread same.eq_nil

theorem callsBack_step (reliable : attributes.reliable = true) (callsBack : reader.CallsBack)
    {label : ReaderStep} (admitted : SetsCallback reader label)
    (taken : reader.step attributes label = some next) : next.CallsBack := by
  cases label with
  | newCacheChangeAdded change now place =>
      obtain ⟨inside, rfl⟩ : place ≤ reader.history.length ∧
          reader.onNewCacheChangeAdded attributes change now place = next := by
        simpa [step] using taken
      exact callsBack_newCacheChangeAdded callsBack change now inside
  | setOnDataAvailableCallback =>
      simp only [step, Option.ite_none_right_eq_some, Option.some.injEq] at taken
      obtain ⟨_, rfl⟩ := taken
      exact ⟨fun _ => rfl, callsBack.called⟩
  | unsetOnDataAvailableCallback =>
      simp only [step, Option.ite_none_right_eq_some, Option.some.injEq] at taken
      obtain ⟨_, rfl⟩ := taken
      have disabled : reader.enabled = false := admitted
      constructor <;> intro enabled <;> exact absurd (enabled.symm.trans disabled) (by decide)
  | disable =>
      simp only [step, Option.ite_none_right_eq_some, Option.some.injEq] at taken
      obtain ⟨_, rfl⟩ := taken
      exact ⟨nofun, nofun⟩
  | enable =>
      simp only [step, Option.ite_none_right_eq_some, Option.some.injEq] at taken
      obtain ⟨_, rfl⟩ := taken
      split
      · exact callsBack
      · exact ⟨fun _ => admitted, fun _ running => absurd rfl running⟩
  | enableNts =>
      simp only [step, Option.ite_none_right_eq_some, Option.some.injEq, if_pos reliable] at taken
      obtain ⟨_, rfl⟩ := taken
      rw [← onDataAvailable_setHolder]
      exact callsBack_onDataAvailable callsBack.set
  | take =>
      simp only [step, Option.ite_none_right_eq_some, Option.some.injEq] at taken
      obtain ⟨free, rfl⟩ := taken
      split
      · exact callsBack
      · split
        · next empty =>
            refine ⟨callsBack.set, ?_⟩
            intro _ _ unread
            exact absurd (List.isEmpty_iff.mp empty) unread
        · refine ⟨callsBack.set, ?_⟩
          intro enabled _ unread
          exact callsBack.called enabled (by rw [free]; exact nofun) unread
  | nextUntakenCache found =>
      simp only [step, Option.ite_none_right_eq_some] at taken
      obtain ⟨counted, outcome⟩ := taken
      have running : reader.holder ≠ .enabling := by
        rw [counted]
        exact nofun
      split at outcome <;> cases outcome <;>
        exact ⟨callsBack.set, fun enabled _ unread => callsBack.called enabled running unread⟩
  | fillReceivedData =>
      simp only [step] at taken
      split at taken
      · next id holds =>
          obtain ⟨arrival, found, rfl⟩ := Option.map_eq_some_iff.mp taken
          have running : reader.holder ≠ .enabling := by
            rw [holds]
            exact nofun
          have before : reader.history.erase id ≠ [] → reader.history ≠ [] := by
            intro unread empty
            rw [empty] at unread
            exact unread rfl
          unfold takeChange
          split <;>
            exact ⟨callsBack.set, fun enabled _ unread =>
              callsBack.called enabled running (before unread)⟩
      · cases taken

end RtpsReader

/-- **A reliable reader tells its track** of every change that waits in its history,
also of those that came while it was disabled. -/
theorem callsBack_of_reachable {attributes : ReaderAttributes} {reader : RtpsReader}
    (reliable : attributes.reliable = true)
    (reached : (readerSystem attributes).Reachable SetsCallback reader) :
    reader.enabled = true → reader.holder ≠ .enabling → reader.history ≠ [] →
      reader.called = true := by
  have callsBack : reader.CallsBack := by
    apply reached.invariant
    · intro start initial
      rw [show start = attributes.create from initial]
      exact ⟨nofun, nofun⟩
    · intro before label after invariant admitted taken
      exact RtpsReader.callsBack_step reliable invariant admitted taken
  exact callsBack.called

instance {reader : RtpsReader} {label : ReaderStep} : Decidable (SetsCallback reader label) := by
  unfold SetsCallback
  split <;> infer_instance

theorem callsBack_of_reachable_interruptedTake :
    ∃ reader : RtpsReader, reader.history = [1] ∧ reader.called = true := by
  obtain ⟨reader, reached, test⟩ := System.exists_reachable_of_runAdmitted
    (readerSystem unlimitedReader) unlimitedReader.create interruptedTake
    (fun reader label => decide (SetsCallback reader label))
    (fun reader => decide (reader.history = [1] ∧ reader.enabled = true ∧ reader.holder = .free))
    (fun _ _ _ admitted => of_decide_eq_true admitted) rfl (by decide +kernel)
  obtain ⟨history, enabled, free⟩ := of_decide_eq_true test
  refine ⟨reader, history, callsBack_of_reachable rfl reached enabled ?_ ?_⟩
  · rw [free]
    exact nofun
  · rw [history]
    exact nofun

end DdsPipe.Participants
