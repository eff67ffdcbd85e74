import DdsPipe.Communication.TrackWakeUps
import DdsPipe.Configuration.DdsPipeConfiguration

/-!
Owns the way of the samples through a track: the samples that its reader holds,
in order, the writers of the track, and the loop that writes one sample to each
of them, together with the hand-over to the thread pool. Writers are added to the
track and removed from it between two transmissions, and a writer that other
tracks use may be enabled or disabled by them at any time.

Every sample that the reader stores is written once to each writer of the track,
in order, and none is left behind when the track comes to rest
(`delivered_of_reachable`). A write finds its writer enabled, unless someone else
disables writers of the track (`writesEnabled_of_reachable`).

Does not own: what a writer does with a sample, and the payloads.
-/

namespace DdsPipe.Communication

open Std (TreeMap)
open DdsPipe.Types
open TransitionSystem

/-! ### State -/

/-- A sample that a take has removed from the reader, and the writers that the
track had then; `none` when the take failed. -/
structure Removal (Sample : Type) where
  sample : Sample
  writers : Option (List ParticipantId)
deriving DecidableEq, Repr

/-- A call of `write`, and whether the writer was enabled. -/
structure WriteCall (Sample : Type) where
  writer : ParticipantId
  sample : Sample
  enabled : Bool
deriving DecidableEq, Repr

/-- A track with its reader and its writers. `samples` is what the reader holds,
the oldest first, and `pending` what the loop over the writers has still to
write. `stored`, `removed` and `calls` are history that no step reads, the oldest
first. -/
structure TrackFlow (Thread Sample : Type) where
  track : TrackHandOver Thread := {}
  samples : List Sample := []
  writers : TreeMap ParticipantId Bool := ∅
  pending : List (ParticipantId × Sample) := []
  stored : List Sample := []
  removed : List (Removal Sample) := []
  calls : List (WriteCall Sample) := []

inductive FlowStep (Thread Sample : Type) where
  /-- What happens in the reader in a thread, and the sample that it stores. -/
  | arrive (thread : Thread) (sample : Option Sample) (calls : Bool)
  | callback (caller : Option Thread)
  | enable
  | disable
  | control (calls : Bool)
  | start
  | lock
  /-- The next step of the execution that holds the lock; a round of the loop over
  the writers is one step. -/
  | transmit (outcome : TakeOutcome)
  | addWriter (id : ParticipantId) (writerEnabled : Bool)
  | removeWriter (id : ParticipantId)
  /-- Someone else enables or disables a writer of the track. -/
  | switched (id : ParticipantId) (writerEnabled : Bool)

/-! ### Steps -/

namespace TrackFlow

variable {Thread Sample : Type} [DecidableEq Thread]

/-- A step of the hand-over that no sample takes part in. -/
def handOver (state : TrackFlow Thread Sample) (label : TrackStep Thread) :
    Option (TrackFlow Thread Sample) :=
  (state.track.step label).map fun track => { state with track := track }

/-- The writers after the step of `enable` or `disable` that is next. -/
def switchWriters (state : TrackFlow Thread Sample) : TreeMap ParticipantId Bool :=
  match state.track.control with
  | .enablingWriters => state.writers.map fun _ _ => true
  | .disablingWriters => state.writers.map fun _ _ => false
  | _ => state.writers

/-- The take of an execution that is at its take: the oldest sample leaves the
reader, and goes to all writers if the take succeeds. -/
def take (state : TrackFlow Thread Sample) (outcome : TakeOutcome) : TrackFlow Thread Sample :=
  match state.track.holder, state.samples with
  | some .taking, sample :: rest =>
      if state.track.readerEnabled then
        match outcome with
        | .ok =>
            { state with
              samples := rest
              pending := state.writers.keys.map fun id => (id, sample)
              removed := state.removed ++ [⟨sample, some state.writers.keys⟩] }
        | .failed true =>
            { state with samples := rest, removed := state.removed ++ [⟨sample, none⟩] }
        | .failed false => state
      else state
  | _, _ => state

/-- Both mutexes of the track are free. -/
def unlocked (state : TrackFlow Thread Sample) : Bool :=
  state.track.control == .idle && state.track.holder.isNone

def step (state : TrackFlow Thread Sample) :
    FlowStep Thread Sample → Option (TrackFlow Thread Sample)
  | .arrive thread sample calls =>
      (state.track.step (.arrive thread sample.isSome calls)).map fun track =>
        { state with
          track := track
          samples := state.samples ++ sample.toList
          stored := state.stored ++ sample.toList }
  | .callback caller => state.handOver (.callback caller)
  | .enable => state.handOver .enable
  | .disable => state.handOver .disable
  | .control calls =>
      (state.track.step (.control calls)).map fun track =>
        { state with track := track, writers := state.switchWriters }
  | .start => state.handOver .start
  | .lock => state.handOver .lock
  | .transmit outcome =>
      match state.pending with
      | (id, sample) :: rest =>
          some { state with
            pending := rest
            calls := state.calls ++ [⟨id, sample, state.writers[id]? == some true⟩] }
      | [] =>
          (state.track.step (.transmit outcome)).map fun track =>
            { state.take outcome with track := track }
  | .addWriter id writerEnabled =>
      if state.unlocked then
        some { state with
          writers := state.writers.insert id (state.track.enabled || writerEnabled) }
      else none
  | .removeWriter id =>
      if state.unlocked then some { state with writers := state.writers.erase id } else none
  | .switched id writerEnabled =>
      if state.writers.contains id then
        some { state with writers := state.writers.insert id writerEnabled }
      else none

end TrackFlow

/-- The runs of a new track with some writers, which are disabled. -/
def flowSystem (Thread Sample : Type) [DecidableEq Thread] :
    System (TrackFlow Thread Sample) (FlowStep Thread Sample) where
  Initial state := ∃ writers : TreeMap ParticipantId Bool, state = { writers := writers }
  step := TrackFlow.step

/-- A callback that adds to the counter is at most the (2^31 - 1)th since the last
store to it. -/
def FewFlowCallbacks {Thread Sample : Type} (state : TrackFlow Thread Sample) :
    FlowStep Thread Sample → Prop
  | .callback caller => FewCallbacks state.track (.callback caller)
  | _ => True

/-! ### Steps of the hand-over -/

/-- `disable` is under way. -/
def TrackControlPoint.Disabling : TrackControlPoint → Prop
  | .awaitingTransmission | .disablingReader | .disablingWriters => True
  | _ => False

/-- The execution has no transmission under way. -/
def TransmitPoint.Outside : TransmitPoint → Prop
  | .checking | .leaving => True
  | _ => False

namespace TrackHandOver

variable {Thread : Type} {state next : TrackHandOver Thread}

/-- The order in which the calls switch the reader: it is enabled once `enable`
has reached it, and disabled only after the execution under way has written what
it took. -/
structure Ordered (state : TrackHandOver Thread) : Prop where
  opened : state.enabled = true → ¬ state.control.BeforeReader → state.readerEnabled = true
  disabling : state.control.Disabling → state.enabled = false
  drained : state.enabled = false → state.control ≠ .awaitingTransmission →
    ∀ point, state.holder = some point → point.Outside
  writing : state.holder = some .writing → state.readerEnabled = true

theorem transmit_readerEnabled (state : TrackHandOver Thread) (outcome : TakeOutcome)
    (point : TransmitPoint) : (state.transmit outcome point).readerEnabled =
      state.readerEnabled := by
  cases point with
  | taking =>
      simp only [transmit]
      split
      · rfl
      · split
        · rfl
        · cases outcome <;> rfl
  | checking | storing | subtracting | writing | leaving => rfl

variable [DecidableEq Thread]

theorem stepControl_unread {calls : Bool} (taken : state.stepControl calls = some next) :
    next.enabled = state.enabled ∧ next.unread = state.unread ∧ next.holder = state.holder := by
  unfold stepControl at taken
  split at taken
  · cases taken
  · cases taken
    exact ⟨rfl, rfl, rfl⟩
  · cases taken
    exact ⟨rfl, rfl, rfl⟩
  · split at taken
    all_goals
      cases taken
      exact ⟨rfl, rfl, rfl⟩
  · split at taken
    all_goals
      cases taken
      exact ⟨rfl, rfl, rfl⟩
  · split at taken
    · cases taken
      exact ⟨rfl, rfl, rfl⟩
    · cases taken
  · split at taken
    · next free =>
        cases taken
        exact ⟨rfl, rfl, rfl⟩
    · cases taken
  · cases taken
    exact ⟨rfl, rfl, rfl⟩
  · cases taken
    exact ⟨rfl, rfl, rfl⟩

/-- What a callback leaves as it is. -/
theorem dataAvailable_frame (state : TrackHandOver Thread) (caller : Option Thread)
    (point : CallbackPoint) :
    (state.dataAvailable caller point).enabled = state.enabled ∧
      (state.dataAvailable caller point).readerEnabled = state.readerEnabled ∧
      (state.dataAvailable caller point).unread = state.unread ∧
      (state.dataAvailable caller point).holder = state.holder ∧
      (state.dataAvailable caller point).control = state.control := by
  cases point <;> exact ⟨rfl, rfl, rfl, rfl, rfl⟩

/-- What an arrival does to the reader. -/
theorem arrive_frame {thread : Thread} {stored calls : Bool}
    (taken : state.step (.arrive thread stored calls) = some next) :
    next.enabled = state.enabled ∧ next.readerEnabled = state.readerEnabled ∧
      next.unread = (if stored then state.unread + 1 else state.unread) ∧
      next.holder = state.holder ∧ next.control = state.control := by
  simp only [step] at taken
  split at taken
  · split at taken
    all_goals
      cases taken
      exact ⟨rfl, rfl, rfl, rfl, rfl⟩
  · cases taken

theorem ordered_stepControl (sound : state.Sound) (ordered : state.Ordered) {calls : Bool}
    (taken : state.stepControl calls = some next) : next.Ordered := by
  obtain ⟨opened, disabling, drained, writing⟩ := ordered
  have unopened := sound.unopened
  have enabling := sound.enabling
  unfold stepControl at taken
  cases point : state.control with
  | idle => simp [point] at taken
  | storingStatus | enablingWriters =>
      simp only [point, Option.some.injEq] at taken
      subst taken
      have running : state.enabled = true := enabling (by rw [point]; trivial)
      refine ⟨fun _ passed => absurd trivial passed, False.elim, fun stopped => ?_, writing⟩
      rw [running] at stopped
      cases stopped
  | enablingReader =>
      have running : state.enabled = true := enabling (by rw [point]; trivial)
      have closed : state.readerEnabled = false := unopened (by rw [point]; trivial)
      simp only [point, closed, Bool.false_eq_true, if_false, Option.some.injEq] at taken
      subst taken
      refine ⟨fun _ _ => rfl, False.elim, fun stopped => ?_, fun _ => rfl⟩
      rw [running] at stopped
      cases stopped
  | consultingReader =>
      have running : state.enabled = true := enabling (by rw [point]; trivial)
      have there : state.readerEnabled = true := opened running (by rw [point]; exact id)
      simp only [point] at taken
      split at taken
      all_goals
        cases taken
        exact ⟨fun _ _ => there, False.elim,
          fun stopped => absurd running (by simp_all [setCallback]), fun _ => there⟩
  | callingBack =>
      have running : state.enabled = true := enabling (by rw [point]; trivial)
      have there : state.readerEnabled = true := opened running (by rw [point]; exact id)
      simp only [point] at taken
      split at taken
      · cases taken
        exact ⟨fun _ _ => there, False.elim, fun stopped => absurd running (by simp_all),
          fun _ => there⟩
      · cases taken
  | awaitingTransmission =>
      have stopped : state.enabled = false := disabling (by rw [point]; trivial)
      simp only [point] at taken
      split at taken
      · next free =>
          cases taken
          exact ⟨fun running => absurd running (by simp [stopped]), fun _ => stopped,
            fun _ _ point holds => absurd holds (by simp [free]), writing⟩
      · cases taken
  | disablingReader =>
      have stopped : state.enabled = false := disabling (by rw [point]; trivial)
      simp only [point, Option.some.injEq] at taken
      subst taken
      have quiet := drained stopped (by simp [point])
      refine ⟨fun running => absurd running (by simp [stopped]), fun _ => stopped,
        fun _ _ => quiet, fun writes => ?_⟩
      exact (quiet .writing writes).elim
  | disablingWriters =>
      have stopped : state.enabled = false := disabling (by rw [point]; trivial)
      simp only [point, Option.some.injEq] at taken
      subst taken
      exact ⟨fun running => absurd running (by simp [stopped]), False.elim,
        fun _ _ => drained stopped (by simp [point]), writing⟩

omit [DecidableEq Thread] in
theorem ordered_transmit (ordered : state.Ordered) {point : TransmitPoint} (outcome : TakeOutcome)
    (here : state.holder = some point) : (state.transmit outcome point).Ordered := by
  have frame := transmit_frame state outcome point
  have reader := transmit_readerEnabled state outcome point
  refine ⟨?_, ?_, ?_, ?_⟩
  · rw [frame.enabled, frame.control, reader]
    exact ordered.opened
  · rw [frame.enabled, frame.control]
    exact ordered.disabling
  · rw [frame.enabled, frame.control]
    intro stopped away next holds
    have outside := ordered.drained stopped away point here
    cases point with
    | checking =>
        simp only [transmit, stopped, Bool.false_eq_true, if_false, Option.some.injEq] at holds
        subst holds
        trivial
    | leaving => cases holds
    | storing | taking | subtracting | writing => exact outside.elim
  · rw [reader]
    intro writes
    cases point with
    | taking =>
        simp only [transmit] at writes
        split at writes
        · cases writes
        · next opened => simpa using opened
    | checking | subtracting =>
        simp only [transmit] at writes
        split at writes <;> cases writes
    | storing | writing | leaving => cases writes

/-- **One step** of any thread keeps the order. -/
theorem ordered_step (sound : state.Sound) (ordered : state.Ordered) {label : TrackStep Thread}
    (taken : state.step label = some next) : next.Ordered := by
  have same : next.enabled = state.enabled → next.readerEnabled = state.readerEnabled →
      next.holder = state.holder → next.control = state.control → next.Ordered := by
    intro enabled reader holder control
    refine ⟨?_, ?_, ?_, ?_⟩
    · rw [enabled, control, reader]
      exact ordered.opened
    · rw [enabled, control]
      exact ordered.disabling
    · rw [enabled, control, holder]
      exact ordered.drained
    · rw [holder, reader]
      exact ordered.writing
  cases label with
  | arrive thread stored calls =>
      obtain ⟨enabled, reader, _, holder, control⟩ := arrive_frame taken
      exact same enabled reader holder control
  | callback caller =>
      obtain ⟨point, _, rfl⟩ := Option.map_eq_some_iff.mp taken
      obtain ⟨enabled, reader, _, holder, control⟩ := dataAvailable_frame state caller point
      exact same enabled reader holder control
  | enable =>
      simp only [step] at taken
      split at taken
      · next idle =>
          split at taken
          · cases taken
            exact ordered
          · next stopped =>
              rw [Bool.not_eq_true] at stopped
              cases taken
              exact ⟨fun _ passed => absurd trivial passed, False.elim,
                fun off => absurd off (by simp), ordered.writing⟩
      · cases taken
  | disable =>
      simp only [step] at taken
      split at taken
      · next idle =>
          split at taken
          · cases taken
            exact ⟨fun running => absurd running (by simp), fun _ => rfl,
              fun _ away => absurd rfl away, ordered.writing⟩
          · cases taken
            exact ordered
      · cases taken
  | control calls => exact ordered_stepControl sound ordered taken
  | start =>
      simp only [step, Option.ite_none_right_eq_some, Option.some.injEq] at taken
      obtain ⟨_, rfl⟩ := taken
      exact same rfl rfl rfl rfl
  | lock =>
      simp only [step] at taken
      split at taken
      · split at taken
        · cases taken
          refine ⟨ordered.opened, ordered.disabling, fun _ _ point holds => ?_,
            fun writes => by cases writes⟩
          cases holds
          trivial
        · cases taken
      · cases taken
  | transmit outcome =>
      obtain ⟨point, here, rfl⟩ := Option.map_eq_some_iff.mp taken
      exact ordered_transmit ordered outcome here

/-- Only arrivals and executions touch the samples of the reader, and a transmission
under way is left alone. -/
theorem step_frame {label : TrackStep Thread} (taken : state.step label = some next)
    (arrives : ∀ thread stored calls, label ≠ .arrive thread stored calls)
    (transmits : ∀ outcome, label ≠ .transmit outcome) :
    next.unread = state.unread ∧ (state.holder = some .writing → next.holder = some .writing) := by
  cases label with
  | arrive thread stored calls => exact absurd rfl (arrives thread stored calls)
  | transmit outcome => exact absurd rfl (transmits outcome)
  | callback caller =>
      obtain ⟨point, _, rfl⟩ := Option.map_eq_some_iff.mp taken
      obtain ⟨_, _, unread, holder, _⟩ := dataAvailable_frame state caller point
      rw [unread, holder]
      exact ⟨rfl, id⟩
  | control calls =>
      obtain ⟨_, unread, holder⟩ := stepControl_unread taken
      rw [unread, holder]
      exact ⟨rfl, id⟩
  | enable | disable =>
      simp only [step] at taken
      split at taken
      · split at taken
        all_goals
          cases taken
          exact ⟨rfl, id⟩
      · cases taken
  | start =>
      simp only [step, Option.ite_none_right_eq_some, Option.some.injEq] at taken
      obtain ⟨_, rfl⟩ := taken
      exact ⟨rfl, id⟩
  | lock =>
      simp only [step] at taken
      split at taken
      · next free =>
          split at taken
          · cases taken
            exact ⟨rfl, fun writes => by simp [free] at writes⟩
          · cases taken
      · cases taken

end TrackHandOver

/-! ### The samples -/

variable {Thread Sample : Type}

/-- The writer and the sample of a call. -/
def WriteCall.target (call : WriteCall Sample) : ParticipantId × Sample :=
  (call.writer, call.sample)

/-- The calls that a removed sample has to lead to. -/
def Removal.targets (removal : Removal Sample) : List (ParticipantId × Sample) :=
  (removal.writers.getD []).map fun id => (id, removal.sample)

namespace TrackFlow

/-- What the reader has stored is what takes have removed and what it holds; what
has been written and what is still to be written is what the takes lead to. -/
structure Flows (state : TrackFlow Thread Sample) : Prop where
  sound : state.track.Sound
  ordered : state.track.Ordered
  held : state.samples.length = state.track.unread
  writing : state.pending ≠ [] → state.track.holder = some .writing
  consumed : state.stored = state.removed.map Removal.sample ++ state.samples
  written : state.calls.map WriteCall.target ++ state.pending =
    state.removed.flatMap Removal.targets
  distinct : ∀ removal ∈ state.removed, ∀ ids, removal.writers = some ids → ids.Nodup

variable [DecidableEq Thread] {state next : TrackFlow Thread Sample}

/-- A step that takes no sample into the reader or out of it. -/
theorem Flows.handOver (flows : state.Flows) {label : TrackStep Thread}
    {track : TrackHandOver Thread}
    (taken : state.track.step label = some track) (few : FewCallbacks state.track label)
    (arrives : ∀ thread stored calls, label ≠ .arrive thread stored calls)
    (transmits : ∀ outcome, label ≠ .transmit outcome) :
    Flows { state with track := track } := by
  obtain ⟨unread, writes⟩ := TrackHandOver.step_frame taken arrives transmits
  refine ⟨TrackHandOver.sound_step flows.sound few taken,
    TrackHandOver.ordered_step flows.sound flows.ordered taken, ?_, fun more => ?_,
    flows.consumed, flows.written, flows.distinct⟩
  · rw [unread]
    exact flows.held
  · exact writes (flows.writing more)

omit [DecidableEq Thread] in
/-- No execution is in its loop over the writers. -/
theorem Flows.pending_of_unlocked (flows : state.Flows) (free : state.unlocked = true) :
    state.pending = [] := by
  by_contra more
  have writes := flows.writing more
  simp [unlocked, writes] at free

theorem flows_arrive (flows : state.Flows) {thread : Thread} {sample : Option Sample} {calls : Bool}
    (taken : state.step (.arrive thread sample calls) = some next) : next.Flows := by
  obtain ⟨track, arrived, rfl⟩ := Option.map_eq_some_iff.mp taken
  obtain ⟨_, _, unread, holder, _⟩ := TrackHandOver.arrive_frame arrived
  have few : FewCallbacks state.track (.arrive thread sample.isSome calls) := trivial
  refine ⟨TrackHandOver.sound_step flows.sound few arrived,
    TrackHandOver.ordered_step flows.sound flows.ordered arrived, ?_, fun more => ?_, ?_,
    flows.written, flows.distinct⟩
  · rw [unread, ← flows.held]
    cases sample <;> simp
  · rw [holder]
    exact flows.writing more
  · show state.stored ++ sample.toList = _ ++ (state.samples ++ sample.toList)
    rw [flows.consumed, List.append_assoc]

/-- One round of the loop over the writers. -/
theorem flows_write (flows : state.Flows) {outcome : TakeOutcome} {id : ParticipantId}
    {sample : Sample} {rest : List (ParticipantId × Sample)}
    (more : state.pending = (id, sample) :: rest)
    (taken : state.step (.transmit outcome) = some next) : next.Flows := by
  simp only [step, more, Option.some.injEq] at taken
  subst taken
  refine ⟨flows.sound, flows.ordered, flows.held, fun _ => ?_, flows.consumed, ?_,
    flows.distinct⟩
  · exact flows.writing (by simp [more])
  · show (state.calls ++ [_]).map WriteCall.target ++ rest = _
    rw [← flows.written, more, List.map_append, List.append_assoc]
    rfl

omit [DecidableEq Thread] in
/-- What a take does to the samples and to the counter of the hand-over. -/
theorem take_cases (held : state.samples.length = state.track.unread) (outcome : TakeOutcome)
    {point : TransmitPoint} (here : state.track.holder = some point) :
    (state.take outcome = state ∧
      (state.track.transmit outcome point).unread = state.track.unread) ∨
    ∃ sample rest, state.samples = sample :: rest ∧
      (state.track.transmit outcome point).unread = rest.length ∧
      ((state.track.transmit outcome point).holder = some .writing ∧
        state.track.readerEnabled = true ∧
        state.take outcome = { state with
          samples := rest
          pending := state.writers.keys.map fun id => (id, sample)
          removed := state.removed ++ [⟨sample, some state.writers.keys⟩] } ∨
      state.take outcome = { state with
        samples := rest, removed := state.removed ++ [⟨sample, none⟩] }) := by
  unfold take
  rw [here]
  cases point with
  | checking | storing | subtracting | writing | leaving => exact .inl ⟨rfl, rfl⟩
  | taking =>
      cases samples : state.samples with
      | nil =>
          have empty : state.track.unread = 0 := by rw [← held, samples, List.length_nil]
          refine .inl ⟨rfl, ?_⟩
          cases opened : state.track.readerEnabled <;> simp [TrackHandOver.transmit, opened, empty]
      | cons sample rest =>
          have count : state.track.unread = rest.length + 1 := by
            rw [← held, samples, List.length_cons]
          have some : ¬ state.track.unread = 0 := by omega
          cases opened : state.track.readerEnabled with
          | false =>
              exact .inl ⟨rfl, by simp [TrackHandOver.transmit, opened]⟩
          | true =>
              cases outcome with
              | ok =>
                  refine .inr ⟨sample, rest, rfl, ?_, .inl ⟨?_, rfl, rfl⟩⟩
                  · simp [TrackHandOver.transmit, opened, count]
                  · simp [TrackHandOver.transmit, opened, some]
              | failed removed =>
                  cases removed with
                  | false => exact .inl ⟨rfl, by simp [TrackHandOver.transmit, opened, some]⟩
                  | true =>
                      refine .inr ⟨sample, rest, rfl, ?_, .inr rfl⟩
                      simp [TrackHandOver.transmit, opened, count]

theorem flows_transmit (flows : state.Flows) {outcome : TakeOutcome}
    (done : state.pending = []) (taken : state.step (.transmit outcome) = some next) :
    next.Flows := by
  simp only [step, done] at taken
  obtain ⟨track, transmitted, rfl⟩ := Option.map_eq_some_iff.mp taken
  have few : FewCallbacks state.track (.transmit outcome) := trivial
  have sound := TrackHandOver.sound_step flows.sound few transmitted
  have ordered := TrackHandOver.ordered_step flows.sound flows.ordered transmitted
  obtain ⟨point, here, rfl⟩ := Option.map_eq_some_iff.mp transmitted
  have written := flows.written
  rw [done, List.append_nil] at written
  rcases take_cases flows.held outcome here with
    ⟨same, unread⟩ | ⟨sample, rest, samples, unread, ⟨writes, _, taken⟩ | lost⟩
  · rw [same]
    refine ⟨sound, ordered, ?_, fun more => absurd done more, flows.consumed, flows.written,
      flows.distinct⟩
    rw [unread]
    exact flows.held
  · rw [taken]
    refine ⟨sound, ordered, unread.symm, fun _ => writes, ?_, ?_, fun removal member ids => ?_⟩
    · show state.stored = _
      rw [flows.consumed, samples]
      simp
    · show state.calls.map WriteCall.target ++ _ = _
      rw [written, List.flatMap_append]
      simp [Removal.targets]
    · rcases List.mem_append.mp member with before | new
      · exact flows.distinct removal before ids
      · rw [List.mem_singleton.mp new]
        rintro ⟨⟩
        exact TreeMap.nodup_keys
  · rw [lost]
    refine ⟨sound, ordered, unread.symm, fun more => absurd done more, ?_, ?_,
      fun removal member ids => ?_⟩
    · show state.stored = _
      rw [flows.consumed, samples]
      simp
    · show state.calls.map WriteCall.target ++ state.pending = _
      rw [done, List.append_nil, written, List.flatMap_append]
      simp [Removal.targets]
    · rcases List.mem_append.mp member with before | new
      · exact flows.distinct removal before ids
      · rw [List.mem_singleton.mp new]
        rintro ⟨⟩

/-- **One step** of any thread. -/
theorem flows_step (flows : state.Flows) {label : FlowStep Thread Sample}
    (few : FewFlowCallbacks state label) (taken : state.step label = some next) : next.Flows := by
  cases label with
  | arrive thread sample calls => exact flows_arrive flows taken
  | callback caller =>
      obtain ⟨track, called, rfl⟩ := Option.map_eq_some_iff.mp taken
      exact flows.handOver called few (by simp) (by simp)
  | enable | disable | start | lock =>
      obtain ⟨track, called, rfl⟩ := Option.map_eq_some_iff.mp taken
      exact flows.handOver called trivial (by simp) (by simp)
  | control calls =>
      obtain ⟨track, called, rfl⟩ := Option.map_eq_some_iff.mp taken
      obtain ⟨sound, ordered, held, writing, consumed, written, distinct⟩ :=
        flows.handOver called trivial (by simp) (by simp)
      exact ⟨sound, ordered, held, writing, consumed, written, distinct⟩
  | transmit outcome =>
      cases more : state.pending with
      | nil => exact flows_transmit flows more taken
      | cons target rest => exact flows_write flows more taken
  | addWriter id writerEnabled | removeWriter id | switched id writerEnabled =>
      simp only [step, Option.ite_none_right_eq_some, Option.some.injEq] at taken
      obtain ⟨_, rfl⟩ := taken
      exact ⟨flows.sound, flows.ordered, flows.held, flows.writing, flows.consumed, flows.written,
        flows.distinct⟩

/-! ### Delivery -/

/-- The samples of the calls on one writer, in order. -/
def writtenTo (state : TrackFlow Thread Sample) (id : ParticipantId) : List Sample :=
  (state.calls.filter fun call => call.writer = id).map WriteCall.sample

/-- The sample that the loop over the writers has still to write to that writer. -/
def pendingTo (state : TrackFlow Thread Sample) (id : ParticipantId) : List Sample :=
  (state.pending.filter fun target => target.1 = id).map Prod.snd

/-- The samples that takes returned while the track had the writer, in order. -/
def takenFor (state : TrackFlow Thread Sample) (id : ParticipantId) : List Sample :=
  (state.removed.filter fun removal => removal.writers.any (id ∈ ·)).map Removal.sample

/-- The track is enabled and nothing of it is under way. -/
structure AtRest (state : TrackFlow Thread Sample) : Prop where
  enabled : state.track.enabled = true
  control : state.track.control = .idle
  callbacks : ∀ caller, state.track.callbacks caller = none
  queued : state.track.queued = 0
  waiting : state.track.waiting = 0
  holder : state.track.holder = none

/-- Every stored sample is held by the reader or was removed by a take, in order.
Each writer gets every sample that a take returned while the track had it, once
and in order. A track at rest has nothing left to take or to write. -/
structure Delivered (state : TrackFlow Thread Sample) : Prop where
  consumed : state.stored = state.removed.map Removal.sample ++ state.samples
  written : ∀ id, state.writtenTo id ++ state.pendingTo id = state.takenFor id
  drained : state.AtRest → state.samples = [] ∧ state.pending = []

/-- A sample leads to one call on each writer of its take. -/
theorem targets_filter {removal : Removal Sample}
    (nodup : ∀ ids, removal.writers = some ids → ids.Nodup) (id : ParticipantId) :
    (removal.targets.filter fun target => target.1 = id).map Prod.snd =
      if removal.writers.any (id ∈ ·) then [removal.sample] else [] := by
  cases writers : removal.writers with
  | none => simp [Removal.targets, writers]
  | some ids =>
      have once : (ids.filter (· = id)) = if id ∈ ids then [id] else [] := by
        have distinct := nodup ids writers
        split
        · next member =>
            rw [List.filter_eq, List.count_eq_one_of_mem distinct member]
            rfl
        · next absent =>
            rw [List.filter_eq, List.count_eq_zero_of_not_mem absent]
            rfl
      simp only [Removal.targets, writers, Option.getD_some, List.filter_map, List.map_map]
      show (ids.filter (· = id)).map (fun _ => removal.sample) = _
      rw [once]
      by_cases member : id ∈ ids <;> simp [member]

omit [DecidableEq Thread] in
theorem Flows.written_eq_takenFor (flows : state.Flows) (id : ParticipantId) :
    state.writtenTo id ++ state.pendingTo id = state.takenFor id := by
  have called : state.writtenTo id =
      ((state.calls.map WriteCall.target).filter fun target => target.1 = id).map Prod.snd := by
    rw [List.filter_map, List.map_map]
    rfl
  rw [called, pendingTo, ← List.map_append, ← List.filter_append, flows.written, takenFor]
  have distinct := flows.distinct
  generalize state.removed = removed at distinct ⊢
  induction removed with
  | nil => rfl
  | cons removal rest inductionHypothesis =>
      rw [List.flatMap_cons, List.filter_append, List.map_append,
        targets_filter (distinct removal List.mem_cons_self), List.filter_cons,
        inductionHypothesis fun other member => distinct other (List.mem_cons_of_mem _ member)]
      split <;> rfl

omit [DecidableEq Thread] in
/-- A track at rest has no execution to come, so that its reader holds nothing. -/
theorem Flows.drained (flows : state.Flows) (rest : state.AtRest) :
    state.samples = [] ∧ state.pending = [] := by
  have pending : state.pending = [] := by
    by_contra more
    have writes := flows.writing more
    rw [rest.holder] at writes
    cases writes
  refine ⟨?_, pending⟩
  have opened : state.track.readerEnabled = true :=
    flows.ordered.opened rest.enabled (by rw [rest.control]; exact id)
  rw [← List.length_eq_zero_iff, flows.held]
  by_contra some
  have filled : 0 < state.track.unread := Nat.pos_of_ne_zero some
  rcases flows.sound.covered rest.enabled opened filled (by simp [rest.control]) with
    ⟨caller, busy⟩ | queued | waiting | ⟨point, holds, _⟩
  · exact busy (rest.callbacks caller)
  · rw [rest.queued] at queued
    cases queued
  · rw [rest.waiting] at waiting
    cases waiting
  · rw [rest.holder] at holds
    cases holds

end TrackFlow

theorem flows_of_reachable {Thread Sample : Type} [DecidableEq Thread]
    {state : TrackFlow Thread Sample}
    {Admits : TrackFlow Thread Sample → FlowStep Thread Sample → Prop}
    (few : ∀ state label, Admits state label → FewFlowCallbacks state label)
    (reached : (flowSystem Thread Sample).Reachable Admits state) : state.Flows := by
  have initially : ∀ start, (flowSystem Thread Sample).Initial start → start.Flows := by
    rintro _ ⟨writers, rfl⟩
    refine ⟨⟨by simp, by simp, Nat.two_pow_pos 31, by simp, False.elim, False.elim, by simp,
      fun _ => rfl⟩, ⟨by simp, fun _ => rfl, by simp, by simp⟩, rfl, by simp, rfl, rfl, by simp⟩
  have kept : ∀ before label after, before.Flows → Admits before label →
      (flowSystem Thread Sample).step before label = some after → after.Flows := by
    intro before label after flows admitted taken
    exact TrackFlow.flows_step flows (few before label admitted) taken
  exact reached.invariant initially kept

/-- **Every sample is delivered once and in order**, and none is left behind. -/
theorem delivered_of_reachable {Thread Sample : Type} [DecidableEq Thread]
    {state : TrackFlow Thread Sample}
    (reached : (flowSystem Thread Sample).Reachable FewFlowCallbacks state) : state.Delivered := by
  have flows := flows_of_reachable (fun _ _ few => few) reached
  exact ⟨flows.consumed, flows.written_eq_takenFor, flows.drained⟩

theorem fewFlowCallbacks_of_adds {Thread Sample : Type} {state : TrackFlow Thread Sample}
    {label : FlowStep Thread Sample} (few : decide (state.track.adds + 1 < 2 ^ 31) = true) :
    FewFlowCallbacks state label := by
  cases label with
  | callback => exact fun _ => of_decide_eq_true few
  | arrive | enable | disable | control | start | lock | transmit | addWriter | removeWriter |
      switched => trivial

/-- The run of a track with two writers: it is enabled, a sample arrives, and an
execution takes the sample, writes it twice and takes once more. -/
def forwardOne : List (FlowStep Unit Nat) :=
  [.enable, .control false, .control false, .control false, .control false,
    .arrive () (some 7) true, .callback (some ()), .callback (some ()), .callback (some ()),
    .start, .lock] ++ List.replicate 11 (.transmit .ok)

/-- A track with writers of `b` and `c`, which are disabled. -/
def twoWriters : TrackFlow Unit Nat where
  writers := TreeMap.ofList [("b", false), ("c", false)]

theorem delivered_of_reachable_forwardOne :
    ∃ state : TrackFlow Unit Nat, (state.track.holder = none ∧ state.stored = [7] ∧
      state.writtenTo "b" = [7] ∧ state.writtenTo "c" = [7]) ∧ state.Delivered := by
  obtain ⟨state, reached, test⟩ := System.exists_reachable_of_runAdmitted (flowSystem Unit Nat)
    twoWriters forwardOne (fun state _ => state.track.adds + 1 < 2 ^ 31)
    (fun state => decide (state.track.holder = none ∧ state.stored = [7] ∧
      state.writtenTo "b" = [7] ∧ state.writtenTo "c" = [7]))
    (fun _ _ _ few => fewFlowCallbacks_of_adds few) ⟨_, rfl⟩ (by decide +kernel)
  exact ⟨state, of_decide_eq_true test, delivered_of_reachable reached⟩

/-! ### Enabled writers -/

/-- Nobody but the track disables its writers. -/
def OwnsWriters {Thread Sample : Type} (state : TrackFlow Thread Sample)
    (label : FlowStep Thread Sample) : Prop :=
  FewFlowCallbacks state label ∧ ∀ id, label ≠ .switched id false

namespace TrackFlow

/-- The writers of a track whose reader is enabled, or about to be, are enabled. -/
structure Ready (state : TrackFlow Thread Sample) : Prop where
  opened : state.track.readerEnabled = true ∨ state.track.control = .enablingReader →
    ∀ (id : ParticipantId) (flag : Bool), state.writers[id]? = some flag → flag = true
  present : ∀ target ∈ state.pending, target.1 ∈ state.writers
  enabled : ∀ call ∈ state.calls, call.enabled = true

variable {state next : TrackFlow Thread Sample}

/-- The reader is enabled after the writers, and disabled before them. -/
theorem reader_of_stepControl {Thread : Type} [DecidableEq Thread]
    {track after : TrackHandOver Thread} {calls : Bool} (sound : track.Sound)
    (ordered : track.Ordered) (taken : track.stepControl calls = some after)
    (opens : after.readerEnabled = true ∨ after.control = .enablingReader) :
    track.control = .enablingWriters ∨
      (track.readerEnabled = true ∨ track.control = .enablingReader) ∧
        track.control ≠ .disablingWriters := by
  have closing := sound.closing
  have disabling := ordered.disabling
  unfold TrackHandOver.stepControl at taken
  cases point : track.control with
  | idle => simp [point] at taken
  | enablingWriters => exact .inl rfl
  | enablingReader => exact .inr ⟨.inr rfl, by simp⟩
  | storingStatus =>
      simp only [point, Option.some.injEq] at taken
      subst taken
      exact .inr ⟨.inl (opens.resolve_right (by simp)), by simp⟩
  | consultingReader =>
      simp only [point] at taken
      split at taken
      all_goals
        cases taken
        exact .inr ⟨.inl (opens.resolve_right (by simp)), by simp⟩
  | callingBack | awaitingTransmission =>
      simp only [point] at taken
      split at taken
      · cases taken
        exact .inr ⟨.inl (opens.resolve_right (by simp)), by simp⟩
      · cases taken
  | disablingReader =>
      simp only [point, Option.some.injEq] at taken
      subst taken
      simp at opens
  | disablingWriters =>
      simp only [point, Option.some.injEq] at taken
      subst taken
      have opened : track.readerEnabled = true := opens.resolve_right (by simp)
      have still := closing (disabling (by rw [point]; trivial)) opened
      rw [point] at still
      exact still.elim

variable {Thread Sample : Type} {state next : TrackFlow Thread Sample}

/-- What leaves the reader, the writers and the loop over them as they are. -/
theorem Ready.of_same (ready : state.Ready)
    (opens : next.track.readerEnabled = true ∨ next.track.control = .enablingReader →
      state.track.readerEnabled = true ∨ state.track.control = .enablingReader)
    (writers : next.writers = state.writers) (pending : next.pending = state.pending)
    (calls : next.calls = state.calls) : next.Ready := by
  refine ⟨fun there => ?_, ?_, ?_⟩
  · rw [writers]
    exact ready.opened (opens there)
  · rw [writers, pending]
    exact ready.present
  · rw [calls]
    exact ready.enabled

/-- Between two transmissions, the reader of a track is enabled only with the track. -/
theorem enabled_of_unlocked (flows : state.Flows) (free : state.unlocked = true)
    (opens : state.track.readerEnabled = true ∨ state.track.control = .enablingReader) :
    state.track.enabled = true := by
  rw [unlocked, Bool.and_eq_true, beq_iff_eq] at free
  have opened : state.track.readerEnabled = true := opens.resolve_right (by simp [free.1])
  by_contra stopped
  have still := flows.sound.closing (by simpa using stopped) opened
  rw [free.1] at still
  exact still

variable [DecidableEq Thread]

theorem ready_control (flows : state.Flows) (ready : state.Ready) {calls : Bool}
    (taken : state.step (.control calls) = some next) : next.Ready := by
  obtain ⟨track, controlled, rfl⟩ := Option.map_eq_some_iff.mp taken
  refine ⟨fun opens id flag found => ?_, fun target member => ?_, ready.enabled⟩
  · have before := reader_of_stepControl flows.sound flows.ordered controlled opens
    change state.switchWriters[id]? = some flag at found
    unfold switchWriters at found
    split at found
    · rw [TreeMap.getElem?_map, Option.map_eq_some_iff] at found
      obtain ⟨_, _, flagged⟩ := found
      exact flagged.symm
    · next point =>
        rcases before with enabling | ⟨_, away⟩
        · rw [point] at enabling
          cases enabling
        · exact absurd point away
    · next other _ =>
        rcases before with enabling | ⟨opens, _⟩
        · exact absurd enabling other
        · exact ready.opened opens id flag found
  · have there := ready.present target member
    show target.1 ∈ state.switchWriters
    unfold switchWriters
    split
    · exact TreeMap.mem_map.mpr there
    · exact TreeMap.mem_map.mpr there
    · exact there

/-- A write finds its writer enabled. -/
theorem ready_transmit (flows : state.Flows) (ready : state.Ready) {outcome : TakeOutcome}
    (taken : state.step (.transmit outcome) = some next) : next.Ready := by
  cases more : state.pending with
  | cons target rest =>
      obtain ⟨id, sample⟩ := target
      simp only [step, more, Option.some.injEq] at taken
      subst taken
      have opened : state.track.readerEnabled = true :=
        flows.ordered.writing (flows.writing (by simp [more]))
      have member : id ∈ state.writers := ready.present (id, sample) (by simp [more])
      obtain ⟨flag, found⟩ := OrderedMap.mem_iff_exists_getElem?.mp member
      have flagged := ready.opened (.inl opened) id flag found
      refine ⟨ready.opened, fun target member => ?_, fun call member => ?_⟩
      · exact ready.present target (by rw [more]; exact List.mem_cons_of_mem _ member)
      · rcases List.mem_append.mp member with before | new
        · exact ready.enabled call before
        · rw [List.mem_singleton.mp new, found, flagged]
          rfl
  | nil =>
      simp only [step, more] at taken
      obtain ⟨track, transmitted, rfl⟩ := Option.map_eq_some_iff.mp taken
      obtain ⟨point, here, rfl⟩ := Option.map_eq_some_iff.mp transmitted
      have reader := TrackHandOver.transmit_readerEnabled state.track outcome point
      have control := (TrackHandOver.transmit_frame state.track outcome point).control
      rcases take_cases flows.held outcome here with
        ⟨same, _⟩ | ⟨sample, rest, _, _, ⟨_, _, taken⟩ | lost⟩
      · rw [same]
        refine ready.of_same (fun opens => ?_) rfl rfl rfl
        rwa [reader, control] at opens
      · rw [taken]
        refine ⟨fun opens => ?_, fun target member => ?_, ready.enabled⟩
        · rw [reader, control] at opens
          exact ready.opened opens
        · obtain ⟨id, key, rfl⟩ := List.mem_map.mp member
          exact TreeMap.mem_keys.mp key
      · rw [lost]
        refine ready.of_same (fun opens => ?_) rfl rfl rfl
        rwa [reader, control] at opens

theorem ready_step (flows : state.Flows) (ready : state.Ready) {label : FlowStep Thread Sample}
    (owns : OwnsWriters state label) (taken : state.step label = some next) : next.Ready := by
  cases label with
  | arrive thread sample calls =>
      obtain ⟨track, arrived, rfl⟩ := Option.map_eq_some_iff.mp taken
      obtain ⟨_, reader, _, _, control⟩ := TrackHandOver.arrive_frame arrived
      refine ready.of_same (fun opens => ?_) rfl rfl rfl
      rwa [reader, control] at opens
  | callback caller =>
      obtain ⟨track, called, rfl⟩ := Option.map_eq_some_iff.mp taken
      obtain ⟨point, _, rfl⟩ := Option.map_eq_some_iff.mp called
      obtain ⟨_, reader, _, _, control⟩ :=
        TrackHandOver.dataAvailable_frame state.track caller point
      refine ready.of_same (fun opens => ?_) rfl rfl rfl
      rwa [reader, control] at opens
  | enable | disable =>
      obtain ⟨track, called, rfl⟩ := Option.map_eq_some_iff.mp taken
      simp only [TrackHandOver.step] at called
      split at called
      · split at called
        all_goals
          cases called
          exact ready.of_same (fun opens => by simp_all) rfl rfl rfl
      · cases called
  | control calls => exact ready_control flows ready taken
  | start =>
      obtain ⟨track, called, rfl⟩ := Option.map_eq_some_iff.mp taken
      simp only [TrackHandOver.step, Option.ite_none_right_eq_some, Option.some.injEq] at called
      obtain ⟨_, rfl⟩ := called
      exact ready.of_same id rfl rfl rfl
  | lock =>
      obtain ⟨track, called, rfl⟩ := Option.map_eq_some_iff.mp taken
      simp only [TrackHandOver.step] at called
      split at called
      · split at called
        · cases called
          exact ready.of_same id rfl rfl rfl
        · cases called
      · cases called
  | transmit outcome => exact ready_transmit flows ready taken
  | addWriter id writerEnabled =>
      simp only [step, Option.ite_none_right_eq_some, Option.some.injEq] at taken
      obtain ⟨free, rfl⟩ := taken
      refine ⟨fun opens other flag found => ?_, fun target member => ?_, ready.enabled⟩
      · have running := enabled_of_unlocked flows free opens
        by_cases same : other = id
        · subst same
          rw [TreeMap.getElem?_insert_self, running, Option.some.injEq] at found
          exact found.symm
        · rw [OrderedMap.getElem?_insert_of_ne same] at found
          exact ready.opened opens other flag found
      · exact OrderedMap.mem_insert_iff.mpr (.inr (ready.present target member))
  | removeWriter id =>
      simp only [step, Option.ite_none_right_eq_some, Option.some.injEq] at taken
      obtain ⟨free, rfl⟩ := taken
      refine ⟨fun opens other flag found => ?_, fun target member => ?_, ready.enabled⟩
      · by_cases same : other = id
        · subst same
          rw [TreeMap.getElem?_erase_self] at found
          cases found
        · rw [OrderedMap.getElem?_erase_of_ne same] at found
          exact ready.opened opens other flag found
      · rw [show state.pending = [] from flows.pending_of_unlocked free] at member
        cases member
  | switched id writerEnabled =>
      simp only [step, Option.ite_none_right_eq_some, Option.some.injEq] at taken
      obtain ⟨_, rfl⟩ := taken
      have enabled : writerEnabled = true := by
        by_contra disabled
        rw [Bool.not_eq_true] at disabled
        exact owns.2 id (by rw [disabled])
      refine ⟨fun opens other flag found => ?_, fun target member => ?_, ready.enabled⟩
      · by_cases same : other = id
        · subst same
          rw [TreeMap.getElem?_insert_self, enabled, Option.some.injEq] at found
          exact found.symm
        · rw [OrderedMap.getElem?_insert_of_ne same] at found
          exact ready.opened opens other flag found
      · exact OrderedMap.mem_insert_iff.mpr (.inr (ready.present target member))

end TrackFlow

/-- **No write finds a disabled writer**, as long as nobody but the track disables
its writers. -/
theorem writesEnabled_of_reachable {Thread Sample : Type} [DecidableEq Thread]
    {state : TrackFlow Thread Sample}
    (reached : (flowSystem Thread Sample).Reachable OwnsWriters state) :
    ∀ call ∈ state.calls, call.enabled = true := by
  have initially : ∀ start, (flowSystem Thread Sample).Initial start →
      start.Flows ∧ start.Ready := by
    intro start initial
    refine ⟨flows_of_reachable (fun _ _ few => few) (.start initial), ?_⟩
    obtain ⟨writers, rfl⟩ := initial
    exact ⟨by simp, by simp, by simp⟩
  have kept : ∀ before label after, before.Flows ∧ before.Ready → OwnsWriters before label →
      (flowSystem Thread Sample).step before label = some after →
      after.Flows ∧ after.Ready := by
    rintro before label after ⟨flows, ready⟩ owns taken
    exact ⟨TrackFlow.flows_step flows owns.1 taken, TrackFlow.ready_step flows ready owns taken⟩
  exact (reached.invariant initially kept).2.enabled

theorem writesEnabled_of_reachable_forwardOne :
    ∃ state : TrackFlow Unit Nat, state.calls.length = 2 ∧
      ∀ call ∈ state.calls, call.enabled = true := by
  have owns : ∀ state label, label ∈ forwardOne →
      decide (state.track.adds + 1 < 2 ^ 31) = true → OwnsWriters state label := by
    intro state label member few
    refine ⟨fewFlowCallbacks_of_adds few, ?_⟩
    rintro id rfl
    simp [forwardOne] at member
  obtain ⟨state, reached, test⟩ := System.exists_reachable_of_runAdmitted (flowSystem Unit Nat)
    twoWriters forwardOne (fun state _ => state.track.adds + 1 < 2 ^ 31)
    (fun state => state.calls.length == 2) owns ⟨_, rfl⟩ (by decide +kernel)
  exact ⟨state, eq_of_beq test, writesEnabled_of_reachable reached⟩

end DdsPipe.Communication
