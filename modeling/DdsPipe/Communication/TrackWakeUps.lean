import DdsPipe.Library.TransitionSystem
import Mathlib.Algebra.Group.Nat.Defs
import Mathlib.Logic.Function.Basic

/-!
Owns the hand-over of samples from the reader of a track to the thread pool: the
callbacks of the reader, the counter `data_available_status_` through which they
and the transmission speak without a mutex, the executions of the task, and the
calls that enable and disable the track. Every atomic operation is one step.

Owns that no sample is forgotten (`neverForgets_of_reachable`), while fewer than
2^31 callbacks add to the counter between two stores to it.

Does not own: what a transmission does with a sample, and the life of the track.
-/

namespace DdsPipe.Communication

open TransitionSystem

/-! ### State -/

/-- Where a call of `data_available_` is: before its load of `enabled_`, its
`fetch_add` and its `emit`. -/
inductive CallbackPoint where
  | reading
  | adding
  | emitting
deriving DecidableEq, Repr

/-- Where the execution of `transmit_` that holds `on_transmission_mutex_` is:
at the head of its loop, before the store, the take, the `fetch_sub` and the
writes, and after the loop. -/
inductive TransmitPoint where
  | checking
  | storing
  | taking
  | subtracting
  | writing
  | leaving
deriving DecidableEq, Repr

/-- Where a call of `enable` or `disable` is. -/
inductive TrackControlPoint where
  | idle
  | storingStatus
  | enablingWriters
  | enablingReader
  /-- `enable_nts_` of the reader, whose flag is set. -/
  | consultingReader
  /-- The reader holds samples and calls back. -/
  | callingBack
  | awaitingTransmission
  | disablingReader
  | disablingWriters
deriving DecidableEq, Repr

/-- A track with its reader. Callbacks run in any threads, and one in the call of
`enable` (`none`). `queued` and `waiting` count the executions of the task by
where they are: in the queue of the pool, and before the lock.

`adds` is proof data that no step reads: the `fetch_add`s since the last store to
the status. -/
structure TrackHandOver (Thread : Type) where
  enabled : Bool := false
  status : Nat := 0
  readerEnabled : Bool := false
  unread : Nat := 0
  callbacks : Option Thread → Option CallbackPoint := fun _ => none
  queued : Nat := 0
  waiting : Nat := 0
  holder : Option TransmitPoint := none
  control : TrackControlPoint := .idle
  adds : Nat := 0

/-- What a take of an enabled reader that holds samples does. -/
inductive TakeOutcome where
  | ok
  /-- It fails, and may have removed the sample. -/
  | failed (removed : Bool)
deriving DecidableEq, Repr

inductive TrackStep (Thread : Type) where
  /-- What happens in the reader in a thread: whether it stores a sample, and
  whether it calls back. A sample stored by an enabled reader always does. -/
  | arrive (thread : Thread) (stored calls : Bool)
  /-- The next step of a callback. -/
  | callback (caller : Option Thread)
  | enable
  | disable
  /-- The next step of the call under way; `calls` tells whether a reader without
  samples calls back when it is enabled. -/
  | control (calls : Bool)
  /-- A thread of the pool takes the task. -/
  | start
  | lock
  /-- The next step of the execution that holds the lock. -/
  | transmit (outcome : TakeOutcome)
deriving DecidableEq, Repr

/-! ### Steps -/

/-- `fetch_add(new_data_arrived)`, on 32 bits. -/
def fetchAdd (status : Nat) : Nat := (status + 2) % 2 ^ 32

/-- `fetch_sub(transmitting_data)`, on 32 bits. -/
def fetchSub (status : Nat) : Nat := if status = 0 then 2 ^ 32 - 1 else status - 1

namespace TrackHandOver

variable {Thread : Type} [DecidableEq Thread]

def setCallback (state : TrackHandOver Thread) (caller : Option Thread)
    (point : Option CallbackPoint) : TrackHandOver Thread :=
  { state with callbacks := Function.update state.callbacks caller point }

/-- One step of `data_available_`. -/
def dataAvailable (state : TrackHandOver Thread) (caller : Option Thread) :
    CallbackPoint → TrackHandOver Thread
  | .reading => state.setCallback caller (if state.enabled then some .adding else none)
  | .adding =>
      { state with status := fetchAdd state.status, adds := state.adds + 1 }.setCallback caller
        (if state.status = 0 then some .emitting else none)
  | .emitting => { state with queued := state.queued + 1 }.setCallback caller none

/-- One step of `transmit_`; `exit_` is set by the destructor only. A take of a disabled
reader returns `NOT_ENABLED`, and one of a reader without samples `NO_DATA`. -/
def transmit (state : TrackHandOver Thread) (outcome : TakeOutcome) :
    TransmitPoint → TrackHandOver Thread
  | .checking => { state with holder := some (if state.enabled then .storing else .leaving) }
  | .storing => { state with status := 1, adds := 0, holder := some .taking }
  | .taking =>
      if !state.readerEnabled then { state with holder := some .checking }
      else if state.unread = 0 then { state with holder := some .subtracting }
      else
        match outcome with
        | .ok => { state with unread := state.unread - 1, holder := some .writing }
        | .failed removed =>
            { state with
              unread := if removed then state.unread - 1 else state.unread
              holder := some .checking }
  | .subtracting =>
      { state with
        status := fetchSub state.status
        holder := some (if state.status = 1 then .leaving else .checking) }
  | .writing => { state with holder := some .checking }
  | .leaving => { state with holder := none }

/-- The steps of `enable` and `disable` after the track's own flag. -/
def stepControl (state : TrackHandOver Thread) (calls : Bool) : Option (TrackHandOver Thread) :=
  match state.control with
  | .idle => none
  | .storingStatus => some { state with status := 0, adds := 0, control := .enablingWriters }
  | .enablingWriters => some { state with control := .enablingReader }
  | .enablingReader =>
      if state.readerEnabled then some { state with control := .idle }
      else some { state with readerEnabled := true, control := .consultingReader }
  | .consultingReader =>
      if calls || state.unread > 0 then
        some { state.setCallback none (some .reading) with control := .callingBack }
      else some { state with control := .idle }
  | .callingBack =>
      match state.callbacks none with
      | none => some { state with control := .idle }
      | some _ => none
  | .awaitingTransmission =>
      match state.holder with
      | none => some { state with control := .disablingReader }
      | some _ => none
  | .disablingReader => some { state with readerEnabled := false, control := .disablingWriters }
  | .disablingWriters => some { state with control := .idle }

def step (state : TrackHandOver Thread) : TrackStep Thread → Option (TrackHandOver Thread)
  | .arrive thread stored calls =>
      match state.callbacks (some thread) with
      | none =>
          let after := { state with unread := if stored then state.unread + 1 else state.unread }
          if calls || (stored && state.readerEnabled) then
            some (after.setCallback (some thread) (some .reading))
          else some after
      | some _ => none
  | .callback caller => (state.callbacks caller).map (state.dataAvailable caller)
  | .enable =>
      match state.control with
      | .idle =>
          if state.enabled then some state
          else some { state with enabled := true, control := .storingStatus }
      | _ => none
  | .disable =>
      match state.control with
      | .idle =>
          if state.enabled then
            some { state with enabled := false, control := .awaitingTransmission }
          else some state
      | _ => none
  | .control calls => state.stepControl calls
  | .start =>
      if state.queued > 0 then
        some { state with queued := state.queued - 1, waiting := state.waiting + 1 }
      else none
  | .lock =>
      match state.holder with
      | none =>
          if state.waiting > 0 then
            some { state with waiting := state.waiting - 1, holder := some .checking }
          else none
      | some _ => none
  | .transmit outcome => state.holder.map (state.transmit outcome)

end TrackHandOver

/-- The runs of a new track. -/
def trackSystem (Thread : Type) [DecidableEq Thread] :
    System (TrackHandOver Thread) (TrackStep Thread) where
  Initial state := state = {}
  step := TrackHandOver.step

/-- A callback that adds to the counter is at most the (2^31 - 1)th since the last
store to it. -/
def FewCallbacks {Thread : Type} (state : TrackHandOver Thread) : TrackStep Thread → Prop
  | .callback caller => state.callbacks caller = some .adding → state.adds + 1 < 2 ^ 31
  | _ => True

/-! ### What holds of every state -/

/-- `enable` is under way. -/
def TrackControlPoint.Enabling : TrackControlPoint → Prop
  | .storingStatus | .enablingWriters | .enablingReader | .consultingReader | .callingBack => True
  | _ => False

/-- `enable` has not reached the reader. -/
def TrackControlPoint.BeforeReader : TrackControlPoint → Prop
  | .storingStatus | .enablingWriters | .enablingReader => True
  | _ => False

/-- `disable` has not reached the reader. -/
def TrackControlPoint.StillEnabled : TrackControlPoint → Prop
  | .awaitingTransmission | .disablingReader => True
  | _ => False

/-- The execution has not left its loop. -/
def TransmitPoint.InLoop : TransmitPoint → Prop
  | .leaving => False
  | _ => True

/-- The execution takes before it leaves its loop, if the track stays enabled. -/
def TransmitPoint.TakesAgain (status : Nat) : TransmitPoint → Prop
  | .subtracting => status ≠ 1
  | .leaving => False
  | _ => True

namespace TrackHandOver

variable {Thread : Type}

/-- An execution is under way, or is going to be: the counter tells. -/
def Running (state : TrackHandOver Thread) : Prop :=
  (∃ caller, state.callbacks caller = some .emitting) ∨ 0 < state.queued ∨ 0 < state.waiting ∨
    ∃ point, state.holder = some point ∧ point.InLoop

/-- A take is still to come. -/
def Covered (state : TrackHandOver Thread) : Prop :=
  (∃ caller, state.callbacks caller ≠ none) ∨ 0 < state.queued ∨ 0 < state.waiting ∨
    ∃ point, state.holder = some point ∧ point.TakesAgain state.status

structure Sound (state : TrackHandOver Thread) : Prop where
  running : state.enabled = true → state.control ≠ .storingStatus → state.status ≠ 0 →
    state.Running
  counted : state.holder = some .taking ∨ state.holder = some .subtracting →
    state.status = 1 + 2 * state.adds ∨ state.status = 2 * state.adds
  few : state.adds < 2 ^ 31
  covered : state.enabled = true → state.readerEnabled = true → 0 < state.unread →
    state.control ≠ .consultingReader → state.Covered
  unopened : state.control.BeforeReader → state.readerEnabled = false
  enabling : state.control.Enabling → state.enabled = true
  closing : state.enabled = false → state.readerEnabled = true → state.control.StillEnabled
  quiet : state.control ≠ .callingBack → state.callbacks none = none

variable {state next : TrackHandOver Thread}

/-- While the counter is not what one take expects, the execution goes on. -/
theorem Running.covered (running : state.Running)
    (distinct : state.holder = some .subtracting → state.status ≠ 1) : state.Covered := by
  rcases running with ⟨caller, emits⟩ | queued | waiting | ⟨point, holds, inLoop⟩
  · exact .inl ⟨caller, by simp [emits]⟩
  · exact .inr (.inl queued)
  · exact .inr (.inr (.inl waiting))
  · refine .inr (.inr (.inr ⟨point, holds, ?_⟩))
    cases point with
    | subtracting => exact distinct holds
    | leaving => exact inLoop
    | checking | storing | taking | writing => trivial

/-! ### Executions -/

/-- What an execution leaves as it is. -/
structure SameFrame (state next : TrackHandOver Thread) : Prop where
  enabled : next.enabled = state.enabled
  callbacks : next.callbacks = state.callbacks
  queued : next.queued = state.queued
  waiting : next.waiting = state.waiting
  control : next.control = state.control

theorem transmit_frame (state : TrackHandOver Thread) (outcome : TakeOutcome)
    (point : TransmitPoint) : SameFrame state (state.transmit outcome point) := by
  cases point with
  | taking =>
      simp only [transmit]
      split
      · exact ⟨rfl, rfl, rfl, rfl, rfl⟩
      · split
        · exact ⟨rfl, rfl, rfl, rfl, rfl⟩
        · cases outcome <;> exact ⟨rfl, rfl, rfl, rfl, rfl⟩
  | checking | storing | subtracting | writing | leaving => exact ⟨rfl, rfl, rfl, rfl, rfl⟩

/-- The execution under way is in its loop and takes again, unless the reader holds
nothing. -/
theorem Sound.goesOn (sound : state.Sound) {status unread waiting adds : Nat}
    {point : TransmitPoint} (inLoop : point.InLoop)
    (again : 0 < unread → point.TakesAgain status)
    (counted : point = .taking ∨ point = .subtracting → status = 1 + 2 * adds ∨ status = 2 * adds)
    (few : adds < 2 ^ 31) :
    Sound { state with status, unread, waiting, adds, holder := some point } := by
  refine ⟨fun _ _ _ => ?_, ?_, few, fun _ _ filled _ => ?_, sound.unopened, sound.enabling,
    sound.closing, sound.quiet⟩
  · exact .inr (.inr (.inr ⟨point, rfl, inLoop⟩))
  · simpa using counted
  · exact .inr (.inr (.inr ⟨point, rfl, again filled⟩))

theorem sound_take (sound : state.Sound) (outcome : TakeOutcome)
    (here : state.holder = some .taking) : (state.transmit outcome .taking).Sound := by
  have counted := sound.counted (.inl here)
  unfold transmit
  dsimp only
  split
  · exact sound.goesOn trivial (fun _ => trivial) (by simp) sound.few
  · split
    · next empty =>
        refine sound.goesOn trivial (fun filled => ?_) (fun _ => counted) sound.few
        omega
    · cases outcome with
      | ok => exact sound.goesOn trivial (fun _ => trivial) (by simp) sound.few
      | failed removed => exact sound.goesOn trivial (fun _ => trivial) (by simp) sound.few

/-- The `fetch_sub`: the execution leaves only when no callback has added. -/
theorem sound_subtract (sound : state.Sound) (outcome : TakeOutcome)
    (here : state.holder = some .subtracting) : (state.transmit outcome .subtracting).Sound := by
  unfold transmit
  dsimp only
  split
  · next last =>
      refine ⟨fun _ _ more => ?_, by simp, sound.few, fun enabled opened filled away => ?_,
        sound.unopened, sound.enabling, sound.closing, sound.quiet⟩
      · exact absurd (by simp [fetchSub, last]) more
      · rcases sound.covered enabled opened filled away with
          busy | queued | waiting | ⟨point, holds, again⟩
        · exact .inl busy
        · exact .inr (.inl queued)
        · exact .inr (.inr (.inl waiting))
        · rw [here, Option.some.injEq] at holds
          subst holds
          exact absurd last again
  · exact sound.goesOn trivial (fun _ => trivial) (by simp) sound.few

/-- The execution releases the lock. -/
theorem sound_leave (sound : state.Sound) (outcome : TakeOutcome)
    (here : state.holder = some .leaving) : (state.transmit outcome .leaving).Sound := by
  refine ⟨fun enabled away counted => ?_, by simp [transmit], sound.few,
    fun enabled opened filled away => ?_, sound.unopened, sound.enabling, sound.closing,
      sound.quiet⟩
  · rcases sound.running enabled away counted with emits | queued | waiting | ⟨_, holds, inLoop⟩
    · exact .inl emits
    · exact .inr (.inl queued)
    · exact .inr (.inr (.inl waiting))
    · rw [here, Option.some.injEq] at holds
      subst holds
      exact inLoop.elim
  · rcases sound.covered enabled opened filled away with busy | queued | waiting | ⟨_, holds, again⟩
    · exact .inl busy
    · exact .inr (.inl queued)
    · exact .inr (.inr (.inl waiting))
    · rw [here, Option.some.injEq] at holds
      subst holds
      exact again.elim

theorem sound_transmit (sound : state.Sound) {point : TransmitPoint} (outcome : TakeOutcome)
    (here : state.holder = some point) : (state.transmit outcome point).Sound := by
  cases point with
  | checking =>
      unfold transmit
      dsimp only
      split
      · exact sound.goesOn trivial (fun _ => trivial) (by simp) sound.few
      · next stopped =>
          exact ⟨fun enabled => absurd enabled stopped, by simp, sound.few,
            fun enabled => absurd enabled stopped, sound.unopened, sound.enabling, sound.closing,
              sound.quiet⟩
  | storing => exact sound.goesOn trivial (fun _ => trivial) (fun _ => .inl rfl) (by decide)
  | taking => exact sound_take sound outcome here
  | subtracting => exact sound_subtract sound outcome here
  | writing => exact sound.goesOn trivial (fun _ => trivial) (by simp) sound.few
  | leaving => exact sound_leave sound outcome here

variable [DecidableEq Thread]

/-! ### Callbacks -/

theorem exists_setCallback_ne {caller : Option Thread} {point : Option CallbackPoint}
    (there : point ≠ none) : ∃ other, (state.setCallback caller point).callbacks other ≠ none :=
  ⟨caller, by simpa [setCallback] using there⟩

/-- A caller that is not about to emit goes on. -/
theorem Running.setCallback (running : state.Running) {caller : Option Thread}
    {point : Option CallbackPoint} (silent : state.callbacks caller ≠ some .emitting) :
    (state.setCallback caller point).Running := by
  rcases running with ⟨other, emits⟩ | pending
  · have different : other ≠ caller := by
      rintro rfl
      exact silent emits
    exact .inl ⟨other, by simpa [TrackHandOver.setCallback, different] using emits⟩
  · exact .inr pending

/-- Only the call of `enable` that calls back runs the callback without a thread. -/
theorem Sound.quiet_setCallback (sound : state.Sound) {caller : Option Thread}
    {point : CallbackPoint} (here : state.callbacks caller = some point)
    (after : Option CallbackPoint) (away : state.control ≠ .callingBack) :
    (state.setCallback caller after).callbacks none = none := by
  have different : none ≠ caller := by
    rintro rfl
    rw [sound.quiet away] at here
    cases here
  simpa [setCallback, different] using sound.quiet away

/-- The load of `enabled_`. -/
theorem sound_reading (sound : state.Sound) {caller : Option Thread}
    (here : state.callbacks caller = some .reading) :
    (state.dataAvailable caller .reading).Sound := by
  refine ⟨fun enabled away counted => ?_, sound.counted, sound.few, fun enabled _ _ _ => ?_,
    sound.unopened, sound.enabling, sound.closing,
    sound.quiet_setCallback here _⟩
  · exact (sound.running enabled away counted).setCallback (by simp [here])
  · have running : state.enabled = true := enabled
    exact .inl (exists_setCallback_ne (by simp [running]))

/-- The `fetch_add`: either the status was 0 and the callback emits, or an
execution is under way that sees the addition before it leaves. -/
theorem sound_adding (sound : state.Sound) {caller : Option Thread}
    (here : state.callbacks caller = some .adding) (few : state.adds + 1 < 2 ^ 31) :
    (state.dataAvailable caller .adding).Sound := by
  have counted : state.holder = some .taking ∨ state.holder = some .subtracting →
      fetchAdd state.status = 1 + 2 * (state.adds + 1) ∨
        fetchAdd state.status = 2 * (state.adds + 1) := by
    intro holds
    unfold fetchAdd
    rcases sound.counted holds with odd | even
    · left
      omega
    · right
      omega
  have running : state.enabled = true → state.control ≠ .storingStatus →
      (state.dataAvailable caller .adding).Running := by
    intro enabled away
    by_cases zero : state.status = 0
    · exact .inl ⟨caller, by simp [dataAvailable, setCallback, zero]⟩
    · have before :
          Running { state with status := fetchAdd state.status, adds := state.adds + 1 } :=
        sound.running enabled away zero
      exact before.setCallback (by simp [here])
  refine ⟨fun enabled away _ => running enabled away, counted, few,
    fun enabled opened _ _ => ?_, sound.unopened, sound.enabling, sound.closing,
    sound.quiet_setCallback here _⟩
  have away : state.control ≠ .storingStatus := by
    intro storing
    have unopened := sound.unopened (by rw [storing]; trivial)
    rw [show state.readerEnabled = true from opened] at unopened
    cases unopened
  refine (running enabled away).covered fun holds => ?_
  have status := counted (.inr holds)
  show fetchAdd state.status ≠ 1
  omega

/-- The `emit`. -/
theorem sound_emitting (sound : state.Sound) {caller : Option Thread}
    (here : state.callbacks caller = some .emitting) :
    (state.dataAvailable caller .emitting).Sound := by
  have queued : 0 < (state.dataAvailable caller .emitting).queued := Nat.succ_pos _
  exact ⟨fun _ _ _ => .inr (.inl queued), sound.counted, sound.few,
    fun _ _ _ _ => .inr (.inl queued), sound.unopened, sound.enabling, sound.closing,
    sound.quiet_setCallback here _⟩

/-! ### Calls -/

theorem sound_stepControl (sound : state.Sound) {calls : Bool}
    (taken : state.stepControl calls = some next) : next.Sound := by
  have unopened := sound.unopened
  have enabling := sound.enabling
  have closing := sound.closing
  have quiet := sound.quiet
  unfold stepControl at taken
  cases point : state.control with
  | idle => simp [point] at taken
  | storingStatus =>
      simp only [point, Option.some.injEq] at taken
      subst taken
      have closed : state.readerEnabled = false := unopened (by rw [point]; trivial)
      have running : state.enabled = true := enabling (by rw [point]; trivial)
      exact ⟨fun _ _ counted => absurd rfl counted, fun _ => .inr rfl, Nat.two_pow_pos 31,
        fun _ opened => by simp [closed] at opened, fun _ => closed, fun _ => running,
        fun stopped => by simp [running] at stopped, fun _ => quiet (by simp [point])⟩
  | enablingWriters =>
      simp only [point, Option.some.injEq] at taken
      subst taken
      have closed : state.readerEnabled = false := unopened (by rw [point]; trivial)
      have running : state.enabled = true := enabling (by rw [point]; trivial)
      exact ⟨fun enabled _ => sound.running enabled (by simp [point]), sound.counted, sound.few,
        fun _ opened => by simp [closed] at opened, fun _ => closed, fun _ => running,
        fun stopped => by simp [running] at stopped, fun _ => quiet (by simp [point])⟩
  | enablingReader =>
      have closed : state.readerEnabled = false := unopened (by rw [point]; trivial)
      have running : state.enabled = true := enabling (by rw [point]; trivial)
      simp only [point, closed, Bool.false_eq_true, if_false, Option.some.injEq] at taken
      subst taken
      exact ⟨fun enabled _ => sound.running enabled (by simp [point]), sound.counted, sound.few,
        fun _ _ _ away => absurd rfl away, False.elim, fun _ => running,
        fun stopped => by simp [running] at stopped, fun _ => quiet (by simp [point])⟩
  | consultingReader =>
      have running : state.enabled = true := enabling (by rw [point]; trivial)
      have silent : state.callbacks none = none := quiet (by simp [point])
      simp only [point] at taken
      split at taken
      · cases taken
        refine ⟨fun enabled _ counted => ?_, sound.counted, sound.few, fun _ _ _ _ => ?_,
          False.elim, fun _ => running, fun stopped => by simp [setCallback, running] at stopped,
          fun away => absurd rfl away⟩
        · exact (sound.running enabled (by simp [point]) counted).setCallback (by simp [silent])
        · exact .inl (exists_setCallback_ne (by simp))
      · next empty =>
          cases taken
          refine ⟨fun enabled _ => sound.running enabled (by simp [point]), sound.counted,
            sound.few, fun _ _ filled => ?_, False.elim, False.elim,
            fun stopped => by simp [running] at stopped, fun _ => silent⟩
          simp at empty filled
          omega
  | callingBack =>
      have running : state.enabled = true := enabling (by rw [point]; trivial)
      simp only [point] at taken
      split at taken
      · next silent =>
          cases taken
          exact ⟨fun enabled _ => sound.running enabled (by simp [point]), sound.counted,
            sound.few, fun enabled opened filled _ =>
              sound.covered enabled opened filled (by simp [point]), False.elim, False.elim,
            fun stopped => by simp [running] at stopped, fun _ => silent⟩
      · cases taken
  | awaitingTransmission =>
      simp only [point] at taken
      split at taken
      · cases taken
        exact ⟨fun enabled _ => sound.running enabled (by simp [point]), sound.counted,
          sound.few, fun enabled opened filled _ =>
            sound.covered enabled opened filled (by simp [point]), False.elim, False.elim,
          fun _ _ => trivial, fun _ => quiet (by simp [point])⟩
      · cases taken
  | disablingReader =>
      simp only [point, Option.some.injEq] at taken
      subst taken
      exact ⟨fun enabled _ => sound.running enabled (by simp [point]), sound.counted,
        sound.few, fun _ opened => (by simp at opened), False.elim, False.elim,
        fun _ opened => (by simp at opened), fun _ => quiet (by simp [point])⟩
  | disablingWriters =>
      simp only [point, Option.some.injEq] at taken
      subst taken
      refine ⟨fun enabled _ => sound.running enabled (by simp [point]), sound.counted,
        sound.few, fun enabled opened filled _ =>
          sound.covered enabled opened filled (by simp [point]), False.elim, False.elim,
        fun stopped opened => ?_, fun _ => quiet (by simp [point])⟩
      have still := closing stopped opened
      rw [point] at still
      exact still

theorem sound_arrive (sound : state.Sound) {thread : Thread} {stored calls : Bool}
    (taken : state.step (.arrive thread stored calls) = some next) : next.Sound := by
  simp only [step] at taken
  split at taken
  · next silent =>
      split at taken
      · cases taken
        refine ⟨fun enabled away counted => ?_, sound.counted, sound.few, fun _ _ _ _ => ?_,
          sound.unopened, sound.enabling, sound.closing, fun away => ?_⟩
        · have before : Running { state with
              unread := if stored then state.unread + 1 else state.unread } :=
            sound.running enabled away counted
          exact before.setCallback (by simp [silent])
        · exact .inl (exists_setCallback_ne (by simp))
        · simpa [setCallback] using sound.quiet away
      · next quiet =>
          cases taken
          refine ⟨sound.running, sound.counted, sound.few, fun enabled opened filled away => ?_,
            sound.unopened, sound.enabling, sound.closing, sound.quiet⟩
          have opened : state.readerEnabled = true := opened
          have notStored : stored = false := by
            rw [opened] at quiet
            simp at quiet
            exact quiet.2
          simp only [notStored, Bool.false_eq_true, if_false] at filled
          exact sound.covered enabled opened filled away
  · cases taken

/-- **One step** of any thread. -/
theorem sound_step (sound : state.Sound) {label : TrackStep Thread}
    (few : FewCallbacks state label) (taken : state.step label = some next) : next.Sound := by
  cases label with
  | arrive thread stored calls => exact sound_arrive sound taken
  | callback caller =>
      obtain ⟨point, here, rfl⟩ := Option.map_eq_some_iff.mp taken
      cases point with
      | reading => exact sound_reading sound here
      | adding => exact sound_adding sound here (few here)
      | emitting => exact sound_emitting sound here
  | enable =>
      simp only [step] at taken
      split at taken
      · next idle =>
          split at taken
          · cases taken
            exact sound
          · next stopped =>
              cases taken
              rw [Bool.not_eq_true] at stopped
              have closed : state.readerEnabled = false := by
                cases opened : state.readerEnabled with
                | false => rfl
                | true =>
                    have still := sound.closing stopped opened
                    rw [idle] at still
                    exact still.elim
              exact ⟨fun _ away => absurd rfl away, sound.counted, sound.few,
                fun _ opened => by simp [closed] at opened, fun _ => closed, fun _ => rfl,
                fun off => by simp at off, fun _ => sound.quiet (by simp [idle])⟩
      · cases taken
  | disable =>
      simp only [step] at taken
      split at taken
      · next idle =>
          split at taken
          · cases taken
            exact ⟨fun enabled => by simp at enabled, sound.counted, sound.few,
              fun enabled => by simp at enabled, False.elim, False.elim, fun _ _ => trivial,
              fun _ => sound.quiet (by simp [idle])⟩
          · cases taken
            exact sound
      · cases taken
  | control calls => exact sound_stepControl sound taken
  | start =>
      simp only [step, Option.ite_none_right_eq_some, Option.some.injEq] at taken
      obtain ⟨_, rfl⟩ := taken
      exact ⟨fun _ _ _ => .inr (.inr (.inl (Nat.succ_pos _))), sound.counted, sound.few,
        fun _ _ _ _ => .inr (.inr (.inl (Nat.succ_pos _))), sound.unopened, sound.enabling,
        sound.closing, sound.quiet⟩
  | lock =>
      simp only [step] at taken
      split at taken
      · split at taken
        · cases taken
          exact sound.goesOn trivial (fun _ => trivial) (by simp) sound.few
        · cases taken
      · cases taken
  | transmit outcome =>
      obtain ⟨point, here, rfl⟩ := Option.map_eq_some_iff.mp taken
      exact sound_transmit sound outcome here

/-! ### Takes to come -/

/-- The steps of the executions that are under way, run alone, reach a take. -/
def RunsToTake (state : TrackHandOver Thread) : Prop :=
  ∃ labels : List (TrackStep Thread), (∀ label ∈ labels, label = .lock ∨ label = .transmit .ok) ∧
    ∃ next, (trackSystem Thread).run state labels = some next ∧ next.holder = some .taking

/-- A sample that the enabled reader of an enabled track holds, when no callback
and no `enable` is under way, has a task in the queue or an execution that takes
again. -/
def NeverForgets (state : TrackHandOver Thread) : Prop :=
  state.enabled = true → state.readerEnabled = true →
    (∀ caller, state.callbacks caller = none) → ¬ state.control.Enabling → 0 < state.unread →
      0 < state.queued ∨ state.RunsToTake

theorem RunsToTake.of_step {label : TrackStep Thread} (own : label = .lock ∨ label = .transmit .ok)
    (taken : state.step label = some next) (runs : next.RunsToTake) : state.RunsToTake := by
  obtain ⟨labels, owned, last, executed, takes⟩ := runs
  refine ⟨label :: labels, List.forall_mem_cons.mpr ⟨own, owned⟩, last, ?_, takes⟩
  rw [System.run, show (trackSystem Thread).step state label = some next from taken]
  exact executed

theorem runsToTake_storing (here : state.holder = some .storing) : state.RunsToTake := by
  apply RunsToTake.of_step (.inr rfl) (by rw [step, here]; rfl)
  exact ⟨[], by simp, _, rfl, rfl⟩

theorem runsToTake_checking (enabled : state.enabled = true)
    (here : state.holder = some .checking) : state.RunsToTake := by
  apply RunsToTake.of_step (.inr rfl) (by rw [step, here]; rfl)
  apply runsToTake_storing
  simp [transmit, enabled]

theorem runsToTake_unlocked (enabled : state.enabled = true) (waiting : 0 < state.waiting)
    (free : state.holder = none) : state.RunsToTake := by
  apply RunsToTake.of_step (.inl rfl) (by rw [step, free]; exact if_pos waiting)
  exact runsToTake_checking enabled rfl

theorem runsToTake_leaving (enabled : state.enabled = true) (waiting : 0 < state.waiting)
    (here : state.holder = some .leaving) : state.RunsToTake := by
  apply RunsToTake.of_step (.inr rfl) (by rw [step, here]; rfl)
  exact runsToTake_unlocked enabled waiting rfl

/-- An execution that takes again, and one that waits for the lock, reach a take. -/
theorem runsToTake_of_pending (enabled : state.enabled = true)
    (pending : 0 < state.waiting ∨
      ∃ point, state.holder = some point ∧ point.TakesAgain state.status) :
    state.RunsToTake := by
  cases here : state.holder with
  | none =>
      rcases pending with waiting | ⟨point, holds, _⟩
      · exact runsToTake_unlocked enabled waiting here
      · rw [here] at holds
        cases holds
  | some point =>
      cases point with
      | checking => exact runsToTake_checking enabled here
      | storing => exact runsToTake_storing here
      | taking => exact ⟨[], by simp, state, rfl, here⟩
      | writing =>
          apply RunsToTake.of_step (.inr rfl) (by rw [step, here]; rfl)
          exact runsToTake_checking enabled rfl
      | subtracting =>
          have taken : state.step (.transmit .ok) = some (state.transmit .ok .subtracting) := by
            rw [step, here, Option.map_some]
          have held : (state.transmit .ok .subtracting).holder =
            some (if state.status = 1 then .leaving else .checking) := rfl
          have frame := transmit_frame state .ok .subtracting
          rw [← frame.enabled] at enabled
          rw [← frame.waiting] at pending
          apply RunsToTake.of_step (.inr rfl) taken
          by_cases last : state.status = 1
          · rw [if_pos last] at held
            rcases pending with waiting | ⟨point, holds, again⟩
            · exact runsToTake_leaving enabled waiting held
            · rw [here, Option.some.injEq] at holds
              subst holds
              exact absurd last again
          · rw [if_neg last] at held
            exact runsToTake_checking enabled held
      | leaving =>
          rcases pending with waiting | ⟨point, holds, again⟩
          · exact runsToTake_leaving enabled waiting here
          · rw [here, Option.some.injEq] at holds
            subst holds
            exact again.elim

theorem Sound.neverForgets (sound : state.Sound) : state.NeverForgets := by
  intro enabled opened silent quiet filled
  have away : state.control ≠ .consultingReader := by
    intro consulting
    rw [consulting] at quiet
    exact quiet trivial
  rcases sound.covered enabled opened filled away with ⟨caller, busy⟩ | queued | pending
  · exact absurd (silent caller) busy
  · exact .inl queued
  · exact .inr (runsToTake_of_pending enabled pending)

end TrackHandOver

/-- **No wake-up is lost.** -/
theorem neverForgets_of_reachable {Thread : Type} [DecidableEq Thread]
    {state : TrackHandOver Thread}
    (reached : (trackSystem Thread).Reachable FewCallbacks state) : state.NeverForgets := by
  have initially : ∀ start, (trackSystem Thread).Initial start → start.Sound := by
    rintro _ rfl
    exact ⟨by simp, by simp, Nat.two_pow_pos 31, by simp, False.elim, False.elim, by simp,
      fun _ => rfl⟩
  have kept : ∀ before label after, before.Sound → FewCallbacks before label →
      (trackSystem Thread).step before label = some after → after.Sound := by
    intro before label after sound few taken
    exact TrackHandOver.sound_step sound few taken
  exact (reached.invariant initially kept).neverForgets

theorem fewCallbacks_of_adds {Thread : Type} {state : TrackHandOver Thread}
    {label : TrackStep Thread} (few : decide (state.adds + 1 < 2 ^ 31) = true) :
    FewCallbacks state label := by
  cases label with
  | callback => exact fun _ => of_decide_eq_true few
  | arrive | enable | disable | control | start | lock | transmit => trivial

/-- A sample that arrives between the last take of an execution and its
`fetch_sub`: no task is queued, and the execution takes again. -/
theorem neverForgets_of_reachable_arrival :
    ∃ state : TrackHandOver Unit, (state.control = .idle ∧ state.readerEnabled = true ∧
      state.unread = 1 ∧ state.queued = 0 ∧ state.status = 3 ∧
      state.holder = some .subtracting) ∧ state.NeverForgets := by
  obtain ⟨state, reached, test⟩ := System.exists_reachable_of_runAdmitted (trackSystem Unit) {}
    ([.enable, .control false, .control false, .control false, .control false,
      .arrive () true true, .callback (some ()), .callback (some ()), .callback (some ()),
      .start, .lock, .transmit .ok, .transmit .ok, .transmit .ok, .transmit .ok, .transmit .ok,
      .transmit .ok, .transmit .ok, .arrive () true true, .callback (some ()),
      .callback (some ())])
    (fun state _ => state.adds + 1 < 2 ^ 31)
    (fun state => decide (state.control = .idle ∧ state.readerEnabled = true ∧
      state.unread = 1 ∧ state.queued = 0 ∧ state.status = 3 ∧
      state.holder = some .subtracting))
    (fun _ _ _ few => fewCallbacks_of_adds few) rfl (by decide +kernel)
  exact ⟨state, of_decide_eq_true test, neverForgets_of_reachable reached⟩

end DdsPipe.Communication
