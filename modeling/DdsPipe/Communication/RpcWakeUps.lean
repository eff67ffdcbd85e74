import DdsPipe.Library.TransitionSystem
import Mathlib.Logic.Function.Basic

/-!
Owns the hand-over of samples from the readers of a service bridge to the thread
pool: the callback that queues the task of a reader, the executions of that task,
and the calls that enable and disable the bridge with its readers. A section
under the RTPS mutex of a reader is one step.

Owns that no reader is forgotten and none is transmitted for twice at a time
(`wakesUp_of_reachable`).

Does not own: what a transmission does with a sample, and the creation of the
readers, which start disabled.
-/

namespace DdsPipe.Communication

open TransitionSystem

/-! ### State -/

/-- One reader. `task` is the flag of its entry in `tasks_map_`; the numbers
count the executions of its task by where they are: in the queue of the pool,
before the lock on `on_transmission_mutex_`, at the head of the loop, before the
take, and after the loop. -/
structure ReaderSlot where
  enabled : Bool := false
  unread : Nat := 0
  task : Bool := false
  queued : Nat := 0
  starting : Nat := 0
  checking : Nat := 0
  taking : Nat := 0
  finishing : Nat := 0
deriving DecidableEq, Repr

/-- Where a call of `enable` or `disable` is. -/
inductive RpcControlPoint (Reader : Type) where
  | idle
  | enablingReaders (readers : List Reader)
  /-- `enable_nts_` of a reader, whose flag is set. -/
  | callingBack (reader : Reader) (readers : List Reader)
  | awaitingTransmissions
  | disablingReaders (readers : List Reader)
deriving DecidableEq, Repr

/-- The bridge, with the readers in the order in which it enables them. -/
structure RpcHandOver (Reader : Type) where
  replyReaders : List Reader
  requestReaders : List Reader
  enabled : Bool := false
  control : RpcControlPoint Reader := .idle
  slots : Reader → ReaderSlot := fun _ => {}

inductive RpcHandOverStep (Reader : Type) where
  /-- A new sample, and whether a reader that is disabled keeps it. -/
  | arrive (reader : Reader) (kept : Bool)
  /-- `enable`, and whether there are servers. -/
  | enable (serversAvailable : Bool)
  | disable
  /-- The next step of the call under way; `calls` tells whether a reader without
  unread samples calls back when it is enabled. -/
  | control (calls : Bool)
  /-- A thread of the pool takes the task of the reader. -/
  | start (reader : Reader)
  | lock (reader : Reader)
  | check (reader : Reader)
  /-- The take and what follows in the loop; `removed` tells whether the take of an
  enabled reader leaves one unread sample less. -/
  | take (reader : Reader) (removed : Bool)
  | leave (reader : Reader)
deriving DecidableEq, Repr

/-! ### Steps -/

namespace ReaderSlot

/-- `data_available_`. -/
def dataAvailable (slot : ReaderSlot) (bridgeEnabled : Bool) : ReaderSlot :=
  if bridgeEnabled && !slot.task then { slot with task := true, queued := slot.queued + 1 }
  else slot

/-- `onNewCacheChangeAdded` of a change that is accepted. -/
def arrive (slot : ReaderSlot) (bridgeEnabled kept : Bool) : ReaderSlot :=
  if slot.enabled then { slot with unread := slot.unread + 1 }.dataAvailable bridgeEnabled
  else if kept then { slot with unread := slot.unread + 1 }
  else slot

/-- The head of the loop of `transmit_`. -/
def check (slot : ReaderSlot) (bridgeEnabled : Bool) : ReaderSlot :=
  if bridgeEnabled && slot.unread > 0 then
    { slot with checking := slot.checking - 1, taking := slot.taking + 1 }
  else
    { slot with task := false, checking := slot.checking - 1, finishing := slot.finishing + 1 }

/-- A take of a disabled reader changes nothing, and one that fails may. -/
def take (slot : ReaderSlot) (removed : Bool) : ReaderSlot :=
  { slot with
    unread := if slot.enabled && removed then slot.unread - 1 else slot.unread
    taking := slot.taking - 1
    checking := slot.checking + 1 }

/-- The executions that hold `on_transmission_mutex_`. -/
def transmitting (slot : ReaderSlot) : Nat :=
  slot.checking + slot.taking + slot.finishing

/-- The executions that are queued, or run and have not left the loop. -/
def pending (slot : ReaderSlot) : Nat :=
  slot.queued + slot.starting + slot.checking + slot.taking

end ReaderSlot

namespace RpcHandOver

variable {Reader : Type} [DecidableEq Reader]

def setSlot (state : RpcHandOver Reader) (reader : Reader) (slot : ReaderSlot) :
    RpcHandOver Reader :=
  { state with slots := Function.update state.slots reader slot }

/-- The steps of `enable` and `disable` after the bridge's own flag. -/
def stepControl (state : RpcHandOver Reader) (calls : Bool) : Option (RpcHandOver Reader) :=
  match state.control with
  | .idle => none
  | .enablingReaders [] => some { state with control := .idle }
  | .enablingReaders (reader :: rest) =>
      let slot := state.slots reader
      if slot.enabled then some { state with control := .enablingReaders rest }
      else some { state.setSlot reader { slot with enabled := true } with
        control := .callingBack reader rest }
  | .callingBack reader rest =>
      let slot := state.slots reader
      let called := if calls || slot.unread > 0 then slot.dataAvailable state.enabled else slot
      some { state.setSlot reader called with control := .enablingReaders rest }
  | .awaitingTransmissions =>
      if (state.requestReaders ++ state.replyReaders).all fun reader =>
          (state.slots reader).transmitting = 0 then
        some { state with
          control := .disablingReaders (state.requestReaders ++ state.replyReaders) }
      else none
  | .disablingReaders [] => some { state with control := .idle }
  | .disablingReaders (reader :: rest) =>
      some { state.setSlot reader { state.slots reader with enabled := false } with
        control := .disablingReaders rest }

/-- A take waits while the reader is being enabled. -/
def takes (state : RpcHandOver Reader) (reader : Reader) : Bool :=
  match state.control with
  | .callingBack other _ => other != reader
  | _ => true

def step (state : RpcHandOver Reader) : RpcHandOverStep Reader → Option (RpcHandOver Reader)
  | .arrive reader kept =>
      some (state.setSlot reader ((state.slots reader).arrive state.enabled kept))
  | .enable serversAvailable =>
      match state.control with
      | .idle =>
          if !state.enabled && serversAvailable then
            some { state with
              enabled := true
              control := .enablingReaders (state.replyReaders ++ state.requestReaders) }
          else some state
      | _ => none
  | .disable =>
      match state.control with
      | .idle =>
          if state.enabled then
            some { state with enabled := false, control := .awaitingTransmissions }
          else some state
      | _ => none
  | .control calls => state.stepControl calls
  | .start reader =>
      let slot := state.slots reader
      if slot.queued > 0 then
        some (state.setSlot reader
          { slot with queued := slot.queued - 1, starting := slot.starting + 1 })
      else none
  | .lock reader =>
      let slot := state.slots reader
      if slot.starting > 0 then
        some (state.setSlot reader
          { slot with starting := slot.starting - 1, checking := slot.checking + 1 })
      else none
  | .check reader =>
      let slot := state.slots reader
      if slot.checking > 0 then some (state.setSlot reader (slot.check state.enabled)) else none
  | .take reader removed =>
      let slot := state.slots reader
      if slot.taking > 0 && state.takes reader then
        some (state.setSlot reader (slot.take removed))
      else none
  | .leave reader =>
      let slot := state.slots reader
      if slot.finishing > 0 then
        some (state.setSlot reader { slot with finishing := slot.finishing - 1 })
      else none

end RpcHandOver

/-- The runs of a bridge with any readers, all of them disabled and without
samples or tasks. -/
def handOverSystem (Reader : Type) [DecidableEq Reader] :
    System (RpcHandOver Reader) (RpcHandOverStep Reader) where
  Initial state := ∃ replyReaders requestReaders, state = { replyReaders, requestReaders }
  step := RpcHandOver.step

/-! ### What holds of every state -/

namespace RpcControlPoint

variable {Reader : Type}

/-- A call of `enable` is under way. -/
def Enabling : RpcControlPoint Reader → Prop
  | .enablingReaders _ | .callingBack _ _ => True
  | _ => False

/-- The readers that the call under way is to enable. -/
def toEnable : RpcControlPoint Reader → List Reader
  | .enablingReaders readers | .callingBack _ readers => readers
  | _ => []

/-- The flag of the reader is set, and its callback is still to come. -/
def CallingBack (control : RpcControlPoint Reader) (reader : Reader) : Prop :=
  ∃ readers, control = .callingBack reader readers

/-- The reader may still be enabled although the bridge is not. -/
def StillEnabled : RpcControlPoint Reader → Reader → Prop
  | .awaitingTransmissions, _ => True
  | .disablingReaders readers, reader => reader ∈ readers
  | _, _ => False

end RpcControlPoint

/-- The flag of a reader tells whether its task is pending. -/
def ReaderSlot.Counted (slot : ReaderSlot) : Prop :=
  slot.pending = if slot.task then 1 else 0

namespace RpcHandOver

variable {Reader : Type}

structure Sound (state : RpcHandOver Reader) : Prop where
  counted : ∀ reader, (state.slots reader).Counted
  awake : state.enabled = true → ∀ reader, (state.slots reader).enabled = true →
    0 < (state.slots reader).unread → ¬ state.control.CallingBack reader →
      (state.slots reader).task = true
  enabling : state.control.Enabling → state.enabled = true
  disabled : state.enabled = false → ∀ reader, (state.slots reader).enabled = true →
    state.control.StillEnabled reader
  listed : ∀ reader, (state.slots reader).enabled = true ∨ reader ∈ state.control.toEnable →
    reader ∈ state.requestReaders ++ state.replyReaders

/-- No reader has two transmissions at a time, and a reader that holds samples
while it and the bridge are enabled has one that takes again: its next check does
not end it. -/
structure WakesUp [DecidableEq Reader] (state : RpcHandOver Reader) : Prop where
  single : ∀ reader, (state.slots reader).pending ≤ 1
  awake : state.enabled = true → ¬ state.control.Enabling → ∀ reader,
    (state.slots reader).enabled = true → 0 < (state.slots reader).unread →
      0 < (state.slots reader).pending ∧
        ∀ next, state.step (.check reader) = some next →
          (next.slots reader).taking = (state.slots reader).taking + 1

variable {state next : RpcHandOver Reader} {reader : Reader}

/-- The call under way goes on, and changes no reader. -/
theorem Sound.setControl (sound : state.Sound) {control : RpcControlPoint Reader}
    (calling : ∀ reader, state.control.CallingBack reader → control.CallingBack reader)
    (enabling : control.Enabling → state.enabled = true)
    (disabled : state.enabled = false → ∀ reader, (state.slots reader).enabled = true →
      control.StillEnabled reader)
    (listed : ∀ reader ∈ control.toEnable, reader ∈ state.requestReaders ++ state.replyReaders) :
    Sound { state with control := control } where
  counted := sound.counted
  awake running reader here filled away :=
    sound.awake running reader here filled fun before => away (calling reader before)
  enabling := enabling
  disabled := disabled
  listed reader member := member.elim (fun here => sound.listed reader (.inl here)) (listed reader)

variable [DecidableEq Reader]

/-- A step of one reader that leaves its flag `enabled` as it is. -/
theorem Sound.setSlot (sound : state.Sound) {slot : ReaderSlot} (counted : slot.Counted)
    (sameEnabled : slot.enabled = (state.slots reader).enabled)
    (awake : state.enabled = true → slot.enabled = true → 0 < slot.unread →
      ¬ state.control.CallingBack reader → slot.task = true) :
    (state.setSlot reader slot).Sound := by
  have enabledSame : ∀ other, ((state.setSlot reader slot).slots other).enabled =
      (state.slots other).enabled := by
    intro other
    by_cases same : other = reader
    · subst same
      simp [RpcHandOver.setSlot, sameEnabled]
    · simp [RpcHandOver.setSlot, same]
  refine ⟨fun other => ?_, fun running other here unread => ?_, sound.enabling,
    fun stopped other here => ?_, fun other member => ?_⟩
  · by_cases same : other = reader
    · subst same
      simpa [RpcHandOver.setSlot] using counted
    · simpa [RpcHandOver.setSlot, same] using sound.counted other
  · by_cases same : other = reader
    · subst same
      simp only [RpcHandOver.setSlot, Function.update_self] at here unread ⊢
      exact awake running here unread
    · simp only [RpcHandOver.setSlot, Function.update_of_ne same] at here unread ⊢
      exact sound.awake running other here unread
  · rw [enabledSame] at here
    exact sound.disabled stopped other here
  · rw [enabledSame] at member
    exact sound.listed other member

theorem counted_dataAvailable {slot : ReaderSlot} (counted : slot.Counted) (enabled : Bool) :
    (slot.dataAvailable enabled).Counted := by
  unfold ReaderSlot.dataAvailable
  split
  · next idle =>
      rw [Bool.and_eq_true, Bool.not_eq_true'] at idle
      unfold ReaderSlot.Counted ReaderSlot.pending at counted ⊢
      rw [idle.2] at counted
      simp only [if_true]
      simp only [Bool.false_eq_true, if_false] at counted
      omega
  · exact counted

theorem task_dataAvailable (slot : ReaderSlot) : (slot.dataAvailable true).task = true := by
  unfold ReaderSlot.dataAvailable
  cases task : slot.task <;> simp [task]

@[simp] theorem enabled_dataAvailable (slot : ReaderSlot) (enabled : Bool) :
    (slot.dataAvailable enabled).enabled = slot.enabled := by
  unfold ReaderSlot.dataAvailable
  split <;> rfl

theorem sound_arrive (sound : state.Sound) (kept : Bool) :
    (state.setSlot reader ((state.slots reader).arrive state.enabled kept)).Sound := by
  have counted := sound.counted reader
  unfold ReaderSlot.arrive
  split
  · next enabled =>
      have more : ReaderSlot.Counted
          { state.slots reader with unread := (state.slots reader).unread + 1 } := counted
      refine sound.setSlot (counted_dataAvailable more _) (by simp) fun running _ _ _ => ?_
      rw [running]
      exact task_dataAvailable _
  · next disabled =>
      split
      · exact sound.setSlot counted rfl fun _ enabled => absurd enabled disabled
      · exact sound.setSlot counted rfl fun _ enabled => absurd enabled disabled

/-- A thread moves on with the task: it is pending before and after. -/
theorem sound_move (sound : state.Sound) {slot : ReaderSlot}
    (samePending : slot.pending = (state.slots reader).pending)
    (sameTask : slot.task = (state.slots reader).task)
    (sameEnabled : slot.enabled = (state.slots reader).enabled)
    (unread : slot.unread ≤ (state.slots reader).unread) : (state.setSlot reader slot).Sound := by
  refine sound.setSlot ?_ sameEnabled fun running here filled away => ?_
  · have counted := sound.counted reader
    unfold ReaderSlot.Counted at counted ⊢
    rw [samePending, sameTask]
    exact counted
  · rw [sameTask]
    rw [sameEnabled] at here
    exact sound.awake running reader here (by omega) away

theorem sound_check (sound : state.Sound) (ready : 0 < (state.slots reader).checking) :
    (state.setSlot reader ((state.slots reader).check state.enabled)).Sound := by
  unfold ReaderSlot.check
  split
  · refine sound_move sound ?_ rfl rfl (Nat.le_refl _)
    simp only [ReaderSlot.pending]
    omega
  · next ended =>
      have counted := sound.counted reader
      refine sound.setSlot ?_ rfl fun running _ filled _ => ?_
      · unfold ReaderSlot.Counted ReaderSlot.pending at counted ⊢
        simp only [Bool.false_eq_true, if_false]
        split at counted <;> omega
      · simp [running] at ended
        simp at filled
        omega

theorem sound_take (sound : state.Sound) (ready : 0 < (state.slots reader).taking)
    (removed : Bool) : (state.setSlot reader ((state.slots reader).take removed)).Sound := by
  refine sound_move sound ?_ rfl rfl ?_
  · simp only [ReaderSlot.take, ReaderSlot.pending]
    omega
  · simp only [ReaderSlot.take]
    split <;> omega

/-! ### Enabling and disabling -/

/-- A reader is enabled, and is to call back. -/
theorem sound_enableReader (sound : state.Sound) {rest : List Reader}
    (point : state.control = .enablingReaders (reader :: rest)) :
    Sound { state.setSlot reader { state.slots reader with enabled := true } with
      control := .callingBack reader rest } := by
  have running := sound.enabling (by rw [point]; trivial)
  have others : ∀ other, other ≠ reader →
      (state.setSlot reader { state.slots reader with enabled := true }).slots other =
        state.slots other := by
    intro other different
    simp [RpcHandOver.setSlot, different]
  refine ⟨fun other => ?_, fun _ other here filled away => ?_, fun _ => running,
    fun stopped => ?_, fun other member => ?_⟩
  · by_cases same : other = reader
    · subst same
      simp only [RpcHandOver.setSlot, Function.update_self]
      exact sound.counted other
    · simp only [others other same]
      exact sound.counted other
  · have different : other ≠ reader := by
      rintro rfl
      exact away ⟨rest, rfl⟩
    simp only [others other different] at here filled ⊢
    refine sound.awake running other here filled ?_
    rintro ⟨readers, calling⟩
    rw [point] at calling
    cases calling
  · simp [RpcHandOver.setSlot, running] at stopped
  · have listed := sound.listed
    simp only [point, RpcControlPoint.toEnable, List.mem_cons] at listed
    by_cases same : other = reader
    · exact listed other (.inr (.inl same))
    · rcases member with here | later
      · simp only [others other same] at here
        exact listed other (.inl here)
      · exact listed other (.inr (.inr later))

/-- The callback of a reader that is being enabled. -/
theorem sound_callBack (sound : state.Sound) {rest : List Reader} {calls : Bool}
    (point : state.control = .callingBack reader rest) :
    Sound { state.setSlot reader
        (if calls || (state.slots reader).unread > 0 then
          (state.slots reader).dataAvailable state.enabled
        else state.slots reader) with
      control := .enablingReaders rest } := by
  have running := sound.enabling (by rw [point]; trivial)
  generalize outcome : (if calls || (state.slots reader).unread > 0 then
    (state.slots reader).dataAvailable state.enabled else state.slots reader) = slot
  have counted : slot.Counted := by
    rw [← outcome]
    split
    · exact counted_dataAvailable (sound.counted reader) _
    · exact sound.counted reader
  have sameEnabled : slot.enabled = (state.slots reader).enabled := by
    rw [← outcome]
    split <;> simp
  have awake : 0 < slot.unread → slot.task = true := by
    rw [← outcome]
    intro filled
    split at filled
    · next called => rw [if_pos called, running, task_dataAvailable]
    · next silent =>
        simp at silent
        omega
  have moved := sound.setSlot counted sameEnabled fun _ _ filled _ => awake filled
  refine ⟨moved.counted, fun _ other here filled _ => ?_, fun _ => running,
    fun stopped => ?_, fun other member => moved.listed other ?_⟩
  · by_cases same : other = reader
    · subst same
      simp only [RpcHandOver.setSlot, Function.update_self] at filled ⊢
      exact awake filled
    · refine moved.awake running other here filled ?_
      rintro ⟨readers, calling⟩
      have before : state.control = .callingBack other readers := calling
      rw [point] at before
      cases before
      exact same rfl
  · have off : state.enabled = false := stopped
    rw [running] at off
    cases off
  · show _ ∨ other ∈ state.control.toEnable
    rw [point]
    exact member

/-- A reader is disabled. -/
theorem sound_disableReader (sound : state.Sound) {rest : List Reader}
    (point : state.control = .disablingReaders (reader :: rest)) :
    Sound { state.setSlot reader { state.slots reader with enabled := false } with
      control := .disablingReaders rest } := by
  have others : ∀ other, other ≠ reader →
      (state.setSlot reader { state.slots reader with enabled := false }).slots other =
        state.slots other := by
    intro other different
    simp [RpcHandOver.setSlot, different]
  have off : ∀ other,
      ((state.setSlot reader { state.slots reader with enabled := false }).slots other).enabled =
        true → other ≠ reader := by
    rintro other here rfl
    simp [RpcHandOver.setSlot] at here
  refine ⟨fun other => ?_, fun running other here filled _ => ?_, False.elim,
    fun stopped other here => ?_, fun other member => ?_⟩
  · by_cases same : other = reader
    · subst same
      simp only [RpcHandOver.setSlot, Function.update_self]
      exact sound.counted other
    · simp only [others other same]
      exact sound.counted other
  · simp only [others other (off other here)] at here filled ⊢
    refine sound.awake running other here filled ?_
    rintro ⟨readers, calling⟩
    rw [point] at calling
    cases calling
  · have different := off other here
    simp only [others other different] at here
    have still := sound.disabled stopped other here
    rw [point] at still
    exact (List.mem_cons.mp still).resolve_left different
  · have here := member.resolve_right (by simp [RpcControlPoint.toEnable])
    simp only [others other (off other here)] at here
    exact sound.listed other (.inl here)

theorem sound_stepControl (sound : state.Sound) {calls : Bool}
    (taken : state.stepControl calls = some next) : next.Sound := by
  unfold stepControl at taken
  cases point : state.control with
  | idle => simp [point] at taken
  | enablingReaders readers =>
      have running := sound.enabling (by rw [point]; trivial)
      have notCalling : ∀ reader, ¬ state.control.CallingBack reader := by
        rintro reader ⟨_, calling⟩
        rw [point] at calling
        cases calling
      cases readers with
      | nil =>
          simp only [point, Option.some.injEq] at taken
          subst taken
          exact sound.setControl (fun reader calling => absurd calling (notCalling reader))
            False.elim (by simp [running]) (by simp [RpcControlPoint.toEnable])
      | cons reader rest =>
          simp only [point] at taken
          split at taken
          · cases taken
            refine sound.setControl (fun reader calling => absurd calling (notCalling reader))
              (fun _ => running) (by simp [running]) fun other member => ?_
            refine sound.listed other (.inr ?_)
            rw [point]
            exact List.mem_cons_of_mem _ member
          · cases taken
            exact sound_enableReader sound point
  | callingBack reader rest =>
      simp only [point, Option.some.injEq] at taken
      subst taken
      exact sound_callBack sound point
  | awaitingTransmissions =>
      simp only [point, Option.ite_none_right_eq_some, Option.some.injEq] at taken
      obtain ⟨_, rfl⟩ := taken
      refine sound.setControl ?_ False.elim (fun _ reader here => ?_)
        (by simp [RpcControlPoint.toEnable])
      · rintro reader ⟨_, calling⟩
        rw [point] at calling
        cases calling
      · exact sound.listed reader (.inl here)
  | disablingReaders readers =>
      have notCalling : ∀ reader, ¬ state.control.CallingBack reader := by
        rintro reader ⟨_, calling⟩
        rw [point] at calling
        cases calling
      have still := sound.disabled
      rw [point] at still
      cases readers with
      | nil =>
          simp only [point, Option.some.injEq] at taken
          subst taken
          exact sound.setControl (fun reader calling => absurd calling (notCalling reader))
            False.elim (fun stopped reader here => by cases still stopped reader here)
            (by simp [RpcControlPoint.toEnable])
      | cons reader rest =>
          simp only [point, Option.some.injEq] at taken
          subst taken
          exact sound_disableReader sound point

/-- **One step** of any thread. -/
theorem sound_step (sound : state.Sound) {label : RpcHandOverStep Reader}
    (taken : state.step label = some next) : next.Sound := by
  cases label with
  | arrive reader kept =>
      cases taken
      exact sound_arrive sound kept
  | enable serversAvailable =>
      simp only [step] at taken
      cases point : state.control with
      | idle =>
          simp only [point] at taken
          split at taken <;> cases taken
          · next called =>
              rw [Bool.and_eq_true, Bool.not_eq_true'] at called
              have off : ∀ reader, (state.slots reader).enabled ≠ true := by
                intro reader here
                have still := sound.disabled called.1 reader here
                rw [point] at still
                exact still
              refine ⟨sound.counted, fun _ reader here => absurd here (off reader), fun _ => rfl,
                by simp, fun reader member => ?_⟩
              rcases member with here | later
              · exact absurd here (off reader)
              · rw [List.mem_append, or_comm, ← List.mem_append]
                exact later
          · exact sound
      | enablingReaders | callingBack | awaitingTransmissions | disablingReaders =>
          simp [point] at taken
  | disable =>
      simp only [step] at taken
      cases point : state.control with
      | idle =>
          simp only [point] at taken
          split at taken <;> cases taken
          · next running =>
              exact ⟨sound.counted, by simp, False.elim, fun _ _ _ => trivial, fun reader member =>
                sound.listed reader (member.imp_right fun later => by cases later)⟩
          · exact sound
      | enablingReaders | callingBack | awaitingTransmissions | disablingReaders =>
          simp [point] at taken
  | control calls => exact sound_stepControl sound taken
  | start reader =>
      simp only [step, Option.ite_none_right_eq_some, Option.some.injEq] at taken
      obtain ⟨ready, rfl⟩ := taken
      refine sound_move sound ?_ rfl rfl (Nat.le_refl _)
      simp only [ReaderSlot.pending]
      omega
  | lock reader =>
      simp only [step, Option.ite_none_right_eq_some, Option.some.injEq] at taken
      obtain ⟨ready, rfl⟩ := taken
      refine sound_move sound ?_ rfl rfl (Nat.le_refl _)
      simp only [ReaderSlot.pending]
      omega
  | check reader =>
      simp only [step, Option.ite_none_right_eq_some, Option.some.injEq] at taken
      obtain ⟨ready, rfl⟩ := taken
      exact sound_check sound ready
  | take reader removed =>
      simp only [step, Option.ite_none_right_eq_some, Option.some.injEq] at taken
      obtain ⟨ready, rfl⟩ := taken
      rw [Bool.and_eq_true, decide_eq_true_eq] at ready
      exact sound_take sound ready.1 removed
  | leave reader =>
      simp only [step, Option.ite_none_right_eq_some, Option.some.injEq] at taken
      obtain ⟨_, rfl⟩ := taken
      exact sound_move sound rfl rfl rfl (Nat.le_refl _)

theorem Sound.wakesUp (sound : state.Sound) : state.WakesUp := by
  have counted : ∀ reader, (state.slots reader).pending =
      if (state.slots reader).task then 1 else 0 := sound.counted
  refine ⟨fun reader => ?_, fun running quiet reader here filled => ⟨?_, fun next taken => ?_⟩⟩
  · rw [counted]
    split <;> omega
  · have away : ¬ state.control.CallingBack reader := by
      rintro ⟨readers, calling⟩
      rw [calling] at quiet
      exact quiet trivial
    rw [counted, if_pos (sound.awake running reader here filled away)]
    exact Nat.one_pos
  · simp only [step, Option.ite_none_right_eq_some, Option.some.injEq] at taken
    obtain ⟨_, rfl⟩ := taken
    simp [RpcHandOver.setSlot, ReaderSlot.check, running, filled]

end RpcHandOver

/-- **No wake-up is lost**, and no reader has two transmissions. -/
theorem wakesUp_of_reachable {Reader : Type} [DecidableEq Reader] {state : RpcHandOver Reader}
    (reached : (handOverSystem Reader).Reachable anyStep state) : state.WakesUp := by
  have sound : state.Sound := by
    refine reached.invariant ?_ ?_
    · rintro _ ⟨replyReaders, requestReaders, rfl⟩
      exact ⟨fun _ => rfl, by simp, False.elim, by simp, by simp [RpcControlPoint.toEnable]⟩
    · intro state label next sound _ taken
      exact RpcHandOver.sound_step sound taken
  exact sound.wakesUp

/-- A sample that arrives while the task of the reader is in its loop. -/
theorem wakesUp_of_reachable_arrival :
    ∃ state : RpcHandOver Unit, (state.control = .idle ∧ (state.slots ()).enabled = true ∧
      (state.slots ()).unread = 1 ∧ (state.slots ()).checking = 1) ∧ state.WakesUp := by
  obtain ⟨state, reached, test⟩ := System.exists_reachable_of_run (handOverSystem Unit)
    { replyReaders := [], requestReaders := [()] }
    [.enable true, .control false, .control false, .control false, .arrive () true, .start (),
      .lock (), .check (), .arrive () true, .take () true]
    (fun state => decide (state.control = .idle ∧ (state.slots ()).enabled = true ∧
      (state.slots ()).unread = 1 ∧ (state.slots ()).checking = 1))
    (fun _ _ _ => trivial) ⟨[], [()], rfl⟩ (by decide +kernel)
  exact ⟨state, of_decide_eq_true test, wakesUp_of_reachable reached⟩

end DdsPipe.Communication
