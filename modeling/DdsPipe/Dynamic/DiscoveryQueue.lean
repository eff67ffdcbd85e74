import DdsPipe.Dynamic.DiscoveryDatabase
import DdsPipe.Library.TransitionSystem

/-!
Owns the hand-over of database operations between threads: the threads that push
them, the processing thread that waits for them on a condition variable, and the
calls that start and stop it, each operation on the queue, the mutex, the
condition variable and a flag being one step.

The flag that ends the processing thread is never taken back, so that a thread
started after a stop ends at once (`not_exactlyOnce_of_reachable`); as long as
nothing is queued then, every operation is applied exactly once and in order
(`exactlyOnce_of_reachable`).

Does not own: what one operation does to the database, and the callbacks, which
`stop` clears.
-/

namespace DdsPipe.Dynamic

open DdsPipe.Types
open TransitionSystem

/-- `fastrtps::DBQueue`, which is filled at the back of one queue and emptied at
the front of the other. -/
structure DBQueue (Item : Type) where
  foreground : List Item := []
  background : List Item := []

namespace DBQueue

variable {Item : Type}

def push (queue : DBQueue Item) (item : Item) : DBQueue Item :=
  { queue with background := queue.background ++ [item] }

def swap (queue : DBQueue Item) : DBQueue Item where
  foreground := queue.foreground ++ queue.background

def pop (queue : DBQueue Item) : DBQueue Item :=
  { queue with foreground := queue.foreground.tail }

def empty (queue : DBQueue Item) : Bool :=
  queue.foreground.isEmpty

def bothEmpty (queue : DBQueue Item) : Bool :=
  queue.foreground.isEmpty && queue.background.isEmpty

end DBQueue

/-! ### Threads -/

abbrev QueueItem := DatabaseOperation × Endpoint

/-- Where a thread is in `push_item_to_queue_`. -/
inductive PushPoint where
  | idle
  | pushing (item : QueueItem)
  | unlocking
  | notifying
deriving DecidableEq, Repr

/-- Where the processing thread is: in `queue_processing_thread_routine_` up to
`unlocking`, then in `process_queue_`. -/
inductive ProcessingPoint where
  | absent
  | locking
  | checkingQueue
  | checkingExit
  | waiting
  | testingExit
  | leaving
  | finished
  | unlocking
  | swapping
  | testingEmpty
  | processing
  | popping
deriving DecidableEq, Repr

/-- Where the calls of `start` and `stop` are. -/
inductive ControlPoint where
  | idle
  | creatingThread
  | enabling
  | locking
  | storingExit
  | unlocking
  | notifying
  | disabling
  | joining
deriving DecidableEq, Repr

inductive Holder (Thread : Type) where
  | pusher (thread : Thread)
  | processor
  | control
deriving DecidableEq, Repr

/-- `pushed` and `applied` are history that no step reads. -/
structure DiscoveryQueue (Thread : Type) where
  entities : Entities := ∅
  entitiesToProcess : DBQueue QueueItem := {}
  exit : Bool := false
  enabled : Bool := false
  mutex : Option (Holder Thread) := none
  pushers : Thread → PushPoint := fun _ => .idle
  processor : ProcessingPoint := .absent
  control : ControlPoint := .idle
  pushed : List QueueItem := []
  applied : List QueueItem := []

/-- The next step of a thread, or its next call. -/
inductive QueueStep (Thread : Type) where
  | start
  | stop
  | control
  | push (thread : Thread) (item : QueueItem)
  | pusher (thread : Thread)
  | processor
  /-- A wait that ends without a notification. -/
  | wake
deriving DecidableEq, Repr

namespace DiscoveryQueue

variable {Thread : Type} [DecidableEq Thread]

/-- `notify_one`: the processing thread is the only one that waits. -/
def notifyOne (state : DiscoveryQueue Thread) : DiscoveryQueue Thread :=
  { state with
    processor := if state.processor = .waiting then .locking else state.processor }

/-- The steps of `start` and `stop` after they have read the flag. -/
def stepControl (state : DiscoveryQueue Thread) : Option (DiscoveryQueue Thread) :=
  match state.control with
  | .idle => none
  | .creatingThread => some { state with processor := .locking, control := .enabling }
  | .enabling => some { state with enabled := true, control := .idle }
  | .locking =>
      if state.mutex = none then
        some { state with mutex := some .control, control := .storingExit }
      else none
  | .storingExit => some { state with exit := true, control := .unlocking }
  | .unlocking => some { state with mutex := none, control := .notifying }
  | .notifying => some { state.notifyOne with control := .disabling }
  | .disabling => some { state with enabled := false, control := .joining }
  | .joining =>
      if state.processor = .finished then some { state with control := .idle } else none

/-- The steps of `push_item_to_queue_` under and after its lock. -/
def stepPusher (state : DiscoveryQueue Thread) (thread : Thread) :
    Option (DiscoveryQueue Thread) :=
  match state.pushers thread with
  | .idle => none
  | .pushing item =>
      some { state with
        pushers := Function.update state.pushers thread .unlocking
        entitiesToProcess := state.entitiesToProcess.push item
        pushed := state.pushed ++ [item] }
  | .unlocking =>
      some { state with
        pushers := Function.update state.pushers thread .notifying, mutex := none }
  | .notifying =>
      some { state.notifyOne with pushers := Function.update state.pushers thread .idle }

/-- The steps of the processing thread. -/
def stepProcessor (state : DiscoveryQueue Thread) : Option (DiscoveryQueue Thread) :=
  match state.processor with
  | .absent | .waiting | .finished => none
  | .locking =>
      if state.mutex = none then
        some { state with mutex := some .processor, processor := .checkingQueue }
      else none
  | .checkingQueue =>
      some { state with
        processor := if state.entitiesToProcess.bothEmpty then .checkingExit else .testingExit }
  | .checkingExit =>
      if state.exit then some { state with processor := .testingExit }
      else some { state with mutex := none, processor := .waiting }
  | .testingExit => some { state with processor := if state.exit then .leaving else .unlocking }
  | .leaving => some { state with mutex := none, processor := .finished }
  | .unlocking => some { state with mutex := none, processor := .swapping }
  | .swapping =>
      some { state with
        entitiesToProcess := state.entitiesToProcess.swap, processor := .testingEmpty }
  | .testingEmpty =>
      some { state with
        processor := if state.entitiesToProcess.empty then .locking else .processing }
  | .processing =>
      match state.entitiesToProcess.foreground with
      | [] => none
      | item :: _ =>
          some { state with
            entities := (processItem state.entities item).1
            applied := state.applied ++ [item]
            processor := .popping }
  | .popping =>
      some { state with
        entitiesToProcess := state.entitiesToProcess.pop, processor := .testingEmpty }

def step (state : DiscoveryQueue Thread) : QueueStep Thread → Option (DiscoveryQueue Thread)
  | .start =>
      if state.control = .idle then
        if state.enabled then some state else some { state with control := .creatingThread }
      else none
  | .stop =>
      if state.control = .idle then
        if state.enabled then some { state with control := .locking } else some state
      else none
  | .control => state.stepControl
  | .push thread item =>
      if state.pushers thread = .idle ∧ state.mutex = none then
        some { state with
          pushers := Function.update state.pushers thread (.pushing item)
          mutex := some (.pusher thread) }
      else none
  | .pusher thread => state.stepPusher thread
  | .processor => state.stepProcessor
  | .wake =>
      if state.processor = .waiting then some { state with processor := .locking } else none

end DiscoveryQueue

/-- The runs of a database, from its construction. -/
def queueSystem (Thread : Type) [DecidableEq Thread] :
    System (DiscoveryQueue Thread) (QueueStep Thread) where
  Initial state := state = {}
  step := DiscoveryQueue.step

/-! ### What holds of every state -/

/-- The thread holds the mutex. -/
def PushPoint.Holds : PushPoint → Prop
  | .pushing _ | .unlocking => True
  | .idle | .notifying => False

def ProcessingPoint.Holds : ProcessingPoint → Prop
  | .checkingQueue | .checkingExit | .testingExit | .leaving | .unlocking => True
  | _ => False

def ControlPoint.Holds : ControlPoint → Prop
  | .storingExit | .unlocking => True
  | _ => False

/-- The processing thread is inside the loop of `process_queue_`. -/
def ProcessingPoint.Emptying : ProcessingPoint → Prop
  | .testingEmpty | .processing | .popping => True
  | _ => False

namespace DiscoveryQueue

variable {Thread : Type}

/-- The operations taken from the queue that are still to be applied. -/
def unapplied (state : DiscoveryQueue Thread) : List QueueItem :=
  if state.processor = .popping then state.entitiesToProcess.foreground.tail
  else state.entitiesToProcess.foreground

/-- Who is under the lock holds the mutex. -/
structure Locked (state : DiscoveryQueue Thread) : Prop where
  pusher : ∀ thread, (state.pushers thread).Holds → state.mutex = some (.pusher thread)
  processor : state.processor.Holds → state.mutex = some .processor
  control : state.control.Holds → state.mutex = some .control

/-- Everything pushed is applied, or waits for it, in the order of the pushes. -/
structure Ordered (state : DiscoveryQueue Thread) : Prop where
  order : state.pushed =
    state.applied ++ state.unapplied ++ state.entitiesToProcess.background
  drained : ¬ state.processor.Emptying → state.entitiesToProcess.foreground = []
  taken : state.processor = .processing ∨ state.processor = .popping →
    state.entitiesToProcess.foreground ≠ []
  entities : state.entities =
    state.applied.foldl (fun entities item => (processItem entities item).1) ∅

/-- The processing thread waits only for operations of which it will be notified. -/
structure Awake (state : DiscoveryQueue Thread) : Prop where
  checked : state.processor = .checkingExit → state.entitiesToProcess.background = []
  waited : state.processor = .waiting → state.entitiesToProcess.background ≠ [] →
    ∃ thread, state.pushers thread = .unlocking ∨ state.pushers thread = .notifying
  exited : state.exit = false → state.processor ≠ .leaving ∧ state.processor ≠ .finished

/-- There is one processing thread at most: none is created before the last one
has been joined. -/
structure Controlled (state : DiscoveryQueue Thread) : Prop where
  joined : state.enabled = false → state.control ≠ .enabling → state.control ≠ .joining →
    state.processor = .absent ∨ state.processor = .finished
  starting : state.control ∈ [.creatingThread, .enabling, .joining] → state.enabled = false
  stopping : state.control ∈ [.locking, .storingExit, .unlocking, .notifying, .disabling] →
    state.enabled = true

structure Sound (state : DiscoveryQueue Thread) : Prop where
  locked : state.Locked
  ordered : state.Ordered
  awake : state.Awake
  controlled : state.Controlled

variable {state next : DiscoveryQueue Thread} {thread : Thread}

/-- A thread that is not in `process_queue_` may be set to its beginning. -/
theorem Sound.restart (sound : state.Sound) (free : ¬ state.processor.Emptying)
    (controlled : Controlled { state with processor := .locking }) :
    Sound { state with processor := .locking } := by
  have remaining : state.unapplied = state.entitiesToProcess.foreground := by
    unfold unapplied
    rw [if_neg]
    intro here
    rw [here] at free
    exact free trivial
  have order := sound.ordered.order
  rw [remaining] at order
  exact ⟨{ sound.locked with processor := fun holds => holds.elim },
    { sound.ordered with
      order := order, drained := fun _ => sound.ordered.drained free, taken := by simp },
    ⟨by simp, by simp, by simp⟩, controlled⟩

theorem Sound.setControl (sound : state.Sound) {control : ControlPoint}
    (released : ¬ control.Holds) (controlled : Controlled { state with control := control }) :
    Sound { state with control := control } :=
  ⟨{ sound.locked with control := fun holds => absurd holds released }, { sound.ordered with },
    { sound.awake with }, controlled⟩

/-- Waking a thread that waits. -/
theorem Sound.wake (sound : state.Sound) (waiting : state.processor = .waiting) :
    Sound { state with processor := .locking } := by
  refine sound.restart ?_ { sound.controlled with joined := fun stopped first second => ?_ }
  · rw [waiting]
    exact fun inside => inside
  · rcases sound.controlled.joined stopped first second with ended | ended <;>
      rw [waiting] at ended <;> cases ended

theorem sound_notifyOne (sound : state.Sound) : state.notifyOne.Sound := by
  unfold notifyOne
  by_cases waiting : state.processor = .waiting
  · rw [if_pos waiting]
    exact sound.wake waiting
  · rw [if_neg waiting]
    exact sound

theorem sound_stepControl (sound : state.Sound) (taken : state.stepControl = some next) :
    next.Sound := by
  have controlled := sound.controlled
  unfold stepControl at taken
  cases point : state.control with
  | idle => simp [point] at taken
  | creatingThread =>
      simp only [point, Option.some.injEq] at taken
      subst taken
      have stopped := controlled.starting (by simp [point])
      have ended := controlled.joined stopped (by simp [point]) (by simp [point])
      have called : Sound { state with control := .enabling } :=
        sound.setControl (fun holds => holds) ⟨by simp, fun _ => stopped, by simp⟩
      refine called.restart ?_ ⟨by simp, fun _ => stopped, by simp⟩
      rcases ended with ended | ended <;> simp [ended, ProcessingPoint.Emptying]
  | enabling =>
      simp only [point, Option.some.injEq] at taken
      subst taken
      exact ⟨{ sound.locked with control := fun holds => holds.elim }, { sound.ordered with },
        { sound.awake with }, ⟨by simp, by simp, by simp⟩⟩
  | locking =>
      simp only [point, Option.ite_none_right_eq_some, Option.some.injEq] at taken
      obtain ⟨free, rfl⟩ := taken
      have running := controlled.stopping (by simp [point])
      refine ⟨⟨fun thread holds => ?_, fun holds => ?_, fun _ => rfl⟩, { sound.ordered with },
        { sound.awake with }, ⟨by simp [running], by simp, fun _ => running⟩⟩
      · rw [sound.locked.pusher thread holds] at free
        cases free
      · rw [sound.locked.processor holds] at free
        cases free
  | storingExit =>
      simp only [point, Option.some.injEq] at taken
      subst taken
      have running := controlled.stopping (by simp [point])
      have held := sound.locked.control (by rw [point]; trivial)
      exact ⟨{ sound.locked with control := fun _ => held }, { sound.ordered with },
        { sound.awake with exited := by simp }, ⟨by simp [running], by simp, fun _ => running⟩⟩
  | unlocking =>
      simp only [point, Option.some.injEq] at taken
      subst taken
      have running := controlled.stopping (by simp [point])
      have held := sound.locked.control (by rw [point]; trivial)
      refine ⟨⟨fun thread holds => ?_, fun holds => ?_, fun holds => holds.elim⟩,
        { sound.ordered with }, { sound.awake with },
        ⟨by simp [running], by simp, fun _ => running⟩⟩
      · rw [sound.locked.pusher thread holds] at held
        cases held
      · rw [sound.locked.processor holds] at held
        cases held
  | notifying =>
      simp only [point, Option.some.injEq] at taken
      subst taken
      have running : state.notifyOne.enabled = true := controlled.stopping (by simp [point])
      exact (sound_notifyOne sound).setControl (fun holds => holds)
        ⟨by simp [running], by simp, fun _ => running⟩
  | disabling =>
      simp only [point, Option.some.injEq] at taken
      subst taken
      exact ⟨{ sound.locked with control := fun holds => holds.elim }, { sound.ordered with },
        { sound.awake with }, ⟨by simp, by simp, by simp⟩⟩
  | joining =>
      simp only [point, Option.ite_none_right_eq_some, Option.some.injEq] at taken
      obtain ⟨ended, rfl⟩ := taken
      exact ⟨{ sound.locked with control := fun holds => holds.elim }, { sound.ordered with },
        { sound.awake with }, ⟨fun _ _ _ => .inr ended, by simp, by simp⟩⟩

/-- The processing thread goes on to a point at which nothing is half taken. -/
theorem Ordered.move (ordered : state.Ordered) {point : ProcessingPoint}
    (before : state.processor ≠ .popping) (after : point ≠ .popping)
    (drained : ¬ point.Emptying → state.entitiesToProcess.foreground = [])
    (taken : point = .processing → state.entitiesToProcess.foreground ≠ []) :
    Ordered { state with processor := point } := by
  have order := ordered.order
  rw [unapplied, if_neg before] at order
  refine { ordered with order := ?_, drained := drained, taken := fun here => ?_ }
  · rw [unapplied, if_neg after]
    exact order
  · exact taken (here.resolve_right after)

theorem Controlled.move (controlled : state.Controlled) {point : ProcessingPoint}
    (created : state.processor ≠ .absent) (running : state.processor ≠ .finished) :
    Controlled { state with processor := point } where
  joined stopped first second :=
    (controlled.joined stopped first second).elim (fun absent => absurd absent created)
      fun ended => absurd ended running
  starting := controlled.starting
  stopping := controlled.stopping

/-- The processing thread goes on under the lock. -/
theorem Locked.stay (locked : state.Locked) {point : ProcessingPoint}
    (held : state.processor.Holds) : Locked { state with processor := point } :=
  { locked with processor := fun _ => locked.processor held }

/-- The processing thread gives the lock back. -/
theorem Locked.release (locked : state.Locked) {point : ProcessingPoint}
    (held : state.processor.Holds) (released : ¬ point.Holds) :
    Locked { state with mutex := none, processor := point } := by
  have owner := locked.processor held
  refine ⟨fun thread holds => ?_, fun holds => absurd holds released, fun holds => ?_⟩
  · rw [locked.pusher thread holds] at owner
    cases owner
  · rw [locked.control holds] at owner
    cases owner

/-- The steps in the loop of `process_queue_`, without the mutex. -/
theorem sound_processQueue (sound : state.Sound) (emptying : state.processor.Emptying)
    (taken : state.stepProcessor = some next) : next.Sound := by
  obtain ⟨locked, ordered, awake, controlled⟩ := sound
  unfold stepProcessor at taken
  cases point : state.processor with
  | testingEmpty =>
      simp only [point, Option.some.injEq] at taken
      subst taken
      by_cases drained : state.entitiesToProcess.empty = true
      · rw [if_pos drained]
        rw [DBQueue.empty, List.isEmpty_iff] at drained
        exact ⟨{ locked with processor := fun holds => holds.elim },
          ordered.move (by simp [point]) (by simp) (fun _ => drained) (by simp),
          ⟨by simp, by simp, by simp⟩, controlled.move (by simp [point]) (by simp [point])⟩
      · rw [if_neg drained]
        rw [DBQueue.empty, List.isEmpty_iff] at drained
        exact ⟨{ locked with processor := fun holds => holds.elim },
          ordered.move (by simp [point]) (by simp) (fun outside => absurd trivial outside)
            (fun _ => drained),
          ⟨by simp, by simp, by simp⟩, controlled.move (by simp [point]) (by simp [point])⟩
  | processing =>
      have order := ordered.order
      rw [unapplied, if_neg (by simp [point])] at order
      simp only [point] at taken
      split at taken
      · cases taken
      · next item rest front =>
          cases taken
          refine ⟨{ locked with processor := fun holds => holds.elim }, { ordered with
              order := ?_, drained := fun outside => absurd trivial outside, taken := ?_,
              entities := ?_ },
            ⟨by simp, by simp, by simp⟩,
            { controlled.move (by simp [point]) (by simp [point]) with }⟩
          · rw [unapplied, if_pos rfl, order, front]
            simp
          · simp [front]
          · rw [List.foldl_append, ← ordered.entities]
            rfl
  | popping =>
      have order := ordered.order
      rw [unapplied, if_pos point] at order
      simp only [point, Option.some.injEq] at taken
      subst taken
      refine ⟨{ locked with processor := fun holds => holds.elim }, { ordered with
          order := ?_, drained := fun outside => absurd trivial outside, taken := by simp },
        ⟨by simp, by simp, by simp⟩, { controlled.move (by simp [point]) (by simp [point]) with }⟩
      rw [unapplied, if_neg (by simp)]
      exact order
  | absent | locking | checkingQueue | checkingExit | waiting | testingExit | leaving | finished
  | unlocking | swapping =>
      rw [point] at emptying
      cases emptying

theorem sound_stepProcessor (sound : state.Sound) (taken : state.stepProcessor = some next) :
    next.Sound := by
  obtain ⟨locked, ordered, awake, controlled⟩ := sound
  unfold stepProcessor at taken
  cases point : state.processor with
  | absent => simp [point] at taken
  | waiting => simp [point] at taken
  | finished => simp [point] at taken
  | locking =>
      simp only [point, Option.ite_none_right_eq_some, Option.some.injEq] at taken
      obtain ⟨free, rfl⟩ := taken
      have unlocked : ∀ holder, state.mutex ≠ some holder := by simp [free]
      have drained := ordered.drained (by simp [point, ProcessingPoint.Emptying])
      exact ⟨⟨fun thread holds => absurd (locked.pusher thread holds) (unlocked _), fun _ => rfl,
          fun holds => absurd (locked.control holds) (unlocked _)⟩,
        { ordered.move (by simp [point]) (by simp) (fun _ => drained) (by simp) with },
        ⟨by simp, by simp, by simp⟩, { controlled.move (by simp [point]) (by simp [point]) with }⟩
  | checkingQueue =>
      simp only [point, Option.some.injEq] at taken
      subst taken
      have held : state.processor.Holds := by rw [point]; trivial
      have drained := ordered.drained (by simp [point, ProcessingPoint.Emptying])
      refine ⟨locked.stay held, ordered.move (by simp [point]) ?_ (fun _ => drained) ?_,
        ⟨fun here => ?_, ?_, ?_⟩, controlled.move (by simp [point]) (by simp [point])⟩
      · split <;> simp
      · split <;> simp
      · by_cases both : state.entitiesToProcess.bothEmpty = true
        · rw [DBQueue.bothEmpty, Bool.and_eq_true, List.isEmpty_iff, List.isEmpty_iff] at both
          exact both.2
        · dsimp only at here
          rw [if_neg both] at here
          cases here
      · dsimp only
        split <;> simp
      · dsimp only
        split <;> simp
  | checkingExit =>
      have held : state.processor.Holds := by rw [point]; trivial
      have drained := ordered.drained (by simp [point, ProcessingPoint.Emptying])
      simp only [point] at taken
      split at taken
      · next ended =>
          cases taken
          exact ⟨locked.stay held, ordered.move (by simp [point]) (by simp) (fun _ => drained)
            (by simp), ⟨by simp, by simp, by simp⟩, controlled.move (by simp [point])
            (by simp [point])⟩
      · next running =>
          cases taken
          refine ⟨locked.release held fun holds => holds, { ordered.move (by simp [point]) (by simp)
            (fun _ => drained) (by simp) with }, ⟨by simp, fun _ filled => ?_, by simp⟩,
            { controlled.move (by simp [point]) (by simp [point]) with }⟩
          exact absurd (awake.checked point) filled
  | testingExit =>
      simp only [point, Option.some.injEq] at taken
      subst taken
      have held : state.processor.Holds := by rw [point]; trivial
      have drained := ordered.drained (by simp [point, ProcessingPoint.Emptying])
      refine ⟨locked.stay held, ordered.move (by simp [point]) ?_ (fun _ => drained) ?_,
        ⟨?_, ?_, fun running => ?_⟩, controlled.move (by simp [point]) (by simp [point])⟩
      · split <;> simp
      · split <;> simp
      · dsimp only
        split <;> simp
      · dsimp only
        split <;> simp
      · dsimp only at running ⊢
        rw [running]
        simp
  | leaving =>
      simp only [point, Option.some.injEq] at taken
      subst taken
      have held : state.processor.Holds := by rw [point]; trivial
      have drained := ordered.drained (by simp [point, ProcessingPoint.Emptying])
      exact ⟨locked.release held fun holds => holds, { ordered.move (by simp [point]) (by simp)
        (fun _ => drained) (by simp) with }, ⟨by simp, by simp,
          fun running => absurd point (awake.exited running).1⟩,
        { controlled.move (by simp [point]) (by simp [point]) with }⟩
  | unlocking =>
      simp only [point, Option.some.injEq] at taken
      subst taken
      have held : state.processor.Holds := by rw [point]; trivial
      have drained := ordered.drained (by simp [point, ProcessingPoint.Emptying])
      exact ⟨locked.release held fun holds => holds, { ordered.move (by simp [point]) (by simp)
        (fun _ => drained) (by simp) with }, ⟨by simp, by simp, by simp⟩,
        { controlled.move (by simp [point]) (by simp [point]) with }⟩
  | swapping =>
      simp only [point, Option.some.injEq] at taken
      subst taken
      have order := ordered.order
      rw [unapplied, if_neg (by simp [point])] at order
      refine ⟨{ locked with processor := fun holds => holds.elim }, { ordered with
          order := ?_, drained := fun outside => absurd trivial outside, taken := by simp },
        ⟨by simp, by simp, by simp⟩, { controlled.move (by simp [point]) (by simp [point]) with }⟩
      rw [unapplied, if_neg (by simp), order]
      simp [DBQueue.swap]
  | testingEmpty | processing | popping =>
      have emptying : state.processor.Emptying := by simp [point, ProcessingPoint.Emptying]
      exact sound_processQueue ⟨locked, ordered, awake, controlled⟩ emptying taken

section Pushers

variable [DecidableEq Thread]

/-- A thread goes on to a point at which it does not hold the lock. -/
theorem Locked.setPusher (locked : state.Locked) {point : PushPoint} (released : ¬ point.Holds) :
    Locked { state with pushers := Function.update state.pushers thread point } := by
  refine { locked with pusher := fun other holds => ?_ }
  by_cases same : other = thread
  · subst same
    simp only [Function.update_self] at holds
    exact absurd holds released
  · simp only [Function.update_of_ne same] at holds
    exact locked.pusher other holds

theorem sound_push (sound : state.Sound) {item : QueueItem} (idle : state.pushers thread = .idle)
    (free : state.mutex = none) :
    Sound { state with
      pushers := Function.update state.pushers thread (.pushing item)
      mutex := some (.pusher thread) } := by
  have unlocked : ∀ holder, state.mutex ≠ some holder := by simp [free]
  refine ⟨⟨fun other holds => ?_, fun holds => absurd (sound.locked.processor holds) (unlocked _),
      fun holds => absurd (sound.locked.control holds) (unlocked _)⟩,
    { sound.ordered with }, { sound.awake with waited := fun waiting filled => ?_ },
    { sound.controlled with }⟩
  · by_cases same : other = thread
    · rw [same]
    · simp only [Function.update_of_ne same] at holds
      exact absurd (sound.locked.pusher other holds) (unlocked _)
  · obtain ⟨other, there⟩ := sound.awake.waited waiting filled
    have different : other ≠ thread := by
      rintro rfl
      simp [idle] at there
    refine ⟨other, ?_⟩
    simp only [Function.update_of_ne different]
    exact there

theorem sound_stepPusher (sound : state.Sound) (taken : state.stepPusher thread = some next) :
    next.Sound := by
  unfold stepPusher at taken
  cases point : state.pushers thread with
  | idle => simp [point] at taken
  | pushing item =>
      simp only [point, Option.some.injEq] at taken
      subst taken
      have owner := sound.locked.pusher thread (by rw [point]; trivial)
      have outside : ¬ state.processor.Holds := by
        intro holds
        rw [sound.locked.processor holds] at owner
        cases owner
      refine ⟨{ sound.locked with pusher := fun other holds => ?_ },
        { sound.ordered with order := ?_ },
        { sound.awake with checked := fun here => ?_, waited := fun _ _ => ⟨thread, ?_⟩ },
        { sound.controlled with }⟩
      · by_cases same : other = thread
        · rw [same]
          exact owner
        · simp only [Function.update_of_ne same] at holds
          exact sound.locked.pusher other holds
      · rw [sound.ordered.order]
        simp [DBQueue.push, unapplied]
      · simp only at here
        rw [here] at outside
        exact absurd trivial outside
      · simp
  | unlocking =>
      simp only [point, Option.some.injEq] at taken
      subst taken
      have owner := sound.locked.pusher thread (by rw [point]; trivial)
      refine ⟨⟨fun other holds => ?_, fun holds => ?_, fun holds => ?_⟩, { sound.ordered with },
        { sound.awake with waited := fun _ _ => ⟨thread, by simp⟩ }, { sound.controlled with }⟩
      · by_cases same : other = thread
        · subst same
          simp only [Function.update_self] at holds
          exact holds.elim
        · simp only [Function.update_of_ne same] at holds
          rw [sound.locked.pusher other holds] at owner
          cases owner
          exact absurd rfl same
      · rw [sound.locked.processor holds] at owner
        cases owner
      · rw [sound.locked.control holds] at owner
        cases owner
  | notifying =>
      simp only [point, Option.some.injEq] at taken
      subst taken
      have woken := sound_notifyOne sound
      have elsewhere : state.notifyOne.processor ≠ .waiting := by
        unfold notifyOne
        dsimp only
        split
        · simp
        · next other => exact other
      exact ⟨woken.locked.setPusher fun holds => holds, { woken.ordered with },
        { woken.awake with waited := fun waiting => absurd waiting elsewhere },
        { woken.controlled with }⟩

/-- **One step** of any thread. -/
theorem sound_step (sound : state.Sound) {label : QueueStep Thread}
    (taken : state.step label = some next) : next.Sound := by
  cases label with
  | start =>
      simp only [step, Option.ite_none_right_eq_some] at taken
      obtain ⟨idle, called⟩ := taken
      split at called
      · cases called
        exact sound
      · next stopped =>
          cases called
          rw [Bool.not_eq_true] at stopped
          refine sound.setControl (fun holds => holds) ⟨fun _ _ _ => ?_, fun _ => stopped, by simp⟩
          exact sound.controlled.joined stopped (by simp [idle]) (by simp [idle])
  | stop =>
      simp only [step, Option.ite_none_right_eq_some] at taken
      obtain ⟨_, called⟩ := taken
      split at called
      · next running =>
          cases called
          exact sound.setControl (fun holds => holds) ⟨by simp [running], by simp, fun _ => running⟩
      · cases called
        exact sound
  | control => exact sound_stepControl sound taken
  | push thread item =>
      simp only [step, Option.ite_none_right_eq_some, Option.some.injEq] at taken
      obtain ⟨⟨idle, free⟩, rfl⟩ := taken
      exact sound_push sound idle free
  | pusher thread => exact sound_stepPusher sound taken
  | processor => exact sound_stepProcessor sound taken
  | wake =>
      simp only [step, Option.ite_none_right_eq_some, Option.some.injEq] at taken
      obtain ⟨waiting, rfl⟩ := taken
      exact sound.wake waiting

end Pushers

/-! ### Every operation once -/

/-- `start` has taken effect, and no call of `stop` since. -/
def Started (state : DiscoveryQueue Thread) : Prop :=
  state.enabled = true ∧ state.control = .idle

/-- The operations are applied in the order of their pushes and none twice, and
all of them are when the processing thread of a started database is at rest. -/
structure ExactlyOnce (state : DiscoveryQueue Thread) : Prop where
  inOrder : state.applied <+: state.pushed
  entities : state.entities =
    state.applied.foldl (fun entities item => (processItem entities item).1) ∅
  complete : state.Started → (∀ thread, state.pushers thread = .idle) →
    state.processor = .waiting ∨ state.processor = .finished → state.applied = state.pushed

def NothingQueued (state : DiscoveryQueue Thread) : Prop :=
  state.entitiesToProcess.foreground = [] ∧ state.entitiesToProcess.background = []

/-- A start after a stop finds no operation in the queue, and none is pushed as
long as it lasts. -/
def QuietAfterRestart (state : DiscoveryQueue Thread) : QueueStep Thread → Prop
  | .control => state.control = .enabling → state.exit = true → state.NothingQueued
  | .pusher thread => (∃ item, state.pushers thread = .pushing item) →
      ¬ (state.Started ∧ state.exit = true)
  | _ => True

/-- A step before the first stop, or one of no pushing thread that finds nothing queued. -/
def runsQuietly (state : DiscoveryQueue Thread) : QueueStep Thread → Bool
  | .pusher _ => !state.exit
  | _ => !state.exit || state.entitiesToProcess.bothEmpty

theorem quietAfterRestart_of_runsQuietly {label : QueueStep Thread}
    (quiet : state.runsQuietly label = true) : state.QuietAfterRestart label := by
  cases label with
  | control =>
      intro _ exits
      have empty : (!state.exit || state.entitiesToProcess.bothEmpty) = true := quiet
      rw [exits, Bool.not_true, Bool.false_or, DBQueue.bothEmpty, Bool.and_eq_true,
        List.isEmpty_iff, List.isEmpty_iff] at empty
      exact empty
  | pusher thread =>
      rintro _ ⟨_, exits⟩
      rw [runsQuietly, exits] at quiet
      cases quiet
  | start | stop | push | processor | wake => trivial

/-- No operation waits for a thread that ends at once. -/
def Unattended (state : DiscoveryQueue Thread) : Prop :=
  state.Started → state.exit = true → state.NothingQueued

theorem Sound.exactlyOnce (sound : state.Sound) (unattended : state.Unattended) :
    state.ExactlyOnce := by
  have order := sound.ordered.order
  refine ⟨⟨_, by rw [order, List.append_assoc]⟩, sound.ordered.entities,
    fun started quiet rest => ?_⟩
  have drained : state.entitiesToProcess.foreground = [] := by
    refine sound.ordered.drained ?_
    rcases rest with rest | rest <;> simp [rest, ProcessingPoint.Emptying]
  have empty : state.entitiesToProcess.background = [] := by
    rcases rest with waiting | ended
    · by_contra filled
      obtain ⟨thread, notifying⟩ := sound.awake.waited waiting filled
      rw [quiet thread] at notifying
      simp at notifying
    · by_cases exits : state.exit = true
      · exact (unattended started exits).2
      · rw [Bool.not_eq_true] at exits
        exact absurd ended (sound.awake.exited exits).2
  have none : state.unapplied = [] := by
    unfold unapplied
    rw [drained]
    simp
  rw [order, none, empty]
  simp

/-- The processing thread changes no flag, and fills no queue. -/
theorem stepProcessor_frame (taken : state.stepProcessor = some next) :
    next.enabled = state.enabled ∧ next.control = state.control ∧ next.exit = state.exit ∧
      (state.NothingQueued → next.NothingQueued) := by
  unfold stepProcessor at taken
  cases point : state.processor with
  | absent | waiting | finished => simp [point] at taken
  | locking =>
      simp only [point, Option.ite_none_right_eq_some, Option.some.injEq] at taken
      obtain ⟨_, rfl⟩ := taken
      exact ⟨rfl, rfl, rfl, fun empty => empty⟩
  | checkingExit =>
      simp only [point] at taken
      split at taken <;> cases taken <;> exact ⟨rfl, rfl, rfl, fun empty => empty⟩
  | processing =>
      simp only [point] at taken
      split at taken <;> cases taken
      exact ⟨rfl, rfl, rfl, fun empty => empty⟩
  | swapping =>
      simp only [point, Option.some.injEq] at taken
      subst taken
      refine ⟨rfl, rfl, rfl, fun empty => ?_⟩
      simp [NothingQueued, DBQueue.swap, empty.1, empty.2]
  | popping =>
      simp only [point, Option.some.injEq] at taken
      subst taken
      refine ⟨rfl, rfl, rfl, fun empty => ?_⟩
      simp [NothingQueued, DBQueue.pop, empty.1, empty.2]
  | checkingQueue | testingExit | leaving | unlocking | testingEmpty =>
      simp only [point, Option.some.injEq] at taken
      subst taken
      exact ⟨rfl, rfl, rfl, fun empty => empty⟩

/-- A step that leaves the calls and the flags as they are, and queues nothing. -/
theorem Unattended.frame (unattended : state.Unattended)
    (sameEnabled : next.enabled = state.enabled) (sameControl : next.control = state.control)
    (sameExit : next.exit = state.exit) (kept : state.NothingQueued → next.NothingQueued) :
    next.Unattended := by
  rintro ⟨enabled, idle⟩ exits
  rw [sameEnabled] at enabled
  rw [sameControl] at idle
  rw [sameExit] at exits
  exact kept (unattended ⟨enabled, idle⟩ exits)

/-- No call is over, so the database is not started. -/
theorem Unattended.of_called (called : next.control ≠ .idle) : next.Unattended :=
  fun started _ => absurd started.2 called

theorem unattended_stepControl (sound : state.Sound) (taken : state.stepControl = some next)
    (quiet : state.control = .enabling → state.exit = true → state.NothingQueued) :
    next.Unattended := by
  unfold stepControl at taken
  cases point : state.control with
  | idle => simp [point] at taken
  | enabling =>
      simp only [point, Option.some.injEq] at taken
      subst taken
      exact fun _ exits => quiet point exits
  | locking =>
      simp only [point, Option.ite_none_right_eq_some, Option.some.injEq] at taken
      obtain ⟨_, rfl⟩ := taken
      exact .of_called (by simp)
  | joining =>
      simp only [point, Option.ite_none_right_eq_some, Option.some.injEq] at taken
      obtain ⟨_, rfl⟩ := taken
      intro started
      have stopped := sound.controlled.starting (by simp [point])
      have running := started.1
      rw [stopped] at running
      cases running
  | creatingThread | storingExit | unlocking | notifying | disabling =>
      simp only [point, Option.some.injEq] at taken
      subst taken
      exact .of_called (by simp)

theorem unattended_step [DecidableEq Thread] (sound : state.Sound) (unattended : state.Unattended)
    {label : QueueStep Thread} (quiet : state.QuietAfterRestart label)
    (taken : state.step label = some next) : next.Unattended := by
  cases label with
  | start =>
      simp only [step, Option.ite_none_right_eq_some] at taken
      obtain ⟨_, called⟩ := taken
      split at called <;> cases called
      · exact unattended
      · exact .of_called (by simp)
  | stop =>
      simp only [step, Option.ite_none_right_eq_some] at taken
      obtain ⟨_, called⟩ := taken
      split at called <;> cases called
      · exact .of_called (by simp)
      · exact unattended
  | control => exact unattended_stepControl sound taken quiet
  | push thread item =>
      simp only [step, Option.ite_none_right_eq_some, Option.some.injEq] at taken
      obtain ⟨_, rfl⟩ := taken
      exact unattended.frame rfl rfl rfl fun empty => empty
  | pusher thread =>
      simp only [step, stepPusher] at taken
      cases point : state.pushers thread with
      | idle => simp [point] at taken
      | pushing item =>
          simp only [point, Option.some.injEq] at taken
          subst taken
          intro started exits
          exact absurd ⟨started, exits⟩ (quiet ⟨item, point⟩)
      | unlocking | notifying =>
          simp only [point, Option.some.injEq] at taken
          subst taken
          exact unattended.frame rfl rfl rfl fun empty => empty
  | processor =>
      obtain ⟨sameEnabled, sameControl, sameExit, kept⟩ := stepProcessor_frame taken
      exact unattended.frame sameEnabled sameControl sameExit kept
  | wake =>
      simp only [step, Option.ite_none_right_eq_some, Option.some.injEq] at taken
      obtain ⟨_, rfl⟩ := taken
      exact unattended.frame rfl rfl rfl fun empty => empty

/-- What a run keeps. -/
structure Invariant (state : DiscoveryQueue Thread) : Prop where
  sound : state.Sound
  unattended : state.Unattended

end DiscoveryQueue

/-- **Every operation is applied once and in order**, in every run in which
nothing is queued for a database that is started again. -/
theorem exactlyOnce_of_reachable {Thread : Type} [DecidableEq Thread]
    {state : DiscoveryQueue Thread}
    (reached : (queueSystem Thread).Reachable DiscoveryQueue.QuietAfterRestart state) :
    state.ExactlyOnce := by
  have kept : state.Invariant := by
    refine reached.invariant ?_ ?_
    · rintro _ rfl
      refine ⟨⟨⟨fun _ => False.elim, False.elim, False.elim⟩, ⟨rfl, fun _ => rfl, by simp, rfl⟩,
        ⟨by simp, by simp, by simp⟩, ⟨by simp, by simp, by simp⟩⟩, fun _ exits => by cases exits⟩
    · intro state label next before quiet taken
      exact ⟨DiscoveryQueue.sound_step before.sound taken,
        DiscoveryQueue.unattended_step before.sound before.unattended quiet taken⟩
  exact kept.sound.exactlyOnce kept.unattended

/-- An endpoint is discovered by one thread, and while that is being processed another
thread loses it. The database is stopped and started again. -/
def pushTwiceAndRestart (endpoint : Endpoint) : List (QueueStep Bool) :=
  [[.start, .control, .control, .processor, .processor, .processor,
    .push false (.add, endpoint), .pusher false, .pusher false, .pusher false],
    List.replicate 6 .processor,
    [.push true (.erase, endpoint), .pusher true, .pusher true],
    List.replicate 8 .processor, [.pusher true], List.replicate 7 .processor,
    .stop :: List.replicate 5 .control, List.replicate 5 .processor, [.control],
    [.start, .control, .control], List.replicate 5 .processor].flatten

/-- Two threads push an operation each before a database is stopped and started again. -/
theorem exactlyOnce_of_reachable_restart :
    ∃ state : DiscoveryQueue Bool, (state.Started ∧ state.exit = true ∧
      state.applied = [(.add, { guid := ⟨2, 1⟩ }), (.erase, { guid := ⟨2, 1⟩ })]) ∧
        state.ExactlyOnce := by
  obtain ⟨state, reached, test⟩ := System.exists_reachable_of_runAdmitted (queueSystem Bool) {}
    (pushTwiceAndRestart { guid := ⟨2, 1⟩ }) DiscoveryQueue.runsQuietly
    (fun state => decide ((state.enabled = true ∧ state.control = .idle) ∧ state.exit = true ∧
      state.applied = [(.add, { guid := ⟨2, 1⟩ }), (.erase, { guid := ⟨2, 1⟩ })]))
    (fun _ _ _ quiet => DiscoveryQueue.quietAfterRestart_of_runsQuietly quiet)
    rfl (by decide +kernel)
  obtain ⟨started, exits, applied⟩ := of_decide_eq_true test
  exact ⟨state, ⟨started, exits, applied⟩, exactlyOnce_of_reachable reached⟩

/-- A database is started, stopped and started again, and an operation is pushed
to it. -/
def restartAndPush : List (QueueStep Unit) :=
  [[.start, .control, .control, .stop], List.replicate 5 .control, List.replicate 5 .processor,
    [.control, .start, .control, .control], List.replicate 5 .processor,
    [.push () (.add, {}), .pusher (), .pusher (), .pusher ()]].flatten

/-- A database that is stopped and started again, and an operation pushed to it. -/
theorem not_exactlyOnce_of_reachable :
    ∃ state : DiscoveryQueue Unit, (queueSystem Unit).Reachable anyStep state ∧
      ¬ state.ExactlyOnce := by
  obtain ⟨state, reached, test⟩ := System.exists_reachable_of_run (queueSystem Unit) {}
    restartAndPush
    (fun state => decide ((state.enabled = true ∧ state.control = .idle) ∧
      state.pushers () = .idle ∧ state.processor = .finished ∧ state.applied ≠ state.pushed))
    (fun _ _ _ => trivial) rfl (by decide +kernel)
  obtain ⟨started, idle, ended, different⟩ := of_decide_eq_true test
  exact ⟨state, reached, fun once => different (once.complete started (fun _ => idle) (.inr ended))⟩

end DdsPipe.Dynamic
