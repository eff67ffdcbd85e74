import DdsPipe.Communication.TrackWakeUps
import DdsPipe.Types.Topic
import Mathlib.Data.Fintype.Option

/-!
Owns the life of the tracks of one bridge: when they are constructed, which calls
on them the calls on the bridge consist of, what their destructor does, and what
the thread pool may still run for them (`outlived_of_reachable`).

The slot that a track registers in the pool holds a pointer to it and is never
taken back, and the destructor does not wait for queued tasks
(`not_outlived_of_reachable`).

Does not own: the hand-over inside one track, whose steps are those of
`TrackHandOver`.
-/

namespace DdsPipe.Communication

open TransitionSystem
open DdsPipe.Types

/-! ### State -/

/-- The life of a track object. Its destructor disables it, then takes its
callback from the reader, and then ends. -/
inductive TrackLife where
  | absent
  | alive
  | disabling
  | unset
  | destroyed
deriving DecidableEq, Repr

structure TrackObject (Thread : Type) where
  handOver : TrackHandOver Thread := {}
  writers : List ParticipantId := []
  life : TrackLife := .absent

/-- A part of a call on the bridge, made while its mutex is held. -/
inductive TrackCall where
  /-- The round of `add_writers_to_tracks_nts_` for a source. -/
  | addWriters (source : ParticipantId) (writers : List ParticipantId)
  | removeWriter (source writer : ParticipantId)
  /-- A track without writers is erased. -/
  | eraseIfEmpty (source : ParticipantId)
  | erase (source : ParticipantId)
  /-- The rest of the destructor of an object. -/
  | destroy (id : Nat)
  | enable (source : ParticipantId)
  | disable (source : ParticipantId)
  /-- The call of `enable` or `disable` on a track returns. -/
  | await (source : ParticipantId)
  | setEnabled (enabled : Bool)
  | disablePool
  /-- The threads of the pool are joined. -/
  | joinPool
deriving DecidableEq, Repr

/-- The bridge with the tracks it has, as the numbers of their objects; all the
objects there have been; the pool; and what is left of the call under way. -/
structure TrackLives (Thread : Type) where
  enabled : Bool := false
  tracks : ParticipantId → Option Nat := fun _ => none
  objects : Nat → TrackObject Thread := fun _ => {}
  constructed : Nat := 0
  poolEnabled : Bool := true
  poolJoined : Bool := false
  pending : List TrackCall := []

/-- The calls on the bridge, and the destruction of the pipe. -/
inductive LifeCall where
  | enable
  | disable
  | createWriter (writer : ParticipantId)
  | removeWriter (writer : ParticipantId)
  | destroyPipe
deriving DecidableEq, Repr

inductive LifeStep (Thread : Type) where
  | call (call : LifeCall)
  /-- The next part of the call under way; `throws` tells whether a reader that it
  asks for cannot be created. -/
  | proceed (throws : Bool)
  /-- A step inside an object, in whatever thread. -/
  | object (id : Nat) (step : TrackStep Thread)

/-! ### Steps -/

/-- The participants in their order, and the writers that the track of each may
have. -/
structure TrackRoutes where
  participants : List ParticipantId
  allows : (source writer : ParticipantId) → Bool

namespace TrackRoutes

/-- `add_writers_to_tracks_nts_`. -/
def addWriters (routes : TrackRoutes) (writers : List ParticipantId) : List TrackCall :=
  (routes.participants.map fun source =>
    (source, writers.filter (routes.allows source))).filterMap fun entry =>
      if entry.2 = [] then none else some (.addWriters entry.1 entry.2)

/-- The parts of a call. -/
def parts (routes : TrackRoutes) (bridgeEnabled : Bool) : LifeCall → List TrackCall
  | .enable =>
      if bridgeEnabled then []
      else routes.participants.flatMap (fun source => [.enable source, .await source]) ++
        [.setEnabled true]
  | .disable =>
      if bridgeEnabled then
        routes.participants.flatMap (fun source => [.disable source, .await source]) ++
          [.setEnabled false]
      else []
  | .createWriter writer => routes.addWriters [writer]
  | .removeWriter writer =>
      routes.participants.flatMap fun source => [.removeWriter source writer, .eraseIfEmpty source]
  | .destroyPipe =>
      (if bridgeEnabled then
        routes.participants.flatMap (fun source => [.disable source, .await source]) ++
          [.setEnabled false]
      else []) ++ [.disablePool, .joinPool] ++ routes.participants.map .erase

end TrackRoutes

namespace TrackLives

variable {Thread : Type}

def setObject (state : TrackLives Thread) (id : Nat) (object : TrackObject Thread) :
    TrackLives Thread :=
  { state with objects := Function.update state.objects id object }

variable [DecidableEq Thread]

/-- The first step of the destructor of the track of a source, which leaves the
map. -/
def beginDestruction (state : TrackLives Thread) (source : ParticipantId) (id : Nat)
    (rest : List TrackCall) : Option (TrackLives Thread) :=
  ((state.objects id).handOver.step .disable).map fun handOver =>
    { state.setObject id { state.objects id with handOver := handOver, life := .disabling } with
      tracks := Function.update state.tracks source none
      pending := .destroy id :: rest }

/-- A step of `enable` or `disable` on the track of a source, if it has one. -/
def onTrack (state : TrackLives Thread) (source : ParticipantId) (label : TrackStep Thread)
    (rest : List TrackCall) : Option (TrackLives Thread) :=
  match state.tracks source with
  | none => some { state with pending := rest }
  | some id =>
      ((state.objects id).handOver.step label).map fun handOver =>
        { state.setObject id { state.objects id with handOver := handOver } with pending := rest }

/-- One part of a call. -/
def proceed (state : TrackLives Thread) (throws : Bool) (rest : List TrackCall) :
    TrackCall → Option (TrackLives Thread)
  | .addWriters source writers =>
      match state.tracks source with
      | some id =>
          let object := state.objects id
          let missing := writers.filter fun writer => writer ∉ object.writers
          if missing = [] then some { state with pending := rest }
          -- `add_writer` waits for a transmission.
          else if object.handOver.holder = none then
            some { state.setObject id { object with writers := object.writers ++ missing } with
              pending := rest }
          else none
      | none =>
          if throws then some { state with pending := [] }
          else
            some { state.setObject state.constructed { writers := writers, life := .alive } with
              tracks := Function.update state.tracks source (some state.constructed)
              constructed := state.constructed + 1
              pending := (if state.enabled then [.enable source, .await source] else []) ++ rest }
  | .removeWriter source writer =>
      match state.tracks source with
      | none => some { state with pending := rest }
      | some id =>
          let object := state.objects id
          -- `remove_writer` waits for a transmission.
          if object.handOver.holder = none then
            some { state.setObject id { object with writers := object.writers.erase writer } with
              pending := rest }
          else none
  | .eraseIfEmpty source =>
      match state.tracks source with
      | none => some { state with pending := rest }
      | some id =>
          if (state.objects id).writers = [] then state.beginDestruction source id rest
          else some { state with pending := rest }
  | .erase source =>
      match state.tracks source with
      | none => some { state with pending := rest }
      | some id => state.beginDestruction source id rest
  | .destroy id =>
      let object := state.objects id
      match object.life with
      | .disabling =>
          if object.handOver.control = .idle then
            some { state.setObject id { object with life := .unset } with
              pending := .destroy id :: rest }
          else none
      | .unset =>
          some { state.setObject id { object with life := .destroyed } with pending := rest }
      | _ => none
  | .enable source => state.onTrack source .enable rest
  | .disable source => state.onTrack source .disable rest
  | .await source =>
      match state.tracks source with
      | none => some { state with pending := rest }
      | some id =>
          if (state.objects id).handOver.control = .idle then some { state with pending := rest }
          else none
  | .setEnabled enabled => some { state with enabled := enabled, pending := rest }
  | .disablePool => some { state with poolEnabled := false, pending := rest }
  | .joinPool =>
      if !state.poolEnabled && (List.range state.constructed).all fun id =>
          (state.objects id).handOver.waiting = 0 ∧ (state.objects id).handOver.holder = none then
        some { state with poolJoined := true, pending := rest }
      else none

/-- Whether a step inside an object can be taken: the pool runs its tasks while it
is enabled, and its reader calls back until the callback is unset. The calls of
`enable` and `disable` are those of the bridge. -/
def allowsInside (state : TrackLives Thread) (id : Nat) : TrackStep Thread → Bool
  | .start => state.poolEnabled
  | .arrive _ _ _ => (state.objects id).life = .alive ∨ (state.objects id).life = .disabling
  | .enable | .disable => false
  | .callback _ | .control _ | .lock | .transmit _ => true

def step (routes : TrackRoutes) (state : TrackLives Thread) :
    LifeStep Thread → Option (TrackLives Thread)
  | .call call =>
      if state.pending = [] && state.poolEnabled then
        some { state with pending := routes.parts state.enabled call }
      else none
  | .proceed throws =>
      match state.pending with
      | [] => none
      | part :: rest => state.proceed throws rest part
  | .object id label =>
      if state.allowsInside id label then
        ((state.objects id).handOver.step label).map fun handOver =>
          state.setObject id { state.objects id with handOver := handOver }
      else none

end TrackLives

/-- The runs of a bridge that is constructed with some writers. -/
def lifetimeSystem (Thread : Type) [DecidableEq Thread] (routes : TrackRoutes) :
    System (TrackLives Thread) (LifeStep Thread) where
  Initial state := ∃ writers, state = { pending := routes.addWriters writers }
  step := TrackLives.step routes

/-! ### What is left of a track -/

namespace TrackHandOver

variable {Thread : Type}

/-- No task of the track is queued or waits for the lock, no callback is past its
test of `enabled_`, and a disabled track has no execution. -/
structure Settled (state : TrackHandOver Thread) : Prop where
  queued : state.queued = 0
  waiting : state.waiting = 0
  silent : ∀ caller, state.callbacks caller = none ∨ state.callbacks caller = some .reading
  stopped : state.enabled = false → state.holder = none

instance [Fintype Thread] (state : TrackHandOver Thread) : Decidable state.Settled :=
  decidable_of_iff (state.queued = 0 ∧ state.waiting = 0 ∧
      (∀ caller, state.callbacks caller = none ∨ state.callbacks caller = some .reading) ∧
      (state.enabled = false → state.holder = none))
    ⟨fun ⟨queued, waiting, silent, stopped⟩ => ⟨queued, waiting, silent, stopped⟩,
      fun settled => ⟨settled.queued, settled.waiting, settled.silent, settled.stopped⟩⟩

/-- A track whose destructor has begun, and which no task is left for. -/
structure Dying (state : TrackHandOver Thread) : Prop where
  queued : state.queued = 0
  waiting : state.waiting = 0
  silent : ∀ caller, state.callbacks caller = none ∨ state.callbacks caller = some .reading
  disabled : state.enabled = false
  closing : ¬ state.control.Enabling
  freed : state.control ≠ .awaitingTransmission → state.holder = none

variable [DecidableEq Thread] {state next : TrackHandOver Thread}

/-- The destructor begins by disabling the track. -/
theorem dying_disable (settled : state.Settled) (taken : state.step .disable = some next) :
    next.Dying := by
  simp only [step] at taken
  split at taken
  · next idle =>
      split at taken
      · cases taken
        exact ⟨settled.queued, settled.waiting, settled.silent, rfl, id,
          fun away => absurd rfl away⟩
      · next stopped =>
          cases taken
          rw [Bool.not_eq_true] at stopped
          exact ⟨settled.queued, settled.waiting, settled.silent, stopped,
            fun enabling => by simp [idle, TrackControlPoint.Enabling] at enabling,
            fun _ => settled.stopped stopped⟩
  · cases taken

theorem silent_setCallback {caller : Option Thread} {point : Option CallbackPoint}
    (silent : ∀ other, state.callbacks other = none ∨ state.callbacks other = some .reading)
    (quiet : point = none ∨ point = some .reading) (other : Option Thread) :
    (state.setCallback caller point).callbacks other = none ∨
      (state.setCallback caller point).callbacks other = some .reading := by
  by_cases same : other = caller
  · subst same
    simpa [setCallback] using quiet
  · simpa [setCallback, same] using silent other

/-- A dying track goes on with `disable`, if at all. -/
theorem dying_stepControl (dying : state.Dying) {calls : Bool}
    (taken : state.stepControl calls = some next) :
    next.Dying ∧ (state.holder = none → next.holder = none) := by
  have closing := dying.closing
  have freed := dying.freed
  unfold stepControl at taken
  cases point : state.control with
  | idle => simp [point] at taken
  | storingStatus | enablingWriters | enablingReader | consultingReader | callingBack =>
      rw [point] at closing
      exact absurd trivial closing
  | awaitingTransmission =>
      simp only [point] at taken
      split at taken
      · next free =>
          cases taken
          exact ⟨⟨dying.queued, dying.waiting, dying.silent, dying.disabled, id, fun _ => free⟩, id⟩
      · cases taken
  | disablingReader | disablingWriters =>
      simp only [point, Option.some.injEq] at taken
      subst taken
      exact ⟨⟨dying.queued, dying.waiting, dying.silent, dying.disabled, id,
        fun _ => freed (by simp [point])⟩, id⟩

/-- **A dying track stays so**, and no execution takes its lock again. -/
theorem dying_step (dying : state.Dying) {label : TrackStep Thread} (notEnable : label ≠ .enable)
    (notDisable : label ≠ .disable) (taken : state.step label = some next) :
    next.Dying ∧ (state.holder = none → next.holder = none) := by
  cases label with
  | arrive thread stored calls =>
      simp only [step] at taken
      split at taken
      · split at taken
        · cases taken
          exact ⟨⟨dying.queued, dying.waiting,
            fun other => silent_setCallback dying.silent (.inr rfl) other, dying.disabled,
            dying.closing, dying.freed⟩, id⟩
        · cases taken
          exact ⟨⟨dying.queued, dying.waiting, dying.silent, dying.disabled, dying.closing,
            dying.freed⟩, id⟩
      · cases taken
  | callback caller =>
      obtain ⟨point, here, rfl⟩ := Option.map_eq_some_iff.mp taken
      have reading : point = .reading := by
        have silent := dying.silent caller
        rw [here] at silent
        simpa using silent
      subst reading
      exact ⟨⟨dying.queued, dying.waiting,
        silent_setCallback dying.silent (by simp [dying.disabled]),
        dying.disabled, dying.closing, dying.freed⟩, id⟩
  | enable => exact absurd rfl notEnable
  | disable => exact absurd rfl notDisable
  | control calls => exact dying_stepControl dying taken
  | start => simp [step, dying.queued] at taken
  | lock =>
      simp only [step, dying.waiting] at taken
      split at taken <;> simp at taken
  | transmit outcome =>
      obtain ⟨point, here, rfl⟩ := Option.map_eq_some_iff.mp taken
      have frame := transmit_frame state outcome point
      refine ⟨⟨frame.queued.trans dying.queued, frame.waiting.trans dying.waiting, ?_,
        frame.enabled.trans dying.disabled, ?_, fun away => ?_⟩, fun free => ?_⟩
      · rw [frame.callbacks]
        exact dying.silent
      · rw [frame.control]
        exact dying.closing
      · rw [frame.control] at away
        rw [dying.freed away] at here
        cases here
      · rw [free] at here
        cases here

/-- The calls of the bridge leave the executions to the pool. -/
theorem stepControl_frame {calls : Bool} (taken : state.stepControl calls = some next) :
    next.waiting = state.waiting ∧ next.holder = state.holder := by
  unfold stepControl at taken
  cases point : state.control with
  | idle => simp [point] at taken
  | storingStatus | enablingWriters | disablingReader | disablingWriters =>
      simp only [point, Option.some.injEq] at taken
      subst taken
      exact ⟨rfl, rfl⟩
  | enablingReader | consultingReader | callingBack | awaitingTransmission =>
      simp only [point] at taken
      split at taken <;> cases taken <;> exact ⟨rfl, rfl⟩

/-- Without executions, the pool has to start one. -/
theorem still_step (waiting : state.waiting = 0) (free : state.holder = none)
    {label : TrackStep Thread} (notStart : label ≠ .start) (taken : state.step label = some next) :
    next.waiting = 0 ∧ next.holder = none := by
  cases label with
  | arrive thread stored calls =>
      simp only [step] at taken
      split at taken
      · split at taken <;> cases taken <;> exact ⟨waiting, free⟩
      · cases taken
  | callback caller =>
      obtain ⟨point, here, rfl⟩ := Option.map_eq_some_iff.mp taken
      cases point <;> exact ⟨waiting, free⟩
  | enable | disable =>
      simp only [step] at taken
      split at taken
      · split at taken <;> cases taken <;> exact ⟨waiting, free⟩
      · cases taken
  | control calls =>
      obtain ⟨sameWaiting, sameHolder⟩ := stepControl_frame taken
      exact ⟨sameWaiting.trans waiting, sameHolder.trans free⟩
  | start => exact absurd rfl notStart
  | lock =>
      simp only [step, waiting] at taken
      split at taken <;> simp at taken
  | transmit outcome =>
      simp [step, free] at taken

/-- Nothing happens inside a track that has not been constructed, but arrivals. -/
theorem step_initial {label : TrackStep Thread} (notEnable : label ≠ .enable)
    (notDisable : label ≠ .disable)
    (notArrive : ∀ thread stored calls, label ≠ .arrive thread stored calls) :
    ({} : TrackHandOver Thread).step label = none := by
  cases label with
  | arrive thread stored calls => exact absurd rfl (notArrive thread stored calls)
  | enable => exact absurd rfl notEnable
  | disable => exact absurd rfl notDisable
  | callback | control | start | lock | transmit => rfl

end TrackHandOver

namespace TrackLives

variable {Thread : Type}

structure Sound (state : TrackLives Thread) : Prop where
  alive : ∀ source id, state.tracks source = some id →
    (state.objects id).life = .alive ∧ id < state.constructed
  injective : ∀ source other id, state.tracks source = some id → state.tracks other = some id →
    source = other
  fresh : ∀ id, state.constructed ≤ id → state.objects id = {}
  disabling : ∀ id, (state.objects id).life = .disabling → state.poolJoined = true ∨
    (state.objects id).handOver.Dying
  ended : ∀ id, (state.objects id).life = .unset ∨ (state.objects id).life = .destroyed →
    state.poolJoined = true ∨
      (state.objects id).handOver.Dying ∧ (state.objects id).handOver.holder = none
  joined : state.poolJoined = true → state.poolEnabled = false ∧
    ∀ id, (state.objects id).handOver.waiting = 0 ∧ (state.objects id).handOver.holder = none

/-- No execution of the task of a destroyed track is under way. -/
def Safe (state : TrackLives Thread) : Prop :=
  ∀ id, (state.objects id).life = .destroyed →
    (state.objects id).handOver.waiting = 0 ∧ (state.objects id).handOver.holder = none

/-- The track that the next part of the call under way begins to destroy. -/
def toDestroy (state : TrackLives Thread) : Option Nat :=
  match state.pending with
  | .eraseIfEmpty source :: _ =>
      (state.tracks source).filter fun id => (state.objects id).writers = []
  | .erase source :: _ => state.tracks source
  | _ => none

/-- A track is destroyed only when no task is left for it, or the pool has been
disabled and its threads joined. -/
def DestroysSettled (state : TrackLives Thread) : LifeStep Thread → Prop
  | .proceed _ => ∀ id, state.toDestroy = some id →
      state.poolJoined = true ∨ (state.objects id).handOver.Settled
  | _ => True

instance [Fintype Thread] (state : TrackLives Thread) (label : LifeStep Thread) :
    Decidable (state.DestroysSettled label) :=
  match label with
  | .proceed _ =>
      inferInstanceAs (Decidable (∀ id ∈ state.toDestroy,
        state.poolJoined = true ∨ (state.objects id).handOver.Settled))
  | .call _ | .object _ _ => isTrue trivial

variable {state next : TrackLives Thread}

theorem Sound.safe (sound : state.Sound) : state.Safe := by
  intro id destroyed
  rcases sound.ended id (.inr destroyed) with joined | ⟨dying, free⟩
  · exact (sound.joined joined).2 id
  · exact ⟨dying.waiting, free⟩

/-- What is left of the call does not matter. -/
theorem Sound.setPending (sound : state.Sound) (pending : List TrackCall) :
    Sound { state with pending } :=
  ⟨sound.alive, sound.injective, sound.fresh, sound.disabling, sound.ended, sound.joined⟩

/-- An object moves on in its life as it is. -/
theorem Sound.setObject (sound : state.Sound) (id : Nat) (object : TrackObject Thread)
    (constructed : id < state.constructed)
    (alive : (∃ source, state.tracks source = some id) → object.life = .alive)
    (disabling : object.life = .disabling → state.poolJoined = true ∨ object.handOver.Dying)
    (ended : object.life = .unset ∨ object.life = .destroyed → state.poolJoined = true ∨
      object.handOver.Dying ∧ object.handOver.holder = none)
    (joined : state.poolJoined = true →
      object.handOver.waiting = 0 ∧ object.handOver.holder = none) :
    (state.setObject id object).Sound := by
  have same : (state.setObject id object).objects id = object := by
    simp [TrackLives.setObject]
  have others : ∀ other, other ≠ id →
      (state.setObject id object).objects other = state.objects other := by
    intro other different
    simp [TrackLives.setObject, different]
  refine ⟨fun source other found => ?_, sound.injective, fun other later => ?_,
    fun other => ?_, fun other => ?_,
    fun joinedPool => ⟨(sound.joined joinedPool).1, fun other => ?_⟩⟩
  · by_cases here : other = id
    · subst here
      rw [same]
      exact ⟨alive ⟨source, found⟩, constructed⟩
    · rw [others other here]
      exact sound.alive source other found
  · have different : other ≠ id := by
      have later : state.constructed ≤ other := later
      omega
    rw [others other different]
    exact sound.fresh other later
  all_goals
    by_cases here : other = id
    · subst here
      rw [same]
      first
        | exact disabling
        | exact ended
        | exact joined joinedPool
    · rw [others other here]
      first
        | exact sound.disabling other
        | exact sound.ended other
        | exact (sound.joined joinedPool).2 other

theorem Sound.constructed (sound : state.Sound) {id : Nat}
    (there : (state.objects id).life ≠ .absent) : id < state.constructed := by
  by_contra later
  rw [sound.fresh id (by omega)] at there
  exact there rfl

theorem Sound.removeTrack (sound : state.Sound) (source : ParticipantId) :
    Sound { state with tracks := Function.update state.tracks source none } := by
  have kept : ∀ other id, Function.update state.tracks source none other = some id →
      state.tracks other = some id := by
    intro other id found
    by_cases same : other = source
    · subst same
      simp at found
    · simpa [same] using found
  exact ⟨fun other id found => sound.alive other id (kept other id found),
    fun other another id here there =>
      sound.injective other another id (kept other id here) (kept another id there),
    sound.fresh, sound.disabling, sound.ended, sound.joined⟩

/-- A new object has the next number. -/
theorem Sound.construct (sound : state.Sound) (source : ParticipantId)
    (writers : List ParticipantId) :
    Sound { state.setObject state.constructed { writers := writers, life := .alive } with
      tracks := Function.update state.tracks source (some state.constructed)
      constructed := state.constructed + 1 } := by
  have earlier : ∀ other id, state.tracks other = some id → id ≠ state.constructed := by
    intro other id found same
    have before := (sound.alive other id found).2
    omega
  have more : Sound { state with constructed := state.constructed + 1 } :=
    ⟨fun other id found =>
        ⟨(sound.alive other id found).1, Nat.lt_succ_of_lt (sound.alive other id found).2⟩,
      sound.injective, fun id later => sound.fresh id (Nat.le_of_succ_le later), sound.disabling,
      sound.ended, sound.joined⟩
  have made := more.setObject state.constructed { writers := writers, life := .alive }
    (Nat.lt_succ_self _) (fun _ => rfl)
    (fun other => by cases other) (fun other => by rcases other with other | other <;> cases other)
    (fun _ => ⟨rfl, rfl⟩)
  have found : ∀ other id, Function.update state.tracks source (some state.constructed) other =
      some id → other = source ∧ id = state.constructed ∨
        other ≠ source ∧ state.tracks other = some id := by
    intro other id found
    by_cases same : other = source
    · subst same
      rw [Function.update_self, Option.some.injEq] at found
      exact .inl ⟨rfl, found.symm⟩
    · rw [Function.update_of_ne same] at found
      exact .inr ⟨same, found⟩
  refine ⟨fun other id there => ?_, fun other another id here there => ?_, made.fresh,
    made.disabling, made.ended, made.joined⟩
  · rcases found other id there with ⟨_, rfl⟩ | ⟨_, old⟩
    · exact ⟨by simp [TrackLives.setObject], Nat.lt_succ_self _⟩
    · exact made.alive other id old
  · rcases found other id here with ⟨rfl, rfl⟩ | ⟨_, old⟩
    · rcases found another _ there with ⟨rfl, _⟩ | ⟨_, old⟩
      · rfl
      · exact absurd rfl (earlier another _ old)
    · rcases found another id there with ⟨rfl, rfl⟩ | ⟨_, other⟩
      · exact absurd rfl (earlier other _ old)
      · exact sound.injective _ _ id old other

variable [DecidableEq Thread]

/-- A step inside an object. -/
theorem sound_object (sound : state.Sound) {id : Nat} {label : TrackStep Thread}
    {handOver : TrackHandOver Thread} (allowed : state.allowsInside id label = true)
    (taken : (state.objects id).handOver.step label = some handOver) :
    (state.setObject id { state.objects id with handOver := handOver }).Sound := by
  have notEnable : label ≠ .enable := by
    rintro rfl
    cases allowed
  have notDisable : label ≠ .disable := by
    rintro rfl
    cases allowed
  have constructed : id < state.constructed := by
    by_contra later
    have blank := sound.fresh id (by omega)
    rw [blank] at taken
    rw [TrackHandOver.step_initial notEnable notDisable] at taken
    · cases taken
    · rintro thread stored calls rfl
      simp [allowsInside, blank] at allowed
  refine sound.setObject id _ constructed (fun ⟨source, found⟩ => (sound.alive source id found).1)
    (fun disabling => ?_) (fun ended => ?_) fun joined => ?_
  · refine (sound.disabling id disabling).imp_right fun dying => ?_
    exact (TrackHandOver.dying_step dying notEnable notDisable taken).1
  · refine (sound.ended id ended).imp_right fun ⟨dying, free⟩ => ?_
    obtain ⟨still, kept⟩ := TrackHandOver.dying_step dying notEnable notDisable taken
    exact ⟨still, kept free⟩
  · obtain ⟨off, still⟩ := sound.joined joined
    refine TrackHandOver.still_step (still id).1 (still id).2 ?_ taken
    rintro rfl
    rw [show state.poolEnabled = true from allowed] at off
    cases off

/-- A call of `enable` or `disable` on a track. -/
theorem sound_onTrack (sound : state.Sound) {source : ParticipantId} {label : TrackStep Thread}
    {rest : List TrackCall} (notStart : label ≠ .start)
    (taken : state.onTrack source label rest = some next) : next.Sound := by
  unfold onTrack at taken
  split at taken
  · cases taken
    exact sound.setPending rest
  · next id found =>
      obtain ⟨handOver, stepped, rfl⟩ := Option.map_eq_some_iff.mp taken
      obtain ⟨alive, constructed⟩ := sound.alive source id found
      refine (sound.setObject id { state.objects id with handOver := handOver } constructed
        (fun _ => alive) (fun other => ?_) (fun other => ?_) fun joined => ?_).setPending rest
      · simp [alive] at other
      · simp [alive] at other
      · have still := (sound.joined joined).2 id
        exact TrackHandOver.still_step still.1 still.2 notStart stepped

theorem sound_beginDestruction (sound : state.Sound) {source : ParticipantId} {id : Nat}
    {rest : List TrackCall} (found : state.tracks source = some id)
    (settled : state.poolJoined = true ∨ (state.objects id).handOver.Settled)
    (taken : state.beginDestruction source id rest = some next) : next.Sound := by
  obtain ⟨handOver, stepped, rfl⟩ := Option.map_eq_some_iff.mp taken
  have removed := sound.removeTrack source
  have gone : ¬ ∃ other, Function.update state.tracks source none other = some id := by
    rintro ⟨other, there⟩
    by_cases same : other = source
    · subst same
      simp at there
    · rw [Function.update_of_ne same] at there
      exact same (sound.injective other source id there found)
  refine (removed.setObject id { state.objects id with handOver := handOver, life := .disabling }
    (sound.alive source id found).2 (fun there => absurd there gone) (fun _ => ?_)
    (fun other => ?_) fun joined => ?_).setPending _
  · exact settled.imp_right fun settled => TrackHandOver.dying_disable settled stepped
  · rcases other with other | other <;> cases other
  · have still := (sound.joined joined).2 id
    exact TrackHandOver.still_step still.1 still.2 (by simp) stepped

/-- The destructor of a track goes on. -/
theorem sound_destroy (sound : state.Sound) {throws : Bool} {id : Nat} {rest : List TrackCall}
    (taken : state.proceed throws rest (.destroy id) = some next) : next.Sound := by
  have kept : ∀ joined : state.poolJoined = true, (state.objects id).handOver.waiting = 0 ∧
      (state.objects id).handOver.holder = none :=
    fun joined => (sound.joined joined).2 id
  have notTrack : (state.objects id).life ≠ .alive →
      ¬ ∃ source, state.tracks source = some id := by
    rintro dead ⟨source, found⟩
    exact dead (sound.alive source id found).1
  simp only [proceed] at taken
  split at taken
  · next life =>
      have constructed : id < state.constructed := sound.constructed (by simp [life])
      split at taken
      · next idle =>
          cases taken
          refine (sound.setObject id { state.objects id with life := .unset } constructed
            (fun track => absurd track (notTrack (by simp [life]))) (fun other => by cases other)
            (fun _ => ?_) kept).setPending _
          refine (sound.disabling id life).imp_right fun dying => ⟨dying, dying.freed ?_⟩
          simp [idle]
      · cases taken
  · next life =>
      have constructed : id < state.constructed := sound.constructed (by simp [life])
      cases taken
      exact (sound.setObject id { state.objects id with life := .destroyed } constructed
        (fun track => absurd track (notTrack (by simp [life]))) (fun other => by cases other)
        (fun _ => sound.ended id (.inl life)) kept).setPending _
  · cases taken

/-- A joined pool has no execution left, of any track there has been. -/
theorem sound_joinPool (sound : state.Sound) {throws : Bool} {rest : List TrackCall}
    (taken : state.proceed throws rest .joinPool = some next) : next.Sound := by
  simp only [proceed] at taken
  split at taken
  · next still =>
      cases taken
      simp only [Bool.and_eq_true, Bool.not_eq_true', List.all_eq_true, List.mem_range,
        decide_eq_true_eq] at still
      obtain ⟨off, idle⟩ := still
      refine ⟨sound.alive, sound.injective, sound.fresh, fun _ _ => .inl rfl, fun _ _ => .inl rfl,
        fun _ => ⟨off, fun id => ?_⟩⟩
      by_cases constructed : id < state.constructed
      · exact idle id constructed
      · have blank := sound.fresh id (by omega)
        simp [blank]
  · cases taken

/-- One part of a call on the bridge. -/
theorem sound_proceed (sound : state.Sound) {throws : Bool} {part : TrackCall}
    {rest : List TrackCall} (pending : state.pending = part :: rest)
    (settled : ∀ id, state.toDestroy = some id →
      state.poolJoined = true ∨ (state.objects id).handOver.Settled)
    (taken : state.proceed throws rest part = some next) : next.Sound := by
  unfold toDestroy at settled
  rw [pending] at settled
  cases part with
  | addWriters source writers =>
      simp only [proceed] at taken
      split at taken
      · next id found =>
          obtain ⟨alive, constructed⟩ := sound.alive source id found
          split at taken
          · cases taken
            exact sound.setPending rest
          · split at taken
            · cases taken
              refine (sound.setObject id { state.objects id with
                  writers := (state.objects id).writers ++
                    writers.filter fun writer => writer ∉ (state.objects id).writers }
                constructed (fun _ => alive) (fun other => ?_) (fun other => ?_)
                fun joined => (sound.joined joined).2 id).setPending rest
              · simp [alive] at other
              · simp [alive] at other
            · cases taken
      · split at taken
        · cases taken
          exact sound.setPending []
        · cases taken
          exact (sound.construct source writers).setPending _
  | removeWriter source writer =>
      simp only [proceed] at taken
      split at taken
      · cases taken
        exact sound.setPending rest
      · next id found =>
          obtain ⟨alive, constructed⟩ := sound.alive source id found
          split at taken
          · cases taken
            refine (sound.setObject id
              { state.objects id with writers := (state.objects id).writers.erase writer }
              constructed (fun _ => alive) (fun other => ?_) (fun other => ?_)
              fun joined => (sound.joined joined).2 id).setPending rest
            · simp [alive] at other
            · simp [alive] at other
          · cases taken
  | eraseIfEmpty source =>
      simp only [proceed] at taken
      split at taken
      · cases taken
        exact sound.setPending rest
      · next id found =>
          split at taken
          · next empty =>
              refine sound_beginDestruction sound found (settled id ?_) taken
              simp [found, empty]
          · cases taken
            exact sound.setPending rest
  | erase source =>
      simp only [proceed] at taken
      split at taken
      · cases taken
        exact sound.setPending rest
      · next id found => exact sound_beginDestruction sound found (settled id found) taken
  | destroy id => exact sound_destroy sound taken
  | enable source => exact sound_onTrack sound (by simp) taken
  | disable source => exact sound_onTrack sound (by simp) taken
  | await source =>
      simp only [proceed] at taken
      split at taken
      · cases taken
        exact sound.setPending rest
      · split at taken
        · cases taken
          exact sound.setPending rest
        · cases taken
  | setEnabled enabled =>
      cases taken
      exact ⟨sound.alive, sound.injective, sound.fresh, sound.disabling, sound.ended, sound.joined⟩
  | disablePool =>
      cases taken
      exact ⟨sound.alive, sound.injective, sound.fresh, sound.disabling, sound.ended,
        fun joined => ⟨rfl, (sound.joined joined).2⟩⟩
  | joinPool => exact sound_joinPool sound taken

theorem sound_step (sound : state.Sound) {routes : TrackRoutes} {label : LifeStep Thread}
    (settled : state.DestroysSettled label) (taken : state.step routes label = some next) :
    next.Sound := by
  cases label with
  | call call =>
      simp only [step] at taken
      split at taken
      · cases taken
        exact sound.setPending _
      · cases taken
  | proceed throws =>
      simp only [step] at taken
      split at taken
      · cases taken
      · next part rest pending => exact sound_proceed sound pending settled taken
  | object id label =>
      simp only [step] at taken
      split at taken
      · next allowed =>
          obtain ⟨handOver, stepped, rfl⟩ := Option.map_eq_some_iff.mp taken
          exact sound_object sound allowed stepped
      · cases taken

end TrackLives

/-- **No execution of a destroyed track.** -/
theorem outlived_of_reachable {Thread : Type} [DecidableEq Thread] {routes : TrackRoutes}
    {state : TrackLives Thread}
    (reached : (lifetimeSystem Thread routes).Reachable TrackLives.DestroysSettled state) :
    state.Safe := by
  have initially : ∀ start, (lifetimeSystem Thread routes).Initial start → start.Sound := by
    rintro _ ⟨writers, rfl⟩
    exact ⟨by simp, by simp, by simp, by simp, by simp, by simp⟩
  have kept : ∀ before label after, before.Sound → before.DestroysSettled label →
      (lifetimeSystem Thread routes).step before label = some after → after.Sound := by
    intro before label after sound settled taken
    exact TrackLives.sound_step sound settled taken
  exact (reached.invariant initially kept).safe

/-! ### Two runs of a track -/

section

/-- Participants `a` and `b`, each the source of the other's writer. -/
def eachToOther : TrackRoutes where
  participants := ["a", "b"]
  allows source writer := source ≠ writer

/-- The track of `a` is enabled, a sample arrives for it and its task is queued. -/
def queuesTask : List (LifeStep Unit) :=
  [.proceed false, .call .enable, .proceed false, .object 0 (.control false),
    .object 0 (.control false), .object 0 (.control false), .object 0 (.control false),
    .proceed false, .proceed false, .proceed false, .proceed false,
    .object 0 (.arrive () true true), .object 0 (.callback (some ())),
    .object 0 (.callback (some ())), .object 0 (.callback (some ()))]

/-- The task runs, and sends the only sample. -/
def runsTask : List (LifeStep Unit) :=
  [.object 0 .start, .object 0 .lock] ++ List.replicate 9 (.object 0 (.transmit .ok))

/-- The writer of `b` is removed, and with it the track of `a`. -/
def removesTrack : List (LifeStep Unit) :=
  [.call (.removeWriter "b"), .proceed false, .proceed false, .object 0 (.control false),
    .object 0 (.control false), .object 0 (.control false), .proceed false, .proceed false]

/-- The task of the track has run before its writer is removed. -/
theorem outlived_of_reachable_removed :
    ∃ state : TrackLives Unit, ((state.objects 0).life = .destroyed ∧
      state.poolEnabled = true ∧ (state.objects 0).handOver.queued = 0) ∧ state.Safe := by
  obtain ⟨state, reached, test⟩ := System.exists_reachable_of_runAdmitted
    (lifetimeSystem Unit eachToOther) { pending := eachToOther.addWriters ["b"] }
    (queuesTask ++ runsTask ++ removesTrack)
    (fun state label => decide (state.DestroysSettled label))
    (fun state => decide ((state.objects 0).life = .destroyed ∧ state.poolEnabled = true ∧
      (state.objects 0).handOver.queued = 0))
    (fun _ _ _ settled => of_decide_eq_true settled) ⟨["b"], rfl⟩ (by decide +kernel)
  exact ⟨state, of_decide_eq_true test, outlived_of_reachable reached⟩

/-- The writer is removed while the task is queued, and a thread of the pool takes
the task when the destructor has finished. -/
theorem not_outlived_of_reachable :
    ¬ ∀ state : TrackLives Unit,
      (lifetimeSystem Unit eachToOther).Reachable anyStep state → state.Safe := by
  intro safe
  obtain ⟨state, reached, test⟩ := System.exists_reachable_of_run
    (lifetimeSystem Unit eachToOther) { pending := eachToOther.addWriters ["b"] }
    (queuesTask ++ removesTrack ++ [.object 0 .start])
    (fun state => decide ((state.objects 0).life = .destroyed ∧
      (state.objects 0).handOver.waiting = 1))
    (fun _ _ _ => trivial) ⟨["b"], rfl⟩ (by decide +kernel)
  obtain ⟨destroyed, started⟩ := of_decide_eq_true test
  have still := (safe state reached 0 destroyed).1
  omega

end

end DdsPipe.Communication
