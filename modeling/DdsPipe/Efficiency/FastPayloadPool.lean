import DdsPipe.Library.TransitionSystem
import Mathlib

/-!
Owns the reference counting of the fast payload pool between threads: what each
atomic operation on a counter does, and the points at which a thread may be
interrupted inside `release_payload`.

A release subtracts its reference and reads the counter again in a second step,
so that two threads that drop the last two handles can both find it zero
(`not_safe_of_reachable`). The counting is safe as long as the last handle of a
block is not dropped while another release of the block is under way, and the
counter does not overflow (`safe_of_reachable`).

Does not own: the content of the payloads, and allocations that fail.
-/

namespace DdsPipe.Efficiency

/-- The number of values of `unsigned int`. -/
def unsignedRange : Nat := 2 ^ 32

/-- An allocated block: its reference counter, and how often it was freed. -/
structure Block where
  counter : Nat
  freed : Nat := 0
deriving DecidableEq, Repr

/-- A payload object that refers to a block, by the order of its allocation. -/
structure Payload where
  data : Nat
  length : Nat := 0
  maxSize : Nat
deriving DecidableEq, Repr

/-- Where a thread is in `release_payload`. -/
inductive Point where
  | idle
  /-- Its reference is subtracted, and the counter is to be read. -/
  | checking (block : Nat)
  /-- The counter was zero, and the block is to be freed. -/
  | freeing (block : Nat)
deriving DecidableEq, Repr

def Point.block : Point → Option Nat
  | .idle => none
  | .checking block => some block
  | .freeing block => some block

/-- `handles` are the payload objects that the threads hold. `touchedFreed` is
history that no step reads: a step has touched a block that had been freed. -/
structure FastPayloadPool (Thread : Type) where
  blocks : List Block := []
  handles : List (Thread × Payload) := []
  points : Thread → Point := fun _ => .idle
  reserveCount : Nat := 0
  releaseCount : Nat := 0
  touchedFreed : Bool := false

/-- One step of a thread. -/
inductive PoolStep (Thread : Type) where
  /-- `get_payload(size, payload)`. -/
  | reserve (thread : Thread) (size : Nat)
  /-- `get_payload(src, owner, target)` of a source that is not of this pool. -/
  | copy (thread : Thread) (length maxSize : Nat)
  /-- `get_payload(src, owner, target)` of a payload that is of this pool. -/
  | reference (thread : Thread) (source : Payload)
  /-- A use of the data through a handle. -/
  | access (thread : Thread) (payload : Payload)
  /-- A handle that goes to another thread. -/
  | pass (thread : Thread) (payload : Payload) (receiver : Thread)
  /-- `release_payload`, up to the subtraction. -/
  | release (thread : Thread) (payload : Payload)
  /-- Its comparison of the counter with zero. -/
  | check (thread : Thread)
  /-- `release_`. -/
  | free (thread : Thread)
deriving DecidableEq, Repr

namespace FastPayloadPool

section

variable {Thread : Type} [DecidableEq Thread]

/-- The counter or the data of a block is read or written. -/
def touch (pool : FastPayloadPool Thread) (block : Nat) : FastPayloadPool Thread :=
  { pool with
    touchedFreed := pool.touchedFreed || pool.blocks[block]?.any fun stored => stored.freed > 0 }

def setPoint (pool : FastPayloadPool Thread) (thread : Thread) (point : Point) :
    FastPayloadPool Thread :=
  { pool with points := Function.update pool.points thread point }

/-- `reserve_`, for a size that is not zero. -/
def reserve (pool : FastPayloadPool Thread) (thread : Thread) (length size : Nat) :
    FastPayloadPool Thread :=
  { pool with
    blocks := pool.blocks ++ [{ counter := 1 }]
    handles := (thread, { data := pool.blocks.length, length := length, maxSize := size }) ::
      pool.handles
    reserveCount := pool.reserveCount + 1 }

def reference (pool : FastPayloadPool Thread) (thread : Thread) (source : Payload) :
    FastPayloadPool Thread :=
  let pool := pool.touch source.data
  { pool with
    blocks := pool.blocks.modify source.data fun block =>
      { block with counter := (block.counter + 1) % unsignedRange }
    handles := (thread, source) :: pool.handles }

/-- The subtraction of `release_payload`. The payload object is emptied. -/
def subtract (pool : FastPayloadPool Thread) (thread : Thread) (payload : Payload) :
    FastPayloadPool Thread :=
  let pool := pool.touch payload.data
  { pool with
    blocks := pool.blocks.modify payload.data fun block =>
      { block with counter := (block.counter + (unsignedRange - 1)) % unsignedRange }
    handles := pool.handles.erase (thread, payload)
    points := Function.update pool.points thread (.checking payload.data) }

/-- The comparison of `release_payload`. -/
def check (pool : FastPayloadPool Thread) (thread : Thread) (block : Nat) :
    FastPayloadPool Thread :=
  let pool := pool.touch block
  pool.setPoint thread
    (if pool.blocks[block]?.any fun stored => stored.counter = 0 then .freeing block else .idle)

/-- `release_`, which frees the block. -/
def free (pool : FastPayloadPool Thread) (thread : Thread) (block : Nat) :
    FastPayloadPool Thread :=
  let pool := pool.touch block
  { pool with
    blocks := pool.blocks.modify block fun stored => { stored with freed := stored.freed + 1 }
    points := Function.update pool.points thread .idle
    releaseCount := pool.releaseCount + 1 }

/-- A thread starts a call only outside of `release_payload`, and uses only the
handles that it holds. -/
def step (pool : FastPayloadPool Thread) : PoolStep Thread → Option (FastPayloadPool Thread)
  | .reserve thread size =>
      if pool.points thread = .idle then
        if size = 0 then some pool else some (pool.reserve thread 0 size)
      else none
  | .copy thread length maxSize =>
      if pool.points thread = .idle then
        if maxSize = 0 then some pool else some (pool.reserve thread length maxSize)
      else none
  | .reference thread source =>
      if pool.points thread = .idle ∧ (thread, source) ∈ pool.handles then
        some (pool.reference thread source)
      else none
  | .access thread payload =>
      if pool.points thread = .idle ∧ (thread, payload) ∈ pool.handles then
        some (pool.touch payload.data)
      else none
  | .pass thread payload receiver =>
      if pool.points thread = .idle ∧ (thread, payload) ∈ pool.handles then
        some { pool with handles := (receiver, payload) :: pool.handles.erase (thread, payload) }
      else none
  | .release thread payload =>
      if pool.points thread = .idle ∧ (thread, payload) ∈ pool.handles then
        some (pool.subtract thread payload)
      else none
  | .check thread =>
      match pool.points thread with
      | .checking block => some (pool.check thread block)
      | _ => none
  | .free thread =>
      match pool.points thread with
      | .freeing block => some (pool.free thread block)
      | _ => none

end

end FastPayloadPool

open FastPayloadPool TransitionSystem

/-- The runs of the pool, from its construction. -/
def poolSystem (Thread : Type) [DecidableEq Thread] :
    System (FastPayloadPool Thread) (PoolStep Thread) where
  Initial pool := pool = {}
  step := step

section

variable {Thread : Type}

/-- The number of handles that refer to a block. -/
def FastPayloadPool.handlesOf (pool : FastPayloadPool Thread) (block : Nat) : Nat :=
  pool.handles.countP fun handle => handle.2.data == block

/-- Every block is freed once at most, after its last handle is released, and at
the latest when the releases are over; nothing touches a block once it is freed,
and no more payloads are released than have been reserved. -/
structure FastPayloadPool.Safe (pool : FastPayloadPool Thread) : Prop where
  once : ∀ (block : Nat) (stored : Block), pool.blocks[block]? = some stored → stored.freed ≤ 1
  afterLast : ∀ (block : Nat) (stored : Block), pool.blocks[block]? = some stored →
    stored.freed = 1 → pool.handlesOf block = 0
  released : ∀ (block : Nat) (stored : Block), pool.blocks[block]? = some stored →
    pool.handlesOf block = 0 → (∀ thread, (pool.points thread).block ≠ some block) →
      stored.freed = 1
  untouched : pool.touchedFreed = false
  counts : pool.releaseCount ≤ pool.reserveCount

/-- The last handle of a block is not released while another release of the block
is under way, and no block gets as many handles as its counter has values. -/
def LastReleaseAlone (pool : FastPayloadPool Thread) : PoolStep Thread → Prop
  | .reference _ source => pool.handlesOf source.data + 1 < unsignedRange
  | .release _ payload => pool.handlesOf payload.data = 1 →
      ∀ other, (pool.points other).block ≠ some payload.data
  | _ => True

instance [Fintype Thread] (pool : FastPayloadPool Thread) :
    (label : PoolStep Thread) → Decidable (LastReleaseAlone pool label)
  | .reference _ source =>
      inferInstanceAs (Decidable (pool.handlesOf source.data + 1 < unsignedRange))
  | .release _ payload =>
      inferInstanceAs (Decidable (pool.handlesOf payload.data = 1 →
        ∀ other, (pool.points other).block ≠ some payload.data))
  | .reserve _ _ | .copy _ _ _ | .access _ _ | .pass _ _ _ | .check _ | .free _ => .isTrue trivial

/-! ### The life of a block -/

/-- The block is held and counted right; or its last release is under way, and no
other; or it has been freed, and nothing refers to it. -/
inductive Phase (handles : Nat) (points : Thread → Point) (block : Nat) (stored : Block) :
    Prop where
  | alive (unfreed : stored.freed = 0) (counted : stored.counter = handles) (held : 0 < handles)
      (unfreeing : ∀ thread, points thread ≠ .freeing block)
  | dying (unfreed : stored.freed = 0) (zero : stored.counter = 0) (dropped : handles = 0)
      (thread : Thread) (inside : (points thread).block = some block)
      (alone : ∀ other, (points other).block = some block → other = thread)
  | dead (freed : stored.freed = 1) (dropped : handles = 0)
      (outside : ∀ thread, (points thread).block ≠ some block)

/-- A block other than the one that a thread left or entered stays in its phase. -/
theorem Phase.update [DecidableEq Thread] {handles block : Nat} {points : Thread → Point}
    {thread : Thread} {stored : Block} {point : Point} (phase : Phase handles points block stored)
    (before : (points thread).block ≠ some block) (after : point.block ≠ some block) :
    Phase handles (Function.update points thread point) block stored := by
  have same : ∀ other, (Function.update points thread point other).block = some block ↔
      (points other).block = some block := by
    intro other
    by_cases here : other = thread
    · subst here
      simp [before, after]
    · simp [here]
  cases phase with
  | alive unfreed counted held unfreeing =>
      refine .alive unfreed counted held fun other freeing => ?_
      by_cases here : other = thread
      · subst here
        rw [Function.update_self] at freeing
        rw [freeing] at after
        exact after rfl
      · rw [Function.update_of_ne here] at freeing
        exact unfreeing other freeing
  | dying unfreed zero dropped other inside alone =>
      exact .dying unfreed zero dropped other ((same other).mpr inside)
        fun third here => alone third ((same third).mp here)
  | dead freed dropped outside =>
      exact .dead freed dropped fun other here => outside other ((same other).mp here)

structure FastPayloadPool.Sound (pool : FastPayloadPool Thread) : Prop where
  handles : ∀ handle ∈ pool.handles, handle.2.data < pool.blocks.length
  points : ∀ thread block, (pool.points thread).block = some block → block < pool.blocks.length
  bounded : ∀ block, pool.handlesOf block < unsignedRange
  phases : ∀ (block : Nat) (stored : Block), pool.blocks[block]? = some stored →
    Phase (pool.handlesOf block) pool.points block stored
  untouched : pool.touchedFreed = false
  reserved : pool.reserveCount = pool.blocks.length
  released : pool.releaseCount = (pool.blocks.map Block.freed).sum

namespace FastPayloadPool

variable {pool : FastPayloadPool Thread} {thread : Thread} {payload : Payload} {block : Nat}

/-- A held handle refers to a block that is alive. -/
theorem Sound.alive_of_mem (sound : pool.Sound) (held : (thread, payload) ∈ pool.handles) :
    ∃ stored, pool.blocks[payload.data]? = some stored ∧ stored.freed = 0 ∧
      stored.counter = pool.handlesOf payload.data ∧ 0 < pool.handlesOf payload.data ∧
        ∀ thread, pool.points thread ≠ .freeing payload.data := by
  have bound := sound.handles _ held
  have positive : 0 < pool.handlesOf payload.data :=
    List.countP_pos_iff.mpr ⟨(thread, payload), held, by simp⟩
  refine ⟨pool.blocks[payload.data], List.getElem?_eq_getElem bound, ?_⟩
  cases sound.phases _ _ (List.getElem?_eq_getElem bound) with
  | alive unfreed counted _ unfreeing => exact ⟨unfreed, counted, positive, unfreeing⟩
  | dying _ _ dropped => exact absurd dropped positive.ne'
  | dead _ dropped => exact absurd dropped positive.ne'

/-- A thread inside `release_payload` works on a block that is not freed. -/
theorem Sound.unfreed_of_inside (sound : pool.Sound)
    (inside : (pool.points thread).block = some block) :
    ∃ stored, pool.blocks[block]? = some stored ∧ stored.freed = 0 ∧
      (stored.counter = pool.handlesOf block ∧ 0 < pool.handlesOf block ∧
          (∀ other, pool.points other ≠ .freeing block) ∨
        stored.counter = 0 ∧ pool.handlesOf block = 0 ∧
          ∀ other, (pool.points other).block = some block → other = thread) := by
  have bound := sound.points thread block inside
  refine ⟨pool.blocks[block], List.getElem?_eq_getElem bound, ?_⟩
  cases sound.phases _ _ (List.getElem?_eq_getElem bound) with
  | alive unfreed counted held unfreeing => exact ⟨unfreed, .inl ⟨counted, held, unfreeing⟩⟩
  | dying unfreed zero dropped other there alone =>
      refine ⟨unfreed, .inr ⟨zero, dropped, fun third here => ?_⟩⟩
      rw [alone third here, alone thread inside]
  | dead _ _ outside => exact absurd inside (outside thread)

/-- A touch of a block that is not freed leaves no trace. -/
theorem touch_of_unfreed {stored : Block} (found : pool.blocks[block]? = some stored)
    (unfreed : stored.freed = 0) : pool.touch block = pool := by
  simp [touch, found, unfreed]

/-! ### Handles and blocks -/

theorem handlesOf_cons (blocks : List Block) (points : Thread → Point)
    (reserveCount releaseCount : Nat) (touchedFreed : Bool) (handles : List (Thread × Payload)) :
    handlesOf ⟨blocks, (thread, payload) :: handles, points, reserveCount, releaseCount,
      touchedFreed⟩ block = handles.countP (fun handle => handle.2.data == block) +
        if payload.data = block then 1 else 0 := by
  simp [handlesOf, List.countP_cons]

theorem sum_freed_modify {change : Block → Block} {stored : Block} {more : Nat}
    (adds : (change stored).freed = stored.freed + more) {blocks : List Block} {block : Nat}
    (found : blocks[block]? = some stored) :
    ((blocks.modify block change).map Block.freed).sum =
      (blocks.map Block.freed).sum + more := by
  induction blocks generalizing block with
  | nil => simp at found
  | cons first rest inductionHypothesis =>
      cases block with
      | zero =>
          simp only [List.getElem?_cons_zero, Option.some.injEq] at found
          subst found
          simp only [List.modify_zero_cons, List.map_cons, List.sum_cons, adds]
          omega
      | succ block =>
          simp only [List.getElem?_cons_succ] at found
          simp only [List.modify_succ_cons, List.map_cons, List.sum_cons,
            inductionHypothesis found]
          omega

theorem getElem?_modify_self {change : Block → Block} {blocks : List Block} {stored after : Block}
    (found : blocks[block]? = some stored)
    (modified : (blocks.modify block change)[block]? = some after) : after = change stored := by
  rw [List.getElem?_modify, found] at modified
  simpa using modified.symm

theorem getElem?_modify_of_ne {change : Block → Block} {blocks : List Block} {other : Nat}
    (different : other ≠ block) : (blocks.modify block change)[other]? = blocks[other]? := by
  rw [List.getElem?_modify]
  simp [Ne.symm different]

/-! ### What each step keeps -/

theorem sound_reserve (sound : pool.Sound) (thread : Thread) (length size : Nat) :
    (pool.reserve thread length size).Sound := by
  have unheld : pool.handlesOf pool.blocks.length = 0 := by
    refine List.countP_eq_zero.mpr fun handle held same => ?_
    have bound := sound.handles handle held
    rw [beq_iff_eq] at same
    omega
  have counts : ∀ block, (pool.reserve thread length size).handlesOf block =
      pool.handlesOf block + if pool.blocks.length = block then 1 else 0 :=
    fun block => handlesOf_cons _ _ _ _ _ _
  refine ⟨?_, ?_, fun block => ?_, fun block stored found => ?_, sound.untouched, ?_, ?_⟩
  · intro handle held
    simp only [reserve, List.length_append, List.length_singleton]
    rcases List.mem_cons.mp held with rfl | before
    · show pool.blocks.length < _
      omega
    · have bound := sound.handles handle before
      omega
  · intro other block inside
    have bound := sound.points other block inside
    simp only [reserve, List.length_append, List.length_singleton]
    omega
  · rw [counts]
    have bounded := sound.bounded block
    split
    · next same =>
        rw [← same, unheld]
        decide
    · exact bounded
  · rw [counts]
    simp only [reserve] at found
    by_cases new : pool.blocks.length = block
    · subst new
      rw [List.getElem?_concat_length, Option.some.injEq] at found
      rw [if_pos rfl, unheld, ← found]
      refine .alive rfl rfl (by decide) fun other freeing => ?_
      have bound := sound.points other pool.blocks.length
        (by rw [show pool.points other = _ from freeing]; rfl)
      omega
    · rw [if_neg new]
      have before : block < pool.blocks.length := by
        have bound := (List.getElem?_eq_some_iff.mp found).1
        rw [List.length_append, List.length_singleton] at bound
        omega
      rw [List.getElem?_append_left before] at found
      exact sound.phases block stored found
  · simp [reserve, sound.reserved]
  · simp [reserve, sound.released]

theorem sound_reference (sound : pool.Sound) (held : (thread, payload) ∈ pool.handles)
    (room : pool.handlesOf payload.data + 1 < unsignedRange) :
    (pool.reference thread payload).Sound := by
  obtain ⟨stored, found, unfreed, counted, positive, unfreeing⟩ := sound.alive_of_mem held
  have counts : ∀ block, (pool.reference thread payload).handlesOf block =
      pool.handlesOf block + if payload.data = block then 1 else 0 :=
    fun block => handlesOf_cons _ _ _ _ _ _
  have blocks : (pool.reference thread payload).blocks = pool.blocks.modify payload.data
      fun block => { block with counter := (block.counter + 1) % unsignedRange } := rfl
  refine ⟨?_, ?_, fun block => ?_, fun block after there => ?_, ?_, ?_, ?_⟩
  · intro handle member
    rw [blocks, List.length_modify]
    rcases List.mem_cons.mp member with rfl | before
    · exact sound.handles _ held
    · exact sound.handles handle before
  · intro other block inside
    rw [blocks, List.length_modify]
    exact sound.points other block inside
  · rw [counts]
    have bounded := sound.bounded block
    split
    · next same => rwa [← same]
    · exact bounded
  · rw [counts]
    rw [blocks] at there
    by_cases same : payload.data = block
    · subst same
      rw [getElem?_modify_self found there, if_pos rfl]
      refine .alive unfreed ?_ (by omega) unfreeing
      show (stored.counter + 1) % unsignedRange = _
      rw [counted, Nat.mod_eq_of_lt room]
    · rw [getElem?_modify_of_ne (Ne.symm same)] at there
      rw [if_neg same]
      exact sound.phases block after there
  · show (pool.touch payload.data).touchedFreed = false
    rw [touch_of_unfreed found unfreed]
    exact sound.untouched
  · rw [blocks, List.length_modify]
    exact sound.reserved
  · have sum : ((pool.blocks.modify payload.data fun block =>
        { block with counter := (block.counter + 1) % unsignedRange }).map Block.freed).sum =
          (pool.blocks.map Block.freed).sum + 0 := sum_freed_modify rfl found
    rw [blocks, sum]
    exact sound.released

/-- Using the data through a handle, or reading it in a release, leaves no trace. -/
theorem sound_touch (sound : pool.Sound) (held : (thread, payload) ∈ pool.handles) :
    (pool.touch payload.data).Sound := by
  obtain ⟨stored, found, unfreed, _⟩ := sound.alive_of_mem held
  rw [touch_of_unfreed found unfreed]
  exact sound

variable [DecidableEq Thread]

/-- Without one of its handles, a block has one handle less. -/
theorem countP_erase_handle (held : (thread, payload) ∈ pool.handles) (block : Nat) :
    (pool.handles.erase (thread, payload)).countP (fun handle => handle.2.data == block) +
      (if payload.data = block then 1 else 0) = pool.handlesOf block := by
  have order := (List.perm_cons_erase held).countP_eq fun handle => handle.2.data == block
  rw [List.countP_cons] at order
  simp only [handlesOf, order, beq_iff_eq]

theorem sound_pass (sound : pool.Sound) (held : (thread, payload) ∈ pool.handles)
    (receiver : Thread) :
    Sound { pool with
      handles := (receiver, payload) :: pool.handles.erase (thread, payload) } := by
  have counts : ∀ block, handlesOf { pool with
      handles := (receiver, payload) :: pool.handles.erase (thread, payload) } block =
        pool.handlesOf block := by
    intro block
    rw [← countP_erase_handle held block]
    exact handlesOf_cons _ _ _ _ _ _
  refine ⟨?_, sound.points, fun block => ?_, fun block stored found => ?_, sound.untouched,
    sound.reserved, sound.released⟩
  · intro handle member
    rcases List.mem_cons.mp member with rfl | before
    · exact sound.handles (thread, payload) held
    · exact sound.handles handle (List.mem_of_mem_erase before)
  · rw [counts]
    exact sound.bounded block
  · rw [counts]
    exact sound.phases block stored found

/-- The subtraction of a release keeps the counting: a block with other handles
stays alive, and the last handle leaves it dying with this thread alone inside. -/
theorem sound_subtract (sound : pool.Sound) (idle : pool.points thread = .idle)
    (held : (thread, payload) ∈ pool.handles)
    (alone : pool.handlesOf payload.data = 1 →
      ∀ other, (pool.points other).block ≠ some payload.data) :
    (pool.subtract thread payload).Sound := by
  obtain ⟨stored, found, unfreed, counted, positive, unfreeing⟩ := sound.alive_of_mem held
  have counts : ∀ block, (pool.subtract thread payload).handlesOf block +
      (if payload.data = block then 1 else 0) = pool.handlesOf block :=
    countP_erase_handle held
  have blocks : (pool.subtract thread payload).blocks = pool.blocks.modify payload.data
      fun block =>
        { block with counter := (block.counter + (unsignedRange - 1)) % unsignedRange } := rfl
  have points : (pool.subtract thread payload).points =
      Function.update pool.points thread (.checking payload.data) := rfl
  have bounded := sound.bounded payload.data
  refine ⟨?_, ?_, fun block => ?_, fun block after there => ?_, ?_, ?_, ?_⟩
  · intro handle member
    rw [blocks, List.length_modify]
    exact sound.handles handle (List.mem_of_mem_erase member)
  · intro other block inside
    rw [blocks, List.length_modify]
    rw [points] at inside
    by_cases here : other = thread
    · subst here
      rw [Function.update_self] at inside
      cases inside
      exact sound.handles _ held
    · rw [Function.update_of_ne here] at inside
      exact sound.points other block inside
  · have total := counts block
    have before := sound.bounded block
    omega
  · have total := counts block
    rw [points]
    rw [blocks] at there
    by_cases same : payload.data = block
    · subst same
      rw [if_pos rfl] at total
      rw [getElem?_modify_self found there]
      have counter : (stored.counter + (unsignedRange - 1)) % unsignedRange =
          (pool.subtract thread payload).handlesOf payload.data := by
        rw [counted, ← total, show (pool.subtract thread payload).handlesOf payload.data + 1 +
          (unsignedRange - 1) = (pool.subtract thread payload).handlesOf payload.data +
            unsignedRange from by unfold unsignedRange; omega,
          Nat.add_mod_right, Nat.mod_eq_of_lt (by omega)]
      by_cases last : pool.handlesOf payload.data = 1
      · refine .dying unfreed ?_ (by omega) thread (by simp [Point.block]) fun other inside => ?_
        · show (stored.counter + (unsignedRange - 1)) % unsignedRange = 0
          rw [counter]
          omega
        · by_contra elsewhere
          rw [Function.update_of_ne elsewhere] at inside
          exact alone last other inside
      · refine .alive unfreed counter (by omega) fun other freeing => ?_
        by_cases here : other = thread
        · subst here
          simp at freeing
        · rw [Function.update_of_ne here] at freeing
          exact unfreeing other freeing
    · rw [getElem?_modify_of_ne (Ne.symm same)] at there
      rw [if_neg same, Nat.add_zero] at total
      rw [total]
      exact (sound.phases block after there).update (by simp [idle, Point.block])
        (by simpa [Point.block] using same)
  · show (pool.touch payload.data).touchedFreed = false
    rw [touch_of_unfreed found unfreed]
    exact sound.untouched
  · rw [blocks, List.length_modify]
    exact sound.reserved
  · have sum : ((pool.blocks.modify payload.data fun block => { block with
        counter := (block.counter + (unsignedRange - 1)) % unsignedRange }).map Block.freed).sum =
          (pool.blocks.map Block.freed).sum + 0 := sum_freed_modify rfl found
    rw [blocks, sum]
    exact sound.released

/-- The comparison of a release sends its thread to free a block exactly when
that is the last release of the block. -/
theorem sound_check (sound : pool.Sound) {block : Nat}
    (checking : pool.points thread = .checking block) : (pool.check thread block).Sound := by
  have before : (pool.points thread).block = some block := by
    rw [checking]
    rfl
  obtain ⟨stored, found, unfreed, cases⟩ := sound.unfreed_of_inside before
  have same : pool.check thread block = pool.setPoint thread
      (if stored.counter = 0 then .freeing block else .idle) := by
    simp [check, touch_of_unfreed found unfreed, found]
  rw [same]
  refine ⟨sound.handles, ?_, sound.bounded, ?_, sound.untouched, sound.reserved, sound.released⟩
  · intro other inner inside
    simp only [setPoint] at inside
    by_cases here : other = thread
    · subst here
      rw [Function.update_self] at inside
      split at inside
      · cases inside
        exact sound.points other block before
      · cases inside
    · rw [Function.update_of_ne here] at inside
      exact sound.points other inner inside
  · intro inner after there
    simp only [setPoint] at there ⊢
    by_cases here : inner = block
    · subst here
      rw [found] at there
      cases there
      rcases cases with ⟨counted, held, unfreeing⟩ | ⟨zero, dropped, alone⟩
      · rw [if_neg (by omega)]
        refine .alive unfreed counted held fun other freeing => ?_
        by_cases here : other = thread
        · subst here
          simp at freeing
        · rw [Function.update_of_ne here] at freeing
          exact unfreeing other freeing
      · rw [if_pos zero]
        refine .dying unfreed zero dropped thread (by simp [Point.block]) fun other inside => ?_
        by_contra elsewhere
        rw [Function.update_of_ne elsewhere] at inside
        exact elsewhere ((alone other inside).trans (alone thread before).symm)
    · refine (sound.phases inner after there).update ?_ ?_
      · rw [before]
        exact fun equal => here (Option.some.inj equal).symm
      · split
        · exact fun equal => here (Option.some.inj equal).symm
        · simp [Point.block]

theorem sound_free (sound : pool.Sound) {block : Nat}
    (freeing : pool.points thread = .freeing block) : (pool.free thread block).Sound := by
  have before : (pool.points thread).block = some block := by
    rw [freeing]
    rfl
  obtain ⟨stored, found, unfreed, cases⟩ := sound.unfreed_of_inside before
  rcases cases with ⟨_, _, unfreeing⟩ | ⟨zero, dropped, alone⟩
  · exact absurd freeing (unfreeing thread)
  have blocks : (pool.free thread block).blocks = pool.blocks.modify block
      fun stored => { stored with freed := stored.freed + 1 } := by
    simp [free, touch_of_unfreed found unfreed]
  have points : (pool.free thread block).points = Function.update pool.points thread .idle := rfl
  refine ⟨?_, ?_, sound.bounded, ?_, ?_, ?_, ?_⟩
  · intro handle member
    rw [blocks, List.length_modify]
    exact sound.handles handle member
  · intro other inner inside
    rw [blocks, List.length_modify]
    rw [points] at inside
    by_cases here : other = thread
    · subst here
      rw [Function.update_self] at inside
      cases inside
    · rw [Function.update_of_ne here] at inside
      exact sound.points other inner inside
  · intro inner after there
    rw [points]
    rw [blocks] at there
    by_cases here : inner = block
    · subst here
      rw [getElem?_modify_self found there]
      refine .dead (by simp [unfreed]) dropped fun other inside => ?_
      by_cases same : other = thread
      · subst same
        simp [Point.block] at inside
      · rw [Function.update_of_ne same] at inside
        exact same ((alone other inside).trans (alone thread before).symm)
    · rw [getElem?_modify_of_ne here] at there
      refine (sound.phases inner after there).update ?_ (by simp [Point.block])
      rw [before]
      exact fun equal => here (Option.some.inj equal).symm
  · show (pool.touch block).touchedFreed = false
    rw [touch_of_unfreed found unfreed]
    exact sound.untouched
  · rw [blocks, List.length_modify]
    exact sound.reserved
  · have sum : ((pool.blocks.modify block fun stored =>
        { stored with freed := stored.freed + 1 }).map Block.freed).sum =
          (pool.blocks.map Block.freed).sum + 1 := sum_freed_modify rfl found
    rw [blocks, sum, ← sound.released]
    rfl

end FastPayloadPool

/-! ### Every block is freed once, after its last handle -/

theorem sound_initial : ({} : FastPayloadPool Thread).Sound where
  handles := by simp
  points := by simp [Point.block]
  bounded := by simp [handlesOf, unsignedRange]
  phases := by simp
  untouched := rfl
  reserved := rfl
  released := rfl

theorem sound_step [DecidableEq Thread] {pool next : FastPayloadPool Thread}
    {label : PoolStep Thread} (sound : pool.Sound) (admitted : LastReleaseAlone pool label)
    (taken : pool.step label = some next) : next.Sound := by
  cases label with
  | reserve thread size =>
      simp only [step] at taken
      split at taken
      · split at taken
        · cases taken
          exact sound
        · cases taken
          exact sound_reserve sound thread 0 size
      · cases taken
  | copy thread length maxSize =>
      simp only [step] at taken
      split at taken
      · split at taken
        · cases taken
          exact sound
        · cases taken
          exact sound_reserve sound thread length maxSize
      · cases taken
  | reference thread source =>
      obtain ⟨⟨_, held⟩, same⟩ := Option.ite_none_right_eq_some.mp taken
      cases same
      exact sound_reference sound held admitted
  | access thread payload =>
      obtain ⟨⟨_, held⟩, same⟩ := Option.ite_none_right_eq_some.mp taken
      cases same
      exact sound_touch sound held
  | pass thread payload receiver =>
      obtain ⟨⟨_, held⟩, same⟩ := Option.ite_none_right_eq_some.mp taken
      cases same
      exact sound_pass sound held receiver
  | release thread payload =>
      obtain ⟨⟨idle, held⟩, same⟩ := Option.ite_none_right_eq_some.mp taken
      cases same
      exact sound_subtract sound idle held admitted
  | check thread =>
      simp only [step] at taken
      split at taken
      · next block checking =>
          cases taken
          exact sound_check sound checking
      · cases taken
  | free thread =>
      simp only [step] at taken
      split at taken
      · next block freeing =>
          cases taken
          exact sound_free sound freeing
      · cases taken

theorem FastPayloadPool.Sound.safe {pool : FastPayloadPool Thread} (sound : pool.Sound) :
    pool.Safe := by
  have once : ∀ (block : Nat) (stored : Block), pool.blocks[block]? = some stored →
      stored.freed ≤ 1 := by
    intro block stored found
    cases sound.phases block stored found with
    | alive unfreed => omega
    | dying unfreed => omega
    | dead freed => omega
  refine ⟨once, fun block stored found freed => ?_, fun block stored found dropped outside => ?_,
    sound.untouched, ?_⟩
  · cases sound.phases block stored found with
    | alive unfreed => omega
    | dying unfreed => omega
    | dead _ dropped => exact dropped
  · cases sound.phases block stored found with
    | alive _ _ held => omega
    | dying _ _ _ thread inside => exact absurd inside (outside thread)
    | dead freed => exact freed
  · rw [sound.released, sound.reserved]
    have most := List.sum_le_card_nsmul (pool.blocks.map Block.freed) 1 fun freed member => by
      obtain ⟨stored, stays, rfl⟩ := List.mem_map.mp member
      obtain ⟨block, found⟩ := List.getElem?_of_mem stays
      exact once block stored found
    simpa using most

/-- **The counting is safe** between any number of threads as long as each block
loses its last handle alone. -/
theorem safe_of_reachable [DecidableEq Thread] {pool : FastPayloadPool Thread}
    (reached : (poolSystem Thread).Reachable LastReleaseAlone pool) : pool.Safe := by
  have initially : ∀ start, (poolSystem Thread).Initial start → start.Sound := by
    intro start initial
    rw [show start = {} from initial]
    exact sound_initial
  exact (reached.invariant initially fun _ _ _ => sound_step).safe

end

/-- Two threads hold one block each through a handle of their own. -/
def sharedBlock : List (PoolStep Bool) :=
  [.reserve false 8, .reference false { data := 0, maxSize := 8 },
    .pass false { data := 0, maxSize := 8 } true]

/-- They release it one after the other. -/
theorem safe_of_reachable_serial :
    ∃ pool : FastPayloadPool Bool, pool.releaseCount = 1 ∧ pool.Safe := by
  have admits : ∀ (pool : FastPayloadPool Bool) label, decide (LastReleaseAlone pool label) = true →
      LastReleaseAlone pool label := fun _ _ => of_decide_eq_true
  obtain ⟨pool, reached, test⟩ := System.exists_reachable_of_runAdmitted (poolSystem Bool) {}
    (sharedBlock ++ [.release true { data := 0, maxSize := 8 }, .check true,
      .release false { data := 0, maxSize := 8 }, .check false, .free false])
    (fun pool label => decide (LastReleaseAlone pool label))
    (fun pool => decide (pool.releaseCount = 1)) (fun pool label _ => admits pool label) rfl
    (by decide +kernel)
  exact ⟨pool, of_decide_eq_true test, safe_of_reachable reached⟩

/-- They release it at the same time: both find the counter zero, and free it. -/
theorem not_safe_of_reachable :
    ¬ ∀ pool : FastPayloadPool Bool, (poolSystem Bool).Reachable anyStep pool → pool.Safe := by
  intro safe
  obtain ⟨pool, reached, test⟩ := System.exists_reachable_of_run (poolSystem Bool) {}
    (sharedBlock ++ [.release true { data := 0, maxSize := 8 },
      .release false { data := 0, maxSize := 8 }, .check true, .check false, .free true,
      .free false])
    (fun pool => pool.touchedFreed) (fun _ _ _ => trivial) rfl (by decide +kernel)
  rw [(safe pool reached).untouched] at test
  cases test

end DdsPipe.Efficiency
