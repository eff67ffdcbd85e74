import DdsPipe.Efficiency.PayloadPools

/-!
Owns the payload pool that copies every payload, as one thread calls it, with the
payload objects of its caller. What a get asks for is reserved by the base class,
but the get does not look at what the base class returns: a get of zero bytes
reserves nothing and returns true, and the release of its payload throws
(`not_conserves_of_reachable`). Without such gets the pool conserves its payloads
(`conserves_of_reachable`).

Does not own: allocations that fail, and calls from several threads.
-/

namespace DdsPipe.Efficiency.PayloadPools

open Std (TreeMap)
open TransitionSystem

/-! ### The pool -/

/-- What `SerializedPayload_t` does with a payload that has data, or that needs
none. -/
structure ReallocatingLibrary extends SerializedPayloadLibrary where
  /-- A payload that is large enough is left as it is. -/
  reserve_of_enough : ∀ memory allocated newSize (payload : SerializedPayload),
    newSize ≤ payload.maxSize → reserve memory allocated newSize payload = (payload, memory)
  /-- The data of a smaller payload is moved to a block of the size. -/
  reserve_of_data : ∀ memory allocated newSize (payload : SerializedPayload) data,
    payload.data = some data → data ∈ memory → payload.maxSize < newSize →
      reserve memory allocated newSize payload =
        ({ payload with data := some allocated, maxSize := newSize },
          (memory.erase data).insert allocated {
            size := newSize
            bytes := (memory[data]?.map Data.bytes).getD [] })
  empty_of_null : ∀ memory (payload : SerializedPayload), payload.data = none →
    empty memory payload = ({ payload with data := none, length := 0, maxSize := 0 }, memory)

/-- The pool has no data of its own. -/
structure CopyPayloadPool extends AllocatingPool

namespace CopyPayloadPool

variable (library : ReallocatingLibrary)

def getPayload (pool : CopyPayloadPool) (allocated : Address) (size : Nat)
    (payload : SerializedPayload) : Returned CopyPayloadPool :=
  -- What `reserve_` returns is not looked at.
  let (_, payload, base) := pool.reserve library.toSerializedPayloadLibrary allocated size payload
  (true, { payload with maxSize := size }, { toAllocatingPool := base })

/-- `memcpy` to the data of a payload. -/
def memcpy (pool : CopyPayloadPool) (payload : SerializedPayload) (bytes : Bytes) (length : Nat) :
    Except PoolFault CopyPayloadPool :=
  if length = 0 then .ok pool
  else
    match payload.data with
    | none => .error (.invalidAccess none)
    | some address =>
        match pool.memory[address]? with
        | none => .error (.invalidAccess address)
        | some data =>
            if length ≤ data.size then
              .ok { pool with memory := pool.memory.insert address { data with
                bytes := bytes.take length ++ data.bytes.drop length } }
            else .error (.invalidAccess address)

/-- The owner of the source is not looked at. -/
def getPayloadFrom (pool : CopyPayloadPool) (allocated : Address) (source : Source)
    (targetPayload : SerializedPayload) : Except PoolFault (Returned CopyPayloadPool) := do
  let (obtained, targetPayload, pool) :=
    pool.getPayload library allocated source.payload.maxSize targetPayload
  if !obtained then return (false, targetPayload, pool)
  let pool ← pool.memcpy targetPayload source.bytes source.payload.length
  return (true, { targetPayload with
    length := source.payload.length
    maxSize := source.payload.maxSize }, pool)

def releasePayload (pool : CopyPayloadPool) (payload : SerializedPayload) :
    Except PoolFault (Returned CopyPayloadPool) := do
  let (released, payload, base) ← pool.release library.toSerializedPayloadLibrary payload
  return (released, payload, { toAllocatingPool := base })

end CopyPayloadPool

/-! ### The caller -/

/-- A payload object of the caller. `held` is proof data: the gets that returned
true on it, less its releases. -/
structure PayloadObject where
  payload : SerializedPayload := {}
  held : Nat := 0
deriving DecidableEq, Repr

/-- Proof data about a get that returned true: what it asked for, the size of the
block at the data of its payload, and `reserve_count_` before and after it. -/
structure Granted where
  size : Nat
  capacity : Option Nat
  countBefore : Nat
  countAfter : Nat
deriving DecidableEq, Repr

/-- A block of the requested size stands behind the payload, and is counted. -/
structure Granted.Reserved (granted : Granted) : Prop where
  buffer : ∃ capacity, granted.capacity = some capacity ∧ granted.size ≤ capacity
  counted : granted.countAfter = (granted.countBefore + 1) % uint64Range

/-- A call on the payload object at a position. The bytes of a source are those
that the memory holds at its pointer, whoever owns it. -/
inductive CopyCall where
  /-- `get_payload(size, target)`. -/
  | reserve (target size : Nat)
  /-- `get_payload(source, owner, target)`. -/
  | copy (target : Nat) (source : Source)
  /-- `release_payload(payload)`. -/
  | release (index : Nat)
deriving DecidableEq, Repr

namespace CopyCall

def object : CopyCall → Nat
  | reserve target _ => target
  | copy target _ => target
  | release index => index

/-- The size of the block that a call asks for. -/
def requestedSize : CopyCall → Option Nat
  | reserve _ size => some size
  | copy _ source => some source.payload.maxSize
  | release _ => none

end CopyCall

/-- A call, with the address that an allocation returns. -/
structure CopyStep where
  copyCall : CopyCall
  allocated : Address
deriving DecidableEq, Repr

/-- The pool with the payload objects of its caller, and what its gets granted. -/
structure CopyClient where
  pool : CopyPayloadPool := {}
  objects : List PayloadObject
  granted : List Granted := []

namespace CopyClient

variable (library : ReallocatingLibrary)

/-- The payloads that have not been released. -/
def held (client : CopyClient) : Nat :=
  (client.objects.map PayloadObject.held).sum

/-- The calls that a caller may make: a source holds its length within its size,
and what is released has been obtained. An allocation returns an address that is
not in use, or moves the data of its payload to where it is. -/
def allows (client : CopyClient) (object : PayloadObject) (next : CopyStep) : Bool :=
  let fresh := !client.pool.memory.contains next.allocated ||
    object.payload.data == some next.allocated
  match next.copyCall with
  | .reserve _ _ => fresh
  | .copy _ source => fresh && source.bytes.length == source.payload.length &&
      source.payload.length ≤ source.payload.maxSize
  | .release _ => 0 < object.held

/-- After a get of the payload of an object. -/
def obtain (client : CopyClient) (target size : Nat) (object : PayloadObject)
    (returned : Returned CopyPayloadPool) : CopyClient :=
  let (obtained, payload, pool) := returned
  if obtained then
    { pool := pool
      objects := client.objects.set target { payload := payload, held := object.held + 1 }
      granted := client.granted ++ [{
        size := size
        capacity := (payload.data.bind (pool.memory[·]?)).map Data.size
        countBefore := client.pool.counts.reserveCount
        countAfter := pool.counts.reserveCount }] }
  else
    { client with
      pool := pool
      objects := client.objects.set target { object with payload := payload } }

/-- After a release of the payload of an object. -/
def giveBack (client : CopyClient) (index : Nat) (object : PayloadObject)
    (returned : Returned CopyPayloadPool) : CopyClient :=
  { client with
    pool := returned.2.2
    objects := client.objects.set index {
      payload := returned.2.1
      held := object.held - 1 } }

def perform (client : CopyClient) (object : PayloadObject) (next : CopyStep) :
    Except PoolFault CopyClient :=
  match next.copyCall with
  | .reserve target size => .ok (client.obtain target size object
      (client.pool.getPayload library next.allocated size object.payload))
  | .copy target source => client.obtain target source.payload.maxSize object <$>
      client.pool.getPayloadFrom library next.allocated source object.payload
  | .release index => client.giveBack index object <$>
      client.pool.releasePayload library object.payload

end CopyClient

/-- The pool starts empty, with any number of empty payload objects. A call that
goes wrong ends the run. -/
def copySystem (library : ReallocatingLibrary) :
    System (Except PoolFault CopyClient) CopyStep where
  Initial state := ∃ number, state = .ok { objects := List.replicate number {} }
  step state next :=
    match state with
    | .error _ => none
    | .ok client =>
        match client.objects[next.copyCall.object]? with
        | none => none
        | some object =>
            if client.allows object next then some (client.perform library object next)
            else none

/-- No call has gone wrong, every get that returned true has reserved and counted
a block of its size, and the pool is clean when all payloads are released. -/
def Conserves : Except PoolFault CopyClient → Prop
  | .error _ => False
  | .ok client => (∀ granted ∈ client.granted, granted.Reserved) ∧
      (client.held = 0 → client.pool.counts.isClean = true)

/-- A get asks for at least one byte, and `reserve_count_` wraps around only when
no payload is held. -/
def Reserving : Except PoolFault CopyClient → CopyStep → Prop
  | .error _, _ => True
  | .ok client, next => ∀ size, next.copyCall.requestedSize = some size →
      0 < size ∧ (client.pool.counts.reserveCount + 1 < uint64Range ∨ client.held = 0)

/-! ### What a call does -/

/-- The data of a payload is a block that is as large as the payload says. -/
def Backed (memory : Memory) (payload : SerializedPayload) : Prop :=
  match payload.data with
  | none => payload.maxSize = 0
  | some address => ∃ data, memory[address]? = some data ∧ payload.maxSize ≤ data.size

/-- A get has given the payload a block of the size, and has left the blocks of
other payloads alone. -/
structure Obtains (before : CopyPayloadPool) (payload : SerializedPayload) (size : Nat)
    (returned : Returned CopyPayloadPool) : Prop where
  succeeds : returned.1 = true
  buffer : ∃ address data, returned.2.1.data = some address ∧
    returned.2.2.memory[address]? = some data ∧ size ≤ data.size ∧
      (payload.data = some address ∨ before.memory[address]? = none)
  maxSize : returned.2.1.maxSize = size
  frame : ∀ other data, payload.data ≠ some other → before.memory[other]? = some data →
    returned.2.2.memory[other]? = some data
  counts : returned.2.2.counts = before.counts.addReservedPayload

namespace CopyPayloadPool

variable (library : ReallocatingLibrary) {pool after : CopyPayloadPool} {allocated size : Nat}
  {payload : SerializedPayload} {returned : Returned CopyPayloadPool}

theorem getPayload_obtains (backed : Backed pool.memory payload)
    (fresh : pool.memory[allocated]? = none ∨ payload.data = some allocated)
    (positive : 0 < size) :
    Obtains pool payload size (pool.getPayload library allocated size payload) := by
  have nonzero : size ≠ 0 := by omega
  by_cases enough : size ≤ payload.maxSize
  · -- Only a payload with data is large enough.
    unfold Backed at backed
    split at backed
    · omega
    · next address refers =>
        obtain ⟨data, found, fits⟩ := backed
        have same := library.reserve_of_enough pool.memory allocated size payload enough
        simp only [getPayload, AllocatingPool.reserve, if_neg nonzero, same]
        exact ⟨rfl, ⟨address, data, refers, found, enough.trans fits, .inl refers⟩, rfl,
          fun _ _ _ there => there, rfl⟩
  · have smaller : payload.maxSize < size := by omega
    unfold Backed at backed
    split at backed
    · next null =>
        have unused : pool.memory[allocated]? = none := by
          apply fresh.resolve_right
          rw [null]
          intro absurd
          cases absurd
        have allocates := library.reserve_of_null pool.memory allocated size payload null smaller
        simp only [getPayload, AllocatingPool.reserve, if_neg nonzero, allocates]
        refine ⟨rfl, ⟨allocated, _, rfl, TreeMap.getElem?_insert_self, le_rfl, .inr unused⟩, rfl,
          ?_, rfl⟩
        intro other data _ there
        rw [OrderedMap.getElem?_insert_eq_ite, if_neg]
        · exact there
        · rintro rfl
          rw [unused] at there
          cases there
    · next address refers =>
        obtain ⟨data, found, -⟩ := backed
        have member : address ∈ pool.memory := OrderedMap.mem_iff_exists_getElem?.mpr ⟨data, found⟩
        have moves :=
          library.reserve_of_data pool.memory allocated size payload address refers member smaller
        simp only [getPayload, AllocatingPool.reserve, if_neg nonzero, moves]
        refine ⟨rfl, ⟨allocated, _, rfl, TreeMap.getElem?_insert_self, le_rfl, fresh.symm⟩, rfl,
          ?_, rfl⟩
        intro other data different there
        have elsewhere : other ≠ address := by
          rintro rfl
          exact different refers
        rw [OrderedMap.getElem?_insert_eq_ite, if_neg, OrderedMap.getElem?_erase_eq_ite,
          if_neg elsewhere]
        · exact there
        · rintro rfl
          rcases fresh with unused | own
          · rw [unused] at there
            cases there
          · exact different own

/-- What is copied to a payload fits into its block. -/
theorem memcpy_obtains {target : SerializedPayload} (bytes : Bytes) {length : Nat}
    (obtains : Obtains pool payload size (true, target, after)) (fits : length ≤ size) :
    ∃ copied, after.memcpy target bytes length = .ok copied ∧
      Obtains pool payload size
        (true, { target with length := length, maxSize := size }, copied) := by
  obtain ⟨address, data, refers, found, large, place⟩ := obtains.buffer
  change target.data = some address at refers
  change after.memory[address]? = some data at found
  by_cases nothing : length = 0
  · refine ⟨after, by rw [memcpy, if_pos nothing], rfl, ⟨address, data, refers, found, large,
      place⟩, rfl, obtains.frame, obtains.counts⟩
  · have room : length ≤ data.size := fits.trans large
    have copies : after.memcpy target bytes length = .ok { after with
        memory := after.memory.insert address { data with
          bytes := bytes.take length ++ data.bytes.drop length } } := by
      simp only [memcpy, if_neg nothing, refers, found, if_pos room]
    refine ⟨_, copies, rfl, ⟨address, _, refers, TreeMap.getElem?_insert_self, large, place⟩, rfl,
      ?_, obtains.counts⟩
    intro other content different there
    have elsewhere : other ≠ address := by
      rintro rfl
      rcases place with own | unused
      · exact different own
      · rw [unused] at there
        cases there
    show (after.memory.insert address _)[other]? = some content
    rw [OrderedMap.getElem?_insert_eq_ite, if_neg elsewhere]
    exact obtains.frame other content different there

theorem getPayloadFrom_obtains {source : Source} (backed : Backed pool.memory payload)
    (fresh : pool.memory[allocated]? = none ∨ payload.data = some allocated)
    (positive : 0 < source.payload.maxSize)
    (fits : source.payload.length ≤ source.payload.maxSize) :
    ∃ returned, pool.getPayloadFrom library allocated source payload = .ok returned ∧
      Obtains pool payload source.payload.maxSize returned := by
  have obtains := getPayload_obtains library backed fresh positive
  rcases got : pool.getPayload library allocated source.payload.maxSize payload with
    ⟨obtained, target, after⟩
  rw [got] at obtains
  cases obtains.succeeds
  obtain ⟨copied, copies, kept⟩ := memcpy_obtains source.bytes obtains fits
  refine ⟨_, ?_, kept⟩
  simp [getPayloadFrom, got, copies, bind, Except.bind, pure, Except.pure]

theorem releasePayload_of_backed {counts : PayloadPool} (backed : Backed pool.memory payload)
    (counted : pool.counts.addReleasePayload = .ok counts) :
    ∃ after : CopyPayloadPool,
      pool.releasePayload library payload =
        .ok (true, { payload with data := none, length := 0, maxSize := 0 }, after) ∧
      after.counts = counts ∧
      ∀ other data, payload.data ≠ some other → pool.memory[other]? = some data →
        after.memory[other]? = some data := by
  cases refers : payload.data with
  | none =>
      refine ⟨{ counts := counts, memory := pool.memory }, ?_, rfl, fun _ _ _ there => there⟩
      have empties := library.empty_of_null pool.memory payload refers
      simp [releasePayload, AllocatingPool.release, empties, counted, bind, Except.bind, pure,
        Except.pure]
  | some address =>
      rw [Backed, refers] at backed
      obtain ⟨data, found, -⟩ := backed
      have member : address ∈ pool.memory := OrderedMap.mem_iff_exists_getElem?.mpr ⟨data, found⟩
      refine ⟨{ counts := counts, memory := pool.memory.erase address }, ?_, rfl, ?_⟩
      · have empties := library.empty_of_data pool.memory payload address refers member
        simp [releasePayload, AllocatingPool.release, empties, counted, bind, Except.bind, pure,
          Except.pure]
      · intro other content different there
        rw [OrderedMap.getElem?_erase_eq_ite, if_neg]
        · exact there
        · rintro rfl
          exact different rfl

end CopyPayloadPool

/-! ### What the runs keep -/

/-- The counts balance with the payloads that are held. The second case is that
only `reserve_count_` has wrapped around. -/
def Balances (counts : PayloadPool) (held : Nat) : Prop :=
  counts.reserveCount < uint64Range ∧
    (counts.reserveCount = counts.releaseCount + held ∨
      counts.releaseCount + 1 = uint64Range ∧ held = counts.reserveCount + 1)

namespace Balances

variable {counts : PayloadPool} {held : Nat}

theorem addReservedPayload (balances : Balances counts held)
    (room : counts.reserveCount + 1 < uint64Range ∨ held = 0) :
    Balances counts.addReservedPayload (held + 1) := by
  have small := balances.1
  by_cases last : counts.reserveCount + 1 = uint64Range
  · have wrapped : (counts.reserveCount + 1) % uint64Range = 0 := by
      rw [last, Nat.mod_self]
    simp only [Balances, PayloadPool.addReservedPayload, wrapped]
    have both := balances.2
    omega
  · have grown : (counts.reserveCount + 1) % uint64Range = counts.reserveCount + 1 :=
      Nat.mod_eq_of_lt (by omega)
    simp only [Balances, PayloadPool.addReservedPayload, grown]
    have both := balances.2
    omega

theorem addReleasePayload (balances : Balances counts held) (some : 0 < held) :
    ∃ after, counts.addReleasePayload = .ok after ∧ Balances after (held - 1) := by
  have small := balances.1
  rcases balances.2 with together | ⟨last, ahead⟩
  · refine ⟨_, PayloadPool.addReleasePayload_ok (by omega) small, small, .inl ?_⟩
    dsimp only
    omega
  · have wrapped : (counts.releaseCount + 1) % uint64Range = 0 := by
      rw [last, Nat.mod_self]
    refine ⟨{ counts with releaseCount := 0 }, ?_, small, .inl ?_⟩
    · simp [PayloadPool.addReleasePayload, wrapped]
    · dsimp only
      omega

theorem isClean (balances : Balances counts 0) : counts.isClean = true := by
  unfold PayloadPool.isClean
  rw [beq_iff_eq]
  have both := balances.2
  omega

end Balances

namespace CopyClient

variable (library : ReallocatingLibrary) {client : CopyClient} {object next : PayloadObject}
  {index target size : Nat} {returned : Returned CopyPayloadPool}

/-- No two payload objects have the same block. -/
def Apart (objects : List PayloadObject) : Prop :=
  ∀ (one other : Nat) (object another : PayloadObject) (address : Address),
    objects[one]? = some object → objects[other]? = some another →
    object.payload.data = some address → another.payload.data = some address → one = other

/-- What the runs keep. -/
structure Kept (client : CopyClient) : Prop where
  backed : ∀ object ∈ client.objects, Backed client.pool.memory object.payload
  apart : Apart client.objects
  balances : Balances client.pool.counts client.held
  reserved : ∀ granted ∈ client.granted, granted.Reserved

theorem held_set (objects : List PayloadObject) (found : objects[index]? = some object)
    (next : PayloadObject) :
    ((objects.set index next).map PayloadObject.held).sum + object.held =
      (objects.map PayloadObject.held).sum + next.held := by
  induction objects generalizing index with
  | nil => cases found
  | cons head tail inductionHypothesis =>
      cases index with
      | zero =>
          cases found
          simp only [List.set_cons_zero, List.map_cons, List.sum_cons]
          omega
      | succ rest =>
          have shifted := @inductionHypothesis rest found
          simp only [List.set_cons_succ, List.map_cons, List.sum_cons]
          omega

/-- Another object keeps its block when one object changes its own. -/
theorem backed_set {memory after : Memory} {objects : List PayloadObject}
    (backed : ∀ object ∈ objects, Backed memory object.payload) (apart : Apart objects)
    (found : objects[index]? = some object)
    (frame : ∀ other data, object.payload.data ≠ some other → memory[other]? = some data →
      after[other]? = some data)
    (own : Backed after next.payload) :
    ∀ other ∈ objects.set index next, Backed after other.payload := by
  intro other member
  obtain ⟨position, there⟩ := List.mem_iff_getElem?.mp member
  rw [List.getElem?_set] at there
  split at there
  · split at there
    · cases there
      exact own
    · cases there
  · next elsewhere =>
      have before := backed other (List.mem_of_getElem? there)
      unfold Backed at before ⊢
      split
      · next null =>
          rw [null] at before
          exact before
      · next address refers =>
          rw [refers] at before
          obtain ⟨data, stored, fits⟩ := before
          refine ⟨data, frame address data ?_ stored, fits⟩
          intro same
          exact elsewhere (apart index position object other address found there same refers)

theorem apart_set {objects : List PayloadObject} (apart : Apart objects)
    (unused : ∀ address, next.payload.data = some address → ∀ position other, position ≠ index →
      objects[position]? = some other → other.payload.data ≠ some address) :
    Apart (objects.set index next) := by
  intro one other object another address here there refers same
  rw [List.getElem?_set] at here there
  split at here
  · next first =>
      split at there
      · next second => exact first.symm.trans second
      · next second =>
          split at here
          · cases here
            exact absurd same
              (unused address refers other another (fun equal => second equal.symm) there)
          · cases here
  · next first =>
      split at there
      · split at there
        · cases there
          exact absurd refers
            (unused address same one object (fun equal => first equal.symm) here)
        · cases there
      · exact apart one other object another address here there refers same

theorem Kept.obtain (kept : client.Kept) (found : client.objects[target]? = some object)
    (obtains : Obtains client.pool object.payload size returned)
    (room : client.pool.counts.reserveCount + 1 < uint64Range ∨ client.held = 0) :
    (client.obtain target size object returned).Kept := by
  obtain ⟨obtained, payload, after⟩ := returned
  cases obtains.succeeds
  obtain ⟨address, data, refers, stored, fits, place⟩ := obtains.buffer
  change payload.data = some address at refers
  change after.memory[address]? = some data at stored
  have requested : payload.maxSize = size := obtains.maxSize
  have counts : after.counts = client.pool.counts.addReservedPayload := obtains.counts
  simp only [CopyClient.obtain, if_true]
  refine ⟨backed_set kept.backed kept.apart found obtains.frame ?_, apart_set kept.apart ?_, ?_, ?_⟩
  · show Backed after.memory payload
    rw [Backed, refers]
    exact ⟨data, stored, requested.trans_le fits⟩
  · intro other same position another elsewhere there uses
    change payload.data = some other at same
    cases refers.symm.trans same
    rcases place with own | unused
    · exact elsewhere (kept.apart position target another object address there found uses own)
    · have backed := kept.backed another (List.mem_of_getElem? there)
      rw [Backed, uses] at backed
      obtain ⟨content, present, -⟩ := backed
      rw [unused] at present
      cases present
  · have total := held_set client.objects found { payload := payload, held := object.held + 1 }
    have more : ((client.objects.set target
        { payload := payload, held := object.held + 1 }).map PayloadObject.held).sum =
        client.held + 1 := by
      unfold held
      dsimp only at total
      omega
    show Balances after.counts _
    rw [counts]
    unfold held
    rw [more]
    exact kept.balances.addReservedPayload room
  · intro granted member
    rcases List.mem_append.mp member with before | new
    · exact kept.reserved granted before
    · rw [List.mem_singleton] at new
      subst new
      refine ⟨⟨data.size, ?_, fits⟩, ?_⟩
      · simp [refers, stored]
      · dsimp only
        rw [counts]
        rfl

theorem Kept.giveBack (kept : client.Kept) (found : client.objects[index]? = some object)
    (positive : 0 < object.held) :
    ∃ returned, client.pool.releasePayload library object.payload = .ok returned ∧
      (client.giveBack index object returned).Kept := by
  have total := held_set client.objects found {
    payload := { object.payload with data := none, length := 0, maxSize := 0 }
    held := object.held - 1 }
  dsimp only at total
  obtain ⟨counts, released, balances⟩ :=
    kept.balances.addReleasePayload (by unfold held; omega)
  have backed := kept.backed object (List.mem_of_getElem? found)
  obtain ⟨after, done, counted, frame⟩ :=
    CopyPayloadPool.releasePayload_of_backed library backed released
  refine ⟨_, done, backed_set kept.backed kept.apart found frame rfl, apart_set kept.apart ?_, ?_,
    kept.reserved⟩
  · intro address null
    cases null
  · have fewer : (client.giveBack index object (true,
        { object.payload with data := none, length := 0, maxSize := 0 }, after)).held =
        client.held - 1 := by
      unfold held CopyClient.giveBack
      dsimp only
      omega
    show Balances after.counts _
    rw [fewer, counted]
    exact balances

theorem kept_initial (number : Nat) :
    Kept { objects := List.replicate number {} } := by
  refine ⟨?_, ?_, ?_, ?_⟩
  · intro object member
    rw [List.eq_of_mem_replicate member]
    rfl
  · intro one other object another address here _ refers
    rw [List.eq_of_mem_replicate (List.mem_of_getElem? here)] at refers
    cases refers
  · refine ⟨Nat.two_pow_pos 64, .inl ?_⟩
    simp [held]
  · intro granted member
    cases member

theorem Kept.perform {step : CopyStep} (kept : client.Kept)
    (found : client.objects[step.copyCall.object]? = some object)
    (allowed : client.allows object step = true) (reserving : Reserving (.ok client) step) :
    ∃ after, client.perform library object step = .ok after ∧ after.Kept := by
  obtain ⟨copyCall, allocated⟩ := step
  have backed := kept.backed object (List.mem_of_getElem? found)
  have place : (!client.pool.memory.contains allocated ||
      object.payload.data == some allocated) = true →
      client.pool.memory[allocated]? = none ∨ object.payload.data = some allocated := by
    intro fresh
    rw [Bool.or_eq_true, beq_iff_eq, Bool.not_eq_true'] at fresh
    exact fresh.imp_left TreeMap.getElem?_eq_none_of_contains_eq_false
  cases copyCall with
  | reserve target size =>
      obtain ⟨positive, room⟩ := reserving size rfl
      exact ⟨_, rfl,
        kept.obtain found
          (CopyPayloadPool.getPayload_obtains library backed (place allowed) positive) room⟩
  | copy target source =>
      obtain ⟨positive, room⟩ := reserving _ rfl
      simp only [allows, Bool.and_eq_true, decide_eq_true_eq] at allowed
      obtain ⟨⟨fresh, -⟩, fits⟩ := allowed
      obtain ⟨returned, got, obtains⟩ := CopyPayloadPool.getPayloadFrom_obtains
        library backed (place fresh) positive fits
      exact ⟨client.obtain target source.payload.maxSize object returned,
        by simp only [CopyClient.perform, got]; rfl, kept.obtain found obtains room⟩
  | release index =>
      obtain ⟨returned, done, after⟩ :=
        kept.giveBack library found (of_decide_eq_true allowed)
      exact ⟨_, by simp only [CopyClient.perform, done]; rfl, after⟩

end CopyClient

/-- **The pool conserves its payloads** along every run whose gets ask for bytes. -/
theorem conserves_of_reachable {library : ReallocatingLibrary}
    {state : Except PoolFault CopyClient}
    (reached : (copySystem library).Reachable Reserving state) : Conserves state := by
  have kept : ∃ client, state = .ok client ∧ client.Kept := by
    apply reached.invariant
    · intro start initial
      obtain ⟨number, rfl⟩ := initial
      exact ⟨_, rfl, CopyClient.kept_initial number⟩
    · intro before step after keeps reserving taken
      obtain ⟨client, rfl, kept⟩ := keeps
      simp only [copySystem] at taken
      split at taken
      · cases taken
      · next object found =>
          split at taken
          · next allowed =>
              cases taken
              exact kept.perform library found allowed reserving
          · cases taken
  obtain ⟨client, rfl, kept⟩ := kept
  refine ⟨kept.reserved, fun nothing => ?_⟩
  have balances := kept.balances
  rw [nothing] at balances
  exact balances.isClean

/-! ### Runs -/

theorem serializedPayloadLibrary_reserve_of_enough (memory : Memory) (allocated newSize : Nat)
    (payload : SerializedPayload) (enough : newSize ≤ payload.maxSize) :
    serializedPayloadLibrary.reserve memory allocated newSize payload = (payload, memory) :=
  if_pos enough

theorem serializedPayloadLibrary_reserve_of_data (memory : Memory) (allocated newSize : Nat)
    (payload : SerializedPayload) (data : Nat) (refers : payload.data = some data)
    (_present : data ∈ memory) (smaller : payload.maxSize < newSize) :
    serializedPayloadLibrary.reserve memory allocated newSize payload =
      ({ payload with data := some allocated, maxSize := newSize },
        (memory.erase data).insert allocated {
          size := newSize
          bytes := (memory[data]?.map Data.bytes).getD [] }) := by
  show (if _ then _ else _) = _
  rw [if_neg (by omega)]
  simp only [refers]

theorem serializedPayloadLibrary_empty_of_null (memory : Memory) (payload : SerializedPayload)
    (null : payload.data = none) :
    serializedPayloadLibrary.empty memory payload =
      ({ payload with data := none, length := 0, maxSize := 0 }, memory) := by
  simp only [serializedPayloadLibrary, null]

/-- The library that `serializedPayloadLibrary` is. -/
def reallocatingLibrary : ReallocatingLibrary where
  toSerializedPayloadLibrary := serializedPayloadLibrary
  reserve_of_enough := serializedPayloadLibrary_reserve_of_enough
  reserve_of_data := serializedPayloadLibrary_reserve_of_data
  empty_of_null := serializedPayloadLibrary_empty_of_null

/-- A test of `Reserving`. -/
def reserving (state : Except PoolFault CopyClient) (next : CopyStep) : Bool :=
  match state, next.copyCall.requestedSize with
  | .ok client, some size =>
      decide (0 < size) && decide (client.pool.counts.reserveCount + 1 < uint64Range)
  | _, _ => true

theorem reserving_sound {state : Except PoolFault CopyClient} {next : CopyStep}
    (passed : reserving state next = true) : Reserving state next := by
  cases state with
  | error fault => trivial
  | ok client =>
      intro size requested
      simp only [reserving, requested, Bool.and_eq_true, decide_eq_true_eq] at passed
      exact ⟨passed.1, .inl passed.2⟩

/-- A payload is reserved, another is copied to two payload objects, one of which
gets a larger block, and three payloads are released. -/
theorem conserves_of_reachable_copies :
    ∃ state : Except PoolFault CopyClient,
      state.toOption.any (fun client => client.granted.length == 4 && client.held == 1) = true ∧
        Conserves state := by
  obtain ⟨state, reached, test⟩ := System.exists_reachable_of_runAdmitted
    (copySystem reallocatingLibrary) (.ok { objects := List.replicate 3 {} })
    [⟨.reserve 0 4, 100⟩, ⟨.copy 1 foreignSource, 200⟩, ⟨.copy 2 foreignSource, 300⟩,
      ⟨.reserve 2 16, 300⟩, ⟨.release 1, 0⟩, ⟨.release 2, 0⟩, ⟨.release 0, 0⟩] reserving
    (fun state => state.toOption.any fun client => client.granted.length == 4 && client.held == 1)
    (fun _ _ _ passed => reserving_sound passed) ⟨3, rfl⟩ (by decide +kernel)
  exact ⟨state, test, conserves_of_reachable reached⟩

/-- A get of no bytes returns true, and the release of its payload throws. -/
theorem not_conserves_of_reachable :
    ¬ ∀ state : Except PoolFault CopyClient,
      (copySystem reallocatingLibrary).Reachable anyStep state → Conserves state := by
  intro conserves
  obtain ⟨state, reached, test⟩ := System.exists_reachable_of_run
    (copySystem reallocatingLibrary) (.ok { objects := [{}] })
    [⟨.reserve 0 0, 100⟩, ⟨.release 0, 0⟩] (fun state => state.toOption.isNone)
    (fun _ _ _ => trivial) ⟨1, rfl⟩ (by decide +kernel)
  have kept := conserves state reached
  cases state with
  | error fault => exact kept
  | ok client => cases test

end DdsPipe.Efficiency.PayloadPools
