import DdsPipe.Library.TransitionSystem
import Mathlib

/-!
Owns the reference counting that the payload pools have in common: what a caller
sees of a pool, the laws of its three operations, and the specification of what
the payload objects of a caller hold after a call.

Every pool that keeps the laws follows the specification and counts its
references right, along every run of calls (`call_refines`).

Does not own: how a pool stores its counters, and calls from several threads.
-/

namespace DdsPipe.Efficiency.PayloadPools

abbrev Address := Nat

abbrev Bytes := List UInt8

/-- `SerializedPayload_t`. `data` is absent where the source has a null pointer. -/
structure SerializedPayload where
  data : Option Address := none
  length : Nat := 0
  maxSize : Nat := 0
  pos : Nat := 0
deriving DecidableEq, Repr

/-- How a call of a pool goes wrong: by an exception, or by an access to memory
that is not allocated. -/
inductive PoolFault where
  | inconsistencyException (message : String)
  | invalidAccess (address : Option Address)
deriving DecidableEq, Repr

/-- A source payload, with whether its owner is this pool. `bytes` is what the
memory of another owner holds at its pointer. -/
structure Source where
  payload : SerializedPayload
  ownedByPool : Bool
  bytes : Bytes := []
deriving DecidableEq, Repr

/-- The number of values of `uint32_t`, which `unsigned int` has as well. -/
def uint32Range : Nat := 2 ^ 32

/-- The number of values of `uint64_t`. -/
def uint64Range : Nat := 2 ^ 64

/-! ### The counts of every pool -/

structure PayloadPool where
  reserveCount : Nat := 0
  releaseCount : Nat := 0
deriving DecidableEq, Repr

namespace PayloadPool

def addReservedPayload (counts : PayloadPool) : PayloadPool :=
  { counts with reserveCount := (counts.reserveCount + 1) % uint64Range }

def addReleasePayload (counts : PayloadPool) : Except PoolFault PayloadPool :=
  let counts := { counts with releaseCount := (counts.releaseCount + 1) % uint64Range }
  if counts.releaseCount > counts.reserveCount then
    .error (.inconsistencyException
      "Inconsistent PayloadPool, releasing more payloads than reserved.")
  else .ok counts

def isClean (counts : PayloadPool) : Bool :=
  counts.reserveCount == counts.releaseCount

theorem addReleasePayload_ok {counts : PayloadPool}
    (fewer : counts.releaseCount < counts.reserveCount)
    (reserved : counts.reserveCount < uint64Range) :
    counts.addReleasePayload = .ok { counts with releaseCount := counts.releaseCount + 1 } := by
  have small : (counts.releaseCount + 1) % uint64Range = counts.releaseCount + 1 :=
    Nat.mod_eq_of_lt (by omega)
  unfold addReleasePayload
  dsimp only
  rw [small, if_neg (by omega)]

end PayloadPool

/-! ### What a caller sees of a pool -/

/-- A block that is not freed: its reference counter, and the bytes written to it. -/
structure Block where
  counter : Nat
  bytes : Bytes
deriving DecidableEq, Repr

/-- What a call returns, and leaves in its payload and in the pool. -/
abbrev Returned (Pool : Type) := Bool × SerializedPayload × Pool

/-- The operations of a pool and what can be observed of it: the block at a data
pointer, the number of blocks, and whether `malloc` may return an address. An
operation that allocates gets the address that is returned to it. -/
structure PoolInterface (Pool : Type) where
  initial : Pool
  getPayload : Pool → Address → Nat → SerializedPayload → Except PoolFault (Returned Pool)
  getPayloadFrom : Pool → Address → Source → SerializedPayload → Except PoolFault (Returned Pool)
  releasePayload : Pool → SerializedPayload → Except PoolFault (Returned Pool)
  counts : Pool → PayloadPool
  block : Pool → Address → Option Block
  liveBlocks : Pool → Nat
  fresh : Pool → Address → Bool

namespace PoolInterface

variable {Pool : Type}

/-- A block with one reference is added, and counted. -/
structure Reserves (interface : PoolInterface Pool) (Valid : Pool → Prop) (pool : Pool)
    (data : Address) (bytes : Bytes) (after : Pool) : Prop where
  valid : Valid after
  unused : interface.block pool data = none
  block : ∀ other, interface.block after other =
    if other = data then some { counter := 1, bytes := bytes } else interface.block pool other
  counts : interface.counts after = (interface.counts pool).addReservedPayload
  liveBlocks : interface.liveBlocks after = interface.liveBlocks pool + 1

/-- The counter of a block is set. -/
structure Recounts (interface : PoolInterface Pool) (Valid : Pool → Prop) (pool : Pool)
    (data : Address) (stored : Block) (after : Pool) : Prop where
  valid : Valid after
  block : ∀ other, interface.block after other =
    if other = data then some stored else interface.block pool other
  counts : interface.counts after = interface.counts pool
  liveBlocks : interface.liveBlocks after = interface.liveBlocks pool

/-- A block is freed, and counted. -/
structure Frees (interface : PoolInterface Pool) (Valid : Pool → Prop) (pool : Pool)
    (data : Address) (counts : PayloadPool) (after : Pool) : Prop where
  valid : Valid after
  block : ∀ other, interface.block after other =
    if other = data then none else interface.block pool other
  counts : interface.counts after = counts
  liveBlocks : interface.liveBlocks after + 1 = interface.liveBlocks pool

/-- The laws of reference counting, on the pools that are `Valid`. -/
structure Lawful (interface : PoolInterface Pool) (Valid : Pool → Prop) : Prop where
  valid_initial : Valid interface.initial
  block_initial : ∀ address, interface.block interface.initial address = none
  counts_initial : interface.counts interface.initial = {}
  liveBlocks_eq_zero_iff : ∀ pool, Valid pool →
    (interface.liveBlocks pool = 0 ↔ ∀ address, interface.block pool address = none)
  getPayload_zero : ∀ pool allocated payload,
    interface.getPayload pool allocated 0 payload = .ok (false, payload, pool)
  getPayload : ∀ pool allocated size, Valid pool → interface.fresh pool allocated = true →
    0 < size → ∃ data after,
      interface.getPayload pool allocated size {} =
        .ok (true, { data := some data, maxSize := size }, after) ∧
      interface.Reserves Valid pool data [] after
  copy_zero : ∀ pool allocated (source : Source) payload, source.ownedByPool = false →
    source.payload.maxSize = 0 →
      interface.getPayloadFrom pool allocated source payload = .ok (false, payload, pool)
  copy : ∀ pool allocated (source : Source), Valid pool →
    interface.fresh pool allocated = true → source.ownedByPool = false →
    0 < source.payload.maxSize → source.payload.length ≤ source.payload.maxSize →
    ∃ data after,
      interface.getPayloadFrom pool allocated source {} =
        .ok (true, {
          data := some data
          length := source.payload.length
          maxSize := source.payload.maxSize }, after) ∧
      interface.Reserves Valid pool data (source.bytes.take source.payload.length) after
  reference : ∀ pool allocated (source : Source) data stored, Valid pool →
    source.ownedByPool = true → source.payload.data = some data →
    interface.block pool data = some stored → ∃ after,
      interface.getPayloadFrom pool allocated source {} =
        .ok (true, {
          data := some data
          length := source.payload.length
          maxSize := source.payload.maxSize }, after) ∧
      interface.Recounts Valid pool data
        { stored with counter := (stored.counter + 1) % uint32Range } after
  release_shared : ∀ pool (payload : SerializedPayload) data stored, Valid pool →
    payload.data = some data → interface.block pool data = some stored →
    1 < stored.counter → stored.counter < uint32Range → ∃ after,
      interface.releasePayload pool payload = .ok (true, {}, after) ∧
      interface.Recounts Valid pool data { stored with counter := stored.counter - 1 } after
  release_last : ∀ pool (payload : SerializedPayload) data stored counts, Valid pool →
    payload.data = some data → interface.block pool data = some stored →
    stored.counter = 1 → (interface.counts pool).addReleasePayload = .ok counts → ∃ after,
      interface.releasePayload pool payload = .ok (true, {}, after) ∧
      interface.Frees Valid pool data counts after

end PoolInterface

/-! ### Callers -/

/-- A pool with the payload objects of its caller. -/
structure Client (Pool : Type) where
  pool : Pool
  payloads : List SerializedPayload

/-- A call on the payload objects at the given positions. -/
inductive PoolCall where
  /-- `get_payload(size, target)`. -/
  | reserve (target size : Nat)
  /-- `get_payload(source, owner, target)` of a source that is not of this pool. -/
  | copy (target : Nat) (source : Source)
  /-- `get_payload(source, owner, target)` of a payload of this pool. -/
  | reference (target source : Nat)
  /-- `release_payload(payload)`. -/
  | release (index : Nat)
deriving DecidableEq, Repr

/-- The size of the block that a call asks for. -/
def PoolCall.requestedSize : PoolCall → Option Nat
  | .reserve _ size => some size
  | .copy _ source => some source.payload.maxSize
  | .reference _ _ | .release _ => none

namespace Client

variable {Pool : Type}

/-- The number of payload objects that refer to a block. -/
def handlesOf (client : Client Pool) (address : Address) : Nat :=
  client.payloads.countP fun payload => payload.data == some address

/-- The calls that a caller may make: it gets payloads into empty targets, it uses
sources and releases payloads of the pool only while it holds them, other sources
hold their length within their size, and no block gets as many handles as its
counter has values. -/
def allows (client : Client Pool) : PoolCall → Bool
  | .reserve target _ => client.payloads[target]? = some {}
  | .copy target source =>
      client.payloads[target]? = some {} && !source.ownedByPool &&
        source.bytes.length == source.payload.length &&
        source.payload.length ≤ source.payload.maxSize
  | .reference target source =>
      client.payloads[target]? = some {} &&
        (client.payloads[source]?.bind SerializedPayload.data).any fun data =>
          client.handlesOf data + 1 < uint32Range
  | .release index => (client.payloads[index]?.bind SerializedPayload.data).isSome

/-- The payload object after a call. -/
def put (client : Client Pool) (index : Nat) (returned : Returned Pool) :
    Bool × Client Pool :=
  (returned.1, { pool := returned.2.2, payloads := client.payloads.set index returned.2.1 })

def call (interface : PoolInterface Pool) (client : Client Pool) (allocated : Address) :
    PoolCall → Except PoolFault (Bool × Client Pool)
  | .reserve target size => client.put target <$>
      interface.getPayload client.pool allocated size (client.payloads.getD target {})
  | .copy target source => client.put target <$>
      interface.getPayloadFrom client.pool allocated source (client.payloads.getD target {})
  | .reference target source => client.put target <$>
      interface.getPayloadFrom client.pool allocated
        { payload := client.payloads.getD source {}, ownedByPool := true }
        (client.payloads.getD target {})
  | .release index => client.put index <$>
      interface.releasePayload client.pool (client.payloads.getD index {})

end Client

/-! ### The specification -/

/-- What a payload object shows: whether it holds a reference, its length and
size, and its contents. -/
structure Observed where
  held : Bool := false
  length : Nat := 0
  maxSize : Nat := 0
  contents : Bytes := []
deriving DecidableEq, Repr

/-- What a call returns, and what the payload objects show after it. -/
def specification (payloads : List Observed) : PoolCall → Bool × List Observed
  | .reserve target size =>
      if size = 0 then (false, payloads)
      else (true, payloads.set target { held := true, maxSize := size })
  | .copy target source =>
      if source.payload.maxSize = 0 then (false, payloads)
      else (true, payloads.set target {
        held := true
        length := source.payload.length
        maxSize := source.payload.maxSize
        contents := source.bytes })
  | .reference target source => (true, payloads.set target (payloads.getD source {}))
  | .release index => (true, payloads.set index {})

namespace Client

variable {Pool : Type}

def observePayload (interface : PoolInterface Pool) (pool : Pool) (payload : SerializedPayload) :
    Observed where
  held := payload.data.isSome
  length := payload.length
  maxSize := payload.maxSize
  contents := (payload.data.bind (interface.block pool)).elim [] fun stored =>
    stored.bytes.take payload.length

def observe (interface : PoolInterface Pool) (client : Client Pool) : List Observed :=
  client.payloads.map (observePayload interface client.pool)

/-- What the runs of a caller keep. -/
structure Counted (interface : PoolInterface Pool) (Valid : Pool → Prop) (client : Client Pool) :
    Prop where
  valid : Valid client.pool
  counter : ∀ address stored, interface.block client.pool address = some stored →
    stored.counter = client.handlesOf address
  freed : ∀ address, interface.block client.pool address = none ↔ client.handlesOf address = 0
  bounded : ∀ address, client.handlesOf address < uint32Range
  counts : (interface.counts client.pool).reserveCount =
    (interface.counts client.pool).releaseCount + interface.liveBlocks client.pool
  reserved : (interface.counts client.pool).reserveCount < uint64Range

end Client

/-! ### Payload objects after a call -/

namespace Client

variable {Pool : Type} {interface : PoolInterface Pool} {Valid : Pool → Prop}
  {client : Client Pool} {after : Pool} {index target : Nat}
  {before payload : SerializedPayload} {data : Address}

theorem handlesOf_set (pool : Pool) (payload : SerializedPayload)
    (found : client.payloads[index]? = some before) (address : Address) :
    handlesOf { pool := pool, payloads := client.payloads.set index payload } address +
        (if before.data = some address then 1 else 0) =
      client.handlesOf address + if payload.data = some address then 1 else 0 := by
  obtain ⟨bound, rfl⟩ := List.getElem?_eq_some_iff.mp found
  have removed : (if client.payloads[index].data = some address then 1 else 0) ≤
      client.handlesOf address := by
    split
    · next refers =>
        exact List.countP_pos_iff.mpr ⟨_, List.getElem_mem bound, by simp [refers]⟩
    · exact Nat.zero_le _
  simp only [handlesOf] at removed ⊢
  rw [List.countP_set bound]
  simp only [beq_iff_eq]
  omega

theorem observePayload_congr
    (same : ∀ address, payload.data = some address →
      (interface.block after address).map Block.bytes =
        (interface.block client.pool address).map Block.bytes) :
    observePayload interface after payload = observePayload interface client.pool payload := by
  unfold observePayload
  cases refers : payload.data with
  | none => rfl
  | some address =>
      have contents : ∀ block : Option Block,
          (block.elim [] fun stored => stored.bytes.take payload.length) =
            (block.map Block.bytes).elim [] fun bytes => bytes.take payload.length := by
        intro block
        cases block <;> rfl
      simp only [Option.bind_some]
      rw [contents, contents, same address refers]

/-- A call that keeps the bytes of the blocks of all other payload objects changes
only what its own payload object shows. -/
theorem observe_set
    (same : ∀ other ∈ client.payloads.set index {}, ∀ address, other.data = some address →
      (interface.block after address).map Block.bytes =
        (interface.block client.pool address).map Block.bytes) (payload : SerializedPayload) :
    observe interface { pool := after, payloads := client.payloads.set index payload } =
      (observe interface client).set index (observePayload interface after payload) := by
  apply List.ext_getElem?
  intro position
  simp only [observe, List.getElem?_map, List.getElem?_set]
  by_cases own : index = position
  · subst own
    by_cases inside : index < client.payloads.length <;> simp [inside]
  · simp only [own, if_false]
    apply Option.map_congr
    intro other found
    apply observePayload_congr
    apply same
    apply List.mem_of_getElem?
    rw [List.getElem?_set_ne own]
    exact found

/-! ### What each call keeps -/

theorem Counted.pos_of_mem (counted : client.Counted interface Valid)
    (member : payload ∈ client.payloads) (refers : payload.data = some data) :
    0 < client.handlesOf data ∧ ∃ stored, interface.block client.pool data = some stored ∧
      stored.counter = client.handlesOf data := by
  have positive : 0 < client.handlesOf data :=
    List.countP_pos_iff.mpr ⟨payload, member, by simp [refers]⟩
  cases found : interface.block client.pool data with
  | none => exact absurd ((counted.freed data).mp found) positive.ne'
  | some stored => exact ⟨positive, stored, rfl, counted.counter data stored found⟩

/-- A block is added for an empty payload object. -/
theorem counted_reserves {bytes : Bytes} (payload : SerializedPayload)
    (counted : client.Counted interface Valid)
    (reserves : interface.Reserves Valid client.pool data bytes after)
    (empty : client.payloads[target]? = some {}) (refers : payload.data = some data)
    (room : (interface.counts client.pool).reserveCount + 1 < uint64Range) :
    Counted interface Valid { pool := after, payloads := client.payloads.set target payload } ∧
      observe interface { pool := after, payloads := client.payloads.set target payload } =
        (observe interface client).set target (observePayload interface after payload) := by
  have unheld : client.handlesOf data = 0 := (counted.freed data).mp reserves.unused
  have handles : ∀ address,
      handlesOf { pool := after, payloads := client.payloads.set target payload } address =
        client.handlesOf address + if address = data then 1 else 0 := by
    intro address
    have counts := handlesOf_set after payload empty address
    simp only [refers, Option.some.injEq, reduceCtorEq, if_false, Nat.add_zero] at counts
    rw [counts]
    simp only [eq_comm]
  refine ⟨⟨reserves.valid, ?_, ?_, ?_, ?_, ?_⟩, observe_set ?_ payload⟩
  · intro address stored found
    rw [reserves.block] at found
    rw [handles]
    split at found
    · next same =>
        cases found
        rw [if_pos same, same, unheld]
    · next other =>
        rw [if_neg other]
        exact counted.counter address stored found
  · intro address
    rw [reserves.block, handles]
    split
    · simp
    · exact counted.freed address
  · intro address
    rw [handles]
    split
    · next same =>
        rw [same, unheld]
        decide
    · exact counted.bounded address
  · show (interface.counts after).reserveCount = _ + interface.liveBlocks after
    have before := counted.counts
    rw [reserves.counts, reserves.liveBlocks, PayloadPool.addReservedPayload,
      Nat.mod_eq_of_lt room]
    dsimp only
    omega
  · show (interface.counts after).reserveCount < _
    rw [reserves.counts]
    exact Nat.mod_lt _ (by decide)
  · intro other member address uses
    rw [reserves.block, if_neg]
    rintro rfl
    rcases List.mem_or_eq_of_mem_set member with held | rfl
    · have positive := (counted.pos_of_mem held uses).1
      omega
    · cases uses

/-- A payload object of a block is set, and the counter of the block with it. -/
theorem counted_recounts {stored next : Block} (index : Nat) (payload : SerializedPayload)
    (counted : client.Counted interface Valid)
    (recounts : interface.Recounts Valid client.pool data next after)
    (found : interface.block client.pool data = some stored) (bytes : next.bytes = stored.bytes)
    (handles : ∀ address,
      handlesOf { pool := after, payloads := client.payloads.set index payload } address =
        if address = data then next.counter else client.handlesOf address)
    (positive : 0 < next.counter) (small : next.counter < uint32Range) :
    Counted interface Valid { pool := after, payloads := client.payloads.set index payload } ∧
      observe interface { pool := after, payloads := client.payloads.set index payload } =
        (observe interface client).set index (observePayload interface after payload) := by
  refine ⟨⟨recounts.valid, ?_, ?_, ?_, ?_, ?_⟩, observe_set ?_ payload⟩
  · intro address other there
    rw [recounts.block] at there
    rw [handles]
    split at there
    · next same =>
        cases there
        rw [if_pos same]
    · next different =>
        rw [if_neg different]
        exact counted.counter address other there
  · intro address
    rw [recounts.block, handles]
    split
    · simp only [reduceCtorEq, false_iff]
      omega
    · exact counted.freed address
  · intro address
    rw [handles]
    split
    · exact small
    · exact counted.bounded address
  · show (interface.counts after).reserveCount = _ + interface.liveBlocks after
    rw [recounts.counts, recounts.liveBlocks]
    exact counted.counts
  · show (interface.counts after).reserveCount < _
    rw [recounts.counts]
    exact counted.reserved
  · intro other _ address _
    rw [recounts.block]
    split
    · next same => rw [same, found, Option.map_some, Option.map_some, bytes]
    · rfl

/-- The last payload object of a block is emptied, and the block freed. -/
theorem counted_frees {counts : PayloadPool} (counted : client.Counted interface Valid)
    (frees : interface.Frees Valid client.pool data counts after)
    (found : client.payloads[index]? = some before) (refers : before.data = some data)
    (last : client.handlesOf data = 1)
    (released : counts = { interface.counts client.pool with
      releaseCount := (interface.counts client.pool).releaseCount + 1 }) :
    Counted interface Valid { pool := after, payloads := client.payloads.set index {} } ∧
      observe interface { pool := after, payloads := client.payloads.set index {} } =
        (observe interface client).set index {} := by
  have handles : ∀ address,
      handlesOf { pool := after, payloads := client.payloads.set index {} } address =
        if address = data then 0 else client.handlesOf address := by
    intro address
    have total := handlesOf_set after {} found address
    simp only [refers, Option.some.injEq, reduceCtorEq, if_false, Nat.add_zero] at total
    split
    · next same =>
        rw [same, if_pos rfl, last] at total
        rw [same]
        omega
    · next other =>
        rw [if_neg (Ne.symm other)] at total
        exact total
  refine ⟨⟨frees.valid, ?_, ?_, ?_, ?_, ?_⟩, observe_set ?_ {}⟩
  · intro address other there
    rw [frees.block] at there
    rw [handles]
    split at there
    · cases there
    · next different =>
        rw [if_neg different]
        exact counted.counter address other there
  · intro address
    rw [frees.block, handles]
    split
    · simp
    · exact counted.freed address
  · intro address
    rw [handles]
    split
    · decide
    · exact counted.bounded address
  · show (interface.counts after).reserveCount = _ + interface.liveBlocks after
    have live := frees.liveBlocks
    have before := counted.counts
    rw [frees.counts, released]
    dsimp only
    omega
  · show (interface.counts after).reserveCount < _
    rw [frees.counts, released]
    exact counted.reserved
  · intro other member address uses
    rw [frees.block, if_neg]
    rintro rfl
    have none : handlesOf { pool := after, payloads := client.payloads.set index {} } address =
        0 := by
      rw [handles, if_pos rfl]
    have unused := List.countP_eq_zero.mp none other member
    simp [uses] at unused

end Client

/-! ### Pools that keep the laws -/

namespace Client

variable {Pool : Type} {interface : PoolInterface Pool} {Valid : Pool → Prop}
  {client : Client Pool} {allocated : Address}

theorem set_of_getElem? {payloads : List SerializedPayload} {index : Nat}
    {payload : SerializedPayload} (found : payloads[index]? = some payload) :
    payloads.set index payload = payloads := by
  obtain ⟨bound, rfl⟩ := List.getElem?_eq_some_iff.mp found
  exact List.set_getElem_self bound

theorem getD_eq_of_getElem? {payloads : List SerializedPayload} {index : Nat}
    {payload : SerializedPayload} (found : payloads[index]? = some payload) :
    payloads.getD index {} = payload := by
  rw [List.getD_eq_getElem?_getD, found]
  rfl

/-- What a call does: it returns what the specification says, leaves what it says
in the payload objects, and keeps the counting right. -/
def Refines (interface : PoolInterface Pool) (Valid : Pool → Prop) (client : Client Pool)
    (allocated : Address) (poolCall : PoolCall) : Prop :=
  ∃ result next, client.call interface allocated poolCall = .ok (result, next) ∧
    next.Counted interface Valid ∧
      (result, observe interface next) = specification (observe interface client) poolCall

theorem refines_reserve (lawful : interface.Lawful Valid) (counted : client.Counted interface Valid)
    (fresh : interface.fresh client.pool allocated = true) {target size : Nat}
    (empty : client.payloads[target]? = some {})
    (room : (interface.counts client.pool).reserveCount + 1 < uint64Range) :
    client.Refines interface Valid allocated (.reserve target size) := by
  have targetEmpty := getD_eq_of_getElem? empty
  cases size with
  | zero =>
      refine ⟨false, client, ?_, counted, rfl⟩
      simp only [call, lawful.getPayload_zero, Functor.map, Except.map, put, targetEmpty]
      rw [set_of_getElem? empty]
  | succ size =>
      obtain ⟨data, after, done, reserves⟩ := lawful.getPayload client.pool allocated (size + 1)
        counted.valid fresh (Nat.succ_pos size)
      obtain ⟨kept, shown⟩ := counted_reserves { data := some data, maxSize := size + 1 } counted
        reserves empty rfl room
      refine ⟨true, _, ?_, kept, ?_⟩
      · simp only [call, targetEmpty, done, Functor.map, Except.map, put]
      · rw [shown]
        simp [specification, observePayload, reserves.block]

theorem refines_copy (lawful : interface.Lawful Valid) (counted : client.Counted interface Valid)
    (fresh : interface.fresh client.pool allocated = true) {target : Nat} {source : Source}
    (empty : client.payloads[target]? = some {}) (foreign : source.ownedByPool = false)
    (filled : source.bytes.length = source.payload.length)
    (fits : source.payload.length ≤ source.payload.maxSize)
    (room : (interface.counts client.pool).reserveCount + 1 < uint64Range) :
    client.Refines interface Valid allocated (.copy target source) := by
  have targetEmpty := getD_eq_of_getElem? empty
  rcases Nat.eq_zero_or_pos source.payload.maxSize with none | some
  · refine ⟨false, client, ?_, counted, ?_⟩
    · simp only [call, lawful.copy_zero _ _ _ _ foreign none, Functor.map, Except.map, put,
        targetEmpty]
      rw [set_of_getElem? empty]
    · rw [specification, if_pos none]
  · obtain ⟨data, after, done, reserves⟩ := lawful.copy client.pool allocated source
      counted.valid fresh foreign some fits
    obtain ⟨kept, shown⟩ := counted_reserves {
        data := .some data
        length := source.payload.length
        maxSize := source.payload.maxSize } counted reserves empty rfl room
    refine ⟨true, _, ?_, kept, ?_⟩
    · simp only [call, targetEmpty, done, Functor.map, Except.map, put]
    · rw [shown, specification, if_neg (Nat.pos_iff_ne_zero.mp some)]
      simp [observePayload, reserves.block, ← filled]

theorem refines_reference (lawful : interface.Lawful Valid)
    (counted : client.Counted interface Valid) {target source : Nat} {data : Address}
    {held : SerializedPayload} (empty : client.payloads[target]? = some {})
    (found : client.payloads[source]? = some held) (refers : held.data = some data)
    (room : client.handlesOf data + 1 < uint32Range) :
    client.Refines interface Valid allocated (.reference target source) := by
  obtain ⟨positive, stored, block, counter⟩ :=
    counted.pos_of_mem (List.mem_of_getElem? found) refers
  obtain ⟨after, done, recounts⟩ := lawful.reference client.pool allocated
    { payload := held, ownedByPool := true } data stored counted.valid rfl refers block
  rw [counter, Nat.mod_eq_of_lt room] at recounts
  obtain ⟨kept, shown⟩ := counted_recounts target
    { data := some data, length := held.length, maxSize := held.maxSize } counted recounts block
    rfl (by
      intro address
      have counts := handlesOf_set after
        { data := some data, length := held.length, maxSize := held.maxSize } empty address
      simp only [Option.some.injEq, reduceCtorEq, if_false, Nat.add_zero] at counts
      rw [counts]
      split
      · next same => rw [same, if_pos rfl]
      · next other => rw [if_neg (Ne.symm other), Nat.add_zero]) (Nat.succ_pos _) room
  refine ⟨true, _, ?_, kept, ?_⟩
  · simp only [call, getD_eq_of_getElem? empty, getD_eq_of_getElem? found, done, Functor.map,
      Except.map, put]
  · rw [shown, specification]
    simp [observe, observePayload, recounts.block, found, refers, block]

theorem refines_release (lawful : interface.Lawful Valid)
    (counted : client.Counted interface Valid) {index : Nat} {data : Address}
    {held : SerializedPayload} (found : client.payloads[index]? = some held)
    (refers : held.data = some data) :
    client.Refines interface Valid allocated (.release index) := by
  obtain ⟨positive, stored, block, counter⟩ :=
    counted.pos_of_mem (List.mem_of_getElem? found) refers
  rcases Nat.lt_or_ge 1 (client.handlesOf data) with shared | last
  · obtain ⟨after, done, recounts⟩ := lawful.release_shared client.pool held data stored
      counted.valid refers block (by omega) (counter ▸ counted.bounded data)
    rw [counter] at recounts
    obtain ⟨kept, shown⟩ := counted_recounts index {} counted recounts
      block rfl (by
        intro address
        have counts := handlesOf_set after {} found address
        simp only [refers, Option.some.injEq, reduceCtorEq, if_false, Nat.add_zero] at counts
        split
        · next same =>
            rw [same, if_pos rfl] at counts
            rw [same]
            exact Nat.eq_sub_of_add_eq counts
        · next other =>
            rw [if_neg (Ne.symm other)] at counts
            exact counts) (Nat.sub_pos_of_lt shared)
        (Nat.lt_of_le_of_lt (Nat.sub_le _ _) (counted.bounded data))
    refine ⟨true, _, ?_, kept, ?_⟩
    · simp only [call, getD_eq_of_getElem? found, done, Functor.map, Except.map, put]
    · rw [shown, specification]
      rfl
  · have one : client.handlesOf data = 1 := by omega
    have live : interface.liveBlocks client.pool ≠ 0 := by
      intro empty
      have none := (lawful.liveBlocks_eq_zero_iff client.pool counted.valid).mp empty data
      rw [block] at none
      cases none
    have released := PayloadPool.addReleasePayload_ok
      (by have counts := counted.counts; omega) counted.reserved
    obtain ⟨after, done, frees⟩ := lawful.release_last client.pool held data stored _
      counted.valid refers block (by omega) released
    obtain ⟨kept, shown⟩ := counted_frees counted frees found refers one rfl
    refine ⟨true, _, ?_, kept, ?_⟩
    · simp only [call, getD_eq_of_getElem? found, done, Functor.map, Except.map, put]
    · rw [shown, specification]

/-- The call does not count more payloads than the counters of the pool can. -/
def HasRoom (interface : PoolInterface Pool) (client : Client Pool) (poolCall : PoolCall) : Prop :=
  poolCall.requestedSize.isSome = true →
    (interface.counts client.pool).reserveCount + 1 < uint64Range

/-- **A pool that keeps the laws follows the specification**, and counts its
references right. -/
theorem call_refines (lawful : interface.Lawful Valid) (counted : client.Counted interface Valid)
    (fresh : interface.fresh client.pool allocated = true) {poolCall : PoolCall}
    (allowed : client.allows poolCall = true) (room : client.HasRoom interface poolCall) :
    client.Refines interface Valid allocated poolCall := by
  cases poolCall with
  | reserve target size =>
      exact refines_reserve lawful counted fresh (of_decide_eq_true allowed) (room rfl)
  | copy target source =>
      simp only [allows, Bool.and_eq_true, decide_eq_true_eq, Bool.not_eq_true', beq_iff_eq]
        at allowed
      obtain ⟨⟨⟨empty, foreign⟩, filled⟩, fits⟩ := allowed
      exact refines_copy lawful counted fresh empty foreign filled fits (room rfl)
  | reference target source =>
      simp only [allows, Bool.and_eq_true, decide_eq_true_eq, Option.any_eq_true,
        Option.bind_eq_some_iff] at allowed
      obtain ⟨empty, data, ⟨held, found, refers⟩, bounded⟩ := allowed
      exact refines_reference lawful counted empty found refers bounded
  | release index =>
      obtain ⟨data, referring⟩ := Option.isSome_iff_exists.mp allowed
      obtain ⟨held, found, refers⟩ := Option.bind_eq_some_iff.mp referring
      exact refines_release lawful counted found refers

theorem counted_initial (lawful : interface.Lawful Valid) (number : Nat) :
    Counted interface Valid
      { pool := interface.initial, payloads := List.replicate number {} } := by
  have unheld : ∀ address, handlesOf
      { pool := interface.initial, payloads := List.replicate number {} } address = 0 := by
    intro address
    refine List.countP_eq_zero.mpr fun payload member => ?_
    rw [List.eq_of_mem_replicate member]
    simp
  refine ⟨lawful.valid_initial, ?_, ?_, ?_, ?_, ?_⟩
  · intro address stored found
    rw [lawful.block_initial] at found
    cases found
  · intro address
    rw [lawful.block_initial, unheld]
    simp
  · intro address
    rw [unheld]
    decide
  · show (interface.counts interface.initial).reserveCount =
      _ + interface.liveBlocks interface.initial
    rw [(lawful.liveBlocks_eq_zero_iff _ lawful.valid_initial).mpr lawful.block_initial,
      lawful.counts_initial]
  · show (interface.counts interface.initial).reserveCount < _
    rw [lawful.counts_initial]
    decide

/-- A pool is clean exactly when no payload object holds a reference. -/
theorem Counted.isClean_iff (lawful : interface.Lawful Valid)
    (counted : client.Counted interface Valid) :
    (interface.counts client.pool).isClean = true ↔
      ∀ payload ∈ client.payloads, payload.data = none := by
  have empty : (interface.counts client.pool).isClean = true ↔
      interface.liveBlocks client.pool = 0 := by
    have counts := counted.counts
    rw [PayloadPool.isClean, beq_iff_eq]
    omega
  rw [empty, lawful.liveBlocks_eq_zero_iff _ counted.valid]
  simp only [counted.freed, handlesOf, List.countP_eq_zero, beq_iff_eq]
  constructor
  · intro unheld payload member
    exact Option.eq_none_iff_forall_ne_some.mpr fun data => unheld data payload member
  · intro none address payload member refers
    rw [none payload member] at refers
    cases refers

end Client

end DdsPipe.Efficiency.PayloadPools
