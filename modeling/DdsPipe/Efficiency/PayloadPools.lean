import DdsPipe.Efficiency.ReferenceCounting
import DdsPipe.Library.OrderedMap

/-!
Owns the two payload pools, as one thread calls them: the fast pool, which keeps
the reference counter of a block in the four bytes before its data, and the map
pool, which keeps it in a map by the data pointer. Both keep the laws of reference
counting, so along every run of calls they return the same and leave the same in
the payloads of their callers (`countReferences_of_reachable`).

The counts of reservations and releases have 64 bits. Once the first wraps, a
release is refused with an exception although its payload is held
(`not_countReferences_of_reachable`).

Does not own: the bytes of a block before they are written, allocations that
fail, and calls from several threads.
-/

namespace DdsPipe.Efficiency.PayloadPools

open Std (TreeMap)
open TransitionSystem

/-! ### The fast pool -/

/-- What one `malloc` of the fast pool returned: the reference counter, and the
data behind it. -/
structure Allocation where
  referenceCount : Nat
  size : Nat
  bytes : Bytes := []
deriving DecidableEq, Repr

/-- The memory is by the address that `malloc` returned. -/
structure FastPayloadPool where
  counts : PayloadPool := {}
  memory : TreeMap Address Allocation := ∅

/-- `sizeof(MetaInfoType)`. -/
def metaInfoSize : Nat := 4

namespace FastPayloadPool

/-- The place of the counter, four bytes before the data. -/
def referencePlace (payload : SerializedPayload) : Except PoolFault Address :=
  match payload.data with
  | some data =>
      if metaInfoSize ≤ data then .ok (data - metaInfoSize) else .error (.invalidAccess data)
  | none => .error (.invalidAccess none)

def load (pool : FastPayloadPool) (place : Address) : Except PoolFault Allocation :=
  match pool.memory[place]? with
  | some allocation => .ok allocation
  | none => .error (.invalidAccess place)

def store (pool : FastPayloadPool) (place : Address) (allocation : Allocation) :
    FastPayloadPool :=
  { pool with memory := pool.memory.insert place allocation }

def reserve (pool : FastPayloadPool) (memoryAllocated : Address) (size : Nat)
    (payload : SerializedPayload) : Bool × SerializedPayload × FastPayloadPool :=
  if size = 0 then (false, payload, pool)
  else
    let pool := pool.store memoryAllocated { referenceCount := 1, size := size }
    (true, { payload with data := some (memoryAllocated + metaInfoSize), maxSize := size },
      { pool with counts := pool.counts.addReservedPayload })

def release (pool : FastPayloadPool) (payload : SerializedPayload) :
    Except PoolFault (Returned FastPayloadPool) := do
  let place ← referencePlace payload
  let _ ← pool.load place
  let counts ← pool.counts.addReleasePayload
  return (true, {}, { counts := counts, memory := pool.memory.erase place })

def getPayload (pool : FastPayloadPool) (memoryAllocated : Address) (size : Nat)
    (payload : SerializedPayload) : Except PoolFault (Returned FastPayloadPool) :=
  .ok (pool.reserve memoryAllocated size payload)

/-- `memcpy` to the data of a payload. -/
def memcpy (pool : FastPayloadPool) (payload : SerializedPayload) (bytes : Bytes) (length : Nat) :
    Except PoolFault FastPayloadPool := do
  let place ← referencePlace payload
  let allocation ← pool.load place
  if length ≤ allocation.size then
    return pool.store place { allocation with
      bytes := bytes.take length ++ allocation.bytes.drop length }
  else throw (.invalidAccess payload.data)

def getPayloadFrom (pool : FastPayloadPool) (memoryAllocated : Address) (source : Source)
    (targetPayload : SerializedPayload) : Except PoolFault (Returned FastPayloadPool) :=
  if !source.ownedByPool then do
    let (reserved, targetPayload, pool) ←
      pool.getPayload memoryAllocated source.payload.maxSize targetPayload
    if !reserved then return (false, targetPayload, pool)
    let pool ← pool.memcpy targetPayload source.bytes source.payload.length
    return (true, { targetPayload with length := source.payload.length }, pool)
  else do
    let place ← referencePlace source.payload
    let allocation ← pool.load place
    let pool := pool.store place { allocation with
      referenceCount := (allocation.referenceCount + 1) % uint32Range }
    return (true, { targetPayload with
      data := source.payload.data
      length := source.payload.length
      maxSize := source.payload.maxSize }, pool)

def releasePayload (pool : FastPayloadPool) (payload : SerializedPayload) :
    Except PoolFault (Returned FastPayloadPool) := do
  let place ← referencePlace payload
  let allocation ← pool.load place
  let referenceCount := (allocation.referenceCount + (uint32Range - 1)) % uint32Range
  let pool := pool.store place { allocation with referenceCount := referenceCount }
  if referenceCount = 0 then
    let (_, _, pool) ← pool.release payload
    return (true, {}, pool)
  else return (true, {}, pool)

/-- The block whose data is at an address. -/
def block (pool : FastPayloadPool) (data : Address) : Option Block :=
  if metaInfoSize ≤ data then
    pool.memory[data - metaInfoSize]?.map fun allocation =>
      { counter := allocation.referenceCount, bytes := allocation.bytes }
  else none

end FastPayloadPool

def fastPayloadPool : PoolInterface FastPayloadPool where
  initial := {}
  getPayload := FastPayloadPool.getPayload
  getPayloadFrom := FastPayloadPool.getPayloadFrom
  releasePayload := FastPayloadPool.releasePayload
  counts := FastPayloadPool.counts
  block := FastPayloadPool.block
  liveBlocks pool := pool.memory.size
  fresh pool memoryAllocated := !pool.memory.contains memoryAllocated

/-! ### The map pool -/

/-- The data of a payload that was allocated by its `reserve`. -/
structure Data where
  size : Nat
  bytes : Bytes := []
deriving DecidableEq, Repr

abbrev Memory := TreeMap Address Data

/-- The methods `reserve` and `empty` of `SerializedPayload_t`, which belong to the
RTPS library: an allocation gets the address that is returned to it. -/
structure SerializedPayloadLibrary where
  reserve : Memory → Address → Nat → SerializedPayload → SerializedPayload × Memory
  empty : Memory → SerializedPayload → SerializedPayload × Memory
  /-- A payload without data gets a block of the size. -/
  reserve_of_null : ∀ memory allocated newSize (payload : SerializedPayload),
    payload.data = none → payload.maxSize < newSize →
      reserve memory allocated newSize payload =
        ({ payload with data := some allocated, maxSize := newSize },
          memory.insert allocated { size := newSize })
  /-- The data of a payload is freed. -/
  empty_of_data : ∀ memory (payload : SerializedPayload) data,
    payload.data = some data → data ∈ memory →
      empty memory payload =
        ({ payload with data := none, length := 0, maxSize := 0 }, memory.erase data)

/-- A pool that leaves allocating to `SerializedPayload_t`. -/
structure AllocatingPool where
  counts : PayloadPool := {}
  memory : Memory := ∅

namespace AllocatingPool

variable (library : SerializedPayloadLibrary)

/-- `PayloadPool::reserve_`. -/
def reserve (pool : AllocatingPool) (allocated : Address) (size : Nat)
    (payload : SerializedPayload) : Returned AllocatingPool :=
  if size = 0 then (false, payload, pool)
  else
    let (payload, memory) := library.reserve pool.memory allocated size payload
    (true, payload, { memory := memory, counts := pool.counts.addReservedPayload })

/-- `PayloadPool::release_`. -/
def release (pool : AllocatingPool) (payload : SerializedPayload) :
    Except PoolFault (Returned AllocatingPool) := do
  let (payload, memory) := library.empty pool.memory payload
  let pool := { pool with memory := memory }
  if payload.data ≠ none then return (false, payload, pool)
  let counts ← pool.counts.addReleasePayload
  return (true, payload, { pool with counts := counts })

end AllocatingPool

/-- The counters are by the data pointer of their block. -/
structure MapPayloadPool extends AllocatingPool where
  reservedPayloads : TreeMap (Option Address) Nat := ∅

namespace MapPayloadPool

variable (library : SerializedPayloadLibrary)

def getPayload (pool : MapPayloadPool) (allocated : Address) (size : Nat)
    (payload : SerializedPayload) : Except PoolFault (Returned MapPayloadPool) :=
  let (reserved, payload, base) := pool.reserve library allocated size payload
  if !reserved then .ok (false, payload, { pool with toAllocatingPool := base })
  else
    let payload := { payload with maxSize := size }
    .ok (true, payload,
      { base with reservedPayloads := pool.reservedPayloads.insert payload.data 1 })

/-- `memcpy` to the data of a payload. -/
def memcpy (pool : MapPayloadPool) (payload : SerializedPayload) (bytes : Bytes) (length : Nat) :
    Except PoolFault MapPayloadPool :=
  match payload.data with
  | none => .error (.invalidAccess none)
  | some address =>
      match pool.memory[address]? with
      | none => .error (.invalidAccess address)
      | some data =>
          if length ≤ data.size then
            .ok { pool with memory := pool.memory.insert address { data with
              bytes := bytes.take length ++ data.bytes.drop length } }
          else .error (.invalidAccess address)

def getPayloadFrom (pool : MapPayloadPool) (allocated : Address) (source : Source)
    (targetPayload : SerializedPayload) : Except PoolFault (Returned MapPayloadPool) :=
  if !source.ownedByPool then do
    let (reserved, targetPayload, pool) ←
      pool.getPayload library allocated source.payload.maxSize targetPayload
    if !reserved then return (false, targetPayload, pool)
    let pool ← pool.memcpy targetPayload source.bytes source.payload.length
    return (true, { targetPayload with length := source.payload.length }, pool)
  else
    match pool.reservedPayloads[source.payload.data]? with
    | none => .error (.inconsistencyException
        "Payload ownership is this pool, but it is not reserved from here.")
    | some references =>
        .ok (true, { targetPayload with
            data := source.payload.data
            length := source.payload.length
            maxSize := source.payload.maxSize },
          { pool with reservedPayloads :=
              pool.reservedPayloads.insert source.payload.data ((references + 1) % uint32Range) })

def releasePayload (pool : MapPayloadPool) (payload : SerializedPayload) :
    Except PoolFault (Returned MapPayloadPool) :=
  match pool.reservedPayloads[payload.data]? with
  | none => .error (.inconsistencyException
      "Trying to release a payload from this pool that is not present.")
  | some references =>
      let references := (references + (uint32Range - 1)) % uint32Range
      let dereferenced := { pool with
        reservedPayloads := pool.reservedPayloads.insert payload.data references }
      if references = 0 then do
        let (released, emptied, base) ← dereferenced.release library payload
        if !released then return (false, emptied, { dereferenced with toAllocatingPool := base })
        return (true, {}, { base with
          reservedPayloads := dereferenced.reservedPayloads.erase payload.data })
      else .ok (true, {}, dereferenced)

/-- The block whose data is at an address. -/
def block (pool : MapPayloadPool) (address : Address) : Option Block :=
  pool.reservedPayloads[some address]?.bind fun references =>
    pool.memory[address]?.map fun data => { counter := references, bytes := data.bytes }

/-- The map has a counter for every block, and for nothing else. -/
def Valid (pool : MapPayloadPool) : Prop :=
  ∀ pointer, pointer ∈ pool.reservedPayloads ↔ ∃ address, pointer = some address ∧
    address ∈ pool.memory

end MapPayloadPool

def mapPayloadPool (library : SerializedPayloadLibrary) : PoolInterface MapPayloadPool where
  initial := {}
  getPayload := MapPayloadPool.getPayload library
  getPayloadFrom := MapPayloadPool.getPayloadFrom library
  releasePayload := MapPayloadPool.releasePayload library
  counts pool := pool.counts
  block := MapPayloadPool.block
  liveBlocks pool := pool.memory.size
  fresh pool allocated := !pool.memory.contains allocated

/-! ### The fast pool keeps the laws -/

def Allocation.block (allocation : Allocation) : Block :=
  { counter := allocation.referenceCount, bytes := allocation.bytes }

namespace FastPayloadPool

variable {pool after : FastPayloadPool} {place data : Address} {allocation : Allocation}
  {stored : Block} {payload : SerializedPayload}

theorem referencePlace_of_data (refers : payload.data = some (place + metaInfoSize)) :
    referencePlace payload = .ok place := by
  rw [referencePlace, refers]
  simp

theorem load_of_memory (found : pool.memory[place]? = some allocation) :
    pool.load place = .ok allocation := by
  rw [load, found]

theorem memcpy_of_memory {bytes : Bytes} {length : Nat}
    (refers : payload.data = some (place + metaInfoSize))
    (found : pool.memory[place]? = some allocation) (fits : length ≤ allocation.size) :
    pool.memcpy payload bytes length = .ok (pool.store place { allocation with
      bytes := bytes.take length ++ allocation.bytes.drop length }) := by
  rw [memcpy, referencePlace_of_data refers]
  show (pool.load place >>= _) = _
  rw [load_of_memory found]
  exact if_pos fits

theorem block_add (pool : FastPayloadPool) (place : Address) :
    pool.block (place + metaInfoSize) = pool.memory[place]?.map Allocation.block := by
  simp only [block, Nat.le_add_left, if_true, Nat.add_sub_cancel]
  rfl

/-- A block stands behind its counter. -/
theorem exists_of_block (found : pool.block data = some stored) :
    ∃ place allocation, data = place + metaInfoSize ∧ pool.memory[place]? = some allocation ∧
      stored = allocation.block := by
  unfold block at found
  split at found
  · next behind =>
      obtain ⟨allocation, there, rfl⟩ := Option.map_eq_some_iff.mp found
      exact ⟨data - metaInfoSize, allocation, (Nat.sub_add_cancel behind).symm, there, rfl⟩
  · cases found

/-- A change at one place of the memory changes the block behind it. -/
theorem block_of_memory (content : Option Allocation)
    (memory : ∀ other, after.memory[other]? =
      if other = place then content else pool.memory[other]?)
    (other : Address) :
    after.block other =
      if other = place + metaInfoSize then content.map Allocation.block else pool.block other := by
  split
  · next same => rw [same, block_add, memory, if_pos rfl]
  · next different =>
      unfold block
      split
      · next behind =>
          rw [memory, if_neg]
          intro same
          exact different (by rw [← same, Nat.sub_add_cancel behind])
      · rfl

/-! What the operations do with the memory. -/

theorem getPayload_of_pos {size : Nat} (positive : 0 < size) (payload : SerializedPayload) :
    pool.getPayload place size payload =
      .ok (true, { payload with data := some (place + metaInfoSize), maxSize := size },
        { counts := pool.counts.addReservedPayload
          memory := pool.memory.insert place { referenceCount := 1, size := size } }) :=
  congrArg Except.ok (if_neg (by omega))

theorem getPayloadFrom_of_copy {source : Source} (foreign : source.ownedByPool = false)
    (positive : 0 < source.payload.maxSize)
    (fits : source.payload.length ≤ source.payload.maxSize) :
    pool.getPayloadFrom place source {} =
      .ok (true, {
          data := some (place + metaInfoSize)
          length := source.payload.length
          maxSize := source.payload.maxSize },
        { counts := pool.counts.addReservedPayload
          memory := (pool.memory.insert place
              { referenceCount := 1, size := source.payload.maxSize }).insert place {
            referenceCount := 1
            size := source.payload.maxSize
            bytes := source.bytes.take source.payload.length } }) := by
  rw [getPayloadFrom, foreign, getPayload_of_pos positive]
  show (memcpy _ _ _ _ >>= _) = _
  rw [memcpy_of_memory rfl TreeMap.getElem?_insert_self fits]
  simp only [List.drop_nil, List.append_nil]
  rfl

theorem getPayloadFrom_of_reference {source : Source} (owned : source.ownedByPool = true)
    (refers : source.payload.data = some (place + metaInfoSize))
    (found : pool.memory[place]? = some allocation) (allocated : Address) :
    pool.getPayloadFrom allocated source {} =
      .ok (true, {
          data := some (place + metaInfoSize)
          length := source.payload.length
          maxSize := source.payload.maxSize },
        pool.store place { allocation with
          referenceCount := (allocation.referenceCount + 1) % uint32Range }) := by
  rw [getPayloadFrom, owned, referencePlace_of_data refers, refers]
  show (pool.load place >>= _) = _
  rw [load_of_memory found]
  rfl

theorem releasePayload_of_shared (refers : payload.data = some (place + metaInfoSize))
    (found : pool.memory[place]? = some allocation) (shared : 1 < allocation.referenceCount)
    (small : allocation.referenceCount < uint32Range) :
    pool.releasePayload payload = .ok (true, {}, pool.store place { allocation with
      referenceCount := allocation.referenceCount - 1 }) := by
  have fewer : (allocation.referenceCount + (uint32Range - 1)) % uint32Range =
      allocation.referenceCount - 1 := by
    unfold uint32Range at small ⊢
    omega
  simp only [releasePayload, referencePlace_of_data refers, load_of_memory found, bind,
    Except.bind, fewer]
  exact if_neg (by omega)

theorem releasePayload_of_last {counts : PayloadPool}
    (refers : payload.data = some (place + metaInfoSize))
    (found : pool.memory[place]? = some allocation) (last : allocation.referenceCount = 1)
    (released : pool.counts.addReleasePayload = .ok counts) :
    pool.releasePayload payload = .ok (true, {},
      { counts := counts
        memory := (pool.memory.insert place { allocation with referenceCount := 0 }).erase
          place }) := by
  have none : (allocation.referenceCount + (uint32Range - 1)) % uint32Range = 0 := by
    rw [last]
    decide
  have stored : (pool.store place { allocation with referenceCount := 0 }).load place =
      .ok { allocation with referenceCount := 0 } :=
    load_of_memory TreeMap.getElem?_insert_self
  have counts : (pool.store place { allocation with referenceCount := 0 }).counts.addReleasePayload
      = .ok counts := released
  simp only [releasePayload, referencePlace_of_data refers, load_of_memory found, bind,
    Except.bind, none, if_true, release, stored, counts]
  rfl

/-! The laws. -/

theorem reserves_of_memory {bytes : Bytes} (size : Nat)
    (unused : pool.memory.contains place = false)
    (memory : ∀ other, after.memory[other]? = if other = place then
      some { referenceCount := 1, size := size, bytes := bytes } else pool.memory[other]?)
    (counts : after.counts = pool.counts.addReservedPayload)
    (sized : after.memory.size = pool.memory.size + 1) :
    fastPayloadPool.Reserves (fun _ => True) pool (place + metaInfoSize) bytes after where
  valid := trivial
  unused := by
    show pool.block (place + metaInfoSize) = none
    rw [block_add, TreeMap.getElem?_eq_none_of_contains_eq_false unused]
    rfl
  block := block_of_memory _ memory
  counts := counts
  liveBlocks := sized

theorem recounts_store (found : pool.memory[place]? = some allocation) (referenceCount : Nat) :
    fastPayloadPool.Recounts (fun _ => True) pool (place + metaInfoSize)
      { allocation.block with counter := referenceCount }
      (pool.store place { allocation with referenceCount := referenceCount }) where
  valid := trivial
  block := block_of_memory (some { allocation with referenceCount := referenceCount }) fun _ =>
    OrderedMap.getElem?_insert_eq_ite
  counts := rfl
  liveBlocks := by
    show (pool.memory.insert place _).size = pool.memory.size
    rw [TreeMap.size_insert, if_pos]
    exact TreeMap.mem_iff_contains.mp (OrderedMap.mem_iff_exists_getElem?.mpr ⟨_, found⟩)

theorem frees_erase (found : pool.memory[place]? = some allocation) (counts : PayloadPool)
    (other : Allocation) :
    fastPayloadPool.Frees (fun _ => True) pool (place + metaInfoSize) counts
      { counts := counts, memory := (pool.memory.insert place other).erase place } where
  valid := trivial
  block := by
    refine block_of_memory none fun address => ?_
    rw [OrderedMap.getElem?_erase_eq_ite, OrderedMap.getElem?_insert_eq_ite]
    split <;> rfl
  counts := rfl
  liveBlocks := by
    show ((pool.memory.insert place other).erase place).size + 1 = pool.memory.size
    have member : pool.memory.contains place = true :=
      TreeMap.mem_iff_contains.mp (OrderedMap.mem_iff_exists_getElem?.mpr ⟨_, found⟩)
    have positive : pool.memory.size ≠ 0 := by
      intro empty
      exact OrderedMap.size_eq_zero_iff.mp empty place (TreeMap.mem_iff_contains.mpr member)
    rw [TreeMap.size_erase, TreeMap.contains_insert_self, if_pos rfl, TreeMap.size_insert,
      if_pos member]
    omega

end FastPayloadPool

open DdsPipe.Efficiency.PayloadPools.FastPayloadPool in
theorem lawful_fastPayloadPool : fastPayloadPool.Lawful fun _ => True where
  valid_initial := trivial
  block_initial address := by
    show block {} address = none
    unfold block
    split
    · simp
    · rfl
  counts_initial := rfl
  liveBlocks_eq_zero_iff pool _ := by
    show pool.memory.size = 0 ↔ ∀ address, pool.block address = none
    rw [OrderedMap.size_eq_zero_iff]
    constructor
    · intro unused address
      cases found : pool.block address with
      | none => rfl
      | some stored =>
          obtain ⟨place, allocation, _, there, _⟩ := exists_of_block found
          exact absurd (OrderedMap.mem_iff_exists_getElem?.mpr ⟨allocation, there⟩) (unused place)
    · intro freed place
      have unused := freed (place + metaInfoSize)
      rw [block_add, Option.map_eq_none_iff] at unused
      exact OrderedMap.getElem?_eq_none_iff.mp unused
  getPayload_zero _ _ _ := rfl
  getPayload pool allocated size _ fresh positive := by
    have unused : pool.memory.contains allocated = false := by
      simpa [fastPayloadPool] using fresh
    refine ⟨_, _, getPayload_of_pos positive {}, reserves_of_memory size unused
      (fun _ => OrderedMap.getElem?_insert_eq_ite) rfl ?_⟩
    rw [TreeMap.size_insert, unused]
    rfl
  copy_zero pool allocated source payload foreign zero := by
    show getPayloadFrom pool allocated source payload = _
    rw [getPayloadFrom, foreign, zero]
    rfl
  copy pool allocated source _ fresh foreign positive fits := by
    have unused : pool.memory.contains allocated = false := by
      simpa [fastPayloadPool] using fresh
    refine ⟨_, _, getPayloadFrom_of_copy foreign positive fits, reserves_of_memory
      source.payload.maxSize unused (fun other => ?_) rfl ?_⟩
    · rw [OrderedMap.getElem?_insert_eq_ite, OrderedMap.getElem?_insert_eq_ite]
      split <;> rfl
    · rw [TreeMap.size_insert, TreeMap.contains_insert_self, if_pos rfl, TreeMap.size_insert,
        unused]
      rfl
  reference pool allocated source data stored _ owned refers found := by
    obtain ⟨place, allocation, rfl, there, rfl⟩ := exists_of_block found
    exact ⟨_, getPayloadFrom_of_reference owned refers there allocated, recounts_store there _⟩
  release_shared pool payload data stored _ refers found shared small := by
    obtain ⟨place, allocation, rfl, there, rfl⟩ := exists_of_block found
    exact ⟨_, releasePayload_of_shared refers there shared small, recounts_store there _⟩
  release_last pool payload data stored counts _ refers found last released := by
    obtain ⟨place, allocation, rfl, there, rfl⟩ := exists_of_block found
    exact ⟨_, releasePayload_of_last refers there last released, frees_erase there _ _⟩

/-! ### The map pool keeps the laws -/

namespace MapPayloadPool

variable {library : SerializedPayloadLibrary} {pool after : MapPayloadPool}
  {address allocated : Address} {stored : Block} {payload : SerializedPayload}

theorem exists_of_block (found : pool.block address = some stored) :
    ∃ references data, pool.reservedPayloads[some address]? = some references ∧
      pool.memory[address]? = some data ∧
      stored = { counter := references, bytes := data.bytes } := by
  obtain ⟨references, counted, found⟩ := Option.bind_eq_some_iff.mp found
  obtain ⟨data, there, rfl⟩ := Option.map_eq_some_iff.mp found
  exact ⟨references, data, counted, there, rfl⟩

theorem Valid.mem_iff (valid : pool.Valid) :
    some address ∈ pool.reservedPayloads ↔ address ∈ pool.memory := by
  rw [valid]
  constructor
  · rintro ⟨_, same, member⟩
    cases same
    exact member
  · intro member
    exact ⟨address, rfl, member⟩

/-- The counter and the data at one address are set or removed, together. -/
structure Changed (pool after : MapPayloadPool) (address : Address) (references : Option Nat)
    (content : Option Data) : Prop where
  reserved : ∀ pointer, after.reservedPayloads[pointer]? =
    if pointer = some address then references else pool.reservedPayloads[pointer]?
  memory : ∀ other, after.memory[other]? =
    if other = address then content else pool.memory[other]?
  together : references.isSome = content.isSome

theorem Changed.valid {references : Option Nat} {content : Option Data} (valid : pool.Valid)
    (changed : Changed pool after address references content) : after.Valid := by
  intro pointer
  simp only [← TreeMap.isSome_getElem?_iff_mem, changed.reserved, changed.memory]
  by_cases same : pointer = some address
  · simp [same, changed.together]
  · rw [if_neg same, TreeMap.isSome_getElem?_iff_mem, valid]
    refine exists_congr fun other => and_congr_right ?_
    rintro rfl
    rw [if_neg (fun here => same (congrArg some here)), TreeMap.isSome_getElem?_iff_mem]

theorem Changed.block {references : Option Nat} {content : Option Data}
    (changed : Changed pool after address references content) (other : Address) :
    after.block other =
      if other = address then references.bind fun references =>
        content.map fun data => { counter := references, bytes := data.bytes }
      else pool.block other := by
  unfold MapPayloadPool.block
  rw [changed.reserved, changed.memory]
  by_cases same : other = address <;> simp [same]

/-! What the operations do with the memory and the map. -/

theorem getPayload_of_pos {size : Nat} (positive : 0 < size) :
    pool.getPayload library allocated size {} =
      .ok (true, { data := some allocated, maxSize := size },
        { counts := pool.counts.addReservedPayload
          memory := pool.memory.insert allocated { size := size }
          reservedPayloads := pool.reservedPayloads.insert (some allocated) 1 }) := by
  rw [getPayload, AllocatingPool.reserve, if_neg (by omega),
    library.reserve_of_null _ _ _ {} rfl positive]
  rfl

theorem getPayloadFrom_of_copy {source : Source} (foreign : source.ownedByPool = false)
    (positive : 0 < source.payload.maxSize)
    (fits : source.payload.length ≤ source.payload.maxSize) :
    pool.getPayloadFrom library allocated source {} =
      .ok (true, {
          data := some allocated
          length := source.payload.length
          maxSize := source.payload.maxSize },
        { counts := pool.counts.addReservedPayload
          memory := (pool.memory.insert allocated { size := source.payload.maxSize }).insert
            allocated {
              size := source.payload.maxSize
              bytes := source.bytes.take source.payload.length }
          reservedPayloads := pool.reservedPayloads.insert (some allocated) 1 }) := by
  rw [getPayloadFrom, foreign, getPayload_of_pos positive]
  simp [memcpy, fits, bind, Except.bind, pure, Except.pure]

theorem getPayloadFrom_of_reference {source : Source} {references : Nat}
    (owned : source.ownedByPool = true) (refers : source.payload.data = some address)
    (counted : pool.reservedPayloads[some address]? = some references) :
    pool.getPayloadFrom library allocated source {} =
      .ok (true, {
          data := some address
          length := source.payload.length
          maxSize := source.payload.maxSize },
        { pool with
          reservedPayloads :=
            pool.reservedPayloads.insert (some address) ((references + 1) % uint32Range) }) := by
  simp [getPayloadFrom, owned, refers, counted]

theorem releasePayload_of_shared {references : Nat} (refers : payload.data = some address)
    (counted : pool.reservedPayloads[some address]? = some references) (shared : 1 < references)
    (small : references < uint32Range) :
    pool.releasePayload library payload = .ok (true, {}, { pool with
      reservedPayloads := pool.reservedPayloads.insert (some address) (references - 1) }) := by
  have fewer : (references + (uint32Range - 1)) % uint32Range = references - 1 := by
    unfold uint32Range at small ⊢
    omega
  simp only [releasePayload, refers, counted, fewer]
  exact if_neg (by omega)

theorem releasePayload_of_last {counts : PayloadPool} (refers : payload.data = some address)
    (counted : pool.reservedPayloads[some address]? = some 1) (member : address ∈ pool.memory)
    (released : pool.counts.addReleasePayload = .ok counts) :
    pool.releasePayload library payload = .ok (true, {},
      { counts := counts
        memory := pool.memory.erase address
        reservedPayloads := (pool.reservedPayloads.insert (some address) 0).erase
          (some address) }) := by
  have zero : (1 + (uint32Range - 1)) % uint32Range = 0 := by
    decide
  simp [releasePayload, refers, counted, zero, AllocatingPool.release,
    library.empty_of_data pool.memory payload address refers member, released, bind, Except.bind,
    pure, Except.pure]

/-! The laws. -/

theorem reserves_of_changed (data : Data) (valid : pool.Valid)
    (unused : pool.memory.contains address = false)
    (changed : Changed pool after address (some 1) (some data))
    (counts : after.counts = pool.counts.addReservedPayload)
    (sized : after.memory.size = pool.memory.size + 1) :
    (mapPayloadPool library).Reserves Valid pool address data.bytes after where
  valid := changed.valid valid
  unused := by
    show pool.block address = none
    rw [MapPayloadPool.block, TreeMap.getElem?_eq_none_of_contains_eq_false unused]
    cases pool.reservedPayloads[some address]? <;> rfl
  block := changed.block
  counts := counts
  liveBlocks := sized

theorem recounts_insert {references : Nat} {data : Data} (valid : pool.Valid)
    (counted : pool.memory[address]? = some data) :
    (mapPayloadPool library).Recounts Valid pool address
      { counter := references, bytes := data.bytes }
      { pool with
        reservedPayloads := pool.reservedPayloads.insert (some address) references } := by
  have changed : Changed pool { pool with
      reservedPayloads := pool.reservedPayloads.insert (some address) references }
      address (some references) (some data) := by
    refine ⟨fun _ => OrderedMap.getElem?_insert_eq_ite, fun other => ?_, rfl⟩
    split
    · next same => rw [same, counted]
    · rfl
  exact ⟨changed.valid valid, changed.block, rfl, rfl⟩

theorem frees_erase (valid : pool.Valid) (member : address ∈ pool.memory) (counts : PayloadPool)
    (references : Nat) :
    (mapPayloadPool library).Frees Valid pool address counts
      { counts := counts
        memory := pool.memory.erase address
        reservedPayloads := (pool.reservedPayloads.insert (some address) references).erase
          (some address) } := by
  have changed : Changed pool
      { counts := counts
        memory := pool.memory.erase address
        reservedPayloads := (pool.reservedPayloads.insert (some address) references).erase
          (some address) } address none none := by
    refine ⟨fun pointer => ?_, fun _ => OrderedMap.getElem?_erase_eq_ite, rfl⟩
    rw [OrderedMap.getElem?_erase_eq_ite, OrderedMap.getElem?_insert_eq_ite]
    split <;> rfl
  refine ⟨changed.valid valid, changed.block, rfl, ?_⟩
  show (pool.memory.erase address).size + 1 = pool.memory.size
  have positive : pool.memory.size ≠ 0 := by
    intro empty
    exact OrderedMap.size_eq_zero_iff.mp empty address member
  rw [TreeMap.size_erase, if_pos (TreeMap.mem_iff_contains.mp member)]
  omega

end MapPayloadPool

open MapPayloadPool in
theorem lawful_mapPayloadPool (library : SerializedPayloadLibrary) :
    (mapPayloadPool library).Lawful MapPayloadPool.Valid where
  valid_initial pointer := by
    simp [mapPayloadPool]
  block_initial address := by
    show MapPayloadPool.block {} address = none
    simp [MapPayloadPool.block]
  counts_initial := rfl
  liveBlocks_eq_zero_iff pool valid := by
    show pool.memory.size = 0 ↔ ∀ address, pool.block address = none
    rw [OrderedMap.size_eq_zero_iff]
    constructor
    · intro unused address
      cases found : pool.block address with
      | none => rfl
      | some stored =>
          obtain ⟨_, data, _, there, _⟩ := exists_of_block found
          exact absurd (OrderedMap.mem_iff_exists_getElem?.mpr ⟨data, there⟩) (unused address)
    · intro freed address member
      obtain ⟨data, there⟩ := OrderedMap.mem_iff_exists_getElem?.mp member
      obtain ⟨references, counted⟩ :=
        OrderedMap.mem_iff_exists_getElem?.mp (valid.mem_iff.mpr member)
      have none := freed address
      rw [MapPayloadPool.block, counted, there] at none
      cases none
  getPayload_zero _ _ _ := rfl
  getPayload pool allocated size valid fresh positive := by
    have unused : pool.memory.contains allocated = false := by
      simpa [mapPayloadPool] using fresh
    refine ⟨_, _, getPayload_of_pos positive, reserves_of_changed { size := size } valid unused
      ⟨fun _ => OrderedMap.getElem?_insert_eq_ite,
        fun _ => OrderedMap.getElem?_insert_eq_ite, rfl⟩ rfl ?_⟩
    rw [TreeMap.size_insert, unused]
    rfl
  copy_zero pool allocated source payload foreign zero := by
    show getPayloadFrom library pool allocated source payload = _
    rw [getPayloadFrom, foreign, zero]
    rfl
  copy pool allocated source valid fresh foreign positive fits := by
    have unused : pool.memory.contains allocated = false := by
      simpa [mapPayloadPool] using fresh
    have changed : Changed pool
        { counts := pool.counts.addReservedPayload
          memory := (pool.memory.insert allocated { size := source.payload.maxSize }).insert
            allocated {
              size := source.payload.maxSize
              bytes := source.bytes.take source.payload.length }
          reservedPayloads := pool.reservedPayloads.insert (some allocated) 1 }
        allocated (some 1) (some {
          size := source.payload.maxSize
          bytes := source.bytes.take source.payload.length }) := by
      refine ⟨fun _ => OrderedMap.getElem?_insert_eq_ite, fun other => ?_, rfl⟩
      rw [OrderedMap.getElem?_insert_eq_ite, OrderedMap.getElem?_insert_eq_ite]
      split <;> rfl
    refine ⟨_, _, getPayloadFrom_of_copy foreign positive fits,
      reserves_of_changed _ valid unused changed rfl ?_⟩
    rw [TreeMap.size_insert, TreeMap.contains_insert_self, if_pos rfl, TreeMap.size_insert, unused]
    rfl
  reference pool allocated source data stored valid owned refers found := by
    obtain ⟨references, content, counted, there, rfl⟩ := exists_of_block found
    exact ⟨_, getPayloadFrom_of_reference owned refers counted, recounts_insert valid there⟩
  release_shared pool payload data stored valid refers found shared small := by
    obtain ⟨references, content, counted, there, rfl⟩ := exists_of_block found
    exact ⟨_, releasePayload_of_shared refers counted shared small, recounts_insert valid there⟩
  release_last pool payload data stored counts valid refers found last released := by
    obtain ⟨references, content, counted, there, rfl⟩ := exists_of_block found
    cases last
    have member : data ∈ pool.memory := OrderedMap.mem_iff_exists_getElem?.mpr ⟨content, there⟩
    exact ⟨_, releasePayload_of_last refers counted member released,
      frees_erase valid member counts 0⟩

/-! ### The same calls on both pools -/

/-- The callers of the two pools, which make the same calls, with what these have
returned so far. A call that goes wrong ends the run. -/
structure PoolRun where
  fast : Except PoolFault (Client FastPayloadPool)
  map : Except PoolFault (Client MapPayloadPool)
  fastReturns : List Bool := []
  mapReturns : List Bool := []

/-- A call, with the addresses that an allocation returns in each pool. -/
structure PoolStep where
  poolCall : PoolCall
  fastAllocated : Address
  mapAllocated : Address
deriving DecidableEq, Repr

/-- One call on one pool. -/
def advance {Pool : Type} (interface : PoolInterface Pool) (client : Client Pool)
    (allocated : Address) (poolCall : PoolCall) (returns : List Bool) :
    Except PoolFault (Client Pool) × List Bool :=
  match client.call interface allocated poolCall with
  | .ok (result, next) => (.ok next, returns ++ [result])
  | .error fault => (.error fault, returns)

namespace PoolRun

variable (library : SerializedPayloadLibrary)

def step (run : PoolRun) (next : PoolStep) : Option PoolRun :=
  match run.fast, run.map with
  | .ok fast, .ok map =>
      if fast.allows next.poolCall && map.allows next.poolCall &&
          fastPayloadPool.fresh fast.pool next.fastAllocated &&
          (mapPayloadPool library).fresh map.pool next.mapAllocated then
        let fast := advance fastPayloadPool fast next.fastAllocated next.poolCall run.fastReturns
        let map :=
          advance (mapPayloadPool library) map next.mapAllocated next.poolCall run.mapReturns
        some { fast := fast.1, map := map.1, fastReturns := fast.2, mapReturns := map.2 }
      else none
  | _, _ => none

end PoolRun

/-- Each pool starts empty, with any number of empty payload objects. -/
def poolRuns (library : SerializedPayloadLibrary) : System PoolRun PoolStep where
  Initial run := ∃ number,
    run = {
      fast := .ok { pool := {}, payloads := List.replicate number {} }
      map := .ok { pool := {}, payloads := List.replicate number {} } }
  step := PoolRun.step library

/-- A pool counts the references to its blocks, frees a block with the last of
them, counts its reservations and releases, and is clean when no payload object
holds a reference. A request of size zero returns false and changes nothing. -/
structure CountsReferences {Pool : Type} (interface : PoolInterface Pool) (client : Client Pool) :
    Prop where
  counter : ∀ address stored, interface.block client.pool address = some stored →
    stored.counter = client.handlesOf address
  freed : ∀ address, interface.block client.pool address = none ↔ client.handlesOf address = 0
  counted : (interface.counts client.pool).reserveCount =
    (interface.counts client.pool).releaseCount + interface.liveBlocks client.pool
  clean : (interface.counts client.pool).isClean = true ↔
    ∀ payload ∈ client.payloads, payload.data = none
  empty : ∀ allocated poolCall, client.allows poolCall = true →
    poolCall.requestedSize = some 0 →
      client.call interface allocated poolCall = .ok (false, client)

/-- No call has gone wrong, both pools count their references, and the two have
returned the same and left the same in the payload objects. -/
structure CountReferences (library : SerializedPayloadLibrary) (run : PoolRun) : Prop where
  counting : ∃ fast map, run.fast = .ok fast ∧ run.map = .ok map ∧
    CountsReferences fastPayloadPool fast ∧ CountsReferences (mapPayloadPool library) map ∧
    fast.observe fastPayloadPool = map.observe (mapPayloadPool library)
  returns : run.fastReturns = run.mapReturns

/-- Fewer than 2^64 payloads have been reserved, with the one of the call. -/
def FewReservations (run : PoolRun) (next : PoolStep) : Prop :=
  next.poolCall.requestedSize.isSome = true →
    (∀ fast, run.fast = .ok fast → fast.pool.counts.reserveCount + 1 < uint64Range) ∧
      ∀ map, run.map = .ok map → map.pool.counts.reserveCount + 1 < uint64Range

/-! ### Every run counts right -/

theorem Client.Counted.countsReferences {Pool : Type} {interface : PoolInterface Pool}
    {Valid : Pool → Prop} {client : Client Pool} (lawful : interface.Lawful Valid)
    (counted : client.Counted interface Valid) : CountsReferences interface client where
  counter := counted.counter
  freed := counted.freed
  counted := counted.counts
  clean := counted.isClean_iff lawful
  empty allocated poolCall allowed zero := by
    cases poolCall with
    | reserve target size =>
        cases zero
        have targetEmpty : client.payloads[target]? = some {} := of_decide_eq_true allowed
        simp only [Client.call, lawful.getPayload_zero, Functor.map, Except.map, Client.put,
          Client.getD_eq_of_getElem? targetEmpty, Client.set_of_getElem? targetEmpty]
    | copy target source =>
        simp only [Client.allows, Bool.and_eq_true, decide_eq_true_eq, Bool.not_eq_true']
          at allowed
        obtain ⟨⟨⟨targetEmpty, foreign⟩, _⟩, _⟩ := allowed
        have none : source.payload.maxSize = 0 := Option.some.inj zero
        simp only [Client.call, lawful.copy_zero _ _ _ _ foreign none, Functor.map, Except.map,
          Client.put, Client.getD_eq_of_getElem? targetEmpty, Client.set_of_getElem? targetEmpty]
    | reference target source => cases zero
    | release index => cases zero

/-- What the runs keep. -/
def PoolRun.Counted (library : SerializedPayloadLibrary) (run : PoolRun) : Prop :=
  ∃ fast map, run.fast = .ok fast ∧ run.map = .ok map ∧
    fast.Counted fastPayloadPool (fun _ => True) ∧
    map.Counted (mapPayloadPool library) MapPayloadPool.Valid ∧
    fast.observe fastPayloadPool = map.observe (mapPayloadPool library) ∧
    run.fastReturns = run.mapReturns

theorem counted_step {library : SerializedPayloadLibrary} {run after : PoolRun} {next : PoolStep}
    (counted : run.Counted library) (few : FewReservations run next)
    (taken : run.step library next = some after) : after.Counted library := by
  obtain ⟨fast, map, fastRuns, mapRuns, fastCounted, mapCounted, alike, returns⟩ := counted
  simp only [PoolRun.step, fastRuns, mapRuns] at taken
  split at taken
  · next ready =>
      simp only [Bool.and_eq_true] at ready
      obtain ⟨⟨⟨fastAllows, mapAllows⟩, fastFresh⟩, mapFresh⟩ := ready
      obtain ⟨fastResult, fastNext, fastDone, fastKept, fastShown⟩ :=
        Client.call_refines lawful_fastPayloadPool fastCounted fastFresh fastAllows
          (fun requests => (few requests).1 fast fastRuns)
      obtain ⟨mapResult, mapNext, mapDone, mapKept, mapShown⟩ :=
        Client.call_refines (lawful_mapPayloadPool library) mapCounted mapFresh mapAllows
          (fun requests => (few requests).2 map mapRuns)
      have same : (fastResult, fastNext.observe fastPayloadPool) =
          (mapResult, mapNext.observe (mapPayloadPool library)) := by
        rw [fastShown, mapShown, alike]
      obtain ⟨rfl, shown⟩ := Prod.mk.inj same
      cases taken
      refine ⟨fastNext, mapNext, ?_, ?_, fastKept, mapKept, shown, ?_⟩
      · simp only [advance, fastDone]
      · simp only [advance, mapDone]
      · simp only [advance, fastDone, mapDone, returns]
  · cases taken

/-- **Both pools count references right and agree**, along every run of calls in
which fewer than 2^64 payloads are reserved. -/
theorem countReferences_of_reachable {library : SerializedPayloadLibrary} {run : PoolRun}
    (reached : (poolRuns library).Reachable FewReservations run) :
    CountReferences library run := by
  have initially : ∀ start, (poolRuns library).Initial start → start.Counted library := by
    rintro _ ⟨number, rfl⟩
    refine ⟨_, _, rfl, rfl, Client.counted_initial lawful_fastPayloadPool number,
      Client.counted_initial (lawful_mapPayloadPool library) number, ?_, rfl⟩
    simp [Client.observe, Client.observePayload]
  have counted : run.Counted library :=
    reached.invariant initially fun _ _ _ counted few taken => counted_step counted few taken
  obtain ⟨fast, map, fastRuns, mapRuns, fastCounted, mapCounted, alike, returns⟩ := counted
  exact ⟨⟨fast, map, fastRuns, mapRuns, fastCounted.countsReferences lawful_fastPayloadPool,
    mapCounted.countsReferences (lawful_mapPayloadPool library), alike⟩, returns⟩

/-- The methods as the library documents them, also for a payload that has data. -/
def serializedPayloadLibrary : SerializedPayloadLibrary where
  reserve memory allocated newSize payload :=
    if newSize ≤ payload.maxSize then (payload, memory)
    else
      match payload.data with
      | none =>
          ({ payload with data := some allocated, maxSize := newSize },
            memory.insert allocated { size := newSize })
      | some data =>
          ({ payload with data := some allocated, maxSize := newSize },
            (memory.erase data).insert allocated {
              size := newSize
              bytes := (memory[data]?.map Data.bytes).getD [] })
  empty memory payload :=
    ({ payload with data := none, length := 0, maxSize := 0 },
      match payload.data with
      | none => memory
      | some data => memory.erase data)
  reserve_of_null memory allocated newSize payload null grows := by
    rw [if_neg (by omega)]
    simp only [null]
  empty_of_data memory payload data refers _ := by
    simp only [refers]

/-- A source of another owner that holds two bytes. -/
def foreignSource : Source where
  payload := { data := some 900, length := 2, maxSize := 8 }
  ownedByPool := false
  bytes := [5, 6]

/-- A test of `FewReservations`. -/
def fewReservations (run : PoolRun) (_ : PoolStep) : Bool :=
  match run.fast, run.map with
  | .ok fast, .ok map =>
      fast.pool.counts.reserveCount + 1 < uint64Range &&
        map.pool.counts.reserveCount + 1 < uint64Range
  | _, _ => false

theorem fewReservations_sound {run : PoolRun} {next : PoolStep}
    (passed : fewReservations run next = true) : FewReservations run next := by
  intro _
  refine ⟨fun fast fastRuns => ?_, fun map mapRuns => ?_⟩
  · unfold fewReservations at passed
    rw [fastRuns] at passed
    cases mapRuns : run.map with
    | error fault =>
        rw [mapRuns] at passed
        cases passed
    | ok map =>
        rw [mapRuns, Bool.and_eq_true] at passed
        exact of_decide_eq_true passed.1
  · unfold fewReservations at passed
    rw [mapRuns] at passed
    cases fastRuns : run.fast with
    | error fault =>
        rw [fastRuns] at passed
        cases passed
    | ok fast =>
        rw [fastRuns, Bool.and_eq_true] at passed
        exact of_decide_eq_true passed.2

/-- A payload is reserved and referenced, a source is copied and referenced, and
two handles are released. -/
theorem countReferences_of_reachable_calls :
    ∃ run : PoolRun, run.fastReturns = [true, true, true, true, true, true] ∧
      CountReferences serializedPayloadLibrary run := by
  obtain ⟨run, reached, test⟩ := System.exists_reachable_of_runAdmitted
    (poolRuns serializedPayloadLibrary)
    { fast := .ok { pool := {}, payloads := List.replicate 4 {} }
      map := .ok { pool := {}, payloads := List.replicate 4 {} } }
    [⟨.reserve 0 16, 100, 200⟩, ⟨.reference 1 0, 0, 0⟩, ⟨.copy 2 foreignSource, 140, 240⟩,
      ⟨.reference 3 2, 0, 0⟩, ⟨.release 0, 0, 0⟩, ⟨.release 2, 0, 0⟩] fewReservations
    (fun run => run.fastReturns = [true, true, true, true, true, true])
    (fun _ _ _ => fewReservations_sound) ⟨4, rfl⟩ (by decide +kernel)
  exact ⟨run, of_decide_eq_true test, countReferences_of_reachable reached⟩

/-! ### The counts wrap -/

/-- The counts after `rounds` reservations that have all been released. -/
def balanced (rounds : Nat) : PayloadPool :=
  { reserveCount := rounds, releaseCount := rounds }

/-- Both pools after `rounds` reservations that have all been released. -/
def afterRounds (rounds : Nat) (returns : List Bool) : PoolRun where
  fast := .ok { pool := { counts := balanced rounds }, payloads := [{}, {}] }
  map := .ok { pool := { counts := balanced rounds }, payloads := [{}, {}] }
  fastReturns := returns
  mapReturns := returns

/-- The fast pool, when it holds one more payload. -/
def fastHeld (rounds : Nat) : Client FastPayloadPool where
  pool := {
    counts := { reserveCount := rounds + 1, releaseCount := rounds }
    memory := TreeMap.insert ∅ 4 { referenceCount := 1, size := 1 } }
  payloads := [{ data := some 8, maxSize := 1 }, {}]

/-- The map pool, when it holds one more payload. -/
def mapHeld (rounds : Nat) : Client MapPayloadPool where
  pool := {
    counts := { reserveCount := rounds + 1, releaseCount := rounds }
    memory := TreeMap.insert ∅ 4 { size := 1 }
    reservedPayloads := TreeMap.insert ∅ (some 4) 1 }
  payloads := [{ data := some 4, maxSize := 1 }, {}]

def duringRound (rounds : Nat) (returns : List Bool) : PoolRun where
  fast := .ok (fastHeld rounds)
  map := .ok (mapHeld rounds)
  fastReturns := returns
  mapReturns := returns

theorem step_reserve_round {rounds : Nat} (small : rounds + 1 < uint64Range)
    (returns : List Bool) :
    (poolRuns serializedPayloadLibrary).step (afterRounds rounds returns) ⟨.reserve 0 1, 4, 4⟩ =
      some (duringRound rounds (returns ++ [true])) := by
  have wraps : (rounds + 1) % uint64Range = rounds + 1 := Nat.mod_eq_of_lt small
  unfold duringRound fastHeld mapHeld
  rw [← wraps]
  rfl

theorem step_release_round {rounds : Nat} (small : rounds + 1 < uint64Range)
    (returns : List Bool) :
    (poolRuns serializedPayloadLibrary).step (duringRound rounds returns) ⟨.release 0, 0, 0⟩ =
      some (afterRounds (rounds + 1) (returns ++ [true])) := by
  have released : (fastHeld rounds).pool.counts.addReleasePayload = .ok (balanced (rounds + 1)) :=
    PayloadPool.addReleasePayload_ok (Nat.lt_succ_self rounds) small
  have fast : (fastHeld rounds).call fastPayloadPool 0 (.release 0) =
      .ok (true, { pool := { counts := balanced (rounds + 1) }, payloads := [{}, {}] }) := by
    show (fastHeld rounds).put 0 <$> (fastHeld rounds).pool.releasePayload _ = _
    rw [@FastPayloadPool.releasePayload_of_last _ 4 { referenceCount := 1, size := 1 } _ _
      rfl rfl rfl released]
    rfl
  have map : (mapHeld rounds).call (mapPayloadPool serializedPayloadLibrary) 0 (.release 0) =
      .ok (true, { pool := { counts := balanced (rounds + 1) }, payloads := [{}, {}] }) := by
    show (mapHeld rounds).put 0 <$> MapPayloadPool.releasePayload serializedPayloadLibrary
      (mapHeld rounds).pool { data := some 4, maxSize := 1 } = _
    rw [@MapPayloadPool.releasePayload_of_last _ _ 4 _ _ rfl rfl TreeMap.mem_insert_self released]
    rfl
  have fastAdvance : advance fastPayloadPool (fastHeld rounds) 0 (.release 0) returns =
      (.ok { pool := { counts := balanced (rounds + 1) }, payloads := [{}, {}] },
        returns ++ [true]) := by
    simp only [advance, fast]
  have mapAdvance : advance (mapPayloadPool serializedPayloadLibrary) (mapHeld rounds) 0
      (.release 0) returns =
      (.ok { pool := { counts := balanced (rounds + 1) }, payloads := [{}, {}] },
        returns ++ [true]) := by
    simp only [advance, map]
  have ready : ((fastHeld rounds).allows (.release 0) && (mapHeld rounds).allows (.release 0) &&
      fastPayloadPool.fresh (fastHeld rounds).pool 0 &&
      (mapPayloadPool serializedPayloadLibrary).fresh (mapHeld rounds).pool 0) = true := rfl
  simp only [poolRuns, PoolRun.step, duringRound, ready, if_true, fastAdvance, mapAdvance]
  rfl

theorem reachable_afterRounds {rounds : Nat} (small : rounds < uint64Range) :
    ∃ returns, (poolRuns serializedPayloadLibrary).Reachable anyStep
      (afterRounds rounds returns) := by
  induction rounds with
  | zero => exact ⟨[], .start ⟨2, rfl⟩⟩
  | succ rounds inductionHypothesis =>
      obtain ⟨returns, reached⟩ := inductionHypothesis (by omega)
      exact ⟨_, (reached.next trivial (step_reserve_round small returns)).next trivial
        (step_release_round small _)⟩

/-- The 2^64th reservation wraps the count of reservations while two payloads are
held: the release of one of them throws. -/
theorem not_countReferences_of_reachable :
    ¬ ∀ run, (poolRuns serializedPayloadLibrary).Reachable anyStep run →
      CountReferences serializedPayloadLibrary run := by
  intro counts
  obtain ⟨returns, reached⟩ := @reachable_afterRounds (2 ^ 64 - 2) (by decide)
  obtain ⟨run, executed, thrown⟩ : ∃ run, (poolRuns serializedPayloadLibrary).run
      (afterRounds (2 ^ 64 - 2) returns)
      [⟨.reserve 0 1, 4, 4⟩, ⟨.reserve 1 1, 100, 100⟩, ⟨.release 0, 0, 0⟩] = some run ∧
      ∃ fault, run.fast = .error fault := ⟨_, rfl, _, rfl⟩
  obtain ⟨fault, faults⟩ := thrown
  obtain ⟨fast, _, succeeded, _⟩ := (counts run (reached.trans
    (System.Leads.of_run (fun _ _ _ => trivial) executed))).counting
  rw [faults] at succeeded
  cases succeeded

end DdsPipe.Efficiency.PayloadPools
