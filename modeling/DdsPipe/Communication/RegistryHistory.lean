import DdsPipe.Communication.ServiceRegistry
import DdsPipe.Library.OrderedMap

/-!
Owns sequences of calls on one registry: how many entries it holds, and that it
forgets the oldest only (`boundedMap_of_addsInOrder`).

The numbers that a writer returns grow, so the least number in the registry is the
oldest. That is the condition under which the registry is used (`AddsInOrder`),
and the calls alone do not ensure it.

Does not own: who adds and erases entries.
-/

namespace DdsPipe.Communication

open Std (TreeMap)
open DdsPipe.Types

inductive RegistryCall where
  | add (idx : SequenceNumber) (newEntry : ParticipantId × SampleIdentity)
  | get (idx : SequenceNumber)
  | erase (idx : SequenceNumber)
deriving DecidableEq, Repr

namespace ServiceRegistry

/-! ### Sequences of calls -/

def call (registry : ServiceRegistry) : RegistryCall → ServiceRegistry
  | .add idx newEntry => registry.add idx newEntry
  | .get _ => registry
  | .erase idx => registry.erase idx

def callAll (registry : ServiceRegistry) (calls : List RegistryCall) : ServiceRegistry :=
  calls.foldl call registry

/-- The numbers of the entries that are added, which are not present before. -/
def newlyAdded (registry : ServiceRegistry) : List RegistryCall → List SequenceNumber
  | [] => []
  | .add idx newEntry :: rest =>
      if registry.registry.contains idx then newlyAdded (registry.add idx newEntry) rest
      else idx :: newlyAdded (registry.add idx newEntry) rest
  | .get _ :: rest => newlyAdded registry rest
  | .erase idx :: rest => newlyAdded (registry.erase idx) rest

/-- Each number that is added is present, or larger than all added before. -/
def AddsInOrder (registry : ServiceRegistry) (added : List SequenceNumber) :
    List RegistryCall → Prop
  | [] => True
  | .add idx newEntry :: rest =>
      (registry.registry.contains idx = true ∨ ∀ earlier ∈ added, earlier < idx) ∧
        AddsInOrder (registry.add idx newEntry) (idx :: added) rest
  | .get _ :: rest => AddsInOrder registry added rest
  | .erase idx :: rest => AddsInOrder (registry.erase idx) added rest

instance decidableAddsInOrder (registry : ServiceRegistry) (added : List SequenceNumber) :
    (calls : List RegistryCall) → Decidable (AddsInOrder registry added calls)
  | [] => isTrue trivial
  | .add idx newEntry :: rest =>
      let := decidableAddsInOrder (registry.add idx newEntry) (idx :: added) rest
      inferInstanceAs (Decidable ((registry.registry.contains idx = true ∨
        ∀ earlier ∈ added, earlier < idx) ∧ AddsInOrder _ _ rest))
  | .get _ :: rest => decidableAddsInOrder registry added rest
  | .erase idx :: rest => decidableAddsInOrder (registry.erase idx) added rest

/-- What the registry is after a sequence of calls. -/
structure BoundedMap (calls : List RegistryCall) : Prop where
  bounded : (callAll {} calls).registry.size ≤ defaultMaxEntries - 1
  /-- An entry that is not erased is there until `defaultMaxEntries - 1` others
  have been added. -/
  keeps : ∀ before idx newEntry after, calls = before ++ .add idx newEntry :: after →
    (callAll {} before).registry.contains idx = false → .erase idx ∉ after →
      (newlyAdded (callAll {} (before ++ [.add idx newEntry])) after).length <
          defaultMaxEntries - 1 →
        (callAll {} calls).get idx = newEntry
  repeated : ∀ idx newEntry, (callAll {} calls).registry.contains idx = true →
    (callAll {} calls).add idx newEntry = callAll {} calls
  eraseAbsent : ∀ idx, (callAll {} calls).registry.contains idx = false →
    ∀ other : SequenceNumber, ((callAll {} calls).erase idx).registry[other]? =
      (callAll {} calls).registry[other]?
  getAbsent : ∀ idx, (callAll {} calls).registry.contains idx = false →
    ((callAll {} calls).get idx).1 = ""

/-! ### One addition -/

variable {registry : ServiceRegistry} {idx : SequenceNumber}
  {newEntry : ParticipantId × SampleIdentity}

theorem add_of_contains (present : registry.registry.contains idx = true) :
    registry.add idx newEntry = registry := by
  rw [add, if_pos present]

/-- A new entry is inserted, and the least one is dropped from a full registry. -/
theorem add_cases (newEntry : ParticipantId × SampleIdentity)
    (absent : registry.registry.contains idx = false) :
    registry.registry.size + 1 ≠ defaultMaxEntries ∧
        (registry.add idx newEntry).registry = registry.registry.insert idx newEntry ∨
      ∃ oldest ∈ registry.registry.insert idx newEntry,
        registry.registry.size + 1 = defaultMaxEntries ∧
          (∀ other ∈ registry.registry.insert idx newEntry, oldest ≤ other) ∧
            (registry.add idx newEntry).registry =
              (registry.registry.insert idx newEntry).erase oldest := by
  have grown : (registry.registry.insert idx newEntry).size = registry.registry.size + 1 := by
    rw [TreeMap.size_insert, absent]
    rfl
  unfold add
  rw [if_neg (by simp [absent])]
  dsimp only
  by_cases full : registry.registry.size + 1 = defaultMaxEntries
  · right
    rw [if_pos (by rw [grown, full]; rfl)]
    cases least : (registry.registry.insert idx newEntry).minKey? with
    | none => simp at least
    | some oldest =>
        obtain ⟨member, below⟩ := TreeMap.minKey?_eq_some_iff_mem_and_forall.mp least
        refine ⟨oldest, member, full, fun other there => ?_, rfl⟩
        exact Nat.isLE_compare.mp (below other there)
  · left
    rw [if_neg (by rw [grown]; simpa using full)]
    exact ⟨full, rfl⟩

theorem size_add_le (bounded : registry.registry.size ≤ defaultMaxEntries - 1) :
    (registry.add idx newEntry).registry.size ≤ defaultMaxEntries - 1 := by
  cases present : registry.registry.contains idx with
  | true =>
      rw [add_of_contains present]
      exact bounded
  | false =>
      have grown : (registry.registry.insert idx newEntry).size ≤ registry.registry.size + 1 :=
        TreeMap.size_insert_le
      rcases add_cases newEntry present with
        ⟨room, inserted⟩ | ⟨oldest, member, full, _, dropped⟩
      · rw [inserted]
        unfold defaultMaxEntries at *
        omega
      · rw [dropped, TreeMap.size_erase, if_pos (TreeMap.contains_iff_mem.mpr member)]
        omega

/-! ### An entry that stays -/

/-- An entry is present, and all that are above it were added later. -/
structure Holds (registry : ServiceRegistry) (idx : SequenceNumber)
    (entry : ParticipantId × SampleIdentity) (later : List SequenceNumber) : Prop where
  found : registry.registry[idx]? = some entry
  above : ∀ other ∈ registry.registry, other ≤ idx ∨ other ∈ later

/-- With few entries above it, an entry is not the least of a full map. -/
theorem least_ne_of_few {map : TreeMap SequenceNumber (ParticipantId × SampleIdentity)}
    {oldest : SequenceNumber} {later : List SequenceNumber} (full : map.size = defaultMaxEntries)
    (least : ∀ other ∈ map, oldest ≤ other)
    (above : ∀ other ∈ map, other ≤ idx ∨ other ∈ later)
    (few : later.length < defaultMaxEntries - 1) : oldest ≠ idx := by
  rintro rfl
  have within : ∀ other ∈ map, other ∈ oldest :: later := by
    intro other member
    rcases above other member with below | after
    · rw [Nat.le_antisymm below (least other member)]
      exact List.mem_cons_self
    · exact List.mem_cons_of_mem _ after
  have atMost := OrderedMap.size_le_length within
  rw [full, List.length_cons] at atMost
  omega

/-- What is inserted does not push out an entry with few above it. -/
theorem Holds.add_of_insert {later : List SequenceNumber} {held : SequenceNumber}
    {entry : ParticipantId × SampleIdentity} (absent : registry.registry.contains idx = false)
    (found : (registry.registry.insert idx newEntry)[held]? = some entry)
    (above : ∀ other ∈ registry.registry.insert idx newEntry, other ≤ held ∨ other ∈ later)
    (few : later.length < defaultMaxEntries - 1) :
    (registry.add idx newEntry).Holds held entry later := by
  rcases add_cases newEntry absent with
    ⟨_, inserted⟩ | ⟨oldest, _, full, least, dropped⟩
  · constructor
    · rw [inserted]
      exact found
    · rw [inserted]
      exact above
  · have grown : (registry.registry.insert idx newEntry).size = defaultMaxEntries := by
      rw [TreeMap.size_insert, absent]
      exact full
    have different := least_ne_of_few grown least above few
    constructor
    · rw [dropped, OrderedMap.getElem?_erase_of_ne different.symm]
      exact found
    · intro other member
      rw [dropped, OrderedMap.mem_erase_iff] at member
      exact above other member.2

/-- A new entry above all others is present once it has been added. -/
theorem holds_add (absent : registry.registry.contains idx = false)
    (largest : ∀ other ∈ registry.registry, other < idx) :
    (registry.add idx newEntry).Holds idx newEntry [] := by
  apply Holds.add_of_insert absent TreeMap.getElem?_insert_self
  · intro other member
    left
    rcases OrderedMap.mem_insert_iff.mp member with rfl | before
    · exact Nat.le_refl _
    · exact Nat.le_of_lt (largest other before)
  · decide

/-- One more addition above an entry. -/
theorem Holds.add {held : SequenceNumber} {entry : ParticipantId × SampleIdentity}
    {later : List SequenceNumber} (holds : registry.Holds held entry later)
    (absent : registry.registry.contains idx = false) (larger : held < idx)
    (few : later.length + 1 < defaultMaxEntries - 1) :
    (registry.add idx newEntry).Holds held entry (idx :: later) := by
  apply Holds.add_of_insert absent
  · rw [OrderedMap.getElem?_insert_of_ne (Nat.ne_of_lt larger)]
    exact holds.found
  · intro other member
    rcases OrderedMap.mem_insert_iff.mp member with rfl | before
    · exact .inr List.mem_cons_self
    · exact (holds.above other before).imp_right (List.mem_cons_of_mem _)
  · exact few

theorem Holds.erase {held : SequenceNumber} {entry : ParticipantId × SampleIdentity}
    {later : List SequenceNumber} (holds : registry.Holds held entry later)
    (different : idx ≠ held) : (registry.erase idx).Holds held entry later := by
  constructor
  · rw [ServiceRegistry.erase, OrderedMap.getElem?_erase_of_ne different.symm]
    exact holds.found
  · intro other member
    exact holds.above other (OrderedMap.mem_erase_iff.mp member).2

/-- **An entry stays** while it is not erased and few others are added. -/
theorem Holds.callAll {held : SequenceNumber} {entry : ParticipantId × SampleIdentity}
    {calls : List RegistryCall} {added later : List SequenceNumber}
    (holds : registry.Holds held entry later) (among : held ∈ added)
    (ordered : registry.AddsInOrder added calls) (notErased : .erase held ∉ calls)
    (few : later.length + (registry.newlyAdded calls).length < defaultMaxEntries - 1) :
    (registry.callAll calls).registry[held]? = some entry := by
  induction calls generalizing registry added later with
  | nil => exact holds.found
  | cons first rest inductionHypothesis =>
      rw [List.mem_cons, not_or] at notErased
      obtain ⟨notFirst, notRest⟩ := notErased
      cases first with
      | add idx newEntry =>
          obtain ⟨inOrder, ordered⟩ := ordered
          have among : held ∈ idx :: added := List.mem_cons_of_mem _ among
          cases present : registry.registry.contains idx with
          | true =>
              rw [newlyAdded, if_pos present] at few
              refine inductionHypothesis ?_ among ordered notRest few
              rw [call, add_of_contains present]
              exact holds
          | false =>
              rw [newlyAdded, if_neg (by simp [present]), List.length_cons] at few
              have larger : held < idx := by
                rcases inOrder with there | larger
                · rw [present] at there
                  cases there
                · exact larger held ‹_›
              refine inductionHypothesis
                (holds.add present larger (by omega)) among ordered notRest ?_
              rw [call, List.length_cons]
              omega
      | get idx => exact inductionHypothesis holds among ordered notRest few
      | erase idx =>
          have different : idx ≠ held := by
            rintro rfl
            exact notFirst rfl
          exact inductionHypothesis (holds.erase different) among ordered notRest few

/-! ### Sequences of calls from the empty registry -/

/-- What is present has been added, and what is left of the calls is in order. -/
theorem addsInOrder_suffix {before after : List RegistryCall} {added : List SequenceNumber}
    (known : ∀ other ∈ registry.registry, other ∈ added)
    (ordered : registry.AddsInOrder added (before ++ after)) :
    ∃ added, (∀ other ∈ (registry.callAll before).registry, other ∈ added) ∧
      (registry.callAll before).AddsInOrder added after := by
  induction before generalizing registry added with
  | nil => exact ⟨added, known, ordered⟩
  | cons first rest inductionHypothesis =>
      cases first with
      | add idx newEntry =>
          refine inductionHypothesis (fun other member => ?_) ordered.2
          obtain ⟨entry, found⟩ := OrderedMap.mem_iff_exists_getElem?.mp member
          rcases getElem?_add found with before | ⟨same, _⟩
          · apply List.mem_cons_of_mem
            exact known other (OrderedMap.mem_iff_exists_getElem?.mpr ⟨entry, before⟩)
          · rw [same]
            exact List.mem_cons_self
      | get idx => exact inductionHypothesis known ordered
      | erase idx =>
          refine inductionHypothesis (fun other member => ?_) ordered
          exact known other (OrderedMap.mem_erase_iff.mp member).2

theorem size_callAll_le {calls : List RegistryCall}
    (bounded : registry.registry.size ≤ defaultMaxEntries - 1) :
    (registry.callAll calls).registry.size ≤ defaultMaxEntries - 1 := by
  induction calls generalizing registry with
  | nil => exact bounded
  | cons first rest inductionHypothesis =>
      apply inductionHypothesis
      cases first with
      | add idx newEntry => exact size_add_le bounded
      | get idx => exact bounded
      | erase idx =>
          apply Nat.le_trans _ bounded
          exact TreeMap.size_erase_le

theorem callAll_append (calls others : List RegistryCall) :
    registry.callAll (calls ++ others) = (registry.callAll calls).callAll others :=
  List.foldl_append

/-- **A bounded map that forgets only its oldest entries.** -/
theorem boundedMap_of_addsInOrder {calls : List RegistryCall}
    (ordered : AddsInOrder {} [] calls) : BoundedMap calls where
  bounded := size_callAll_le (by simp)
  keeps before idx newEntry after split absent notErased few := by
    have empty : ∀ other ∈ ({} : ServiceRegistry).registry, other ∈ ([] : List SequenceNumber) := by
      simp
    rw [split] at ordered
    obtain ⟨added, known, ordered⟩ := addsInOrder_suffix empty ordered
    obtain ⟨inOrder, ordered⟩ := ordered
    have largest : ∀ other ∈ (callAll {} before).registry, other < idx := by
      rcases inOrder with there | largest
      · rw [absent] at there
        cases there
      · intro other member
        exact largest other (known other member)
    rw [callAll_append] at few
    have found := (holds_add absent largest).callAll List.mem_cons_self ordered notErased
      (by rw [List.length_nil, Nat.zero_add]; exact few)
    rw [split, callAll_append, get]
    exact congrArg (Option.getD · _) found
  repeated idx newEntry present := add_of_contains present
  eraseAbsent idx absent other := by
    by_cases same : other = idx
    · subst same
      rw [erase, TreeMap.getElem?_erase_self, eq_comm,
        TreeMap.getElem?_eq_none_of_contains_eq_false]
      exact absent
    · rw [erase, OrderedMap.getElem?_erase_of_ne same]
  getAbsent idx absent := by
    rw [get, TreeMap.getElem?_eq_none_of_contains_eq_false absent]
    rfl

/-- An entry that is erased, and one that stays. -/
theorem boundedMap_of_addsInOrder_erased :
    BoundedMap [.add 1 ("a", {}), .add 2 ("b", {}), .erase 1, .add 2 ("c", {}), .get 2,
      .add 5 ("d", {})] :=
  boundedMap_of_addsInOrder (by decide +kernel)

end ServiceRegistry

end DdsPipe.Communication
