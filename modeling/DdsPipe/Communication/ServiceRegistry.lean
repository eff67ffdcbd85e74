import DdsPipe.Types.Endpoint

/-!
Owns the registry of one proxy client: the bounded map from the sequence number
of each request that the client sent to the participant that received the
request and the identity its reply has to carry.

Does not own: the mutex under which a transmission reads and extends it.
-/

namespace DdsPipe.Communication

open Std (TreeMap)
open DdsPipe.Types

abbrev SequenceNumber := Nat

/-- `SampleIdentity`: the writer of a sample and its sequence number there. -/
structure SampleIdentity where
  writerGuid : Guid := ⟨0, 0⟩
  sequenceNumber : SequenceNumber := 0
deriving DecidableEq, Repr

/-- `DEFAULT_MAX_ENTRIES_`. -/
def defaultMaxEntries : Nat := 5000

structure ServiceRegistry where
  enabled : Bool := false
  registry : TreeMap SequenceNumber (ParticipantId × SampleIdentity) := ∅

namespace ServiceRegistry

def enable (registry : ServiceRegistry) : ServiceRegistry :=
  { registry with enabled := true }

def disable (registry : ServiceRegistry) : ServiceRegistry :=
  { registry with enabled := false }

/-- An entry that is present stays; a registry that becomes full drops its
oldest entry. -/
def add (registry : ServiceRegistry) (idx : SequenceNumber)
    (newEntry : ParticipantId × SampleIdentity) : ServiceRegistry :=
  if registry.registry.contains idx then registry
  else
    let extended := registry.registry.insert idx newEntry
    if extended.size == defaultMaxEntries then
      { registry with registry := match extended.minKey? with
        | some oldest => extended.erase oldest
        | none => extended }
    else { registry with registry := extended }

/-- The empty participant id stands for an absent entry. -/
def get (registry : ServiceRegistry) (idx : SequenceNumber) : ParticipantId × SampleIdentity :=
  registry.registry[idx]?.getD ("", {})

def erase (registry : ServiceRegistry) (idx : SequenceNumber) : ServiceRegistry :=
  { registry with registry := registry.registry.erase idx }

@[simp] theorem enabled_add (registry : ServiceRegistry) (idx : SequenceNumber)
    (newEntry : ParticipantId × SampleIdentity) :
    (registry.add idx newEntry).enabled = registry.enabled := by
  unfold add
  split
  · rfl
  · dsimp only
    split <;> rfl

@[simp] theorem enabled_erase (registry : ServiceRegistry) (idx : SequenceNumber) :
    (registry.erase idx).enabled = registry.enabled := rfl

/-- Every entry after an addition was there before, or is the new one. -/
theorem getElem?_add {registry : ServiceRegistry} {idx other : SequenceNumber}
    {newEntry entry : ParticipantId × SampleIdentity}
    (found : (registry.add idx newEntry).registry[other]? = some entry) :
    registry.registry[other]? = some entry ∨ other = idx ∧ entry = newEntry := by
  have inserted : ∀ {entry}, (registry.registry.insert idx newEntry)[other]? = some entry →
      registry.registry[other]? = some entry ∨ other = idx ∧ entry = newEntry := by
    intro entry found
    by_cases same : other = idx
    · subst same
      rw [TreeMap.getElem?_insert_self] at found
      exact .inr ⟨rfl, (Option.some.inj found).symm⟩
    · rw [OrderedMap.getElem?_insert_of_ne same] at found
      exact .inl found
  unfold add at found
  split at found
  · exact .inl found
  · dsimp only at found
    split at found
    · split at found
      · next oldest _ =>
          by_cases same : other = oldest
          · subst same
            rw [TreeMap.getElem?_erase_self] at found
            cases found
          · rw [OrderedMap.getElem?_erase_of_ne same] at found
            exact inserted found
      · exact inserted found
    · exact inserted found

theorem getElem?_erase {registry : ServiceRegistry} {idx other : SequenceNumber}
    {entry : ParticipantId × SampleIdentity}
    (found : (registry.erase idx).registry[other]? = some entry) :
    other ≠ idx ∧ registry.registry[other]? = some entry := by
  by_cases same : other = idx
  · subst same
    rw [erase, TreeMap.getElem?_erase_self] at found
    cases found
  · rw [erase, OrderedMap.getElem?_erase_of_ne same] at found
    exact ⟨same, found⟩

end ServiceRegistry

end DdsPipe.Communication
