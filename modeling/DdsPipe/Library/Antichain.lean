import Mathlib.Order.Antichain

/-!
Owns the reduction of a collection under a relation that says which item covers
which: items are absorbed one after another, and what another item covers is
left out. The reduction of a list is an antichain that covers the list.

Does not own: how a collection is stored, and in which order it is searched.
-/

namespace Antichain

variable {Item : Type} (covers : Item → Item → Prop)

/-- Some item of the collection covers the item. -/
def Above (stored : Set Item) (item : Item) : Prop :=
  ∃ other ∈ stored, covers other item

/-- An item leaves a collection that covers it as it is, and otherwise takes the
place of what it covers. -/
def absorb (stored : Set Item) (new : Item) : Set Item :=
  {item | item ∈ stored ∧ (Above covers stored new ∨ ¬ covers new item) ∨
    item = new ∧ ¬ Above covers stored new}

def absorbAll (stored : Set Item) (items : List Item) : Set Item :=
  items.foldl (absorb covers) stored

variable {covers} {stored : Set Item} {new item : Item}

theorem absorb_subset : absorb covers stored new ⊆ insert new stored := by
  intro item member
  rcases member with ⟨before, _⟩ | ⟨same, _⟩
  · exact Set.mem_insert_of_mem new before
  · exact Set.mem_insert_iff.mpr (.inl same)

theorem isAntichain_absorb (antichain : IsAntichain covers stored) (new : Item) :
    IsAntichain covers (absorb covers stored new) := by
  intro item member other present different related
  rcases member with ⟨before, _⟩ | ⟨rfl, uncovered⟩
  · rcases present with ⟨there, _⟩ | ⟨rfl, uncovered⟩
    · exact antichain before there different related
    · exact uncovered ⟨item, before, related⟩
  · rcases present with ⟨_, kept⟩ | ⟨same, _⟩
    · exact kept.elim uncovered fun free => free related
    · exact different same.symm

/-- What a collection holds or covers is held or covered after an absorption. -/
theorem covered_absorb (transitive : ∀ one two three, covers one two → covers two three →
      covers one three)
    (covered : item ∈ stored ∨ Above covers stored item) (new : Item) :
    item ∈ absorb covers stored new ∨ Above covers (absorb covers stored new) item := by
  by_cases above : Above covers stored new
  · have same : absorb covers stored new = stored := by
      ext other
      simp [absorb, above]
    rw [same]
    exact covered
  · have taken : new ∈ absorb covers stored new := .inr ⟨rfl, above⟩
    -- What is left out was covered by the new item.
    rcases covered with member | ⟨other, member, related⟩
    · by_cases replaced : covers new item
      · exact .inr ⟨new, taken, replaced⟩
      · exact .inl (.inl ⟨member, .inr replaced⟩)
    · by_cases replaced : covers new other
      · exact .inr ⟨new, taken, transitive _ _ _ replaced related⟩
      · exact .inr ⟨other, .inl ⟨member, .inr replaced⟩, related⟩

theorem covered_new :
    new ∈ absorb covers stored new ∨ Above covers (absorb covers stored new) new := by
  by_cases above : Above covers stored new
  · obtain ⟨other, member, related⟩ := above
    exact .inr ⟨other, .inl ⟨member, .inl ⟨other, member, related⟩⟩, related⟩
  · exact .inl (.inr ⟨rfl, above⟩)

theorem absorbAll_subset (items : List Item) :
    absorbAll covers stored items ⊆ stored ∪ {item | item ∈ items} := by
  induction items generalizing stored with
  | nil =>
      intro item member
      exact .inl member
  | cons head tail inductionHypothesis =>
      intro item member
      rcases inductionHypothesis member with before | later
      · rcases Set.mem_insert_iff.mp (absorb_subset before) with rfl | old
        · exact .inr List.mem_cons_self
        · exact .inl old
      · exact .inr (List.mem_cons_of_mem head later)

theorem isAntichain_absorbAll (antichain : IsAntichain covers stored) (items : List Item) :
    IsAntichain covers (absorbAll covers stored items) := by
  induction items generalizing stored with
  | nil => exact antichain
  | cons head tail inductionHypothesis =>
      exact inductionHypothesis (isAntichain_absorb antichain head)

theorem covered_absorbAll (transitive : ∀ one two three, covers one two → covers two three →
      covers one three) (items : List Item)
    (covered : item ∈ items ∨ item ∈ stored ∨ Above covers stored item) :
    item ∈ absorbAll covers stored items ∨ Above covers (absorbAll covers stored items) item := by
  induction items generalizing stored with
  | nil => exact covered.resolve_left List.not_mem_nil
  | cons head tail inductionHypothesis =>
      apply inductionHypothesis
      rcases covered with member | before
      · rcases List.mem_cons.mp member with rfl | later
        · exact .inr covered_new
        · exact .inl later
      · exact .inr (covered_absorb transitive before head)

end Antichain
