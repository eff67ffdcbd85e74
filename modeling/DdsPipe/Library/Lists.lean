import Mathlib.Data.List.Forall2

/-!
Owns what lists need beyond their own lemmas:

- lists whose items are related one by one (`exists_mem_of_forall₂`,
  `map_eq_map_of_forall₂`, `exists_forall₂`);
- where a list is split at the first occurrence of an item (`split_inj`,
  `takeWhile_of_split`);
- loops all of whose rounds succeed (`mapM_eq_ok`).

Does not own: any particular item.
-/

namespace Lists

variable {First Second : Type} {Related : First → Second → Prop} {firsts : List First}
  {seconds : List Second}

/-! ### Related lists -/

/-- What is related to a member of a list, in the list that is related to it. -/
theorem exists_mem_of_forall₂ (related : List.Forall₂ Related firsts seconds) {first : First}
    (member : first ∈ firsts) : ∃ second ∈ seconds, Related first second := by
  induction related with
  | nil => cases member
  | cons here _ inductionHypothesis =>
      rcases List.mem_cons.mp member with rfl | later
      · exact ⟨_, List.mem_cons_self, here⟩
      · obtain ⟨second, there, found⟩ := inductionHypothesis later
        exact ⟨second, List.mem_cons_of_mem _ there, found⟩

/-- Lists that are related item by item are mapped to one list. -/
theorem map_eq_map_of_forall₂ {Result : Type} {result : First → Result}
    {other : Second → Result} (related : List.Forall₂ Related firsts seconds)
    (same : ∀ first ∈ firsts, ∀ second, Related first second → result first = other second) :
    firsts.map result = seconds.map other := by
  induction related with
  | nil => rfl
  | @cons first second _ _ here _ inductionHypothesis =>
      have head := same first List.mem_cons_self second here
      have tail := inductionHypothesis fun first member =>
        same first (List.mem_cons_of_mem _ member)
      rw [List.map_cons, List.map_cons, head, tail]

/-- Items that are each related to something make a list that is related to something. -/
theorem exists_forall₂ (related : ∀ second ∈ seconds, ∃ first, Related first second) :
    ∃ firsts, List.Forall₂ Related firsts seconds := by
  induction seconds with
  | nil => exact ⟨[], .nil⟩
  | cons second rest inductionHypothesis =>
      obtain ⟨first, here⟩ := related second List.mem_cons_self
      obtain ⟨firsts, later⟩ := inductionHypothesis fun second member =>
        related second (List.mem_cons_of_mem _ member)
      exact ⟨first :: firsts, .cons here later⟩

/-! ### Splitting -/

section Split

variable {Item : Type} {item : Item} {before other after rest : List Item}

/-- Where a list is split at the first occurrence of an item does not depend on what
follows. -/
theorem split_inj (absent : item ∉ before) (otherAbsent : item ∉ other)
    (same : before ++ item :: after = other ++ item :: rest) : before = other ∧ after = rest := by
  induction before generalizing other with
  | nil =>
      cases other with
      | nil => exact ⟨rfl, (List.cons.inj same).2⟩
      | cons first others =>
          have head := (List.cons.inj same).1
          rw [head] at otherAbsent
          exact absurd List.mem_cons_self otherAbsent
  | cons first before inductionHypothesis =>
      cases other with
      | nil =>
          have head := (List.cons.inj same).1
          rw [head] at absent
          exact absurd List.mem_cons_self absent
      | cons otherFirst others =>
          obtain ⟨rfl, tails⟩ := List.cons.inj same
          rw [List.mem_cons, not_or] at absent otherAbsent
          obtain ⟨rfl, rests⟩ := inductionHypothesis absent.2 otherAbsent.2 tails
          exact ⟨rfl, rests⟩

/-- The parts of a list that is split at the first occurrence of an item. -/
theorem takeWhile_of_split [BEq Item] [LawfulBEq Item] (absent : item ∉ before)
    (after : List Item) :
    (before ++ item :: after).takeWhile (· != item) = before ∧
      (before ++ item :: after).dropWhile (· != item) = item :: after := by
  have passes : ∀ passed ∈ before, (passed != item) = true := by
    intro passed member
    rw [bne_iff_ne]
    exact fun same => absent (same ▸ member)
  rw [List.takeWhile_append_of_pos passes, List.dropWhile_append_of_pos passes]
  simp

end Split

/-! ### Loops -/

/-- What a loop yields whose rounds all succeed. -/
theorem mapM_eq_ok {Failure Item Result : Type} {body : Item → Except Failure Result}
    {result : Item → Result} {items : List Item}
    (succeeds : ∀ item ∈ items, body item = .ok (result item)) :
    items.mapM body = .ok (items.map result) := by
  induction items with
  | nil => rfl
  | cons first rest inductionHypothesis =>
      have later := inductionHypothesis fun item member =>
        succeeds item (List.mem_cons_of_mem _ member)
      rw [List.mapM_cons, succeeds first List.mem_cons_self, later]
      rfl

end Lists
