import DdsPipe.Types.Topic

/-!
Owns what the searches of `std::string` and the replacement of literals compute,
for any text: the positions of a pattern, the last of them, and how a replacement
goes over a text that is put together of two.

A literal that begins before the seam of two texts and ends after it would be
found in the whole and in neither part (`Straddles`). Where no literal does, the
parts are replaced on their own (`regexReplaceFrom_append`).

Does not own: the patterns of service topics.
-/

namespace DdsPipe.Types

/-! ### Positions of a pattern -/

section Positions

variable {pattern text : List Char} {start position : Nat}

theorem mem_occurrences_iff : position ∈ occurrences pattern start text ↔
    ∃ offset, position = start + offset ∧ offset ≤ text.length ∧ pattern <+: text.drop offset := by
  induction text generalizing start with
  | nil =>
      unfold occurrences
      simp only [List.isPrefixOf_iff_prefix]
      constructor
      · intro member
        split at member
        · next empty => exact ⟨0, by simpa using member, le_rfl, empty⟩
        · cases member
      · intro found
        obtain ⟨offset, rfl, bound, empty⟩ := found
        have zero : offset = 0 := Nat.le_zero.mp bound
        subst zero
        rw [List.drop_nil] at empty
        rw [if_pos empty]
        exact List.mem_singleton_self _
  | cons head tail inductionHypothesis =>
      unfold occurrences
      simp only [List.isPrefixOf_iff_prefix]
      have later : position ∈ occurrences pattern (start + 1) tail ↔
          ∃ offset, position = start + (offset + 1) ∧ offset + 1 ≤ (head :: tail).length ∧
            pattern <+: (head :: tail).drop (offset + 1) := by
        rw [inductionHypothesis]
        apply exists_congr
        intro offset
        have shifted : start + 1 + offset = start + (offset + 1) := by omega
        rw [List.length_cons, List.drop_succ_cons, Nat.add_le_add_iff_right, shifted]
      have here : pattern <+: head :: tail ↔ pattern <+: (head :: tail).drop 0 := Iff.rfl
      constructor
      · intro member
        split at member
        · next first =>
            rcases List.mem_cons.mp member with rfl | rest
            · exact ⟨0, rfl, Nat.zero_le _, first⟩
            · obtain ⟨offset, found⟩ := later.mp rest
              exact ⟨offset + 1, found⟩
        · obtain ⟨offset, found⟩ := later.mp member
          exact ⟨offset + 1, found⟩
      · intro found
        obtain ⟨offset, same, bound, occurs⟩ := found
        cases offset with
        | zero =>
            rw [if_pos (here.mpr occurs), same]
            exact List.mem_cons_self
        | succ rest =>
            have member := later.mpr ⟨rest, same, bound, occurs⟩
            split
            · exact List.mem_cons_of_mem _ member
            · exact member

theorem pairwise_occurrences (pattern text : List Char) (start : Nat) :
    (occurrences pattern start text).Pairwise (· < ·) := by
  induction text generalizing start with
  | nil =>
      unfold occurrences
      split
      · exact List.pairwise_singleton _ _
      · exact .nil
  | cons head tail inductionHypothesis =>
      unfold occurrences
      split
      · apply List.pairwise_cons.mpr
        refine ⟨?_, inductionHypothesis (start + 1)⟩
        intro position member
        obtain ⟨offset, rfl, _⟩ := mem_occurrences_iff.mp member
        omega
      · exact inductionHypothesis (start + 1)

end Positions

/-! ### The first and the last position -/

/-- `text` is short enough for `std::string`, whose positions are below `npos`. -/
def Representable (text : String) : Prop := text.length < npos

instance (text : String) : Decidable (Representable text) :=
  inferInstanceAs (Decidable (text.length < npos))

section Searches

variable {text pattern : String}

/-- The text starts with the pattern. -/
theorem find_eq_zero_iff : find text pattern = 0 ↔ pattern.toList <+: text.toList := by
  have first : 0 ∈ occurrences pattern.toList 0 text.toList ↔ pattern.toList <+: text.toList := by
    rw [mem_occurrences_iff]
    constructor
    · intro found
      obtain ⟨offset, same, _, occurs⟩ := found
      have zero : offset = 0 := by omega
      subst zero
      exact occurs
    · intro occurs
      exact ⟨0, rfl, Nat.zero_le _, occurs⟩
  have ascending := pairwise_occurrences pattern.toList text.toList 0
  rw [← first]
  unfold find
  cases listed : occurrences pattern.toList 0 text.toList with
  | nil => simp [npos, sizeTypeRange]
  | cons head tail =>
      rw [listed] at ascending
      simp only [List.head?_cons, Option.getD_some]
      constructor
      · intro zero
        exact zero ▸ List.mem_cons_self
      · intro member
        rcases List.mem_cons.mp member with same | later
        · exact same.symm
        · have less := (List.pairwise_cons.mp ascending).1 0 later
          omega

/-- `rfind` is the last position of the pattern, or `npos`. -/
theorem rfind_cases (text pattern : String) :
    (∃ position, rfind text pattern = position ∧ position ≤ text.length ∧
      pattern.toList <+: text.toList.drop position ∧
      ∀ later ≤ text.length, pattern.toList <+: text.toList.drop later → later ≤ position) ∨
    rfind text pattern = npos ∧
      ∀ position ≤ text.length, ¬ pattern.toList <+: text.toList.drop position := by
  have member (position : Nat) : position ∈ occurrences pattern.toList 0 text.toList ↔
      position ≤ text.length ∧ pattern.toList <+: text.toList.drop position := by
    rw [mem_occurrences_iff]
    simp [String.length_toList]
  have ascending := pairwise_occurrences pattern.toList text.toList 0
  rcases List.eq_nil_or_concat (occurrences pattern.toList 0 text.toList) with none | more
  · refine .inr ⟨by simp [rfind, none], ?_⟩
    intro position bound occurs
    have impossible := (member position).mpr ⟨bound, occurs⟩
    rw [none] at impossible
    cases impossible
  · obtain ⟨front, last, listed⟩ := more
    rw [List.concat_eq_append] at listed
    have found := (member last).mp (by simp [listed])
    refine .inl ⟨last, by simp [rfind, listed], found.1, found.2, ?_⟩
    intro later bound occurs
    have present := (member later).mpr ⟨bound, occurs⟩
    rw [listed] at present ascending
    rcases List.mem_append.mp present with before | same
    · exact Nat.le_of_lt ((List.pairwise_append.mp ascending).2.2 later before last
        (List.mem_singleton_self last))
    · exact (List.mem_singleton.mp same).le

end Searches

/-- The only pattern at the end of a text is the end of the text. -/
theorem eq_drop_of_prefix_drop {pattern text : List Char} {position : Nat}
    (occurs : pattern <+: text.drop position)
    (reaches : position + pattern.length = text.length) : pattern = text.drop position := by
  apply occurs.eq_of_length
  rw [List.length_drop]
  omega

/-! ### Replacement across a seam -/

/-- The literal begins in `left` and ends in `right`, at the seam of the two. -/
def Straddles (literal left right : List Char) : Prop :=
  ∃ first second, literal = first ++ second ∧ first ≠ [] ∧ second ≠ [] ∧
    first <:+ left ∧ second <+: right

/-- No literal begins with an end of `left` and goes on. -/
def ClosedAfter (literals : List (List Char)) (left : List Char) : Prop :=
  ∀ literal ∈ literals, ∀ first ∈ literal.inits, first ≠ [] → first ≠ literal → ¬ first <:+ left

/-- No literal has begun before and ends with a beginning of `right`. -/
def ClosedBefore (literals : List (List Char)) (right : List Char) : Prop :=
  ∀ literal ∈ literals, ∀ second ∈ literal.tails, second ≠ [] → second ≠ literal →
    ¬ second <+: right

instance (literals : List (List Char)) (left : List Char) :
    Decidable (ClosedAfter literals left) :=
  inferInstanceAs (Decidable (∀ literal ∈ literals, ∀ first ∈ literal.inits, first ≠ [] →
    first ≠ literal → ¬ first <:+ left))

instance (literals : List (List Char)) (right : List Char) :
    Decidable (ClosedBefore literals right) :=
  inferInstanceAs (Decidable (∀ literal ∈ literals, ∀ second ∈ literal.tails, second ≠ [] →
    second ≠ literal → ¬ second <+: right))

section Replacement

variable {literals : List (List Char)} {replacement left right text : List Char}
  {literal : List Char} {skip : Nat}

theorem ClosedAfter.not_straddles (closed : ClosedAfter literals left)
    (member : literal ∈ literals) (right : List Char) : ¬ Straddles literal left right := by
  intro straddles
  obtain ⟨first, second, rfl, nonempty, more, ends, _⟩ := straddles
  apply closed _ member first ((List.mem_inits _ _).mpr (List.prefix_append _ _)) nonempty ?_ ends
  intro same
  exact more (List.self_eq_append_right.mp same)

theorem ClosedBefore.not_straddles (closed : ClosedBefore literals right)
    (member : literal ∈ literals) (left : List Char) : ¬ Straddles literal left right := by
  intro straddles
  obtain ⟨first, second, rfl, nonempty, more, _, begins⟩ := straddles
  apply closed _ member second ((List.mem_tails _ _).mpr (List.suffix_append _ _)) more ?_ begins
  intro same
  exact nonempty (List.self_eq_append_left.mp same)

theorem regexReplaceFrom_cons (head : Char) (tail : List Char) :
    regexReplaceFrom literals replacement 0 (head :: tail) =
      match literals.find? fun literal => literal.isPrefixOf (head :: tail) with
      | some literal =>
          replacement ++ regexReplaceFrom literals replacement (literal.length - 1) tail
      | none => head :: regexReplaceFrom literals replacement 0 tail := rfl

theorem mem_and_prefix_of_find?
    (found : (literals.find? fun literal => literal.isPrefixOf text) = some literal) :
    literal ∈ literals ∧ literal <+: text :=
  ⟨List.mem_of_find?_eq_some found, List.isPrefixOf_iff_prefix.mp
    (List.find?_some (p := fun literal : List Char => literal.isPrefixOf text) found)⟩

/-- Where a literal is found in a whole that it does not straddle. -/
theorem prefix_append_iff (nonempty : left ≠ []) (apart : ¬ Straddles literal left right) :
    literal <+: left ++ right ↔ literal <+: left := by
  constructor
  · intro found
    obtain ⟨rest, same⟩ := found
    rcases List.append_eq_append_iff.mp same with ⟨inside, rfl, _⟩ | ⟨beyond, rfl, begins⟩
    · exact List.prefix_append _ _
    · by_cases done : beyond = []
      · rw [done, List.append_nil]
      · exact absurd
          ⟨left, beyond, rfl, nonempty, done, List.suffix_refl _, rest, begins.symm⟩ apart
  · intro found
    exact found.trans (List.prefix_append _ _)

/-- The parts are replaced on their own where no literal straddles their seam. -/
theorem regexReplaceFrom_append
    (apart : ∀ literal ∈ literals, ¬ Straddles literal left right) (inside : skip ≤ left.length) :
    regexReplaceFrom literals replacement skip (left ++ right) =
      regexReplaceFrom literals replacement skip left ++
        regexReplaceFrom literals replacement 0 right := by
  induction left generalizing skip with
  | nil =>
      have zero : skip = 0 := Nat.le_zero.mp inside
      subst zero
      rfl
  | cons head tail inductionHypothesis =>
      have rest : ∀ literal ∈ literals, ¬ Straddles literal tail right := by
        intro literal member straddles
        obtain ⟨first, second, same, begun, more, ends, begins⟩ := straddles
        exact apart literal member
          ⟨first, second, same, begun, more, ends.trans (List.suffix_cons _ _), begins⟩
      cases skip with
      | succ skip => exact inductionHypothesis rest (Nat.le_of_succ_le_succ inside)
      | zero =>
          have sameFind :
              (literals.find? fun literal => literal.isPrefixOf (head :: (tail ++ right))) =
              literals.find? fun literal => literal.isPrefixOf (head :: tail) := by
            apply List.find?_congr
            intro literal member
            rw [Bool.eq_iff_iff, List.isPrefixOf_iff_prefix, List.isPrefixOf_iff_prefix]
            exact prefix_append_iff (List.cons_ne_nil _ _) (apart literal member)
          rw [List.cons_append, regexReplaceFrom_cons, regexReplaceFrom_cons, sameFind]
          cases found : literals.find? fun literal => literal.isPrefixOf (head :: tail) with
          | none =>
              have after := @inductionHypothesis 0 rest (Nat.zero_le _)
              simp only [after, List.cons_append]
          | some literal =>
              have occurs := (mem_and_prefix_of_find? found).2
              have short : literal.length - 1 ≤ tail.length := by
                have bound := occurs.length_le
                rw [List.length_cons] at bound
                omega
              simp only [inductionHypothesis rest short, List.append_assoc]

/-- A text between two others. -/
theorem regexReplaceFrom_between (after : ClosedAfter literals left)
    (before : ClosedBefore literals right) :
    regexReplaceFrom literals replacement 0 (left ++ text ++ right) =
      regexReplaceFrom literals replacement 0 left ++
        regexReplaceFrom literals replacement 0 text ++
          regexReplaceFrom literals replacement 0 right := by
  rw [List.append_assoc, regexReplaceFrom_append
    (fun _ member => after.not_straddles member _) (Nat.zero_le _),
    regexReplaceFrom_append (fun _ member => before.not_straddles member _)
      (Nat.zero_le _), List.append_assoc]

/-! ### Texts that a replacement leaves alone -/

theorem regexReplaceFrom_of_absent (absent : ∀ literal ∈ literals, ¬ literal <:+: text) :
    regexReplaceFrom literals replacement 0 text = text := by
  induction text with
  | nil => rfl
  | cons head tail inductionHypothesis =>
      have unfound : (literals.find? fun literal => literal.isPrefixOf (head :: tail)) = none := by
        apply List.find?_eq_none.mpr
        intro literal member occurs
        exact absent literal member (List.isPrefixOf_iff_prefix.mp occurs).isInfix
      have rest := inductionHypothesis fun literal member occurs =>
        absent literal member (occurs.trans (List.suffix_cons _ _).isInfix)
      simp only [regexReplaceFrom_cons, unfound, rest]

/-- A literal that occurs is found at the head or in the tail. -/
theorem occurs_tail_of_find?_eq_none {head : Char} {tail : List Char}
    (unfound : (literals.find? fun literal => literal.isPrefixOf (head :: tail)) = none)
    (member : literal ∈ literals) (occurs : literal <:+: head :: tail) : literal <:+: tail := by
  rcases List.infix_cons_iff.mp occurs with first | later
  · exact absurd (List.isPrefixOf_iff_prefix.mpr first)
      (List.find?_eq_none.mp unfound literal member)
  · exact later

theorem length_regexReplaceFrom_le
    (shorter : ∀ literal ∈ literals, replacement.length < literal.length)
    (inside : skip ≤ text.length) :
    (regexReplaceFrom literals replacement skip text).length + skip ≤ text.length := by
  induction text generalizing skip with
  | nil =>
      rw [Nat.le_zero.mp inside]
      rfl
  | cons head tail inductionHypothesis =>
      rw [List.length_cons] at inside ⊢
      cases skip with
      | succ skip =>
          have rest := @inductionHypothesis skip (by omega)
          simp only [regexReplaceFrom]
          omega
      | zero =>
          rw [regexReplaceFrom_cons]
          split
          · next literal found =>
              obtain ⟨member, occurs⟩ := mem_and_prefix_of_find? found
              have less := shorter literal member
              have bound := occurs.length_le
              rw [List.length_cons] at bound
              have rest := @inductionHypothesis (literal.length - 1) (by omega)
              rw [List.length_append]
              omega
          · have rest := @inductionHypothesis 0 (Nat.zero_le _)
            rw [List.length_cons]
            omega

/-- A shorter replacement leaves a text alone only if no literal occurs in it. -/
theorem absent_of_regexReplaceFrom_shorter
    (shorter : ∀ literal ∈ literals, replacement.length < literal.length)
    (same : regexReplaceFrom literals replacement 0 text = text) :
    ∀ literal ∈ literals, ¬ literal <:+: text := by
  intro literal member occurs
  suffices less : (regexReplaceFrom literals replacement 0 text).length < text.length by
    rw [same] at less
    exact absurd less (Nat.lt_irrefl _)
  clear same
  induction text with
  | nil =>
      have positive := shorter literal member
      rw [List.infix_nil.mp occurs] at positive
      cases positive
  | cons head tail inductionHypothesis =>
      rw [regexReplaceFrom_cons]
      split
      · next found here =>
          obtain ⟨listed, begins⟩ := mem_and_prefix_of_find? here
          have less := shorter found listed
          have bound := begins.length_le
          rw [List.length_cons] at bound
          have rest : (regexReplaceFrom literals replacement (found.length - 1) tail).length +
              (found.length - 1) ≤ tail.length :=
            length_regexReplaceFrom_le shorter (by omega)
          rw [List.length_append, List.length_cons]
          omega
      · next unfound =>
          have rest := inductionHypothesis (occurs_tail_of_find?_eq_none unfound member occurs)
          rw [List.length_cons, List.length_cons]
          omega

theorem length_le_length_regexReplaceFrom
    (longer : ∀ literal ∈ literals, literal.length < replacement.length) :
    text.length ≤ (regexReplaceFrom literals replacement skip text).length + skip := by
  induction text generalizing skip with
  | nil => exact Nat.zero_le _
  | cons head tail inductionHypothesis =>
      rw [List.length_cons]
      cases skip with
      | succ skip =>
          have rest := @inductionHypothesis skip
          simp only [regexReplaceFrom]
          omega
      | zero =>
          rw [regexReplaceFrom_cons]
          split
          · next literal found =>
              have more := longer literal (List.mem_of_find?_eq_some found)
              have rest := @inductionHypothesis (literal.length - 1)
              rw [List.length_append]
              omega
          · have rest := @inductionHypothesis 0
            rw [List.length_cons]
            omega

/-- A longer replacement leaves a text alone only if no literal occurs in it. -/
theorem absent_of_regexReplaceFrom_longer (nonempty : [] ∉ literals)
    (longer : ∀ literal ∈ literals, literal.length < replacement.length)
    (same : regexReplaceFrom literals replacement 0 text = text) :
    ∀ literal ∈ literals, ¬ literal <:+: text := by
  intro literal member occurs
  suffices more : text.length < (regexReplaceFrom literals replacement 0 text).length by
    rw [same] at more
    exact absurd more (Nat.lt_irrefl _)
  clear same
  induction text with
  | nil =>
      rw [List.infix_nil.mp occurs] at member
      exact absurd member nonempty
  | cons head tail inductionHypothesis =>
      rw [regexReplaceFrom_cons]
      split
      · next found here =>
          have longerFound := longer found (List.mem_of_find?_eq_some here)
          have rest : tail.length ≤
              (regexReplaceFrom literals replacement (found.length - 1) tail).length +
                (found.length - 1) :=
            length_le_length_regexReplaceFrom longer
          rw [List.length_append, List.length_cons]
          have positive : found ≠ [] := fun empty =>
            nonempty (empty ▸ List.mem_of_find?_eq_some here)
          have length := List.length_pos_iff.mpr positive
          omega
      · next unfound =>
          have rest := inductionHypothesis (occurs_tail_of_find?_eq_none unfound member occurs)
          rw [List.length_cons, List.length_cons]
          omega

end Replacement

/-! ### Replacement in strings -/

section Strings

variable {front text back replacement : String} {literals : List String}

theorem toList_regexReplace : (regexReplace text literals replacement).toList =
    regexReplaceFrom (literals.map String.toList) replacement.toList 0 text.toList :=
  String.toList_ofList

theorem regexReplace_between
    (after : ClosedAfter (literals.map String.toList) front.toList)
    (before : ClosedBefore (literals.map String.toList) back.toList) :
    regexReplace (front ++ text ++ back) literals replacement =
      regexReplace front literals replacement ++ regexReplace text literals replacement ++
        regexReplace back literals replacement := by
  apply String.toList_inj.mp
  simp only [String.toList_append, toList_regexReplace]
  exact regexReplaceFrom_between after before

theorem regexReplace_append
    (before : ClosedBefore (literals.map String.toList) back.toList) :
    regexReplace (text ++ back) literals replacement =
      regexReplace text literals replacement ++ regexReplace back literals replacement := by
  apply String.toList_inj.mp
  simp only [String.toList_append, toList_regexReplace]
  exact regexReplaceFrom_append (fun _ member => before.not_straddles member _) (Nat.zero_le _)

theorem regexReplace_of_absent
    (absent : ∀ literal ∈ literals, ¬ literal.toList <:+: text.toList) :
    regexReplace text literals replacement = text := by
  apply String.toList_inj.mp
  rw [toList_regexReplace]
  apply regexReplaceFrom_of_absent
  intro literal member
  obtain ⟨string, listed, rfl⟩ := List.mem_map.mp member
  exact absent string listed

theorem absent_of_regexReplace_shorter
    (shorter : ∀ literal ∈ literals, replacement.length < literal.length)
    (same : regexReplace text literals replacement = text) :
    ∀ literal ∈ literals, ¬ literal.toList <:+: text.toList := by
  have unchanged : regexReplaceFrom (literals.map String.toList) replacement.toList 0 text.toList =
      text.toList := by
    rw [← toList_regexReplace, same]
  intro literal member
  apply absent_of_regexReplaceFrom_shorter ?_ unchanged _ (List.mem_map_of_mem member)
  intro characters listed
  obtain ⟨string, there, rfl⟩ := List.mem_map.mp listed
  rw [String.length_toList, String.length_toList]
  exact shorter string there

theorem absent_of_regexReplace_longer (nonempty : "" ∉ literals)
    (longer : ∀ literal ∈ literals, literal.length < replacement.length)
    (same : regexReplace text literals replacement = text) :
    ∀ literal ∈ literals, ¬ literal.toList <:+: text.toList := by
  have unchanged : regexReplaceFrom (literals.map String.toList) replacement.toList 0 text.toList =
      text.toList := by
    rw [← toList_regexReplace, same]
  intro literal member
  apply absent_of_regexReplaceFrom_longer ?_ ?_ unchanged _ (List.mem_map_of_mem member)
  · intro listed
    obtain ⟨string, there, empty⟩ := List.mem_map.mp listed
    exact nonempty (String.toList_eq_nil_iff.mp empty ▸ there)
  · intro characters listed
    obtain ⟨string, there, rfl⟩ := List.mem_map.mp listed
    rw [String.length_toList, String.length_toList]
    exact longer string there

end Strings

end DdsPipe.Types
