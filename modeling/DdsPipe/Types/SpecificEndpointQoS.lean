import DdsPipe.Types.Endpoint

/-!
Owns the order on the specific QoS of an endpoint, by which the inner writers of
a topic are stored: ownership strength first, then the number of partitions, then
their names one by one.

The order that the source writes out is the lexicographic one of these three
(`order_eq_lexicographic`), so it is a strict total order whose ties are
equalities (`isStrictTotal_lt`).

Does not own: how a partition policy stores its names. Two policies are equal when
their lists of names are.
-/

namespace DdsPipe.Types

/-- The loop over the names of two policies of the same size. -/
def namesLt : List String → List String → Bool
  | thisName :: theseNames, otherName :: otherNames =>
      if thisName < otherName then true
      else if otherName < thisName then false
      else namesLt theseNames otherNames
  | _, _ => false

namespace SpecificEndpointQoS

/-- `SpecificEndpointQoS::operator <`. -/
def lt (qos other : SpecificEndpointQoS) : Bool :=
  if qos.ownershipStrength < other.ownershipStrength then true
  else if qos.ownershipStrength > other.ownershipStrength then false
  else if qos.partitions.length < other.partitions.length then true
  else if qos.partitions.length > other.partitions.length then false
  else namesLt qos.partitions other.partitions

/-- How a map that is ordered by `lt` compares two keys. -/
def order (qos other : SpecificEndpointQoS) : Ordering :=
  if qos.lt other then .lt else if other.lt qos then .gt else .eq

/-- Strength, then number of partitions, then names. -/
def lexicographic : SpecificEndpointQoS → SpecificEndpointQoS → Ordering :=
  compareLex (compareOn ownershipStrength)
    (compareLex (compareOn fun qos => qos.partitions.length) (compareOn partitions))

/-! ### The written out order -/

theorem namesLt_iff_compare {names others : List String} (sameSize : names.length = others.length) :
    namesLt names others = true ↔ compare names others = .lt := by
  induction names generalizing others with
  | nil =>
      cases others with
      | nil => simp [namesLt]
      | cons other others => simp at sameSize
  | cons name names inductionHypothesis =>
      cases others with
      | nil => simp at sameSize
      | cons other others =>
          have rest : namesLt names others = true ↔ compare names others = .lt :=
            inductionHypothesis (by simpa using sameSize)
          rw [namesLt, List.compare_cons_cons]
          by_cases before : name < other
          · have first : compare name other = .lt := if_pos before
            simp [before, first]
          · by_cases after : other < name
            · have different : name ≠ other := by
                rintro rfl
                exact before after
              have first : compare name other = .gt :=
                (if_neg before).trans (if_neg different)
              simp [before, after, first]
            · have same : name = other := by
                exact String.le_antisymm (String.not_lt.mp after) (String.not_lt.mp before)
              subst same
              simp [rest]

theorem lt_iff_lexicographic {qos other : SpecificEndpointQoS} :
    qos.lt other = true ↔ lexicographic qos other = .lt := by
  simp only [lt, lexicographic, compareLex, compareOn, Ordering.then_eq_lt]
  rcases Nat.lt_trichotomy qos.ownershipStrength other.ownershipStrength with
    weaker | same | stronger
  · simp [weaker, Nat.compare_eq_lt.mpr weaker]
  · rcases Nat.lt_trichotomy qos.partitions.length other.partitions.length with
      fewer | sameSize | more
    · simp [same, fewer, Nat.compare_eq_lt.mpr fewer]
    · simp [same, sameSize, namesLt_iff_compare sameSize]
    · simp [same, Nat.compare_eq_gt.mpr more, Nat.not_lt.mpr (Nat.le_of_lt more), more]
  · simp [Nat.compare_eq_gt.mpr stronger, Nat.not_lt.mpr (Nat.le_of_lt stronger), stronger]

instance : Std.TransCmp lexicographic :=
  inferInstanceAs (Std.TransCmp (compareLex _ (compareLex _ _)))

instance : Std.LawfulEqCmp lexicographic where
  compare_self := Std.ReflCmp.compare_self
  eq_of_compare := by
    rintro ⟨partitions, ownershipStrength⟩ ⟨others, otherStrength⟩ same
    simp only [lexicographic, compareLex, compareOn, Ordering.then_eq_eq,
      Std.LawfulEqCmp.compare_eq_iff_eq] at same
    obtain ⟨rfl, _, rfl⟩ := same
    rfl

theorem lt_swap_iff_lexicographic {qos other : SpecificEndpointQoS} :
    other.lt qos = true ↔ lexicographic qos other = .gt :=
  lt_iff_lexicographic.trans Std.OrientedCmp.gt_iff_lt.symm

theorem order_eq_lexicographic : order = lexicographic := by
  funext qos other
  rw [order]
  simp only [@lt_iff_lexicographic qos other, @lt_swap_iff_lexicographic qos other]
  cases lexicographic qos other <;> rfl

instance : Std.TransCmp order := by
  rw [order_eq_lexicographic]
  infer_instance

instance : Std.LawfulEqCmp order := by
  rw [order_eq_lexicographic]
  infer_instance

/-- A strict total order whose ties are equalities. -/
structure IsStrictTotal (lt : SpecificEndpointQoS → SpecificEndpointQoS → Bool) : Prop where
  irreflexive : ∀ qos, lt qos qos = false
  transitive : ∀ first second third, lt first second = true → lt second third = true →
    lt first third = true
  ties : ∀ qos other, lt qos other = false ∧ lt other qos = false ↔ (qos == other) = true

theorem isStrictTotal_lt : IsStrictTotal lt where
  irreflexive qos := by
    have same : lexicographic qos qos = .eq := Std.ReflCmp.compare_self
    rw [← Bool.not_eq_true, lt_iff_lexicographic, same]
    decide
  transitive first second third before after := by
    rw [lt_iff_lexicographic] at before after ⊢
    exact Std.TransCmp.lt_trans before after
  ties qos other := by
    have same : lexicographic qos other = .eq ↔ qos = other :=
      Std.LawfulEqCmp.compare_eq_iff_eq
    rw [← Bool.not_eq_true, ← Bool.not_eq_true, lt_iff_lexicographic,
      @lt_swap_iff_lexicographic qos other, beq_iff_eq, ← same]
    cases lexicographic qos other <;> decide

end SpecificEndpointQoS

end DdsPipe.Types
