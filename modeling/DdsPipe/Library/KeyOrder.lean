import Mathlib.Data.List.Lex
import Mathlib.Data.List.Sort

/-!
Owns comparisons that order items by a key: the laws that an ordered container asks
of its comparison, and what a set that is built by such a comparison keeps.

- A comparison by a key in a linear order is a strict weak order, whose
  incomparable items are those with one key (`strictWeakOrder_of_ordersBy`,
  `incomparable_iff`).
- The lexicographical comparison of sequences orders by the sequences of keys
  (`ordersBy_lexicographicalCompare`).
- A set keeps one of the items that are pairwise incomparable, so it keeps one of
  each class of an equality exactly where the two agree (`keepsOne_iff`). It is the
  one that is inserted first (`mem_setOf_iff`).

Does not own: any particular item, key or equality.
-/

namespace KeyOrder

variable {Item Key : Type}

/-! ### Strict weak orders -/

/-- Neither comes before the other. -/
def Incomparable (less : Item → Item → Bool) (item other : Item) : Prop :=
  less item other = false ∧ less other item = false

structure StrictWeakOrder (less : Item → Item → Bool) : Prop where
  irreflexive : ∀ item, less item item = false
  asymmetric : ∀ item other, less item other = true → less other item = false
  transitive : ∀ first second third, less first second = true → less second third = true →
    less first third = true
  incomparable : ∀ first second third, Incomparable less first second →
    Incomparable less second third → Incomparable less first third

/-- The comparison is that of the keys. -/
def OrdersBy [LT Key] (less : Item → Item → Bool) (key : Item → Key) : Prop :=
  ∀ item other, less item other = true ↔ key item < key other

/-- On some items, those that are incomparable are the equal ones. -/
def ConsistentOn (less same : Item → Item → Bool) (items : Set Item) : Prop :=
  ∀ item ∈ items, ∀ other ∈ items, Incomparable less item other ↔ same item other = true

section Keys

variable [LinearOrder Key] {less : Item → Item → Bool} {key : Item → Key}

theorem incomparable_iff (orders : OrdersBy less key) {item other : Item} :
    Incomparable less item other ↔ key item = key other := by
  rw [Incomparable, Bool.eq_false_iff, Bool.eq_false_iff, ne_eq, ne_eq, orders, orders,
    not_lt, not_lt]
  constructor
  · rintro ⟨above, below⟩
    exact le_antisymm below above
  · intro same
    exact ⟨same.ge, same.le⟩

theorem strictWeakOrder_of_ordersBy (orders : OrdersBy less key) : StrictWeakOrder less where
  irreflexive item := ((incomparable_iff orders).mpr rfl).1
  asymmetric item other before := by
    rw [Bool.eq_false_iff, ne_eq, orders]
    exact lt_asymm ((orders item other).mp before)
  transitive first second third before after := by
    rw [orders] at *
    exact lt_trans before after
  incomparable first second third before after := by
    rw [incomparable_iff orders] at *
    exact before.trans after

end Keys

/-! ### Sequences -/

/-- `std::lexicographical_compare`. -/
def lexicographicalCompare (less : Item → Item → Bool) : List Item → List Item → Bool
  | _, [] => false
  | [], _ :: _ => true
  | item :: rest, other :: others =>
      if less item other then true
      else if less other item then false
      else lexicographicalCompare less rest others

/-- `std::equal` of two whole sequences. -/
def equalSequences (same : Item → Item → Bool) : List Item → List Item → Bool
  | [], [] => true
  | item :: rest, other :: others => same item other && equalSequences same rest others
  | _, _ => false

theorem ordersBy_lexicographicalCompare [LinearOrder Key] {less : Item → Item → Bool}
    {key : Item → Key} (orders : OrdersBy less key) :
    OrdersBy (lexicographicalCompare less) (List.map key) := by
  intro items others
  induction items generalizing others with
  | nil =>
      cases others with
      | nil => simp [lexicographicalCompare]
      | cons other rest => simp [lexicographicalCompare]
  | cons item rest inductionHypothesis =>
      cases others with
      | nil => simp [lexicographicalCompare]
      | cons other others =>
          rw [List.map_cons, List.map_cons, List.cons_lt_cons_iff, lexicographicalCompare]
          rcases lt_trichotomy (key item) (key other) with before | same | after
          · rw [if_pos ((orders item other).mpr before)]
            simp [before]
          · obtain ⟨notBefore, notAfter⟩ := (incomparable_iff orders).mpr same
            rw [notBefore, notAfter, if_neg Bool.false_ne_true, if_neg Bool.false_ne_true,
              inductionHypothesis, same]
            simp
          · have notBefore : less item other = false := by
              rw [Bool.eq_false_iff, ne_eq, orders]
              exact lt_asymm after
            rw [notBefore, if_neg Bool.false_ne_true, if_pos ((orders other item).mpr after)]
            simp [lt_asymm after, after.ne']

/-! ### Sets -/

/-- `std::set::insert`, of a set in the order in which it is visited. -/
def insertUnique (less : Item → Item → Bool) (item : Item) : List Item → List Item
  | [] => [item]
  | first :: rest =>
      if less item first then item :: first :: rest
      else if less first item then first :: insertUnique less item rest
      else first :: rest

/-- The set into which some items are inserted in turn. -/
def setOf (less : Item → Item → Bool) (items : List Item) : List Item :=
  items.foldl (fun set item => insertUnique less item set) []

/-- Whichever of some items are inserted, the set holds exactly one that is equal
to each of them. -/
def KeepsOne (less same : Item → Item → Bool) (items : Set Item) : Prop :=
  ∀ inserted : List Item, (∀ item ∈ inserted, item ∈ items) → ∀ item ∈ inserted,
    ∃! kept, kept ∈ setOf less inserted ∧ same item kept = true

section Sets

variable [LinearOrder Key] {less : Item → Item → Bool} {key : Item → Key}

/-- The keys ascend. -/
def Ascending (key : Item → Key) (set : List Item) : Prop :=
  set.Pairwise fun item other => key item < key other

theorem mem_of_mem_insertUnique {item other : Item} {set : List Item}
    (member : other ∈ insertUnique less item set) : other = item ∨ other ∈ set := by
  induction set with
  | nil => exact .inl (List.mem_singleton.mp member)
  | cons first rest inductionHypothesis =>
      unfold insertUnique at member
      split at member
      · exact List.mem_cons.mp member
      · split at member
        · rcases List.mem_cons.mp member with rfl | later
          · exact .inr List.mem_cons_self
          · exact (inductionHypothesis later).imp_right (List.mem_cons_of_mem _)
        · exact .inr member

theorem mem_insertUnique_of_mem {item other : Item} {set : List Item} (member : other ∈ set) :
    other ∈ insertUnique less item set := by
  induction set with
  | nil => cases member
  | cons first rest inductionHypothesis =>
      unfold insertUnique
      split
      · exact List.mem_cons_of_mem _ member
      · split
        · rcases List.mem_cons.mp member with rfl | later
          · exact List.mem_cons_self
          · exact List.mem_cons_of_mem _ (inductionHypothesis later)
        · exact member

/-- Something with the key of the item is in the set after its insertion. -/
theorem exists_mem_insertUnique (orders : OrdersBy less key) (item : Item) (set : List Item) :
    ∃ kept ∈ insertUnique less item set, key kept = key item := by
  induction set with
  | nil => exact ⟨item, List.mem_singleton_self _, rfl⟩
  | cons first rest inductionHypothesis =>
      unfold insertUnique
      split
      · exact ⟨item, List.mem_cons_self, rfl⟩
      · next notBefore =>
          split
          · obtain ⟨kept, member, same⟩ := inductionHypothesis
            exact ⟨kept, List.mem_cons_of_mem _ member, same⟩
          · next notAfter =>
              rw [Bool.not_eq_true] at notBefore notAfter
              exact ⟨first, List.mem_cons_self,
                (incomparable_iff orders).mp ⟨notAfter, notBefore⟩⟩

theorem ascending_insertUnique (orders : OrdersBy less key) {item : Item} {set : List Item}
    (ascending : Ascending key set) : Ascending key (insertUnique less item set) := by
  induction set with
  | nil => exact List.pairwise_singleton _ _
  | cons first rest inductionHypothesis =>
      obtain ⟨first_lt, ascendingRest⟩ := List.pairwise_cons.mp ascending
      unfold insertUnique
      split
      · next before =>
          rw [orders] at before
          apply List.pairwise_cons.mpr
          refine ⟨fun other member => ?_, ascending⟩
          rcases List.mem_cons.mp member with rfl | later
          · exact before
          · exact lt_trans before (first_lt other later)
      · split
        · next after =>
            rw [orders] at after
            apply List.pairwise_cons.mpr
            refine ⟨fun other member => ?_, inductionHypothesis ascendingRest⟩
            rcases mem_of_mem_insertUnique member with rfl | later
            · exact after
            · exact first_lt other later
        · exact ascending

/-- Two members of a set with one key are the same. -/
theorem eq_of_ascending {set : List Item} (ascending : Ascending key set) {item other : Item}
    (member : item ∈ set) (otherMember : other ∈ set) (same : key item = key other) :
    item = other := by
  by_contra different
  induction set with
  | nil => cases member
  | cons first rest inductionHypothesis =>
      obtain ⟨first_lt, ascendingRest⟩ := List.pairwise_cons.mp ascending
      rcases List.mem_cons.mp member with rfl | later
      · rcases List.mem_cons.mp otherMember with rfl | otherLater
        · exact different rfl
        · exact absurd same (first_lt other otherLater).ne
      · rcases List.mem_cons.mp otherMember with rfl | otherLater
        · exact absurd same.symm (first_lt item later).ne
        · exact inductionHypothesis ascendingRest later otherLater

theorem ascending_foldl (orders : OrdersBy less key) (items : List Item) {set : List Item}
    (ascending : Ascending key set) :
    Ascending key (items.foldl (fun set item => insertUnique less item set) set) := by
  induction items generalizing set with
  | nil => exact ascending
  | cons item rest inductionHypothesis =>
      exact inductionHypothesis (ascending_insertUnique orders ascending)

theorem mem_foldl_of_mem (items : List Item) {set : List Item} {kept : Item}
    (member : kept ∈ set) :
    kept ∈ items.foldl (fun set item => insertUnique less item set) set := by
  induction items generalizing set with
  | nil => exact member
  | cons item rest inductionHypothesis =>
      exact inductionHypothesis (mem_insertUnique_of_mem member)

theorem mem_of_mem_foldl (items : List Item) {set : List Item} {kept : Item}
    (member : kept ∈ items.foldl (fun set item => insertUnique less item set) set) :
    kept ∈ items ∨ kept ∈ set := by
  induction items generalizing set with
  | nil => exact .inr member
  | cons item rest inductionHypothesis =>
      rcases inductionHypothesis member with later | inserted
      · exact .inl (List.mem_cons_of_mem _ later)
      · rcases mem_of_mem_insertUnique inserted with rfl | before
        · exact .inl List.mem_cons_self
        · exact .inr before

theorem exists_mem_foldl (orders : OrdersBy less key) {items : List Item} (set : List Item)
    {item : Item} (member : item ∈ items) :
    ∃ kept ∈ items.foldl (fun set item => insertUnique less item set) set,
      key kept = key item := by
  induction items generalizing set with
  | nil => cases member
  | cons first rest inductionHypothesis =>
      rcases List.mem_cons.mp member with rfl | later
      · obtain ⟨kept, inserted, same⟩ := exists_mem_insertUnique orders item set
        exact ⟨kept, mem_foldl_of_mem rest inserted, same⟩
      · exact inductionHypothesis (insertUnique less first set) later

/-- Of the items that have its key, the first. -/
def IsFirst (key : Item → Key) (items : List Item) (item : Item) : Prop :=
  ∃ before after, items = before ++ item :: after ∧ ∀ other ∈ before, key other ≠ key item

theorem exists_isFirst (key : Item → Key) {items : List Item} {item : Item}
    (member : item ∈ items) : ∃ first, IsFirst key items first ∧ key first = key item := by
  have isFound : (items.find? fun other => decide (key other = key item)).isSome := by
    rw [List.find?_isSome]
    exact ⟨item, member, decide_eq_true rfl⟩
  obtain ⟨first, found⟩ := Option.isSome_iff_exists.mp isFound
  obtain ⟨sameKey, before, after, split, none⟩ := List.find?_eq_some_iff_append.mp found
  have sameKey := of_decide_eq_true sameKey
  refine ⟨first, ⟨before, after, split, ?_⟩, sameKey⟩
  intro other earlier
  rw [sameKey]
  simpa using none other earlier

theorem mem_setOf_of_isFirst (orders : OrdersBy less key) {items : List Item} {item : Item}
    (isFirst : IsFirst key items item) : item ∈ setOf less items := by
  obtain ⟨before, after, rfl, first⟩ := isFirst
  unfold setOf
  rw [List.foldl_append, List.foldl_cons]
  apply mem_foldl_of_mem
  obtain ⟨kept, there, sameKey⟩ := exists_mem_insertUnique orders item
    (before.foldl (fun set item => insertUnique less item set) [])
  rcases mem_of_mem_insertUnique there with rfl | earlier
  · exact there
  · rcases mem_of_mem_foldl before earlier with inserted | none
    · exact absurd sameKey (first kept inserted)
    · cases none

/-- **A set keeps the first** of the items that have one key. -/
theorem mem_setOf_iff (orders : OrdersBy less key) {items : List Item} {item : Item} :
    item ∈ setOf less items ↔ IsFirst key items item := by
  constructor
  · intro there
    have inserted : item ∈ items := by
      rcases mem_of_mem_foldl items there with inserted | none
      · exact inserted
      · cases none
    obtain ⟨first, isFirst, sameKey⟩ := exists_isFirst key inserted
    have ascending : Ascending key (setOf less items) :=
      ascending_foldl orders items List.Pairwise.nil
    rw [eq_of_ascending ascending there (mem_setOf_of_isFirst orders isFirst) sameKey.symm]
    exact isFirst
  · intro isFirst
    exact mem_setOf_of_isFirst orders isFirst

/-- **The last of a set** is the member that comes before none. -/
theorem getLast?_eq_some_iff (orders : OrdersBy less key) {set : List Item}
    (ascending : Ascending key set) {item : Item} :
    set.getLast? = some item ↔ item ∈ set ∧ ∀ other ∈ set, less item other = false := by
  have comesLast : ∀ last, set.getLast? = some last → ∀ other ∈ set, less last other = false := by
    intro last found other member
    obtain ⟨earlier, rfl⟩ := List.getLast?_eq_some_iff.mp found
    rw [Bool.eq_false_iff, ne_eq, orders]
    rcases List.mem_append.mp member with before | same
    · exact lt_asymm ((List.pairwise_append.mp ascending).2.2 other before last
        (List.mem_singleton_self last))
    · rw [List.mem_singleton.mp same]
      exact lt_irrefl _
  constructor
  · intro found
    exact ⟨List.mem_of_getLast? found, comesLast item found⟩
  · intro ⟨member, last⟩
    obtain ⟨other, found⟩ : ∃ other, set.getLast? = some other :=
      Option.isSome_iff_exists.mp (List.getLast?_isSome.mpr (List.ne_nil_of_mem member))
    have otherMember := List.mem_of_getLast? found
    have sameKey := (incomparable_iff orders).mp
      ⟨last other otherMember, comesLast other found item member⟩
    rw [found, eq_of_ascending ascending member otherMember sameKey]

/-- A set in which one of each class is kept makes the comparison and the equality
agree: that of two items which are not apart has the one that is inserted first. -/
theorem consistentOn_of_keepsOne (orders : OrdersBy less key) {same : Item → Item → Bool}
    (reflexive : ∀ item, same item item = true) {items : Set Item}
    (keeps : KeepsOne less same items) : ConsistentOn less same items := by
  intro item member other otherMember
  rw [incomparable_iff orders]
  constructor
  · intro sameKey
    have within : ∀ inserted ∈ [other, item], inserted ∈ items :=
      List.forall_mem_cons.mpr ⟨otherMember, List.forall_mem_singleton.mpr member⟩
    obtain ⟨kept, ⟨there, equal⟩, _⟩ := keeps [other, item] within item (by simp)
    obtain ⟨notBefore, notAfter⟩ := (incomparable_iff orders).mpr sameKey
    have only : setOf less [other, item] = [other] := by
      simp [setOf, insertUnique, notBefore, notAfter]
    rw [only, List.mem_singleton] at there
    rwa [there] at equal
  · intro equal
    have within : ∀ inserted ∈ [item, other], inserted ∈ items :=
      List.forall_mem_cons.mpr ⟨member, List.forall_mem_singleton.mpr otherMember⟩
    obtain ⟨kept, _, unique⟩ := keeps [item, other] within item (by simp)
    by_contra different
    have itemKept : item ∈ setOf less [item, other] :=
      mem_foldl_of_mem [other] (List.mem_singleton_self item)
    have otherKept : other ∈ setOf less [item, other] := by
      obtain ⟨found, there, sameKey⟩ := exists_mem_foldl orders [] (List.mem_cons_of_mem item
        (List.mem_singleton_self other))
      rcases mem_of_mem_foldl [item, other] there with inserted | none
      · simp only [List.mem_cons, List.not_mem_nil, or_false] at inserted
        rcases inserted with rfl | rfl
        · exact absurd sameKey different
        · exact there
      · cases none
    have one : item = other :=
      (unique item ⟨itemKept, reflexive item⟩).trans (unique other ⟨otherKept, equal⟩).symm
    exact different (congrArg key one)

/-- A set whose comparison and equality agree keeps one of each class. -/
theorem keepsOne_of_consistentOn (orders : OrdersBy less key) {same : Item → Item → Bool}
    {items : Set Item} (consistent : ConsistentOn less same items) : KeepsOne less same items := by
  intro inserted within item member
  have ascending : Ascending key (setOf less inserted) :=
    ascending_foldl orders inserted List.Pairwise.nil
  have fromInserted : ∀ kept ∈ setOf less inserted, kept ∈ items := by
    intro kept there
    rcases mem_of_mem_foldl inserted there with inserted | none
    · exact within kept inserted
    · cases none
  obtain ⟨kept, there, sameKey⟩ := exists_mem_foldl orders [] member
  refine ⟨kept, ⟨there, ?_⟩, fun other ⟨otherThere, equal⟩ => ?_⟩
  · apply (consistent item (within item member) kept (fromInserted kept there)).mp
    exact (incomparable_iff orders).mpr sameKey.symm
  · have otherKey := (incomparable_iff orders).mp
      ((consistent item (within item member) other (fromInserted other otherThere)).mpr equal)
    exact eq_of_ascending ascending otherThere there (otherKey.symm.trans sameKey.symm)

/-- **One of each class** is kept exactly where the comparison and the equality
agree. -/
theorem keepsOne_iff (orders : OrdersBy less key) {same : Item → Item → Bool}
    (reflexive : ∀ item, same item item = true) {items : Set Item} :
    KeepsOne less same items ↔ ConsistentOn less same items :=
  ⟨consistentOn_of_keepsOne orders reflexive, keepsOne_of_consistentOn orders⟩

end Sets

end KeyOrder
