import Mathlib

/-!
Owns what loops over an ordered map need beyond the map's own lemmas:

- the inversion of steps that may fail (`bind_eq_ok_iff`, `map_eq_ok_iff`), and
  what they can fail with (`FailsOnly`);
- a loop whose body touches one key acts on every key separately, also when the
  body can fail (`foldlM_keywise`), and one that refuses a repeated key succeeds
  when the keys are different (`foldlM_distinct`);
- the number of entries of a map against the keys it holds
  (`size_eq_zero_iff`, `size_le_length`, `size_eq_one_and_mem_iff`).

Does not own: any particular key, value or loop.
-/

namespace OrderedMap

open Std (TreeMap TransCmp OrientedCmp LawfulEqCmp)

/-! ### Steps that may fail -/

/-- A sequence succeeds when its first part does and its second part does with
the result of the first. -/
theorem bind_eq_ok_iff {Failure First Second : Type} {first : Except Failure First}
    {second : First → Except Failure Second} {result : Second} :
    first >>= second = .ok result ↔ ∃ middle, first = .ok middle ∧ second middle = .ok result := by
  constructor
  · intro succeeded
    cases outcome : first with
    | error failure =>
        rw [outcome] at succeeded
        cases succeeded
    | ok middle =>
        rw [outcome] at succeeded
        exact ⟨middle, rfl, succeeded⟩
  · rintro ⟨middle, outcome, succeeded⟩
    rw [outcome]
    exact succeeded

theorem bind_eq_error_iff {Failure First Second : Type} {first : Except Failure First}
    {second : First → Except Failure Second} {failure : Failure} :
    first >>= second = .error failure ↔
      first = .error failure ∨ ∃ middle, first = .ok middle ∧ second middle = .error failure := by
  cases first <;> simp [bind, Except.bind]

theorem map_eq_ok_iff {Failure First Second : Type} {first : Except Failure First}
    {change : First → Second} {result : Second} :
    first.map change = .ok result ↔ ∃ middle, first = .ok middle ∧ change middle = result := by
  cases first <;> simp [Except.map]

theorem forM_eq_ok_iff {Failure Item : Type} {check : Item → Except Failure Unit}
    {items : List Item} :
    items.forM check = .ok () ↔ ∀ item ∈ items, check item = .ok () := by
  induction items with
  | nil => simp [pure, Except.pure]
  | cons item rest inductionHypothesis =>
      show (check item >>= fun _ => rest.forM check) = .ok () ↔ _
      rw [bind_eq_ok_iff, List.forall_mem_cons, ← inductionHypothesis]
      exact ⟨fun ⟨_, first, remaining⟩ => ⟨first, remaining⟩,
        fun ⟨first, remaining⟩ => ⟨(), first, remaining⟩⟩

/-- What the rounds of a loop that succeeds yield, put together. -/
theorem mem_flatten_of_mapM {Failure Item Result : Type}
    {body : Item → Except Failure (List Result)} {items : List Item} {results : List (List Result)}
    (succeeded : items.mapM body = .ok results) (result : Result) :
    result ∈ results.flatten ↔ ∃ item ∈ items, ∃ part, body item = .ok part ∧ result ∈ part := by
  induction items generalizing results with
  | nil =>
      cases succeeded
      simp
  | cons item rest inductionHypothesis =>
      rw [List.mapM_cons] at succeeded
      obtain ⟨first, executed, continued⟩ := bind_eq_ok_iff.mp succeeded
      obtain ⟨others, remaining, done⟩ := bind_eq_ok_iff.mp continued
      cases done
      rw [List.flatten_cons, List.mem_append, inductionHypothesis remaining]
      constructor
      · rintro (here | ⟨other, member, part, executed, there⟩)
        · exact ⟨item, List.mem_cons_self, first, executed, here⟩
        · exact ⟨other, List.mem_cons_of_mem _ member, part, executed, there⟩
      · rintro ⟨other, member, part, outcome, there⟩
        rcases List.mem_cons.mp member with rfl | inRest
        · rw [executed] at outcome
          cases outcome
          exact .inl there
        · exact .inr ⟨other, inRest, part, outcome, there⟩

/-- Every round of a loop that succeeds does. -/
theorem exists_of_mapM {Failure Item Result : Type} {body : Item → Except Failure Result}
    {items : List Item} {results : List Result} (succeeded : items.mapM body = .ok results) :
    ∀ item ∈ items, ∃ result, body item = .ok result := by
  induction items generalizing results with
  | nil => simp
  | cons item rest inductionHypothesis =>
      rw [List.mapM_cons] at succeeded
      obtain ⟨first, executed, continued⟩ := bind_eq_ok_iff.mp succeeded
      obtain ⟨others, remaining, _⟩ := bind_eq_ok_iff.mp continued
      intro other member
      rcases List.mem_cons.mp member with rfl | inRest
      · exact ⟨first, executed⟩
      · exact inductionHypothesis remaining other inRest

/-- Whatever makes the outcome a failure is among `Possible`. -/
def FailsOnly {Failure Result : Type} (Possible : Failure → Prop)
    (outcome : Except Failure Result) : Prop :=
  ∀ failure, outcome = .error failure → Possible failure

section FailsOnly

variable {Failure First Second State Item : Type} {Possible : Failure → Prop}

theorem failsOnly_ok (result : First) : FailsOnly Possible (.ok result) :=
  fun _ failed => by cases failed

theorem failsOnly_bind {first : Except Failure First} {second : First → Except Failure Second}
    (before : FailsOnly Possible first) (after : ∀ middle, FailsOnly Possible (second middle)) :
    FailsOnly Possible (first >>= second) := by
  intro failure failed
  cases outcome : first with
  | error cause =>
      rw [outcome] at failed
      cases failed
      exact before failure outcome
  | ok middle =>
      rw [outcome] at failed
      exact after middle failure failed

theorem failsOnly_map {change : First → Second} {outcome : Except Failure First}
    (only : FailsOnly Possible outcome) : FailsOnly Possible (outcome.map change) := by
  intro failure failed
  cases outcome with
  | error cause =>
      cases failed
      exact only failure rfl
  | ok result => cases failed

theorem failsOnly_foldlM {body : State → Item → Except Failure State} {items : List Item}
    (round : ∀ state, ∀ item ∈ items, FailsOnly Possible (body state item)) (state : State) :
    FailsOnly Possible (items.foldlM body state) := by
  induction items generalizing state with
  | nil => exact failsOnly_ok state
  | cons item rest inductionHypothesis =>
      rw [List.foldlM_cons]
      exact failsOnly_bind (round state item List.mem_cons_self) fun middle =>
        inductionHypothesis (fun state other member =>
          round state other (List.mem_cons_of_mem _ member)) middle

theorem failsOnly_mapM {body : Item → Except Failure Second} {items : List Item}
    (round : ∀ item ∈ items, FailsOnly Possible (body item)) :
    FailsOnly Possible (items.mapM body) := by
  induction items with
  | nil => exact failsOnly_ok []
  | cons item rest inductionHypothesis =>
      rw [List.mapM_cons]
      exact failsOnly_bind (round item List.mem_cons_self) fun _ =>
        failsOnly_bind (inductionHypothesis fun other member =>
          round other (List.mem_cons_of_mem _ member)) fun _ => failsOnly_ok _

theorem failsOnly_forM {body : Item → Except Failure Unit} {items : List Item}
    (round : ∀ item ∈ items, FailsOnly Possible (body item)) :
    FailsOnly Possible (items.forM body) := by
  induction items with
  | nil => exact failsOnly_ok ()
  | cons item rest inductionHypothesis =>
      exact failsOnly_bind (round item List.mem_cons_self) fun _ =>
        inductionHypothesis fun other member => round other (List.mem_cons_of_mem _ member)

/-- **A loop over distinct items fails exactly when one of its rounds has a reason
to.** `Fails state item` is the reason of a round; a round that has none succeeds
and leaves the reasons of the other items as they are. -/
theorem foldlM_fails_or_succeeds (failure : Failure) (Fails : State → Item → Prop)
    {body : State → Item → Except Failure State} {items : List Item}
    (fails : ∀ state, ∀ item ∈ items, Fails state item → body state item = .error failure)
    (succeeds : ∀ state, ∀ item ∈ items, ¬ Fails state item →
      ∃ next, body state item = .ok next ∧
        ∀ other, other ≠ item → (Fails next other ↔ Fails state other))
    (distinct : items.Nodup) (state : State) :
    (items.foldlM body state = .error failure ∧ ∃ item ∈ items, Fails state item) ∨
      ((∃ next, items.foldlM body state = .ok next) ∧ ¬ ∃ item ∈ items, Fails state item) := by
  induction items generalizing state with
  | nil => exact .inr ⟨⟨state, rfl⟩, by simp⟩
  | cons item rest inductionHypothesis =>
      rw [List.nodup_cons] at distinct
      rw [List.foldlM_cons]
      by_cases reason : Fails state item
      · rw [fails state item List.mem_cons_self reason]
        exact .inl ⟨rfl, item, List.mem_cons_self, reason⟩
      · obtain ⟨next, executed, others⟩ := succeeds state item List.mem_cons_self reason
        have same : ∀ other ∈ rest, (Fails next other ↔ Fails state other) := by
          intro other member
          apply others
          rintro rfl
          exact distinct.1 member
        have remaining := inductionHypothesis
          (fun state other member => fails state other (List.mem_cons_of_mem _ member))
          (fun state other member => succeeds state other (List.mem_cons_of_mem _ member))
          distinct.2 next
        rw [executed]
        rcases remaining with ⟨failed, other, member, reason⟩ | ⟨succeeded, none⟩
        · exact .inl ⟨failed, other, List.mem_cons_of_mem _ member, (same other member).mp reason⟩
        · refine .inr ⟨succeeded, ?_⟩
          rintro ⟨other, member, there⟩
          rcases List.mem_cons.mp member with rfl | inRest
          · exact reason there
          · exact none ⟨other, inRest, (same other inRest).mpr there⟩

/-- What can fail only in two ways that exclude each other does not fail. -/
theorem exists_ok_of_failsOnly {Other : Failure → Prop} {outcome : Except Failure First}
    (one : FailsOnly Possible outcome) (another : FailsOnly Other outcome)
    (exclusive : ∀ failure, Possible failure → ¬ Other failure) :
    ∃ result, outcome = .ok result := by
  cases ended : outcome with
  | error failure => exact absurd (another failure ended) (exclusive failure (one failure ended))
  | ok result => exact ⟨result, rfl⟩

end FailsOnly

/-! ### Loops that touch one key at a time -/

section Keywise

variable {Failure State Item Key Value : Type}

/-- **A loop over distinct keys acts on every key separately.**

`view state key` is the part of the state that belongs to `key`. Each round
relates the old and the new part of its own key by `Round` and leaves the parts
of the other keys as they are; `Inv` is what the rounds keep. Then the loop
relates, for each key it visits, the part before the loop to the part after it,
and leaves every other part unchanged. -/
theorem foldlM_keywise (view : State → Key → Value) (key : Item → Key)
    (Inv : State → Prop) (Round : Item → Value → Value → Prop)
    {body : State → Item → Except Failure State} {items : List Item}
    (round : ∀ state item next, item ∈ items → Inv state → body state item = .ok next →
      Inv next ∧ Round item (view state (key item)) (view next (key item)) ∧
        ∀ other, other ≠ key item → view next other = view state other)
    {state next : State} (distinct : (items.map key).Nodup) (holds : Inv state)
    (executed : items.foldlM body state = .ok next) :
    Inv next ∧
      (∀ item ∈ items, Round item (view state (key item)) (view next (key item))) ∧
      ∀ other, other ∉ items.map key → view next other = view state other := by
  induction items generalizing state with
  | nil =>
      cases executed
      exact ⟨holds, by simp, fun _ _ => rfl⟩
  | cons item rest inductionHypothesis =>
      rw [List.map_cons, List.nodup_cons] at distinct
      rw [List.foldlM_cons] at executed
      obtain ⟨middle, first, remaining⟩ := bind_eq_ok_iff.mp executed
      obtain ⟨kept, related, frame⟩ := round state item middle List.mem_cons_self holds first
      obtain ⟨last, visited, untouched⟩ := inductionHypothesis
        (fun state item next member => round state item next (List.mem_cons_of_mem _ member))
        distinct.2 kept remaining
      refine ⟨last, ?_, ?_⟩
      · intro other member
        rcases List.mem_cons.mp member with rfl | inRest
        · rwa [untouched _ distinct.1]
        · have different : key other ≠ key item := by
            intro same
            exact distinct.1 (same ▸ List.mem_map_of_mem inRest)
          rw [← frame _ different]
          exact visited other inRest
      · intro other absent
        rw [List.map_cons, List.mem_cons, not_or] at absent
        rw [untouched _ absent.2, frame _ absent.1]

theorem foldlM_ok (body : State → Item → State) (items : List Item) (state : State) :
    items.foldlM (fun state item => (.ok (body state item) : Except Failure State)) state =
      .ok (items.foldl body state) := by
  induction items generalizing state with
  | nil => rfl
  | cons item rest inductionHypothesis =>
      rw [List.foldlM_cons, List.foldl_cons]
      exact inductionHypothesis (body state item)

/-- **A loop that refuses a repeated key** succeeds when each item can be read and
their keys are new and different, and adds what has been read. -/
theorem foldlM_distinct {Entry : Type}
    {body : State → Item → Except Failure State} {read : Item → Option Entry} {key : Entry → Key}
    {add : State → Entry → State} {Holds : State → Key → Prop}
    (body_eq_ok : ∀ state item next, body state item = .ok next ↔
      ∃ entry, read item = some entry ∧ ¬ Holds state (key entry) ∧ next = add state entry)
    (holds_add : ∀ state entry other,
      Holds (add state entry) other ↔ other = key entry ∨ Holds state other)
    {items : List Item} {state final : State} :
    items.foldlM body state = .ok final ↔ ∃ entries, items.mapM read = some entries ∧
      (entries.map key).Nodup ∧ (∀ entry ∈ entries, ¬ Holds state (key entry)) ∧
      final = entries.foldl add state := by
  induction items generalizing state with
  | nil => simp [pure, Except.pure, eq_comm]
  | cons item rest inductionHypothesis =>
      rw [List.foldlM_cons, bind_eq_ok_iff, List.mapM_cons]
      constructor
      · intro ⟨next, first, remaining⟩
        obtain ⟨entry, readFirst, fresh, rfl⟩ := (body_eq_ok state item next).mp first
        obtain ⟨entries, readRest, distinct, unheld, rfl⟩ := inductionHypothesis.mp remaining
        refine ⟨entry :: entries, by simp [readFirst, readRest], ?_, ?_, rfl⟩
        · rw [List.map_cons, List.nodup_cons]
          refine ⟨fun repeated => ?_, distinct⟩
          obtain ⟨other, member, same⟩ := List.mem_map.mp repeated
          exact unheld other member ((holds_add state entry _).mpr (.inl same))
        · intro other member held
          rcases List.mem_cons.mp member with rfl | later
          · exact fresh held
          · exact unheld other later ((holds_add state entry _).mpr (.inr held))
      · intro ⟨entries, readAll, distinct, unheld, done⟩
        cases readFirst : read item with
        | none => simp [readFirst] at readAll
        | some entry =>
            cases readRest : rest.mapM read with
            | none => simp [readFirst, readRest] at readAll
            | some others =>
                have whole : entry :: others = entries := by
                  simpa [readFirst, readRest] using readAll
                subst whole
                rw [List.map_cons, List.nodup_cons] at distinct
                refine ⟨add state entry, (body_eq_ok state item _).mpr
                  ⟨entry, readFirst, unheld entry List.mem_cons_self, rfl⟩,
                  inductionHypothesis.mpr ⟨others, readRest, distinct.2, ?_, done⟩⟩
                intro other member held
                rcases (holds_add state entry _).mp held with same | before
                · exact distinct.1 (same ▸ List.mem_map_of_mem member)
                · exact unheld other (List.mem_cons_of_mem _ member) before

end Keywise

/-! ### Entries of a map -/

section Entries

variable {Key Value : Type} {order : Key → Key → Ordering} [TransCmp order]

theorem nodup_map_fst_toList (map : TreeMap Key Value order) :
    (map.toList.map Prod.fst).Nodup := by
  rw [TreeMap.map_fst_toList_eq_keys]
  exact TreeMap.nodup_keys

theorem mem_iff_exists_getElem? {map : TreeMap Key Value order} {key : Key} :
    key ∈ map ↔ ∃ value, map[key]? = some value := by
  rw [← Option.isSome_iff_exists, TreeMap.isSome_getElem?_iff_mem]

theorem getElem?_eq_none_iff {map : TreeMap Key Value order} {key : Key} :
    map[key]? = none ↔ key ∉ map := by
  rw [mem_iff_exists_getElem?]
  cases map[key]? <;> simp

variable [LawfulEqCmp order]

theorem mem_map_fst_toList {map : TreeMap Key Value order} {key : Key} :
    key ∈ map.toList.map Prod.fst ↔ key ∈ map := by
  rw [TreeMap.map_fst_toList_eq_keys, TreeMap.mem_keys]

theorem getElem?_insert_of_ne {map : TreeMap Key Value order} {key other : Key} {value : Value}
    (different : other ≠ key) : (map.insert key value)[other]? = map[other]? := by
  rw [TreeMap.getElem?_insert, if_neg]
  intro same
  exact different (LawfulEqCmp.eq_of_compare same).symm

theorem getElem?_insert_eq_ite [DecidableEq Key] {map : TreeMap Key Value order} {key other : Key}
    {value : Value} :
    (map.insert key value)[other]? = if other = key then some value else map[other]? := by
  split
  · next same => rw [same, TreeMap.getElem?_insert_self]
  · next different => exact getElem?_insert_of_ne different

theorem getElem?_insertIfNew_self {map : TreeMap Key Value order} {key : Key} {value : Value} :
    (map.insertIfNew key value)[key]? = some (map[key]?.getD value) := by
  rw [TreeMap.getElem?_insertIfNew]
  cases found : map[key]? with
  | none => simp [getElem?_eq_none_iff.mp found]
  | some stored =>
      have member : key ∈ map := mem_iff_exists_getElem?.mpr ⟨stored, found⟩
      simp [member]

theorem getElem?_insertIfNew_of_ne {map : TreeMap Key Value order} {key other : Key}
    {value : Value} (different : other ≠ key) :
    (map.insertIfNew key value)[other]? = map[other]? := by
  rw [TreeMap.getElem?_insertIfNew, if_neg]
  intro same
  exact different (LawfulEqCmp.eq_of_compare same.1).symm

theorem getElem?_erase_of_ne {map : TreeMap Key Value order} {key other : Key}
    (different : other ≠ key) : (map.erase key)[other]? = map[other]? := by
  rw [TreeMap.getElem?_erase, if_neg]
  intro same
  exact different (LawfulEqCmp.eq_of_compare same).symm

theorem getElem?_erase_eq_ite [DecidableEq Key] {map : TreeMap Key Value order} {key other : Key} :
    (map.erase key)[other]? = if other = key then none else map[other]? := by
  split
  · next same => rw [same, TreeMap.getElem?_erase_self]
  · next different => exact getElem?_erase_of_ne different

theorem mem_erase_iff {map : TreeMap Key Value order} {key other : Key} :
    other ∈ map.erase key ↔ other ≠ key ∧ other ∈ map := by
  rw [TreeMap.mem_erase, Ne, LawfulEqCmp.compare_eq_iff_eq, Ne, eq_comm]

theorem mem_insert_iff {map : TreeMap Key Value order} {key other : Key} {value : Value} :
    other ∈ map.insert key value ↔ other = key ∨ other ∈ map := by
  rw [TreeMap.mem_insert, LawfulEqCmp.compare_eq_iff_eq, eq_comm]

/-- Maps with the same keys list them alike. -/
theorem keys_congr {Other : Type} {map : TreeMap Key Value order} {other : TreeMap Key Other order}
    (same : ∀ key, key ∈ map ↔ key ∈ other) : map.keys = other.keys := by
  have permuted : map.keys.Perm other.keys :=
    (List.perm_ext_iff_of_nodup TreeMap.nodup_keys TreeMap.nodup_keys).mpr fun key => by
      rw [TreeMap.mem_keys, TreeMap.mem_keys, same]
  refine permuted.eq_of_pairwise (fun first second _ _ before after => ?_) TreeMap.ordered_keys
    TreeMap.ordered_keys
  rw [OrientedCmp.gt_of_lt before] at after
  cases after

/-- A map built with one value for all its keys holds no other. -/
theorem eq_of_getElem?_ofList {keys : List Key} {value other : Value} {key : Key}
    (found : (TreeMap.ofList (keys.map fun key => (key, value)) order)[key]? = some other) :
    other = value := by
  have inserted : ∀ (keys : List Key) (map : TreeMap Key Value order),
      (∀ (key : Key) (other : Value), map[key]? = some other → other = value) →
      ∀ (key : Key) (other : Value),
        (map.insertMany (keys.map fun key => (key, value)))[key]? = some other →
          other = value := by
    intro keys
    induction keys with
    | nil => exact fun _ only => only
    | cons first rest inductionHypothesis =>
        intro map only
        rw [List.map_cons, TreeMap.insertMany_cons]
        refine inductionHypothesis _ fun key other there => ?_
        by_cases same : key = first
        · subst same
          rw [TreeMap.getElem?_insert_self] at there
          exact (Option.some.inj there).symm
        · rw [getElem?_insert_of_ne same] at there
          exact only key other there
  exact inserted keys ∅ (by simp) key other found

/-- A sum over the entries of a map that counts only those of one key. -/
theorem sum_toList_ite [DecidableEq Key] (map : TreeMap Key Value order) (key : Key)
    (weigh : Value → Nat) :
    (map.toList.map fun entry => if entry.1 = key then weigh entry.2 else 0).sum =
      (map[key]?.map weigh).getD 0 := by
  have none : ∀ entries : List (Key × Value), key ∉ entries.map Prod.fst →
      (entries.map fun entry => if entry.1 = key then weigh entry.2 else 0).sum = 0 := by
    intro entries absent
    rw [List.sum_eq_zero]
    intro term member
    obtain ⟨entry, there, rfl⟩ := List.mem_map.mp member
    rw [if_neg]
    rintro rfl
    exact absent (List.mem_map_of_mem there)
  have one : ∀ (entries : List (Key × Value)) (value : Value), (entries.map Prod.fst).Nodup →
      (key, value) ∈ entries →
      (entries.map fun entry => if entry.1 = key then weigh entry.2 else 0).sum = weigh value := by
    intro entries value distinct member
    induction entries with
    | nil => cases member
    | cons entry rest inductionHypothesis =>
        rw [List.map_cons, List.nodup_cons] at distinct
        rw [List.map_cons, List.sum_cons]
        rcases List.mem_cons.mp member with rfl | inRest
        · rw [if_pos rfl, none rest distinct.1, Nat.add_zero]
        · rw [if_neg, inductionHypothesis distinct.2 inRest, Nat.zero_add]
          rintro rfl
          exact distinct.1 (List.mem_map.mpr ⟨_, inRest, rfl⟩)
  cases found : map[key]? with
  | none =>
      refine none map.toList ?_
      rw [mem_map_fst_toList]
      exact getElem?_eq_none_iff.mp found
  | some value =>
      exact one map.toList value (nodup_map_fst_toList map)
        (TreeMap.mem_toList_iff_getElem?_eq_some.mpr found)

theorem size_eq_zero_iff {map : TreeMap Key Value order} :
    map.size = 0 ↔ ∀ key, key ∉ map := by
  rw [← TreeMap.length_keys, List.length_eq_zero_iff, List.eq_nil_iff_forall_not_mem]
  simp only [TreeMap.mem_keys]

/-- A map whose keys are all in a list has at most as many entries. -/
theorem size_le_length {map : TreeMap Key Value order} {keys : List Key}
    (within : ∀ key ∈ map, key ∈ keys) : map.size ≤ keys.length := by
  rw [← TreeMap.length_keys]
  apply List.Subperm.length_le
  apply List.subperm_of_subset TreeMap.nodup_keys
  intro key member
  exact within key (TreeMap.mem_keys.mp member)

/-- A map holds `key` and nothing else exactly when it has one entry and `key`
is in it. -/
theorem size_eq_one_and_mem_iff {map : TreeMap Key Value order} {key : Key} :
    (map.size = 1 ∧ key ∈ map) ↔ ∀ other, other ∈ map ↔ other = key := by
  rw [← TreeMap.length_keys]
  simp only [← TreeMap.mem_keys]
  constructor
  · rintro ⟨one, member⟩ other
    obtain ⟨only, keys⟩ := List.length_eq_one_iff.mp one
    rw [keys, List.mem_singleton] at member ⊢
    rw [member]
  · intro only
    have keys : map.keys = [key] :=
      List.perm_singleton.mp
        ((List.perm_ext_iff_of_nodup TreeMap.nodup_keys (List.nodup_singleton key)).mpr
          fun other => by rw [only other, List.mem_singleton])
    rw [keys]
    simp

end Entries

end OrderedMap
