import DdsPipe.Dynamic.AllowedTopicList
import DdsPipe.Library.Antichain
import DdsPipe.Library.OrderedMap

/-!
Owns what the reduction of a filter list keeps. The outer loop absorbs one filter
after another, so the reduced list is an antichain that covers the given one; the
inner loop leaves early only where nothing is to be removed, because the stored
filters are an antichain.

For filters whose `contains` is transitive and sound `get_topic_list_without_repetition_`
returns a reduction of its argument (`Reduces`), and the reduced lists allow the same
topics as the given ones (`reduction_of_soundContains`).
-/

namespace DdsPipe.Dynamic

open Std (TreeMap)
open DdsPipe.Types

variable {Filter : Type} [IFilterTopic Filter]

/-- `contains` is transitive, and a filter matches what the filters that it
contains match. -/
structure SoundContains (Filter : Type) [IFilterTopic Filter] : Prop where
  transitive : ∀ one two three : Filter, IFilterTopic.contains one two = true →
    IFilterTopic.contains two three = true → IFilterTopic.contains one three = true
  sound : ∀ (filter other : Filter) (topic : DdsTopic), IFilterTopic.contains filter other = true →
    IFilterTopic.matchesTopic other topic = true → IFilterTopic.matchesTopic filter topic = true

/-- The relation under which a filter list is reduced. -/
def Contains (filter other : Filter) : Prop :=
  IFilterTopic.contains filter other = true

/-! ### Filters by their serialization -/

namespace FilterSet

variable {set : FilterSet Filter} {filter other : Filter} {key : String}

/-- Every filter is at its own serialization. -/
def Keyed (set : FilterSet Filter) : Prop :=
  ∀ (key : String) (filter : Filter), set[key]? = some filter → IFilterTopic.serialize filter = key

theorem keyed_empty : Keyed (∅ : FilterSet Filter) := by
  intro key filter found
  simp at found

theorem getElem?_add (set : FilterSet Filter) (filter : Filter) (key : String) :
    (set.add filter)[key]? =
      if key = IFilterTopic.serialize filter then some (set[key]?.getD filter) else set[key]? := by
  unfold add
  split
  · next same =>
      subst same
      exact OrderedMap.getElem?_insertIfNew_self
  · next different => exact OrderedMap.getElem?_insertIfNew_of_ne different

theorem Keyed.add (keyed : set.Keyed) (filter : Filter) : (set.add filter).Keyed := by
  intro key stored found
  rw [getElem?_add] at found
  split at found
  · next same =>
      cases before : set[key]? with
      | none =>
          rw [before] at found
          cases found
          exact same.symm
      | some old =>
          rw [before] at found
          cases found
          exact keyed key _ before
  · exact keyed key stored found

theorem keyed_ofList (given : List Filter) : (ofList given).Keyed := by
  unfold ofList
  suffices grown : ∀ set : FilterSet Filter, set.Keyed → (given.foldl FilterSet.add set).Keyed from
    grown ∅ keyed_empty
  induction given with
  | nil => exact fun _ keyed => keyed
  | cons head tail inductionHypothesis =>
      intro set keyed
      exact inductionHypothesis _ (keyed.add head)

theorem mem_filters_iff (keyed : set.Keyed) :
    filter ∈ set.filters ↔ set[IFilterTopic.serialize filter]? = some filter := by
  unfold filters
  rw [List.mem_map]
  constructor
  · intro member
    obtain ⟨⟨key, stored⟩, listed, rfl⟩ := member
    have found := TreeMap.mem_toList_iff_getElem?_eq_some.mp listed
    rw [keyed key stored found]
    exact found
  · intro found
    exact ⟨_, TreeMap.mem_toList_iff_getElem?_eq_some.mpr found, rfl⟩

theorem eq_of_serialize_eq (keyed : set.Keyed) (member : filter ∈ set.filters)
    (present : other ∈ set.filters)
    (same : IFilterTopic.serialize filter = IFilterTopic.serialize other) : filter = other := by
  rw [mem_filters_iff keyed] at member present
  rw [same, present] at member
  exact (Option.some.inj member).symm

theorem map_serialize_filters (keyed : set.Keyed) :
    set.filters.map IFilterTopic.serialize = set.toList.map Prod.fst := by
  unfold filters
  rw [List.map_map]
  apply List.map_congr_left
  intro entry listed
  exact keyed entry.1 entry.2 (TreeMap.mem_toList_iff_getElem?_eq_some.mp listed)

omit [IFilterTopic Filter] in
theorem filters_eq_nil_iff : set.filters = [] ↔ set.isEmpty = true := by
  unfold filters
  rw [List.map_eq_nil_iff, ← TreeMap.isEmpty_toList, List.isEmpty_iff]

theorem getElem?_foldl_erase (repeated : List Filter) (set : FilterSet Filter) (key : String) :
    (repeated.foldl (fun filters filter =>
        filters.erase (IFilterTopic.serialize filter)) set)[key]? =
      if key ∈ repeated.map IFilterTopic.serialize then none else set[key]? := by
  induction repeated generalizing set with
  | nil => simp
  | cons head tail inductionHypothesis =>
      rw [List.foldl_cons, inductionHypothesis, OrderedMap.getElem?_erase_eq_ite, List.map_cons]
      by_cases later : key ∈ tail.map IFilterTopic.serialize
      · rw [if_pos later, if_pos (List.mem_cons_of_mem _ later)]
      · rw [if_neg later]
        by_cases first : key = IFilterTopic.serialize head
        · rw [if_pos first, if_pos (first ▸ List.mem_cons_self)]
        · rw [if_neg first, if_neg (fun member => (List.mem_cons.mp member).elim first later)]

theorem Keyed.foldl_erase (keyed : set.Keyed) (repeated : List Filter) :
    (repeated.foldl (fun filters filter =>
      filters.erase (IFilterTopic.serialize filter)) set).Keyed := by
  intro key filter stored
  rw [getElem?_foldl_erase] at stored
  split at stored
  · cases stored
  · exact keyed key filter stored

/-- What is left when some of the filters of a set are erased. -/
theorem mem_filters_foldl_erase_iff (keyed : set.Keyed) {repeated : List Filter}
    (present : ∀ other ∈ repeated, other ∈ set.filters) :
    filter ∈ (repeated.foldl (fun filters filter =>
        filters.erase (IFilterTopic.serialize filter)) set).filters ↔
      filter ∈ set.filters ∧ filter ∉ repeated := by
  have erased (member : filter ∈ set.filters) :
      IFilterTopic.serialize filter ∈ repeated.map IFilterTopic.serialize ↔ filter ∈ repeated := by
    constructor
    · intro listed
      obtain ⟨other, isRepeated, same⟩ := List.mem_map.mp listed
      rw [← eq_of_serialize_eq keyed (present other isRepeated) member same]
      exact isRepeated
    · exact List.mem_map_of_mem
  rw [mem_filters_iff (keyed.foldl_erase repeated), getElem?_foldl_erase]
  constructor
  · intro kept
    split at kept
    · cases kept
    · next free =>
        have member := (mem_filters_iff keyed).mpr kept
        exact ⟨member, fun isRepeated => free ((erased member).mpr isRepeated)⟩
  · intro both
    rw [if_neg fun listed => both.2 ((erased both.1).mp listed)]
    exact (mem_filters_iff keyed).mp both.1

/-- A filter with a new serialization is stored beside the others. -/
theorem mem_filters_add_iff (keyed : set.Keyed)
    (new : set[IFilterTopic.serialize other]? = none) :
    filter ∈ (set.add other).filters ↔ filter = other ∨ filter ∈ set.filters := by
  rw [mem_filters_iff (keyed.add other), getElem?_add, mem_filters_iff keyed]
  by_cases own : IFilterTopic.serialize filter = IFilterTopic.serialize other
  · rw [if_pos own, own, new, Option.getD_none]
    simp [eq_comm]
  · have different : filter ≠ other := fun same => own (congrArg _ same)
    rw [if_neg own]
    simp [different]

end FilterSet

/-! ### One round -/

variable {set : FilterSet Filter} {newTopic : Filter}

theorem scanStored_cons (newTopic head : Filter) (tail : List Filter) :
    scanStored newTopic (head :: tail) =
      if IFilterTopic.contains head newTopic then (false, [])
      else if IFilterTopic.contains newTopic head then
        ((scanStored newTopic tail).1, head :: (scanStored newTopic tail).2)
      else scanStored newTopic tail := rfl

/-- The stored filters that the inner loop collects. -/
theorem mem_repeated {stored : List Filter} {filter : Filter}
    (member : filter ∈ (scanStored newTopic stored).2) :
    filter ∈ stored ∧ Contains newTopic filter ∧ ¬ Contains filter newTopic := by
  induction stored with
  | nil => cases member
  | cons head tail inductionHypothesis =>
      rw [scanStored_cons] at member
      split at member
      · cases member
      · next free =>
          split at member
          · next contained =>
              rcases List.mem_cons.mp member with rfl | later
              · exact ⟨List.mem_cons_self, contained, free⟩
              · obtain ⟨there, rest⟩ := inductionHypothesis later
                exact ⟨List.mem_cons_of_mem head there, rest⟩
          · obtain ⟨there, rest⟩ := inductionHypothesis member
            exact ⟨List.mem_cons_of_mem head there, rest⟩

theorem scanStored_of_above {stored : List Filter}
    (above : ∃ filter ∈ stored, Contains filter newTopic) :
    (scanStored newTopic stored).1 = false := by
  induction stored with
  | nil =>
      obtain ⟨_, member, _⟩ := above
      cases member
  | cons head tail inductionHypothesis =>
      rw [scanStored_cons]
      split
      · rfl
      · next free =>
          have later : ∃ filter ∈ tail, Contains filter newTopic := by
            obtain ⟨filter, member, contained⟩ := above
            rcases List.mem_cons.mp member with rfl | there
            · exact absurd contained free
            · exact ⟨filter, there, contained⟩
          split
          · exact inductionHypothesis later
          · exact inductionHypothesis later

theorem scanStored_of_not_above {stored : List Filter}
    (uncovered : ¬ ∃ filter ∈ stored, Contains filter newTopic) :
    scanStored newTopic stored =
      (true, stored.filter fun filter => IFilterTopic.contains newTopic filter) := by
  induction stored with
  | nil => rfl
  | cons head tail inductionHypothesis =>
      have free : ¬ IFilterTopic.contains head newTopic = true :=
        fun contained => uncovered ⟨head, List.mem_cons_self, contained⟩
      have rest := inductionHypothesis fun above => by
        obtain ⟨filter, member, contained⟩ := above
        exact uncovered ⟨filter, List.mem_cons_of_mem head member, contained⟩
      rw [scanStored_cons, if_neg free, rest]
      by_cases contained : IFilterTopic.contains newTopic head = true
      · simp [contained]
      · simp [contained]

/-- Where a stored filter contains the new one there is nothing to remove. -/
theorem scanStored_of_antichain (transitive : SoundContains Filter)
    (antichain : IsAntichain Contains {filter | filter ∈ set.filters})
    (above : ∃ filter ∈ set.filters, Contains filter newTopic) :
    scanStored newTopic set.filters = (false, []) := by
  have first := scanStored_of_above above
  have second : (scanStored newTopic set.filters).2 = [] := by
    rw [List.eq_nil_iff_forall_not_mem]
    intro filter member
    obtain ⟨stored, contained, free⟩ := mem_repeated member
    obtain ⟨other, there, contains⟩ := above
    have different : other ≠ filter := by
      rintro rfl
      exact free contains
    exact antichain there stored different (transitive.transitive _ _ _ contains contained)
  exact Prod.ext first second

/-- One round of the outer loop absorbs the new filter. -/
theorem addWithoutRepetition_absorbs (transitive : SoundContains Filter) (keyed : set.Keyed)
    (antichain : IsAntichain Contains {filter | filter ∈ set.filters})
    (new : set[IFilterTopic.serialize newTopic]? = none) :
    (addWithoutRepetition set newTopic).Keyed ∧
      {filter | filter ∈ (addWithoutRepetition set newTopic).filters} =
        Antichain.absorb Contains {filter | filter ∈ set.filters} newTopic := by
  by_cases above : Antichain.Above Contains {filter | filter ∈ set.filters} newTopic
  · have same : addWithoutRepetition set newTopic = set := by
      rw [addWithoutRepetition, scanStored_of_antichain transitive antichain above]
      rfl
    rw [same]
    refine ⟨keyed, ?_⟩
    ext filter
    simp [Antichain.absorb, above]
  · let repeated := set.filters.filter fun filter => IFilterTopic.contains newTopic filter
    let remaining := repeated.foldl
      (fun filters filter => filters.erase (IFilterTopic.serialize filter)) set
    have round : addWithoutRepetition set newTopic = remaining.add newTopic := by
      rw [addWithoutRepetition, scanStored_of_not_above above]
      rfl
    have remains : remaining.Keyed := keyed.foldl_erase repeated
    have stillNew : remaining[IFilterTopic.serialize newTopic]? = none := by
      rw [FilterSet.getElem?_foldl_erase, new, ite_self]
    have kept (filter : Filter) : filter ∈ remaining.filters ↔
        filter ∈ set.filters ∧ ¬ Contains newTopic filter := by
      rw [FilterSet.mem_filters_foldl_erase_iff keyed fun _ listed => (List.mem_filter.mp listed).1]
      constructor
      · intro both
        exact ⟨both.1, fun contained => both.2 (List.mem_filter.mpr ⟨both.1, contained⟩)⟩
      · intro both
        exact ⟨both.1, fun listed => both.2 (List.mem_filter.mp listed).2⟩
    rw [round]
    refine ⟨remains.add newTopic, ?_⟩
    ext filter
    show filter ∈ (remaining.add newTopic).filters ↔ _
    rw [FilterSet.mem_filters_add_iff remains stillNew, kept, or_comm]
    simp [Antichain.absorb, above]

/-! ### The whole loop -/

theorem foldl_addWithoutRepetition (sound : SoundContains Filter) (order : List Filter)
    (keyed : set.Keyed) (antichain : IsAntichain Contains {filter | filter ∈ set.filters})
    (distinct : (order.map IFilterTopic.serialize).Nodup)
    (new : ∀ filter ∈ order, set[IFilterTopic.serialize filter]? = none) :
    (order.foldl addWithoutRepetition set).Keyed ∧
      {filter | filter ∈ (order.foldl addWithoutRepetition set).filters} =
        Antichain.absorbAll Contains {filter | filter ∈ set.filters} order := by
  induction order generalizing set with
  | nil => exact ⟨keyed, rfl⟩
  | cons head tail inductionHypothesis =>
      obtain ⟨fresh, rest⟩ := List.nodup_cons.mp distinct
      obtain ⟨nextKeyed, absorbed⟩ :=
        addWithoutRepetition_absorbs sound keyed antichain (new head List.mem_cons_self)
      have nextAntichain : IsAntichain Contains
          {filter | filter ∈ (addWithoutRepetition set head).filters} := by
        rw [absorbed]
        exact Antichain.isAntichain_absorb antichain head
      have nextNew : ∀ filter ∈ tail,
          (addWithoutRepetition set head)[IFilterTopic.serialize filter]? = none := by
        intro filter later
        by_contra found
        obtain ⟨stored, found⟩ := Option.ne_none_iff_exists'.mp found
        have same := nextKeyed _ stored found
        have member : stored ∈ {filter | filter ∈ (addWithoutRepetition set head).filters} := by
          apply (FilterSet.mem_filters_iff nextKeyed).mpr
          rw [same]
          exact found
        rw [absorbed] at member
        rcases Set.mem_insert_iff.mp (Antichain.absorb_subset member) with rfl | before
        · exact fresh (same ▸ List.mem_map_of_mem later)
        · have present := (FilterSet.mem_filters_iff keyed).mp before
          rw [same, new filter (List.mem_cons_of_mem head later)] at present
          cases present
      have whole := inductionHypothesis nextKeyed nextAntichain rest nextNew
      rw [absorbed] at whole
      exact whole

/-- The filters of a set, in any order, absorbed by the empty list. -/
theorem reduced_eq_absorbAll (sound : SoundContains Filter) {list : FilterSet Filter}
    (keyed : list.Keyed) {order : List Filter} (visited : order.Perm list.filters) :
    (order.foldl addWithoutRepetition ∅).Keyed ∧
      {filter | filter ∈ (order.foldl addWithoutRepetition ∅).filters} =
        Antichain.absorbAll Contains ∅ order := by
  have distinct : (order.map IFilterTopic.serialize).Nodup := by
    rw [(visited.map _).nodup_iff, FilterSet.map_serialize_filters keyed]
    exact OrderedMap.nodup_map_fst_toList list
  have nothing : {filter | filter ∈ (∅ : FilterSet Filter).filters} = (∅ : Set Filter) := by
    ext filter
    simp [FilterSet.mem_filters_iff FilterSet.keyed_empty]
  have whole := foldl_addWithoutRepetition sound order FilterSet.keyed_empty
    (nothing ▸ Set.pairwise_empty _) distinct fun _ _ => by simp
  rw [nothing] at whole
  exact whole

/-- A reduced list consists of given filters, matches the topics that the given ones
match, and none of its filters contains another. -/
structure Reduces (given reduced : FilterSet Filter) : Prop where
  kept : ∀ filter ∈ reduced.filters, filter ∈ given.filters
  matchesTopic : ∀ topic : DdsTopic,
    (∃ filter ∈ reduced.filters, IFilterTopic.matchesTopic filter topic = true) ↔
      ∃ filter ∈ given.filters, IFilterTopic.matchesTopic filter topic = true
  antichain : ∀ filter ∈ reduced.filters, ∀ other ∈ reduced.filters,
    IFilterTopic.contains filter other = true → filter = other

section Reduced

variable {list : FilterSet Filter} {order : List Filter}

theorem isAntichain_reduced (sound : SoundContains Filter) (keyed : list.Keyed)
    (visited : order.Perm list.filters) :
    IsAntichain Contains {filter | filter ∈ (order.foldl addWithoutRepetition ∅).filters} := by
  rw [(reduced_eq_absorbAll sound keyed visited).2]
  exact Antichain.isAntichain_absorbAll (Set.pairwise_empty _) order

theorem mem_of_mem_reduced (sound : SoundContains Filter) (keyed : list.Keyed)
    (visited : order.Perm list.filters) {filter : Filter}
    (member : filter ∈ (order.foldl addWithoutRepetition ∅).filters) : filter ∈ list.filters := by
  have absorbed : filter ∈ Antichain.absorbAll Contains ∅ order := by
    rw [← (reduced_eq_absorbAll sound keyed visited).2]
    exact member
  rcases Antichain.absorbAll_subset order absorbed with impossible | listed
  · cases impossible
  · exact visited.mem_iff.mp listed

/-- Every given filter is kept, or contained in one that is. -/
theorem covered_reduced (sound : SoundContains Filter) (keyed : list.Keyed)
    (visited : order.Perm list.filters) {filter : Filter} (member : filter ∈ list.filters) :
    ∃ kept ∈ (order.foldl addWithoutRepetition ∅).filters,
      kept = filter ∨ Contains kept filter := by
  have covered : filter ∈ Antichain.absorbAll Contains ∅ order ∨
      Antichain.Above Contains (Antichain.absorbAll Contains ∅ order) filter :=
    Antichain.covered_absorbAll sound.transitive order (.inl (visited.mem_iff.mpr member))
  rw [← (reduced_eq_absorbAll sound keyed visited).2] at covered
  rcases covered with here | above
  · exact ⟨filter, here, .inl rfl⟩
  · obtain ⟨kept, there, contained⟩ := above
    exact ⟨kept, there, .inr contained⟩

theorem matches_reduced_iff (sound : SoundContains Filter) (keyed : list.Keyed)
    (visited : order.Perm list.filters) (topic : DdsTopic) :
    (∃ filter ∈ (order.foldl addWithoutRepetition ∅).filters,
      IFilterTopic.matchesTopic filter topic = true) ↔
    ∃ filter ∈ list.filters, IFilterTopic.matchesTopic filter topic = true := by
  constructor
  · intro matched
    obtain ⟨filter, member, hit⟩ := matched
    exact ⟨filter, mem_of_mem_reduced sound keyed visited member, hit⟩
  · intro matched
    obtain ⟨filter, member, hit⟩ := matched
    obtain ⟨kept, there, same | contained⟩ := covered_reduced sound keyed visited member
    · exact ⟨kept, there, same ▸ hit⟩
    · exact ⟨kept, there, sound.sound kept filter topic contained hit⟩

theorem isEmpty_reduced (sound : SoundContains Filter) (keyed : list.Keyed)
    (visited : order.Perm list.filters) :
    (order.foldl addWithoutRepetition ∅).isEmpty = true ↔ list.filters = [] := by
  rw [← FilterSet.filters_eq_nil_iff, List.eq_nil_iff_forall_not_mem,
    List.eq_nil_iff_forall_not_mem]
  constructor
  · intro nothing filter member
    obtain ⟨kept, there, _⟩ := covered_reduced sound keyed visited member
    exact nothing kept there
  · intro nothing filter member
    exact nothing filter (mem_of_mem_reduced sound keyed visited member)

theorem reduces_of_perm (sound : SoundContains Filter) (keyed : list.Keyed)
    (visited : order.Perm list.filters) : Reduces list (order.foldl addWithoutRepetition ∅) where
  kept := fun _ member => mem_of_mem_reduced sound keyed visited member
  matchesTopic := matches_reduced_iff sound keyed visited
  antichain := by
    intro filter member other present contained
    by_contra different
    exact isAntichain_reduced sound keyed visited member present different contained

theorem reduces_getTopicListWithoutRepetition (sound : SoundContains Filter)
    (keyed : list.Keyed) : Reduces list (getTopicListWithoutRepetition list) :=
  reduces_of_perm sound keyed (.refl _)

end Reduced

/-- The lists are reductions of the given ones, and allow a topic as those say. -/
structure AllowsAsGiven (allowed blocked : FilterSet Filter) (list : AllowedTopicList Filter) :
    Prop where
  allowlist : Reduces allowed list.allowlist
  blocklist : Reduces blocked list.blocklist
  verdict : ∀ topic : DdsTopic, list.isTopicAllowed topic = true ↔
    (¬ ∃ filter ∈ blocked.filters, IFilterTopic.matchesTopic filter topic = true) ∧
    (allowed.filters = [] ∨
      ∃ filter ∈ allowed.filters, IFilterTopic.matchesTopic filter topic = true)

theorem allowsAsGiven_create (sound : SoundContains Filter) {allowed blocked : FilterSet Filter}
    (allowedKeyed : allowed.Keyed) (blockedKeyed : blocked.Keyed) :
    AllowsAsGiven allowed blocked (AllowedTopicList.create allowed blocked) where
  allowlist := reduces_getTopicListWithoutRepetition sound allowedKeyed
  blocklist := reduces_getTopicListWithoutRepetition sound blockedKeyed
  verdict := by
    intro topic
    have blocks := (reduces_getTopicListWithoutRepetition sound blockedKeyed).matchesTopic topic
    have allows := (reduces_getTopicListWithoutRepetition sound allowedKeyed).matchesTopic topic
    have unlisted := isEmpty_reduced sound allowedKeyed (.refl _)
    rw [← getTopicListWithoutRepetition] at unlisted
    simp only [AllowedTopicList.isTopicAllowed, AllowedTopicList.create, Bool.and_eq_true,
      Bool.or_eq_true, Bool.not_eq_true', List.any_eq_true, ← Bool.not_eq_true]
    rw [unlisted, allows, blocks]
    exact and_comm

/-- **The reduction of the lists.** A list without repetition is a reduction of the given
one, and would be in whatever order that one is visited; so a topic is allowed as the
given lists say. -/
theorem reduction_of_soundContains (sound : SoundContains Filter) :
    (∀ given : List Filter, Reduces (FilterSet.ofList given)
      (getTopicListWithoutRepetition (FilterSet.ofList given))) ∧
    (∀ given order : List Filter, order.Perm (FilterSet.ofList given).filters →
      Reduces (FilterSet.ofList given) (order.foldl addWithoutRepetition ∅)) ∧
    ∀ allowed blocked : List Filter,
      AllowsAsGiven (FilterSet.ofList allowed) (FilterSet.ofList blocked)
        (AllowedTopicList.create (FilterSet.ofList allowed) (FilterSet.ofList blocked)) := by
  have keyed (given : List Filter) := FilterSet.keyed_ofList given
  refine ⟨?_, ?_, ?_⟩
  · intro given
    exact reduces_getTopicListWithoutRepetition sound (keyed given)
  · intro given order visited
    exact reduces_of_perm sound (keyed given) visited
  · intro allowed blocked
    exact allowsAsGiven_create sound (keyed allowed) (keyed blocked)

/-- Filters of topic names: every name, or one. -/
inductive NameFilter where
  | every
  | named (name : String)
deriving DecidableEq, Repr

instance : IFilterTopic NameFilter where
  contains filter other := filter == .every || filter == other
  matchesTopic filter topic :=
    match filter with
    | .every => true
    | .named name => name == topic.topicName
  serialize filter :=
    match filter with
    | .every => ""
    | .named name => name

theorem soundContains_nameFilter : SoundContains NameFilter where
  transitive one two three first second := by
    simp only [IFilterTopic.contains, Bool.or_eq_true, beq_iff_eq] at first second ⊢
    rcases first with every | rfl
    · exact .inl every
    · exact second
  sound filter other topic contained hit := by
    simp only [IFilterTopic.contains, Bool.or_eq_true, beq_iff_eq] at contained
    rcases contained with rfl | rfl
    · rfl
    · exact hit

/-- A list that allows every topic and, once more, `a`. -/
theorem reduction_of_soundContains_names :
    (AllowedTopicList.create (FilterSet.ofList [NameFilter.named "a", .every])
      (FilterSet.ofList [.named "b"])).isTopicAllowed { topicName := "c" } = true := by
  apply (((reduction_of_soundContains soundContains_nameFilter).2.2 _ _).verdict _).mpr
  constructor
  · decide +kernel
  · exact .inr (by decide +kernel)

end DdsPipe.Dynamic
