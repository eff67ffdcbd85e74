import DdsPipe.Types.Topic

/-!
Owns the lists of allowed and blocked topics: the interface of their filters,
the reduction of a list to filters that do not contain each other, and the
verdict on a topic and on a service.

Owns the wildcard filter of DDS topics. The pattern language and the print of an
optional value belong to the utilities library, which is not part of this
repository; both are parameters (`CppUtils`).
-/

namespace DdsPipe.Dynamic

open Std (TreeMap)
open DdsPipe.Types

/-- `IFilterTopic`: what a filter of topics has to provide. -/
class IFilterTopic (Filter : Type) where
  contains : Filter → Filter → Bool
  matchesTopic : Filter → DdsTopic → Bool
  serialize : Filter → String

/-- A filter that sees of a topic only its name and its type name. -/
class FiltersByName (Filter : Type) [IFilterTopic Filter] : Prop where
  matches_congr : ∀ (filter : Filter) (topic other : DdsTopic),
    topic.topicName = other.topicName → topic.typeName = other.typeName →
      IFilterTopic.matchesTopic filter topic = IFilterTopic.matchesTopic filter other

/-! ### Wildcard filters -/

/-- What the wildcard filter uses of the utilities library. -/
class CppUtils where
  matchPattern : (pattern text : String) → Bool
  fuzzyToString : Option String → String

structure WildcardDdsFilterTopic where
  topicName : Option String := none
  typeName : Option String := none
deriving DecidableEq, Repr

namespace WildcardDdsFilterTopic

variable [CppUtils]

/-- The source compares the filters' types, and leaves the comparison of the
patterns to be implemented: no filter contains another. -/
def contains (_filter _other : WildcardDdsFilterTopic) : Bool := false

def matchesTopic (filter : WildcardDdsFilterTopic) (realTopic : DdsTopic) : Bool :=
  (match filter.topicName with
    | some pattern => CppUtils.matchPattern pattern realTopic.topicName
    | none => true) &&
  (match filter.typeName with
    | some pattern => CppUtils.matchPattern pattern realTopic.typeName
    | none => true)

def serialize (filter : WildcardDdsFilterTopic) : String :=
  "WildcardDdsFilterTopic\x7b" ++ CppUtils.fuzzyToString filter.topicName ++ ";" ++
    CppUtils.fuzzyToString filter.typeName ++ "\x7d"

instance : IFilterTopic WildcardDdsFilterTopic where
  contains := contains
  matchesTopic := matchesTopic
  serialize := serialize

instance : FiltersByName WildcardDdsFilterTopic where
  matches_congr filter topic other sameName sameType := by
    simp only [IFilterTopic.matchesTopic, matchesTopic, sameName, sameType]

end WildcardDdsFilterTopic

/-! ### Sets of filters -/

section

variable {Filter : Type} [IFilterTopic Filter]

/-- `IFilterTopic::operator <` compares the serializations the other way round. -/
def filterOrder (serialization other : String) : Ordering := compare other serialization

instance : Std.TransCmp filterOrder :=
  inferInstanceAs (Std.TransCmp fun serialization other : String => compare other serialization)

instance : Std.LawfulEqCmp filterOrder where
  compare_self := by simp [filterOrder]
  eq_of_compare same := (Std.compare_eq_iff_eq.mp same).symm

/-- A set of filters, keyed by their serialization. -/
abbrev FilterSet (Filter : Type) := TreeMap String Filter filterOrder

namespace FilterSet

/-- `std::set::insert`: an equal element that is there already stays. -/
def add (filters : FilterSet Filter) (filter : Filter) : FilterSet Filter :=
  filters.insertIfNew (IFilterTopic.serialize filter) filter

/-- The filters in the order of the set. -/
def filters (set : FilterSet Filter) : List Filter :=
  set.toList.map Prod.snd

def ofList (filters : List Filter) : FilterSet Filter :=
  filters.foldl add ∅

end FilterSet

/-- The inner loop of `get_topic_list_without_repetition_`: whether `newTopic` is
to be added, and the stored filters that it contains and that were met before a
stored filter that contains it. -/
def scanStored (newTopic : Filter) : List Filter → Bool × List Filter
  | [] => (true, [])
  | topicStored :: rest =>
      if IFilterTopic.contains topicStored newTopic then (false, [])
      else
        let (addIt, repeated) := scanStored newTopic rest
        if IFilterTopic.contains newTopic topicStored then (addIt, topicStored :: repeated)
        else (addIt, repeated)

/-- One round of its outer loop. -/
def addWithoutRepetition (nonRepeatedList : FilterSet Filter) (newTopic : Filter) :
    FilterSet Filter :=
  let (addIt, repeated) := scanStored newTopic nonRepeatedList.filters
  let remaining := repeated.foldl
    (fun filters filter => filters.erase (IFilterTopic.serialize filter)) nonRepeatedList
  if addIt then FilterSet.add remaining newTopic else remaining

def getTopicListWithoutRepetition (list : FilterSet Filter) : FilterSet Filter :=
  list.filters.foldl addWithoutRepetition ∅

/-! ### The lists -/

structure AllowedTopicList (Filter : Type) where
  allowlist : FilterSet Filter
  blocklist : FilterSet Filter

namespace AllowedTopicList

/-- The constructor from the two lists of a configuration. -/
def create (allowlist blocklist : FilterSet Filter) : AllowedTopicList Filter where
  allowlist := getTopicListWithoutRepetition allowlist
  blocklist := getTopicListWithoutRepetition blocklist

def isTopicAllowed (list : AllowedTopicList Filter) (topic : DdsTopic) : Bool :=
  (list.allowlist.isEmpty ||
      list.allowlist.filters.any fun filter => IFilterTopic.matchesTopic filter topic) &&
    !list.blocklist.filters.any fun filter => IFilterTopic.matchesTopic filter topic

def isServiceAllowed (list : AllowedTopicList Filter) (topic : RpcTopic) : Bool :=
  list.isTopicAllowed topic.requestTopic && list.isTopicAllowed topic.replyTopic

/-- `AllowedTopicList::operator ==`: equal filters are those with equal
serializations. -/
def same (list other : AllowedTopicList Filter) : Bool :=
  list.allowlist.keys == other.allowlist.keys && list.blocklist.keys == other.blocklist.keys

theorem isTopicAllowed_congr [FiltersByName Filter] (list : AllowedTopicList Filter)
    {topic other : DdsTopic} (sameName : topic.topicName = other.topicName)
    (sameType : topic.typeName = other.typeName) :
    list.isTopicAllowed topic = list.isTopicAllowed other := by
  simp only [isTopicAllowed, FiltersByName.matches_congr _ topic other sameName sameType]

end AllowedTopicList

end

end DdsPipe.Dynamic
