import DdsPipe.Communication.Routing
import DdsPipe.Yaml.YamlReader

/-!
Owns the reading of the routes sections of a configuration: the routes of the
participants, and the routes of single topics.

A section is accepted exactly when each of its elements is a route and no source,
or no topic, has two (`fillTopicRoutes_eq_ok`), and what is accepted sends the
samples of a topic where the document says (`destination_iff_written`).

Does not own: the check of the routes against the participants of the pipe, and the
reading of the sections of the applications.
-/

namespace DdsPipe.Yaml

open Std (TreeMap TreeSet)
open DdsPipe.Types DdsPipe.Configuration DdsPipe.Communication

/-! ### Reading -/

def routesTag : String := "routes"

def routesSrcTag : String := "src"

def routesDstTag : String := "dst"

def topicRoutesTag : String := "topic-routes"

def topicNameTag : String := "name"

def topicTypeNameTag : String := "type"

/-- What the errors print: the names of two types, and a topic. -/
structure Printed where
  stringName : String
  routesName : String
  topicText : DdsTopic → String

section Reading

variable (printed : Printed)

def Printed.string : Reader String :=
  scalarReader (stringType printed.stringName)

/-- The loop over the routes, for one of them. -/
def fillRoute (object : RoutesConfiguration) (routeYml : Node) :
    Except ConfigurationException RoutesConfiguration :=
  (isTagPresent routeYml routesSrcTag).bind fun present =>
    if present then
      (getInTag printed.string routeYml routesSrcTag).bind fun src =>
        if object.routes.contains src then
          .error ⟨"Multiple routes defined for participant " ++ src ++ " : only one allowed."⟩
        else
          (getOptional routeYml routesDstTag (getSetInTag printed.string) ∅).map fun dst =>
            { routes := object.routes.insert src dst }
    else
      .error ⟨"Source participant required under tag " ++ routesSrcTag ++ " in route definition."⟩

/-- `fill` of the routes. -/
def fillRoutes (object : RoutesConfiguration) (yml : Node) :
    Except ConfigurationException RoutesConfiguration :=
  match yml with
  | .sequence elements => elements.foldlM (fillRoute printed) object
  | _ =>
      .error ⟨"Custom forwarding routes must be specified in an array under tag: " ++ routesTag⟩

/-- `get` of the routes. -/
def routesReader : Reader RoutesConfiguration where
  typeName := printed.routesName
  get := fillRoutes printed {}

/-- `get` of a topic, which has a name and the name of a type. -/
def getTopic (yml : Node) : Except ConfigurationException DdsTopic :=
  (getInTag printed.string yml topicNameTag).bind fun topicName =>
    (getInTag printed.string yml topicTypeNameTag).map fun typeName =>
      { topicName := topicName, typeName := typeName }

/-- The loop over the topics that have routes, for one of them. -/
def fillTopicRoute (object : TopicRoutesConfiguration) (topicRoutesYml : Node) :
    Except ConfigurationException TopicRoutesConfiguration :=
  (isTagPresent topicRoutesYml topicNameTag).bind fun named =>
    (if named then isTagPresent topicRoutesYml topicTypeNameTag else .ok false).bind fun typed =>
      if !typed then
        .error ⟨"Topic routes require topic and type names to be defined under tags " ++
          topicNameTag ++ " and " ++ topicTypeNameTag ++ ", respectively."⟩
      else
        (getTopic printed topicRoutesYml).bind fun topic =>
          if object.topicRoutes.contains topic.topicUniqueName then
            .error ⟨"Multiple routes defined for topic " ++ printed.topicText topic ++
              " : only one allowed."⟩
          else
            (isTagPresent topicRoutesYml routesTag).bind fun present =>
              if present then
                (getInTag (routesReader printed) topicRoutesYml routesTag).map fun routes =>
                  { topicRoutes := object.topicRoutes.insert topic.topicUniqueName routes }
              else
                .error ⟨"No routes found under tag " ++ routesTag ++ " for topic " ++
                  printed.topicText topic ++ " ."⟩

/-- `fill` of the routes of the topics. -/
def fillTopicRoutes (object : TopicRoutesConfiguration) (yml : Node) :
    Except ConfigurationException TopicRoutesConfiguration :=
  match yml with
  | .sequence elements => elements.foldlM (fillTopicRoute printed) object
  | _ =>
      .error ⟨"Custom topic forwarding routes must be specified in an array under tag: " ++
        topicRoutesTag⟩

end Reading

/-! ### What a document says -/

/-- The route of a participant, as it is written. -/
abbrev WrittenRoute := ParticipantId × List ParticipantId

namespace Node

def text? : Node → Option String
  | .scalar text => some text
  | _ => none

def elements? : Node → Option (List Node)
  | .sequence elements => some elements
  | _ => none

/-- Without the tag of the destinations, there are none. -/
def destinations? (yml : Node) : Option (List ParticipantId) :=
  match yml.find routesDstTag with
  | none => some []
  | some dst => dst.elements?.bind fun ids => ids.mapM text?

def route? (yml : Node) : Option WrittenRoute :=
  ((yml.find routesSrcTag).bind text?).bind fun src =>
    yml.destinations?.map fun ids => (src, ids)

/-- The routes of a section, of which no two have one source. -/
def routes? (yml : Node) : Option (List WrittenRoute) :=
  (yml.elements?.bind fun elements => elements.mapM route?).filter fun routes =>
    decide (routes.map Prod.fst).Nodup

/-- A topic, and its routes. -/
def topicRoute? (yml : Node) : Option (DdsTopic × List WrittenRoute) :=
  ((yml.find topicNameTag).bind text?).bind fun topicName =>
    ((yml.find topicTypeNameTag).bind text?).bind fun typeName =>
      ((yml.find routesTag).bind routes?).map fun routes =>
        ({ topicName := topicName, typeName := typeName }, routes)

/-- The topics of a section, of which no two have one unique name. -/
def topicRoutes? (yml : Node) : Option (List (DdsTopic × List WrittenRoute)) :=
  (yml.elements?.bind fun elements => elements.mapM topicRoute?).filter fun entries =>
    decide (entries.map fun entry => entry.1.topicUniqueName).Nodup

end Node

/-- The routes as they are kept. -/
def keptRoutes (routes : List WrittenRoute) : RoutesConfiguration :=
  routes.foldl (fun kept route =>
    { routes := kept.routes.insert route.1 (TreeSet.ofList route.2) }) {}

def keptTopicRoutes (entries : List (DdsTopic × List WrittenRoute)) : TopicRoutesConfiguration :=
  entries.foldl (fun kept entry =>
    { topicRoutes := kept.topicRoutes.insert entry.1.topicUniqueName (keptRoutes entry.2) }) {}

/-! ### What is accepted -/

section Accepted

variable {printed : Printed}

theorem text?_eq_some {yml : Node} {text : String} :
    yml.text? = some text ↔ yml = .scalar text := by
  cases yml <;> simp [Node.text?]

theorem mapM_text? {elements : List Node} {texts : List String} :
    elements.mapM Node.text? = some texts ↔ elements = texts.map .scalar := by
  induction elements generalizing texts with
  | nil => simp [eq_comm]
  | cons element rest inductionHypothesis =>
      rw [List.mapM_cons]
      cases texts with
      | nil => simp [Option.bind_eq_some_iff]
      | cons first others =>
          simp [Option.bind_eq_some_iff, text?_eq_some, inductionHypothesis]

theorem elements?_eq_some {yml : Node} {elements : List Node} :
    yml.elements? = some elements ↔ yml = .sequence elements := by
  cases yml <;> simp [Node.elements?]

theorem getInTag_text? {yml : Node} {tag text : String} :
    getInTag printed.string yml tag = .ok text ↔
      (yml.find tag).bind Node.text? = some text := by
  rw [Printed.string, getInTag_string]
  simp [Option.bind_eq_some_iff, text?_eq_some]

theorem getOptional_destinations {yml : Node} (searchable : yml.Searchable)
    {dst : TreeSet ParticipantId} :
    getOptional yml routesDstTag (getSetInTag printed.string) ∅ = .ok dst ↔
      ∃ ids, yml.destinations? = some ids ∧ dst = TreeSet.ofList ids := by
  rw [getOptional_eq_ok, Node.destinations?]
  simp only [searchable, true_and]
  cases found : yml.find routesDstTag with
  | none => simp [eq_comm]
  | some node =>
      simp only [Option.isSome_some, if_true, getSetInTag, OrderedMap.map_eq_ok_iff,
        getListInTag_eq_ok, found, Option.some.injEq, exists_eq_left', Printed.string,
        getList_string, Option.bind_eq_some_iff, elements?_eq_some, mapM_text?]
      constructor
      · intro read
        obtain ⟨ids, rfl, rfl⟩ := read
        exact ⟨ids, ⟨_, rfl, rfl⟩, rfl⟩
      · intro read
        obtain ⟨ids, ⟨elements, rfl, rfl⟩, rfl⟩ := read
        exact ⟨ids, rfl, rfl⟩

/-- **One route** is accepted when it is written as one and its source has none. -/
theorem fillRoute_eq_ok {object next : RoutesConfiguration} {routeYml : Node} :
    fillRoute printed object routeYml = .ok next ↔
      ∃ route, routeYml.route? = some route ∧ ¬ route.1 ∈ object.routes ∧
        next = { routes := object.routes.insert route.1 (TreeSet.ofList route.2) } := by
  unfold fillRoute Node.route?
  rw [bind_eq_ok]
  constructor
  · intro read
    obtain ⟨present, checked, read⟩ := read
    obtain ⟨searchable, _⟩ := isTagPresent_eq_ok.mp checked
    split at read
    · obtain ⟨src, readSrc, read⟩ := bind_eq_ok.mp read
      rw [getInTag_text?] at readSrc
      split at read
      · cases read
      · rename_i fresh
        obtain ⟨dst, readDst, rfl⟩ := OrderedMap.map_eq_ok_iff.mp read
        obtain ⟨ids, written, rfl⟩ := (getOptional_destinations searchable).mp readDst
        refine ⟨(src, ids), ?_, by simpa using fresh, rfl⟩
        rw [readSrc, Option.bind_some, written, Option.map_some]
    · cases read
  · intro written
    obtain ⟨route, written, fresh, rfl⟩ := written
    obtain ⟨src, readSrc, readDst⟩ := Option.bind_eq_some_iff.mp written
    obtain ⟨ids, destinations, rfl⟩ := Option.map_eq_some_iff.mp readDst
    obtain ⟨node, found, _⟩ := Option.bind_eq_some_iff.mp readSrc
    have searchable := searchable_of_find found
    refine ⟨true, isTagPresent_eq_ok.mpr ⟨searchable, by rw [found]; rfl⟩, ?_⟩
    rw [if_pos rfl, bind_eq_ok]
    refine ⟨src, getInTag_text?.mpr readSrc, ?_⟩
    rw [if_neg (by simpa using fresh)]
    exact OrderedMap.map_eq_ok_iff.mpr
      ⟨_, (getOptional_destinations searchable).mpr ⟨ids, destinations, rfl⟩, rfl⟩

/-- **The routes** are accepted when each is written as one and no source has two. -/
theorem fillRoutes_eq_ok {yml : Node} {configuration : RoutesConfiguration} :
    fillRoutes printed {} yml = .ok configuration ↔
      ∃ routes, yml.routes? = some routes ∧ configuration = keptRoutes routes := by
  have loop : ∀ elements : List Node,
      elements.foldlM (fillRoute printed) {} = .ok configuration ↔ ∃ routes,
        elements.mapM Node.route? = some routes ∧ (routes.map Prod.fst).Nodup ∧
          (∀ route ∈ routes, ¬ route.1 ∈ ({} : RoutesConfiguration).routes) ∧
            configuration = keptRoutes routes := by
    intro elements
    exact @OrderedMap.foldlM_distinct _ _ _ _ _ (fillRoute printed) Node.route? Prod.fst
      (fun kept route => { routes := kept.routes.insert route.1 (TreeSet.ofList route.2) })
      (fun kept src => src ∈ kept.routes) (fun _ _ _ => fillRoute_eq_ok)
      (fun _ _ _ => OrderedMap.mem_insert_iff) elements {} configuration
  unfold Node.routes?
  cases yml with
  | sequence elements =>
      show elements.foldlM (fillRoute printed) {} = .ok configuration ↔ _
      rw [loop]
      simp [Node.elements?, and_assoc]
  | undefined | null | scalar text | map entries => simp [fillRoutes, Node.elements?]

theorem getInTag_routes {yml : Node} {tag : String} {configuration : RoutesConfiguration} :
    getInTag (routesReader printed) yml tag = .ok configuration ↔
      ∃ routes, (yml.find tag).bind Node.routes? = some routes ∧
        configuration = keptRoutes routes := by
  rw [getInTag_eq_ok]
  simp only [routesReader, fillRoutes_eq_ok, Option.bind_eq_some_iff]
  constructor
  · intro read
    obtain ⟨node, found, routes, written, kept⟩ := read
    exact ⟨routes, ⟨node, found, written⟩, kept⟩
  · intro read
    obtain ⟨routes, ⟨node, found, written⟩, kept⟩ := read
    exact ⟨node, found, routes, written, kept⟩

theorem getTopic_eq_ok {yml : Node} {topic : DdsTopic} :
    getTopic printed yml = .ok topic ↔
      ∃ topicName typeName, (yml.find topicNameTag).bind Node.text? = some topicName ∧
        (yml.find topicTypeNameTag).bind Node.text? = some typeName ∧
          topic = { topicName := topicName, typeName := typeName } := by
  simp only [getTopic, bind_eq_ok, OrderedMap.map_eq_ok_iff, getInTag_text?]
  constructor
  · intro read
    obtain ⟨topicName, named, typeName, typed, rfl⟩ := read
    exact ⟨topicName, typeName, named, typed, rfl⟩
  · intro read
    obtain ⟨topicName, typeName, named, typed, rfl⟩ := read
    exact ⟨topicName, named, typeName, typed, rfl⟩

/-- **One topic** is accepted when it is written with its routes and has none. -/
theorem fillTopicRoute_eq_ok {object next : TopicRoutesConfiguration} {topicRoutesYml : Node} :
    fillTopicRoute printed object topicRoutesYml = .ok next ↔
      ∃ entry, topicRoutesYml.topicRoute? = some entry ∧
        ¬ entry.1.topicUniqueName ∈ object.topicRoutes ∧
        next = { topicRoutes :=
          object.topicRoutes.insert entry.1.topicUniqueName (keptRoutes entry.2) } := by
  unfold fillTopicRoute Node.topicRoute?
  rw [bind_eq_ok]
  constructor
  · intro read
    obtain ⟨named, _, read⟩ := read
    obtain ⟨typed, _, read⟩ := bind_eq_ok.mp read
    split at read
    · cases read
    · obtain ⟨topic, readTopic, read⟩ := bind_eq_ok.mp read
      obtain ⟨topicName, typeName, name, type, rfl⟩ := getTopic_eq_ok.mp readTopic
      split at read
      · cases read
      · rename_i fresh
        obtain ⟨present, _, read⟩ := bind_eq_ok.mp read
        split at read
        · obtain ⟨configuration, readRoutes, rfl⟩ := OrderedMap.map_eq_ok_iff.mp read
          obtain ⟨routes, written, rfl⟩ := getInTag_routes.mp readRoutes
          refine ⟨(_, routes), ?_, by simpa using fresh, rfl⟩
          rw [name, Option.bind_some, type, Option.bind_some, written, Option.map_some]
        · cases read
  · intro written
    obtain ⟨entry, written, fresh, rfl⟩ := written
    obtain ⟨topicName, name, rest⟩ := Option.bind_eq_some_iff.mp written
    obtain ⟨typeName, type, last⟩ := Option.bind_eq_some_iff.mp rest
    obtain ⟨routes, readRoutes, rfl⟩ := Option.map_eq_some_iff.mp last
    obtain ⟨nameNode, foundName, _⟩ := Option.bind_eq_some_iff.mp name
    obtain ⟨typeNode, foundType, _⟩ := Option.bind_eq_some_iff.mp type
    obtain ⟨routesNode, foundRoutes, _⟩ := Option.bind_eq_some_iff.mp readRoutes
    have searchable := searchable_of_find foundName
    refine ⟨true, isTagPresent_eq_ok.mpr ⟨searchable, by rw [foundName]; rfl⟩, ?_⟩
    rw [if_pos rfl, bind_eq_ok]
    refine ⟨true, isTagPresent_eq_ok.mpr ⟨searchable, by rw [foundType]; rfl⟩, ?_⟩
    rw [if_neg (by simp), bind_eq_ok]
    refine ⟨_, getTopic_eq_ok.mpr ⟨topicName, typeName, name, type, rfl⟩, ?_⟩
    rw [if_neg (by simpa using fresh), bind_eq_ok]
    refine ⟨true, isTagPresent_eq_ok.mpr ⟨searchable, by rw [foundRoutes]; rfl⟩, ?_⟩
    rw [if_pos rfl]
    exact OrderedMap.map_eq_ok_iff.mpr
      ⟨_, getInTag_routes.mpr ⟨routes, readRoutes, rfl⟩, rfl⟩

/-- **The routes of the topics** are accepted when each topic is written with its
routes and no topic is written twice. -/
theorem fillTopicRoutes_eq_ok {yml : Node} {configuration : TopicRoutesConfiguration} :
    fillTopicRoutes printed {} yml = .ok configuration ↔
      ∃ entries, yml.topicRoutes? = some entries ∧ configuration = keptTopicRoutes entries := by
  have loop : ∀ elements : List Node,
      elements.foldlM (fillTopicRoute printed) {} = .ok configuration ↔ ∃ entries,
        elements.mapM Node.topicRoute? = some entries ∧
          (entries.map fun entry => entry.1.topicUniqueName).Nodup ∧
            (∀ entry ∈ entries,
              ¬ entry.1.topicUniqueName ∈ ({} : TopicRoutesConfiguration).topicRoutes) ∧
              configuration = keptTopicRoutes entries := by
    intro elements
    exact @OrderedMap.foldlM_distinct _ _ _ _ _ (fillTopicRoute printed) Node.topicRoute?
      (fun entry => entry.1.topicUniqueName)
      (fun kept entry => { topicRoutes :=
        kept.topicRoutes.insert entry.1.topicUniqueName (keptRoutes entry.2) })
      (fun kept name => name ∈ kept.topicRoutes) (fun _ _ _ => fillTopicRoute_eq_ok)
      (fun _ _ _ => OrderedMap.mem_insert_iff) elements {} configuration
  unfold Node.topicRoutes?
  cases yml with
  | sequence elements =>
      show elements.foldlM (fillTopicRoute printed) {} = .ok configuration ↔ _
      rw [loop]
      simp [Node.elements?, and_assoc]
  | undefined | null | scalar text | map entries => simp [fillTopicRoutes, Node.elements?]

end Accepted

/-! ### What is accepted sends the samples where the document says -/

/-- A map that is filled with entries of different keys. -/
theorem getElem?_foldl_insert {Item Value : Type} (key : Item → String) (value : Item → Value)
    {items : List Item} (distinct : (items.map key).Nodup) (map : TreeMap String Value)
    (name : String) :
    (items.foldl (fun map item => map.insert (key item) (value item)) map)[name]? =
      ((items.find? fun item => decide (key item = name)).map value).or map[name]? := by
  induction items generalizing map with
  | nil => rfl
  | cons item rest inductionHypothesis =>
      rw [List.map_cons, List.nodup_cons] at distinct
      rw [List.foldl_cons, inductionHypothesis distinct.2, OrderedMap.getElem?_insert_eq_ite,
        List.find?_cons]
      by_cases same : key item = name
      · have absent : (rest.find? fun other => decide (key other = name)) = none := by
          rw [List.find?_eq_none]
          intro other member equal
          rw [decide_eq_true_eq, ← same] at equal
          exact distinct.1 (equal ▸ List.mem_map_of_mem member)
        simp [same, absent]
      · simp [same, Ne.symm same]

theorem getElem?_keptRoutes {routes : List WrittenRoute} (distinct : (routes.map Prod.fst).Nodup)
    (src : ParticipantId) :
    (keptRoutes routes).routes[src]? =
      (routes.find? fun route => decide (route.1 = src)).map fun route =>
        TreeSet.ofList route.2 := by
  have kept : (keptRoutes routes).routes = routes.foldl (fun map (route : WrittenRoute) =>
      map.insert route.1 (TreeSet.ofList route.2)) ∅ :=
    (List.foldl_hom RoutesConfiguration.routes fun _ _ => rfl).symm
  rw [kept]
  apply (getElem?_foldl_insert Prod.fst _ distinct ∅ src).trans
  simp

theorem getElem?_keptTopicRoutes {entries : List (DdsTopic × List WrittenRoute)}
    (distinct : (entries.map fun entry => entry.1.topicUniqueName).Nodup) (name : String) :
    (keptTopicRoutes entries).topicRoutes[name]? =
      (entries.find? fun entry => decide (entry.1.topicUniqueName = name)).map fun entry =>
        keptRoutes entry.2 := by
  have kept : (keptTopicRoutes entries).topicRoutes =
      entries.foldl (fun map (entry : DdsTopic × List WrittenRoute) =>
        map.insert entry.1.topicUniqueName (keptRoutes entry.2)) ∅ :=
    (List.foldl_hom TopicRoutesConfiguration.topicRoutes fun _ _ => rfl).symm
  rw [kept]
  apply (getElem?_foldl_insert (fun entry : DdsTopic × List WrittenRoute =>
    entry.1.topicUniqueName) _ distinct ∅ name).trans
  simp

/-- Where the samples of a source go: as its route says or, without one, to all
participants, and back to the source only if it is a repeater. -/
def WrittenDestination (participants : ParticipantsDatabase) (routes : List WrittenRoute)
    (source destination : ParticipantId) : Prop :=
  match routes.find? fun route => decide (route.1 = source) with
  | some route => destination ∈ route.2
  | none => destination ∈ participants ∧
      (destination ≠ source ∨ IsRepeater participants source)

/-- The routes that are written for a topic: its own, or those of all topics. -/
def writtenRoutes (routes : List WrittenRoute) (topics : List (DdsTopic × List WrittenRoute))
    (topic : DdsTopic) : List WrittenRoute :=
  match topics.find? fun entry => decide (entry.1.topicUniqueName = topic.topicUniqueName) with
  | some entry => entry.2
  | none => routes

theorem nodup_of_routes? {yml : Node} {routes : List WrittenRoute}
    (written : yml.routes? = some routes) : (routes.map Prod.fst).Nodup := by
  have kept := (Option.filter_eq_some_iff.mp written).2
  exact of_decide_eq_true kept

theorem nodup_of_topicRoute? {yml : Node} {entry : DdsTopic × List WrittenRoute}
    (written : yml.topicRoute? = some entry) : (entry.2.map Prod.fst).Nodup := by
  obtain ⟨_, _, rest⟩ := Option.bind_eq_some_iff.mp written
  obtain ⟨_, _, last⟩ := Option.bind_eq_some_iff.mp rest
  obtain ⟨routes, read, rfl⟩ := Option.map_eq_some_iff.mp last
  obtain ⟨_, _, readRoutes⟩ := Option.bind_eq_some_iff.mp read
  exact nodup_of_routes? readRoutes

/-- What has been read comes from some item. -/
theorem exists_of_mem_mapM {Item Value : Type} {read : Item → Option Value} {items : List Item}
    {values : List Value} (all : items.mapM read = some values) {value : Value}
    (member : value ∈ values) : ∃ item ∈ items, read item = some value := by
  induction items generalizing values with
  | nil =>
      cases all
      cases member
  | cons item rest inductionHypothesis =>
      rw [List.mapM_cons] at all
      obtain ⟨first, readFirst, others⟩ := Option.bind_eq_some_iff.mp all
      obtain ⟨remaining, readRest, done⟩ := Option.bind_eq_some_iff.mp others
      cases done
      rcases List.mem_cons.mp member with rfl | later
      · exact ⟨item, List.mem_cons_self, readFirst⟩
      · obtain ⟨other, there, readOther⟩ := inductionHypothesis readRest later
        exact ⟨other, List.mem_cons_of_mem _ there, readOther⟩

theorem destination_keptRoutes {participants : ParticipantsDatabase} {routes : List WrittenRoute}
    (distinct : (routes.map Prod.fst).Nodup) (source destination : ParticipantId) :
    Destination participants (keptRoutes routes).routes source destination ↔
      WrittenDestination participants routes source destination := by
  unfold Destination WrittenDestination
  rw [getElem?_keptRoutes distinct]
  cases routes.find? fun route => decide (route.1 = source) with
  | none => rfl
  | some route => simp

/-- **The samples go where the documents say**, for every topic and source of a
configuration that has been read from them. -/
theorem destination_iff_written {Filter : Type} {configuration : DdsPipeConfiguration Filter}
    {printed : Printed} {routesYml topicRoutesYml : Node}
    (readRoutes : fillRoutes printed {} routesYml = .ok configuration.routes)
    (readTopicRoutes : fillTopicRoutes printed {} topicRoutesYml = .ok configuration.topicRoutes) :
    ∃ routes topics, routesYml.routes? = some routes ∧ topicRoutesYml.topicRoutes? = some topics ∧
      ∀ participants topic source destination,
        Destination participants (configuration.getRoutesConfig topic).routes source destination ↔
          WrittenDestination participants (writtenRoutes routes topics topic) source
            destination := by
  obtain ⟨routes, written, kept⟩ := fillRoutes_eq_ok.mp readRoutes
  obtain ⟨topics, topicsWritten, topicsKept⟩ := fillTopicRoutes_eq_ok.mp readTopicRoutes
  obtain ⟨read, once⟩ := Option.filter_eq_some_iff.mp topicsWritten
  obtain ⟨elements, _, each⟩ := Option.bind_eq_some_iff.mp read
  refine ⟨routes, topics, written, topicsWritten, ?_⟩
  intro participants topic source destination
  unfold DdsPipeConfiguration.getRoutesConfig writtenRoutes
  rw [topicsKept, getElem?_keptTopicRoutes (of_decide_eq_true once)]
  cases found : topics.find? fun entry =>
      decide (entry.1.topicUniqueName = topic.topicUniqueName) with
  | none =>
      simp only [Option.map_none, kept]
      exact destination_keptRoutes (nodup_of_routes? written) source destination
  | some entry =>
      obtain ⟨element, _, readEntry⟩ := exists_of_mem_mapM each (List.mem_of_find?_eq_some found)
      exact destination_keptRoutes (nodup_of_topicRoute? readEntry) source destination

/-- A route from a to b, and no route back for one topic. -/
def oneWayRoutes : Node :=
  .sequence [.map [("src", .scalar "a"), ("dst", .sequence [.scalar "b"])]]

def chatterRoutes : Node :=
  .sequence [.map [("name", .scalar "chatter"), ("type", .scalar "String"),
    ("routes", .sequence [.map [("src", .scalar "b")]])]]

/-- The documents of `oneWayRoutes` and `chatterRoutes`, as they are read. -/
def oneWayConfiguration : DdsPipeConfiguration Unit where
  routes := keptRoutes [("a", ["b"])]
  topicRoutes :=
    keptTopicRoutes [({ topicName := "chatter", typeName := "String" }, [("b", [])])]

theorem destination_iff_written_oneWay :
    ∃ routes topics, oneWayRoutes.routes? = some routes ∧
      chatterRoutes.topicRoutes? = some topics ∧
      ∀ participants topic source destination,
        Destination participants (oneWayConfiguration.getRoutesConfig topic).routes source
            destination ↔
          WrittenDestination participants (writtenRoutes routes topics topic) source
            destination := by
  have printed : Printed := ⟨"string", "RoutesConfiguration", DdsTopic.topicName⟩
  exact @destination_iff_written Unit oneWayConfiguration printed oneWayRoutes chatterRoutes
    (fillRoutes_eq_ok.mpr ⟨_, by decide +kernel, rfl⟩)
    (fillTopicRoutes_eq_ok.mpr ⟨_, by decide +kernel, rfl⟩)

/-- **A section is accepted** exactly when it is written as one: each source, and
each topic, once. -/
theorem accepted_iff_written (printed : Printed) (yml : Node) :
    ((∃ routes, fillRoutes printed {} yml = .ok routes) ↔ yml.routes?.isSome) ∧
      ((∃ topicRoutes, fillTopicRoutes printed {} yml = .ok topicRoutes) ↔
        yml.topicRoutes?.isSome) := by
  simp only [Option.isSome_iff_exists, fillRoutes_eq_ok, fillTopicRoutes_eq_ok]
  constructor
  · exact ⟨fun ⟨_, routes, written, _⟩ => ⟨routes, written⟩,
      fun ⟨routes, written⟩ => ⟨_, routes, written, rfl⟩⟩
  · exact ⟨fun ⟨_, entries, written, _⟩ => ⟨entries, written⟩,
      fun ⟨entries, written⟩ => ⟨_, entries, written, rfl⟩⟩

end DdsPipe.Yaml
