import DdsPipe.Library.OrderedMap

/-!
Owns the nodes of a YAML document and the reader's generic part: the search for a
tag, the reading of scalars, lists, sets and enumerations, of integers with a lower
bound, and of the optional fields of a configuration, with the texts of the errors.

Owns when each of them succeeds, and with which value.

Does not own: the conversion of a scalar's text to a number or a truth value, which
is the YAML library's, and the names of types, which are the compiler's.
-/

namespace DdsPipe.Yaml

open Std (TreeMap TreeSet)

/-! ### Nodes -/

/-- `YAML::Node`. The entries of a map stand under the texts of their keys; a key
that is no scalar is found by no tag. A tag that has been added to a map, and under
which nothing has been written yet, holds an undefined node. -/
inductive Node where
  | undefined
  | null
  | scalar (text : String)
  | sequence (elements : List Node)
  | map (entries : List (String × Node))

structure ConfigurationException where
  what : String
deriving DecidableEq, Repr

namespace Node

/-- `Node::operator bool`. -/
def isDefined : Node → Bool
  | .undefined => false
  | _ => true

/-- `yml[tag]` on a node that is read only, where it is defined. -/
def find (yml : Node) (tag : String) : Option Node :=
  match yml with
  | .map entries => (entries.lookup tag).filter isDefined
  | _ => none

/-- A tag may be looked for in a map, and in an empty node. -/
def Searchable (yml : Node) : Prop :=
  match yml with
  | .map _ | .null => True
  | _ => False

end Node

/-! ### Tags -/

/-- `catch` and throw again, with more of the way to the error. -/
def rethrow {Value : Type} (context : String) :
    Except ConfigurationException Value → Except ConfigurationException Value :=
  Except.mapError fun exception => ⟨context ++ exception.what⟩

def isTagPresent (yml : Node) (tag : String) : Except ConfigurationException Bool :=
  match yml with
  | .map _ | .null => .ok (yml.find tag).isSome
  | _ => .error ⟨"Trying to find a tag: <" ++ tag ++ "> in a not yaml object map."⟩

def getValueInTag (yml : Node) (tag : String) : Except ConfigurationException Node :=
  (isTagPresent yml tag).bind fun _ =>
    match yml.find tag with
    | some value => .ok value
    | none => .error ⟨"Required tag not found: <" ++ tag ++ ">."⟩

/-! ### Values -/

/-- A type of scalars: its name, and its conversion with the text of the library's
error. -/
structure ScalarType (Value : Type) where
  typeName : String
  parse : String → Except String Value

/-- Every scalar is a string. -/
def stringType (typeName : String) : ScalarType String where
  typeName := typeName
  parse := .ok

/-- A reader of the values of a type. -/
structure Reader (Value : Type) where
  typeName : String
  get : Node → Except ConfigurationException Value

def getScalar {Value : Type} (type : ScalarType Value) (yml : Node) :
    Except ConfigurationException Value :=
  match yml with
  | .scalar text =>
      match type.parse text with
      | .ok value => .ok value
      | .error what =>
          .error ⟨"Incorrect format for primitive value, expected <" ++ type.typeName ++
            ">:\n " ++ what⟩
  | _ =>
      .error ⟨"Trying to read a primitive value of type <" ++ type.typeName ++
        "> from a non scalar yaml."⟩

/-- `get<T>` of a type of scalars. -/
def scalarReader {Value : Type} (type : ScalarType Value) : Reader Value where
  typeName := type.typeName
  get := getScalar type

/-- `get<T>` under a tag. -/
def getInTag {Value : Type} (reader : Reader Value) (yml : Node) (tag : String) :
    Except ConfigurationException Value :=
  rethrow ("Error getting required value of type <" ++ reader.typeName ++ "> in tag <" ++ tag ++
    "> :\n ") ((getValueInTag yml tag).bind reader.get)

def getList {Value : Type} (reader : Reader Value) (yml : Node) :
    Except ConfigurationException (List Value) :=
  match yml with
  | .sequence elements =>
      rethrow ("Error reading yaml sequence of type <" ++ reader.typeName ++ "> :\n ")
        (elements.mapM reader.get)
  | _ => .error ⟨"Incorrect format, yaml Sequence expected."⟩

def getListInTag {Value : Type} (reader : Reader Value) (yml : Node) (tag : String) :
    Except ConfigurationException (List Value) :=
  rethrow ("Error reading yaml list under tag <" ++ tag ++ "> :\n ")
    ((getValueInTag yml tag).bind (getList reader))

/-- `get_set` of a type that is ordered by all that it holds. -/
def getSetInTag {Value : Type} [Ord Value] (reader : Reader Value) (yml : Node) (tag : String) :
    Except ConfigurationException (TreeSet Value) :=
  (getListInTag reader yml tag).map fun values => TreeSet.ofList values

def getEnumeration {Value : Type} (typeName : String) (string : ScalarType String)
    (enumValues : List (String × Value)) (yml : Node) : Except ConfigurationException Value :=
  (getScalar string yml).bind fun text =>
    match enumValues.lookup text with
    | some value => .ok value
    | none =>
        .error ⟨"Value <" ++ text ++ "> is not valid in enumeration <" ++ typeName ++ "."⟩

/-- `get_scalar` under a tag, and the check of its lower bound. -/
def getBounded {Value : Type} (kind : String) (get : Except ConfigurationException Value)
    (accepts : Value → Bool) (refusal : String) (tag : String) :
    Except ConfigurationException Value :=
  (rethrow ("Error reading " ++ kind ++ " under tag <" ++ tag ++ "> :\n ") get).bind fun value =>
    if accepts value then .ok value
    else .error ⟨"Error reading " ++ kind ++ " under tag <" ++ tag ++ "> : " ++ refusal⟩

/-- An integer is read with its sign, so that a negative one is noticed. -/
def getNonnegativeInt (int : ScalarType Int) (yml : Node) (tag : String) :
    Except ConfigurationException Int :=
  getBounded "nonnegative integer" ((getValueInTag yml tag).bind (getScalar int))
    (fun value => decide (0 ≤ value)) "value is negative." tag

def getPositiveInt (int : ScalarType Int) (yml : Node) (tag : String) :
    Except ConfigurationException Int :=
  getBounded "positive integer" (getNonnegativeInt int yml tag)
    (fun value => decide (0 < value)) "value is not greater than 0." tag

/-- `if (is_tag_present(yml, tag)) field = get(yml, tag);` on a field. -/
def getOptional {Value : Type} (yml : Node) (tag : String)
    (get : Node → String → Except ConfigurationException Value) (field : Value) :
    Except ConfigurationException Value :=
  (isTagPresent yml tag).bind fun present => if present then get yml tag else .ok field

/-! ### When reading succeeds -/

section Succeeds

variable {Value : Type} {yml : Node} {tag : String}

@[simp] theorem bind_eq_ok {First Second : Type} {first : Except ConfigurationException First}
    {second : First → Except ConfigurationException Second} {result : Second} :
    first.bind second = .ok result ↔ ∃ middle, first = .ok middle ∧ second middle = .ok result :=
  OrderedMap.bind_eq_ok_iff

@[simp] theorem rethrow_eq_ok {context : String} {outcome : Except ConfigurationException Value}
    {value : Value} : rethrow context outcome = .ok value ↔ outcome = .ok value := by
  cases outcome <;> simp [rethrow, Except.mapError]

theorem searchable_of_find {value : Node} (found : yml.find tag = some value) :
    yml.Searchable := by
  cases yml with
  | map entries => trivial
  | undefined | null | scalar text | sequence elements => cases found

theorem isTagPresent_eq_ok {present : Bool} :
    isTagPresent yml tag = .ok present ↔ yml.Searchable ∧ (yml.find tag).isSome = present := by
  cases yml with
  | map entries => simp [isTagPresent, Node.Searchable]
  | null => simp [isTagPresent, Node.Searchable]
  | undefined | scalar text | sequence elements => simp [isTagPresent, Node.Searchable]

@[simp] theorem getValueInTag_eq_ok {value : Node} :
    getValueInTag yml tag = .ok value ↔ yml.find tag = some value := by
  rw [getValueInTag, bind_eq_ok]
  constructor
  · intro ⟨_, _, read⟩
    cases found : yml.find tag with
    | none => simp [found] at read
    | some stored => simpa [found] using read
  · intro found
    exact ⟨true, isTagPresent_eq_ok.mpr ⟨searchable_of_find found, by rw [found]; rfl⟩,
      by rw [found]⟩

theorem getScalar_eq_ok {type : ScalarType Value} {value : Value} :
    getScalar type yml = .ok value ↔ ∃ text, yml = .scalar text ∧ type.parse text = .ok value := by
  cases yml with
  | scalar text =>
      unfold getScalar
      cases parsed : type.parse text with
      | error what => simp [parsed]
      | ok other => simp [parsed]
  | undefined | null | sequence elements | map entries => simp [getScalar]

theorem getScalar_string {typeName text : String} :
    getScalar (stringType typeName) yml = .ok text ↔ yml = .scalar text := by
  rw [getScalar_eq_ok]
  simp [stringType]

theorem getInTag_eq_ok {reader : Reader Value} {value : Value} :
    getInTag reader yml tag = .ok value ↔
      ∃ node, yml.find tag = some node ∧ reader.get node = .ok value := by
  simp [getInTag]

theorem getInTag_string {typeName text : String} :
    getInTag (scalarReader (stringType typeName)) yml tag = .ok text ↔
      yml.find tag = some (.scalar text) := by
  rw [getInTag_eq_ok]
  simp [scalarReader, getScalar_string]

/-- **A list** is read element by element. -/
theorem getList_eq_ok {reader : Reader Value} {values : List Value} :
    getList reader yml = .ok values ↔ ∃ elements, yml = .sequence elements ∧
      List.Forall₂ (fun element value => reader.get element = .ok value) elements values := by
  have each : ∀ (elements : List Node) (values : List Value),
      elements.mapM reader.get = .ok values ↔
        List.Forall₂ (fun element value => reader.get element = .ok value) elements values := by
    intro elements
    induction elements with
    | nil =>
        intro values
        simp [pure, Except.pure, eq_comm]
    | cons element rest inductionHypothesis =>
        intro values
        rw [List.mapM_cons, OrderedMap.bind_eq_ok_iff]
        constructor
        · intro ⟨first, read, continued⟩
          obtain ⟨others, remaining, done⟩ := OrderedMap.bind_eq_ok_iff.mp continued
          cases done
          exact .cons read ((inductionHypothesis others).mp remaining)
        · intro all
          cases all with
          | cons read remaining =>
              exact ⟨_, read, OrderedMap.bind_eq_ok_iff.mpr
                ⟨_, (inductionHypothesis _).mpr remaining, rfl⟩⟩
  cases yml with
  | sequence elements => simp [getList, each]
  | undefined | null | scalar text | map entries => simp [getList]

theorem getListInTag_eq_ok {reader : Reader Value} {values : List Value} :
    getListInTag reader yml tag = .ok values ↔
      ∃ node, yml.find tag = some node ∧ getList reader node = .ok values := by
  simp [getListInTag]

/-- A list of strings is a sequence of scalars. -/
theorem getList_string {typeName : String} {texts : List String} :
    getList (scalarReader (stringType typeName)) yml = .ok texts ↔
      yml = .sequence (texts.map .scalar) := by
  have each : ∀ (elements : List Node) (texts : List String),
      List.Forall₂ (fun element text =>
        (scalarReader (stringType typeName)).get element = .ok text) elements texts ↔
          elements = texts.map Node.scalar := by
    intro elements texts
    rw [← List.forall₂_eq_eq_eq, List.forall₂_map_right_iff]
    simp only [scalarReader, getScalar_string]
  simp only [getList_eq_ok, each]
  simp

theorem getBounded_eq_ok {kind refusal : String} {get : Except ConfigurationException Value}
    {accepts : Value → Bool} {value : Value} :
    getBounded kind get accepts refusal tag = .ok value ↔
      get = .ok value ∧ accepts value = true := by
  rw [getBounded, bind_eq_ok]
  constructor
  · intro ⟨read, done, checked⟩
    rw [rethrow_eq_ok] at done
    split at checked
    · cases checked
      exact ⟨done, by assumption⟩
    · cases checked
  · intro ⟨done, accepted⟩
    exact ⟨value, rethrow_eq_ok.mpr done, by rw [if_pos accepted]⟩

/-- **A positive integer** is read from the scalar of a positive integer, and from
nothing else. -/
theorem getPositiveInt_eq_ok {int : ScalarType Int} {value : Int} :
    getPositiveInt int yml tag = .ok value ↔
      (∃ text, yml.find tag = some (.scalar text) ∧ int.parse text = .ok value) ∧ 0 < value := by
  rw [getPositiveInt, getBounded_eq_ok, getNonnegativeInt, getBounded_eq_ok]
  simp only [bind_eq_ok, getValueInTag_eq_ok, getScalar_eq_ok, decide_eq_true_eq]
  constructor
  · intro read
    obtain ⟨⟨⟨_, found, text, rfl, parsed⟩, _⟩, positive⟩ := read
    exact ⟨⟨text, found, parsed⟩, positive⟩
  · intro ⟨⟨text, found, parsed⟩, positive⟩
    exact ⟨⟨⟨.scalar text, found, text, rfl, parsed⟩, by omega⟩, positive⟩

/-- **An optional field** keeps its value where the tag is missing. -/
theorem getOptional_eq_ok {get : Node → String → Except ConfigurationException Value}
    {field value : Value} : getOptional yml tag get field = .ok value ↔
      yml.Searchable ∧
        if (yml.find tag).isSome then get yml tag = .ok value else value = field := by
  rw [getOptional, bind_eq_ok]
  constructor
  · intro ⟨present, checked, read⟩
    obtain ⟨searchable, rfl⟩ := isTagPresent_eq_ok.mp checked
    refine ⟨searchable, ?_⟩
    split
    · rwa [if_pos (by assumption)] at read
    · rw [if_neg (by assumption)] at read
      cases read
      rfl
  · intro ⟨searchable, read⟩
    refine ⟨_, isTagPresent_eq_ok.mpr ⟨searchable, rfl⟩, ?_⟩
    split at read
    · rwa [if_pos (by assumption)]
    · rw [if_neg (by assumption), read]

end Succeeds

end DdsPipe.Yaml
