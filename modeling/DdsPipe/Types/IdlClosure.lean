import DdsPipe.Library.OrderedMap
import DdsPipe.Types.IdlDefinitions

/-!
Owns which types an IDL text mentions and which it defines: the text is a sequence of
definitions (`generateIdlSchema_eq`), and each name that a definition mentions is
defined once exactly when the types behind maps and unions are reached in another way
too (`closed_iff`).

Does not own: the text of a definition.
-/

namespace DdsPipe.Types

open TreeWalk

namespace Idl

/-! ### What is defined and what is mentioned -/

/-- Different types have different names. -/
def HasDistinctNames (root : DynamicType) : Prop :=
  ∀ type ∈ root.parts, ∀ other ∈ root.parts, ∀ name,
    definedName type = some name → definedName other = some name → type = other

/-- The names that the definition of a type mentions. -/
def mentions : DynamicType → List String
  | .struct _ members => members.flatMap fun member => names member.2
  | .union _ discriminator members =>
      names discriminator ++ members.flatMap fun member => names member.2.2
  | _ => []

/-- The names that a type brings into the text without a node of their own: those of
the key and the value of a map, and of the discriminator and the members of a union. -/
def hiddenNames : DynamicType → List String
  | .map name key value => names (.map name key value)
  | .union name discriminator members => mentions (.union name discriminator members)
  | _ => []

/-- The name under which the loop over the nodes writes a node. -/
def nodeKey (node : TreeNode TreeNodeType) : Option String :=
  (definedName node.info.dynamicType).map fun _ => node.info.typeKindName

/-- The nodes that the loop writes. -/
def writtenNodes (allNodes : TreeNode TreeNodeType → List (TreeNode TreeNodeType))
    (parentNode : TreeNode TreeNodeType) : List (TreeNode TreeNodeType) :=
  firstOccurrences nodeKey [] (allNodes parentNode)

/-- The nodes that are defined in a text, the parent last. -/
def definedNodes (allNodes : TreeNode TreeNodeType → List (TreeNode TreeNodeType))
    (parentNode : TreeNode TreeNodeType) : List (TreeNode TreeNodeType) :=
  writtenNodes allNodes parentNode ++ [parentNode]

/-- The types that are defined in a text, that of the parent last. -/
def definedTypes (allNodes : TreeNode TreeNodeType → List (TreeNode TreeNodeType))
    (parentNode : TreeNode TreeNodeType) : List DynamicType :=
  (definedNodes allNodes parentNode).map fun node => node.info.dynamicType

/-- The text consists of the definitions of some types, which are those that are reached
and have a definition, and each name that a definition mentions is defined once. -/
structure Closed (allNodes : TreeNode TreeNodeType → List (TreeNode TreeNodeType))
    (dynamicType : DynamicType) (definitions : List DynamicType) : Prop where
  text : generateIdlSchema allNodes dynamicType =
    .ok (String.intercalate "\n" (definitions.map definitionText))
  defines : ∀ type, type ∈ definitions ↔
    type ∈ dynamicType.reached ∧ (definedName type).isSome = true
  once : ∀ type ∈ definitions, ∀ name ∈ mentions type,
    (definitions.filterMap definedName).count name = 1

/-! ### The text -/

theorem nodeKey_of_generates {type : DynamicType} {node : TreeNode TreeNodeType}
    (generated : Generates nodeInfo id type node) : nodeKey node = definedName type := by
  obtain ⟨sameType, sameName⟩ := info_of_generates generated
  rw [nodeKey, sameType, sameName]
  cases defined : definedName type with
  | none => rfl
  | some name => rw [Option.map_some, render_of_definedName defined]

/-- The loop over the nodes writes each name once. -/
theorem writeNode_eq_writeOnce :
    writeNode = writeOnce nodeKey fun node => (definitionToStr node).map (· ++ "\n") := by
  funext state node
  rw [writeNode, writeOnce, nodeKey]
  cases kind : node.info.dynamicType with
  | struct | enumeration =>
      rw [definitionToStr, kind]
      rfl
  | union name discriminator members =>
      rw [definitionToStr, kind]
      dsimp only [definedName, Option.map_some]
      split
      · rfl
      · cases unionToStr node.info.typeKindName discriminator members with
        | error => rfl
        | ok => rfl
  | primitive | array | sequence | map | other => exact ite_self _

/-- A text of which each part ends with a separator but the last. -/
theorem intercalate_append_singleton (separator last : String) (parts : List String) :
    String.intercalate separator (parts ++ [last]) =
      String.join (parts.map (· ++ separator)) ++ last := by
  induction parts with
  | nil => simp
  | cons first rest inductionHypothesis =>
      rw [List.cons_append, String.intercalate_cons_of_ne_nil (by simp), inductionHypothesis,
        List.map_cons, String.join_cons]
      exact String.append_assoc.symm

/-- A supported type has a tree. -/
theorem generateDynTypeTree_ok {type : DynamicType} (supported : type.isSupported = true)
    (memberName : String) : ∃ node, generateDynTypeTree memberName type = .ok node := by
  cases generated : generateDynTypeTree memberName type with
  | ok node => exact ⟨node, rfl⟩
  | error exception =>
      obtain ⟨other, reached, name, failed⟩ := exists_describe_error generated
      have printable := isPrintable_of_isSupported
        (DynamicType.isSupported_of_parts_subset supported
          (DynamicType.parts_subset_of_mem_reached reached))
      rw [nodeInfo, typeKindToStr_eq printable] at failed
      cases failed

section Texts

variable {allNodes : TreeNode TreeNodeType → List (TreeNode TreeNodeType)}
  {root : DynamicType} {parentNode : TreeNode TreeNodeType}
  (complete : TreeNode.YieldsDescendants allNodes)
  (generated : generateDynTypeTree "PARENT" root = .ok parentNode)

include complete generated

/-- The nodes that are defined are those of types that are reached. -/
theorem generates_of_mem_definedNodes
    {node : TreeNode TreeNodeType} (member : node ∈ definedNodes allNodes parentNode) :
    ∃ type ∈ root.reached, Generates nodeInfo id type node := by
  rcases List.mem_append.mp member with written | last
  · obtain ⟨visited, _⟩ := mem_of_mem_firstOccurrences written
    obtain ⟨type, below, made⟩ := mem_allNodes_cases complete ⟨_, generated⟩ visited
    exact ⟨type, List.mem_cons_of_mem _ below, made⟩
  · rw [List.mem_singleton.mp last]
    exact ⟨root, root.self_mem_reached, _, generated⟩

/-- What is written for a node is the definition of its type. -/
theorem definitionToStr_of_mem (supported : root.isSupported = true)
    {node : TreeNode TreeNodeType} (member : node ∈ definedNodes allNodes parentNode) :
    definitionToStr node = .ok (definitionText node.info.dynamicType) := by
  obtain ⟨type, reached, made⟩ := generates_of_mem_definedNodes complete generated member
  rw [(info_of_generates made).1]
  apply definitionToStr_eq _ made
  exact DynamicType.isSupported_of_parts_subset supported
    (DynamicType.parts_subset_of_mem_reached reached)

/-- **The text of a supported structure** consists of definitions, that of the structure
last. -/
theorem generateIdlSchema_eq (struct : root.isStruct = true) (supported : root.isSupported = true) :
    generateIdlSchema allNodes root =
      .ok (String.intercalate "\n" ((definedTypes allNodes parentNode).map definitionText)) := by
  have prints : ∀ node ∈ writtenNodes allNodes parentNode,
      (definitionToStr node).map (· ++ "\n") =
        .ok (definitionText node.info.dynamicType ++ "\n") := by
    intro node member
    have written := definitionToStr_of_mem complete generated supported
      (List.mem_append_left [parentNode] member)
    rw [written]
    rfl
  have parentText : structToStr parentNode = definitionText parentNode.info.dynamicType := by
    have written := definitionToStr_of_mem complete generated supported
      (List.mem_append_right _ List.mem_cons_self)
    cases root with
    | struct name members =>
        rw [definitionToStr, (info_of_generates ⟨_, generated⟩).1] at written
        rw [(info_of_generates ⟨_, generated⟩).1]
        exact Except.ok.inj written
    | primitive | array | sequence | map | enumeration | union | other => cases struct
  have written := foldlM_writeOnce (allNodes parentNode) [] "" prints
  rw [String.empty_append] at written
  obtain ⟨state, looped, made⟩ := OrderedMap.map_eq_ok_iff.mp written
  rw [generateIdlSchema, generated]
  change generateDynTypeSchemaFromTree allNodes parentNode = _
  rw [generateDynTypeSchemaFromTree, writeNode_eq_writeOnce, looped]
  change Except.ok (state.2 ++ structToStr parentNode) = _
  rw [made, parentText, definedTypes, definedNodes, List.map_append, List.map_append,
    List.map_singleton, List.map_singleton, intercalate_append_singleton, List.map_map,
    List.map_map]
  rfl

/-- A name is defined once in the text exactly when a type that is reached has it. -/
theorem count_definedNodes {name : String}
    (distinct : HasDistinctNames root) :
    ((definedNodes allNodes parentNode).filterMap nodeKey).count name = 1 ↔
      ∃ other ∈ root.reached, definedName other = some name := by
  have rootKey : nodeKey parentNode = definedName root :=
    nodeKey_of_generates ⟨_, generated⟩
  have new : ∀ node ∈ allNodes parentNode, ∀ other, nodeKey node = some other →
      nodeKey parentNode ≠ some other := by
    intro node member other named
    obtain ⟨type, below, made⟩ := mem_allNodes_cases complete ⟨_, generated⟩ member
    rw [nodeKey_of_generates made] at named
    rw [rootKey]
    intro rootNamed
    have same := distinct type (DynamicType.mem_parts_of_mem_reached (List.mem_cons_of_mem _ below))
      root root.self_mem_parts other named rootNamed
    have smaller := DynamicType.sizeOf_lt_of_mem_reachedBelow below
    rw [same] at smaller
    exact Nat.lt_irrefl _ smaller
  rw [definedNodes, writtenNodes, count_firstOccurrences_append new, rootKey]
  constructor
  · rintro (⟨node, member, named⟩ | named)
    · obtain ⟨other, below, made⟩ := mem_allNodes_cases complete ⟨_, generated⟩ member
      rw [nodeKey_of_generates made] at named
      exact ⟨other, List.mem_cons_of_mem _ below, named⟩
    · exact ⟨root, root.self_mem_reached, named⟩
  · rintro ⟨other, reached, named⟩
    rcases List.mem_cons.mp reached with rfl | below
    · exact .inr named
    · obtain ⟨node, member, made⟩ := exists_mem_allNodes complete ⟨_, generated⟩ below
      rw [← nodeKey_of_generates made] at named
      exact .inl ⟨node, member, named⟩

/-- A type that is reached and has a definition is defined in the text. -/
theorem exists_definedNode {type : DynamicType} {name : String}
    (distinct : HasDistinctNames root)
    (reached : type ∈ root.reached) (named : definedName type = some name) :
    ∃ node ∈ definedNodes allNodes parentNode, node.info.dynamicType = type := by
  rcases List.mem_cons.mp reached with rfl | below
  · exact ⟨parentNode, List.mem_append_right _ List.mem_cons_self,
      (info_of_generates ⟨_, generated⟩).1⟩
  · obtain ⟨node, member, made⟩ := exists_mem_allNodes complete ⟨_, generated⟩ below
    rw [← nodeKey_of_generates made] at named
    obtain ⟨kept, written, keptNamed⟩ := exists_mem_firstOccurrences member named List.not_mem_nil
    obtain ⟨visited, _⟩ := mem_of_mem_firstOccurrences written
    obtain ⟨other, otherBelow, keptMade⟩ := mem_allNodes_cases complete ⟨_, generated⟩ visited
    rw [nodeKey_of_generates keptMade] at keptNamed
    rw [nodeKey_of_generates made] at named
    have same := distinct other
      (DynamicType.mem_parts_of_mem_reached (List.mem_cons_of_mem _ otherBelow)) type
      (DynamicType.mem_parts_of_mem_reached reached) name keptNamed named
    refine ⟨kept, List.mem_append_left _ written, ?_⟩
    rw [(info_of_generates keptMade).1, same]

/-- The types that are defined are those that are reached and have a definition. -/
theorem mem_definedTypes_iff (struct : root.isStruct = true) (distinct : HasDistinctNames root)
    {type : DynamicType} :
    type ∈ definedTypes allNodes parentNode ↔
      type ∈ root.reached ∧ (definedName type).isSome = true := by
  constructor
  · intro defined
    obtain ⟨node, member, rfl⟩ := List.mem_map.mp defined
    obtain ⟨type, reached, made⟩ := generates_of_mem_definedNodes complete generated member
    rw [(info_of_generates made).1]
    refine ⟨reached, ?_⟩
    rw [← nodeKey_of_generates made]
    rcases List.mem_append.mp member with written | last
    · obtain ⟨_, name, named, _⟩ := mem_of_mem_firstOccurrences written
      rw [named]
      rfl
    · rw [List.mem_singleton.mp last, nodeKey_of_generates ⟨_, generated⟩]
      cases root with
      | struct => rfl
      | primitive | array | sequence | map | enumeration | union | other => cases struct
  · intro both
    obtain ⟨reached, named⟩ := both
    obtain ⟨name, named⟩ := Option.isSome_iff_exists.mp named
    obtain ⟨node, member, same⟩ := exists_definedNode complete generated distinct reached named
    exact List.mem_map.mpr ⟨node, member, same⟩

/-- The names that are defined are the names of the nodes. -/
theorem filterMap_definedTypes :
    (definedTypes allNodes parentNode).filterMap definedName =
      (definedNodes allNodes parentNode).filterMap nodeKey := by
  rw [definedTypes, List.filterMap_map]
  apply List.filterMap_congr
  intro node member
  obtain ⟨type, _, made⟩ := generates_of_mem_definedNodes complete generated member
  show definedName node.info.dynamicType = nodeKey node
  rw [nodeKey_of_generates made, (info_of_generates made).1]

end Texts

/-! ### Names and definitions -/

/-- A name in the name of a type is that of a type that is reached, or hidden in one. -/
theorem defined_or_hidden {type : DynamicType} {name : String} (mentioned : name ∈ names type) :
    (∃ other ∈ type.reached, definedName other = some name) ∨
      ∃ other ∈ type.reached, name ∈ hiddenNames other := by
  induction type using DynamicType.inductionReached with
  | step type inductionHypothesis =>
      have fromChild : ∀ child ∈ type.children, name ∈ names child →
          (∃ other ∈ type.reached, definedName other = some name) ∨
            ∃ other ∈ type.reached, name ∈ hiddenNames other := by
        intro child member inChild
        have below := DynamicType.mem_reached_of_mem_children member
        rcases inductionHypothesis child member inChild with
          ⟨other, within, found⟩ | ⟨other, within, found⟩
        · exact .inl ⟨other, DynamicType.reached_trans below within, found⟩
        · exact .inr ⟨other, DynamicType.reached_trans below within, found⟩
      cases type with
      | array element totalBounds =>
          rw [names_array] at mentioned
          exact fromChild element List.mem_cons_self mentioned
      | sequence element totalBounds =>
          rw [names_sequence] at mentioned
          exact fromChild element List.mem_cons_self mentioned
      | map mapName key value =>
          exact .inr ⟨_, DynamicType.self_mem_reached _, mentioned⟩
      | struct ownName | enumeration ownName | union ownName =>
          have own : name = ownName := List.mem_singleton.mp mentioned
          rw [own]
          exact .inl ⟨_, DynamicType.self_mem_reached _, rfl⟩
      | primitive | other => exact absurd mentioned List.not_mem_nil

/-- A name in the name of a type that is reached from another is in the name of that
one, or mentioned by a definition. -/
theorem own_or_mentioned {root type : DynamicType} {name : String} (reached : type ∈ root.reached)
    (mentioned : name ∈ names type) :
    name ∈ names root ∨
      ∃ other ∈ root.reached, (definedName other).isSome = true ∧ name ∈ mentions other := by
  induction root using DynamicType.inductionReached with
  | step root inductionHypothesis =>
      rcases DynamicType.mem_reached_iff.mp reached with rfl | ⟨child, member, within⟩
      · exact .inl mentioned
      · rcases inductionHypothesis child member within with inChild | ⟨other, below, found⟩
        · cases root with
          | array element totalBounds | sequence element totalBounds =>
              rw [List.mem_singleton.mp member] at inChild
              first | rw [names_array] | rw [names_sequence]
              exact .inl inChild
          | struct rootName members =>
              obtain ⟨declared, isMember, rfl⟩ := List.mem_map.mp member
              exact .inr ⟨_, DynamicType.self_mem_reached _, rfl,
                List.mem_flatMap.mpr ⟨declared, isMember, inChild⟩⟩
          | primitive | map | enumeration | union | other => cases member
        · exact .inr ⟨other, DynamicType.reached_trans
            (DynamicType.mem_reached_of_mem_children member) below, found⟩

/-- A hidden name is mentioned by a definition, or that of the root. -/
theorem own_or_mentioned_of_hidden {root type : DynamicType} {name : String}
    (struct : root.isStruct = true) (reached : type ∈ root.reached)
    (hidden : name ∈ hiddenNames type) :
    definedName root = some name ∨
      ∃ other ∈ root.reached, (definedName other).isSome = true ∧ name ∈ mentions other := by
  cases type with
  | map mapName key value =>
      rcases own_or_mentioned reached hidden with own | mentioned
      · cases root with
        | struct rootName members =>
            have same : name = rootName := List.mem_singleton.mp own
            rw [same]
            exact .inl rfl
        | primitive | array | sequence | map | enumeration | union | other => cases struct
      · exact .inr mentioned
  | union unionName discriminator members => exact .inr ⟨_, reached, rfl, hidden⟩
  | primitive | array | sequence | struct | enumeration | other =>
      exact absurd hidden List.not_mem_nil

/-- What a definition mentions is in the name of a type that is reached, or hidden in
one. -/
theorem defined_or_hidden_of_mentioned {root type : DynamicType} {name : String}
    (reached : type ∈ root.reached) (mentioned : name ∈ mentions type) :
    (∃ other ∈ root.reached, definedName other = some name) ∨
      ∃ other ∈ root.reached, name ∈ hiddenNames other := by
  cases type with
  | struct structName members =>
      obtain ⟨declared, isMember, inMember⟩ := List.mem_flatMap.mp mentioned
      have below : declared.2 ∈ root.reached := DynamicType.reached_trans reached
        (DynamicType.mem_reached_of_mem_children (List.mem_map_of_mem isMember))
      rcases defined_or_hidden inMember with ⟨other, within, found⟩ | ⟨other, within, found⟩
      · exact .inl ⟨other, DynamicType.reached_trans below within, found⟩
      · exact .inr ⟨other, DynamicType.reached_trans below within, found⟩
  | union unionName discriminator members => exact .inr ⟨_, reached, mentioned⟩
  | primitive | array | sequence | map | enumeration | other =>
      exact absurd mentioned List.not_mem_nil

/-- **An IDL text is closed** exactly when each name that occurs in a map or a union is
that of a type that is reached in another way too. -/
theorem closed_iff {allNodes : TreeNode TreeNodeType → List (TreeNode TreeNodeType)}
    {root : DynamicType} (complete : TreeNode.YieldsDescendants allNodes)
    (struct : root.isStruct = true) (supported : root.isSupported = true)
    (distinct : HasDistinctNames root) :
    (∃ definitions, Closed allNodes root definitions) ↔
      ∀ type ∈ root.reached, ∀ name ∈ hiddenNames type,
        ∃ other ∈ root.reached, definedName other = some name := by
  constructor
  · rintro ⟨definitions, closed⟩ type reached name hidden
    rcases own_or_mentioned_of_hidden struct reached hidden with own | ⟨other, within, named, found⟩
    · exact ⟨root, root.self_mem_reached, own⟩
    · have counted := closed.once other ((closed.defines other).mpr ⟨within, named⟩) name found
      have defined : name ∈ definitions.filterMap definedName :=
        List.count_pos_iff.mp (by omega)
      obtain ⟨definition, member, same⟩ := List.mem_filterMap.mp defined
      exact ⟨definition, ((closed.defines definition).mp member).1, same⟩
  · intro reachedToo
    obtain ⟨parentNode, generated⟩ := generateDynTypeTree_ok supported "PARENT"
    have members : ∀ type, type ∈ definedTypes allNodes parentNode ↔
        type ∈ root.reached ∧ (definedName type).isSome = true := fun _ =>
      mem_definedTypes_iff complete generated struct distinct
    refine ⟨definedTypes allNodes parentNode,
      generateIdlSchema_eq complete generated struct supported, members, ?_⟩
    intro type member name mentioned
    have reached := ((members type).mp member).1
    rw [filterMap_definedTypes complete generated]
    apply (count_definedNodes complete generated distinct).mpr
    rcases defined_or_hidden_of_mentioned reached mentioned with found | ⟨other, within, hidden⟩
    · exact found
    · exact reachedToo other within name hidden

/-- An enumeration is a member and the value of a map. -/
theorem closed_iff_paint :
    ∃ definitions, Closed TreeNode.descendants
      (.struct "Paint" [("color", .enumeration "Color" ["RED", "BLUE"]),
        ("names", .map "map" (.primitive .string8 "string")
          (.enumeration "Color" ["RED", "BLUE"]))]) definitions := by
  apply (closed_iff (fun _ _ => Iff.rfl) rfl (by decide) ?_).mpr (by decide)
  intro type member other otherMember name named otherNamed
  simp only [DynamicType.parts, DynamicType.partsOfMembers, List.append_nil, List.cons_append,
    List.nil_append, List.mem_cons, List.not_mem_nil, or_false] at member otherMember
  rcases member with rfl | rfl | rfl | rfl | rfl <;>
    rcases otherMember with rfl | rfl | rfl | rfl | rfl <;>
      first
      | rfl
      | exact absurd (named.trans otherNamed.symm) (by decide)
      | cases named

/-- A structure that is only the value of a map is not defined. -/
theorem not_closed :
    ¬ ∀ (allNodes : TreeNode TreeNodeType → List (TreeNode TreeNodeType)) (root : DynamicType),
      TreeNode.YieldsDescendants allNodes → root.isStruct = true → root.isSupported = true →
        HasDistinctNames root → ∃ definitions, Closed allNodes root definitions := by
  intro closed
  have distinct : HasDistinctNames (.struct "Outer" [("inners", .map "map"
      (.primitive .string8 "string") (.struct "Inner" [("x", .primitive .int32 "int32_t")]))]) := by
    intro type member other otherMember name named otherNamed
    simp only [DynamicType.parts, DynamicType.partsOfMembers, List.append_nil, List.cons_append,
      List.nil_append, List.mem_cons, List.not_mem_nil, or_false] at member otherMember
    rcases member with rfl | rfl | rfl | rfl | rfl <;>
      rcases otherMember with rfl | rfl | rfl | rfl | rfl <;>
        first
        | rfl
        | exact absurd (named.trans otherNamed.symm) (by decide)
        | cases named
  obtain ⟨definitions, here⟩ := closed TreeNode.descendants _ (fun _ _ => Iff.rfl) rfl (by decide)
    distinct
  have outer := (here.defines _).mpr ⟨DynamicType.self_mem_reached _, rfl⟩
  have counted := here.once _ outer "Inner" (by decide)
  have defined : "Inner" ∈ definitions.filterMap definedName :=
    List.count_pos_iff.mp (by omega)
  obtain ⟨definition, member, named⟩ := List.mem_filterMap.mp defined
  -- Only the structure itself and the map are reached, and neither is called so.
  have reached := ((here.defines definition).mp member).1
  simp only [DynamicType.reached, DynamicType.reachedBelow, DynamicType.reachedByMembers,
    List.append_nil, List.mem_cons, List.not_mem_nil, or_false] at reached
  rcases reached with rfl | rfl
  · exact absurd named (by decide)
  · cases named

end Idl

end DdsPipe.Types
