import DdsPipe.Library.OrderedMap
import DdsPipe.Types.MsgDefinitions

/-!
Owns which structures a ROS 2 message schema uses and defines: it fails exactly for
types of which something that is reached is not supported
(`generateDynTypeTree_unsupported_iff`), and otherwise each structure that is used is
the root or defined in one section (`generateRos2Schema_closes`).

Does not own: the text of a section.
-/

namespace DdsPipe.Types

open TreeWalk

namespace Msg

/-- The kinds that are listed as unsupported. -/
def isUnsupported : DynamicType → Bool
  | .primitive .float128 _ | .primitive .char16 _ | .primitive .string16 _ => true
  | .enumeration _ _ | .map _ _ _ | .union _ _ _ => true
  | .other .bitset _ | .other .none _ => true
  | _ => false

/-- The kinds that are listed at all. -/
def isListed : DynamicType → Bool
  | .other .bitmask _ | .other .unlisted _ => false
  | _ => true

/-! ### Failures -/

section Failures

variable {demangleIfRosType : String → String}

theorem typeKindToStr_of_isUnsupported {type : DynamicType}
    (unsupportedKind : isUnsupported type = true) :
    ∃ exception, typeKindToStr demangleIfRosType type = .error exception := by
  cases type with
  | primitive kind name =>
      cases kind with
      | float128 | char16 | string16 => exact ⟨_, rfl⟩
      | _ => cases unsupportedKind
  | other kind name =>
      cases kind with
      | bitset | none => exact ⟨_, rfl⟩
      | bitmask | unlisted => cases unsupportedKind
  | enumeration | map | union => exact ⟨_, rfl⟩
  | array | sequence | struct => cases unsupportedKind

/-- The name of a type cannot be printed only where something unsupported is reached. -/
theorem typeKindToStr_error {type : DynamicType} {exception : SchemaException}
    (listed : ∀ other ∈ type.reached, isListed other = true)
    (failed : typeKindToStr demangleIfRosType type = .error exception) :
    (∃ message, exception = .unsupported message) ∧
      ∃ other ∈ type.reached, isUnsupported other = true := by
  induction type using DynamicType.inductionReached with
  | step type inductionHypothesis =>
      have fromElement : ∀ element ∈ type.children,
          typeKindToStr demangleIfRosType element = .error exception →
            (∃ message, exception = .unsupported message) ∧
              ∃ other ∈ type.reached, isUnsupported other = true := by
        intro element member elementFailed
        have below := DynamicType.mem_reached_of_mem_children member
        obtain ⟨thrown, other, within, found⟩ := inductionHypothesis element member
          (fun other within => listed other (DynamicType.reached_trans below within)) elementFailed
        exact ⟨thrown, other, DynamicType.reached_trans below within, found⟩
      cases type with
      | array element totalBounds | sequence element totalBounds =>
          rw [typeKindToStr] at failed
          rcases OrderedMap.bind_eq_error_iff.mp failed with here | ⟨internalType, _, made⟩
          · exact fromElement element List.mem_cons_self here
          · cases made
      | primitive kind name =>
          cases kind with
          | float128 | char16 | string16 =>
              exact ⟨⟨_, (Except.error.inj failed).symm⟩, _, DynamicType.self_mem_reached _, rfl⟩
          | _ => cases failed
      | other kind name =>
          have kindListed := listed _ (DynamicType.self_mem_reached _)
          cases kind with
          | bitset | none =>
              exact ⟨⟨_, (Except.error.inj failed).symm⟩, _, DynamicType.self_mem_reached _, rfl⟩
          | bitmask | unlisted => cases kindListed
      | enumeration | map | union =>
          exact ⟨⟨_, (Except.error.inj failed).symm⟩, _, DynamicType.self_mem_reached _, rfl⟩
      | struct => cases failed

/-- The node of a type cannot be made only where its name cannot be printed. -/
theorem typeKindToStr_error_of_nodeInfo {type : DynamicType} {memberName : String}
    {exception : SchemaException}
    (failed : nodeInfo demangleIfRosType memberName type = .error exception) :
    typeKindToStr demangleIfRosType type = .error exception := by
  cases type with
  | struct => cases failed
  | primitive | array | sequence | map | enumeration | union | other =>
      rcases OrderedMap.bind_eq_error_iff.mp failed with here | ⟨typeKindName, _, made⟩
      · exact here
      · cases made

/-- A tree cannot be generated only where something unsupported is reached. -/
theorem generateDynTypeTree_error {type : DynamicType} {memberName : String}
    {exception : SchemaException} (listed : ∀ other ∈ type.reached, isListed other = true)
    (failed : generateDynTypeTree demangleIfRosType memberName type = .error exception) :
    (∃ message, exception = .unsupported message) ∧
      ∃ other ∈ type.reached, isUnsupported other = true := by
  obtain ⟨other, reached, name, notDescribed⟩ := exists_describe_error failed
  obtain ⟨thrown, last, within, found⟩ := typeKindToStr_error
    (fun last within => listed last (DynamicType.reached_trans reached within))
    (typeKindToStr_error_of_nodeInfo notDescribed)
  exact ⟨thrown, last, DynamicType.reached_trans reached within, found⟩

/-- **A tree cannot be generated** exactly where something unsupported is reached. -/
theorem generateDynTypeTree_unsupported_iff {type : DynamicType} {memberName : String}
    (listed : ∀ other ∈ type.reached, isListed other = true) :
    (∃ message, generateDynTypeTree demangleIfRosType memberName type =
        .error (.unsupported message)) ↔
      ∃ other ∈ type.reached, isUnsupported other = true := by
  constructor
  · rintro ⟨message, failed⟩
    exact (generateDynTypeTree_error listed failed).2
  · rintro ⟨other, reached, found⟩
    cases generated : generateDynTypeTree demangleIfRosType memberName type with
    | ok tree =>
        obtain ⟨name, info, described⟩ := exists_describe_ok ⟨_, generated⟩ reached
        have fails : ∃ exception, typeKindToStr demangleIfRosType other = .error exception :=
          typeKindToStr_of_isUnsupported found
        obtain ⟨exception, failed⟩ := fails
        rw [(typeKindToStr_ok_of_nodeInfo described).1] at failed
        cases failed
    | error exception =>
        obtain ⟨⟨message, rfl⟩, _⟩ := generateDynTypeTree_error listed generated
        exact ⟨message, rfl⟩

end Failures

/-! ### What is used and what is defined -/

/-- The name under which the loop over the nodes writes a node. -/
def nodeKey (node : TreeNode TreeNodeType) : Option String :=
  if node.info.isStruct = true then some node.info.typeKindName else none

/-- The nodes that have a section. -/
def sectionNodes (allNodes : TreeNode TreeNodeType → List (TreeNode TreeNodeType))
    (parentNode : TreeNode TreeNodeType) : List (TreeNode TreeNodeType) :=
  firstOccurrences nodeKey [parentNode.info.typeKindName] (allNodes parentNode)

/-- Different structures that are reached have different names. -/
def HasDistinctNames (demangleIfRosType : String → String) (root : DynamicType) : Prop :=
  ∀ type ∈ root.reached, ∀ other ∈ root.reached, ∀ name,
    structName demangleIfRosType type = some name →
      structName demangleIfRosType other = some name → type = other

/-- The text has the members of the root and then a section for each other structure that
is reached, which is the only one with its name, and each structure that a member is
declared with is the root or has a section. -/
structure Closed (demangleIfRosType : String → String)
    (allNodes : TreeNode TreeNodeType → List (TreeNode TreeNodeType)) (root : DynamicType)
    (sections : List DynamicType) : Prop where
  text : generateRos2Schema demangleIfRosType allNodes root =
    .ok (membersText demangleIfRosType root ++
      String.join (sections.map (sectionText demangleIfRosType)))
  defines : ∀ type, type ∈ sections ↔ type ∈ root.reachedBelow ∧ type.isStruct = true
  once : ∀ type ∈ sections, ∀ name, structName demangleIfRosType type = some name →
    ((root :: sections).filterMap (structName demangleIfRosType)).count name = 1
  used : ∀ type ∈ root :: sections, ∀ member ∈ members type, ∀ name,
    structName demangleIfRosType (elementType member.2) = some name →
      name ∈ (root :: sections).filterMap (structName demangleIfRosType)

section Texts

variable {allNodes : TreeNode TreeNodeType → List (TreeNode TreeNodeType)}
  {parentNode : TreeNode TreeNodeType}

/-- The loop over the nodes writes each structure once. -/
theorem writeOnce_eq_writeNode (state : List String × String) (node : TreeNode TreeNodeType) :
    writeOnce nodeKey (fun node => (.ok (sectionToStr node) : Except SchemaException String))
      state node = pure (writeNode state node) := by
  rw [writeOnce, writeNode, nodeKey]
  by_cases isStruct : node.info.isStruct = true
  · rw [if_pos isStruct]
    dsimp only
    by_cases written : node.info.typeKindName ∈ state.1
    · rw [if_pos written, if_neg fun new => new.2 written]
      rfl
    · rw [if_neg written, if_pos ⟨isStruct, written⟩]
      rfl
  · rw [if_neg isStruct, if_neg fun new => isStruct new.1]
    rfl

/-- The text consists of the members of the root and the sections. -/
theorem generateDynTypeSchemaFromTree_eq :
    generateDynTypeSchemaFromTree allNodes parentNode =
      generateSchemaFromNode parentNode ++
        String.join ((sectionNodes allNodes parentNode).map sectionToStr) := by
  have prints : ∀ node ∈ sectionNodes allNodes parentNode,
      (.ok (sectionToStr node) : Except SchemaException String) = .ok (sectionToStr node) :=
    fun _ _ => rfl
  have written := foldlM_writeOnce (allNodes parentNode) [parentNode.info.typeKindName]
    (generateSchemaFromNode parentNode) prints
  rw [funext₂ writeOnce_eq_writeNode, List.foldlM_pure] at written
  exact Except.ok.inj written

end Texts

/-! ### Nodes and their types -/

section Nodes

variable {demangleIfRosType : String → String} {type : DynamicType} {node : TreeNode TreeNodeType}

theorem info_of_generates
    (generated : Generates (nodeInfo demangleIfRosType) demangleIfRosType type node) :
    typeKindToStr demangleIfRosType type = .ok node.info.typeKindName ∧
      node.info.isStruct = type.isStruct := by
  obtain ⟨memberName, made⟩ := generated
  obtain ⟨printed, sameStruct, _⟩ := typeKindToStr_ok_of_nodeInfo (generateTree_ok made).1
  exact ⟨printed, sameStruct⟩

theorem nodeKey_of_generates
    (generated : Generates (nodeInfo demangleIfRosType) demangleIfRosType type node) :
    nodeKey node = structName demangleIfRosType type := by
  obtain ⟨printed, sameStruct⟩ := info_of_generates generated
  rw [nodeKey, sameStruct]
  cases type with
  | struct name members => exact congrArg some (Except.ok.inj printed).symm
  | primitive | array | sequence | map | enumeration | union | other => rfl

end Nodes

/-! ### Closure -/

theorem structName_isSome (demangleIfRosType : String → String) (type : DynamicType) :
    (structName demangleIfRosType type).isSome = type.isStruct := by
  cases type <;> rfl

theorem isStruct_of_structName {demangleIfRosType : String → String} {type : DynamicType}
    {name : String} (named : structName demangleIfRosType type = some name) :
    type.isStruct = true := by
  rw [← structName_isSome demangleIfRosType, named]
  rfl

/-- The section of a structure below the root, and the node for which it is written. -/
def IsSectionOf (demangleIfRosType : String → String) (root type : DynamicType)
    (node : TreeNode TreeNodeType) : Prop :=
  (type ∈ root.reachedBelow ∧ type.isStruct = true) ∧
    Generates (nodeInfo demangleIfRosType) demangleIfRosType type node

section Closes

variable {demangleIfRosType : String → String}
  {allNodes : TreeNode TreeNodeType → List (TreeNode TreeNodeType)} {root : DynamicType}
  {parentNode : TreeNode TreeNodeType} {sections : List DynamicType}
  (complete : TreeNode.YieldsDescendants allNodes) (struct : root.isStruct = true)
  (distinct : HasDistinctNames demangleIfRosType root)
  (generated : generateDynTypeTree demangleIfRosType "PARENT" root = .ok parentNode)
  (related : List.Forall₂ (IsSectionOf demangleIfRosType root) sections
    (sectionNodes allNodes parentNode))

include complete generated in
/-- The nodes that have a section are those of structures below the root. -/
theorem exists_sections : ∃ sections,
    List.Forall₂ (IsSectionOf demangleIfRosType root) sections
      (sectionNodes allNodes parentNode) := by
  apply Lists.exists_forall₂
  intro node member
  obtain ⟨visited, name, named, _⟩ := mem_of_mem_firstOccurrences member
  obtain ⟨type, below, made⟩ := mem_allNodes_cases complete ⟨_, generated⟩ visited
  rw [nodeKey_of_generates made] at named
  exact ⟨type, ⟨below, isStruct_of_structName named⟩, made⟩

include related in
theorem map_sectionText :
    sections.map (sectionText demangleIfRosType) =
      (sectionNodes allNodes parentNode).map sectionToStr := by
  apply Lists.map_eq_map_of_forall₂ related
  intro type _ node isSection
  obtain ⟨⟨_, isStruct⟩, memberName, made⟩ := isSection
  exact (sectionToStr_eq isStruct made).symm

include related in
theorem filterMap_structName :
    sections.filterMap (structName demangleIfRosType) =
      (sectionNodes allNodes parentNode).filterMap nodeKey := by
  have names : sections.map (structName demangleIfRosType) =
      (sectionNodes allNodes parentNode).map nodeKey := by
    apply Lists.map_eq_map_of_forall₂ related
    intro type _ node isSection
    exact (nodeKey_of_generates isSection.2).symm
  have flattened := congrArg (List.filterMap id) names
  rw [List.filterMap_map, List.filterMap_map] at flattened
  exact flattened

include generated

/-- The name of the root. -/
theorem structName_root (struct : root.isStruct = true) :
    structName demangleIfRosType root = some parentNode.info.typeKindName := by
  have printed := (info_of_generates ⟨_, generated⟩).1
  cases root with
  | struct name members => exact congrArg some (Except.ok.inj printed)
  | primitive | array | sequence | map | enumeration | union | other => cases struct

include struct distinct

/-- No structure below the root has its name. -/
theorem name_ne_parent {type : DynamicType} {name : String} (below : type ∈ root.reachedBelow)
    (named : structName demangleIfRosType type = some name) :
    parentNode.info.typeKindName ≠ name := by
  intro sameName
  have rootNamed := structName_root generated struct
  rw [sameName] at rootNamed
  have same := distinct type (List.mem_cons_of_mem _ below) root root.self_mem_reached name named
    rootNamed
  have smaller := DynamicType.sizeOf_lt_of_mem_reachedBelow below
  rw [same] at smaller
  exact Nat.lt_irrefl _ smaller

include complete related

/-- The structures that have a section are those below the root. -/
theorem mem_sections_iff {type : DynamicType} :
    type ∈ sections ↔ type ∈ root.reachedBelow ∧ type.isStruct = true := by
  constructor
  · intro member
    obtain ⟨node, _, isSection⟩ := Lists.exists_mem_of_forall₂ related member
    exact isSection.1
  · intro both
    obtain ⟨below, isStruct⟩ := both
    rw [← structName_isSome demangleIfRosType] at isStruct
    obtain ⟨name, named⟩ := Option.isSome_iff_exists.mp isStruct
    obtain ⟨node, visited, made⟩ := exists_mem_allNodes complete ⟨_, generated⟩ below
    have new : name ∉ [parentNode.info.typeKindName] := by
      rw [List.mem_singleton]
      exact (name_ne_parent struct distinct generated below named).symm
    obtain ⟨kept, written, keptNamed⟩ :=
      exists_mem_firstOccurrences visited ((nodeKey_of_generates made).trans named) new
    have turned : List.Forall₂ (flip (IsSectionOf demangleIfRosType root))
        (sectionNodes allNodes parentNode) sections := related.flip
    obtain ⟨other, member, ⟨otherBelow, _⟩, keptMade⟩ :=
      Lists.exists_mem_of_forall₂ turned written
    rw [nodeKey_of_generates keptMade] at keptNamed
    rw [distinct type (List.mem_cons_of_mem _ below) other (List.mem_cons_of_mem _ otherBelow) name
      named keptNamed]
    exact member

/-- The root and the sections have different names. -/
theorem count_sections {type : DynamicType} {name : String} (member : type ∈ sections)
    (named : structName demangleIfRosType type = some name) :
    ((root :: sections).filterMap (structName demangleIfRosType)).count name = 1 := by
  obtain ⟨below, _⟩ :=
    (mem_sections_iff complete struct distinct generated related).mp member
  have different : parentNode.info.typeKindName ≠ name :=
    name_ne_parent struct distinct generated below named
  obtain ⟨node, visited, made⟩ := exists_mem_allNodes complete ⟨_, generated⟩ below
  rw [List.filterMap_cons_some (structName_root generated struct), List.count_cons_of_ne different,
    filterMap_structName related]
  apply count_firstOccurrences.mpr
  refine ⟨?_, node, visited, (nodeKey_of_generates made).trans named⟩
  rw [List.mem_singleton]
  exact different.symm

/-- What the members of the root and of the sections are declared with. -/
theorem mem_names_of_used {type : DynamicType} {member : String × DynamicType} {name : String}
    (isDefined : type ∈ root :: sections) (isMember : member ∈ members type)
    (named : structName demangleIfRosType (elementType member.2) = some name) :
    name ∈ (root :: sections).filterMap (structName demangleIfRosType) := by
  have reached : type ∈ root.reached := by
    rcases List.mem_cons.mp isDefined with rfl | isSection
    · exact type.self_mem_reached
    · have below := (mem_sections_iff complete struct distinct generated related).mp isSection
      exact List.mem_cons_of_mem _ below.1
  have isChild : member.2 ∈ type.children := by
    cases type with
    | struct name members => exact List.mem_map_of_mem isMember
    | primitive | array | sequence | map | enumeration | union | other => cases isMember
  have used : elementType member.2 ∈ root.reached :=
    DynamicType.reached_trans reached (DynamicType.mem_reached_iff.mpr
      (.inr ⟨member.2, isChild, elementType_mem_reached member.2⟩))
  apply List.mem_filterMap.mpr
  refine ⟨elementType member.2, ?_, named⟩
  rcases List.mem_cons.mp used with isRoot | below
  · rw [isRoot]
    exact List.mem_cons_self
  · have isStruct := isStruct_of_structName named
    exact List.mem_cons_of_mem _
      ((mem_sections_iff complete struct distinct generated related).mpr ⟨below, isStruct⟩)

/-- The text of a type for which a tree can be generated. -/
theorem closed_of_generated : Closed demangleIfRosType allNodes root sections where
  text := by
    rw [generateRos2Schema, generated, map_sectionText related,
      ← generateSchemaFromNode_eq struct generated, ← generateDynTypeSchemaFromTree_eq]
    rfl
  defines := fun _ => mem_sections_iff complete struct distinct generated related
  once := fun _ member _ named =>
    count_sections complete struct distinct generated related member named
  used := fun _ isDefined _ isMember _ named =>
    mem_names_of_used complete struct distinct generated related isDefined isMember named

end Closes

/-- **A schema fails** exactly for an unsupported kind that is reached, and is closed
otherwise. -/
theorem generateRos2Schema_closes {demangleIfRosType : String → String}
    {allNodes : TreeNode TreeNodeType → List (TreeNode TreeNodeType)} {root : DynamicType}
    (complete : TreeNode.YieldsDescendants allNodes) (struct : root.isStruct = true)
    (listed : ∀ other ∈ root.reached, isListed other = true)
    (distinct : HasDistinctNames demangleIfRosType root) :
    ((∃ message, generateRos2Schema demangleIfRosType allNodes root =
        .error (.unsupported message)) ↔ ∃ other ∈ root.reached, isUnsupported other = true) ∧
      ((∀ other ∈ root.reached, isUnsupported other = false) →
        ∃ sections, Closed demangleIfRosType allNodes root sections) := by
  constructor
  · have treeFails : (∃ message, generateDynTypeTree demangleIfRosType "PARENT" root =
        .error (.unsupported message)) ↔ ∃ other ∈ root.reached, isUnsupported other = true :=
      generateDynTypeTree_unsupported_iff listed
    rw [← treeFails]
    apply exists_congr
    intro message
    rw [generateRos2Schema, OrderedMap.bind_eq_error_iff]
    constructor
    · rintro (failed | ⟨tree, _, made⟩)
      · exact failed
      · cases made
    · exact .inl
  · intro supported
    cases generated : generateDynTypeTree demangleIfRosType "PARENT" root with
    | ok parentNode =>
        obtain ⟨sections, related⟩ := exists_sections complete generated
        exact ⟨sections, closed_of_generated complete struct distinct generated related⟩
    | error exception =>
        obtain ⟨_, other, reached, found⟩ := generateDynTypeTree_error listed generated
        rw [supported other reached] at found
        cases found

/-- A path with an origin and legs, which are pairs of points. -/
theorem generateRos2Schema_closes_path :
    ∃ sections, Closed id TreeNode.descendants
      (.struct "Path" [("origin", .struct "Point" [("x", .primitive .int32 "int32_t")]),
        ("legs", .sequence (.array (.struct "Point" [("x", .primitive .int32 "int32_t")]) 2) 0)])
      sections := by
  apply (generateRos2Schema_closes (fun _ _ => Iff.rfl) rfl (by decide) ?_).2 (by decide)
  intro type member other otherMember name named otherNamed
  simp only [DynamicType.reached, DynamicType.reachedBelow, DynamicType.reachedByMembers,
    List.append_nil, List.cons_append, List.nil_append, List.mem_cons, List.not_mem_nil, or_false]
    at member otherMember
  rcases member with rfl | rfl | rfl | rfl | rfl | rfl | rfl <;>
    rcases otherMember with rfl | rfl | rfl | rfl | rfl | rfl | rfl <;>
      first
      | rfl
      | exact absurd (named.trans otherNamed.symm) (by decide)
      | cases named

end Msg

end DdsPipe.Types
