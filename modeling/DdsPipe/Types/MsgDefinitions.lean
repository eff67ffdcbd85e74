import DdsPipe.Library.OrderedMap
import DdsPipe.Types.SchemaMsg

/-!
Owns the text of a ROS 2 message schema, spelled out over the types: a line for each
member of a structure, with the name of the innermost element type, the bounds of the
containers around it and the name of the member (`memberText`), and a section for a
structure (`sectionText`). The nodes of a tree are written as these texts
(`generateSchemaFromNode_eq`, `sectionToStr_eq`).

Does not own: which structures have a section.
-/

namespace DdsPipe.Types

open TreeWalk

namespace Msg

/-! ### Members -/

/-- The type of the innermost elements of arrays and sequences. -/
def elementType : DynamicType → DynamicType
  | .array element _ | .sequence element _ => elementType element
  | type => type

/-- The bounds of the containers, from the innermost one on. -/
def boundsText : DynamicType → String
  | .array element totalBounds =>
      boundsText element ++ if totalBounds = 0 then "[]" else "[" ++ toString totalBounds ++ "]"
  | .sequence element totalBounds =>
      boundsText element ++ if totalBounds = 0 then "[]" else "[<=" ++ toString totalBounds ++ "]"
  | _ => ""

/-- The ROS 2 names of the primitive types, as far as these are supported. -/
def primitiveText : PrimitiveKind → String
  | .boolean => "bool"
  | .byte => "uint8"
  | .int16 => "int16"
  | .int32 => "int32"
  | .int64 => "int64"
  | .uint16 => "uint16"
  | .uint32 => "uint32"
  | .uint64 => "uint64"
  | .float32 => "float32"
  | .float64 => "float64"
  | .char8 => "int8"
  | .string8 => "string"
  | .float128 | .char16 | .string16 => ""

section Texts

variable (demangleIfRosType : String → String)

/-- The name under which a structure is used and defined. -/
def structName : DynamicType → Option String
  | .struct name _ => some (demangleIfRosType name)
  | _ => none

/-- The name of a type that is no container. -/
def elementText : DynamicType → String
  | .primitive kind _ => primitiveText kind
  | type => (structName demangleIfRosType type).getD ""

/-- The line of a member. -/
def memberText (member : String × DynamicType) : String :=
  elementText demangleIfRosType (elementType member.2) ++ boundsText member.2 ++ " " ++
    demangleIfRosType member.1 ++ "\n"

def members : DynamicType → List (String × DynamicType)
  | .struct _ members => members
  | _ => []

def membersText (type : DynamicType) : String :=
  String.join ((members type).map (memberText demangleIfRosType))

/-- **The section of a structure.** -/
def sectionText (type : DynamicType) : String :=
  "================================================================================\n" ++
    "MSG: fastdds/" ++ (structName demangleIfRosType type).getD "" ++ "\n" ++
      membersText demangleIfRosType type

end Texts

example : membersText id (.struct "Path" [("start", .struct "Point" []),
      ("legs", .sequence (.array (.primitive .int32 "int32_t") 2) 0)]) =
    "Point start\nint32[2][] legs\n" := by
  decide +kernel

theorem elementType_mem_reached (type : DynamicType) : elementType type ∈ type.reached := by
  induction type using DynamicType.inductionReached with
  | step type inductionHypothesis =>
      cases type with
      | array element totalBounds | sequence element totalBounds =>
          have inner := inductionHypothesis element List.mem_cons_self
          exact DynamicType.mem_reached_iff.mpr (.inr ⟨element, List.mem_cons_self, inner⟩)
      | primitive | map | struct | enumeration | union | other =>
          exact DynamicType.self_mem_reached _

/-! ### Nodes and their types -/

section Nodes

variable {demangleIfRosType : String → String} {type : DynamicType} {memberName : String}
  {node : TreeNode TreeNodeType}

/-- What is printed for a type is the name of its innermost elements and the bounds
around them. -/
theorem typeKindToStr_eq : ∀ {type : DynamicType} {text : String},
    typeKindToStr demangleIfRosType type = .ok text →
      text = elementText demangleIfRosType (elementType type) ++ boundsText type
  | .array element totalBounds, text, printed | .sequence element totalBounds, text, printed => by
      obtain ⟨internalType, inner, made⟩ := OrderedMap.bind_eq_ok_iff.mp printed
      have innerText := typeKindToStr_eq inner
      rw [← Except.ok.inj made, containerKindToStr, innerText, String.append_assoc, elementType,
        boundsText]
      simp only [boundUnlimited, ne_eq, ite_not, Bool.false_eq_true, if_false, if_true]
  | .primitive kind name, text, printed => by
      cases kind with
      | float128 | char16 | string16 => cases printed
      | _ =>
          cases printed
          exact String.append_empty.symm
  | .struct name members, text, printed => by
      cases printed
      exact String.append_empty.symm
  | .enumeration _ _, _, printed | .map _ _ _, _, printed | .union _ _ _, _, printed => by
      cases printed
  | .other kind _, _, printed => by
      cases kind <;> cases printed

theorem typeKindToStr_ok_of_nodeInfo {info : TreeNodeType}
    (described : nodeInfo demangleIfRosType memberName type = .ok info) :
    typeKindToStr demangleIfRosType type = .ok info.typeKindName ∧ info.isStruct = type.isStruct ∧
      info.memberName = memberName := by
  cases type with
  | struct =>
      cases described
      exact ⟨rfl, rfl, rfl⟩
  | primitive | array | sequence | map | enumeration | union | other =>
      obtain ⟨typeKindName, named, made⟩ := OrderedMap.bind_eq_ok_iff.mp described
      cases made
      exact ⟨named, rfl, rfl⟩

/-- A member is written on a line of its own. -/
theorem nodeToStr_eq {member : String × DynamicType}
    (generated : generateDynTypeTree demangleIfRosType (demangleIfRosType member.1) member.2 =
      .ok node) :
    nodeToStr node.info ++ "\n" = memberText demangleIfRosType member := by
  obtain ⟨printed, _, named⟩ := typeKindToStr_ok_of_nodeInfo (generateTree_ok generated).1
  rw [nodeToStr, typeKindToStr_eq printed, named, memberText]

theorem generateSchemaFromNode_eq (struct : type.isStruct = true)
    (generated : generateDynTypeTree demangleIfRosType memberName type = .ok node) :
    generateSchemaFromNode node = membersText demangleIfRosType type := by
  cases type with
  | struct name members =>
      have lines : members.map (memberText demangleIfRosType) =
          node.branches.map fun child => nodeToStr child.info ++ "\n" := by
        apply Lists.map_eq_map_of_forall₂ (branches_of_struct generated)
        intro member _ branch made
        exact (nodeToStr_eq made).symm
      rw [generateSchemaFromNode, ← lines]
      rfl
  | primitive | array | sequence | map | enumeration | union | other => cases struct

/-- **What is written** for the node of a structure is its section. -/
theorem sectionToStr_eq (struct : type.isStruct = true)
    (generated : generateDynTypeTree demangleIfRosType memberName type = .ok node) :
    sectionToStr node = sectionText demangleIfRosType type := by
  have named : node.info.typeKindName = (structName demangleIfRosType type).getD "" := by
    obtain ⟨printed, _⟩ := typeKindToStr_ok_of_nodeInfo (generateTree_ok generated).1
    cases type with
    | struct name members => exact (Except.ok.inj printed).symm
    | primitive | array | sequence | map | enumeration | union | other => cases struct
  rw [sectionToStr, named, generateSchemaFromNode_eq struct generated]
  unfold sectionText typeSeparator
  rfl

end Nodes

end Msg

end DdsPipe.Types
