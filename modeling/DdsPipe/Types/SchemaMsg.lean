import DdsPipe.Types.SchemaTree

/-!
Owns the ROS 2 message schema of a dynamic type: the members of the root, and one
section for each structure that has not been written yet.

Does not own: for which types it fails, and which structures it defines. How ROS names
are demangled, and the order in which `all_nodes` visits a tree, are left open.
-/

namespace DdsPipe.Types

open TreeWalk

namespace Msg

def typeSeparator : String :=
  "================================================================================\n"

structure TreeNodeType where
  memberName : String
  typeKindName : String
  isStruct : Bool

/-! ### The names of types -/

/-- `container_kind_to_str`, from the name of the element type. -/
def containerKindToStr (internalType : String) (thisArraySize : Nat) (allowBounded : Bool) :
    String :=
  internalType ++
    if thisArraySize ≠ boundUnlimited then
      if allowBounded then "[<=" ++ toString thisArraySize ++ "]"
      else "[" ++ toString thisArraySize ++ "]"
    else "[]"

section Names

variable (demangleIfRosType : String → String)

def unsupported (name : String) : SchemaException :=
  .unsupported ("Type " ++ demangleIfRosType name ++ " is not supported in ROS2 msg.")

def typeKindToStr : DynamicType → Except SchemaException String
  | .primitive .boolean _ => .ok "bool"
  | .primitive .byte _ => .ok "uint8"
  | .primitive .int16 _ => .ok "int16"
  | .primitive .int32 _ => .ok "int32"
  | .primitive .int64 _ => .ok "int64"
  | .primitive .uint16 _ => .ok "uint16"
  | .primitive .uint32 _ => .ok "uint32"
  | .primitive .uint64 _ => .ok "uint64"
  | .primitive .float32 _ => .ok "float32"
  | .primitive .float64 _ => .ok "float64"
  | .primitive .char8 _ => .ok "int8"
  | .primitive .string8 _ => .ok "string"
  | .array element totalBounds => do
      let internalType ← typeKindToStr element
      return containerKindToStr internalType totalBounds false
  | .sequence element totalBounds => do
      let internalType ← typeKindToStr element
      return containerKindToStr internalType totalBounds true
  | .struct name _ => .ok (demangleIfRosType name)
  | .primitive .float128 name | .primitive .char16 name | .primitive .string16 name
  | .enumeration name _ | .other .bitset name | .map name _ _ | .union name _ _
  | .other .none name => .error (unsupported demangleIfRosType name)
  | .other .bitmask name | .other .unlisted name =>
      .error (.inconsistency ("Type " ++ demangleIfRosType name ++ " has not correct kind."))

/-! ### The tree -/

/-- What a node keeps of its type. -/
def nodeInfo (memberName : String) : DynamicType → Except SchemaException TreeNodeType
  | .struct name _ => .ok ⟨memberName, demangleIfRosType name, true⟩
  | type => do
      let typeKindName ← typeKindToStr demangleIfRosType type
      return ⟨memberName, typeKindName, false⟩

/-- The names of members are demangled as well. -/
def generateDynTypeTree (memberName : String) (type : DynamicType) :
    Except SchemaException (TreeNode TreeNodeType) :=
  generateTree (nodeInfo demangleIfRosType) demangleIfRosType memberName type

end Names

/-! ### The text -/

def nodeToStr (node : TreeNodeType) : String :=
  node.typeKindName ++ " " ++ node.memberName

def generateSchemaFromNode (node : TreeNode TreeNodeType) : String :=
  String.join (node.branches.map fun child => nodeToStr child.info ++ "\n")

/-- The section of a structure. -/
def sectionToStr (node : TreeNode TreeNodeType) : String :=
  typeSeparator ++ "MSG: fastdds/" ++ node.info.typeKindName ++ "\n" ++ generateSchemaFromNode node

/-- One round of the loop over the nodes: the types that are written, and the
text. -/
def writeNode (state : List String × String) (node : TreeNode TreeNodeType) :
    List String × String :=
  let (typesWritten, text) := state
  if node.info.isStruct = true ∧ node.info.typeKindName ∉ typesWritten then
    (node.info.typeKindName :: typesWritten, text ++ sectionToStr node)
  else state

def generateDynTypeSchemaFromTree
    (allNodes : TreeNode TreeNodeType → List (TreeNode TreeNodeType))
    (parentNode : TreeNode TreeNodeType) : String :=
  ((allNodes parentNode).foldl writeNode
    ([parentNode.info.typeKindName], generateSchemaFromNode parentNode)).2

def generateRos2Schema (demangleIfRosType : String → String)
    (allNodes : TreeNode TreeNodeType → List (TreeNode TreeNodeType))
    (dynamicType : DynamicType) : Except SchemaException String := do
  let parentType ← generateDynTypeTree demangleIfRosType "PARENT" dynamicType
  return generateDynTypeSchemaFromTree allNodes parentType

end Msg

end DdsPipe.Types
