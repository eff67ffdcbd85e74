import DdsPipe.Types.SchemaTree
import DdsPipe.Types.Topic

/-!
Owns the IDL text of a dynamic type: the tree of its members and elements, and the
definitions of structures, enumerations and unions that are printed from the tree.

Does not own: which types that text mentions and defines. The order in which
`all_nodes` visits a tree is left open.
-/

namespace DdsPipe.Types

open TreeWalk

namespace Idl

def typeOpening : String := "\n\x7b\n"

def typeClosure : String := "\x7d;\n"

def tabSeparator : String := "    "

structure TreeNodeType where
  memberName : String
  typeKindName : String
  dynamicType : DynamicType

/-! ### The names of types -/

def primitiveToStr : PrimitiveKind → String
  | .boolean => "boolean"
  | .byte => "octet"
  | .int16 => "short"
  | .int32 => "long"
  | .int64 => "long long"
  | .uint16 => "unsigned short"
  | .uint32 => "unsigned long"
  | .uint64 => "unsigned long long"
  | .float32 => "float"
  | .float64 => "double"
  | .float128 => "long double"
  | .char8 => "char"
  | .char16 => "wchar"
  | .string8 => "string"
  | .string16 => "wstring"

def boundToStr (bound : Nat) : String := "[" ++ toString bound ++ "]"

/-- `array_kind_to_str`, from the name of the element type. -/
def arrayKindToStr (internalType : String) (thisArraySize : Nat) : String :=
  internalType ++ boundToStr thisArraySize

def sequenceKindToStr (internalType : String) (thisSequenceSize : Nat) : String :=
  "sequence<" ++ internalType ++
    (if thisSequenceSize ≠ boundUnlimited then ", " ++ toString thisSequenceSize else "") ++ ">"

def mapKindToStr (keyType valueType : String) : String :=
  "map<" ++ keyType ++ ", " ++ valueType ++ ">"

def typeKindToStr : DynamicType → Except SchemaException String
  | .primitive kind _ => .ok (primitiveToStr kind)
  | .array element totalBounds => do
      let internalType ← typeKindToStr element
      return arrayKindToStr internalType totalBounds
  | .sequence element totalBounds => do
      let internalType ← typeKindToStr element
      return sequenceKindToStr internalType totalBounds
  | .map _ key value => do
      let keyType ← typeKindToStr key
      let valueType ← typeKindToStr value
      return mapKindToStr keyType valueType
  | .struct name _ | .enumeration name _ | .union name _ _ => .ok name
  | .other .unlisted name =>
      .error (.inconsistency ("Type " ++ name ++ " has not correct kind."))
  | .other _ name => .error (.unsupported ("Type " ++ name ++ " is not supported."))

/-! ### The tree -/

/-- What a node keeps of its type. A structure is printed as its name. -/
def nodeInfo (memberName : String) (type : DynamicType) : Except SchemaException TreeNodeType := do
  let typeKindName ← typeKindToStr type
  return ⟨memberName, typeKindName, type⟩

def generateDynTypeTree (memberName : String) (type : DynamicType) :
    Except SchemaException (TreeNode TreeNodeType) :=
  generateTree nodeInfo id memberName type

/-! ### The text -/

/-- The declaration of a member. The bounds of an array follow the name of the
member. -/
def nodeToStr (info : TreeNodeType) : String :=
  tabSeparator ++
    match info.dynamicType with
    | .array _ _ =>
        let dimPos := find info.typeKindName "["
        let kindNameStr := String.ofList (info.typeKindName.toList.take dimPos)
        let dimStr := String.ofList (info.typeKindName.toList.drop dimPos)
        kindNameStr ++ " " ++ info.memberName ++ dimStr
    | _ => info.typeKindName ++ " " ++ info.memberName

def structToStr (node : TreeNode TreeNodeType) : String :=
  "struct " ++ node.info.typeKindName ++ typeOpening ++
    String.join (node.branches.map fun child => nodeToStr child.info ++ ";\n") ++ typeClosure

def enumToStr (name : String) (literals : List String) : String :=
  "enum " ++ name ++ typeOpening ++ tabSeparator ++
    String.intercalate (",\n" ++ tabSeparator) literals ++ "\n" ++ typeClosure

/-- The labels of one member of a union. -/
def labelsToStr (labels : List Nat) : String :=
  if labels = [] then ""
  else tabSeparator ++
    String.intercalate " " (labels.map fun label => "case " ++ toString label ++ ":")

/-- The round of `union_to_str` for one member. -/
def caseToStr (member : List Nat × String × DynamicType) : Except SchemaException String := do
  let (labels, memberName, type) := member
  let typeKindName ← typeKindToStr type
  return labelsToStr labels ++ "\n" ++ tabSeparator ++ tabSeparator ++ typeKindName ++ " " ++
    memberName ++ ";\n"

def unionToStr (name : String) (discriminator : DynamicType)
    (members : List (List Nat × String × DynamicType)) : Except SchemaException String := do
  let discriminatorType ← typeKindToStr discriminator
  let cases ← members.mapM caseToStr
  return "union " ++ name ++ " switch (" ++ discriminatorType ++ ")" ++ typeOpening ++
    String.join cases ++ typeClosure

/-- One round of the loop over the nodes: the types that are written, and the
text. -/
def writeNode (state : List String × String) (node : TreeNode TreeNodeType) :
    Except SchemaException (List String × String) :=
  let (typesWritten, text) := state
  let name := node.info.typeKindName
  if name ∈ typesWritten then .ok state
  else
    match node.info.dynamicType with
    | .struct _ _ => .ok (name :: typesWritten, text ++ (structToStr node ++ "\n"))
    | .enumeration _ literals =>
        .ok (name :: typesWritten, text ++ (enumToStr name literals ++ "\n"))
    | .union _ discriminator members => do
        let union ← unionToStr name discriminator members
        return (name :: typesWritten, text ++ (union ++ "\n"))
    | _ => .ok state

def generateDynTypeSchemaFromTree
    (allNodes : TreeNode TreeNodeType → List (TreeNode TreeNodeType))
    (parentNode : TreeNode TreeNodeType) : Except SchemaException String := do
  let (_, text) ← (allNodes parentNode).foldlM writeNode ([], "")
  return text ++ structToStr parentNode

def generateIdlSchema (allNodes : TreeNode TreeNodeType → List (TreeNode TreeNodeType))
    (dynamicType : DynamicType) : Except SchemaException String := do
  let parentType ← generateDynTypeTree "PARENT" dynamicType
  generateDynTypeSchemaFromTree allNodes parentType

end Idl

end DdsPipe.Types
