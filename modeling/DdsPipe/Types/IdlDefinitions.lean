import DdsPipe.Types.ArrayDeclarators

/-!
Owns the text of the definitions of an IDL schema, spelled out over the types: the
definition of a structure has a line for each of its members, that of an enumeration its
literals, and that of a union its discriminator and its cases (`definitionText`). The
loop over the nodes writes these texts (`definitionToStr_eq`).

Does not own: which types are defined.
-/

namespace DdsPipe.Types

open TreeWalk

namespace DynamicType

/-- Whether a type is made of supported types only. -/
def isSupported (type : DynamicType) : Bool :=
  type.parts.all fun part =>
    match part with
    | .other _ _ => false
    | _ => true

theorem isSupported_of_parts_subset {type other : DynamicType} (supported : type.isSupported = true)
    (subset : other.parts ⊆ type.parts) : other.isSupported = true := by
  rw [isSupported, List.all_eq_true] at supported ⊢
  exact fun part within => supported part (subset within)

theorem isSupported_of_discriminator {name : String} {discriminator : DynamicType}
    {members : List (List Nat × String × DynamicType)}
    (supported : (DynamicType.union name discriminator members).isSupported = true) :
    discriminator.isSupported = true := by
  apply isSupported_of_parts_subset supported
  rw [parts]
  exact fun part within => List.mem_cons_of_mem _ (List.mem_append_left _ within)

theorem isSupported_of_case {name : String} {discriminator : DynamicType}
    {members : List (List Nat × String × DynamicType)} {member : List Nat × String × DynamicType}
    (supported : (DynamicType.union name discriminator members).isSupported = true)
    (isMember : member ∈ members) : member.2.2.isSupported = true := by
  apply isSupported_of_parts_subset supported
  rw [parts, partsOfCases_eq]
  exact fun part within => List.mem_cons_of_mem _ (List.mem_append_right _
    (List.mem_flatMap.mpr ⟨member, isMember, within⟩))

end DynamicType

namespace Idl

theorem isPrintable_of_isSupported : ∀ {type : DynamicType}, type.isSupported = true →
    isPrintable type = true
  | .array element totalBounds, supported | .sequence element totalBounds, supported => by
      have inner : isPrintable element = true := isPrintable_of_isSupported
        (DynamicType.isSupported_of_parts_subset supported
          (DynamicType.parts_subset_of_mem_children List.mem_cons_self))
      exact inner
  | .map name key value, supported => by
      have keyPrintable : isPrintable key = true := by
        apply isPrintable_of_isSupported
        apply DynamicType.isSupported_of_parts_subset supported
        rw [DynamicType.parts]
        exact fun part within => List.mem_cons_of_mem _ (List.mem_append_left _ within)
      have valuePrintable : isPrintable value = true := by
        apply isPrintable_of_isSupported
        apply DynamicType.isSupported_of_parts_subset supported
        rw [DynamicType.parts]
        exact fun part within => List.mem_cons_of_mem _ (List.mem_append_right _ within)
      rw [isPrintable, keyPrintable, valuePrintable]
      rfl
  | .primitive _ _, _ | .struct _ _, _ | .enumeration _ _, _ | .union _ _ _, _ => rfl
  | .other _ _, supported => nomatch supported

/-! ### Definitions -/

/-- The name that a type is defined under, if it is one that has a definition. -/
def definedName : DynamicType → Option String
  | .struct name _ | .enumeration name _ | .union name _ _ => some name
  | _ => none

/-- The declaration of a member: the name of its type and its own, which stands before
the first bracket of the name of an array. -/
def declaration (memberName : String) (type : DynamicType) : String :=
  let letters := (render (pieces type)).toList
  match type with
  | .array _ _ =>
      String.ofList (letters.takeWhile (· != '[')) ++ " " ++ memberName ++
        String.ofList (letters.dropWhile (· != '['))
  | _ => render (pieces type) ++ " " ++ memberName

/-- The text of one member of a union: its labels on a line, and its declaration on the
next. -/
def caseText (member : List Nat × String × DynamicType) : String :=
  (if member.1 = [] then ""
    else "    " ++
      String.intercalate " " (member.1.map fun label => "case " ++ toString label ++ ":")) ++
    "\n" ++ "        " ++ render (pieces member.2.2) ++ " " ++ member.2.1 ++ ";\n"

/-- **The definition of a type**, if it is one that has a definition. -/
def definitionText : DynamicType → String
  | .struct name members =>
      "struct " ++ name ++ "\n\x7b\n" ++
        String.join (members.map fun member => "    " ++ declaration member.1 member.2 ++ ";\n") ++
          "\x7d;\n"
  | .enumeration name literals =>
      "enum " ++ name ++ "\n\x7b\n" ++ "    " ++ String.intercalate ",\n    " literals ++ "\n" ++
        "\x7d;\n"
  | .union name discriminator members =>
      "union " ++ name ++ " switch (" ++ render (pieces discriminator) ++ ")" ++ "\n\x7b\n" ++
        String.join (members.map caseText) ++ "\x7d;\n"
  | _ => ""

example : definitionText (.struct "Inner" [("x", .primitive .int32 "int32_t"),
      ("grid", .array (.primitive .byte "byte") 4)]) =
    "struct Inner\n\x7b\n    long x;\n    octet grid[4];\n\x7d;\n" := by
  decide +kernel

/-- The definition that the loop over the nodes writes for a node. -/
def definitionToStr (node : TreeNode TreeNodeType) : Except SchemaException String :=
  match node.info.dynamicType with
  | .struct _ _ => .ok (structToStr node)
  | .enumeration _ literals => .ok (enumToStr node.info.typeKindName literals)
  | .union _ discriminator members => unionToStr node.info.typeKindName discriminator members
  | _ => .ok ""

/-! ### Nodes and their types -/

theorem info_of_generates {type : DynamicType} {node : TreeNode TreeNodeType}
    (generated : Generates nodeInfo id type node) :
    node.info.dynamicType = type ∧ node.info.typeKindName = render (pieces type) := by
  obtain ⟨memberName, made⟩ := generated
  rw [(info_of_generateDynTypeTree made).2]
  exact ⟨rfl, rfl⟩

theorem render_of_definedName {type : DynamicType} {name : String}
    (defined : definedName type = some name) : render (pieces type) = name := by
  cases type with
  | struct | enumeration | union =>
      rw [pieces, render_singleton]
      exact Option.some.inj defined
  | primitive | array | sequence | map | other => cases defined

/-! ### The text of a definition -/

/-- A member is declared on a line of its own. -/
theorem nodeToStr_eq {memberName : String} {type : DynamicType} {node : TreeNode TreeNodeType}
    (generated : generateDynTypeTree memberName type = .ok node) :
    nodeToStr node.info = "    " ++ declaration memberName type := by
  have info := (info_of_generateDynTypeTree generated).2
  cases type with
  | array element totalBounds =>
      have bracket : '[' ∈ (render (pieces (.array element totalBounds))).toList :=
        bracket_mem_render_iff.mpr (.inl rfl)
      obtain ⟨before, after, split, absent⟩ := List.eq_append_cons_of_mem bracket
      obtain ⟨front, back⟩ := Lists.takeWhile_of_split absent after
      rw [declaration, split, front, back]
      rw [nodeToStr_of_split (by rw [info]) (by rw [info]; exact split) absent, info]
      rfl
  | primitive | sequence | map | struct | enumeration | union | other =>
      rw [info]
      rfl

theorem structToStr_eq {memberName name : String} {members : List (String × DynamicType)}
    {node : TreeNode TreeNodeType}
    (generated : generateDynTypeTree memberName (.struct name members) = .ok node) :
    structToStr node = definitionText (.struct name members) := by
  have lines : members.map (fun member => "    " ++ declaration member.1 member.2 ++ ";\n") =
      node.branches.map fun child => nodeToStr child.info ++ ";\n" := by
    apply Lists.map_eq_map_of_forall₂ (branches_of_struct generated)
    intro member _ branch made
    rw [nodeToStr_eq made]
    rfl
  rw [structToStr, (info_of_generateDynTypeTree generated).2, ← lines, definitionText,
    render_of_definedName (show definedName (.struct name members) = some name from rfl)]
  rfl

theorem caseToStr_eq {member : List Nat × String × DynamicType}
    (supported : member.2.2.isSupported = true) : caseToStr member = .ok (caseText member) := by
  have tabs : labelsToStr member.1 ++ "\n" ++ tabSeparator ++ tabSeparator =
      labelsToStr member.1 ++ "\n" ++ "        " :=
    String.append_assoc ..
  rw [caseToStr, typeKindToStr_eq (isPrintable_of_isSupported supported)]
  show Except.ok (labelsToStr member.1 ++ "\n" ++ tabSeparator ++ tabSeparator ++
    render (pieces member.2.2) ++ " " ++ member.2.1 ++ ";\n") = _
  rw [tabs]
  rfl

theorem unionToStr_eq {name : String} {discriminator : DynamicType}
    {members : List (List Nat × String × DynamicType)}
    (supported : (DynamicType.union name discriminator members).isSupported = true) :
    unionToStr name discriminator members =
      .ok (definitionText (.union name discriminator members)) := by
  have printable := isPrintable_of_isSupported (DynamicType.isSupported_of_discriminator supported)
  have prints : ∀ member ∈ members, caseToStr member = .ok (caseText member) := by
    intro member isMember
    exact caseToStr_eq (DynamicType.isSupported_of_case supported isMember)
  rw [unionToStr, typeKindToStr_eq printable, Lists.mapM_eq_ok prints]
  rfl

/-- **What the loop writes** for the node of a supported type is its definition. -/
theorem definitionToStr_eq {type : DynamicType} {node : TreeNode TreeNodeType}
    (supported : type.isSupported = true) (generated : Generates nodeInfo id type node) :
    definitionToStr node = .ok (definitionText type) := by
  obtain ⟨memberName, made⟩ := generated
  have info := (info_of_generateDynTypeTree made).2
  rw [definitionToStr, info]
  cases type with
  | struct name members => exact congrArg Except.ok (structToStr_eq made)
  | enumeration name literals =>
      rw [render_of_definedName
        (show definedName (.enumeration name literals) = some name from rfl)]
      rfl
  | union name discriminator members =>
      rw [render_of_definedName
        (show definedName (.union name discriminator members) = some name from rfl)]
      exact unionToStr_eq supported
  | primitive | array | sequence | map | other => rfl

end Idl

end DdsPipe.Types
