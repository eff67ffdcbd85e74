import DdsPipe.Library.Lists
import DdsPipe.Library.OrderedMap
import DdsPipe.Library.TreeWalk
import DdsPipe.Types.DynamicTypes

/-!
Owns the tree that both schemas build from a dynamic type: one node for the type, and
one branch for each structure member and for the element of an array or a sequence.
The nodes of the tree are those of the types that are reached (`mem_descendants_cases`,
`exists_descendant`).

Does not own: what a schema keeps of the type at a node.
-/

namespace DdsPipe.Types

open TreeWalk

/-- The exceptions of the schemas, with their message. -/
inductive SchemaException where
  | unsupported (message : String)
  | inconsistency (message : String)
deriving DecidableEq, Repr

section Generation

variable {Info : Type} (describe : String → DynamicType → Except SchemaException Info)
  (memberNameOf : String → String)

mutual

/-- `generate_dyn_type_tree`, by what the information of a node is and what becomes of
the names of members. -/
def generateTree (memberName : String) : DynamicType → Except SchemaException (TreeNode Info)
  | .struct name members => do
      let info ← describe memberName (.struct name members)
      let branches ← generateBranches members
      return .node info branches
  | .array element totalBounds => do
      let info ← describe memberName (.array element totalBounds)
      let branch ← generateTree "CONTAINER_MEMBER" element
      return .node info [branch]
  | .sequence element totalBounds => do
      let info ← describe memberName (.sequence element totalBounds)
      let branch ← generateTree "CONTAINER_MEMBER" element
      return .node info [branch]
  | type => do
      let info ← describe memberName type
      return .node info []

/-- The branches of a structure, one for each member. -/
def generateBranches :
    List (String × DynamicType) → Except SchemaException (List (TreeNode Info))
  | [] => .ok []
  | (name, type) :: rest => do
      let branch ← generateTree (memberNameOf name) type
      let branches ← generateBranches rest
      return branch :: branches

end

/-- A node is generated for a type. -/
def Generates (type : DynamicType) (node : TreeNode Info) : Prop :=
  ∃ memberName, generateTree describe memberNameOf memberName type = .ok node

variable {describe memberNameOf} {memberName : String} {type : DynamicType} {tree : TreeNode Info}

/-! ### Nodes and types -/

/-- Each branch is that of a member, under the name that the member is given. -/
theorem forall₂_generateBranches {members : List (String × DynamicType)}
    {branches : List (TreeNode Info)}
    (generated : generateBranches describe memberNameOf members = .ok branches) :
    List.Forall₂ (fun member branch =>
      generateTree describe memberNameOf (memberNameOf member.1) member.2 = .ok branch)
      members branches := by
  induction members generalizing branches with
  | nil =>
      cases generated
      exact .nil
  | cons first rest inductionHypothesis =>
      obtain ⟨name, type⟩ := first
      rw [generateBranches] at generated
      obtain ⟨branch, here, later⟩ := OrderedMap.bind_eq_ok_iff.mp generated
      obtain ⟨others, there, made⟩ := OrderedMap.bind_eq_ok_iff.mp later
      cases made
      exact .cons here (inductionHypothesis there)

/-- The branches of a structure are those of its members. -/
theorem branches_of_struct {name : String} {members : List (String × DynamicType)}
    (generated : generateTree describe memberNameOf memberName (.struct name members) = .ok tree) :
    List.Forall₂ (fun member branch =>
      generateTree describe memberNameOf (memberNameOf member.1) member.2 = .ok branch)
      members tree.branches := by
  rw [generateTree] at generated
  obtain ⟨info, _, later⟩ := OrderedMap.bind_eq_ok_iff.mp generated
  obtain ⟨branches, there, made⟩ := OrderedMap.bind_eq_ok_iff.mp later
  cases made
  exact forall₂_generateBranches there

/-- **What a tree consists of**: the information of its type, and a branch for each
type right below it. -/
theorem generateTree_ok
    (generated : generateTree describe memberNameOf memberName type = .ok tree) :
    describe memberName type = .ok tree.info ∧
      List.Forall₂ (Generates describe memberNameOf) type.children tree.branches := by
  cases type with
  | struct name members =>
      rw [generateTree] at generated
      obtain ⟨info, described, later⟩ := OrderedMap.bind_eq_ok_iff.mp generated
      obtain ⟨branches, there, made⟩ := OrderedMap.bind_eq_ok_iff.mp later
      cases made
      refine ⟨described, List.forall₂_map_left_iff.mpr ?_⟩
      exact (forall₂_generateBranches there).imp fun _ _ made => ⟨_, made⟩
  | array element totalBounds | sequence element totalBounds =>
      rw [generateTree] at generated
      obtain ⟨info, described, later⟩ := OrderedMap.bind_eq_ok_iff.mp generated
      obtain ⟨branch, there, made⟩ := OrderedMap.bind_eq_ok_iff.mp later
      cases made
      exact ⟨described, .cons ⟨_, there⟩ .nil⟩
  | primitive | map | enumeration | union | other =>
      obtain ⟨info, described, made⟩ := OrderedMap.bind_eq_ok_iff.mp generated
      cases made
      exact ⟨described, .nil⟩

theorem exists_child_of_branch {children : List DynamicType} {branches : List (TreeNode Info)}
    (generated : List.Forall₂ (Generates describe memberNameOf) children branches)
    {branch : TreeNode Info} (member : branch ∈ branches) :
    ∃ child ∈ children, Generates describe memberNameOf child branch := by
  have turned : List.Forall₂ (flip (Generates describe memberNameOf)) branches children :=
    generated.flip
  exact Lists.exists_mem_of_forall₂ turned member

/-- Every node below the root is that of a type reached below the root. -/
theorem mem_descendants_cases (generated : Generates describe memberNameOf type tree)
    {node : TreeNode Info} (below : node ∈ tree.descendants) :
    ∃ other ∈ type.reachedBelow, Generates describe memberNameOf other node := by
  induction type using DynamicType.inductionReached generalizing tree with
  | step type inductionHypothesis =>
      obtain ⟨memberName, generated⟩ := generated
      obtain ⟨branch, member, within⟩ := TreeNode.mem_descendants_iff.mp below
      obtain ⟨child, there, generates⟩ :=
        exists_child_of_branch (generateTree_ok generated).2 member
      rw [DynamicType.reachedBelow_eq]
      rcases within with rfl | deeper
      · exact ⟨child, List.mem_flatMap.mpr ⟨child, there, child.self_mem_reached⟩, generates⟩
      · obtain ⟨other, reached, made⟩ := inductionHypothesis child there generates deeper
        exact ⟨other, List.mem_flatMap.mpr ⟨child, there, List.mem_cons_of_mem _ reached⟩, made⟩

/-- Every type reached below the root has a node below the root. -/
theorem exists_descendant (generated : Generates describe memberNameOf type tree)
    {other : DynamicType} (below : other ∈ type.reachedBelow) :
    ∃ node ∈ tree.descendants, Generates describe memberNameOf other node := by
  induction type using DynamicType.inductionReached generalizing tree with
  | step type inductionHypothesis =>
      obtain ⟨memberName, generated⟩ := generated
      rw [DynamicType.reachedBelow_eq, List.mem_flatMap] at below
      obtain ⟨child, there, reached⟩ := below
      obtain ⟨branch, member, generates⟩ :=
        Lists.exists_mem_of_forall₂ (generateTree_ok generated).2 there
      rcases List.mem_cons.mp reached with rfl | deeper
      · exact ⟨branch, TreeNode.mem_descendants_iff.mpr ⟨branch, member, .inl rfl⟩, generates⟩
      · obtain ⟨node, within, made⟩ := inductionHypothesis child there generates deeper
        exact ⟨node, TreeNode.mem_descendants_iff.mpr ⟨branch, member, .inr within⟩, made⟩

/-- The nodes that a walk yields are those of the types reached below the root. -/
theorem mem_allNodes_cases {allNodes : TreeNode Info → List (TreeNode Info)}
    (complete : TreeNode.YieldsDescendants allNodes)
    (generated : Generates describe memberNameOf type tree) {node : TreeNode Info}
    (member : node ∈ allNodes tree) :
    ∃ other ∈ type.reachedBelow, Generates describe memberNameOf other node :=
  mem_descendants_cases generated ((complete tree node).mp member)

theorem exists_mem_allNodes {allNodes : TreeNode Info → List (TreeNode Info)}
    (complete : TreeNode.YieldsDescendants allNodes)
    (generated : Generates describe memberNameOf type tree) {other : DynamicType}
    (below : other ∈ type.reachedBelow) :
    ∃ node ∈ allNodes tree, Generates describe memberNameOf other node := by
  obtain ⟨node, within, made⟩ := exists_descendant generated below
  exact ⟨node, (complete tree node).mpr within, made⟩

/-- All types that are reached have been described. -/
theorem exists_describe_ok (generated : Generates describe memberNameOf type tree)
    {other : DynamicType} (reached : other ∈ type.reached) :
    ∃ name info, describe name other = .ok info := by
  rcases List.mem_cons.mp reached with rfl | below
  · obtain ⟨name, made⟩ := generated
    exact ⟨name, tree.info, (generateTree_ok made).1⟩
  · obtain ⟨node, _, name, made⟩ := exists_descendant generated below
    exact ⟨name, node.info, (generateTree_ok made).1⟩

/-! ### Failures -/

theorem generateBranches_error {members : List (String × DynamicType)} {exception : SchemaException}
    (failed : generateBranches describe memberNameOf members = .error exception) :
    ∃ member ∈ members, ∃ name,
      generateTree describe memberNameOf name member.2 = .error exception := by
  induction members with
  | nil => cases failed
  | cons first rest inductionHypothesis =>
      obtain ⟨name, type⟩ := first
      rw [generateBranches] at failed
      rcases OrderedMap.bind_eq_error_iff.mp failed with here | ⟨branch, _, later⟩
      · exact ⟨_, List.mem_cons_self, _, here⟩
      · rcases OrderedMap.bind_eq_error_iff.mp later with there | ⟨branches, _, made⟩
        · obtain ⟨member, within, found⟩ := inductionHypothesis there
          exact ⟨member, List.mem_cons_of_mem _ within, found⟩
        · cases made

/-- A tree that cannot be generated has a type that cannot be described. -/
theorem exists_describe_error {exception : SchemaException}
    (failed : generateTree describe memberNameOf memberName type = .error exception) :
    ∃ other ∈ type.reached, ∃ name, describe name other = .error exception := by
  induction type using DynamicType.inductionReached generalizing memberName with
  | step type inductionHypothesis =>
      have fromChild : ∀ child ∈ type.children, ∀ name,
          generateTree describe memberNameOf name child = .error exception →
            ∃ other ∈ type.reached, ∃ name, describe name other = .error exception := by
        intro child member name childFailed
        obtain ⟨other, reached, found⟩ := inductionHypothesis child member childFailed
        exact ⟨other, DynamicType.reached_trans
          (DynamicType.mem_reached_of_mem_children member) reached, found⟩
      cases type with
      | struct name members =>
          rw [generateTree] at failed
          rcases OrderedMap.bind_eq_error_iff.mp failed with here | ⟨info, _, later⟩
          · exact ⟨_, DynamicType.self_mem_reached _, _, here⟩
          · rcases OrderedMap.bind_eq_error_iff.mp later with there | ⟨branches, _, made⟩
            · obtain ⟨member, within, memberName, memberFailed⟩ := generateBranches_error there
              exact fromChild member.2 (List.mem_map_of_mem within) memberName memberFailed
            · cases made
      | array element totalBounds | sequence element totalBounds =>
          rw [generateTree] at failed
          rcases OrderedMap.bind_eq_error_iff.mp failed with here | ⟨info, _, later⟩
          · exact ⟨_, DynamicType.self_mem_reached _, _, here⟩
          · rcases OrderedMap.bind_eq_error_iff.mp later with there | ⟨branch, _, made⟩
            · exact fromChild element List.mem_cons_self _ there
            · cases made
      | primitive | map | enumeration | union | other =>
          rcases OrderedMap.bind_eq_error_iff.mp failed with here | ⟨info, _, made⟩
          · exact ⟨_, DynamicType.self_mem_reached _, _, here⟩
          · cases made

end Generation

end DdsPipe.Types
