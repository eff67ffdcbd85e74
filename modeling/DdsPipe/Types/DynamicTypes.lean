import Mathlib.Data.List.Basic

/-!
Owns the dynamic types of which the schemas are made, the types that one is made of,
and those that are reached from it through the members of structures and the elements
of arrays and sequences, which are the ones that a schema has nodes for.

Does not own: any schema.
-/

namespace DdsPipe.Types

/-- The kinds of the types that hold no other. -/
inductive PrimitiveKind where
  | boolean
  | byte
  | int16
  | int32
  | int64
  | uint16
  | uint32
  | uint64
  | float32
  | float64
  | float128
  | char8
  | char16
  | string8
  | string16
deriving DecidableEq, Repr

/-- The kinds that no schema supports, of which `unlisted` stands for those that the
source does not name. -/
inductive OtherKind where
  | bitset
  | bitmask
  | none
  | unlisted
deriving DecidableEq, Repr

/-- A dynamic type, with what `get_all_members` returns in the order of the member
identifiers. A union has the labels of each member. Bounds are the total ones, and
zero is `BOUND_UNLIMITED`. -/
inductive DynamicType where
  | primitive (kind : PrimitiveKind) (name : String)
  | array (element : DynamicType) (totalBounds : Nat)
  | sequence (element : DynamicType) (totalBounds : Nat)
  | map (name : String) (key value : DynamicType)
  | struct (name : String) (members : List (String × DynamicType))
  | enumeration (name : String) (literals : List String)
  | union (name : String) (discriminator : DynamicType)
      (members : List (List Nat × String × DynamicType))
  | other (kind : OtherKind) (name : String)

def boundUnlimited : Nat := 0

namespace DynamicType

mutual

/-- The types below a type on the way through structure members, array elements and
sequence elements, in the order in which a schema visits them. -/
def reachedBelow : DynamicType → List DynamicType
  | .array element _ | .sequence element _ => element :: reachedBelow element
  | .struct _ members => reachedByMembers members
  | _ => []

def reachedByMembers : List (String × DynamicType) → List DynamicType
  | [] => []
  | (_, type) :: rest => type :: (reachedBelow type ++ reachedByMembers rest)

end

/-- The types that a schema has nodes for. -/
def reached (type : DynamicType) : List DynamicType :=
  type :: type.reachedBelow

mutual

/-- All types that a type is made of, itself included. -/
def parts : DynamicType → List DynamicType
  | .primitive kind name => [.primitive kind name]
  | .array element totalBounds => .array element totalBounds :: parts element
  | .sequence element totalBounds => .sequence element totalBounds :: parts element
  | .map name key value => .map name key value :: (parts key ++ parts value)
  | .struct name members => .struct name members :: partsOfMembers members
  | .enumeration name literals => [.enumeration name literals]
  | .union name discriminator members =>
      .union name discriminator members :: (parts discriminator ++ partsOfCases members)
  | .other kind name => [.other kind name]

def partsOfMembers : List (String × DynamicType) → List DynamicType
  | [] => []
  | (_, type) :: rest => parts type ++ partsOfMembers rest

def partsOfCases : List (List Nat × String × DynamicType) → List DynamicType
  | [] => []
  | (_, _, type) :: rest => parts type ++ partsOfCases rest

end

def isStruct : DynamicType → Bool
  | .struct _ _ => true
  | _ => false

/-! ### Reached types -/

/-- The types right below a type. -/
def children : DynamicType → List DynamicType
  | .array element _ | .sequence element _ => [element]
  | .struct _ members => members.map Prod.snd
  | _ => []

theorem reachedByMembers_eq (members : List (String × DynamicType)) :
    reachedByMembers members = (members.map Prod.snd).flatMap reached := by
  induction members with
  | nil => rfl
  | cons first rest inductionHypothesis =>
      rw [reachedByMembers, inductionHypothesis]
      rfl

theorem reachedBelow_eq (type : DynamicType) :
    type.reachedBelow = type.children.flatMap reached := by
  cases type with
  | array element bounds => simp [reachedBelow, children, reached]
  | sequence element bounds => simp [reachedBelow, children, reached]
  | struct name members => exact reachedByMembers_eq members
  | primitive | map | enumeration | union | other => rfl

theorem mem_reached_iff {type other : DynamicType} :
    other ∈ type.reached ↔ other = type ∨ ∃ child ∈ type.children, other ∈ child.reached := by
  rw [reached, List.mem_cons, reachedBelow_eq, List.mem_flatMap]

theorem sizeOf_lt_of_mem_children {type child : DynamicType} (member : child ∈ type.children) :
    sizeOf child < sizeOf type := by
  cases type with
  | array element bounds | sequence element bounds =>
      rw [List.mem_singleton.mp member]
      simp
      omega
  | struct name members =>
      obtain ⟨⟨memberName, memberType⟩, there, rfl⟩ := List.mem_map.mp member
      have smaller := List.sizeOf_lt_of_mem there
      simp only [Prod.mk.sizeOf_spec, struct.sizeOf_spec] at smaller ⊢
      omega
  | primitive | map | enumeration | union | other => cases member

/-- Induction over a type along the way that a schema visits it. -/
theorem inductionReached {motive : DynamicType → Prop}
    (step : ∀ type : DynamicType, (∀ child ∈ type.children, motive child) → motive type)
    (type : DynamicType) : motive type :=
  step type fun child _ => inductionReached step child
termination_by type
decreasing_by exact sizeOf_lt_of_mem_children ‹_›

theorem self_mem_reached (type : DynamicType) : type ∈ type.reached :=
  List.mem_cons_self

theorem reached_trans {first second third : DynamicType} (before : second ∈ first.reached)
    (after : third ∈ second.reached) : third ∈ first.reached := by
  induction first using inductionReached with
  | step type inductionHypothesis =>
      rcases mem_reached_iff.mp before with rfl | ⟨child, member, within⟩
      · exact after
      · exact mem_reached_iff.mpr (.inr ⟨child, member, inductionHypothesis child member within⟩)

theorem mem_reached_of_mem_children {type child : DynamicType} (member : child ∈ type.children) :
    child ∈ type.reached :=
  mem_reached_iff.mpr (.inr ⟨child, member, self_mem_reached child⟩)

/-- A type is not below itself. -/
theorem sizeOf_lt_of_mem_reachedBelow {type other : DynamicType}
    (below : other ∈ type.reachedBelow) :
    sizeOf other < sizeOf type := by
  induction type using inductionReached with
  | step type inductionHypothesis =>
      rw [reachedBelow_eq, List.mem_flatMap] at below
      obtain ⟨child, member, within⟩ := below
      have smaller := sizeOf_lt_of_mem_children member
      rcases List.mem_cons.mp within with rfl | deeper
      · exact smaller
      · exact Nat.lt_trans (inductionHypothesis child member deeper) smaller

/-! ### Parts -/

theorem partsOfMembers_eq (members : List (String × DynamicType)) :
    partsOfMembers members = (members.map Prod.snd).flatMap parts := by
  induction members with
  | nil => rfl
  | cons first rest inductionHypothesis =>
      rw [partsOfMembers, inductionHypothesis]
      rfl

theorem partsOfCases_eq (members : List (List Nat × String × DynamicType)) :
    partsOfCases members = members.flatMap fun member => parts member.2.2 := by
  induction members with
  | nil => rfl
  | cons first rest inductionHypothesis =>
      rw [partsOfCases, inductionHypothesis]
      rfl

theorem self_mem_parts (type : DynamicType) : type ∈ type.parts := by
  cases type with
  | primitive | array | sequence | map | struct | enumeration | union | other =>
      rw [parts]
      exact List.mem_cons_self

theorem parts_subset_of_mem_children {type child : DynamicType} (member : child ∈ type.children) :
    child.parts ⊆ type.parts := by
  cases type with
  | array element bounds | sequence element bounds =>
      rw [List.mem_singleton.mp member, parts]
      exact List.subset_cons_self _ _
  | struct name members =>
      intro part within
      rw [parts, partsOfMembers_eq]
      exact List.mem_cons_of_mem _ (List.mem_flatMap.mpr ⟨child, member, within⟩)
  | primitive | map | enumeration | union | other => cases member

/-- What is reached is a part. -/
theorem parts_subset_of_mem_reached {type other : DynamicType} (reached : other ∈ type.reached) :
    other.parts ⊆ type.parts := by
  induction type using inductionReached with
  | step type inductionHypothesis =>
      rcases mem_reached_iff.mp reached with rfl | ⟨child, member, within⟩
      · exact List.Subset.refl _
      · have inChild := inductionHypothesis child member within
        exact List.Subset.trans inChild (parts_subset_of_mem_children member)

theorem mem_parts_of_mem_reached {type other : DynamicType} (reached : other ∈ type.reached) :
    other ∈ type.parts :=
  parts_subset_of_mem_reached reached (self_mem_parts other)

end DynamicType

end DdsPipe.Types
