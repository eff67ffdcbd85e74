import DdsPipe.Library.Lists
import DdsPipe.Library.OrderedMap
import DdsPipe.Types.IdlPieces
import Std.Data.String.ToNat

/-!
Owns the declarations of array members: the name of an array type is printed into one
string, with the bounds behind the name of the element, and split again at the first
bracket.

The bounds of an array of arrays are printed from the innermost array outwards, and
the first bracket may be one of the element, so a declaration is faithful only when
the bounds read the same both ways and no bracket belongs to the element
(`faithfulDeclarator_iff`).

Does not own: the declarations of other members.
-/

namespace DdsPipe.Types

open TreeWalk

namespace Idl

/-! ### Chains of arrays -/

/-- The element type of the innermost array of a chain. -/
def innermost : DynamicType → DynamicType
  | .array element _ => innermost element
  | type => type

/-- The bounds of a chain of arrays, from the outermost array on. -/
def arrayBounds : DynamicType → List Nat
  | .array element totalBounds => totalBounds :: arrayBounds element
  | _ => []

/-- Whether an array is printed as a part of the name of a type. -/
def holdsArray : DynamicType → Bool
  | .array _ _ => true
  | .sequence element _ => holdsArray element
  | .map _ key value => holdsArray key || holdsArray value
  | _ => false

/-- The declaration is the name of the innermost element type, the name of the member
and the bounds from the outermost array on. -/
def FaithfulDeclarator (node : TreeNode TreeNodeType) : Prop :=
  ∃ elementText, typeKindToStr (innermost node.info.dynamicType) = .ok elementText ∧
    nodeToStr node.info = tabSeparator ++ elementText ++ " " ++ node.info.memberName ++
      String.join ((arrayBounds node.info.dynamicType).map boundToStr)

/-- The name of a chain of arrays has the bounds from the innermost array on. -/
theorem render_pieces_eq : ∀ type : DynamicType,
    render (pieces type) = render (pieces (innermost type)) ++
      String.join ((arrayBounds type).reverse.map boundToStr)
  | .array element totalBounds => by
      rw [pieces, render_append, render_singleton, render_pieces_eq element, innermost, arrayBounds,
        List.reverse_cons, List.map_append, String.join_append, String.append_assoc]
      simp [Piece.text]
  | .sequence _ _ | .primitive _ _ | .map _ _ _ | .struct _ _ | .enumeration _ _ | .union _ _ _
  | .other _ _ => by
      simp [innermost, arrayBounds]

/-! ### Brackets -/

theorem isDigit_of_mem_toString {number : Nat} {letter : Char}
    (member : letter ∈ (toString number).toList) : letter.isDigit = true := by
  rw [Nat.toString_eq_ofList_toDigits, String.toList_ofList] at member
  exact Nat.isDigit_of_mem_toDigits (by decide) (by decide) member

/-- A letter that is no digit is in no number. -/
theorem notMem_toString {letter : Char} (noDigit : letter.isDigit = false) (number : Nat) :
    letter ∉ (toString number).toList := by
  intro member
  rw [isDigit_of_mem_toString member] at noDigit
  cases noDigit

theorem bracket_notMem_primitiveToStr (kind : PrimitiveKind) :
    '[' ∉ (primitiveToStr kind).toList := by
  cases kind <;> decide

theorem toList_boundToStr (bound : Nat) :
    (boundToStr bound).toList = '[' :: ((toString bound).toList ++ [']']) := by
  simp [boundToStr]

/-- Where the name of a type has a bracket: an array is printed in it, or a name that
it mentions has one. -/
theorem bracket_mem_render_iff : ∀ {type : DynamicType},
    '[' ∈ (render (pieces type)).toList ↔
      holdsArray type = true ∨ ∃ name ∈ names type, '[' ∈ name.toList
  | .primitive kind name => by
      have free := bracket_notMem_primitiveToStr kind
      simp [pieces, names, holdsArray, Piece.text, Piece.name?, free]
  | .array element totalBounds => by
      simp [pieces, holdsArray, Piece.text, toList_boundToStr]
  | .sequence element totalBounds => by
      have inner : '[' ∈ (render (pieces element)).toList ↔
          holdsArray element = true ∨ ∃ name ∈ names element, '[' ∈ name.toList :=
        bracket_mem_render_iff
      have bound : '[' ∉ (if totalBounds ≠ boundUnlimited then
          ", " ++ toString totalBounds else "").toList := by
        split
        · rw [String.toList_append, List.mem_append, not_or]
          exact ⟨by decide, notMem_toString rfl totalBounds⟩
        · decide
      rw [names_sequence, holdsArray, ← inner, pieces]
      simp only [render_append, render_singleton, Piece.text, String.toList_append, List.mem_append,
        bound, or_false]
      constructor
      · rintro ((opening | within) | closing)
        · exact absurd opening (by decide)
        · exact within
        · exact absurd closing (by decide)
      · exact fun within => .inl (.inr within)
  | .map _ key value => by
      have keyInner : '[' ∈ (render (pieces key)).toList ↔
          holdsArray key = true ∨ ∃ name ∈ names key, '[' ∈ name.toList :=
        bracket_mem_render_iff
      have valueInner : '[' ∈ (render (pieces value)).toList ↔
          holdsArray value = true ∨ ∃ name ∈ names value, '[' ∈ name.toList :=
        bracket_mem_render_iff
      rw [names_map, holdsArray, pieces]
      simp only [render_append, render_singleton, Piece.text, String.toList_append, List.mem_append,
        keyInner, valueInner, Bool.or_eq_true, or_and_right, exists_or]
      constructor
      · rintro ((((opening | key) | comma) | value) | closing)
        · exact absurd opening (by decide)
        · exact key.imp .inl .inl
        · exact absurd comma (by decide)
        · exact value.imp .inr .inr
        · exact absurd closing (by decide)
      · rintro ((key | value) | (key | value))
        · exact .inl (.inl (.inl (.inr (.inl key))))
        · exact .inl (.inr (.inl value))
        · exact .inl (.inl (.inl (.inr (.inr key))))
        · exact .inl (.inr (.inr value))
  | .struct name _ | .enumeration name _ | .union name _ _ => by
      simp [pieces, names, holdsArray, Piece.text, Piece.name?]
  | .other _ _ => by
      simp [pieces, names, holdsArray, render, String.join]

theorem head?_occurrences {before after : List Char} (start : Nat) (absent : '[' ∉ before) :
    (occurrences ['['] start (before ++ '[' :: after)).head? = some (start + before.length) := by
  induction before generalizing start with
  | nil =>
      have here : List.isPrefixOf ['['] ('[' :: after) = true := by simp
      rw [List.nil_append, occurrences, if_pos here]
      rfl
  | cons letter rest inductionHypothesis =>
      rw [List.mem_cons, not_or] at absent
      have elsewhere : List.isPrefixOf ['['] (letter :: (rest ++ '[' :: after)) = false := by
        rw [List.isPrefixOf, beq_false_of_ne absent.1]
        rfl
      rw [List.cons_append, occurrences, elsewhere, if_neg Bool.false_ne_true,
        inductionHypothesis (start + 1) absent.2, List.length_cons]
      congr 1
      omega

/-- The first bracket is found. -/
theorem find_bracket {text : String} {before after : List Char}
    (split : text.toList = before ++ '[' :: after) (absent : '[' ∉ before) :
    find text "[" = before.length := by
  rw [find, split, show "[".toList = ['['] from rfl, head?_occurrences 0 absent, Option.getD_some,
    Nat.zero_add]

/-! ### Bounds -/

theorem toString_nat_inj {number other : Nat}
    (same : (toString number).toList = (toString other).toList) : number = other :=
  Nat.repr_injective (String.toList_injective same)

/-- The bounds can be read back from their text. -/
theorem bounds_inj {bounds others : List Nat} (lengths : bounds.length = others.length)
    (same : String.join (bounds.map boundToStr) = String.join (others.map boundToStr)) :
    bounds = others := by
  induction bounds generalizing others with
  | nil => exact (List.length_eq_zero_iff.mp lengths.symm).symm
  | cons bound rest inductionHypothesis =>
      cases others with
      | nil => cases lengths
      | cons other others =>
          have letters := congrArg String.toList same
          rw [List.map_cons, List.map_cons, String.join_cons, String.join_cons,
            String.toList_append, String.toList_append, toList_boundToStr, toList_boundToStr,
            List.cons_append, List.cons_append, List.append_assoc,
            List.append_assoc] at letters
          obtain ⟨digits, tails⟩ := Lists.split_inj (notMem_toString rfl bound)
            (notMem_toString rfl other) (List.cons.inj letters).2
          have sameRest :=
            inductionHypothesis (Nat.succ.inj lengths) (String.toList_injective tails)
          rw [toString_nat_inj digits, sameRest]

/-! ### Declarations -/

/-- A declaration is split at the first bracket of the name of the type. -/
theorem nodeToStr_of_split {info : TreeNodeType} {element : DynamicType} {totalBounds : Nat}
    {before after : List Char} (array : info.dynamicType = .array element totalBounds)
    (split : info.typeKindName.toList = before ++ '[' :: after) (absent : '[' ∉ before) :
    nodeToStr info = tabSeparator ++ (String.ofList before ++ " " ++ info.memberName ++
      String.ofList ('[' :: after)) := by
  rw [nodeToStr, array]
  dsimp only
  rw [find_bracket split absent, split, List.take_left, List.drop_left]

/-- The node of a type holds the name of the member, the type and its name. -/
theorem info_of_generateDynTypeTree {memberName : String} {type : DynamicType}
    {node : TreeNode TreeNodeType} (printed : generateDynTypeTree memberName type = .ok node) :
    isPrintable type = true ∧ node.info = ⟨memberName, render (pieces type), type⟩ := by
  obtain ⟨typeKindName, named, made⟩ :=
    OrderedMap.bind_eq_ok_iff.mp (generateTree_ok (printed :)).1
  obtain ⟨printable, rfl⟩ := typeKindToStr_ok_iff.mp named
  exact ⟨printable, (Except.ok.inj made).symm⟩

theorem isPrintable_innermost : ∀ {type : DynamicType}, isPrintable type = true →
    isPrintable (innermost type) = true
  | .array element _, printable => by
      have inner : isPrintable (innermost element) = true := isPrintable_innermost printable
      exact inner
  | .sequence _ _, printable | .primitive _ _, printable | .map _ _ _, printable
  | .struct _ _, printable | .enumeration _ _, printable | .union _ _ _, printable
  | .other _ _, printable => printable

/-- The text of the bounds of a chain begins with a bracket. -/
theorem exists_bracket (bounds : List Nat) (nonempty : bounds ≠ []) :
    ∃ rest, (String.join (bounds.map boundToStr)).toList = '[' :: rest := by
  cases bounds with
  | nil => exact absurd rfl nonempty
  | cons bound others =>
      rw [List.map_cons, String.join_cons, String.toList_append, toList_boundToStr]
      exact ⟨_, rfl⟩

section Declarations

variable {info : TreeNodeType} {element : DynamicType} {totalBounds : Nat}
  (array : info.dynamicType = .array element totalBounds)
  (named : info.typeKindName = render (pieces (.array element totalBounds)))

include array named

/-- Without a bracket in the element type, the declaration has the bounds from the
innermost array on. -/
theorem nodeToStr_of_free (free : '[' ∉ (render (pieces (innermost element))).toList) :
    nodeToStr info = tabSeparator ++ (render (pieces (innermost element)) ++ " " ++
      info.memberName ++ String.join ((arrayBounds (.array element totalBounds)).reverse.map
        boundToStr)) := by
  obtain ⟨rest, bracket⟩ := exists_bracket (arrayBounds (.array element totalBounds)).reverse
    (by simp [arrayBounds])
  have split : info.typeKindName.toList =
      (render (pieces (innermost element))).toList ++ '[' :: rest := by
    rw [named, render_pieces_eq, String.toList_append, bracket]
    rfl
  rw [nodeToStr_of_split array split free, ← bracket, String.ofList_toList, String.ofList_toList]

/-- A bracket in the element type is taken for that of the bounds. -/
theorem nodeToStr_ne_of_bracket (bracket : '[' ∈ (render (pieces (innermost element))).toList)
    (others : String) :
    nodeToStr info ≠ tabSeparator ++ (render (pieces (innermost element)) ++ " " ++
      info.memberName ++ others) := by
  obtain ⟨before, after, elementSplit, absent⟩ := List.eq_append_cons_of_mem bracket
  have split : info.typeKindName.toList = before ++ '[' :: (after ++
      (String.join
        ((arrayBounds (.array element totalBounds)).reverse.map boundToStr)).toList) := by
    rw [named, render_pieces_eq, String.toList_append, innermost, elementSplit, List.append_assoc,
      List.cons_append]
  rw [nodeToStr_of_split array split absent]
  intro same
  have letters := congrArg String.toList same
  simp only [String.toList_append, String.toList_ofList, elementSplit, List.append_assoc] at letters
  have tails := List.append_cancel_left (List.append_cancel_left letters)
  rw [show " ".toList = [' '] from rfl, List.singleton_append, List.cons_append] at tails
  exact absurd (List.cons.inj tails).1 (by decide)

end Declarations

/-- **A declaration is faithful** exactly when its bounds read the same both ways and no
bracket belongs to the innermost element type. -/
theorem faithfulDeclarator_iff {memberName : String} {element : DynamicType} {totalBounds : Nat}
    {node : TreeNode TreeNodeType}
    (printed : generateDynTypeTree memberName (.array element totalBounds) = .ok node) :
    FaithfulDeclarator node ↔
      holdsArray (innermost element) = false ∧
        (∀ name ∈ names (innermost element), '[' ∉ name.toList) ∧
          arrayBounds (.array element totalBounds) =
            (arrayBounds (.array element totalBounds)).reverse := by
  obtain ⟨printable, same⟩ := info_of_generateDynTypeTree printed
  have array : node.info.dynamicType = .array element totalBounds := by rw [same]
  have named : node.info.typeKindName = render (pieces (.array element totalBounds)) := by rw [same]
  have elementText : typeKindToStr (innermost node.info.dynamicType) =
      .ok (render (pieces (innermost element))) := by
    rw [array]
    exact typeKindToStr_eq (isPrintable_innermost printable)
  have declares : FaithfulDeclarator node ↔
      nodeToStr node.info = tabSeparator ++ (render (pieces (innermost element)) ++ " " ++
        node.info.memberName ++
          String.join ((arrayBounds (.array element totalBounds)).map boundToStr)) := by
    unfold FaithfulDeclarator
    rw [elementText, array]
    simp only [Except.ok.injEq, exists_eq_left', String.append_assoc]
  have free : holdsArray (innermost element) = false ∧
      (∀ name ∈ names (innermost element), '[' ∉ name.toList) ↔
        '[' ∉ (render (pieces (innermost element))).toList := by
    rw [bracket_mem_render_iff, not_or, Bool.not_eq_true, not_exists]
    simp only [not_and]
  rw [declares, ← and_assoc, free]
  by_cases bracket : '[' ∈ (render (pieces (innermost element))).toList
  · constructor
    · intro faithful
      exact absurd faithful (nodeToStr_ne_of_bracket array named bracket _)
    · rintro ⟨notThere, _⟩
      exact absurd bracket notThere
  · rw [nodeToStr_of_free array named bracket]
    constructor
    · intro faithful
      have letters := congrArg String.toList faithful
      simp only [String.toList_append, List.append_assoc, List.append_cancel_left_eq] at letters
      refine ⟨bracket, ?_⟩
      exact (bounds_inj (List.length_reverse) (String.toList_injective letters)).symm
    · rintro ⟨_, palindrome⟩
      rw [← palindrome]

/-- An array of three arrays of three sequences. -/
theorem faithfulDeclarator_iff_square :
    ∃ node, generateDynTypeTree "square"
        (.array (.array (.sequence (.primitive .int32 "int32_t") 5) 3) 3) = .ok node ∧
      FaithfulDeclarator node := by
  have printed : generateDynTypeTree "square"
      (.array (.array (.sequence (.primitive .int32 "int32_t") 5) 3) 3) = .ok _ := rfl
  exact ⟨_, printed, (faithfulDeclarator_iff printed).mpr ⟨by decide, by decide, by decide⟩⟩

/-- An array of two arrays of three is declared as one of three arrays of two. -/
theorem not_faithfulDeclarator :
    ¬ ∀ (memberName : String) (element : DynamicType) (totalBounds : Nat)
      (node : TreeNode TreeNodeType),
      generateDynTypeTree memberName (.array element totalBounds) = .ok node →
        FaithfulDeclarator node := by
  intro faithful
  have printed : generateDynTypeTree "matrix" (.array (.array (.primitive .int32 "int32_t") 3) 2) =
      .ok _ := rfl
  obtain ⟨elementText, named, declared⟩ := faithful _ _ _ _ printed
  cases named
  exact absurd declared (by decide +kernel)

end Idl

end DdsPipe.Types
