import DdsPipe.Types.SchemaIdl

/-!
Owns what the printed name of a type consists of: the names of structures,
enumerations and unions that it mentions, and literal text between them
(`typeKindToStr_eq`).

Does not own: where a type is printed.
-/

namespace DdsPipe.Types

namespace Idl

inductive Piece where
  | literal (text : String)
  | mention (name : String)
deriving DecidableEq, Repr

def Piece.text : Piece → String
  | .literal text => text
  | .mention name => name

def Piece.name? : Piece → Option String
  | .literal _ => none
  | .mention name => some name

def render (pieces : List Piece) : String :=
  String.join (pieces.map Piece.text)

@[simp] theorem render_append (pieces others : List Piece) :
    render (pieces ++ others) = render pieces ++ render others := by
  rw [render, List.map_append, String.join_append]
  rfl

@[simp] theorem render_singleton (piece : Piece) : render [piece] = piece.text := by
  simp [render]

/-- The pieces of the name of a type. -/
def pieces : DynamicType → List Piece
  | .primitive kind _ => [.literal (primitiveToStr kind)]
  | .array element totalBounds => pieces element ++ [.literal (boundToStr totalBounds)]
  | .sequence element totalBounds =>
      [.literal "sequence<"] ++ pieces element ++
        [.literal (if totalBounds ≠ boundUnlimited then ", " ++ toString totalBounds else "")] ++
          [.literal ">"]
  | .map _ key value =>
      [.literal "map<"] ++ pieces key ++ [.literal ", "] ++ pieces value ++ [.literal ">"]
  | .struct name _ | .enumeration name _ | .union name _ _ => [.mention name]
  | .other _ _ => []

/-- The names of structures, enumerations and unions that the name of a type
mentions. -/
def names (type : DynamicType) : List String :=
  (pieces type).filterMap Piece.name?

@[simp] theorem names_array (element : DynamicType) (totalBounds : Nat) :
    names (.array element totalBounds) = names element := by
  simp [names, pieces, Piece.name?, List.filterMap_cons]

@[simp] theorem names_sequence (element : DynamicType) (totalBounds : Nat) :
    names (.sequence element totalBounds) = names element := by
  simp [names, pieces, Piece.name?, List.filterMap_cons]

@[simp] theorem names_map (name : String) (key value : DynamicType) :
    names (.map name key value) = names key ++ names value := by
  simp [names, pieces, Piece.name?, List.filterMap_cons]

/-- Whether the name of a type can be printed. -/
def isPrintable : DynamicType → Bool
  | .array element _ | .sequence element _ => isPrintable element
  | .map _ key value => isPrintable key && isPrintable value
  | .other _ _ => false
  | _ => true

/-- **A type is printed piece by piece.** -/
theorem typeKindToStr_eq : ∀ {type : DynamicType}, isPrintable type = true →
    typeKindToStr type = .ok (render (pieces type))
  | .primitive kind name, _ => by
      rw [pieces, render_singleton]
      rfl
  | .array element totalBounds, printable => by
      have inner := typeKindToStr_eq (show isPrintable element = true from printable)
      rw [typeKindToStr, inner, pieces, render_append, render_singleton]
      rfl
  | .sequence element totalBounds, printable => by
      have inner := typeKindToStr_eq (show isPrintable element = true from printable)
      rw [typeKindToStr, inner, pieces]
      simp only [render_append, render_singleton]
      rfl
  | .map name key value, printable => by
      obtain ⟨keyPrintable, valuePrintable⟩ := Bool.and_eq_true_iff.mp printable
      rw [typeKindToStr, typeKindToStr_eq keyPrintable, typeKindToStr_eq valuePrintable, pieces]
      simp only [render_append, render_singleton]
      rfl
  | .struct name members, _ => by
      rw [pieces, render_singleton]
      rfl
  | .enumeration name literals, _ => by
      rw [pieces, render_singleton]
      rfl
  | .union name discriminator members, _ => by
      rw [pieces, render_singleton]
      rfl

/-- What is printed is printable. -/
theorem isPrintable_of_typeKindToStr : ∀ {type : DynamicType} {text : String},
    typeKindToStr type = .ok text → isPrintable type = true
  | .primitive _ _, _, _ | .struct _ _, _, _ | .enumeration _ _, _, _ | .union _ _ _, _, _ => rfl
  | .array element totalBounds, text, printed | .sequence element totalBounds, text, printed => by
      obtain ⟨internalType, inner, _⟩ := OrderedMap.bind_eq_ok_iff.mp printed
      exact (isPrintable_of_typeKindToStr inner :)
  | .map name key value, text, printed => by
      obtain ⟨keyType, keyPrinted, later⟩ := OrderedMap.bind_eq_ok_iff.mp printed
      obtain ⟨valueType, valuePrinted, _⟩ := OrderedMap.bind_eq_ok_iff.mp later
      rw [isPrintable, isPrintable_of_typeKindToStr keyPrinted,
        isPrintable_of_typeKindToStr valuePrinted]
      rfl
  | .other kind name, text, printed => by
      cases kind <;> cases printed

theorem typeKindToStr_ok_iff {type : DynamicType} {text : String} :
    typeKindToStr type = .ok text ↔ isPrintable type = true ∧ text = render (pieces type) := by
  constructor
  · intro printed
    have printable := isPrintable_of_typeKindToStr printed
    rw [typeKindToStr_eq printable, Except.ok.injEq] at printed
    exact ⟨printable, printed.symm⟩
  · rintro ⟨printable, rfl⟩
    exact typeKindToStr_eq printable

end Idl

end DdsPipe.Types
