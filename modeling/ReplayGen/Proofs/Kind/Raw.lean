import ReplayGen.Kind

set_option autoImplicit false

namespace ReplayGen

-- A kind as such, in which the elements of an array may be of any kind.
inductive RawKind where
  | signed
  | unsigned
  | enumeration
  | bitmask
  | float
  | double
  | text
  | address
  | array (element : RawKind)
  | unknown
  deriving DecidableEq, Repr

namespace RawKind

def ofScalar : Scalar → RawKind
  | .signed => signed
  | .unsigned => unsigned
  | .enumeration => enumeration
  | .bitmask => bitmask
  | .float => float
  | .double => double

def ofScalarType? (type : String) : Option RawKind :=
  (Scalar.ofType? type).map ofScalar

def ofPointer (target : List Char) (array : Bool) : RawKind :=
  let pointee := Text.trimEnd target
  let base := String.ofList (CType.withoutConst pointee)
  if array then
    match ofScalarType? base with
    | some element => .array element
    | none => unknown
  else if CType.constPrefix.isPrefixOf pointee && base ∈ Kind.characterTypes then text
  else address

def ofType (type : String) (array : Bool) : RawKind :=
  let spelling := CType.spell type.toList
  match CType.beforeStar? spelling with
  | some target => ofPointer target array
  | none => (ofScalarType? (String.ofList spelling)).getD unknown

def reader? : RawKind → Option String
  | signed | enumeration => some "toSInt"
  | unsigned | bitmask => some "toUInt"
  | float => some "toFloat"
  | double => some "toDouble"
  | text => some "toString"
  | address | .array _ | unknown => none

theorem reader?_ofScalar (scalar : Scalar) : (ofScalar scalar).reader? = some scalar.reader := by
  cases scalar <;> rfl

def Flat (kind : RawKind) : Prop :=
  ∀ element, kind = .array element → ∃ scalar, element = ofScalar scalar

theorem flat_ofPointer (target : List Char) (array : Bool) : (ofPointer target array).Flat := by
  intro element told
  simp only [ofPointer] at told
  split at told
  · split at told
    next found read =>
      obtain rfl : found = element := by simpa using told
      obtain ⟨scalar, -, rfl⟩ := Option.map_eq_some_iff.mp read
      exact ⟨scalar, rfl⟩
    next => cases told
  · split at told <;> cases told

theorem flat_ofType (type : String) (array : Bool) : (ofType type array).Flat := by
  cases pointer : CType.beforeStar? (CType.spell type.toList) with
  | some target =>
      simpa only [ofType, pointer] using flat_ofPointer target array
  | none =>
      intro element told
      cases read : Scalar.ofType? (String.ofList (CType.spell type.toList)) with
      | none => simp [ofType, pointer, ofScalarType?, read] at told
      | some scalar =>
          simp only [ofType, pointer, ofScalarType?, read, Option.map_some, Option.getD_some] at told
          cases scalar <;> cases told

end RawKind

namespace Kind

def raw : Kind → RawKind
  | scalar kind => .ofScalar kind
  | text => .text
  | address => .address
  | .array element => .array (.ofScalar element)
  | unknown => .unknown

theorem raw_eq_unknown_iff {kind : Kind} : kind.raw = .unknown ↔ kind = .unknown := by
  cases kind with
  | scalar scalar => cases scalar <;> simp [raw, RawKind.ofScalar]
  | _ => simp [raw]

theorem raw_ofPointer (target : List Char) (array : Bool) :
    (ofPointer target array).raw = RawKind.ofPointer target array := by
  cases array with
  | true =>
      simp only [ofPointer, RawKind.ofPointer, RawKind.ofScalarType?, if_true]
      cases Scalar.ofType? (String.ofList (CType.withoutConst (Text.trimEnd target))) <;> rfl
  | false =>
      simp only [ofPointer, RawKind.ofPointer, Bool.false_eq_true, if_false]
      split <;> rfl

theorem raw_ofType (type : String) (array : Bool) :
    (ofType type array).raw = RawKind.ofType type array := by
  cases pointer : CType.beforeStar? (CType.spell type.toList) with
  | some target =>
      simpa only [ofType, RawKind.ofType, pointer] using raw_ofPointer target array
  | none =>
      simp only [ofType, RawKind.ofType, pointer, RawKind.ofScalarType?]
      cases Scalar.ofType? (String.ofList (CType.spell type.toList)) <;> rfl

end Kind

end ReplayGen
