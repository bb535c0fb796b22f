import ReplayGen.Proofs.Kind.Elements
import ReplayGen.Proofs.Replay.Lines

set_option autoImplicit false

namespace ReplayGen

def assignment (depth : Nat) (target value : String) : Line :=
  ⟨depth, target ++ " = " ++ value ++ ";"⟩

theorem Decoding.outcome_of_ne_unsupported {decoding : Decoding}
    (supported : decoding.outcome ≠ .unsupported) : decoding.outcome = .decoded := by
  cases outcome : decoding.outcome with
  | decoded => rfl
  | unsupported => exact absurd outcome supported

namespace Argument

def copyLines (depth : Nat) (name own lvalue rvalue : String) (body : List Line) : List Line :=
  [⟨depth, "const Trace::Array *__a_" ++ name ++ " = dynamic_cast<const Trace::Array *>(&"
      ++ rvalue ++ ");"⟩,
    ⟨depth, "if (__a_" ++ name ++ ") \x7b"⟩,
    ⟨depth + 1, lvalue ++ " = new " ++ own ++ "[__a_" ++ name ++ "->values.size()];"⟩,
    ⟨depth + 1, "for (size_t __j_" ++ name ++ " = 0; __j_" ++ name ++ " < __a_" ++ name
      ++ "->values.size(); ++__j_" ++ name ++ ") \x7b"⟩] ++
    body ++
    [⟨depth + 1, "\x7d"⟩, ⟨depth, "\x7d else \x7b"⟩, ⟨depth + 1, lvalue ++ " = NULL;"⟩,
      ⟨depth, "\x7d"⟩]

def elementTarget (name lvalue : String) : String :=
  lvalue ++ "[__j_" ++ name ++ "]"

def elementSource (name : String) : String :=
  "*__a_" ++ name ++ "->values[__j_" ++ name ++ "]"

theorem layout_arrayCopy (argument : Argument) (element : Scalar) (lvalue rvalue : String)
    (depth : Nat) :
    Script.layout depth (argument.arrayCopy element lvalue rvalue) =
      copyLines depth argument.name argument.elementType lvalue rvalue
        (Script.layout (depth + 2) [readStatement element.reader
          (elementTarget argument.name lvalue) (elementSource argument.name)]) := by
  simp [arrayCopy, copyLines, elementTarget, elementSource, arrayLocal, indexLocal, arrayLength,
    readStatement, Script.layout, Step.layout, Step.depthAfter?, Step.begins, Step.ends,
    ← String.toList_inj]

section Kinds

variable {argument : Argument} {lvalue rvalue : String}

theorem decoding_of_scalar {kind : Scalar} (scalar : argument.kind = .scalar kind) :
    argument.decoding lvalue rvalue = .supported [readStatement kind.reader lvalue rvalue] := by
  simp only [decoding, scalar]

theorem decoding_of_text (text : argument.kind = .text) :
    argument.decoding lvalue rvalue = .supported [readStatement "toString" lvalue rvalue] := by
  simp only [decoding, text]

theorem decoding_of_address (address : argument.kind = .address) :
    argument.decoding lvalue rvalue =
      .supported [.line (lvalue ++ " = (" ++ argument.type ++ ")(" ++ rvalue ++ ").toPointer();")] := by
  simp only [decoding, address]

theorem decoding_of_array {element : Scalar} (array : argument.kind = .array element) :
    argument.decoding lvalue rvalue = .supported (argument.arrayCopy element lvalue rvalue) := by
  simp only [decoding, array]

theorem decoding_of_unknown (unknown : argument.kind = .unknown) :
    argument.decoding lvalue rvalue = .unsupported := by
  simp only [decoding, unknown]

end Kinds

theorem decoding_of_elementType {index : Nat} {name type : String} {array : Bool}
    {element : Scalar} (kind : (declare index name type array).kind = .array element)
    (position : Nat) (own lvalue rvalue : String) :
    (declare position own (declare index name type array).elementType false).decoding lvalue rvalue =
      .supported [readStatement element.reader lvalue rvalue] := by
  refine decoding_of_scalar ?_
  rw [kind_declare, Kind.ofType_name (type_of_array kind).1]

theorem localType_of_array {argument : Argument} {element : Scalar}
    (kind : argument.kind = .array element) :
    argument.localType = argument.elementType ++ " *" := by
  simp only [localType, kind]

theorem localType_of_no_array {argument : Argument}
    (other : ∀ element, argument.kind ≠ .array element) : argument.localType = argument.type := by
  unfold localType
  split
  next element kind => exact absurd kind (other element)
  next => rfl

end Argument

/-- The two readings of a pointer's type trim its blanks in a different order. -/
theorem declared_types_agree (index : Nat) (name type : String) (array : Bool) :
    let argument := Argument.declare index name type array
    (∀ element, argument.kind = .array element →
      let own := argument.elementType
      (own ∈ element.types ∧ ¬ "const".toList <:+: own.toList ∧
        ∀ c ∈ own.toList, c ≠ '*' ∧ Text.isBlank c = false) ∧
      Kind.ofType own false = .scalar element ∧
      (argument.type = own ++ " *" ∨ argument.type = "const " ++ own ++ " *") ∧
      argument.localType = own ++ " *" ∧ Kind.ofType argument.localType true = .array element ∧
      argument.declaration = .line (own ++ " * " ++ name ++ ";") ∧
      ∀ lvalue rvalue depth position other,
        Script.layout depth (argument.decoding lvalue rvalue).script =
          Argument.copyLines depth name own lvalue rvalue
            (Script.layout (depth + 2)
              ((Argument.declare position other own false).decoding
                (Argument.elementTarget name lvalue) (Argument.elementSource name)).script)) ∧
    (argument.kind = .address → argument.localType = argument.type ∧
      ∀ lvalue rvalue, (argument.decoding lvalue rvalue).script =
        [.line (lvalue ++ " = (" ++ argument.localType ++ ")(" ++ rvalue ++ ").toPointer();")]) ∧
    ((∀ element, argument.kind ≠ .array element) → argument.localType = argument.type) ∧
    ∀ target, CType.beforeStar? argument.type.toList = some target →
      Kind.ofType type true = (Scalar.ofType? (Kind.pointeeName target)).elim .unknown .array ∧
      (∀ element, argument.kind = .array element →
        Kind.pointeeName target = argument.elementType) ∧
      (Kind.pointeeName target ≠ argument.elementType ↔ CType.SameWords type "const *") := by
  intro argument
  refine ⟨fun element kind => ?_, fun kind => ?_, Argument.localType_of_no_array,
    fun target pointer => ⟨Argument.ofType_of_declared_pointer pointer,
      fun element kind => Argument.pointeeName_of_array kind pointer,
      Argument.pointeeName_ne_elementType_iff pointer⟩⟩
  · obtain ⟨listed, spelled⟩ := Argument.type_of_array kind
    have localType := Argument.localType_of_array kind
    refine ⟨⟨listed, element.bare_types _ listed⟩, Kind.ofType_name listed false, spelled, localType,
      localType ▸ Kind.ofType_array listed, ?_, fun lvalue rvalue depth position other => ?_⟩
    · have spaced : argument.elementType ++ " *" ++ " " = argument.elementType ++ " * " := by
        rw [String.append_assoc]
        rfl
      rw [Argument.declaration, localType, spaced]
      rfl
    · rw [Argument.decoding_of_elementType kind, Argument.decoding_of_array kind]
      exact argument.layout_arrayCopy element lvalue rvalue depth
  · have localType := argument.localType_of_no_array (by simp [kind])
    refine ⟨localType, fun lvalue rvalue => ?_⟩
    rw [localType, Argument.decoding_of_address kind]
    rfl

-- Of the pointers to nothing but `const`, none is an array, but their two readings differ.
theorem declared_types_agree_constArray :
    let argument := Argument.declare 2 "value" "const GLfloat*" true
    argument.kind = .array .float ∧ argument.elementType = "GLfloat" ∧
      Kind.ofType argument.elementType false = .scalar .float ∧
      argument.localType = "GLfloat *" ∧
      (let address := Argument.declare 0 "data" "const  GLvoid *" false
       address.kind = .address ∧ address.localType = "const GLvoid *") ∧
      (let lone := Argument.declare 0 "data" "const*" true
       CType.beforeStar? lone.type.toList = some "const ".toList ∧
         Kind.pointeeName "const ".toList ≠ lone.elementType) := by
  intro argument
  have kind : argument.kind = .array .float := by decide +kernel
  have elementType : argument.elementType = "GLfloat" := by decide +kernel
  obtain ⟨-, scalar, -, localType, -⟩ := (declared_types_agree 2 "value" "const GLfloat*" true).1 _ kind
  have address : (Argument.declare 0 "data" "const  GLvoid *" false).kind = .address := by
    decide +kernel
  obtain ⟨castType, -⟩ := (declared_types_agree 0 "data" "const  GLvoid *" false).2.1 address
  have lone : CType.beforeStar? (Argument.declare 0 "data" "const*" true).type.toList =
      some "const ".toList := by decide +kernel
  have differ := ((declared_types_agree 0 "data" "const*" true).2.2.2 _ lone).2.2
  refine ⟨kind, elementType, scalar, localType.trans (by rw [elementType]; rfl),
    ⟨address, castType.trans (by decide +kernel)⟩, lone, differ.mpr (by decide +kernel)⟩

end ReplayGen
