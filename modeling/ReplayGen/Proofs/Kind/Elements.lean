import ReplayGen.Function
import ReplayGen.Proofs.Kind.Classification
import ReplayGen.Proofs.Text.Respelling

set_option autoImplicit false

namespace ReplayGen

namespace CType

open Text

variable {parts : List (List Char)}

theorem pointer_of_typeWords {cs : List Char} (words : typeWords cs = parts ++ [['*']]) :
    beforeStar? (spell cs) = some ([' '].intercalate parts ++ [' ']) := by
  obtain ⟨last, -, -⟩ | ⟨found, -, spelled, pointer⟩ := spell_cases cs
  · simp [words] at last
  · rw [words] at spelled
    rw [pointer, List.append_cancel_right spelled]

/-- The blank in front of a final star makes a difference only after a lone `const`. -/
theorem withoutConst_intercalate_blank (each : ∀ part ∈ parts, IsWord part) :
    withoutConst ([' '].intercalate parts ++ [' ']) =
      if parts = [constWord] then [] else [' '].intercalate (pointeeWords parts) := by
  have const : IsWord constWord := by decide
  split
  next alone =>
    rw [alone]
    decide
  next other =>
    have unlike : [' '].intercalate parts ≠ "const".toList :=
      mt (const.intercalate_eq_iff each).mp other
    rw [withoutConst_append_blank unlike, withoutConst_intercalate each]

theorem element_of_pointer {type : String} {target : List Char}
    (pointer : beforeStar? type.toList = some target) :
    element type = String.ofList (withoutConst target) := by
  simp only [element, pointer]

end CType

theorem Scalar.const_not_mem_types (kind : Scalar) : "const" ∉ kind.types := by
  cases kind <;> decide

theorem Scalar.bare_types (kind : Scalar) : ∀ name ∈ kind.types,
    ¬ "const".toList <:+: name.toList ∧ ∀ c ∈ name.toList, c ≠ '*' ∧ Text.isBlank c = false := by
  have told : ∀ name ∈ kind.types, ¬ "const".toList <:+: name.toList ∧
      name.toList.all (fun c => c != '*' && !Text.isBlank c) = true := by
    cases kind <;> decide +kernel
  simpa using told

theorem Kind.ofType_array {own : String} {element : Scalar} (listed : own ∈ element.types) :
    ofType (own ++ " *") true = .array element := by
  have words : ∀ name ∈ element.types, CType.wordTexts (name ++ " *") = [name, "*"] := by
    cases element <;> decide +kernel
  exact ofType_eq_iff.mpr ⟨rfl, own, listed, .inl (words own listed)⟩

namespace Argument

open CType Text

variable {index : Nat} {name type : String} {array : Bool}

theorem type_declare : (declare index name type array).type.toList = spell type.toList := by
  simp [declare, CType.normalize]

theorem kind_declare : (declare index name type array).kind = Kind.ofType type array := by
  simp only [declare, Kind.ofType_normalize]

section Pointer

variable {parts : List (List Char)} (words : typeWords type.toList = parts ++ [['*']])
include words

theorem type_of_words :
    (declare index name type array).type = String.ofList ([' '].intercalate parts) ++ " *" := by
  have spelled := eq_append_of_beforeStar? (pointer_of_typeWords words)
  rw [← String.toList_inj, type_declare, spelled]
  simp

theorem elementType_of_words (other : parts ≠ [constWord]) :
    (declare index name type array).elementType =
      String.ofList ([' '].intercalate (pointeeWords parts)) := by
  have each : ∀ part ∈ parts, IsWord part := fun part member =>
    isWord_typeWords type.toList part (by simp [words, member])
  have pointer := pointer_of_typeWords words
  rw [← @type_declare index name type array] at pointer
  rw [elementType, element_of_pointer pointer, withoutConst_intercalate_blank each, if_neg other]

end Pointer

theorem ofType_of_declared_pointer {target : List Char}
    (pointer : beforeStar? (declare index name type array).type.toList = some target) :
    Kind.ofType type true = (Scalar.ofType? (Kind.pointeeName target)).elim .unknown .array := by
  rw [type_declare] at pointer
  rw [Kind.ofType_of_pointer pointer, Kind.ofPointer_array]

theorem pointeeName_ne_elementType_iff {target : List Char}
    (pointer : beforeStar? (declare index name type array).type.toList = some target) :
    Kind.pointeeName target ≠ (declare index name type array).elementType ↔
      SameWords type "const *" := by
  have lone : typeWords "const *".toList = [constWord] ++ [['*']] := by decide +kernel
  rw [elementType, element_of_pointer pointer, SameWords, lone]
  rw [type_declare] at pointer
  obtain ⟨-, unstarred, -⟩ | ⟨parts, each, words, spelled⟩ := spell_cases type.toList
  · simp [unstarred] at pointer
  · obtain rfl := Option.some.inj (spelled.symm.trans pointer)
    rw [words, Kind.pointeeName_intercalate each, withoutConst_intercalate_blank each,
      List.append_left_inj]
    by_cases alone : parts = [constWord]
    · simp [alone, pointeeWords, constWord]
    · simp [alone]

theorem type_of_array {element : Scalar}
    (kind : (declare index name type array).kind = .array element) :
    let own := (declare index name type array).elementType
    own ∈ element.types ∧ ((declare index name type array).type = own ++ " *" ∨
      (declare index name type array).type = "const " ++ own ++ " *") := by
  rw [kind_declare] at kind
  obtain ⟨-, own, listed, plain | const⟩ := Kind.ofType_eq_iff.mp kind
  · have words : typeWords type.toList = [own.toList] ++ [['*']] := wordTexts_eq_iff.mp plain
    have scalar : [own.toList] ≠ [constWord] := by
      intro same
      obtain rfl : own = "const" := String.toList_inj.mp (List.cons.inj same).1
      exact element.const_not_mem_types listed
    have read := @elementType_of_words index name type array _ words scalar
    simp only [pointeeWords, List.intercalate_singleton, String.ofList_toList] at read
    rw [read, type_of_words words]
    simp [listed]
  · have words : typeWords type.toList = [constWord, own.toList] ++ [['*']] :=
      wordTexts_eq_iff.mp const
    have read := @elementType_of_words index name type array _ words (by simp)
    simp only [pointeeWords, if_true, List.intercalate_singleton, String.ofList_toList] at read
    rw [read, type_of_words words]
    refine ⟨listed, .inr ?_⟩
    simp [← String.toList_inj, constWord, List.intercalate_cons_cons]

theorem pointeeName_of_array {element : Scalar} {target : List Char}
    (kind : (declare index name type array).kind = .array element)
    (pointer : beforeStar? (declare index name type array).type.toList = some target) :
    Kind.pointeeName target = (declare index name type array).elementType := by
  by_contra differ
  have lone := normalize_eq_iff.mpr ((pointeeName_ne_elementType_iff pointer).mp differ)
  have noArray : ∀ array, Kind.ofType (CType.normalize "const *") array = .unknown ∨
      Kind.ofType (CType.normalize "const *") array = .address := by decide +kernel
  rw [kind_declare, ← Kind.ofType_normalize, lone] at kind
  rcases noArray array with unknown | address
  · simp [unknown] at kind
  · simp [address] at kind

end Argument

end ReplayGen
