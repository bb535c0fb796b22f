import ReplayGen.Proofs.Function.Building
import ReplayGen.Proofs.Kind.Elements
import ReplayGen.Proofs.Text.Braces

set_option autoImplicit false

namespace ReplayGen

open Text

namespace CType

def isLettered (type : String) : Bool :=
  (trimStart type.toList).head?.any fun c => isAlphabetic c || c == '_'

theorem solid_normalize {type : String} (lettered : isLettered type = true) :
    Solid (normalize type) := by
  obtain ⟨c, first, letter⟩ := (Option.any_eq_true _ _).mp lettered
  simp only [Bool.or_eq_true, beq_iff_eq] at letter
  have solid : isBlank c = false := by
    have stopped := List.head?_dropWhile_not isBlank type.toList
    rw [show type.toList.dropWhile isBlank = trimStart type.toList from rfl, first] at stopped
    simpa using stopped
  have known : isAlphanumeric c = true ∨ c = '_' :=
    letter.imp_left fun letter => by simp [isAlphanumeric, letter]
  refine solid_of_letter ?_ known
  rw [normalize, String.toList_ofList]
  refine head?_spell first solid ?_
  rintro rfl
  exact absurd known (by decide +kernel)

end CType

theorem Scalar.solid_types (kind : Scalar) : ∀ type ∈ kind.types, Solid type := by
  cases kind <;> decide +kernel

namespace Argument

theorem solid_localType {index : Nat} {name type : String} {array : Bool}
    (lettered : CType.isLettered type = true) :
    Solid (declare index name type array).localType := by
  unfold localType
  split
  next element kind => exact (element.solid_types _ (type_of_array kind).1).append _
  next => exact CType.solid_normalize lettered

end Argument

def BuildStep.Lettered : BuildStep → Prop
  | .returns type | .argument _ type _ => CType.isLettered type = true
  | .withoutSideEffects => True

instance (step : BuildStep) : Decidable step.Lettered :=
  match step with
  | .returns _ | .argument .. => inferInstanceAs (Decidable (_ = _))
  | .withoutSideEffects => inferInstanceAs (Decidable True)

namespace Function

structure Solid (function : Function) : Prop where
  name : Text.Solid function.name
  argumentName : ∀ argument ∈ function.arguments, Text.Solid argument.name
  localType : ∀ argument ∈ function.arguments, Text.Solid argument.localType
  returnType : ∀ type, function.returnType = some type → Text.Solid type

structure Flush (function : Function) : Prop where
  argumentName : ∀ argument ∈ function.arguments, Text.isIdentifier argument.name.toList = true
  argumentType : ∀ argument ∈ function.arguments,
    (∀ c ∈ argument.type.toList, c = ' ') → argument.type = ""

theorem Spelled.flush {function : Function} (spelled : function.Spelled) : function.Flush := by
  obtain ⟨steps, plain, built⟩ := spelled.built
  have gives : ∀ step ∈ steps, step.Gives
      (fun argument => Text.isIdentifier argument.name.toList = true ∧
        ((∀ c ∈ argument.type.toList, c = ' ') → argument.type = "")) fun _ => True := by
    intro step member
    have own := plain step member
    cases step with
    | returns | withoutSideEffects => trivial
    | argument name type array => exact fun _ => ⟨own.1, CType.normalize_eq_empty⟩
  have each := (build_each function.name gives).arguments
  rw [← built] at each
  exact ⟨fun a listed => (each a listed).1, fun a listed => (each a listed).2⟩

structure Lettered (function : Function) : Prop where
  name : Text.isIdentifier function.name.toList = true
  built : ∃ steps : List BuildStep,
    (∀ step ∈ steps, step.Spelled ∧ step.Lettered) ∧ function = build function.name steps

theorem build_lettered {name : String} {steps : List BuildStep}
    (identifier : Text.isIdentifier name.toList = true)
    (lettered : ∀ step ∈ steps, step.Spelled ∧ step.Lettered) : (build name steps).Lettered := by
  refine ⟨?_, steps, lettered, ?_⟩
  · rwa [build_name]
  · rw [build_name]

theorem Lettered.spelled {function : Function} (lettered : function.Lettered) :
    function.Spelled := by
  obtain ⟨steps, each, built⟩ := lettered.built
  exact ⟨lettered.name, steps, fun step member => (each step member).1, built⟩

theorem Lettered.worded {function : Function} (lettered : function.Lettered) : function.Worded :=
  lettered.spelled.worded

theorem Lettered.solid {function : Function} (lettered : function.Lettered) : function.Solid := by
  obtain ⟨steps, plain, built⟩ := lettered.built
  have gives : ∀ step ∈ steps, step.Gives
      (fun argument => Text.Solid argument.name ∧ Text.Solid argument.localType) Text.Solid := by
    intro step member
    obtain ⟨spelled, first⟩ := plain step member
    cases step with
    | returns type => exact CType.solid_normalize first
    | argument name type array =>
        exact fun _ => ⟨Text.solid_of_isIdentifier spelled.1, Argument.solid_localType first⟩
    | withoutSideEffects => trivial
  obtain ⟨arguments, returnType⟩ := build_each function.name gives
  rw [← built] at arguments returnType
  exact ⟨Text.solid_of_isIdentifier lettered.name, fun a listed => (arguments a listed).1,
    fun a listed => (arguments a listed).2, returnType⟩

end Function

end ReplayGen
