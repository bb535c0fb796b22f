import Mathlib.Data.List.Induction
import ReplayGen.Function

set_option autoImplicit false

namespace ReplayGen

namespace BuildStep

def returnType? : BuildStep → Option String
  | .returns type => some type
  | .argument .. | .withoutSideEffects => none

def argument? : BuildStep → Option (Nat → Argument)
  | .argument name type array => some fun index => Argument.declare index name type array
  | .returns _ | .withoutSideEffects => none

end BuildStep

namespace Function

/-- A return type as it is kept: spelled with single blanks, and not at all if it is `void`. -/
def keptReturnType (type : String) : Option String :=
  if CType.normalize type = "void" then none else some (CType.normalize type)

def argumentsOf (steps : List BuildStep) : List Argument :=
  (steps.filterMap BuildStep.argument?).mapIdx fun index declared => declared index

def returnTypeOf (steps : List BuildStep) : Option String :=
  (steps.filterMap BuildStep.returnType?).getLast?.bind keptReturnType

theorem argumentsOf_append_single (steps : List BuildStep) (step : BuildStep) :
    argumentsOf (steps ++ [step]) =
      argumentsOf steps ++ (step.argument?.map fun declared =>
        declared (argumentsOf steps).length).toList := by
  rw [argumentsOf, List.filterMap_append, List.mapIdx_append]
  cases step <;> simp [argumentsOf, BuildStep.argument?]

theorem returnTypeOf_append_single (steps : List BuildStep) (step : BuildStep) :
    returnTypeOf (steps ++ [step]) =
      match step.returnType? with
      | some type => keptReturnType type
      | none => returnTypeOf steps := by
  rw [returnTypeOf, List.filterMap_append]
  cases step <;> simp [returnTypeOf, BuildStep.returnType?]

theorem build_eq (name : String) (steps : List BuildStep) :
    build name steps =
      { name, roles := Roles.classify name, returnType := returnTypeOf steps,
        arguments := argumentsOf steps, sideEffects := decide (.withoutSideEffects ∉ steps) } := by
  induction steps using List.reverseRecOn with
  | nil => rfl
  | append_singleton steps step ih =>
      rw [build_append, List.foldl_cons, List.foldl_nil, ih, argumentsOf_append_single,
        returnTypeOf_append_single]
      cases step with
      | returns type =>
          simp [Function.step, returns, BuildStep.returnType?, BuildStep.argument?, keptReturnType]
      | argument name type array =>
          simp [Function.step, argument, BuildStep.returnType?, BuildStep.argument?]
      | withoutSideEffects =>
          simp [Function.step, withoutSideEffects, BuildStep.returnType?, BuildStep.argument?]

end Function

end ReplayGen
