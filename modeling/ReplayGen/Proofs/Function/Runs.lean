import ReplayGen.Proofs.Function.Steps
import ReplayGen.Proofs.Kind.Elements
import ReplayGen.Proofs.Text.Respelling
import ReplayGen.Replay.Hooks

set_option autoImplicit false

namespace ReplayGen

namespace BuildStep

def declared? : BuildStep → Option (String × String × Bool)
  | .argument name type array => some (name, type, array)
  | .returns _ | .withoutSideEffects => none

theorem argument?_eq_map_declared? (step : BuildStep) :
    step.argument? = step.declared?.map fun (name, type, array) index =>
      Argument.declare index name type array := by
  cases step <;> rfl

def declarations (steps : List BuildStep) : List (String × String × Bool) :=
  steps.filterMap declared?

def lastReturned? (steps : List BuildStep) : Option String :=
  (steps.filterMap returnType?).getLast?

/-- The runs declare the same arguments in the same order, return the same type last, and
both or neither take the side effects away. -/
structure SameTrace (steps others : List BuildStep) : Prop where
  declarations : declarations others = declarations steps
  returned : lastReturned? others = lastReturned? steps
  effects : .withoutSideEffects ∈ others ↔ .withoutSideEffects ∈ steps

end BuildStep

namespace Function

open BuildStep

theorem argumentsOf_eq (steps : List BuildStep) :
    argumentsOf steps = (declarations steps).mapIdx fun index (name, type, array) =>
      Argument.declare index name type array := by
  have picked : steps.filterMap argument? = (declarations steps).map fun (name, type, array) index =>
      Argument.declare index name type array := by
    rw [declarations, List.map_filterMap]
    exact congrArg steps.filterMap (funext argument?_eq_map_declared?)
  rw [argumentsOf, picked]
  refine List.ext_getElem? fun index => ?_
  simp only [List.getElem?_mapIdx, List.getElem?_map, Option.map_map]
  rfl

theorem keptReturnType_eq (type : String) :
    keptReturnType type =
      if CType.SameWords type "void" then none else some (CType.normalize type) := by
  have void : CType.normalize "void" = "void" := by decide
  simp only [keptReturnType, ← CType.normalize_eq_iff, void]

theorem returnTypeOf_eq (steps : List BuildStep) :
    returnTypeOf steps = (lastReturned? steps).bind fun type =>
      if CType.SameWords type "void" then none else some (CType.normalize type) :=
  congrArg (Option.bind (lastReturned? steps)) (funext keptReturnType_eq)

theorem build_of_sameTrace {steps others : List BuildStep} (same : SameTrace steps others)
    (name : String) : build name others = build name steps := by
  simp only [build_eq, argumentsOf_eq, returnTypeOf_eq, same.declarations, same.returned,
    same.effects]

theorem build_told_by_run (name : String) (steps : List BuildStep) :
    let function := build name steps
    function.name = name ∧
    (function.roles = Roles.classify name ∧
      ∀ role, function.roles.has role = true ↔ name ∈ role.functions) ∧
    (∀ index : Nat, function.arguments[index]? =
      (declarations steps)[index]?.map fun (name, type, array) =>
        { name, index, type := CType.normalize type, kind := Kind.ofType type array }) ∧
    (function.returnType = (lastReturned? steps).bind fun type =>
      if CType.SameWords type "void" then none else some (CType.normalize type)) ∧
    (function.sideEffects = true ↔ .withoutSideEffects ∉ steps) ∧
    ∀ others, SameTrace steps others → build name others = function ∧
      ∀ (hooks : Hooks) (draft : Draft),
        hooks.function (build name others) draft = hooks.function function draft := by
  intro function
  have built : function =
      { name, roles := Roles.classify name, returnType := returnTypeOf steps,
        arguments := argumentsOf steps, sideEffects := decide (.withoutSideEffects ∉ steps) } :=
    build_eq name steps
  have roles (role : Role) : function.roles.has role = true ↔ name ∈ role.functions := by
    rw [built, Roles.has_classify, decide_eq_true_eq]
  refine ⟨by rw [built], ⟨by rw [built], roles⟩, fun index => ?_, ?_, ?_, fun others same => ?_⟩
  · rw [built, argumentsOf_eq, List.getElem?_mapIdx]
    -- The kind is read off the spelled type, which gives the same as the type itself.
    simp only [Argument.declare, Kind.ofType_normalize]
  · rw [built, returnTypeOf_eq]
  · rw [built, decide_eq_true_eq]
  · have equal : build name others = function := build_of_sameTrace same name
    exact ⟨equal, fun hooks draft => by rw [equal]⟩

-- The return type is set and then erased, and the side effects are taken away twice.
def drawArraysSteps : List BuildStep :=
  [.returns "GLint", .argument "mode" "GLenum" false, .withoutSideEffects,
    .argument "first" "const  GLint*" true, .returns " void\n", .withoutSideEffects]

def drawArraysInOrder : List BuildStep :=
  [.argument "mode" "GLenum" false, .argument "first" "const  GLint*" true, .returns " void\n",
    .withoutSideEffects]

theorem build_told_by_run_drawArrays :
    SameTrace drawArraysSteps drawArraysInOrder ∧
      let function := build "glMultiDrawArrays" drawArraysSteps
      function.roles.has .drawArrays = true ∧
        function.arguments[1]? = some
          { name := "first", index := 1, type := "const GLint *", kind := .array .signed } ∧
        function.returnType = none ∧ function.sideEffects = false ∧
        build "glMultiDrawArrays" drawArraysInOrder = function := by
  have same : SameTrace drawArraysSteps drawArraysInOrder :=
    ⟨by decide, by decide, by decide⟩
  obtain ⟨-, ⟨-, roles⟩, arguments, returned, effects, alike⟩ :=
    build_told_by_run "glMultiDrawArrays" drawArraysSteps
  refine ⟨same, (roles .drawArrays).mpr (by decide), (arguments 1).trans (by decide +kernel),
    returned.trans (by decide +kernel), ?_, (alike _ same).1⟩
  rw [← Bool.not_eq_true, effects]
  decide

end Function

end ReplayGen
