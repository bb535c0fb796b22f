import Mathlib.Data.List.Forall2
import ReplayGen.Catalog.Load
import ReplayGen.Proofs.Text.Respelling
import ReplayGen.Replay.GL

set_option autoImplicit false

namespace ReplayGen

open CType

def BuildStep.Respells : BuildStep → BuildStep → Prop
  | .returns first, .returns second => SameWords first second
  | .argument name first array, .argument other second isArray =>
      name = other ∧ SameWords first second ∧ array = isArray
  | .withoutSideEffects, .withoutSideEffects => True
  | _, _ => False

theorem Argument.declare_respelled {first second : String} (same : SameWords first second)
    (index : Nat) (name : String) (array : Bool) :
    declare index name first array = declare index name second array := by
  rw [declare, declare, normalize_eq_iff.mpr same]

namespace Function

theorem returns_respelled {first second : String} (same : SameWords first second)
    (function : Function) : function.returns first = function.returns second := by
  rw [returns, returns, normalize_eq_iff.mpr same]

theorem returnType_returns (function : Function) (type : String) :
    (function.returns type).returnType = none ↔ SameWords type "void" := by
  have void : CType.normalize "void" = "void" := by decide
  rw [← normalize_eq_iff, void, returns]
  by_cases nothing : CType.normalize type = "void" <;> simp [nothing]

theorem step_respelled {first second : BuildStep} (respells : first.Respells second)
    (function : Function) : function.step first = function.step second := by
  cases first with
  | returns type =>
      cases second with
      | returns other => exact returns_respelled respells function
      | _ => exact respells.elim
  | argument name type array =>
      cases second with
      | argument other otherType isArray =>
          obtain ⟨rfl, same, rfl⟩ := respells
          simp only [step, argument, Argument.declare_respelled same]
      | _ => exact respells.elim
  | withoutSideEffects =>
      cases second with
      | withoutSideEffects => rfl
      | _ => exact respells.elim

theorem steps_respelled {first second : List BuildStep}
    (respells : List.Forall₂ BuildStep.Respells first second) (function : Function) :
    first.foldl step function = second.foldl step function := by
  induction respells generalizing function with
  | nil => rfl
  | cons own _ ih => rw [List.foldl_cons, List.foldl_cons, step_respelled own, ih]

end Function

namespace Catalog

structure ArgumentEntry.Respells (first second : ArgumentEntry) : Prop where
  name : first.name = second.name
  type : SameWords first.type second.type
  array : first.array = second.array

structure FunctionEntry.Respells (first second : FunctionEntry) : Prop where
  name : first.name = second.name
  returnType : Option.Rel SameWords first.returnType second.returnType
  arguments : List.Forall₂ ArgumentEntry.Respells first.arguments second.arguments
  sideEffects : first.sideEffects = second.sideEffects

theorem FunctionEntry.Respells.buildSteps {first second : FunctionEntry}
    (respells : first.Respells second) :
    List.Forall₂ BuildStep.Respells first.buildSteps second.buildSteps := by
  have returned {type other : Option String} (types : Option.Rel SameWords type other) :
      List.Forall₂ BuildStep.Respells (type.map BuildStep.returns).toList
        (other.map BuildStep.returns).toList := by
    cases types with
    | none => exact .nil
    | some same => exact .cons same .nil
  have arguments : List.Forall₂ BuildStep.Respells
      (first.arguments.map ArgumentEntry.buildStep)
      (second.arguments.map ArgumentEntry.buildStep) := by
    rw [List.forall₂_map_left_iff, List.forall₂_map_right_iff]
    exact respells.arguments.imp fun _ _ own => ⟨own.name, own.type, own.array⟩
  have effects : List.Forall₂ BuildStep.Respells
      (if first.sideEffects then [] else [.withoutSideEffects])
      (if second.sideEffects then [] else [.withoutSideEffects]) := by
    rw [respells.sideEffects]
    split
    · exact .nil
    · exact .cons trivial .nil
  exact List.rel_append (List.rel_append (returned respells.returnType) arguments) effects

theorem FunctionEntry.Respells.function {first second : FunctionEntry}
    (respells : first.Respells second) : first.function = second.function := by
  rw [FunctionEntry.function, FunctionEntry.function, respells.name]
  exact Function.steps_respelled respells.buildSteps _

theorem map_function_respelled {first second : List FunctionEntry}
    (respells : List.Forall₂ FunctionEntry.Respells first second) :
    first.map FunctionEntry.function = second.map FunctionEntry.function := by
  rw [← List.forall₂_eq_eq_eq, List.forall₂_map_left_iff, List.forall₂_map_right_iff]
  exact respells.imp fun _ _ own => own.function

end Catalog

theorem types_known_by_words :
    (∀ type, CType.normalize (CType.normalize type) = CType.normalize type ∧
      Text.solids (CType.normalize type).toList = Text.solids type.toList ∧
      Tidy (CType.normalize type).toList) ∧
    (∀ first second, SameWords first second →
      (∀ index name array,
        Argument.declare index name first array = Argument.declare index name second array) ∧
      ∀ function : Function, function.returns first = function.returns second) ∧
    (∀ (function : Function) (type : String),
      (function.returns type).returnType = none ↔ SameWords type "void") ∧
    (∀ name first second, List.Forall₂ BuildStep.Respells first second →
      Function.build name first = Function.build name second) ∧
    ∀ first second : List Catalog.FunctionEntry,
      List.Forall₂ Catalog.FunctionEntry.Respells first second →
      Catalog.ofEntries first = Catalog.ofEntries second ∧
      GL.generate (first.map Catalog.FunctionEntry.function) =
        GL.generate (second.map Catalog.FunctionEntry.function) := by
  refine ⟨fun type => ⟨normalize_normalize type, ?_, ?_⟩, fun first second same => ⟨?_, ?_⟩,
    Function.returnType_returns, ?_, ?_⟩
  · rw [CType.normalize, String.toList_ofList, solids_spell]
  · rw [CType.normalize, String.toList_ofList]
    exact tidy_spell type.toList
  · exact Argument.declare_respelled same
  · exact Function.returns_respelled same
  · exact fun name first second respells => Function.steps_respelled respells _
  · intro first second respells
    have functions := Catalog.map_function_respelled respells
    exact ⟨by rw [Catalog.ofEntries, functions, Catalog.ofEntries], congrArg GL.generate functions⟩

def shaderSource : Catalog.FunctionEntry :=
  { name := "glShaderSource", returnType := some "void",
    arguments := [⟨"shader", "GLuint", false⟩, ⟨"string", "const GLchar *", true⟩] }

def strewnShaderSource : Catalog.FunctionEntry :=
  { name := "glShaderSource", returnType := some "\nvoid ",
    arguments := [⟨"shader", "\tGLuint", false⟩, ⟨"string", "  const\u2003GLchar*\n", true⟩] }

theorem types_known_by_words_shaderSource :
    SameWords "const GLchar *" "  const\u2003GLchar*\n" ∧ SameWords "\nvoid " "void" ∧
      Catalog.FunctionEntry.Respells shaderSource strewnShaderSource ∧
      Argument.declare 1 "string" "const GLchar *" true =
        Argument.declare 1 "string" "  const\u2003GLchar*\n" true ∧
      ((Function.named "glShaderSource").returns "\nvoid ").returnType = none ∧
      GL.generate [shaderSource.function] = GL.generate [strewnShaderSource.function] := by
  have same : SameWords "const GLchar *" "  const\u2003GLchar*\n" := by decide +kernel
  have void : SameWords "\nvoid " "void" := by decide +kernel
  have respells : Catalog.FunctionEntry.Respells shaderSource strewnShaderSource :=
    ⟨rfl, .some (by decide +kernel),
      .cons ⟨rfl, by decide +kernel, rfl⟩ (.cons ⟨rfl, same, rfl⟩ .nil), rfl⟩
  obtain ⟨-, types, nothing, -, catalogs⟩ := types_known_by_words
  exact ⟨same, void, respells, (types _ _ same).1 1 "string" true, (nothing _ _).mpr void,
    (catalogs _ _ (.cons respells .nil)).2⟩

end ReplayGen
