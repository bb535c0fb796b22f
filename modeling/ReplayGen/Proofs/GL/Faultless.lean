import ReplayGen.Proofs.Emission.Depth
import ReplayGen.Proofs.GL.Composition

set_option autoImplicit false

namespace ReplayGen

theorem Function.balanced_giveUp (function : Function) : Script.Balanced function.giveUp :=
  fun _ => rfl

theorem Plan.balanced_extract_of_provided {plan : Plan} (provided : plan ∈ Plan.provided)
    (function : Function) (argument : Argument) (lvalue rvalue : String) :
    Script.Balanced (plan.extract function argument lvalue rvalue).script := by
  rcases Plan.eq_of_provided provided with rfl | rfl
  · exact argument.balanced_decoding lvalue rvalue
  · exact GL.balanced_extract function argument lvalue rvalue

theorem generation_keepsDepth {plan : Plan} (provided : plan ∈ Plan.provided) :
    (∀ function, (plan.hooks.function function).KeepsDepth (plan.unit function)) ∧
    (∀ functions, (plan.hooks.functions functions).KeepsDepth (plan.file functions)) ∧
    (∀ function, (plan.hooks.prologue function).KeepsDepth (plan.prologue function)) ∧
    (∀ function, (plan.hooks.call function).KeepsDepth (plan.call function)) ∧
    (∀ function argument lvalue rvalue,
      (plan.hooks.extract function argument lvalue rvalue).KeepsDepth
        (plan.extract function argument lvalue rvalue).script) ∧
    (∀ (argument : Argument) lvalue rvalue,
      (argument.decoding lvalue rvalue).emit.KeepsDepth
        (argument.decoding lvalue rvalue).script) ∧
    (∀ function : Function,
      (Emit.play function.callStatement).KeepsDepth function.callStatement) ∧
    (∀ function : Function, (Emit.play function.giveUp).KeepsDepth function.giveUp) := by
  have balanced := Plan.balanced_of_provided provided
  refine ⟨fun function => ?_, fun functions => ?_, fun function => ?_, fun function => ?_,
    fun function argument lvalue rvalue => ?_, fun argument lvalue rvalue => ?_,
    fun function => ?_, fun function => ?_⟩
  · rw [Plan.hooks_function_eq (balanced function)]
    exact Emit.keepsDepth_play (balanced function).unit
  · rw [Plan.hooks_functions_eq fun function _ => balanced function]
    exact Emit.keepsDepth_play (Plan.balanced_file fun function _ => balanced function)
  · exact Emit.keepsDepth_play (balanced function).prologue
  · exact Emit.keepsDepth_play (balanced function).call
  · -- A hook called alone may get any texts to decode from and into.
    exact Emit.keepsDepth_of_balanced
      (Plan.balanced_extract_of_provided provided function argument lvalue rvalue) _
  · exact Emit.keepsDepth_of_balanced (argument.balanced_decoding lvalue rvalue) _
  · exact Emit.keepsDepth_play function.balanced_callStatement
  · exact Emit.keepsDepth_play function.balanced_giveUp

def multiModeDrawArrays : Function :=
  .build "glMultiModeDrawArraysIBM" [.argument "mode" "const GLenum *" true,
    .argument "sync" "GLsync" false]

theorem generation_keepsDepth_multiModeDrawArrays :
    GL.plan ∈ Plan.provided ∧
      ∃ after, GL.plan.hooks.function multiModeDrawArrays { depth := 2 } = .ok () after ∧
        after.depth = 2 := by
  have provided : GL.plan ∈ Plan.provided := by simp [Plan.provided]
  obtain ⟨function, -⟩ := generation_keepsDepth provided
  obtain ⟨_, after, ran, -, depth⟩ := (function multiModeDrawArrays).plays { depth := 2 }
  exact ⟨provided, after, ran, depth⟩

end ReplayGen
