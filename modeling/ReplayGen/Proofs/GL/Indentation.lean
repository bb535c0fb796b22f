import ReplayGen.Proofs.Emission.Indentation
import ReplayGen.Proofs.GL.Composition

set_option autoImplicit false

namespace ReplayGen

theorem generation_indents {plan : Plan} (provided : plan ∈ Plan.provided) :
    (∀ function : Function, function.UnbrokenNames → ∀ draft : Draft, ∃ after text,
      plan.hooks.function function = Emit.play (plan.unit function) ∧
      plan.hooks.function function draft = .ok () after ∧ after.text = draft.text ++ text ∧
      text = Text.indent draft.depth (plan.hooks.unitText 0 function) ∧
      (plan.unit function).OnLines text) ∧
    (∀ functions : List Function, (∀ function ∈ functions, function.UnbrokenNames) →
      ∀ draft : Draft, ∃ after text,
      plan.hooks.functions functions = Emit.play (plan.file functions) ∧
      plan.hooks.functions functions draft = .ok () after ∧ after.text = draft.text ++ text ∧
      text = Text.indent draft.depth (plan.hooks.fileText 0 functions) ∧
      (plan.file functions).OnLines text) := by
  have balanced := Plan.balanced_of_provided provided
  have written {script : Script} (level : Script.Balanced script)
      (unbroken : Script.Unbroken script) (draft : Draft) :
      ∃ after text, Emit.play script draft = .ok () after ∧ after.text = draft.text ++ text ∧
        text = Text.indent draft.depth (Script.written 0 script) ∧ script.OnLines text := by
    have reached := level draft.depth
    have moved := Script.written_add unbroken (level 0) draft.depth
    rw [Nat.add_zero] at moved
    exact ⟨_, _, Emit.play_eq reached, rfl, moved, Script.onLines_written unbroken reached⟩
  constructor
  · intro function names draft
    have play := Plan.hooks_function_eq (balanced function)
    have unbroken := (Plan.unbroken_of_provided provided names.unbroken).unit names.unbroken
    obtain ⟨after, text, ran, added, moved, lines⟩ := written (balanced function).unit unbroken draft
    rw [Plan.unitText_eq (balanced function), play]
    exact ⟨after, text, rfl, ran, added, moved, lines⟩
  · intro functions names draft
    have each : ∀ function ∈ functions, plan.Balanced function := fun function _ =>
      balanced function
    have play := Plan.hooks_functions_eq each
    have unbroken : Script.Unbroken (plan.file functions) :=
      Plan.unbroken_file
        (fun function listed => Plan.unbroken_of_provided provided (names function listed).unbroken)
        fun function listed => (names function listed).unbroken
    obtain ⟨after, text, ran, added, moved, lines⟩ :=
      written (Plan.balanced_file each) unbroken draft
    rw [Plan.fileText_eq each, play]
    exact ⟨after, text, rfl, ran, added, moved, lines⟩

def createBuffers : Function :=
  .build "glCreateBuffers" [.returns "unsigned\n  int", .argument "n" "GLsizei" false,
    .argument "buffers" "const\nGLuint\n*" true]

theorem generation_indents_createBuffers :
    GL.plan ∈ Plan.provided ∧ createBuffers.UnbrokenNames ∧
      ∃ after, GL.plan.hooks.function createBuffers { depth := 2 } = .ok () after ∧
        after.text = Text.indent 2 (GL.plan.hooks.unitText 0 createBuffers) ∧
        (GL.plan.unit createBuffers).OnLines after.text := by
  have provided : GL.plan ∈ Plan.provided := by simp [Plan.provided]
  have names : createBuffers.UnbrokenNames :=
    Function.build_unbrokenNames (by decide) (by decide)
  obtain ⟨units, -⟩ := generation_indents provided
  obtain ⟨after, text, -, ran, added, moved, lines⟩ := units createBuffers names { depth := 2 }
  have whole : after.text = text := by simpa using added
  rw [← whole] at moved lines
  exact ⟨provided, names, after, ran, moved, lines⟩

end ReplayGen
