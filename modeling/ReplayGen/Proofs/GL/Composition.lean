import Mathlib.Logic.Equiv.Defs
import ReplayGen.Proofs.Replay.File
import ReplayGen.Proofs.GL.Layout

set_option autoImplicit false

namespace ReplayGen

def Plan.provided : List Plan :=
  [Plan.plain, GL.plan]

theorem Plan.eq_of_provided {plan : Plan} (provided : plan ∈ Plan.provided) :
    plan = Plan.plain ∨ plan = GL.plan := by
  simpa [Plan.provided] using provided

theorem Plan.balanced_of_provided {plan : Plan} (provided : plan ∈ Plan.provided)
    (function : Function) : plan.Balanced function := by
  rcases Plan.eq_of_provided provided with rfl | rfl
  · exact Plan.plain_balanced function
  · exact GL.balanced_plan function

theorem Plan.unbroken_of_provided {plan : Plan} (provided : plan ∈ Plan.provided)
    {function : Function} (unbroken : function.Unbroken) : plan.Unbroken function := by
  rcases Plan.eq_of_provided provided with rfl | rfl
  · exact Plan.plain_unbroken unbroken
  · exact GL.unbroken_plan unbroken

end ReplayGen

namespace ReplayGen.GL

theorem file_eq (functions : List Function) :
    file functions = Emit.play (.raw fileHeader :: plan.file functions) := by
  rw [file, Plan.hooks_functions_eq fun function _ => balanced_plan function, Emit.play_cons]

theorem generate_eq (functions : List Function) :
    generate functions =
      { text := fileHeader ++ Script.written 0 (plan.file functions)
        log := Script.events (plan.file functions) } := by
  have balanced : Script.Balanced (.raw fileHeader :: plan.file functions) :=
    (Plan.balanced_file fun function _ => balanced_plan function).cons fun _ => rfl
  rw [generate, file_eq, Emit.draft, Emit.play_eq (balanced 0)]
  simp [Draft.extended, Script.written, Script.events, Step.written, Step.events, Step.depthAfter?]

theorem generate_text (functions : List Function) :
    (generate functions).text =
      fileHeader ++ String.join (functions.map (plan.hooks.unitText 0)) ++
        tableText 0 (functions.map Function.name) := by
  rw [generate_eq, Plan.written_file fun function _ => balanced_plan function,
    String.append_assoc]

theorem generate_text_ofFn {count : Nat} (functions : Fin count → Function) :
    (generate (List.ofFn functions)).text =
      fileHeader ++ String.join (List.ofFn fun i => plan.hooks.unitText 0 (functions i)) ++
        (tableHead 0 ++ String.join (List.ofFn fun i => entryText 0 (functions i).name) ++
          tableFoot 0) := by
  rw [generate_text, tableText, List.map_map, List.map_ofFn, List.map_ofFn]
  rfl

theorem generate_text_append (functions added : List Function) :
    (generate (functions ++ added)).text =
      fileHeader ++ String.join (functions.map (plan.hooks.unitText 0)) ++
        (String.join (added.map (plan.hooks.unitText 0)) ++
          tableText 0 ((functions ++ added).map Function.name)) := by
  rw [generate_text, List.map_append, String.join_append]
  simp only [String.append_assoc]

theorem file_composition (functions : List Function) :
    (∀ plan ∈ Plan.provided, ∀ draft : Draft,
      (∀ function ∈ functions,
        (plan.hooks.function function).fault? { depth := draft.depth } = none) ∧
      ∃ after, plan.hooks.functions functions draft = .ok () after ∧
        after.depth = draft.depth ∧
        after.text = draft.text ++
          (String.join (functions.map (plan.hooks.unitText draft.depth)) ++
            tableText draft.depth (functions.map Function.name))) ∧
    (generate functions).text =
      fileHeader ++ String.join (functions.map (plan.hooks.unitText 0)) ++
        tableText 0 (functions.map Function.name) ∧
    (∀ order : Equiv.Perm (Fin functions.length),
      (generate (List.ofFn fun i => functions[order i])).text =
        fileHeader ++ String.join (List.ofFn fun i => plan.hooks.unitText 0 functions[order i]) ++
          (tableHead 0 ++ String.join (List.ofFn fun i => entryText 0 functions[order i].name) ++
            tableFoot 0)) ∧
    (∀ added, ∃ rest, (generate (functions ++ added)).text =
      fileHeader ++ String.join (functions.map (plan.hooks.unitText 0)) ++ rest) := by
  refine ⟨fun plan provided draft => ⟨?_, ?_⟩, generate_text functions, ?_, ?_⟩
  · intro function _
    have balanced := (Plan.balanced_of_provided provided function).body
    rw [Emit.fault?, Plan.hooks_function balanced]
  · have balanced : ∀ function ∈ functions, plan.Balanced function :=
      fun function _ => Plan.balanced_of_provided provided function
    rw [Plan.hooks_functions_eq balanced]
    refine ⟨_, Emit.play_eq (Plan.balanced_file balanced draft.depth), rfl, ?_⟩
    rw [Draft.extended, Plan.written_file balanced]
  · exact fun order => generate_text_ofFn fun i => functions[order i]
  · exact fun added => ⟨_, generate_text_append functions added⟩

end ReplayGen.GL
