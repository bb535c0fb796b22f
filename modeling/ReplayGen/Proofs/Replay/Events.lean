import ReplayGen.Proofs.Replay.File

set_option autoImplicit false

namespace ReplayGen

namespace Script

theorem events_eq_nil {script : Script} (silent : ∀ step ∈ script, step.events = []) :
    events script = [] :=
  List.flatMap_eq_nil_iff.mpr silent

theorem events_flatMap {α : Type} (items : List α) (script : α → Script) :
    events (items.flatMap script) = items.flatMap fun item => events (script item) := by
  simp [events, List.flatMap_assoc]

end Script

theorem Function.silent_callStatement (function : Function) :
    ∀ step ∈ function.callStatement, step.events = [] := by
  unfold callStatement
  cases function.returnType <;> simp [Step.events]

theorem Function.silent_giveUp (function : Function) :
    ∀ step ∈ function.giveUp, step.events = [] := by
  simp [giveUp, Step.events]

theorem events_dispatchTable (names : List String) : Script.events (dispatchTable names) = [] := by
  have entries : ∀ step ∈ names.map dispatchEntry, step.events = [] :=
    List.forall_mem_map.mpr fun _ _ => rfl
  refine Script.events_eq_nil ?_
  simp only [dispatchTable, List.forall_mem_append, List.forall_mem_cons]
  exact ⟨⟨⟨rfl, by simp⟩, entries⟩, rfl, rfl, by simp⟩

namespace Plan

variable {plan : Plan} {function : Function}

theorem events_plain_passage (function : Function) (argument : Argument) :
    Script.events (Plan.plain.passage function argument) =
      if argument.kind = .unknown then
        [.undecodable function.name argument.name argument.type]
      else [] := by
  cases kind : argument.kind <;>
    simp [Plan.passage, Plan.decodes, Plan.decoding, Plan.plain, Argument.decoding, kind,
      Decoding.supported, Decoding.unsupported, Argument.placeholder, Argument.arrayCopy,
      readStatement, Step.begins, Step.ends, Script.events, Step.events]

theorem events_unit (prologue : Script.events (plan.prologue function) = [])
    (call : Script.events (plan.call function) = []) :
    Script.events (plan.unit function) =
      .retracing function.name function.roles ::
        if function.sideEffects then
          function.arguments.flatMap fun argument => Script.events (plan.passage function argument)
        else [] := by
  have heading : Script.events function.heading =
      [.retracing function.name function.roles] := rfl
  have arguments : Script.events (plan.decodings function) =
      function.arguments.flatMap fun argument =>
        Script.events (plan.passage function argument) := by
    have giveUp : Script.events (if function.arguments.all (plan.decodes function) then []
        else function.giveUpBlock) = [] := by
      split <;> rfl
    -- Nothing is reported of a declaration.
    rw [decodings, Script.events_append, Script.events_flatMap, giveUp, List.append_nil]
    rfl
  have rest : Script.events (plan.afterPrologue function) =
      if function.sideEffects then
        function.arguments.flatMap fun argument => Script.events (plan.passage function argument)
      else [] := by
    unfold afterPrologue
    split
    · rw [Script.events_append, arguments, call, List.append_nil]
    · rfl
  rw [unit, body, Script.events_append, Script.events_append, Script.events_append,
    Script.events_append, heading, prologue, rest]
  simp [Script.events, Step.events, Step.ends]

theorem events_file (functions : List Function) :
    Script.events (plan.file functions) =
      (functions.flatMap fun function => Script.events (plan.unit function)) ++
        [.generated functions.length] := by
  rw [file, Script.events_append, Script.events_append, Script.events_flatMap,
    events_dispatchTable, List.append_nil]
  rfl

end Plan

end ReplayGen
