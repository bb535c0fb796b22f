import ReplayGen.Proofs.Emission.Lines
import ReplayGen.Replay.Hooks

set_option autoImplicit false

namespace ReplayGen

namespace Hooks

variable (hooks : Hooks) (function : Function)

def block : Emit Unit := do
  Emit.play function.heading
  hooks.body function
  Emit.step .ends

/-- Whether a replay function is written is settled by its block and the depth that leaves. -/
theorem function_eq (start : Draft) :
    hooks.function function start =
      match hooks.block function start with
      | .ok () after =>
          if after.depth = start.depth then .ok () (after.extended "\n" after.depth [])
          else .error (.unbalanced function.name) after
      | .error fault stopped => .error fault stopped := by
  -- Nothing is asked of the draft between the two looks at its depth.
  have parted : hooks.function function = (do
      let before ← get
      hooks.block function
      let after ← get
      if after.depth = before.depth then Emit.step .blank
      else throw (.unbalanced function.name)) := by
    simp [Hooks.function, block]
  rw [parted, Emit.bind_eq (Emit.get_eq start)]
  cases ran : hooks.block function start with
  | error fault stopped => exact Emit.bind_error ran
  | ok answer after =>
      rw [Emit.bind_eq ran, Emit.bind_eq (Emit.get_eq after)]
      show _ = if after.depth = start.depth then _ else _
      by_cases same : after.depth = start.depth
      · rw [if_pos same, if_pos same]
        exact Emit.step_eq rfl
      · rw [if_neg same, if_neg same]
        rfl

theorem body_of_effects (effects : function.sideEffects = true) :
    hooks.body function = (do
      hooks.prologue function
      let decoded ← hooks.arguments function function.arguments
      (if decoded then pure () else Emit.play function.giveUpBlock)
      hooks.call function) := by
  have decided (decoded : Bool) :
      (if decoded then hooks.call function
        else do Emit.play function.giveUpBlock; hooks.call function) =
      ((if decoded then pure () else Emit.play function.giveUpBlock) >>= fun _ =>
        hooks.call function) := by
    cases decoded <;> simp
  simp only [body, effects, if_true, decided]

theorem body_of_idle (idle : function.sideEffects = false) :
    hooks.body function = (do hooks.prologue function; Emit.step (.line "(void)call;")) := by
  simp [body, idle]

end Hooks

namespace Plan

variable (plan : Plan) (function : Function)

def decoding (argument : Argument) : Decoding :=
  plan.extract function argument argument.name (recordedValue argument.index)

def decodes (argument : Argument) : Bool :=
  (plan.decoding function argument).outcome = .decoded

def passage (argument : Argument) : Script :=
  (plan.decoding function argument).script ++
    if plan.decodes function argument then [] else argument.placeholder function

def argumentScript (argument : Argument) : Script :=
  argument.declaration :: plan.passage function argument

def decodings : Script :=
  function.arguments.flatMap (plan.argumentScript function) ++
    if function.arguments.all (plan.decodes function) then [] else function.giveUpBlock

def afterPrologue : Script :=
  if function.sideEffects then plan.decodings function ++ plan.call function
  else [.line "(void)call;"]

def body : Script :=
  plan.prologue function ++ plan.afterPrologue function

def unit : Script :=
  function.heading ++ plan.body function ++ [.ends] ++ [.blank]

theorem hooks_argument (argument : Argument) :
    plan.hooks.argument function argument = (do
      Emit.play (plan.argumentScript function argument)
      return plan.decodes function argument) := by
  unfold argumentScript passage
  rw [Emit.play_cons, Emit.play_append]
  cases outcome : (plan.decoding function argument).outcome <;>
    simp only [decoding] at outcome <;>
    simp [Hooks.argument, hooks, Decoding.emit, decodes, decoding, outcome]

theorem hooks_arguments (arguments : List Argument) :
    plan.hooks.arguments function arguments = (do
      Emit.play (arguments.flatMap (plan.argumentScript function))
      return arguments.all (plan.decodes function)) := by
  induction arguments with
  | nil => simp [Hooks.arguments]
  | cons first rest ih => simp [Hooks.arguments, hooks_argument, ih]

theorem hooks_body : plan.hooks.body function = Emit.play (plan.body function) := by
  cases effects : function.sideEffects with
  | false =>
      simp [Hooks.body_of_idle _ _ effects, hooks, body, afterPrologue, effects, Emit.play_cons]
  | true =>
      have arguments := plan.hooks_arguments function function.arguments
      by_cases decoded : function.arguments.all (plan.decodes function) = true <;>
        simp [Hooks.body_of_effects _ _ effects, arguments, body, afterPrologue, decodings, effects, decoded] <;>
        rfl

theorem hooks_function {plan : Plan} {function : Function}
    (balanced : Script.Balanced (plan.body function)) (draft : Draft) :
    plan.hooks.function function draft =
      .ok () (draft.extended (Script.written draft.depth (plan.unit function)) draft.depth
        (Script.events (plan.unit function))) := by
  have steps : plan.hooks.block function =
      Emit.play (function.heading ++ plan.body function ++ [.ends]) := by
    simp [Hooks.block, hooks_body, Emit.play_cons]
  have closed : Script.depthAfter? draft.depth
      (function.heading ++ plan.body function ++ [.ends]) = some draft.depth := by
    simp [Script.depthAfter?_append, Script.depthAfter?_cons, Function.heading, Step.begins,
      Step.ends, Step.depthAfter?, balanced (draft.depth + 1)]
  have played := Emit.play_eq closed
  rw [← steps] at played
  simp only [Hooks.function_eq, played, Draft.extended_depth, if_true]
  have blank : Script.written draft.depth [.blank] = "\n" := rfl
  rw [Draft.extended_extended, unit, Script.written_append closed, blank,
    Script.events_append _ [.blank]]
  rfl

theorem written_unit {plan : Plan} {function : Function}
    (balanced : Script.Balanced (plan.body function)) (depth : Nat) :
    Script.written depth (plan.unit function) =
      Script.written depth function.heading ++ Script.written (depth + 1) (plan.body function) ++
        (indentedLine depth "\x7d" ++ indentedLine depth "") := by
  have opened : Script.depthAfter? depth function.heading = some (depth + 1) := rfl
  have closed : Script.depthAfter? depth (function.heading ++ plan.body function) =
      some (depth + 1) := by
    rw [Script.depthAfter?_append, opened, Option.bind_some, balanced]
  rw [unit, List.append_assoc _ [Step.ends], Script.written_append closed,
    Script.written_append opened]
  simp [Script.written, Step.ends, Step.written, Step.depthAfter?]

structure Balanced : Prop where
  prologue : Script.Balanced (plan.prologue function)
  decoding : ∀ argument, Script.Balanced (plan.decoding function argument).script
  call : Script.Balanced (plan.call function)

variable {plan : Plan} {function : Function}

theorem Balanced.passage (balanced : plan.Balanced function) (argument : Argument) :
    Script.Balanced (plan.passage function argument) :=
  (balanced.decoding argument).append (.ite Script.balanced_nil fun _ => rfl)

theorem Balanced.argumentScript (balanced : plan.Balanced function) (argument : Argument) :
    Script.Balanced (plan.argumentScript function argument) :=
  (balanced.passage argument).cons fun _ => rfl

theorem Balanced.sections (balanced : plan.Balanced function) :
    Script.Balanced (function.arguments.flatMap (plan.argumentScript function)) :=
  Script.balanced_flatMap fun argument _ => balanced.argumentScript argument

theorem Balanced.decodings (balanced : plan.Balanced function) :
    Script.Balanced (plan.decodings function) :=
  balanced.sections.append (.ite Script.balanced_nil fun _ => rfl)

theorem Balanced.afterPrologue (balanced : plan.Balanced function) :
    Script.Balanced (plan.afterPrologue function) :=
  .ite (balanced.decodings.append balanced.call) fun _ => rfl

theorem Balanced.body (balanced : plan.Balanced function) :
    Script.Balanced (plan.body function) :=
  balanced.prologue.append balanced.afterPrologue

structure EachStep (plan : Plan) (holds : Step → Prop) (function : Function) : Prop where
  heading : ∀ step ∈ function.heading, holds step
  prologue : ∀ step ∈ plan.prologue function, holds step
  declaration : ∀ argument ∈ function.arguments, holds argument.declaration
  decoding : ∀ argument ∈ function.arguments,
    ∀ step ∈ (plan.decoding function argument).script, holds step
  placeholder : ∀ argument ∈ function.arguments, ∀ step ∈ argument.placeholder function, holds step
  giveUpBlock : ∀ step ∈ function.giveUpBlock, holds step
  call : ∀ step ∈ plan.call function, holds step
  unread : holds (.line "(void)call;")
  ends : holds .ends
  blank : holds .blank

variable {holds : Step → Prop}

theorem EachStep.argumentScript (each : plan.EachStep holds function) {argument : Argument}
    (listed : argument ∈ function.arguments) :
    ∀ step ∈ plan.argumentScript function argument, holds step := by
  unfold Plan.argumentScript Plan.passage
  rw [List.forall_mem_cons, List.forall_mem_append]
  refine ⟨each.declaration argument listed, each.decoding argument listed, ?_⟩
  split
  · simp
  · exact each.placeholder argument listed

theorem EachStep.decodings (each : plan.EachStep holds function) :
    ∀ step ∈ plan.decodings function, holds step := by
  unfold Plan.decodings
  rw [List.forall_mem_append]
  constructor
  · intro step member
    obtain ⟨argument, listed, inside⟩ := List.mem_flatMap.mp member
    exact each.argumentScript listed step inside
  · split
    · simp
    · exact each.giveUpBlock

theorem EachStep.unit (each : plan.EachStep holds function) :
    ∀ step ∈ plan.unit function, holds step := by
  have rest : ∀ step ∈ plan.afterPrologue function, holds step := by
    unfold Plan.afterPrologue
    split
    · exact List.forall_mem_append.mpr ⟨each.decodings, each.call⟩
    · simpa using each.unread
  simp only [Plan.unit, Plan.body, List.forall_mem_append, List.forall_mem_singleton]
  exact ⟨⟨⟨each.heading, each.prologue, rest⟩, each.ends⟩, each.blank⟩

end Plan

def Hooks.unitLines? (hooks : Hooks) (function : Function) : Option (List String) :=
  match hooks.function function {} with
  | .ok _ draft => some (Text.lines draft.text)
  | .error .. => none

theorem Plan.unitLines?_eq {plan : Plan} {function : Function} (balanced : plan.Balanced function)
    (unbroken : Script.Unbroken (plan.unit function)) :
    plan.hooks.unitLines? function =
      some ((Script.layout 0 (plan.unit function)).map Line.render) := by
  rw [Hooks.unitLines?, hooks_function balanced.body]
  simp [Draft.extended, Script.lines_written unbroken]

end ReplayGen
