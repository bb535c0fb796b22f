import ReplayGen.Proofs.Emission.Faults
import ReplayGen.Proofs.Replay.Lines

set_option autoImplicit false

namespace ReplayGen

def Draft.after (draft : Draft) (script : Script) : Draft :=
  (Emit.play script).draft draft

namespace Emit

variable {α β : Type}

/-- From the draft, the emission takes the steps of the script, as far as it gets, and then
answers. -/
def Plays (emission : Emit α) (draft : Draft) (script : Script) (answer : α) : Prop :=
  emission draft = (do play script; return answer : Emit α) draft

theorem plays_pure (draft : Draft) (answer : α) : Plays (pure answer) draft [] answer := by
  simp [Plays]

theorem plays_play (draft : Draft) (script : Script) : Plays (play script) draft script () := by
  simp [Plays]

theorem plays_step (draft : Draft) (step : Step) : Plays (Emit.step step) draft [step] () := by
  simp [Plays, play_cons]

theorem Plays.bind {first : Emit α} {next : α → Emit β} {draft : Draft} {script later : Script}
    {answer : α} {last : β} (here : first.Plays draft script answer)
    (there : (next answer).Plays (draft.after script) later last) :
    (first >>= next).Plays draft (script ++ later) last := by
  have unfolded : (first >>= next) draft = (do play script; next answer : Emit β) draft := by
    have ran : (first >>= next) draft = ((do play script; return answer) >>= next : Emit β) draft := by
      simp only [Bind.bind, EStateM.bind]
      rw [here]
      rfl
    rw [ran, bind_assoc]
    simp
  rw [Plays, unfolded, play_append, bind_assoc]
  cases ran : play script draft with
  | ok answered middle =>
      have reached : draft.after script = middle := by
        simp [Draft.after, Emit.draft, ran]
      rw [reached] at there
      rw [bind_eq ran, bind_eq ran]
      exact there
  | error fault stopped => rw [bind_error ran, bind_error ran]

theorem Plays.andThen {first : Emit α} {rest : Emit β} {draft : Draft} {script later : Script}
    {answer : α} {last : β} (here : first.Plays draft script answer)
    (there : rest.Plays (draft.after script) later last) :
    (first >>= fun _ => rest).Plays draft (script ++ later) last :=
  here.bind there

theorem fault?_error {emission : Emit α} {draft stopped : Draft} {fault : Fault}
    (ran : emission draft = .error fault stopped) : emission.fault? draft = some fault := by
  rw [fault?, ran]

theorem fault?_ok {emission : Emit α} {draft after : Draft} {answer : α}
    (ran : emission draft = .ok answer after) : emission.fault? draft = none := by
  rw [fault?, ran]

theorem Plays.eq {emission : Emit Unit} {draft : Draft} {script : Script}
    (plays : emission.Plays draft script ()) : emission draft = play script draft := by
  simpa [Plays] using plays

theorem Plays.answering {emission : Emit α} {draft : Draft} {script : Script} {answer : α}
    (here : emission.Plays draft script answer) (f : α → β) :
    (do return f (← emission) : Emit β).Plays draft script (f answer) := by
  have answered : Plays (pure (f answer)) (draft.after script) [] (f answer) := plays_pure _ _
  have whole := @Plays.bind _ _ _ (fun answer => pure (f answer)) _ _ _ _ _ here answered
  rwa [List.append_nil] at whole

end Emit

structure ScriptedHooks where
  prologue : Function → Draft → Script
  call : Function → Draft → Script
  extract : Function → Argument → (lvalue rvalue : String) → Draft → Decoding

namespace ScriptedHooks

variable (scripted : ScriptedHooks) (function : Function)

def hooks : Hooks where
  prologue function draft := Emit.play (scripted.prologue function draft) draft
  call function draft := Emit.play (scripted.call function draft) draft
  extract function argument lvalue rvalue draft :=
    (scripted.extract function argument lvalue rvalue draft).emit draft

def decoding (argument : Argument) (draft : Draft) : Decoding :=
  scripted.extract function argument argument.name (recordedValue argument.index)
    (draft.after [argument.declaration])

def decodes (argument : Argument) (draft : Draft) : Bool :=
  (scripted.decoding function argument draft).outcome = .decoded

def argument (argument : Argument) (draft : Draft) : Script :=
  argument.declaration :: ((scripted.decoding function argument draft).script ++
    if scripted.decodes function argument draft then [] else argument.placeholder function)

def arguments : List Argument → Draft → Script × Bool
  | [], _ => ([], true)
  | first :: rest, draft =>
      let script := scripted.argument function first draft
      let (others, decoded) := arguments rest (draft.after script)
      (script ++ others, scripted.decodes function first draft && decoded)

def decodings (draft : Draft) : Script :=
  let (script, decoded) := scripted.arguments function function.arguments draft
  script ++ if decoded then [] else function.giveUpBlock

end ScriptedHooks

structure Course where
  prologue : Script
  decodings : Script
  call : Script

namespace Course

variable (course : Course) (function : Function)

def body : Script :=
  course.prologue ++
    if function.sideEffects then course.decodings ++ course.call else [.line "(void)call;"]

def steps : Script :=
  function.heading ++ course.body function ++ [.ends]

def net : Int :=
  Script.net course.prologue + if function.sideEffects then Script.net course.call else 0

end Course

namespace ScriptedHooks

variable (scripted : ScriptedHooks) (function : Function)

def course (start : Draft) : Course :=
  let opened := start.after function.heading
  let entered := opened.after (scripted.prologue function opened)
  let decoded := entered.after (scripted.decodings function entered)
  { prologue := scripted.prologue function opened
    decodings := scripted.decodings function entered
    call := scripted.call function decoded }

theorem plays_argument (argument : Argument) (draft : Draft) :
    (scripted.hooks.argument function argument).Plays draft
      (scripted.argument function argument draft) (scripted.decodes function argument draft) := by
  have extracted : (scripted.hooks.extract function argument argument.name
      (recordedValue argument.index)).Plays (draft.after [argument.declaration])
      (scripted.decoding function argument draft).script
      (scripted.decoding function argument draft).outcome := rfl
  refine (Emit.plays_step draft argument.declaration).bind (extracted.bind ?_)
  cases outcome : (scripted.decoding function argument draft).outcome with
  | decoded => simpa [decodes, outcome] using Emit.plays_pure _ true
  | unsupported =>
      simpa [decodes, outcome] using (Emit.plays_play _ _).answering fun _ => false

theorem plays_arguments (arguments : List Argument) (draft : Draft) :
    (scripted.hooks.arguments function arguments).Plays draft
      (scripted.arguments function arguments draft).1
      (scripted.arguments function arguments draft).2 := by
  induction arguments generalizing draft with
  | nil => exact Emit.plays_pure draft true
  | cons first rest ih =>
      have others := ih (draft.after (scripted.argument function first draft))
      exact (scripted.plays_argument function first draft).bind
        (others.answering (scripted.decodes function first draft && ·))

theorem plays_decodings (draft : Draft) :
    (do
      let decoded ← scripted.hooks.arguments function function.arguments
      if decoded then pure () else Emit.play function.giveUpBlock : Emit Unit).Plays draft
      (scripted.decodings function draft) () := by
  refine (scripted.plays_arguments function function.arguments draft).bind ?_
  cases (scripted.arguments function function.arguments draft).2 with
  | true => exact Emit.plays_pure _ ()
  | false => exact Emit.plays_play _ function.giveUpBlock

theorem plays_body (start : Draft) :
    (scripted.hooks.body function).Plays (start.after function.heading)
      ((scripted.course function start).body function) () := by
  have prologue : (scripted.hooks.prologue function).Plays (start.after function.heading)
      (scripted.course function start).prologue () := by
    simp [Emit.Plays, hooks, course]
  cases effects : function.sideEffects with
  | false =>
      have idle := prologue.andThen (Emit.plays_step _ (.line "(void)call;"))
      rw [Hooks.body_of_idle _ _ effects]
      simpa [Course.body, effects] using idle
  | true =>
      have called (draft : Draft) : (scripted.hooks.call function).Plays draft
          (scripted.call function draft) () := by
        simp [Emit.Plays, hooks]
      have rest := prologue.andThen ((scripted.plays_decodings function _).andThen (called _))
      rw [bind_assoc] at rest
      rw [Hooks.body_of_effects _ _ effects, Course.body, effects, if_pos rfl]
      exact rest

theorem function_eq (start : Draft) :
    scripted.hooks.function function start =
      match Emit.play ((scripted.course function start).steps function) start with
      | .ok () after =>
          if after.depth = start.depth then .ok () (after.extended "\n" after.depth [])
          else .error (.unbalanced function.name) after
      | .error fault stopped => .error fault stopped := by
  have front : (scripted.hooks.block function).Plays start
      ((scripted.course function start).steps function) () := by
    have ended := (scripted.plays_body function start).andThen (Emit.plays_step _ .ends)
    have whole := (Emit.plays_play start function.heading).andThen ended
    rwa [← List.append_assoc] at whole
  have whole := scripted.hooks.function_eq function start
  rwa [front.eq] at whole

def ExtractsBalanced : Prop :=
  ∀ argument ∈ function.arguments, ∀ draft, Script.Balanced
    (scripted.extract function argument argument.name (recordedValue argument.index) draft).script

variable {scripted : ScriptedHooks} {function : Function}

theorem ExtractsBalanced.argument (balanced : scripted.ExtractsBalanced function)
    {argument : Argument} (listed : argument ∈ function.arguments) (draft : Draft) :
    Script.Balanced (scripted.argument function argument draft) := by
  have decoding := balanced argument listed (draft.after [argument.declaration])
  have rest : Script.Balanced
      (if scripted.decodes function argument draft then [] else argument.placeholder function) :=
    .ite Script.balanced_nil fun _ => rfl
  exact (decoding.append rest).cons fun _ => rfl

theorem ExtractsBalanced.arguments (balanced : scripted.ExtractsBalanced function)
    {arguments : List Argument} (listed : ∀ argument ∈ arguments, argument ∈ function.arguments)
    (draft : Draft) : Script.Balanced (scripted.arguments function arguments draft).1 := by
  induction arguments generalizing draft with
  | nil => exact Script.balanced_nil
  | cons first rest ih =>
      have here := balanced.argument (listed first (by simp)) draft
      have others := ih (fun argument member => listed argument (by simp [member]))
        (draft.after (scripted.argument function first draft))
      exact here.append others

theorem ExtractsBalanced.decodings (balanced : scripted.ExtractsBalanced function) (draft : Draft) :
    Script.Balanced (scripted.decodings function draft) := by
  have arguments := balanced.arguments (fun _ listed => listed) draft
  have giveUp : Script.Balanced function.giveUpBlock := fun _ => rfl
  exact arguments.append (.ite Script.balanced_nil giveUp)

theorem ExtractsBalanced.net_steps (balanced : scripted.ExtractsBalanced function) (start : Draft) :
    Script.net ((scripted.course function start).steps function) =
      (scripted.course function start).net function := by
  have decodings : Script.net (scripted.course function start).decodings = 0 :=
    (balanced.decodings _).net
  have heading : Script.net function.heading = 1 := rfl
  have ends : Script.net [Step.ends] = -1 := rfl
  have unread : Script.net [.line "(void)call;"] = 0 := rfl
  unfold Course.steps Course.body Course.net
  cases function.sideEffects with
  | false =>
      simp only [Script.net_append, heading, ends, unread, Bool.false_eq_true, if_false]
      omega
  | true =>
      simp only [Script.net_append, heading, ends, decodings, if_true]
      omega

end ScriptedHooks

/-- A replay function whose hooks take any steps, but for decoding that is balanced, faults at
the first step that leaves a block outside all blocks, right before it. If there is none, it
faults after its closing brace if the hooks that ran are off balance. Else it is written, and
the depth is as before. -/
theorem function_faults {scripted : ScriptedHooks} {function : Function}
    (balanced : scripted.ExtractsBalanced function) (start : Draft) :
    let course := scripted.course function start
    let steps := course.steps function
    let run := scripted.hooks.function function
    let panic := (run.fault? start).map Fault.message
    (panic = some "gl-retrace-gen: closing a block that was never opened" ↔
      Script.LeavesUnopened start.depth steps) ∧
    (panic = some ("unbalanced blocks in retrace_" ++ function.name) ↔
      ¬ Script.LeavesUnopened start.depth steps ∧ course.net function ≠ 0) ∧
    (panic = none ↔ ¬ Script.LeavesUnopened start.depth steps ∧ course.net function = 0) ∧
    (∀ front step rest, steps = front ++ step :: rest → step.LeavesBlock →
      Script.depthAfter? start.depth front = some 0 →
      ∃ here, Emit.play front start = .ok () here ∧ run start = .error .unopenedBlock here) ∧
    (¬ Script.LeavesUnopened start.depth steps →
      ∃ here, Emit.play steps start = .ok () here ∧
        (here.depth : Int) = start.depth + course.net function ∧
        (course.net function ≠ 0 → run start = .error (.unbalanced function.name) here) ∧
        (course.net function = 0 → run start = .ok () (here.extended "\n" start.depth []))) := by
  intro course steps run panic
  have unopened (front : Script) (step : Step) (rest : Script) (whole : steps = front ++ step :: rest)
      (leaves : step.LeavesBlock) (reached : Script.depthAfter? start.depth front = some 0) :
      ∃ here, Emit.play front start = .ok () here ∧ run start = .error .unopenedBlock here := by
    refine ⟨_, Emit.play_eq reached, ?_⟩
    have stopped := @Emit.play_error start front rest step leaves reached
    rw [← whole] at stopped
    exact (scripted.function_eq function start).trans (by rw [stopped])
  have written (none : ¬ Script.LeavesUnopened start.depth steps) :
      ∃ here, Emit.play steps start = .ok () here ∧
        (here.depth : Int) = start.depth + course.net function ∧
        (course.net function ≠ 0 → run start = .error (.unbalanced function.name) here) ∧
        (course.net function = 0 → run start = .ok () (here.extended "\n" start.depth [])) := by
    obtain ⟨depth, reached⟩ := Option.ne_none_iff_exists'.mp
      (mt Script.depthAfter?_eq_none_iff.mp none)
    have moved : (depth : Int) = start.depth + course.net function :=
      (Script.depth_eq_add_net reached).trans (by rw [balanced.net_steps start])
    have ran := scripted.function_eq function start
    rw [Emit.play_eq reached] at ran
    refine ⟨_, Emit.play_eq reached, moved, fun off => ran.trans (if_neg ?_),
      fun even => ran.trans ?_⟩
    · rw [Draft.extended_depth]
      omega
    · obtain rfl : depth = start.depth := by omega
      exact if_pos rfl
  have apart : "unbalanced blocks in retrace_" ++ function.name ≠
      "gl-retrace-gen: closing a block that was never opened" := by
    intro same
    have first := congrArg (fun text : String => text.toList.head?) same
    simp at first
  -- The three ways to end exclude one another, so each happens only in its own case.
  by_cases leaves : Script.LeavesUnopened start.depth steps
  · have ⟨front, step, rest, whole, leaving, reached⟩ := leaves
    obtain ⟨here, -, faulted⟩ := unopened front step rest whole leaving reached
    have told : panic = some "gl-retrace-gen: closing a block that was never opened" :=
      congrArg (Option.map Fault.message) (Emit.fault?_error faulted)
    refine ⟨?_, ?_, ?_, unopened, written⟩
    · simp [told, leaves]
    · simp [told, leaves, apart.symm]
    · simp [told, leaves]
  · obtain ⟨here, -, -, off, even⟩ := written leaves
    by_cases net : course.net function = 0
    · have told : panic = none := congrArg (Option.map Fault.message) (Emit.fault?_ok (even net))
      refine ⟨?_, ?_, ?_, unopened, written⟩ <;> simp [told, leaves, net]
    · have told : panic = some ("unbalanced blocks in retrace_" ++ function.name) :=
        congrArg (Option.map Fault.message) (Emit.fault?_error (off net))
      refine ⟨?_, ?_, ?_, unopened, written⟩ <;> simp [told, leaves, net, apart]

def ScriptedHooks.crossing : ScriptedHooks where
  prologue _ _ := [.ends, .ends]
  call function _ := [.begins "if (1)", .begins "if (1)"] ++ function.callStatement
  extract _ argument lvalue rvalue _ := argument.decoding lvalue rvalue

def waitSync : Function :=
  .build "glWaitSync" [.argument "sync" "GLsync" false]

theorem ScriptedHooks.crossing_extractsBalanced (function : Function) :
    crossing.ExtractsBalanced function :=
  fun argument _ _ => argument.balanced_decoding _ _

-- Outside all blocks the hooks close one too many. Inside one they close it and open it again,
-- and where no call is made to open it again, it is missing at the end.
theorem function_faults_crossing :
    ScriptedHooks.crossing.ExtractsBalanced waitSync ∧
      (let run := ScriptedHooks.crossing.hooks.function waitSync
       (run.fault? {}).map Fault.message =
         some "gl-retrace-gen: closing a block that was never opened" ∧
       (run.fault? { depth := 1 }).map Fault.message = none) ∧
      (let unread := waitSync.withoutSideEffects
       ((ScriptedHooks.crossing.hooks.function unread).fault? { depth := 2 }).map Fault.message =
         some "unbalanced blocks in retrace_glWaitSync") := by
  have balanced := ScriptedHooks.crossing_extractsBalanced
  have outside := function_faults (balanced waitSync) {}
  have inside := function_faults (balanced waitSync) { depth := 1 }
  let unread := waitSync.withoutSideEffects
  have missing := function_faults (balanced unread) { depth := 2 }
  refine ⟨balanced waitSync, ⟨?_, ?_⟩, ?_⟩
  · exact outside.1.mpr (Script.depthAfter?_eq_none_iff.mp rfl)
  · have written : Script.depthAfter? 1
        ((ScriptedHooks.crossing.course waitSync { depth := 1 }).steps waitSync) = some 1 := rfl
    exact inside.2.2.1.mpr ⟨mt Script.depthAfter?_eq_none_iff.mpr (by simp [written]), rfl⟩
  · have written : Script.depthAfter? 2
        ((ScriptedHooks.crossing.course unread { depth := 2 }).steps unread) = some 0 := rfl
    have off : (ScriptedHooks.crossing.course unread { depth := 2 }).net unread = -2 := rfl
    exact missing.2.1.mpr ⟨mt Script.depthAfter?_eq_none_iff.mpr (by simp [written]), by simp [off]⟩

end ReplayGen
