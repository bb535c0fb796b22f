import ReplayGen.Proofs.Emission.Depth
import ReplayGen.Proofs.Emission.Relative
import ReplayGen.Session

set_option autoImplicit false

namespace ReplayGen

namespace Hooks

structure Relative (hooks : Hooks) : Prop where
  prologue : ∀ function, (hooks.prologue function).Relative
  call : ∀ function, (hooks.call function).Relative
  extract : ∀ function argument lvalue rvalue,
    (hooks.extract function argument lvalue rvalue).Relative

namespace Relative

variable {hooks : Hooks}

theorem argument (relative : hooks.Relative) (function : Function) (argument : Argument) :
    (hooks.argument function argument).Relative := by
  refine (Emit.relative_step argument.declaration).bind fun _ => ?_
  refine (relative.extract function argument _ _).bind fun outcome => ?_
  cases outcome with
  | decoded => exact Emit.relative_pure true
  | unsupported =>
      exact (Emit.relative_play (argument.placeholder function)).bind fun _ =>
        Emit.relative_pure false

theorem arguments (relative : hooks.Relative) (function : Function) (arguments : List Argument) :
    (hooks.arguments function arguments).Relative := by
  induction arguments with
  | nil => exact Emit.relative_pure true
  | cons first rest ih =>
      exact (relative.argument function first).bind fun decoded =>
        ih.bind fun others => Emit.relative_pure (decoded && others)

theorem body (relative : hooks.Relative) (function : Function) :
    (hooks.body function).Relative := by
  refine (relative.prologue function).bind fun _ => ?_
  split
  · refine (relative.arguments function function.arguments).bind fun decoded => ?_
    cases decoded with
    | true => exact relative.call function
    | false =>
        exact (Emit.relative_play function.giveUpBlock).bind fun _ => relative.call function
  · exact Emit.relative_step _

theorem function (relative : hooks.Relative) (function : Function) :
    (hooks.function function).Relative := by
  have ended (before after : Nat) :
      (if after = before then Emit.step .blank
        else throw (.unbalanced function.name) : Emit Unit).Relative :=
    .ite (Emit.relative_step .blank) (Emit.relative_throw _)
  exact Emit.relative_depth fun before =>
    (Emit.relative_play function.heading).bind fun _ =>
      (relative.body function).bind fun _ =>
        (Emit.relative_step .ends).bind fun _ => Emit.relative_depth (ended before)

theorem functions (relative : hooks.Relative) (functions : List Function) :
    (hooks.functions functions).Relative := by
  have each : (functions.forM hooks.function).Relative := by
    induction functions with
    | nil => exact Emit.relative_pure ()
    | cons first rest ih => exact (relative.function first).bind fun _ => ih
  exact each.bind fun _ =>
    (Emit.relative_play (dispatchTable (functions.map Function.name))).bind fun _ =>
      Emit.relative_step _

end Relative

end Hooks

theorem Decoding.relative_emit (decoding : Decoding) : decoding.emit.Relative :=
  (Emit.relative_play decoding.script).bind fun _ => Emit.relative_pure decoding.outcome

theorem Plan.relative_hooks (plan : Plan) : plan.hooks.Relative where
  prologue function := Emit.relative_play (plan.prologue function)
  call function := Emit.relative_play (plan.call function)
  extract function argument lvalue rvalue :=
    (plan.extract function argument lvalue rvalue).relative_emit

namespace Command

def hooks? : Command → Option Hooks
  | function hooks _ | functions hooks _ | prologue hooks _ | call hooks _ => some hooks
  | extract hooks .. => some hooks
  | step _ | decoding .. | callStatement _ | giveUp _ => none

def Planned (command : Command) : Prop :=
  ∀ hooks ∈ command.hooks?, ∃ plan : Plan, hooks = plan.hooks

theorem Planned.relative {command : Command} (planned : command.Planned) :
    command.emit.Relative := by
  have hooked (hooks : Hooks) (own : hooks ∈ command.hooks?) : hooks.Relative := by
    obtain ⟨plan, rfl⟩ := planned hooks own
    exact plan.relative_hooks
  have silent {emission : Emit Unit} (relative : emission.Relative) :
      (silently emission).Relative := relative.bind fun _ => Emit.relative_pure none
  have answered {emission : Emit Extraction} (relative : emission.Relative) :
      (answering emission).Relative :=
    relative.bind fun extraction => Emit.relative_pure (some extraction)
  cases command with
  | step s => exact silent (Emit.relative_step s)
  | function hooks f => exact silent ((hooked hooks rfl).function f)
  | functions hooks fs => exact silent ((hooked hooks rfl).functions fs)
  | prologue hooks f => exact silent ((hooked hooks rfl).prologue f)
  | call hooks f => exact silent ((hooked hooks rfl).call f)
  | extract hooks f argument lvalue rvalue =>
      exact answered ((hooked hooks rfl).extract f argument lvalue rvalue)
  | decoding argument lvalue rvalue =>
      exact answered (argument.decoding lvalue rvalue).relative_emit
  | callStatement f => exact silent (Emit.relative_play f.callStatement)
  | giveUp f => exact silent (Emit.relative_play f.giveUp)

theorem added_append (front added : String) :
    ((front ++ added).drop front.length).copy = added := by
  have letters : List.drop front.length (front.toList ++ added.toList) = added.toList :=
    List.drop_left' String.length_toList
  simpa [← String.toList_inj] using letters

theorem reply_continued (draft later : Draft) (extraction : Option Extraction)
    (fault : Option Fault) :
    reply draft.text.length (draft.continued later) extraction fault =
      { added := later.text, depth := later.depth, extraction, fault } := by
  simp [reply, Draft.continued, Draft.extended, added_append]

theorem Planned.run_eq {command : Command} (planned : command.Planned) (before : Draft) :
    let reply := (command.run { depth := before.depth }).2
    (command.run before).2 = reply ∧
      (command.run before).1.text = before.text ++ reply.added ∧
      (command.run before).1.depth = reply.depth := by
  have ran := planned.relative before
  have empty (later : Draft) (extraction : Option Extraction) (fault : Option Fault) :
      reply "".length later extraction fault =
        { added := later.text, depth := later.depth, extraction, fault } := by
    have replied := reply_continued {} later extraction fault
    rwa [show ({} : Draft).continued later = later by simp [Draft.continued, Draft.extended]]
      at replied
  cases alone : command.emit { depth := before.depth } with
  | ok extraction later =>
      rw [alone] at ran
      simp only [run, ran, alone, Emit.onto, reply_continued, empty]
      exact ⟨trivial, rfl, rfl⟩
  | error fault later =>
      rw [alone] at ran
      simp only [run, ran, alone, Emit.onto, reply_continued, empty]
      exact ⟨trivial, rfl, rfl⟩

def leavesBlock : Command → Bool
  | step (.closeBlock _) | step (.reopenBlock _) => true
  | _ => false

theorem run_leavesBlock {command : Command} (leaves : command.leavesBlock = true)
    (before : Draft) :
    (command.run before).2.fault = (if before.depth = 0 then some .unopenedBlock else none) ∧
      (before.depth = 0 → (command.run before).1 = before) := by
  obtain ⟨text, depth, log⟩ := before
  cases command with
  | step s =>
      cases s with
      | closeBlock | reopenBlock =>
          cases depth <;> simp [run, emit, silently, Emit.step, Step.take?_eq, Step.depthAfter?,
            reply, bind, EStateM.bind, pure, EStateM.pure]
      | _ => simp [leavesBlock] at leaves
  | _ => simp [leavesBlock] at leaves

theorem run_step_of_some {step : Step} {before : Draft} {depth : Nat}
    (stepped : step.depthAfter? before.depth = some depth) :
    ((Command.step step).run before).1.depth = depth ∧
      ((Command.step step).run before).2.fault = none := by
  simp [run, emit, silently, Emit.bind_eq (Emit.step_eq stepped), reply, pure, EStateM.pure]

theorem run_step_of_none {step : Step} {before : Draft}
    (faulted : step.depthAfter? before.depth = none) :
    ((Command.step step).run before).1.depth = before.depth ∧
      ((Command.step step).run before).2.fault = some .unopenedBlock := by
  simp [run, emit, silently, Emit.step, Step.take?_eq, faulted, reply, bind, EStateM.bind]

end Command

namespace Step

def opens : Step → Bool
  | openBlock _ => true
  | _ => false

def closes : Step → Bool
  | closeBlock _ => true
  | _ => false

theorem opens_closes {step : Step} {depth after : Nat}
    (stepped : step.depthAfter? depth = some after) :
    after + (if step.closes then 1 else 0) = depth + if step.opens then 1 else 0 := by
  cases step with
  | closeBlock | reopenBlock =>
      cases depth with
      | zero => simp [depthAfter?] at stepped
      | succ depth =>
          obtain rfl := Option.some.inj stepped
          rfl
  | _ =>
      obtain rfl := Option.some.inj stepped
      rfl

end Step

namespace Session

theorem run_cons (command : Command) (rest : List Command) (draft : Draft) :
    run (command :: rest) draft =
      ((run rest (command.run draft).1).1,
        (command.run draft).2 :: (run rest (command.run draft).1).2) := rfl

theorem run_append (front back : List Command) (draft : Draft) :
    run (front ++ back) draft =
      ((run back (run front draft).1).1,
        (run front draft).2 ++ (run back (run front draft).1).2) := by
  induction front generalizing draft with
  | nil => rfl
  | cons command rest ih => rw [List.cons_append, run_cons, ih, run_cons, List.cons_append]

theorem length_replies (commands : List Command) (draft : Draft) :
    (run commands draft).2.length = commands.length := by
  induction commands generalizing draft with
  | nil => rfl
  | cons command rest ih => rw [run_cons, List.length_cons, ih, List.length_cons]

theorem text_run {commands : List Command} (planned : ∀ command ∈ commands, command.Planned)
    (draft : Draft) :
    (run commands draft).1.text =
      draft.text ++ String.join ((run commands draft).2.map Reply.added) := by
  induction commands generalizing draft with
  | nil => simp [run]
  | cons command rest ih =>
      rw [List.forall_mem_cons] at planned
      obtain ⟨replied, text, -⟩ := planned.1.run_eq draft
      rw [run_cons, ih planned.2, text, List.map_cons, String.join_cons, replied,
        String.append_assoc]

def accepted : List Command → Draft → List Command
  | [], _ => []
  | command :: rest, draft =>
      let others := accepted rest (command.run draft).1
      if command.leavesBlock && (command.run draft).2.fault.isSome then others
      else command :: others

theorem run_accepted (commands : List Command) (draft : Draft) :
    (run (accepted commands draft) draft).1 = (run commands draft).1 := by
  induction commands generalizing draft with
  | nil => rfl
  | cons command rest ih =>
      have later := ih (command.run draft).1
      by_cases refused : (command.leavesBlock && (command.run draft).2.fault.isSome) = true
      · obtain ⟨leaves, faulted⟩ := Bool.and_eq_true_iff.mp refused
        obtain ⟨fault, same⟩ := Command.run_leavesBlock leaves draft
        have outside : draft.depth = 0 := by
          by_cases outside : draft.depth = 0
          · exact outside
          · simp [fault, outside] at faulted
        rw [accepted, run_cons, if_pos refused]
        rwa [same outside] at later ⊢
      · rw [accepted, run_cons, if_neg refused, run_cons, later]

def closed (steps : List Step) (replies : List Reply) : Nat :=
  (steps.zip replies).countP fun answered => answered.1.closes && answered.2.fault.isNone

theorem closed_cons (step : Step) (steps : List Step) (reply : Reply) (replies : List Reply) :
    closed (step :: steps) (reply :: replies) =
      closed steps replies + if step.closes && reply.fault.isNone then 1 else 0 := by
  rw [closed, List.zip_cons_cons, List.countP_cons, closed]

theorem depth_run_steps (steps : List Step) (draft : Draft) :
    (run (steps.map Command.step) draft).1.depth +
        closed steps (run (steps.map Command.step) draft).2 =
      draft.depth + steps.countP Step.opens := by
  induction steps generalizing draft with
  | nil => rfl
  | cons step rest ih =>
      have later := ih ((Command.step step).run draft).1
      rw [List.map_cons, run_cons, closed_cons, List.countP_cons]
      cases stepped : step.depthAfter? draft.depth with
      | none =>
          obtain ⟨depth, fault⟩ := Command.run_step_of_none stepped
          have opens : step.opens = false := by
            cases step with
            | openBlock => simp [Step.depthAfter?] at stepped
            | _ => rfl
          simp only [fault, opens, Option.isNone_some, Bool.and_false, Bool.false_eq_true, if_false]
          omega
      | some next =>
          obtain ⟨depth, fault⟩ := Command.run_step_of_some stepped
          have changed := Step.opens_closes stepped
          simp only [fault, Option.isNone_none, Bool.and_true]
          omega

end Session

theorem session_told_by_replies {commands : List Command}
    (planned : ∀ command ∈ commands, command.Planned) (start : Draft) :
    (∀ front command back, commands = front ++ command :: back →
      let before := (Session.run front start).1
      let after := (command.run before).1
      let reply := (command.run before).2
      (Session.run commands start).2[front.length]? = some reply ∧
      after.text = before.text ++ reply.added ∧ after.depth = reply.depth ∧
      reply = (command.run { depth := before.depth }).2 ∧
      (command.leavesBlock = true →
        reply.fault = (if before.depth = 0 then some .unopenedBlock else none) ∧
          (before.depth = 0 → after = before))) ∧
    (Session.run commands start).1.text =
      start.text ++ String.join ((Session.run commands start).2.map Reply.added) ∧
    (Session.run (Session.accepted commands start) start).1 = (Session.run commands start).1 ∧
    ∀ steps, commands = steps.map Command.step →
      (Session.run commands start).1.depth + Session.closed steps (Session.run commands start).2 =
        start.depth + steps.countP Step.opens := by
  refine ⟨?_, Session.text_run planned start, Session.run_accepted commands start, ?_⟩
  · intro front command back split before after reply
    have own : command.Planned := planned command (by simp [split])
    obtain ⟨replied, text, depth⟩ := own.run_eq before
    refine ⟨?_, ?_, ?_, replied, fun leaves => Command.run_leavesBlock leaves before⟩
    · have replies := Session.length_replies front start
      rw [split, Session.run_append, Session.run_cons,
        List.getElem?_append_right (Nat.le_of_eq replies), replies, Nat.sub_self]
      rfl
    · rw [text, ← replied]
    · rw [depth, ← replied]
  · rintro steps rfl
    exact Session.depth_run_steps steps start

def leakyPlan : Plan :=
  { prologue := fun _ => [.begins "if (call.no)"] }

-- The second command stops with its function unbalanced, so the third is written further in.
def leakySession : List Command :=
  [.step .ends, .function leakyPlan.hooks (.named "glFlush"),
    .function GL.plan.hooks (.named "glFinish"), .step .ends, .step .ends]

theorem session_told_by_replies_leaky :
    (∀ command ∈ leakySession, command.Planned) ∧
      (Session.run leakySession {}).2.map Reply.depth = [0, 1, 1, 0, 0] ∧
      (Session.accepted leakySession {}).length = 3 ∧
      (Session.run (Session.accepted leakySession {}) {}).1 = (Session.run leakySession {}).1 := by
  have planned : ∀ command ∈ leakySession, command.Planned := by
    simp only [leakySession, List.forall_mem_cons, Command.Planned, Command.hooks?,
      Option.mem_def, Option.some.injEq, forall_eq', reduceCtorEq, false_implies, implies_true,
      true_and, List.not_mem_nil, and_true]
    exact ⟨⟨leakyPlan, rfl⟩, GL.plan, rfl⟩
  obtain ⟨-, -, accepted, -⟩ := session_told_by_replies planned {}
  exact ⟨planned, by decide +kernel, by decide +kernel, accepted⟩

end ReplayGen
