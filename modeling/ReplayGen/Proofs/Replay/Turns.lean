import ReplayGen.Proofs.Replay.Faults
import ReplayGen.Proofs.Replay.Sessions

set_option autoImplicit false

namespace ReplayGen

namespace Emit

variable {α : Type}

/-- From every draft the emission answers, with no more than text and events added to the draft
and its depth as before. -/
def Appends (emission : Emit α) : Prop :=
  ∀ draft, ∃ answer text events, emission draft = .ok answer (draft.extended text draft.depth events)

end Emit

/-- Hooks that only append. What they append may depend on all that was written before, and so on
how often they were asked: in one replay function no two calls of one hook find the same text. -/
structure Hooks.Appending (hooks : Hooks) : Prop where
  prologue : ∀ function, (hooks.prologue function).Appends
  call : ∀ function, (hooks.call function).Appends
  extract : ∀ function argument lvalue rvalue,
    (hooks.extract function argument lvalue rvalue).Appends

-- Steps chosen by the draft only append where they close the blocks they open, and no others.
theorem ScriptedHooks.appending {scripted : ScriptedHooks}
    (prologue : ∀ function draft, Script.Balanced (scripted.prologue function draft))
    (call : ∀ function draft, Script.Balanced (scripted.call function draft))
    (extract : ∀ function argument lvalue rvalue draft,
      Script.Balanced (scripted.extract function argument lvalue rvalue draft).script) :
    scripted.hooks.Appending where
  prologue function draft := ⟨(), _, _, Emit.play_eq (prologue function draft draft.depth)⟩
  call function draft := ⟨(), _, _, Emit.play_eq (call function draft draft.depth)⟩
  extract function argument lvalue rvalue draft :=
    ⟨_, _, _, Emit.bind_eq (Emit.play_eq (extract function argument lvalue rvalue draft draft.depth))⟩

namespace Session

structure Reaches (commands : List Command) (before after : Draft) (answers : List Extraction) :
    Prop where
  draft : (run commands before).1 = after
  answers : (run commands before).2.filterMap Reply.extraction = answers
  faultless : ∀ reply ∈ (run commands before).2, reply.fault = none

theorem reaches_nil (draft : Draft) : Reaches [] draft draft [] := by
  constructor <;> simp [run]

theorem Reaches.append {front back : List Command} {before middle after : Draft}
    {first second : List Extraction} (here : Reaches front before middle first)
    (there : Reaches back middle after second) :
    Reaches (front ++ back) before after (first ++ second) := by
  have whole := run_append front back before
  rw [here.draft] at whole
  constructor
  · rw [whole, there.draft]
  · rw [whole, List.filterMap_append, here.answers, there.answers]
  · rw [whole]
    exact List.forall_mem_append.mpr ⟨here.faultless, there.faultless⟩

theorem reaches_command {command : Command} {before after : Draft} {answer : Option Extraction}
    (ran : command.emit before = .ok answer after) :
    Reaches [command] before after answer.toList := by
  have once : run [command] before =
      (after, [Command.reply before.text.length after answer none]) := by
    simp only [run, Command.run, ran]
  constructor
  · rw [once]
  · rw [once]
    cases answer <;> simp [Command.reply]
  · simp [once, Command.reply]

theorem reaches_silently {command : Command} {emission : Emit Unit} {before after : Draft}
    (silent : command.emit = Command.silently emission) (ran : emission before = .ok () after) :
    Reaches [command] before after [] := by
  have emitted : command.emit before = .ok none after := silent ▸ Emit.bind_eq ran
  exact reaches_command emitted

theorem reaches_steps {script : Script} {before : Draft} {depth : Nat}
    (reached : Script.depthAfter? before.depth script = some depth) :
    Reaches (script.map .step) before
      (before.extended (Script.written before.depth script) depth (Script.events script)) [] := by
  induction script generalizing before with
  | nil =>
      obtain rfl : before.depth = depth := by simpa using reached
      simpa [Draft.extended, Script.events] using reaches_nil before
  | cons step rest ih =>
      obtain ⟨next, stepped, reached⟩ := Option.bind_eq_some_iff.mp reached
      have first : Reaches [.step step] before _ [] := reaches_silently rfl (Emit.step_eq stepped)
      have later := first.append (@ih (before.extended (step.written before.depth) next step.events) reached)
      simpa [Draft.extended_extended, Script.written, stepped, Script.events] using later

end Session

namespace Emit

open Session

variable {α β : Type}

structure Follows (emission : Emit α) (before : Draft) (answer : α) (after : Draft)
    (commands : List Command) (answers : List Extraction) : Prop where
  ran : emission before = .ok answer after
  reaches : Reaches commands before after answers

theorem follows_pure (answer : α) (draft : Draft) :
    (pure answer : Emit α).Follows draft answer draft [] [] :=
  ⟨rfl, reaches_nil draft⟩

theorem Follows.draft {emission : Emit α} {before after : Draft} {answer : α}
    {commands : List Command} {answers : List Extraction}
    (here : emission.Follows before answer after commands answers) :
    emission.draft before = after := by
  rw [Emit.draft, here.ran]

theorem Follows.bind {first : Emit α} {next : α → Emit β} {before middle after : Draft}
    {answer : α} {last : β} {front back : List Command} {earlier later : List Extraction}
    (here : first.Follows before answer middle front earlier)
    (there : (next answer).Follows middle last after back later) :
    (first >>= next).Follows before last after (front ++ back) (earlier ++ later) :=
  ⟨(bind_eq here.ran).trans there.ran, here.reaches.append there.reaches⟩

theorem Follows.andThen {first : Emit α} {rest : Emit β} {before middle after : Draft}
    {answer : α} {last : β} {front back : List Command} {earlier later : List Extraction}
    (here : first.Follows before answer middle front earlier)
    (there : rest.Follows middle last after back later) :
    (first >>= fun _ => rest).Follows before last after (front ++ back) (earlier ++ later) :=
  here.bind there

theorem Follows.answering {emission : Emit α} {before after : Draft} {answer : α}
    {commands : List Command} {answers : List Extraction}
    (here : emission.Follows before answer after commands answers) (f : α → β) :
    (do return f (← emission) : Emit β).Follows before (f answer) after commands answers :=
  ⟨bind_eq here.ran, here.reaches⟩

theorem follows_play {script : Script} {before : Draft} {depth : Nat}
    (reached : Script.depthAfter? before.depth script = some depth) :
    (play script).Follows before ()
      (before.extended (Script.written before.depth script) depth (Script.events script))
      (script.map .step) [] :=
  ⟨play_eq reached, reaches_steps reached⟩

theorem follows_step {step : Step} {before : Draft} {depth : Nat}
    (stepped : step.depthAfter? before.depth = some depth) :
    (Emit.step step).Follows before ()
      (before.extended (step.written before.depth) depth step.events) [.step step] [] :=
  ⟨step_eq stepped, reaches_silently rfl (step_eq stepped)⟩

end Emit

namespace Hooks

variable (hooks : Hooks) (function : Function)

def opening : List Command :=
  [.step (.note (.retracing function.name function.roles)),
    .step (.begins ("static void retrace_" ++ function.name ++ "(Trace::Call &call)"))]

def closing : List Command :=
  [.step .ends, .step .blank]

def decodingRequest (argument : Argument) : Command :=
  .extract hooks function argument argument.name ("call.arg(" ++ toString argument.index ++ ")")

def afterDecoding (argument : Argument) : Extraction → List Command
  | .decoded => []
  | .unsupported =>
      [.step (.note (.undecodable function.name argument.name argument.type)),
        .step (.line (argument.name ++ " = 0; // FIXME"))]

def argumentTurn (argument : Argument) (outcome : Extraction) : List Command :=
  [.step (.line (argument.localType ++ " " ++ argument.name ++ ";")),
    hooks.decodingRequest function argument] ++ afterDecoding function argument outcome

def givingUp : List Command :=
  [.step (.begins "if (1)"),
    .step (.line ("std::cerr << \"warning: unsupported call " ++ function.name ++ "\\n\";")),
    .step (.line "return;"), .step .ends]

def bodyTurns (outcomes : List Extraction) : List Command :=
  [.prologue hooks function] ++
    ((List.zipWith (hooks.argumentTurn function) function.arguments outcomes).flatten ++
      ((if .unsupported ∈ outcomes then givingUp function else []) ++ [.call hooks function]))

def idleTurns : List Command :=
  [.prologue hooks function, .step (.line "(void)call;")]

def unitTurns (body : List Command) : List Command :=
  opening function ++ (body ++ closing)

def requests (commands : List Command) : List Command :=
  commands.filter (·.hooks?.isSome)

variable {hooks : Hooks} {function : Function}

def opened (function : Function) (before : Draft) : Draft :=
  before.extended (Script.written before.depth function.heading) (before.depth + 1)
    (Script.events function.heading)

def closed (depth : Nat) (after : Draft) : Draft :=
  after.extended (indentedLine depth "\x7d" ++ "\n") depth []

def prologueText (hooks : Hooks) (function : Function) (start : Draft) : String :=
  ((Command.prologue hooks function).run (opened function start)).2.added

theorem prologueText_eq {start : Draft} {text : String} {depth : Nat} {events : List Event}
    (ran : hooks.prologue function (opened function start) =
      .ok () ((opened function start).extended text depth events)) :
    hooks.prologueText function start = text := by
  have emitted : (Command.prologue hooks function).emit (opened function start) =
      .ok none ((opened function start).extended text depth events) := Emit.bind_eq ran
  rw [prologueText, Command.run, emitted]
  exact Command.added_append (opened function start).text text

theorem function_follows {before after : Draft} {commands : List Command}
    {outcomes : List Extraction}
    (body : (hooks.body function).Follows (opened function before) () after commands outcomes)
    (level : after.depth = before.depth + 1) :
    (hooks.function function).Follows before () (closed before.depth after)
      (unitTurns function commands) outcomes := by
  have opens : (Emit.play function.heading).Follows before () (opened function before)
      (opening function) [] := Emit.follows_play rfl
  have reached : Step.ends.depthAfter? after.depth = some before.depth := by
    rw [level]
    rfl
  have block := opens.andThen (body.andThen (Emit.follows_step reached))
  have blank (here : Draft) : (Emit.step .blank).Follows here () (here.extended "\n" here.depth [])
      [.step .blank] [] := Emit.follows_step rfl
  have ended : after.extended (Step.ends.written after.depth) before.depth Step.ends.events =
      after.extended (indentedLine before.depth "\x7d") before.depth [] := by
    rw [level]
    rfl
  rw [ended] at block
  have ran : hooks.block function before =
      .ok () (after.extended (indentedLine before.depth "\x7d") before.depth []) := block.ran
  have whole := block.reaches.append (blank _).reaches
  refine ⟨?_, by simpa [unitTurns, closing, closed, Draft.extended_extended] using whole⟩
  rw [function_eq, ran]
  simp [closed, Draft.extended_extended]

end Hooks

namespace Hooks.Appending

open Emit

variable {hooks : Hooks} (appending : hooks.Appending) (function : Function)
include appending

theorem prologue_follows (before : Draft) :
    ∃ text events, (hooks.prologue function).Follows before ()
      (before.extended text before.depth events) [.prologue hooks function] [] := by
  obtain ⟨_, text, events, ran⟩ := appending.prologue function before
  exact ⟨text, events, ran, Session.reaches_silently rfl ran⟩

theorem call_follows (before : Draft) :
    ∃ text events, (hooks.call function).Follows before ()
      (before.extended text before.depth events) [.call hooks function] [] := by
  obtain ⟨_, text, events, ran⟩ := appending.call function before
  exact ⟨text, events, ran, Session.reaches_silently rfl ran⟩

theorem extract_follows (argument : Argument) (before : Draft) :
    ∃ outcome text events,
      (hooks.extract function argument argument.name (recordedValue argument.index)).Follows before
        outcome (before.extended text before.depth events)
        [hooks.decodingRequest function argument] [outcome] := by
  obtain ⟨outcome, text, events, ran⟩ := appending.extract function argument _ _ before
  have answered : (hooks.decodingRequest function argument).emit before = .ok (some outcome) _ :=
    bind_eq ran
  exact ⟨outcome, text, events, ran, Session.reaches_command answered⟩

theorem argument_follows (argument : Argument) (before : Draft) :
    ∃ outcome after,
      (hooks.argument function argument).Follows before (decide (outcome = Extraction.decoded))
        after (hooks.argumentTurn function argument outcome) [outcome] ∧
      after.depth = before.depth := by
  have declares : (Emit.step argument.declaration).Follows before () _ _ [] := follows_step rfl
  obtain ⟨outcome, text, events, extracts⟩ := appending.extract_follows function argument _
  cases outcome with
  | decoded => exact ⟨.decoded, _, declares.bind (extracts.bind (follows_pure true _)), rfl⟩
  | unsupported =>
      have places (here : Draft) :
          (Emit.play (argument.placeholder function)).Follows here () _ _ [] := follows_play rfl
      exact ⟨.unsupported, _,
        declares.bind (extracts.bind ((places _).answering fun _ => false)), rfl⟩

theorem arguments_follow (arguments : List Argument) (before : Draft) :
    ∃ outcomes after, outcomes.length = arguments.length ∧
      (hooks.arguments function arguments).Follows before (decide (.unsupported ∉ outcomes)) after
        (List.zipWith (hooks.argumentTurn function) arguments outcomes).flatten outcomes ∧
      after.depth = before.depth := by
  -- Each argument finds the draft that those before it left, so the draft is general.
  induction arguments generalizing before with
  | nil => exact ⟨[], before, rfl, follows_pure true before, rfl⟩
  | cons first rest ih =>
      obtain ⟨outcome, middle, here, level⟩ := appending.argument_follows function first before
      obtain ⟨outcomes, after, length, there, deep⟩ := ih middle
      have decoded : (decide (outcome = .decoded) && decide (.unsupported ∉ outcomes)) =
          decide (Extraction.unsupported ∉ outcome :: outcomes) := by
        cases outcome <;> simp
      have others := there.answering (decide (outcome = .decoded) && ·)
      rw [decoded] at others
      exact ⟨outcome :: outcomes, after, by simp [length], here.bind others, deep.trans level⟩

theorem body_follows (effects : function.sideEffects = true) (before : Draft) :
    ∃ outcomes after, outcomes.length = function.arguments.length ∧
      (hooks.body function).Follows before () after (hooks.bodyTurns function outcomes) outcomes ∧
      after.depth = before.depth := by
  obtain ⟨text, events, begins⟩ := appending.prologue_follows function before
  obtain ⟨outcomes, middle, length, decodes, level⟩ :=
    appending.arguments_follow function function.arguments (before.extended text before.depth events)
  have gives : ∃ decided, (if decide (.unsupported ∉ outcomes) then pure ()
      else Emit.play function.giveUpBlock : Emit Unit).Follows middle () decided
        (if .unsupported ∈ outcomes then givingUp function else []) [] ∧
      decided.depth = middle.depth := by
    by_cases undecoded : .unsupported ∈ outcomes
    · have plays : (Emit.play function.giveUpBlock).Follows middle () _ _ [] := follows_play rfl
      simp only [undecoded, not_true_eq_false, decide_false, Bool.false_eq_true, if_false, if_true]
      exact ⟨_, plays, rfl⟩
    · simp only [undecoded, not_false_eq_true, decide_true, if_true, if_false]
      exact ⟨middle, follows_pure () middle, rfl⟩
  obtain ⟨decided, gives, kept⟩ := gives
  obtain ⟨last, reported, calls⟩ := appending.call_follows function decided
  have whole : (hooks.body function).Follows before () (decided.extended last decided.depth reported)
      (hooks.bodyTurns function outcomes) ([] ++ (outcomes ++ [])) := by
    rw [body_of_effects _ _ effects]
    exact begins.andThen (decodes.bind (gives.andThen calls))
  rw [List.nil_append, List.append_nil] at whole
  exact ⟨outcomes, _, length, whole, kept.trans level⟩

theorem body_follows_idle (idle : function.sideEffects = false) (before : Draft) :
    ∃ text events, (hooks.prologue function).Follows before ()
        (before.extended text before.depth events) [.prologue hooks function] [] ∧
      (hooks.body function).Follows before ()
        (before.extended (text ++ indentedLine before.depth "(void)call;") before.depth events)
        (hooks.idleTurns function) [] := by
  obtain ⟨text, events, begins⟩ := appending.prologue_follows function before
  have voids (here : Draft) : (Emit.step (.line "(void)call;")).Follows here () _ _ [] :=
    follows_step rfl
  refine ⟨text, events, begins, ?_⟩
  have whole := begins.andThen (voids _)
  rw [Draft.extended_extended] at whole
  rw [body_of_idle _ _ idle]
  simpa [Step.written, Step.events, Hooks.idleTurns] using whole

theorem function_follows (effects : function.sideEffects = true) (start : Draft) :
    ∃ outcomes after, outcomes.length = function.arguments.length ∧
      (hooks.function function).Follows start () after
        (unitTurns function (hooks.bodyTurns function outcomes)) outcomes ∧
      after.depth = start.depth := by
  obtain ⟨outcomes, after, length, body, level⟩ :=
    appending.body_follows function effects (opened function start)
  exact ⟨outcomes, closed start.depth after, length, Hooks.function_follows body level, rfl⟩

theorem function_follows_idle (idle : function.sideEffects = false) (start : Draft) :
    ∃ after,
      (hooks.function function).Follows start () after
        (unitTurns function (hooks.idleTurns function)) [] ∧
      after.depth = start.depth ∧
      after.text = start.text ++ (Script.written start.depth function.heading ++
        (hooks.prologueText function start ++ indentedLine (start.depth + 1) "(void)call;") ++
        (indentedLine start.depth "\x7d" ++ "\n")) := by
  obtain ⟨text, events, begins, body⟩ :=
    appending.body_follows_idle function idle (opened function start)
  refine ⟨_, Hooks.function_follows body rfl, rfl, ?_⟩
  rw [prologueText_eq begins.ran]
  simp [closed, opened, Draft.extended, String.append_assoc]

end Hooks.Appending

namespace Hooks

theorem requests_append (front back : List Command) :
    requests (front ++ back) = requests front ++ requests back :=
  List.filter_append front back

theorem requests_of_argumentTurn {hooks : Hooks} (function : Function) (argument : Argument)
    (outcome : Extraction) :
    requests (hooks.argumentTurn function argument outcome) =
      [hooks.decodingRequest function argument] := by
  cases outcome <;> rfl

theorem requests_of_argumentTurns {hooks : Hooks} (function : Function) {arguments : List Argument}
    {outcomes : List Extraction} (length : outcomes.length = arguments.length) :
    requests (List.zipWith (hooks.argumentTurn function) arguments outcomes).flatten =
      arguments.map (hooks.decodingRequest function) := by
  induction arguments generalizing outcomes with
  | nil => rfl
  | cons first rest ih =>
      cases outcomes with
      | nil => simp at length
      | cons outcome others =>
          rw [List.zipWith_cons_cons, List.flatten_cons, requests_append,
            requests_of_argumentTurn, ih (Nat.succ.inj length), List.map_cons, List.singleton_append]

theorem requests_of_bodyTurns {hooks : Hooks} {function : Function} {outcomes : List Extraction}
    (length : outcomes.length = function.arguments.length) :
    requests (unitTurns function (hooks.bodyTurns function outcomes)) =
      .prologue hooks function ::
        (function.arguments.map (hooks.decodingRequest function) ++ [.call hooks function]) := by
  have gives : requests (if .unsupported ∈ outcomes then givingUp function else []) = [] := by
    split <;> rfl
  have opens : requests (opening function) = [] := rfl
  have begins : requests [.prologue hooks function] = [.prologue hooks function] := rfl
  have calls : requests [.call hooks function] = [.call hooks function] := rfl
  have closes : requests closing = [] := rfl
  simp only [unitTurns, bodyTurns, requests_append, requests_of_argumentTurns function length,
    gives, opens, begins, calls, closes, List.nil_append, List.append_nil]
  rfl

end Hooks

theorem hooks_asked_in_turn {hooks : Hooks} (appending : hooks.Appending) (function : Function)
    (start : Draft) :
    (function.sideEffects = true →
      ∃ outcomes after, outcomes.length = function.arguments.length ∧
        let turns := Hooks.unitTurns function (hooks.bodyTurns function outcomes)
        (hooks.function function).Follows start () after turns outcomes ∧
        after.depth = start.depth ∧
        Hooks.requests turns = .prologue hooks function ::
          (function.arguments.map (hooks.decodingRequest function) ++ [.call hooks function])) ∧
    (function.sideEffects = false →
      (∃ after,
        let turns := Hooks.unitTurns function (hooks.idleTurns function)
        (hooks.function function).Follows start () after turns [] ∧
        after.depth = start.depth ∧
        Hooks.requests turns = [.prologue hooks function]) ∧
      ∀ other : Function, other.sideEffects = false → other.name = function.name →
        hooks.prologueText other start = hooks.prologueText function start →
          ((hooks.function other).draft start).text =
            ((hooks.function function).draft start).text) := by
  constructor
  · intro effects
    obtain ⟨outcomes, after, length, follows, level⟩ :=
      appending.function_follows function effects start
    exact ⟨outcomes, after, length, follows, level, Hooks.requests_of_bodyTurns length⟩
  · intro idle
    obtain ⟨after, follows, level, text⟩ := appending.function_follows_idle function idle start
    refine ⟨⟨after, follows, level, rfl⟩, ?_⟩
    intro other otherIdle name prologue
    obtain ⟨otherAfter, otherFollows, -, otherText⟩ :=
      appending.function_follows_idle other otherIdle start
    have heading : Script.written start.depth other.heading =
        Script.written start.depth function.heading := by
      simp [Function.heading, Script.written, Step.written, Step.begins, Step.depthAfter?, name]
    rw [otherFollows.draft, follows.draft, otherText, text, heading, prologue]

def ScriptedHooks.alternating : ScriptedHooks where
  prologue _ _ := [.line "++calls;"]
  call function _ := function.callStatement
  extract function argument lvalue rvalue draft :=
    if draft.log.length % 2 = 1 then .unsupported
    else .supported
      [.note (.passingBlob function.name argument.name), readStatement "toUInt" lvalue rvalue]

theorem ScriptedHooks.alternating_appending : alternating.hooks.Appending := by
  refine appending (fun _ _ _ => rfl) (fun function _ => function.balanced_callStatement) ?_
  intro function argument lvalue rvalue draft
  simp only [alternating]
  split <;> exact fun _ => rfl

def clientWaitSync : Function :=
  .build "glClientWaitSync" [.returns "GLenum", .argument "sync" "GLsync" false,
    .argument "flags" "GLbitfield" false, .argument "timeout" "GLuint64" false]

theorem hooks_asked_in_turn_clientWaitSync :
    let hooks := ScriptedHooks.alternating.hooks
    let turns := fun outcomes =>
      Hooks.unitTurns clientWaitSync (hooks.bodyTurns clientWaitSync outcomes)
    let unread := clientWaitSync.withoutSideEffects
    let bare := (Function.named "glClientWaitSync").withoutSideEffects
    hooks.Appending ∧ clientWaitSync.sideEffects = true ∧
      (∃ outcomes after, outcomes.length = 3 ∧
        (hooks.function clientWaitSync).Follows {} () after (turns outcomes) outcomes) ∧
      (let outcomes := [.unsupported, .decoded, .unsupported]
       (Session.run (turns outcomes) {}).2.filterMap Reply.extraction = outcomes) ∧
      unread.sideEffects = false ∧ bare.sideEffects = false ∧ bare.name = unread.name ∧
      hooks.prologueText bare {} = hooks.prologueText unread {} ∧
      ((hooks.function bare).draft {}).text = ((hooks.function unread).draft {}).text := by
  intro hooks turns unread bare
  have appending := ScriptedHooks.alternating_appending
  have prologue : hooks.prologueText bare {} = hooks.prologueText unread {} := by decide +kernel
  obtain ⟨outcomes, after, length, follows, -, -⟩ :=
    (hooks_asked_in_turn appending clientWaitSync {}).1 rfl
  have alike := ((hooks_asked_in_turn appending unread {}).2 rfl).2 bare rfl rfl prologue
  exact ⟨appending, rfl, ⟨outcomes, after, length, follows⟩, by decide +kernel, rfl, rfl, rfl,
    prologue, alike⟩

end ReplayGen
