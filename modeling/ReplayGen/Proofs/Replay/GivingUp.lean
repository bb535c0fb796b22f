import ReplayGen.Proofs.Emission.Paths
import ReplayGen.Proofs.Function.Lettered
import ReplayGen.Proofs.Replay.Lines

set_option autoImplicit false

namespace ReplayGen

namespace Line

def Returns (line : Line) : Prop :=
  ∃ depth, line.render = indentation depth ++ "return;"

theorem not_returns {line : Line} {c : Char} (member : c ∈ line.text.toList) (solid : c ≠ ' ')
    (foreign : c ∉ "return;".toList) : ¬ line.Returns := by
  rintro ⟨depth, same⟩
  have shown : c ∈ line.render.toList := by
    rw [render_toList]
    split
    next empty => simp [String.isEmpty_iff.mp empty] at member
    next => exact List.mem_append_right _ member
  rw [same, String.toList_append, List.mem_append] at shown
  rcases shown with indented | inside
  · rw [indentation, String.toList_ofList] at indented
    exact solid (List.eq_of_mem_replicate indented)
  · exact foreign inside

def tellingMarks : List Char :=
  ['=', '(', ':', '\x7d']

/-- The line has a mark that stands in no return and in no declaration. -/
def Marked (line : Line) : Prop :=
  ∃ c ∈ tellingMarks, c ∈ line.text.toList

instance (line : Line) : Decidable line.Marked :=
  decidable_of_iff (tellingMarks.any (· ∈ line.text.toList) = true) (by simp [Marked])

theorem Marked.not_returns {line : Line} (marked : line.Marked) : ¬ line.Returns := by
  obtain ⟨c, mark, member⟩ := marked
  have apart : tellingMarks.all (fun c => c ≠ ' ' ∧ c ∉ "return;".toList) = true := by decide
  have own := of_decide_eq_true (List.all_eq_true.mp apart c mark)
  exact Line.not_returns member own.1 own.2

structure Proceeds (line : Line) : Prop where
  stays : ¬ line.Returns
  unforced : line.text ≠ "if (1) \x7b"

end Line

/-- Every line that returns stands in some block of the body, right after the warning. The
line before all of them is `last`. -/
def Announced (warning : String) : Option Line → List Line → Prop
  | _, [] => True
  | last, line :: rest =>
      (line.Returns → 2 ≤ line.depth ∧ last = some ⟨line.depth, warning⟩) ∧
        Announced warning (some line) rest

section Announced

variable {warning : String}

theorem announced_of_not_returns {lines : List Line} (stays : ∀ line ∈ lines, ¬ line.Returns)
    (last : Option Line) : Announced warning last lines := by
  induction lines generalizing last with
  | nil => trivial
  | cons line rest ih =>
      rw [List.forall_mem_cons] at stays
      exact ⟨fun returns => absurd returns stays.1, ih stays.2 (some line)⟩

theorem Announced.after {lines : List Line} (announced : Announced warning none lines)
    (last : Option Line) : Announced warning last lines := by
  cases lines with
  | nil => trivial
  | cons line rest => exact ⟨fun returns => (by simpa using announced.1 returns), announced.2⟩

theorem Announced.append {last : Option Line} {first second : List Line}
    (here : Announced warning last first) (there : Announced warning none second) :
    Announced warning last (first ++ second) := by
  induction first generalizing last with
  | nil => exact there.after last
  | cons line rest ih => exact ⟨here.1, ih here.2⟩

theorem Announced.before {lines before after : List Line} {line : Line} {last : Option Line}
    (announced : Announced warning last lines) (split : lines = before ++ line :: after)
    (returns : line.Returns) :
    2 ≤ line.depth ∧ before.getLast?.or last = some ⟨line.depth, warning⟩ := by
  subst split
  induction before generalizing last with
  | nil => simpa using announced.1 returns
  | cons first rest ih =>
      have later := ih announced.2
      rw [List.getLast?_cons]
      cases ended : rest.getLast? <;> simpa [ended] using later

theorem exists_between {front back before after : List Line} {line : Line}
    (split : front ++ back = before ++ line :: after) (missing : line ∉ back) :
    ∃ between, after = between ++ back := by
  rcases List.append_eq_append_iff.mp split with ⟨gap, -, rfl⟩ | ⟨gap, -, split⟩
  · simp at missing
  · cases gap with
    | nil => simp [show back = line :: after from split.symm] at missing
    | cons first between => exact ⟨between, (List.cons.inj split).2⟩

end Announced

namespace Function

def warning (function : Function) : String :=
  "std::cerr << \"warning: unsupported call " ++ function.name ++ "\\n\";"

theorem marked_warning (function : Function) (depth : Nat) :
    (⟨depth, function.warning⟩ : Line).Marked := by
  refine ⟨':', by decide, ?_⟩
  unfold warning
  simp

theorem warning_ne_return (function : Function) : function.warning ≠ "return;" := by
  intro same
  apply (function.marked_warning 0).not_returns
  exact ⟨0, by rw [same]; rfl⟩

theorem announced_giveUpLines (function : Function) {depth : Nat} (inner : 2 ≤ depth) :
    Announced function.warning none (function.giveUpLines depth) := by
  have lines : function.giveUpLines depth = [⟨depth, function.warning⟩, ⟨depth, "return;"⟩] := rfl
  rw [lines, Announced, Announced, Announced]
  exact ⟨fun returns => absurd returns (function.marked_warning depth).not_returns,
    fun _ => ⟨inner, rfl⟩, trivial⟩

theorem announced_giveUpBlockLines (function : Function) :
    Announced function.warning none function.giveUpBlockLines := by
  have head : ¬ (⟨1, "if (1) \x7b"⟩ : Line).Returns := Line.Marked.not_returns (by decide)
  have tail : ¬ (⟨1, "\x7d"⟩ : Line).Returns := Line.Marked.not_returns (by decide)
  have inside := (function.announced_giveUpLines (Nat.le_refl 2)).append
    (announced_of_not_returns (List.forall_mem_singleton.mpr tail) none)
  exact ⟨fun returns => absurd returns head, inside.after _⟩

theorem marked_headingLine (function : Function) : function.headingLine.Marked :=
  ⟨'(', by decide, by simp [headingLine]⟩

theorem not_returns_closingLines : ∀ line ∈ closingLines, ¬ line.Returns := by
  have empty : ¬ (⟨0, ""⟩ : Line).Returns := by
    rintro ⟨depth, same⟩
    have letters := congrArg (fun text : String => text.toList.length) same
    simp [Line.render] at letters
  simp only [closingLines, List.forall_mem_cons]
  exact ⟨Line.Marked.not_returns (by decide), empty, List.forall_mem_nil _⟩

end Function

namespace Argument

theorem marked_decodingLines (argument : Argument) (position : Nat) :
    ∀ line ∈ argument.decodingLines position, line.Marked := by
  unfold decodingLines
  cases argument.kind <;> simp [Line.Marked, Line.tellingMarks]

theorem localType_eq_empty {argument : Argument}
    (flush : (∀ c ∈ argument.type.toList, c = ' ') → argument.type = "")
    (spaces : ∀ c ∈ argument.localType.toList, c = ' ') : argument.localType = "" := by
  unfold localType at spaces ⊢
  split at spaces
  next => exact absurd (spaces '*' (by simp)) (by decide)
  next => exact flush spaces

/-- An argument may be called `return`, but its declaration is not indented like a return. -/
theorem not_returns_declarationLine {argument : Argument}
    (name : Text.isIdentifier argument.name.toList = true)
    (flush : (∀ c ∈ argument.type.toList, c = ' ') → argument.type = "") :
    ¬ argument.declarationLine.Returns := by
  rintro ⟨depth, same⟩
  obtain ⟨c, rest, letters, solid⟩ : ∃ c rest, argument.name.toList = c :: rest ∧ c ≠ ' ' := by
    have spaceless := Text.not_mem_space_of_isIdentifier name
    cases letters : argument.name.toList with
    | nil => simp [letters, Text.isIdentifier] at name
    | cons c rest =>
        rw [letters, List.mem_cons, not_or] at spaceless
        exact ⟨c, rest, rfl, Ne.symm spaceless.1⟩
  have chars : (List.replicate 4 ' ' ++ argument.localType.toList ++ [' ']) ++ (c :: rest ++ [';']) =
      List.replicate (4 * depth) ' ' ++ "return;".toList := by
    have shown := congrArg String.toList same
    simpa [Line.render_toList, declarationLine, indentation, letters] using shown
  -- No space stands in `return;`, and none where the name starts, so the spaces are the same.
  have indented : List.replicate (4 * depth) ' ' =
      List.replicate 4 ' ' ++ argument.localType.toList ++ [' '] := by
    rcases List.append_eq_append_iff.mp chars with ⟨gap, shown, said⟩ | ⟨gap, shown, said⟩
    · cases gap with
      | nil => simpa using shown
      | cons first others =>
          obtain ⟨rfl, -⟩ := List.cons.inj said
          have inside : c ∈ List.replicate (4 * depth) ' ' := by simp [shown]
          exact absurd (List.eq_of_mem_replicate inside) solid
    · rcases List.eq_nil_or_concat gap with rfl | ⟨others, last, rfl⟩
      · simpa using shown.symm
      · have ended := congrArg List.getLast? shown
        simp only [List.getLast?_append, List.concat_eq_append] at ended
        obtain rfl : ' ' = last := by simpa using ended
        have inside : ' ' ∈ "return;".toList := by rw [said]; simp
        exact absurd inside (by decide)
  have blank (c : Char) (member : c ∈ argument.localType.toList) : c = ' ' := by
    have inside : c ∈ List.replicate (4 * depth) ' ' := by simp [indented, member]
    exact List.eq_of_mem_replicate inside
  have empty := localType_eq_empty flush blank
  have count := congrArg List.length indented
  simp [empty] at count
  omega

end Argument

namespace Code

def AlwaysReturns (code : Code) : Prop :=
  ∀ path ending, Runs code path ending → ending = .returns

theorem AlwaysReturns.after {last : Code} (always : last.AlwaysReturns) (front : Code) :
    (front.append last).AlwaysReturns := by
  intro path ending run
  rcases runs_append_iff.mp run with ⟨returned, -⟩ | ⟨_, after, -, -, later⟩
  · exact returned
  · exact always after ending later

theorem alwaysReturns_giveUp (text tail : String) (rest : Code) :
    (block "if (1) \x7b" (.statement text (.statement "return;" .done)) tail rest).AlwaysReturns := by
  intro path ending run
  cases run with
  | leaveBlock => rfl
  | block taken within =>
      -- The test is always true, so the body is run, and that returns.
      rcases taken with rfl | ⟨other, -⟩
      · cases within with
        | statement _ later => cases later with
          | statement goesOn => exact absurd rfl goesOn
      · exact absurd rfl other
  | again loop => exact absurd loop (by decide)

theorem not_mem_texts_of_not_returns {code : Code} {depth : Nat}
    (stays : ∀ line ∈ code.lines depth, ¬ line.Returns) : "return;" ∉ code.texts := by
  intro member
  obtain ⟨line, inside, said⟩ := mem_lines_of_mem_texts member depth
  refine stays line inside ⟨line.depth, ?_⟩
  simp [Line.render, said]

end Code

theorem Script.Balanced.exists_run {script : Script} (balanced : Balanced script) {depth : Nat}
    (proceeds : ∀ line ∈ layout depth script, line.Proceeds) :
    ∃ path, script.code.Runs path .falls := by
  rw [balanced.layout_eq_lines] at proceeds
  apply balanced.exists_runs
  · exact Code.not_mem_texts_of_not_returns fun line member => (proceeds line member).stays
  · intro forced
    obtain ⟨line, inside, said⟩ := Code.mem_lines_of_mem_texts forced depth
    exact (proceeds line inside).unforced said

theorem Function.giveUpBlock_alwaysReturns (function : Function) :
    (Script.code function.giveUpBlock).AlwaysReturns :=
  Code.alwaysReturns_giveUp function.warning "\x7d" .done

namespace Plan

section Parts

variable (plan : Plan) (function : Function)

def front : Script :=
  plan.prologue function ++ if function.sideEffects then plan.decodings function else []

def effects : Script :=
  if function.sideEffects then plan.call function else [.line "(void)call;"]

theorem body_eq : plan.body function = plan.front function ++ plan.effects function := by
  unfold body afterPrologue front effects
  cases function.sideEffects <;> simp

-- The plan returns in its prologue only, where it warns first, stands in a block and may be
-- passed by.
structure Careful : Prop where
  prologue : Announced function.warning none (Script.layout 1 (plan.prologue function))
  passed : ∃ path, (Script.code (plan.prologue function)).Runs path .falls
  passage : ∀ argument ∈ function.arguments,
    ∀ line ∈ Script.layout 1 (plan.passage function argument),
      line.Marked ∧ line.text ≠ "if (1) \x7b"
  call : ∀ line ∈ Script.layout 1 (plan.call function), line.Proceeds

end Parts

variable {plan : Plan} {function : Function}

theorem Balanced.front (balanced : plan.Balanced function) :
    Script.Balanced (plan.front function) :=
  balanced.prologue.append (.ite balanced.decodings Script.balanced_nil)

theorem Balanced.effects (balanced : plan.Balanced function) :
    Script.Balanced (plan.effects function) :=
  .ite balanced.call fun _ => rfl

theorem layout_unit_eq (balanced : plan.Balanced function) :
    Script.layout 0 (plan.unit function) =
      function.headingLine :: ((Script.code (plan.front function)).append
        (Script.code (plan.effects function))).lines 1 ++ Function.closingLines := by
  have parted : Script.layout 1 (plan.prologue function) ++ Script.layout 1 (plan.afterPrologue function) =
      Script.layout 1 (plan.front function) ++ Script.layout 1 (plan.effects function) := by
    rw [← balanced.prologue.layout_append, ← balanced.front.layout_append, ← body_eq, body]
  rw [layout_unit balanced, parted, balanced.front.layout_eq_lines, balanced.effects.layout_eq_lines,
    Code.lines_append, List.cons_append]

theorem Careful.effects (careful : plan.Careful function) :
    ∀ line ∈ Script.layout 1 (plan.effects function), line.Proceeds := by
  unfold Plan.effects
  split
  · exact careful.call
  · exact List.forall_mem_singleton.mpr ⟨Line.Marked.not_returns (by decide), by decide⟩

theorem Careful.section (careful : plan.Careful function) (flush : function.Flush)
    {argument : Argument} (listed : argument ∈ function.arguments) :
    ∀ line ∈ Script.layout 1 (plan.argumentScript function argument), line.Proceeds := by
  have declared : argument.declarationLine.text ≠ "if (1) \x7b" := by
    intro same
    have ended : ';' ∈ argument.declarationLine.text.toList := by simp [Argument.declarationLine]
    rw [same] at ended
    exact absurd ended (by decide)
  intro line member
  rcases List.mem_cons.mp member with rfl | inside
  · exact ⟨Argument.not_returns_declarationLine (flush.argumentName argument listed)
      (flush.argumentType argument listed), declared⟩
  · have known := careful.passage argument listed line inside
    exact ⟨known.1.not_returns, known.2⟩

theorem Careful.sections (careful : plan.Careful function) (balanced : plan.Balanced function)
    (flush : function.Flush) :
    ∀ line ∈ Script.layout 1 (function.arguments.flatMap (plan.argumentScript function)),
      line.Proceeds := by
  rw [Script.layout_flatMap fun argument _ => balanced.argumentScript argument]
  intro line member
  obtain ⟨argument, listed, inside⟩ := List.mem_flatMap.mp member
  exact careful.section flush listed line inside

theorem Careful.decodings (careful : plan.Careful function) (balanced : plan.Balanced function)
    (flush : function.Flush) :
    Announced function.warning none (Script.layout 1 (plan.decodings function)) := by
  have stays := careful.sections balanced flush
  unfold Plan.decodings
  rw [balanced.sections.layout_append]
  apply (announced_of_not_returns (fun line member => (stays line member).stays) none).append
  split
  · trivial
  · exact function.announced_giveUpBlockLines

theorem Careful.front (careful : plan.Careful function) (balanced : plan.Balanced function)
    (flush : function.Flush) :
    Announced function.warning none (Script.layout 1 (plan.front function)) := by
  unfold Plan.front
  rw [balanced.prologue.layout_append]
  apply careful.prologue.append
  split
  · exact careful.decodings balanced flush
  · trivial

theorem front_of_undecoded (effects : function.sideEffects = true)
    (undecoded : function.arguments.all (plan.decodes function) = false) :
    plan.front function = plan.prologue function ++
      function.arguments.flatMap (plan.argumentScript function) ++ function.giveUpBlock := by
  rw [front, decodings, if_pos effects, undecoded, List.append_assoc]
  rfl

theorem Careful.not_returns_after (careful : plan.Careful function) (balanced : plan.Balanced function) :
    ∀ line ∈ (Script.code (plan.effects function)).lines 1 ++ Function.closingLines, ¬ line.Returns := by
  rw [List.forall_mem_append, ← balanced.effects.layout_eq_lines 1]
  exact ⟨fun line member => (careful.effects line member).stays, Function.not_returns_closingLines⟩

theorem Careful.effects_fall (careful : plan.Careful function) (balanced : plan.Balanced function)
    {path : List String} {ending : Ending}
    (run : (Script.code (plan.effects function)).Runs path ending) : ending = .falls := by
  apply run.falls
  exact Code.not_mem_texts_of_not_returns
    (List.forall_mem_append.mp (careful.not_returns_after balanced)).1

theorem Careful.announced_unit (careful : plan.Careful function) (balanced : plan.Balanced function)
    (flush : function.Flush) :
    Announced function.warning none (function.headingLine :: (Script.code (plan.front function)).lines 1 ++
      ((Script.code (plan.effects function)).lines 1 ++ Function.closingLines)) := by
  have before := careful.front balanced flush
  rw [balanced.front.layout_eq_lines 1] at before
  have whole := before.append (announced_of_not_returns (careful.not_returns_after balanced) none)
  exact ⟨fun returns => absurd returns function.marked_headingLine.not_returns, whole.after _⟩

theorem front_alwaysReturns (balanced : plan.Balanced function) (effects : function.sideEffects = true)
    (undecoded : function.arguments.all (plan.decodes function) = false) :
    (Script.code (plan.front function)).AlwaysReturns := by
  rw [front_of_undecoded effects undecoded, (balanced.prologue.append balanced.sections).code_append]
  exact function.giveUpBlock_alwaysReturns.after _

theorem Careful.exists_run (careful : plan.Careful function) (balanced : plan.Balanced function)
    (flush : function.Flush) :
    ∃ path, ((Script.code (plan.front function)).append (Script.code (plan.effects function))).Runs path
      (if function.sideEffects && !function.arguments.all (plan.decodes function) then .returns
        else .falls) := by
  obtain ⟨opening, opened⟩ := careful.passed
  obtain ⟨decoding, decoded⟩ := balanced.sections.exists_run (careful.sections balanced flush)
  obtain ⟨calling, called⟩ := balanced.effects.exists_run careful.effects
  cases effects : function.sideEffects with
  | false =>
      have whole : plan.front function = plan.prologue function := by simp [Plan.front, effects]
      exact ⟨_, whole ▸ opened.append called⟩
  | true =>
      cases all : function.arguments.all (plan.decodes function) with
      | true =>
          have whole : plan.front function =
              plan.prologue function ++ function.arguments.flatMap (plan.argumentScript function) := by
            simp [Plan.front, Plan.decodings, effects, all]
          have reached := opened.append decoded
          rw [← balanced.prologue.code_append, ← whole] at reached
          exact ⟨_, reached.append called⟩
      | false =>
          have given : (Script.code function.giveUpBlock).Runs _ .returns :=
            .leaveBlock (.inl rfl) (.statement function.warning_ne_return (.leave .done))
          have returned := (opened.append decoded).append given
          rw [← balanced.prologue.code_append,
            ← (balanced.prologue.append balanced.sections).code_append,
            ← front_of_undecoded effects all] at returned
          exact ⟨_, returned.append_of_returns _⟩

end Plan

end ReplayGen
