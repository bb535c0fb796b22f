import ReplayGen.Proofs.GL.Composition
import ReplayGen.Proofs.GL.Distinctive
import ReplayGen.Proofs.Replay.GivingUp

set_option autoImplicit false

namespace ReplayGen

theorem Text.Distinctive.not_returns {line : Line} (distinctive : Text.Distinctive line.text) :
    ¬ line.Returns := by
  rintro ⟨depth, same⟩
  have shown : (⟨depth, "return;"⟩ : Line).render = indentation depth ++ "return;" := rfl
  have flush : Text.unindented "return;" = "return;" := by decide
  have said : line.text = "return;" := by
    rw [← distinctive.flush, ← Text.unindented_render, same, ← shown, Text.unindented_render]
    exact flush
  apply distinctive.strange
  rw [said]
  exact Text.goesOnPlainly_literal _ (by decide)

theorem Text.Within.unforced {texts : List String} {lines : List Line} (within : Within texts lines)
    (foreign : GL.giveUpText ∉ texts) : ∀ line ∈ lines, line.text ≠ "if (1) \x7b" := by
  have distinctive := GL.distinctive_ownTexts _ GL.own_giveUpText
  have none := within.count_eq_zero distinctive foreign
  intro line member same
  have said : GL.giveUpText = line.text := same.symm
  exact List.count_eq_zero.mp none (said ▸ List.mem_map_of_mem member)

theorem Function.not_returns_callLines (function : Function) :
    ∀ line ∈ function.callLines, ¬ line.Returns := by
  have called {before : String} : (⟨1, before ++ function.callText⟩ : Line).Marked := by
    simp [Line.Marked, Line.tellingMarks, callText]
  unfold callLines
  cases function.returnType with
  | none => exact List.forall_mem_singleton.mpr (@called "").not_returns
  | some type =>
      have result : '_' ∈ (type ++ " __result;").toList := by simp
      simp only [List.forall_mem_cons]
      exact ⟨Line.not_returns result (by decide) (by decide), called.not_returns,
        Line.Marked.not_returns (by decide), List.forall_mem_nil _⟩

theorem Function.callTexts_subset_callLines (function : Function) :
    function.callTexts ⊆ function.callLines.map Line.text := by
  unfold callTexts callLines
  cases function.returnType <;> simp

theorem Function.giveUpText_not_mem_callTexts {function : Function} (worded : function.Worded) :
    GL.giveUpText ∉ function.callTexts := fun member =>
  (GL.distinctive_ownTexts _ GL.own_giveUpText).uncalled (function.callLike_callTexts worded _ member)

theorem Plan.plain_careful {function : Function} (worded : function.Worded) :
    Plan.plain.Careful function where
  prologue := trivial
  passed := ⟨[], .done⟩
  passage argument listed line member := by
    rw [argument.layout_plain_passage function] at member
    have ordinary : Text.Within [] (argument.decodingLines argument.index) := fun line inside =>
      .inl (argument.ordinary_decodingLines (worded.argumentName argument listed) _ line inside)
    exact ⟨argument.marked_decodingLines argument.index line member,
      ordinary.unforced (by simp) line member⟩
  call line member := by
    rw [show Plan.plain.call function = function.callStatement from rfl,
      function.layout_callStatement] at member
    have within : Text.Within function.callTexts function.callLines := function.mem_callLines worded
    exact ⟨function.not_returns_callLines line member,
      within.unforced (Function.giveUpText_not_mem_callTexts worded) line member⟩

end ReplayGen

namespace ReplayGen.GL

section Careful

variable {function : Function}

theorem announced_bufferCheckLines (function : Function) (buffer binding : String) :
    Announced function.warning none (bufferCheckLines function buffer binding) := by
  have check : ∀ line ∈ [(⟨2, "GLint " ++ buffer ++ " = 0;"⟩ : Line),
      ⟨2, "glGetIntegerv(" ++ binding ++ ", &" ++ buffer ++ ");"⟩,
      ⟨2, "if (!" ++ buffer ++ ") \x7b"⟩], ¬ line.Returns := by
    simp only [List.forall_mem_cons]
    refine ⟨Line.Marked.not_returns ?_, Line.Marked.not_returns ?_, Line.Marked.not_returns ?_,
      List.forall_mem_nil _⟩
    all_goals simp [Line.Marked, Line.tellingMarks]
  have closing : ∀ line ∈ [(⟨2, "\x7d"⟩ : Line)], ¬ line.Returns :=
    List.forall_mem_singleton.mpr (Line.Marked.not_returns (by decide))
  have giveUp : Announced function.warning none (function.giveUpLines 3) :=
    function.announced_giveUpLines (by omega)
  exact ((announced_of_not_returns check none).append giveUp).append
    (announced_of_not_returns closing none)

theorem announced_guardLines (function : Function) :
    Announced function.warning none (guardLines function) := by
  have opening : ∀ line ∈ [(⟨1, "if (glretrace::parser.version < 1) \x7b"⟩ : Line)], ¬ line.Returns :=
    List.forall_mem_singleton.mpr (Line.Marked.not_returns (by decide))
  have closing : ∀ line ∈ [(⟨1, "\x7d"⟩ : Line)], ¬ line.Returns :=
    List.forall_mem_singleton.mpr (Line.Marked.not_returns (by decide))
  have ifNeeded {needed : Prop} [Decidable needed] (buffer binding : String) :
      Announced function.warning none
        (if needed then bufferCheckLines function buffer binding else []) := by
    split
    · exact announced_bufferCheckLines function buffer binding
    · trivial
  unfold guardLines
  split
  · exact (((announced_of_not_returns opening none).append (ifNeeded _ _)).append
      (ifNeeded _ _)).append (announced_of_not_returns closing none)
  · trivial

theorem marked_passageLines (argument : Argument) (position : Nat) :
    ∀ line ∈ passageLines function argument position, line.Marked := by
  unfold passageLines
  split
  · exact List.forall_mem_singleton.mpr ⟨'=', by decide, by simp [blobLine]⟩
  · rw [List.forall_mem_append]
    constructor
    · split
      · decide
      · exact List.forall_mem_nil _
    · exact argument.marked_decodingLines position

theorem not_returns_wrapperLines (function : Function) :
    ∀ line ∈ wrapperLines function, ¬ line.Returns := by
  refine forall_mem_wrapperLines (fun line known => ?_) function.not_returns_callLines
  rcases known with brace | own
  · exact Line.Marked.not_returns ⟨'\x7d', by decide, by simp [brace]⟩
  · exact (distinctive_ownTexts line.text (own_of_bookkeeping own)).not_returns

theorem proceeds_wrapperLines (worded : function.Worded) :
    ∀ line ∈ wrapperLines function, line.Proceeds := by
  have foreign : giveUpText ∉ function.callTexts ++ bookkeepingTexts := by
    rw [List.mem_append, not_or]
    refine ⟨Function.giveUpText_not_mem_callTexts worded, fun bookkeeping => ?_⟩
    exact (List.nodup_append.mp nodup_ownTexts).2.2 _ (by simp [frontTexts]) _ bookkeeping rfl
  exact fun line member => ⟨not_returns_wrapperLines function line member,
    (within_wrapperLines worded).unforced foreign line member⟩

-- In a recording that is new enough the guard is passed by.
theorem exists_run_prologue (function : Function) :
    ∃ path, (Script.code (prologue function)).Runs path .falls := by
  rw [prologue_eq]
  split
  · have level := balanced_checks function
    rw [level.code_block]
    exact ⟨_, .skip (by decide) level.first_code .done _⟩
  · exact ⟨[], .done⟩

theorem careful_plan (spelled : function.Spelled) : plan.Careful function where
  prologue := by
    rw [show plan.prologue function = prologue function from rfl, layout_prologue spelled.sound]
    exact announced_guardLines function
  passed := exists_run_prologue function
  passage argument listed line member := by
    rw [layout_passage spelled.sound argument] at member
    have within := @within_passageLines function argument
      (spelled.worded.argumentName argument listed) argument.index
    exact ⟨marked_passageLines argument argument.index line member,
      within.unforced (by simp [lookupTexts, giveUpText]) line member⟩
  call line member := by
    rw [show plan.call function = call function from rfl, layout_call spelled.sound] at member
    exact proceeds_wrapperLines spelled.worded line member

end Careful

end ReplayGen.GL

namespace ReplayGen

theorem Plan.careful_of_provided {plan : Plan} (provided : plan ∈ Plan.provided)
    {function : Function} (spelled : function.Spelled) : plan.Careful function := by
  rcases Plan.eq_of_provided provided with rfl | rfl
  · exact Plan.plain_careful spelled.worded
  · exact GL.careful_plan spelled

section Front

open Text

variable {plan : Plan} {function : Function}

theorem Plan.within_sections (balanced : plan.Balanced function) (worded : function.Worded)
    (passages : ∀ argument ∈ function.arguments,
      Within GL.lookupTexts (Script.layout 1 (plan.passage function argument))) :
    Within GL.lookupTexts
      (Script.layout 1 (function.arguments.flatMap (plan.argumentScript function))) := by
  rw [Script.layout_flatMap fun argument _ => balanced.argumentScript argument]
  intro line member
  obtain ⟨argument, listed, inside⟩ := List.mem_flatMap.mp member
  rcases List.mem_cons.mp inside with rfl | inside
  · exact .inl (Argument.ordinary_declarationLine (worded.argumentName argument listed)
      (worded.argumentType argument listed))
  · exact passages argument listed line inside

theorem Plan.within_front (balanced : plan.Balanced function) (worded : function.Worded)
    (prologue : Within GL.guardTexts (Script.layout 1 (plan.prologue function)))
    (passages : ∀ argument ∈ function.arguments,
      Within GL.lookupTexts (Script.layout 1 (plan.passage function argument))) :
    Within GL.frontTexts (Script.layout 1 (plan.front function)) := by
  unfold Plan.front
  rw [balanced.prologue.layout_append]
  refine prologue.append ?_
  split
  · rw [Plan.decodings, balanced.sections.layout_append]
    refine (Plan.within_sections balanced worded passages).append ?_
    split
    · simp [Within]
    · rw [function.layout_giveUpBlock]
      exact GL.within_giveUpBlockLines function
  · simp [Within]

theorem Plan.within_front_of_provided (provided : plan ∈ Plan.provided) (spelled : function.Spelled) :
    Within GL.frontTexts (Script.layout 1 (plan.front function)) := by
  have balanced := Plan.balanced_of_provided provided function
  have worded := spelled.worded
  rcases Plan.eq_of_provided provided with rfl | rfl
  · refine Plan.within_front balanced worded (by simp [Plan.plain, Within]) fun argument listed => ?_
    rw [argument.layout_plain_passage function]
    exact fun line member => .inl
      (argument.ordinary_decodingLines (worded.argumentName argument listed) _ line member)
  · refine Plan.within_front balanced worded ?_ fun argument listed => ?_
    · rw [show GL.plan.prologue function = GL.prologue function from rfl,
        GL.layout_prologue spelled.sound]
      exact GL.within_guardLines function
    · rw [GL.layout_passage spelled.sound]
      exact GL.within_passageLines (worded.argumentName argument listed) argument.index

theorem Plan.occurrences_front (provided : plan ∈ Plan.provided) (spelled : function.Spelled)
    {text : String} (told : text ∈ function.callTexts ++ GL.bookkeepingTexts) :
    occurrences text ((Script.layout 1 (plan.front function)).map Line.render) = 0 := by
  have within := Plan.within_front_of_provided provided spelled
  have strange : ∀ other ∈ GL.frontTexts, Distinctive other := fun other known =>
    GL.distinctive_ownTexts other (List.mem_append_left _ known)
  rcases List.mem_append.mp told with call | bookkeeping
  · exact within.occurrences_call (function.callLike_callTexts spelled.worded text call)
      fun other known => (strange other known).uncalled
  · have distinctive := GL.distinctive_ownTexts text (GL.own_of_bookkeeping bookkeeping)
    rw [within.occurrences_eq distinctive fun other known => .inr (strange other known)]
    refine within.count_eq_zero distinctive fun known => ?_
    exact (List.nodup_append.mp GL.nodup_ownTexts).2.2 text known text bookkeeping rfl

theorem Plan.layout_effects_of_provided (provided : plan ∈ Plan.provided) (spelled : function.Spelled)
    (effects : function.sideEffects = true) :
    plan = Plan.plain ∧ Script.layout 1 (plan.effects function) = function.callLines ∨
      plan = GL.plan ∧ Script.layout 1 (plan.effects function) = GL.wrapperLines function := by
  rw [Plan.effects, if_pos effects]
  rcases Plan.eq_of_provided provided with rfl | rfl
  · exact .inl ⟨rfl, function.layout_callStatement⟩
  · exact .inr ⟨rfl, GL.layout_call spelled.sound⟩

end Front

/-- A run passes all lines of the call that stand in no block, or returns before the first. -/
theorem givesUp_before_effects {plan : Plan} (provided : plan ∈ Plan.provided) {function : Function}
    (spelled : function.Spelled) :
    let front := Script.code (plan.front function)
    let effects := Script.code (plan.effects function)
    let body := front.append effects
    let lines := function.headingLine :: body.lines 1 ++ Function.closingLines
    let decoded := function.arguments.all (plan.decodes function)
    plan.hooks.unitLines? function = some (lines.map Line.render) ∧
    (∀ before line after, lines = before ++ line :: after → line.Returns →
      2 ≤ line.depth ∧ (∃ earlier, before = earlier ++ [⟨line.depth, function.warning⟩]) ∧
        ∃ between, after = between ++ (effects.lines 1 ++ Function.closingLines)) ∧
    "return;" ∉ body.outermost ∧
    (∀ path ending, body.Runs path ending →
      ending = .returns ∧ front.Runs path .returns ∨
        ending = .falls ∧ ∃ before after, path = before ++ after ∧ front.Runs before .falls ∧
          effects.Runs after .falls ∧ effects.outermost.Sublist after) ∧
    (∃ path, body.Runs path (if function.sideEffects && !decoded then .returns else .falls)) ∧
    (function.sideEffects = true → decoded = false →
      (∃ earlier, front.lines 1 = earlier ++ function.giveUpBlockLines) ∧
        ∀ path ending, body.Runs path ending → ending = .returns ∧ front.Runs path .returns) ∧
    (function.sideEffects = true →
      (plan = Plan.plain ∧ effects.lines 1 = function.callLines ∨
        plan = GL.plan ∧ effects.lines 1 = GL.wrapperLines function) ∧
      ∀ text ∈ function.callTexts, text ∈ (effects.lines 1).map Line.text) ∧
    ∀ text ∈ function.callTexts ++ GL.bookkeepingTexts,
      Text.occurrences text ((front.lines 1).map Line.render) = 0 := by
  intro front effects body lines decoded
  have balanced := Plan.balanced_of_provided provided function
  have unbroken := (Plan.unbroken_of_provided provided spelled.worded.unbroken).unit
    spelled.worded.unbroken
  have careful := Plan.careful_of_provided provided spelled
  have announced := careful.announced_unit balanced spelled.flush
  have shown : lines = function.headingLine :: front.lines 1 ++
      (effects.lines 1 ++ Function.closingLines) := by
    simp [lines, body, Code.lines_append]
  rw [← shown] at announced
  refine ⟨?_, ?_, ?_, ?_, careful.exists_run balanced spelled.flush, ?_,
    fun replayed => ?_, fun text told => ?_⟩
  · rw [Plan.unitLines?_eq balanced unbroken, Plan.layout_unit_eq balanced]
  · intro before line after split returns
    obtain ⟨inner, last⟩ := announced.before split returns
    rw [Option.or_none] at last
    refine ⟨inner, List.getLast?_eq_some_iff.mp last, ?_⟩
    rw [shown] at split
    exact exists_between split fun member =>
      careful.not_returns_after balanced line member returns
  · intro outer
    have listed : ⟨1, "return;"⟩ ∈ lines := by
      simp [lines, Code.mem_lines_of_mem_outermost outer 1]
    obtain ⟨before, after, split⟩ := List.append_of_mem listed
    have deep := (announced.before split ⟨1, rfl⟩).1
    exact absurd deep (by decide)
  · intro path ending run
    rcases Code.runs_append_iff.mp run with returned | ⟨before, after, whole, fallen, later⟩
    · exact .inl returned
    · obtain rfl := careful.effects_fall balanced later
      exact .inr ⟨rfl, before, after, whole, fallen, later, later.outermost⟩
  · intro replayed undecoded
    have always := Plan.front_alwaysReturns balanced replayed undecoded
    constructor
    · have given := Plan.front_of_undecoded replayed undecoded
      have level := balanced.prologue.append balanced.sections
      rw [← balanced.front.layout_eq_lines, given, level.layout_append, function.layout_giveUpBlock]
      exact ⟨_, rfl⟩
    · intro path ending run
      rcases Code.runs_append_iff.mp run with returned | ⟨before, after, whole, fallen, later⟩
      · exact returned
      · exact absurd (always before .falls fallen) (by decide)
  · have written := Plan.layout_effects_of_provided provided spelled replayed
    rw [balanced.effects.layout_eq_lines 1] at written
    refine ⟨written, fun text call => ?_⟩
    have inside := function.callTexts_subset_callLines call
    rcases written with ⟨-, plain⟩ | ⟨-, wrapped⟩
    · rwa [plain]
    · rw [wrapped]
      simp [GL.wrapperLines, inside]
  · rw [← balanced.front.layout_eq_lines 1]
    exact Plan.occurrences_front provided spelled told

def drawSynced : Function :=
  .build "glDrawElements" [.argument "sync" "GLsync" false,
    .argument "indices" "const GLvoid *" false]

theorem givesUp_before_effects_drawSynced :
    GL.plan ∈ Plan.provided ∧ drawSynced.Spelled ∧ drawSynced.sideEffects = true ∧
      drawSynced.arguments.all (GL.plan.decodes drawSynced) = false ∧
      let front := Script.code (GL.plan.front drawSynced)
      let effects := Script.code (GL.plan.effects drawSynced)
      let body := front.append effects
      (∃ path, body.Runs path .returns) ∧
        (∀ path ending, body.Runs path ending → ending = .returns ∧ front.Runs path .returns) ∧
        "glDrawElements(sync, indices);" ∈ (effects.lines 1).map Line.text ∧
        Text.occurrences "glretrace::unsaved_draws++;" ((front.lines 1).map Line.render) = 0 := by
  have provided : GL.plan ∈ Plan.provided := by simp [Plan.provided]
  have spelled : drawSynced.Spelled := Function.build_spelled (by decide) (by decide +kernel)
  have undecoded : drawSynced.arguments.all (GL.plan.decodes drawSynced) = false := by decide +kernel
  obtain ⟨-, -, -, -, ⟨path, run⟩, givenUp, written, unsaid⟩ := givesUp_before_effects provided spelled
  rw [undecoded] at run
  refine ⟨provided, spelled, rfl, undecoded, ⟨path, run⟩, (givenUp rfl undecoded).2,
    (written rfl).2 _ (by decide +kernel), unsaid _ ?_⟩
  exact List.mem_append_right _ (by simp [GL.bookkeepingTexts])

end ReplayGen
