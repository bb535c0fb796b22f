import ReplayGen.Proofs.GL.BlobLines
import ReplayGen.Proofs.GL.GivingUp
import ReplayGen.Proofs.Replay.Passing

set_option autoImplicit false

namespace ReplayGen.GL

open Text

variable {function : Function}

theorem assigns_blobLine (argument : Argument) (position : Nat) :
    assigns argument.name (blobLine argument position).text = true := by
  simp [assigns, blobLine]

theorem mentions_blobLine {argument : Argument} (name : Wordy argument.name) (position other : Nat) :
    mentions (recordedValue position) ([blobLine argument other].map Line.render) =
      if position = other then 1 else 0 := by
  have opened : '.' ∉ (argument.name ++ " = (").toList := by
    simp [name.dotless]
  have read := @found_reading position _ "blob();" opened other (by decide)
  rw [mentions_render]
  simpa [blobLine, recordedValue, String.append_assoc] using read

theorem aside_guardLines (worded : function.Worded) : ∀ line ∈ guardLines function, line.Aside := by
  have guard (position : Nat) : found (recordedValue position).toList guardText.toList = 0 := by
    have split : guardText = "if (glretrace::" ++ "parser" ++ ("." ++ "version < 1) \x7b") := by
      simp [guardText]
    rw [split]
    exact found_member position "parser" (by simp) (by simp) (by simp)
  have checks : ∀ text ∈ arrayCheckTexts ++ elementCheckTexts, '.' ∉ text.toList := by
    simp only [arrayCheckTexts, elementCheckTexts, List.cons_append, List.nil_append, List.forall_mem_cons]
    repeat' apply And.intro
    all_goals first
      | exact List.forall_mem_nil _
      | exact dotless_literal _ (by decide)
  intro line member
  rcases mem_guardLines member with giveUp | known
  · exact function.aside_giveUpTexts worded giveUp
  · refine ⟨(distinctive_ownTexts _ (own_of_guard known)).uncalled, fun position => ?_⟩
    rcases List.mem_cons.mp known with same | check
    · rw [same]
      exact guard position
    · exact found_recordedValue_eq_zero position (checks line.text check)

theorem marked_guardLines (function : Function) :
    ∀ line ∈ guardLines function, 2 ≤ line.depth ∨ line.Marked := by
  have check (buffer binding : String) :
      ∀ line ∈ bufferCheckLines function buffer binding, 2 ≤ line.depth := by
    simp [bufferCheckLines, Function.giveUpLines]
  intro line member
  unfold guardLines at member
  split at member
  · simp only [List.mem_append, List.mem_singleton, List.mem_ite_nil_right, or_assoc] at member
    rcases member with rfl | ⟨-, inside⟩ | ⟨-, inside⟩ | rfl
    · exact .inr (by decide)
    · exact .inl (check _ _ line inside)
    · exact .inl (check _ _ line inside)
    · exact .inr (by decide)
  · simp at member

theorem unread_bookkeepingTexts (position : Nat) :
    ∀ text ∈ bookkeepingTexts, found (recordedValue position).toList text.toList = 0 := by
  have others : ∀ text ∈ bookkeepingTexts, '.' ∉ text.toList ∨ text = "glretrace::snapshot(call.no);" := by
    simp only [bookkeepingTexts, growWindowTexts, snapshotTexts, List.cons_append, List.nil_append,
      List.forall_mem_cons]
    repeat' apply And.intro
    all_goals first
      | exact List.forall_mem_nil _
      | exact .inl (dotless_literal _ (by decide))
      | exact .inr trivial
  -- The snapshot reads the number of the call.
  have snapshot : found (recordedValue position).toList "glretrace::snapshot(call.no);".toList = 0 := by
    have split : "glretrace::snapshot(call.no);".toList =
        "glretrace::snapshot(call".toList ++ '.' :: "no);".toList := by simp
    rw [split, recordedValue_toList, found_marked (by simp) (by simp) (by simp),
      found_eq_zero (by simp), if_neg]
    rintro ⟨-, read⟩
    simp at read
  intro text member
  rcases others text member with dotless | rfl
  · exact found_recordedValue_eq_zero position dotless
  · exact snapshot

theorem aside_bookkeeping {line : Line} (known : line.text = "\x7d" ∨ line.text ∈ bookkeepingTexts) :
    line.Aside := by
  rcases known with brace | own
  · apply Line.aside_of_dotless <;> rw [brace]
    · exact fun called => absurd called.1 (by decide)
    · decide
  · exact ⟨(distinctive_ownTexts _ (own_of_bookkeeping own)).uncalled, fun position =>
      unread_bookkeepingTexts position _ own⟩

end ReplayGen.GL

namespace ReplayGen

open Text

namespace Plan

variable {plan : Plan} {function : Function}

theorem plain_decodes (function : Function) (argument : Argument) :
    Plan.plain.decodes function argument = decide (argument.kind ≠ .unknown) := by
  have outcome := argument.decoding_outcome argument.name (recordedValue argument.index)
  rw [decodes, decoding, Plan.plain]
  simp only [ne_eq, ← outcome]
  cases (argument.decoding argument.name (recordedValue argument.index)).outcome <;> rfl

theorem passage_of_provided (provided : plan ∈ Plan.provided) (sound : function.Sound)
    (argument : Argument) :
    (plan.passage function argument = [.note (.passingBlob function.name argument.name),
        .line (GL.blobLine argument argument.index).text] ∧
      plan.decodes function argument = true) ∨
    ∃ lookUp, (lookUp = [] ∨ lookUp = GL.lookUpProgram function ∧ argument.name = "location") ∧
      plan.passage function argument = lookUp ++ Plan.plain.passage function argument ∧
      plan.decodes function argument = decide (argument.kind ≠ .unknown) := by
  rcases Plan.eq_of_provided provided with rfl | rfl
  · exact .inr ⟨[], .inl rfl, rfl, plain_decodes function argument⟩
  · have decodes := GL.decodes_iff sound argument
    by_cases blob : GL.isBlob function argument = true
    · have passes := (GL.isBlob_iff sound argument).mp blob
      have line : readStatement "blob" argument.name (recordedValue argument.index) =
          .line (GL.blobLine argument argument.index).text := by
        simp [readStatement, recordedValue, GL.blobLine, ← String.toList_inj]
      exact .inl ⟨line ▸ GL.passage_of_isBlob blob, decodes.mpr fun plain => plain.2 passes⟩
    · have plain := mt (GL.isBlob_iff sound argument).mpr blob
      refine .inr ⟨_, ?_, GL.passage_of_not_isBlob blob, ?_⟩
      · split
        next uniform => exact .inr ⟨rfl, ((GL.isUniformLocation_iff argument).mp uniform).2.2⟩
        next => exact .inl rfl
      · rw [Bool.eq_iff_iff, decodes, decide_eq_true_eq]
        exact ⟨fun other unknown => other ⟨unknown, plain⟩, fun known both => known both.1⟩

section Section

variable {argument : Argument}

theorem code_of_blob {passage : Script}
    (blob : passage = [.note (.passingBlob function.name argument.name),
      .line (GL.blobLine argument argument.index).text]) :
    Script.code passage = .statement (GL.blobLine argument argument.index).text .done ∧
      Script.layout 1 passage = [GL.blobLine argument argument.index] := by
  subst blob
  exact ⟨rfl, rfl⟩

theorem passes_lookUp {lookUp : Script} (known : lookUp = [] ∨
      lookUp = GL.lookUpProgram function ∧ argument.name = "location") :
    Script.Balanced lookUp ∧ (∀ text ∈ (Script.code lookUp).texts, assigns argument.name text = false) ∧
      ∀ line ∈ Script.layout 1 lookUp, '.' ∉ line.text.toList := by
  rcases known with rfl | ⟨rfl, name⟩
  · simp [Code.texts, Script.code, Reading.code, Script.balanced_nil]
  · rw [name]
    refine ⟨fun _ => rfl, ?_, ?_⟩
    · show ∀ text ∈ GL.lookupTexts, assigns "location" text = false
      simp [GL.lookupTexts, assigns, List.isPrefixOf]
    · show ∀ line ∈ GL.lookupLines, '.' ∉ line.text.toList
      simp [GL.lookupLines]

theorem section_of_provided (provided : plan ∈ Plan.provided) (spelled : function.Spelled)
    (listed : argument ∈ function.arguments) :
    Section argument argument.index (plan.decodes function argument)
      (Script.code (plan.argumentScript function argument)) := by
  have name := spelled.worded.argumentName argument listed
  have type := spelled.worded.argumentType argument listed
  have proceeds := (careful_of_provided provided spelled).section spelled.flush listed
  have balanced := (balanced_of_provided provided function).passage argument
  rcases passage_of_provided provided spelled.sound argument with
    ⟨blob, decodes⟩ | ⟨lookUp, known, passage, decodes⟩
  · obtain ⟨read, layout⟩ := code_of_blob blob
    have passes := passes_assignment (GL.assigns_blobLine argument argument.index)
    rw [← read] at passes
    refine section_of_passage balanced name type proceeds passes fun other => ?_
    rw [layout, GL.mentions_blobLine name, decodes]
    simp
  · obtain ⟨level, silent, dotless⟩ := passes_lookUp known
    have passes := (Code.passes_zero silent).append (Argument.passes_plain_passage name function)
    rw [← level.code_append, ← passage, Nat.zero_add] at passes
    refine section_of_passage balanced name type proceeds passes fun other => ?_
    have unread : mentions (recordedValue other) ((Script.layout 1 lookUp).map Line.render) = 0 :=
      mentions_eq_zero fun line member => found_recordedValue_eq_zero other (dotless line member)
    rw [passage, level.layout_append, List.map_append, mentions_append, unread,
      argument.layout_plain_passage function, Argument.mentions_decodingLines name type, decodes]
    simp

theorem count_assigns_of_provided (provided : plan ∈ Plan.provided) (spelled : function.Spelled)
    (listed : argument ∈ function.arguments) :
    (Script.code (plan.argumentScript function argument)).texts.countP (assigns argument.name) =
      if argument.kind.isArray = true ∧ GL.blobLine argument argument.index ∉
        (Script.code (plan.argumentScript function argument)).lines 1 then 2 else 1 := by
  have name := spelled.worded.argumentName argument listed
  have type := spelled.worded.argumentType argument listed
  have read : Script.code (plan.argumentScript function argument) = _ :=
    code_section argument (plan.passage function argument)
  have balanced := (balanced_of_provided provided function).passage argument
  rw [read, Code.texts, List.countP_cons, Argument.not_assigns_declaration name type, Code.lines,
    ← balanced.layout_eq_lines 1]
  rcases passage_of_provided provided spelled.sound argument with
    ⟨blob, -⟩ | ⟨lookUp, known, passage, -⟩
  · obtain ⟨one, layout⟩ := code_of_blob blob
    rw [one, count_assignment (GL.assigns_blobLine argument argument.index), layout]
    simp
  · obtain ⟨level, silent, dotless⟩ := passes_lookUp known
    have none : (Script.code lookUp).texts.countP (assigns argument.name) = 0 := by
      rw [List.countP_eq_zero]
      exact fun text member => by simp [silent text member]
    have passed := GL.passesBlobLine_blobLine argument argument.index
    have apart : GL.blobLine argument argument.index ∉
        argument.declarationLine :: Script.layout 1 (plan.passage function argument) := by
      rw [passage, level.layout_append, argument.layout_plain_passage function]
      simp only [List.mem_cons, List.mem_append, not_or]
      refine ⟨fun same => ?_, fun member => ?_, fun member => ?_⟩
      · exact GL.not_passesBlobLine_declarationLine name type (same ▸ passed)
      · exact GL.not_passesBlobLine_of_dotless (dotless _ member) passed
      · exact GL.not_passesBlobLine_decodingLines argument _ _ member passed
    have missing : (⟨1, argument.declarationLine.text⟩ : Line) = argument.declarationLine := rfl
    rw [missing, passage, level.code_append, Code.texts_append, List.countP_append, none,
      Argument.count_plain_passage name function, ← passage]
    simp [apart]

end Section

theorem plain_sectioned (spelled : function.Spelled) : Plan.plain.Sectioned function where
  prologue := List.forall_mem_nil _
  passage argument listed line member := by
    rw [argument.layout_plain_passage function] at member
    exact (argument.ordinary_decodingLines (spelled.worded.argumentName argument listed) _ line
      member).uncalled
  sections _ listed := section_of_provided (by simp [Plan.provided]) spelled listed
  call := ⟨[], [], by simp [plain, function.layout_callStatement], by simp⟩

theorem gl_sectioned (spelled : function.Spelled) : GL.plan.Sectioned function where
  prologue line member := by
    rw [show GL.plan.prologue function = GL.prologue function from rfl,
      GL.layout_prologue spelled.sound] at member
    exact ⟨GL.aside_guardLines spelled.worded line member, GL.marked_guardLines function line member⟩
  passage argument listed line member := by
    rw [GL.layout_passage spelled.sound argument] at member
    rcases GL.within_passageLines (spelled.worded.argumentName argument listed) _ line member with
      ordinary | lookUp
    · exact ordinary.uncalled
    · exact (GL.distinctive_ownTexts _ (GL.own_of_lookup lookUp)).uncalled
  sections _ listed := section_of_provided (by simp [Plan.provided]) spelled listed
  call := by
    refine ⟨_, _, GL.layout_call spelled.sound, ?_⟩
    rw [List.forall_mem_append]
    exact ⟨fun _ before => GL.aside_bookkeeping (GL.mem_beforeCallLines before),
      fun _ after => GL.aside_bookkeeping (GL.mem_afterCallLines after)⟩

theorem sectioned_of_provided (provided : plan ∈ Plan.provided) (spelled : function.Spelled) :
    plan.Sectioned function := by
  rcases Plan.eq_of_provided provided with rfl | rfl
  · exact plain_sectioned spelled
  · exact gl_sectioned spelled

end Plan

theorem arguments_decoded_and_passed {plan : Plan} (provided : plan ∈ Plan.provided)
    {function : Function} (spelled : function.Spelled) (effects : function.sideEffects = true)
    (distinct : function.argumentNames.Nodup) :
    let code (argument : Argument) := Script.code (plan.argumentScript function argument)
    let sections := function.arguments.flatMap fun argument => (code argument).lines 1
    let front := Script.layout 1 (plan.prologue function) ++ sections ++
      if function.arguments.all (plan.decodes function) then [] else function.giveUpBlockLines
    let called := Script.layout 1 (plan.call function)
    let lines := (function.headingLine :: (front ++ called ++ Function.closingLines)).map Line.render
    let call := (if function.returnType.isSome then "__result = " else "") ++ function.name ++ "(" ++
      ", ".intercalate function.argumentNames ++ ");"
    plan.hooks.unitLines? function = some lines ∧
    (∀ position argument, function.arguments[position]? = some argument →
      Section argument position (plan.decodes function argument) (code argument) ∧
      (code argument).texts.countP (assigns argument.name) =
        (if argument.kind.isArray = true ∧ GL.blobLine argument position ∉ (code argument).lines 1
          then 2 else 1) ∧
      front.count argument.declarationLine = 1) ∧
    (∀ position, mentions (recordedValue position) lines =
      if function.arguments[position]?.any (plan.decodes function) then 1 else 0) ∧
    ⟨1, call⟩ ∈ called ∧ occurrences call lines = 1 := by
  intro code sections front called lines call
  have balanced := Plan.balanced_of_provided provided function
  have unbroken := (Plan.unbroken_of_provided provided spelled.worded.unbroken).unit
    spelled.worded.unbroken
  have careful := Plan.careful_of_provided provided spelled
  have sectioned := Plan.sectioned_of_provided provided spelled
  have layout : (Script.layout 0 (plan.unit function)).map Line.render = lines :=
    congrArg (List.map Line.render) (Plan.layout_unit_of_effects balanced effects)
  have names : ∀ argument ∈ function.arguments, ' ' ∉ argument.name.toList := fun argument listed =>
    not_mem_space_of_isIdentifier (spelled.flush.argumentName argument listed)
  refine ⟨?_, ?_, ?_, ?_, ?_⟩
  · rw [Plan.unitLines?_eq balanced unbroken, layout]
  · intro position argument placed
    obtain ⟨listed, rfl⟩ := spelled.sound.getElem?_iff.mp placed
    exact ⟨Plan.section_of_provided provided spelled listed,
      Plan.count_assigns_of_provided provided spelled listed,
      sectioned.count_declarationLine balanced spelled.worded careful spelled.sound names distinct listed⟩
  · intro position
    rw [← layout]
    exact sectioned.mentions_unit balanced spelled.worded spelled.sound effects position
  · obtain ⟨before, after, whole, -⟩ := sectioned.call
    have member := function.callingText_mem_callLines
    rw [show called = before ++ function.callLines ++ after from whole]
    exact List.mem_append_left _ (List.mem_append_right _ member)
  · rw [← layout]
    exact sectioned.occurrences_callingText balanced spelled.worded spelled effects

def drawBuffersSynced : Function :=
  .build "glDrawBuffers" [.argument "n" "GLsizei" false, .argument "bufs" "const GLenum *" true,
    .argument "sync" "GLsync" false]

theorem arguments_decoded_and_passed_drawBuffersSynced :
    GL.plan ∈ Plan.provided ∧ drawBuffersSynced.Spelled ∧ drawBuffersSynced.sideEffects = true ∧
      drawBuffersSynced.argumentNames.Nodup ∧
      ∃ lines, GL.plan.hooks.unitLines? drawBuffersSynced = some lines ∧
        (∀ argument ∈ drawBuffersSynced.arguments,
          ∃ path, (Script.code (GL.plan.argumentScript drawBuffersSynced argument)).Runs path .falls ∧
            path.countP (assigns argument.name) = 1) ∧
        mentions (recordedValue 0) lines = 1 ∧ mentions (recordedValue 1) lines = 1 ∧
        mentions (recordedValue 2) lines = 0 ∧ mentions (recordedValue 3) lines = 0 ∧
        occurrences "glDrawBuffers(n, bufs, sync);" lines = 1 := by
  have provided : GL.plan ∈ Plan.provided := by simp [Plan.provided]
  have spelled : drawBuffersSynced.Spelled := Function.build_spelled (by decide) (by decide +kernel)
  have distinct : drawBuffersSynced.argumentNames.Nodup := by decide +kernel
  obtain ⟨written, sections, reads, -, passed⟩ :=
    arguments_decoded_and_passed provided spelled rfl distinct
  refine ⟨provided, spelled, rfl, distinct, _, written, ?_, ?_, ?_, ?_, ?_, ?_⟩
  · intro argument listed
    obtain ⟨position, placed⟩ := List.getElem?_of_mem listed
    obtain ⟨path, run⟩ := (sections position argument placed).1.runs
    exact ⟨path, run, ((sections position argument placed).1.assigned path .falls run).2⟩
  · rw [reads]
    decide +kernel
  · rw [reads]
    decide +kernel
  · rw [reads]
    decide +kernel
  · rw [reads]
    decide +kernel
  · exact passed

end ReplayGen
