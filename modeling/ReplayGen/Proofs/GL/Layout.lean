import ReplayGen.Proofs.GL.Lines

set_option autoImplicit false

namespace ReplayGen.GL

section Roles

variable {function : Function}

theorem readsVertexArrays_iff (sound : function.Sound) :
    function.roles.readsVertexArrays = true ↔ ReadsVertices function.name := by
  simp [Roles.readsVertexArrays, ReadsVertices, sound.roles]

theorem readsElementArray_iff (sound : function.Sound) :
    function.roles.readsElementArray = true ↔ ReadsElements function.name := by
  simp [Roles.readsElementArray, ReadsElements, sound.roles]

theorem countsAsDraw_iff (sound : function.Sound) :
    function.roles.countsAsDraw = true ↔ CountsAsDraw function.name := by
  simp [Roles.countsAsDraw, CountsAsDraw, sound.roles, or_assoc]

theorem isBlob_iff (sound : function.Sound) (argument : Argument) :
    isBlob function argument = true ↔ PassesBlob function argument := by
  simp [isBlob, PassesBlob, sound.roles]

theorem isUniformLocation_iff (argument : Argument) :
    isUniformLocation function argument = true ↔
      LooksUpProgram function argument argument.index := by
  simp [isUniformLocation, LooksUpProgram, uniformPrefix, and_assoc]

end Roles

section Balanced

theorem balanced_requireBuffer (function : Function) (buffer binding : String) :
    Script.Balanced (requireBuffer function buffer binding) :=
  fun _ => rfl

def checks (function : Function) : Script :=
  (if function.roles.readsVertexArrays then requireArrayBuffer function else []) ++
    if function.roles.readsElementArray then requireElementBuffer function else []

theorem balanced_checks (function : Function) : Script.Balanced (checks function) :=
  .append (.ite (balanced_requireBuffer function _ _) Script.balanced_nil)
    (.ite (balanced_requireBuffer function _ _) Script.balanced_nil)

theorem prologue_eq (function : Function) :
    prologue function =
      if function.roles.readsVertexArrays || function.roles.readsElementArray then
        .openBlock "if (glretrace::parser.version < 1) \x7b" ::
          (checks function ++ [.closeBlock "\x7d"])
      else [] := by
  simp [prologue, checks, Step.begins, Step.ends]

theorem balanced_prologue (function : Function) : Script.Balanced (prologue function) := by
  rw [prologue_eq]
  exact .ite ((balanced_checks function).block _ _) Script.balanced_nil

theorem balanced_extract (function : Function) (argument : Argument) (lvalue rvalue : String) :
    Script.Balanced (extract function argument lvalue rvalue).script := by
  have plain := argument.balanced_decoding lvalue rvalue
  unfold extract
  split
  · exact fun _ => rfl
  · split
    · exact .append (fun _ => rfl) plain
    · exact plain

theorem balanced_call (function : Function) : Script.Balanced (call function) := by
  refine .append (.append (.append (.append (.append ?_ ?_) ?_) ?_) ?_) ?_
  · exact .ite (fun _ => rfl) Script.balanced_nil
  · exact .ite (fun _ => rfl) Script.balanced_nil
  · exact function.balanced_callStatement
  · exact .ite (fun _ => rfl) Script.balanced_nil
  · exact .ite (fun _ => rfl) Script.balanced_nil
  · intro depth
    split <;> rfl

theorem balanced_plan (function : Function) : plan.Balanced function where
  prologue := balanced_prologue function
  decoding argument := balanced_extract function argument _ _
  call := balanced_call function

end Balanced

section Layout

theorem layout_requireBuffer (function : Function) (buffer binding : String) :
    Script.layout 2 (requireBuffer function buffer binding) =
      bufferCheckLines function buffer binding := by
  simp [requireBuffer, bufferCheckLines, Function.giveUp, Function.giveUpLines, Script.layout,
    Step.layout, Step.depthAfter?, Step.begins, Step.ends, String.append_assoc]

theorem layout_prologue {function : Function} (sound : function.Sound) :
    Script.layout 1 (prologue function) = guardLines function := by
  have vertices : Script.Balanced
      (if function.roles.readsVertexArrays then requireArrayBuffer function else []) :=
    .ite (balanced_requireBuffer function _ _) Script.balanced_nil
  have inside : Script.layout 2 (checks function) =
      (if ReadsVertices function.name then
        bufferCheckLines function "__array_buffer" "GL_ARRAY_BUFFER_BINDING" else []) ++
      (if ReadsElements function.name then
        bufferCheckLines function "__element_array_buffer" "GL_ELEMENT_ARRAY_BUFFER_BINDING"
        else []) := by
    rw [checks, vertices.layout_append]
    simp only [apply_ite (Script.layout 2), readsVertexArrays_iff sound,
      readsElementArray_iff sound, requireArrayBuffer, requireElementBuffer, layout_requireBuffer,
      Script.layout_nil]
  rw [prologue_eq, guardLines]
  simp only [Bool.or_eq_true, readsVertexArrays_iff sound, readsElementArray_iff sound]
  split
  · rw [Script.layout_block (balanced_checks function), inside]
    simp
  · rfl

theorem passage_of_isBlob {function : Function} {argument : Argument}
    (blob : isBlob function argument = true) :
    plan.passage function argument =
      [.note (.passingBlob function.name argument.name),
        readStatement "blob" argument.name (recordedValue argument.index)] := by
  simp [Plan.passage, Plan.decodes, Plan.decoding, plan, extract, blob, Decoding.supported]

theorem passage_of_not_isBlob {function : Function} {argument : Argument}
    (plain : ¬ isBlob function argument = true) :
    plan.passage function argument =
      (if isUniformLocation function argument then lookUpProgram function else []) ++
        Plan.plain.passage function argument := by
  -- The look-up changes what is written, not whether the argument is decoded.
  have decoding : plan.decoding function argument =
      { Plan.plain.decoding function argument with
        script := (if isUniformLocation function argument then lookUpProgram function else []) ++
          (Plan.plain.decoding function argument).script } := by
    by_cases uniform : isUniformLocation function argument = true <;>
      simp [Plan.decoding, plan, Plan.plain, extract, plain, uniform]
  unfold Plan.passage Plan.decodes
  rw [decoding]
  exact List.append_assoc _ _ _

theorem layout_passage {function : Function} (sound : function.Sound) (argument : Argument) :
    Script.layout 1 (plan.passage function argument) =
      passageLines function argument argument.index := by
  unfold passageLines
  split
  next blob =>
    rw [passage_of_isBlob ((isBlob_iff sound argument).mpr blob)]
    simp [readStatement, recordedValue, Script.layout, Step.layout, Step.depthAfter?, blobLine,
      ← String.toList_inj]
  next plain =>
    have level : Script.Balanced
        (if isUniformLocation function argument then lookUpProgram function else []) :=
      .ite (fun _ => rfl) Script.balanced_nil
    rw [passage_of_not_isBlob (mt (isBlob_iff sound argument).mp plain),
      level.layout_append, argument.layout_plain_passage function]
    simp only [apply_ite (Script.layout 1), isUniformLocation_iff]
    rfl

theorem decodes_iff {function : Function} (sound : function.Sound) (argument : Argument) :
    plan.decodes function argument = true ↔
      ¬ (argument.kind = .unknown ∧ ¬ PassesBlob function argument) := by
  have plain := argument.decoding_outcome argument.name (recordedValue argument.index)
  rw [← isBlob_iff sound, ← plain]
  cases outcome : (argument.decoding argument.name (recordedValue argument.index)).outcome <;>
    by_cases blob : isBlob function argument = true <;>
    by_cases uniform : isUniformLocation function argument = true <;>
    simp [Plan.decodes, Plan.decoding, plan, extract, Decoding.supported, outcome, blob, uniform]

theorem layout_sections {function : Function} (sound : function.Sound) :
    Script.layout 1 (function.arguments.flatMap (plan.argumentScript function)) =
      sectionLines function := by
  -- A sound function knows the position of each argument, which the script reads from it.
  rw [Script.layout_flatMap fun argument _ => (balanced_plan function).argumentScript argument,
    sectionLines, sound.positions, List.flatMap_map]
  congr 1
  funext argument
  exact congrArg (argument.declarationLine :: ·) (layout_passage sound argument)

theorem layout_call {function : Function} (sound : function.Sound) :
    Script.layout 1 (call function) = wrapperLines function := by
  have grow : Script.Balanced (if function.name = viewport then growWindow else []) :=
    .ite (fun _ => rfl) Script.balanced_nil
  have clear : Script.Balanced (if function.name = endPrimitive then
      [.line "glretrace::insideGlBeginEnd = false;"] else []) :=
    .ite (fun _ => rfl) Script.balanced_nil
  have snapshot : Script.Balanced
      (if function.roles.has .bindFramebuffer then snapshotOnChange else []) :=
    .ite (fun _ => rfl) Script.balanced_nil
  have count : Script.Balanced
      (if function.roles.countsAsDraw then [.line "glretrace::unsaved_draws++;"] else []) :=
    .ite (fun _ => rfl) Script.balanced_nil
  have bound : function.roles.has .bindFramebuffer = true ↔
      function.name ∈ Role.bindFramebuffer.functions := by
    simp [sound.roles]
  have last : Script.layout 1
      [if function.name = beginPrimitive then .line "glretrace::insideGlBeginEnd = true;"
        else .line "glretrace::checkGlError();"] =
      if function.name = "glBegin" then [⟨1, "glretrace::insideGlBeginEnd = true;"⟩]
      else [⟨1, "glretrace::checkGlError();"⟩] := by
    unfold beginPrimitive
    split <;> rfl
  unfold call wrapperLines beforeCallLines afterCallLines
  simp only [List.append_assoc]
  rw [grow.layout_append, clear.layout_append, function.balanced_callStatement.layout_append,
    snapshot.layout_append, count.layout_append, function.layout_callStatement, last]
  simp only [apply_ite (Script.layout 1), bound, countsAsDraw_iff sound]
  rfl

theorem layout_afterPrologue {function : Function} (sound : function.Sound) :
    Script.layout 1 (plan.afterPrologue function) = afterGuardLines function := by
  have sections := (balanced_plan function).sections
  have undecodable : function.arguments.all (plan.decodes function) = true ↔
      ¬ Undecodable function := by
    simp only [List.all_eq_true, decodes_iff sound, Undecodable]
    grind
  have decodings : Script.layout 1 (plan.decodings function) =
      sectionLines function ++ giveUpIfUndecodable function := by
    unfold Plan.decodings giveUpIfUndecodable
    rw [sections.layout_append, layout_sections sound]
    simp only [undecodable]
    by_cases given : Undecodable function <;> simp [given, Function.layout_giveUpBlock]
  unfold Plan.afterPrologue afterGuardLines
  split
  · rw [(balanced_plan function).decodings.layout_append, decodings]
    exact congrArg _ (layout_call sound)
  · rfl

end Layout

section Steps

variable {function : Function} {holds : Step → Prop}

theorem forall_mem_prologue (opens : holds (.openBlock "if (glretrace::parser.version < 1) \x7b"))
    (array : ∀ step ∈ requireArrayBuffer function, holds step)
    (elements : ∀ step ∈ requireElementBuffer function, holds step)
    (closes : holds (.closeBlock "\x7d")) : ∀ step ∈ prologue function, holds step := by
  have inside : ∀ step ∈ checks function, holds step := by
    unfold checks
    rw [List.forall_mem_append]
    constructor
    · split
      · exact array
      · simp
    · split
      · exact elements
      · simp
  rw [prologue_eq]
  split
  · rw [List.forall_mem_cons, List.forall_mem_append, List.forall_mem_singleton]
    exact ⟨opens, inside, closes⟩
  · simp

theorem forall_mem_extract {argument : Argument} {lvalue rvalue : String}
    (passing : holds (.note (.passingBlob function.name argument.name)))
    (blob : holds (readStatement "blob" lvalue rvalue))
    (lookUp : ∀ step ∈ lookUpProgram function, holds step)
    (plain : ∀ step ∈ (argument.decoding lvalue rvalue).script, holds step) :
    ∀ step ∈ (extract function argument lvalue rvalue).script, holds step := by
  unfold extract
  split
  · exact List.forall_mem_cons.mpr ⟨passing, List.forall_mem_singleton.mpr blob⟩
  · split
    · exact List.forall_mem_append.mpr ⟨lookUp, plain⟩
    · exact plain

def singleTexts : List String :=
  ["glretrace::insideGlBeginEnd = false;", "glretrace::unsaved_draws++;",
    "glretrace::insideGlBeginEnd = true;", "glretrace::checkGlError();"]

theorem forall_mem_call (grow : ∀ step ∈ growWindow, holds step)
    (snapshot : ∀ step ∈ snapshotOnChange, holds step)
    (alone : ∀ text ∈ singleTexts, holds (.line text))
    (statement : ∀ step ∈ function.callStatement, holds step) :
    ∀ step ∈ call function, holds step := by
  unfold call
  simp only [List.forall_mem_append]
  refine ⟨⟨⟨⟨⟨?_, ?_⟩, statement⟩, ?_⟩, ?_⟩, ?_⟩
  · split
    · exact grow
    · simp
  · split
    · exact List.forall_mem_singleton.mpr (alone _ (by simp [singleTexts]))
    · simp
  · split
    · exact snapshot
    · simp
  · split
    · exact List.forall_mem_singleton.mpr (alone _ (by simp [singleTexts]))
    · simp
  · rw [List.forall_mem_singleton]
    split <;> exact alone _ (by simp [singleTexts])

end Steps

section Unit

variable {function : Function}

theorem unbroken_requireBuffer (unbroken : function.Unbroken) {buffer binding : String}
    (bufferUnbroken : '\n' ∉ buffer.toList) (bindingUnbroken : '\n' ∉ binding.toList) :
    Script.Unbroken (requireBuffer function buffer binding) := by
  simp [requireBuffer, Step.begins, Step.ends, Step.Unbroken, Function.unbroken_giveUp unbroken,
    bufferUnbroken, bindingUnbroken]

theorem unbroken_prologue (unbroken : function.Unbroken) : Script.Unbroken (prologue function) := by
  refine forall_mem_prologue ?_ ?_ ?_ ?_
  · exact Text.unbroken_literal _ (by decide)
  · exact unbroken_requireBuffer unbroken (Text.unbroken_literal _ (by decide))
      (Text.unbroken_literal _ (by decide))
  · exact unbroken_requireBuffer unbroken (Text.unbroken_literal _ (by decide))
      (Text.unbroken_literal _ (by decide))
  · exact Text.unbroken_literal _ (by decide)

theorem unbroken_extract {argument : Argument} (name : '\n' ∉ argument.name.toList)
    (type : '\n' ∉ argument.type.toList) :
    Script.Unbroken
      (extract function argument argument.name (recordedValue argument.index)).script := by
  have position : '\n' ∉ Nat.toDigits 10 argument.index := fun member =>
    Text.not_mark_of_mem_toDigits member (by decide)
  have blob : (readStatement "blob" argument.name (recordedValue argument.index)).Unbroken := by
    simp [readStatement, recordedValue, Step.Unbroken, name, position]
  have lookUp : Script.Unbroken (lookUpProgram function) := by
    simp [lookUpProgram, Step.Unbroken]
  exact forall_mem_extract trivial blob lookUp (Argument.unbroken_decoding name type)

theorem unbroken_bookkeeping : Script.Unbroken (growWindow ++ snapshotOnChange) := by
  simp only [growWindow, snapshotOnChange, Step.begins, Step.ends, Script.unbroken_append,
    Script.unbroken_cons, Script.unbroken_nil, Step.Unbroken, String.toList_append, List.mem_append,
    not_or, and_true]
  repeat' apply And.intro
  all_goals exact Text.unbroken_literal _ (by decide)

theorem unbroken_call (unbroken : function.Unbroken) : Script.Unbroken (call function) := by
  obtain ⟨grow, snapshot⟩ := (Script.unbroken_append _ _).mp unbroken_bookkeeping
  have alone : ∀ text ∈ singleTexts, (Step.line text).Unbroken := by
    simp [singleTexts, Step.Unbroken]
  exact forall_mem_call grow snapshot alone (Function.unbroken_callStatement unbroken)

theorem unbroken_plan (unbroken : function.Unbroken) : plan.Unbroken function where
  prologue := unbroken_prologue unbroken
  decoding argument member :=
    unbroken_extract (unbroken.argumentName argument member)
      (unbroken.argumentType argument member)
  call := unbroken_call unbroken

def unguardedPlan : Plan :=
  { plan with prologue := fun _ => [] }

theorem layout_unit_eq_unitLines (sound : function.Sound) :
    Script.layout 0 (plan.unit function) = unitLines function := by
  rw [Plan.layout_unit (balanced_plan function), layout_afterPrologue sound]
  rw [show plan.prologue function = prologue function from rfl, layout_prologue sound]
  rfl

theorem unitLines?_plan (spelled : function.Spelled) :
    plan.hooks.unitLines? function = some ((unitLines function).map Line.render) := by
  rw [Plan.unitLines?_eq (balanced_plan function)
      ((unbroken_plan spelled.worded.unbroken).unit spelled.worded.unbroken),
    layout_unit_eq_unitLines spelled.sound]

theorem unitLines?_unguardedPlan (spelled : function.Spelled) :
    unguardedPlan.hooks.unitLines? function =
      some ((unguardedLines function).map Line.render) := by
  have balanced : unguardedPlan.Balanced function :=
    { balanced_plan function with prologue := Script.balanced_nil }
  have unbroken : unguardedPlan.Unbroken function :=
    { unbroken_plan spelled.worded.unbroken with prologue := Script.unbroken_nil }
  have rest : Script.layout 1 (unguardedPlan.afterPrologue function) = afterGuardLines function :=
    layout_afterPrologue spelled.sound
  rw [Plan.unitLines?_eq balanced (unbroken.unit spelled.worded.unbroken), Plan.layout_unit balanced, rest]
  rfl

end Unit

end ReplayGen.GL
