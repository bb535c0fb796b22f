import ReplayGen.Proofs.GL.Layout

set_option autoImplicit false

namespace ReplayGen.GL

structure PlainName (name : String) : Prop where
  noRole : ∀ role : Role, name ∉ role.functions
  notViewport : name ≠ "glViewport"
  notBegin : name ≠ "glBegin"
  notEnd : name ≠ "glEnd"
  notUniform : ¬ "glUniform".toList <+: name.toList

section Scripts

variable {function : Function}

theorem prologue_of_plainName (sound : function.Sound) (plainName : PlainName function.name) :
    prologue function = [] := by
  have vertices : ¬ ReadsVertices function.name := fun reads =>
    reads.elim (plainName.noRole .arrayPointer) (plainName.noRole .drawArrays)
  have elements : ¬ ReadsElements function.name := plainName.noRole .drawElements
  rw [← readsVertexArrays_iff sound] at vertices
  rw [← readsElementArray_iff sound] at elements
  simp [prologue_eq, vertices, elements]

theorem decoding_of_plainName (sound : function.Sound) (plainName : PlainName function.name)
    (argument : Argument) : plan.decoding function argument = Plan.plain.decoding function argument := by
  have blob : ¬ isBlob function argument = true := by
    rw [isBlob_iff sound]
    exact fun passes => passes.elim (fun named => plainName.noRole .arrayPointer named.1)
      fun named => plainName.noRole .drawElements named.1
  have uniform : ¬ isUniformLocation function argument = true := by
    rw [isUniformLocation_iff]
    exact fun looksUp => plainName.notUniform looksUp.1
  simp [Plan.decoding, plan, extract, blob, uniform, Plan.plain]

theorem decodings_of_plainName (sound : function.Sound) (plainName : PlainName function.name) :
    plan.decodings function = Plan.plain.decodings function := by
  have decoding : plan.decoding function = Plan.plain.decoding function :=
    funext (decoding_of_plainName sound plainName)
  have decodes : plan.decodes function = Plan.plain.decodes function := by
    funext argument
    rw [Plan.decodes, decoding, Plan.decodes]
  have arguments : plan.argumentScript function = Plan.plain.argumentScript function := by
    funext argument
    rw [Plan.argumentScript, Plan.passage, decoding, decodes, Plan.argumentScript, Plan.passage]
  rw [Plan.decodings, arguments, decodes, Plan.decodings]

theorem call_of_plainName (sound : function.Sound) (plainName : PlainName function.name) :
    call function = function.callStatement ++ [.line "glretrace::checkGlError();"] := by
  have binds : function.roles.has .bindFramebuffer = false := by
    simpa [sound.roles] using plainName.noRole .bindFramebuffer
  have draws : ¬ CountsAsDraw function.name := fun counts =>
    counts.elim (plainName.noRole .drawArrays) fun others =>
      others.elim (plainName.noRole .drawElements) (plainName.noRole .miscDraw)
  rw [← countsAsDraw_iff sound] at draws
  simp [call, viewport, beginPrimitive, endPrimitive, plainName.notViewport, plainName.notBegin,
    plainName.notEnd, binds, draws]

def errorCheck (function : Function) : Script :=
  if function.sideEffects then [.line "glretrace::checkGlError();"] else []

theorem body_of_plainName (sound : function.Sound) (plainName : PlainName function.name) :
    plan.body function = Plan.plain.body function ++ errorCheck function := by
  have prologue : plan.prologue function = [] := prologue_of_plainName sound plainName
  have call : plan.call function = function.callStatement ++ _ :=
    call_of_plainName sound plainName
  unfold Plan.body Plan.afterPrologue errorCheck
  rw [prologue, call, decodings_of_plainName sound plainName]
  split <;> simp [Plan.plain]

end Scripts

theorem plan_conservative {name : String} (plainName : PlainName name) (steps : List BuildStep)
    (draft : Draft) :
    ∃ plainDraft glDraft front,
      Plan.plain.hooks.function (.build name steps) draft = .ok () plainDraft ∧
      plan.hooks.function (.build name steps) draft = .ok () glDraft ∧
      plainDraft.text = draft.text ++ front ++
        (indentedLine draft.depth "\x7d" ++ indentedLine draft.depth "") ∧
      glDraft.text = draft.text ++ front ++
        (if (Function.build name steps).sideEffects then
          indentedLine (draft.depth + 1) "glretrace::checkGlError();" else "") ++
        (indentedLine draft.depth "\x7d" ++ indentedLine draft.depth "") ∧
      glDraft.depth = plainDraft.depth ∧ glDraft.log = plainDraft.log := by
  have sound := Function.build_sound name steps
  have named : PlainName (Function.build name steps).name := by
    rwa [Function.build_name]
  generalize Function.build name steps = function at sound named
  have plainBalanced := (Plan.plain_balanced function).body
  have glBalanced := (balanced_plan function).body
  have bodies := body_of_plainName sound named
  have checked (depth : Nat) : Script.written depth (errorCheck function) =
      if function.sideEffects then indentedLine depth "glretrace::checkGlError();" else "" := by
    unfold errorCheck
    split <;> simp [Script.written, Step.written]
  have silent : Script.events (errorCheck function) = [] := by
    unfold errorCheck
    split <;> rfl
  refine ⟨_, _, Script.written draft.depth function.heading ++
      Script.written (draft.depth + 1) (Plan.plain.body function),
    Plan.hooks_function plainBalanced draft, Plan.hooks_function glBalanced draft, ?_, ?_, rfl, ?_⟩
  · simp only [Draft.extended, Plan.written_unit plainBalanced, String.append_assoc]
  · simp only [Draft.extended, Plan.written_unit glBalanced, bodies,
      Script.written_append (plainBalanced (draft.depth + 1)), checked, String.append_assoc]
  · simp [Draft.extended, Plan.unit, bodies, silent]

theorem plan_conservative_waitSync :
    PlainName "glWaitSync" ∧
      ∃ plainDraft glDraft front,
        Plan.plain.hooks.function (.build "glWaitSync" [.argument "sync" "GLsync" false])
          { depth := 2 } = .ok () plainDraft ∧
        plan.hooks.function (.build "glWaitSync" [.argument "sync" "GLsync" false])
          { depth := 2 } = .ok () glDraft ∧
        plainDraft.text = front ++ "        \x7d\n\n" ∧
        glDraft.text =
          front ++ "            glretrace::checkGlError();\n" ++ "        \x7d\n\n" ∧
        glDraft.log = plainDraft.log := by
  have plainName : PlainName "glWaitSync" := by
    refine ⟨fun role => ?_, by decide, by decide, by decide, by decide⟩
    cases role <;> simp [Role.functions]
  have effects : (Function.build "glWaitSync" [.argument "sync" "GLsync" false]).sideEffects =
      true := rfl
  obtain ⟨plainDraft, glDraft, front, plainRun, glRun, plainText, glText, -, log⟩ :=
    plan_conservative plainName [.argument "sync" "GLsync" false] { depth := 2 }
  refine ⟨plainName, plainDraft, glDraft, front, plainRun, glRun, ?_, ?_, log⟩
  · rw [plainText]
    simp [indentedLine, indentation]
  · rw [glText, if_pos effects]
    simp [indentedLine, indentation]

end ReplayGen.GL
