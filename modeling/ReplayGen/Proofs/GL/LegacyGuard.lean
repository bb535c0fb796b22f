import ReplayGen.Proofs.GL.Layout
import ReplayGen.Proofs.GL.Distinctive

set_option autoImplicit false

namespace ReplayGen.GL

open Text

section Guard

variable {function : Function}

theorem not_readsVertices_of_readsElements {name : String} (elements : ReadsElements name) :
    ¬ ReadsVertices name :=
  fun vertices => vertices.elim (not_mem_of_mem_drawElements elements).1
    (not_mem_of_mem_drawElements elements).2

theorem count_bufferCheckLines (function : Function) (buffer binding : String) {text : String}
    (distinctive : Distinctive text) :
    ((bufferCheckLines function buffer binding).map Line.text).count text =
      (bufferCheckTexts buffer binding).count text := by
  have none := (within_giveUpLines function 3 2).count_eq_zero distinctive (by simp)
  rw [bufferCheckLines, List.append_assoc, List.map_append, List.count_append, none]
  rfl

theorem count_guardLines (function : Function) {text : String} (guard : text ∈ guardTexts) :
    ((guardLines function).map Line.text).count text =
      (if ReadsVertices function.name ∨ ReadsElements function.name then [guardText].count text
        else 0) +
      (if ReadsVertices function.name then arrayCheckTexts.count text else 0) +
      (if ReadsElements function.name then elementCheckTexts.count text else 0) := by
  have distinctive := distinctive_ownTexts text (own_of_guard guard)
  have array := count_bufferCheckLines function "__array_buffer" "GL_ARRAY_BUFFER_BINDING"
    distinctive
  have element := count_bufferCheckLines function "__element_array_buffer"
    "GL_ELEMENT_ARRAY_BUFFER_BINDING" distinctive
  rw [← arrayCheckTexts_eq] at array
  rw [← elementCheckTexts_eq] at element
  -- Giving up and closing braces are ordinary, so the guard's own texts are all that counts.
  have brace : ["\x7d"].count text = 0 := by
    refine List.count_eq_zero.mpr fun member => distinctive.strange ?_
    exact List.mem_singleton.mp member ▸ ordinary_brace.plain
  unfold guardLines
  split
  next =>
    simp only [List.map_append, List.count_append, apply_ite (List.map Line.text),
      apply_ite (List.count text), array, element, brace, List.map_cons, List.map_nil,
      List.count_nil, Nat.add_zero]
    rfl
  next unguarded =>
    obtain ⟨vertices, elements⟩ := not_or.mp unguarded
    simp [vertices, elements]

theorem count_afterGuardLines (worded : function.Worded) {text : String}
    (guard : text ∈ guardTexts) :
    ((afterGuardLines function).map Line.text).count text = 0 := by
  have distinctive := distinctive_ownTexts text (own_of_guard guard)
  apply (within_afterGuardLines worded).count_eq_zero distinctive
  intro member
  rcases known_textsAfterGuard worded text member with called | later
  · exact distinctive.uncalled called
  · exact (List.nodup_append.mp (ownTexts_eq ▸ nodup_ownTexts)).2.2 text guard text later rfl

theorem occurrences_guardTexts (worded : function.Worded) {text : String}
    (guard : text ∈ guardTexts) :
    occurrences text ((unitLines function).map Line.render) =
      ((guardLines function).map Line.text).count text := by
  have own := own_of_guard guard
  have heading := (within_headingLine worded).count_eq_zero (distinctive_ownTexts text own)
    (by simp)
  have after := count_afterGuardLines worded guard
  have closing := count_closingLines own
  rw [occurrences_unitLines worded own, unitLines, ← List.singleton_append]
  simp only [List.map_append, List.count_append, heading, after, closing]
  omega

end Guard

theorem legacyGuard_lines {function : Function} (spelled : function.Spelled) :
    ∃ lines, plan.hooks.unitLines? function = some lines ∧
      lines = (function.headingLine :: (guardLines function ++
        (afterGuardLines function ++ Function.closingLines))).map Line.render ∧
      unguardedPlan.hooks.unitLines? function =
        some ((function.headingLine ::
          (afterGuardLines function ++ Function.closingLines)).map Line.render) ∧
      occurrences "if (glretrace::parser.version < 1) \x7b" lines =
        (if ReadsVertices function.name ∨ ReadsElements function.name then 1 else 0) ∧
      (∀ text ∈ arrayCheckTexts,
        occurrences text lines = if ReadsVertices function.name then 1 else 0) ∧
      (∀ text ∈ elementCheckTexts,
        occurrences text lines = if ReadsElements function.name then 1 else 0) ∧
      ¬ (ReadsVertices function.name ∧ ReadsElements function.name) := by
  have count {text : String} (guard : text ∈ guardTexts) :=
    (occurrences_guardTexts spelled.worded guard).trans (count_guardLines function guard)
  refine ⟨(unitLines function).map Line.render, unitLines?_plan spelled, ?_,
    unitLines?_unguardedPlan spelled, ?_, ?_, ?_, ?_⟩
  · simp [unitLines]
  · refine (count List.mem_cons_self).trans ?_
    simp [guardText, arrayCheckTexts, elementCheckTexts]
  · intro text array
    rw [count (by simp [guardTexts, array])]
    revert text
    simp [arrayCheckTexts, elementCheckTexts, guardText]
  · intro text element
    rw [count (by simp [guardTexts, element])]
    revert text
    simp [arrayCheckTexts, elementCheckTexts, guardText]
  · exact fun both => not_readsVertices_of_readsElements both.2 both.1

def setVertexPointer : Function :=
  .build "glVertexPointer" [.argument "size" "GLint" false, .argument "type" "GLenum" false,
    .argument "stride" "GLsizei" false, .argument "pointer" "const GLvoid *" false]

theorem legacyGuard_lines_setVertexPointer :
    setVertexPointer.Spelled ∧
      ∃ lines, plan.hooks.unitLines? setVertexPointer = some lines ∧
        occurrences "if (glretrace::parser.version < 1) \x7b" lines = 1 ∧
        occurrences "if (!__array_buffer) \x7b" lines = 1 ∧
        occurrences "if (!__element_array_buffer) \x7b" lines = 0 := by
  have spelled : setVertexPointer.Spelled := Function.build_spelled (by decide) (by decide +kernel)
  have vertices : ReadsVertices setVertexPointer.name := by decide
  have elements : ¬ ReadsElements setVertexPointer.name := by decide
  obtain ⟨lines, written, -, -, guard, array, element, -⟩ := legacyGuard_lines spelled
  refine ⟨spelled, lines, written, ?_, ?_, ?_⟩
  · rw [guard, if_pos (.inl vertices)]
  · rw [array _ (by simp [arrayCheckTexts]), if_pos vertices]
  · rw [element _ (by simp [elementCheckTexts]), if_neg elements]

end ReplayGen.GL
