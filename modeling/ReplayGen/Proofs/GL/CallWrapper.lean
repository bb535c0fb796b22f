import ReplayGen.Proofs.GL.Layout
import ReplayGen.Proofs.GL.Distinctive

set_option autoImplicit false

namespace ReplayGen.GL

open Text

section Front

variable {function : Function}

def frontLines (function : Function) : List Line :=
  function.headingLine ::
    (guardLines function ++ (sectionLines function ++ giveUpIfUndecodable function))

theorem unitLines_eq (effects : function.sideEffects = true) :
    unitLines function =
      frontLines function ++ wrapperLines function ++ Function.closingLines := by
  simp [unitLines, afterGuardLines, frontLines, effects]

theorem within_frontLines (worded : function.Worded) :
    Within frontTexts (frontLines function) := by
  simpa [frontLines, frontTexts] using (within_headingLine worded).append
    ((within_guardLines function).append
      ((within_sectionLines worded).append (within_giveUpIfUndecodable function)))

theorem count_frontLines (worded : function.Worded) {text : String}
    (bookkeeping : text ∈ bookkeepingTexts) :
    ((frontLines function).map Line.text).count text = 0 := by
  have own := own_of_bookkeeping bookkeeping
  apply (within_frontLines worded).count_eq_zero (distinctive_ownTexts text own)
  -- A text of the bookkeeping is none of those in front, as no text is listed twice.
  exact fun before => (List.nodup_append.mp nodup_ownTexts).2.2 text before text bookkeeping rfl

end Front

section Wrapper

variable {function : Function}

theorem count_callLines (worded : function.Worded) {text : String}
    (bookkeeping : text ∈ bookkeepingTexts) :
    (function.callLines.map Line.text).count text = 0 := by
  have own := own_of_bookkeeping bookkeeping
  have distinctive := distinctive_ownTexts text own
  apply Within.count_eq_zero (function.mem_callLines worded) distinctive
  exact fun member => distinctive.uncalled (function.callLike_callTexts worded text member)

theorem count_wrapperLines (worded : function.Worded) {text : String}
    (bookkeeping : text ∈ bookkeepingTexts) :
    ((wrapperLines function).map Line.text).count text =
      (if function.name = "glViewport" then (growWindowLines.map Line.text).count text else 0) +
        (if function.name = "glEnd" then
          ["glretrace::insideGlBeginEnd = false;"].count text else 0) +
        (if function.name ∈ Role.bindFramebuffer.functions then
          (snapshotLines.map Line.text).count text else 0) +
        (if CountsAsDraw function.name then ["glretrace::unsaved_draws++;"].count text else 0) +
        (if function.name = "glBegin" then ["glretrace::insideGlBeginEnd = true;"].count text
          else ["glretrace::checkGlError();"].count text) := by
  have call := count_callLines worded bookkeeping
  simp only [wrapperLines, beforeCallLines, afterCallLines, List.map_append, List.count_append,
    call, Nat.add_zero, apply_ite (List.map Line.text), apply_ite (List.count text),
    List.map_cons, List.map_nil, List.count_nil, Nat.add_assoc]

theorem occurrences_bookkeeping (worded : function.Worded) (effects : function.sideEffects = true)
    {text : String} (bookkeeping : text ∈ bookkeepingTexts) :
    occurrences text ((unitLines function).map Line.render) =
      ((wrapperLines function).map Line.text).count text := by
  have own := own_of_bookkeeping bookkeeping
  rw [occurrences_unitLines worded own, unitLines_eq effects, List.map_append, List.map_append,
    List.count_append, List.count_append, count_frontLines worded bookkeeping,
    count_closingLines own]
  omega

theorem occurrences_callTexts (spelled : function.Spelled) (effects : function.sideEffects = true)
    {text : String} (call : text ∈ function.callTexts) :
    occurrences text ((unitLines function).map Line.render) = 1 := by
  have called := function.callLike_callTexts spelled.worded text call
  have uncalled : ∀ other ∈ ownTexts, ¬ CallLike other := fun other own =>
    (distinctive_ownTexts other own).uncalled
  have bookkeeping {lines : List Line} (within : Within bookkeepingTexts lines) :
      occurrences text (lines.map Line.render) = 0 :=
    within.occurrences_call called fun other known => uncalled other (own_of_bookkeeping known)
  have front : occurrences text ((frontLines function).map Line.render) = 0 := by
    refine (within_frontLines spelled.worded).occurrences_call called fun other known => ?_
    exact uncalled other (List.mem_append_left _ known)
  have closing : occurrences text (Function.closingLines.map Line.render) = 0 :=
    within_closingLines.occurrences_call called (by simpa using distinctive_empty.uncalled)
  rw [unitLines_eq effects]
  simp only [wrapperLines, List.map_append, occurrences_append, front, closing,
    function.occurrences_callLines spelled call, bookkeeping (within_beforeCallLines function),
    bookkeeping (within_afterCallLines function)]

end Wrapper

theorem callWrapper_lines {function : Function} (spelled : function.Spelled)
    (effects : function.sideEffects = true) :
    ∃ lines, plan.hooks.unitLines? function = some lines ∧
      lines = (frontLines function ++ wrapperLines function ++ Function.closingLines).map
        Line.render ∧
      (∀ text ∈ growWindowTexts, occurrences text lines =
        if function.name = "glViewport" then (growWindowLines.map Line.text).count text else 0) ∧
      occurrences "glretrace::insideGlBeginEnd = false;" lines =
        (if function.name = "glEnd" then 1 else 0) ∧
      (∀ text ∈ function.callTexts, occurrences text lines = 1) ∧
      (∀ text ∈ snapshotTexts, occurrences text lines =
        if function.name ∈ Role.bindFramebuffer.functions then 1 else 0) ∧
      occurrences "glretrace::unsaved_draws++;" lines =
        (if CountsAsDraw function.name then 1 else 0) ∧
      occurrences "glretrace::insideGlBeginEnd = true;" lines =
        (if function.name = "glBegin" then 1 else 0) ∧
      occurrences "glretrace::checkGlError();" lines =
        (if function.name = "glBegin" then 0 else 1) := by
  have count {text : String} (bookkeeping : text ∈ bookkeepingTexts) :=
    (occurrences_bookkeeping spelled.worded effects bookkeeping).trans
      (count_wrapperLines spelled.worded bookkeeping)
  refine ⟨(unitLines function).map Line.render, unitLines?_plan spelled, ?_, ?_, ?_, ?_, ?_, ?_,
    ?_, ?_⟩
  · rw [unitLines_eq effects]
  -- Both axes set the flag in the same words, so some of these texts occur twice.
  · intro text grow
    rw [count (by simp [bookkeepingTexts, grow])]
    revert text
    simp [growWindowTexts, snapshotLines]
  · rw [count (by simp [bookkeepingTexts])]
    simp [growWindowLines, snapshotLines]
  · exact fun text call => occurrences_callTexts spelled effects call
  · intro text snapshot
    rw [count (by simp [bookkeepingTexts, snapshot])]
    revert text
    simp [snapshotTexts, growWindowLines, snapshotLines]
  · rw [count (by simp [bookkeepingTexts])]
    simp [growWindowLines, snapshotLines]
  · rw [count (by simp [bookkeepingTexts])]
    simp [growWindowLines, snapshotLines]
  · rw [count (by simp [bookkeepingTexts])]
    simp [growWindowLines, snapshotLines]

def setViewport : Function :=
  .build "glViewport" [.argument "x" "GLint" false, .argument "y" "GLint" false,
    .argument "width" "GLsizei" false, .argument "height" "GLsizei" false]

theorem callWrapper_lines_setViewport :
    setViewport.Spelled ∧ setViewport.sideEffects = true ∧
      ∃ lines, plan.hooks.unitLines? setViewport = some lines ∧
        occurrences "if (reshape_window) \x7b" lines = 1 ∧
        occurrences "glViewport(x, y, width, height);" lines = 1 ∧
        occurrences "glretrace::checkGlError();" lines = 1 := by
  have spelled : setViewport.Spelled := Function.build_spelled (by decide) (by decide +kernel)
  obtain ⟨lines, written, -, grow, -, call, -, -, -, check⟩ := callWrapper_lines spelled rfl
  refine ⟨spelled, rfl, lines, written, ?_, ?_, ?_⟩
  · rw [grow _ (by simp [growWindowTexts])]
    simp [setViewport, growWindowLines]
  · exact call _ (by decide +kernel)
  · rw [check]
    simp [setViewport]

end ReplayGen.GL
