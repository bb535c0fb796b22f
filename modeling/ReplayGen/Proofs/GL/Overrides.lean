import ReplayGen.Proofs.GL.Layout
import ReplayGen.Proofs.GL.BlobLines

set_option autoImplicit false

namespace ReplayGen.GL

open Text

section Names

variable {function : Function}

theorem not_uniform_literal (chars : List Char) (other : chars[2]? ≠ some 'U') :
    ¬ "glUniform".toList <+: (String.ofList chars).toList := by
  rintro ⟨rest, same⟩
  rw [String.toList_ofList, String.toList_ofList] at same
  exact other (by simp [← same])

theorem not_uniform_of_passesBlob {argument : Argument} (blob : PassesBlob function argument) :
    ¬ "glUniform".toList <+: function.name.toList := by
  -- The third letter of the name tells.
  have apart : ∀ name ∈ Role.arrayPointer.functions ++ Role.drawElements.functions,
      ¬ "glUniform".toList <+: name.toList := by
    simp only [Role.functions, List.cons_append, List.nil_append, List.forall_mem_cons]
    repeat' apply And.intro
    all_goals first
      | exact List.forall_mem_nil _
      | exact not_uniform_literal _ (by decide)
  exact apart function.name (List.mem_append.mpr (blob.imp And.left And.left))

theorem name_of_passesBlob (function : Function) :
    ∃ name, ∀ argument, PassesBlob function argument → argument.name = name := by
  by_cases elements : function.name ∈ Role.drawElements.functions
  · have pointers := (not_mem_of_mem_drawElements elements).1
    refine ⟨"indices", fun argument blob => ?_⟩
    exact blob.elim (fun named => absurd named.1 pointers) And.right
  · refine ⟨"pointer", fun argument blob => ?_⟩
    exact blob.elim And.right fun named => absurd named.1 elements

theorem countP_passesBlob_le_one (distinct : function.argumentNames.Nodup) :
    function.arguments.countP (PassesBlob function ·) ≤ 1 := by
  obtain ⟨name, only⟩ := name_of_passesBlob function
  have once := List.nodup_iff_count.mp distinct name
  rw [Function.argumentNames, List.count, List.countP_map] at once
  refine Nat.le_trans (List.countP_mono_left fun argument _ blob => ?_) once
  simpa using only argument (by simpa using blob)

end Names

section Lookup

variable {function : Function}

def LooksUp (function : Function) : Prop :=
  "glUniform".toList <+: function.name.toList ∧ function.argumentNames.head? = some "location"

instance (function : Function) : Decidable (LooksUp function) :=
  inferInstanceAs (Decidable (_ ∧ _))

theorem countP_looksUpProgram (function : Function) :
    function.arguments.zipIdx.countP
      (fun item => decide (LooksUpProgram function item.1 item.2)) =
        if LooksUp function then 1 else 0 := by
  cases listed : function.arguments with
  | nil => simp [LooksUp, Function.argumentNames, listed]
  | cons first rest =>
      -- Positions only grow, and the look-up asks for the first.
      have later : (rest.zipIdx 1).countP
          (fun item => decide (LooksUpProgram function item.1 item.2)) = 0 := by
        rw [List.countP_eq_zero]
        intro item member uniform
        have positive := List.le_snd_of_mem_zipIdx member
        have start := (of_decide_eq_true uniform).2.1
        omega
      rw [List.zipIdx_cons, List.countP_cons, later]
      simp [LooksUpProgram, LooksUp, Function.argumentNames, listed]

theorem count_passageLines {argument : Argument} (name : Wordy argument.name) (position : Nat)
    {text : String} (lookup : text ∈ lookupTexts) :
    ((passageLines function argument position).map Line.text).count text =
      if LooksUpProgram function argument position then 1 else 0 := by
  have distinctive := distinctive_ownTexts text (own_of_lookup lookup)
  have once : (lookupLines.map Line.text).count text = 1 := by
    revert text
    simp [lookupTexts, lookupLines]
  have plain : Within [] (argument.decodingLines position) := fun line member =>
    .inl (argument.ordinary_decodingLines name position line member)
  have decoding := plain.count_eq_zero distinctive (by simp)
  unfold passageLines
  split
  next blob =>
    have other : ¬ LooksUpProgram function argument position := fun uniform =>
      not_uniform_of_passesBlob blob uniform.1
    have apart : text ≠ (blobLine argument position).text := fun same =>
      distinctive.strange (same ▸ (ordinary_blobLine name position).plain)
    simp [other, apart.symm]
  next =>
    rw [List.map_append, List.count_append, decoding]
    split
    · exact once
    · rfl

theorem count_sectionLines (worded : function.Worded) {text : String}
    (lookup : text ∈ lookupTexts) :
    ((sectionLines function).map Line.text).count text = if LooksUp function then 1 else 0 := by
  have distinctive := distinctive_ownTexts text (own_of_lookup lookup)
  have each : ∀ item ∈ function.arguments.zipIdx,
      (item.1.declarationLine :: passageLines function item.1 item.2).countP
        (fun line => line.text == text) =
        if decide (LooksUpProgram function item.1 item.2) then 1 else 0 := by
    intro item listed
    have found := List.fst_mem_of_mem_zipIdx listed
    have name := worded.argumentName _ found
    have apart : item.1.declarationLine.text ≠ text := fun same =>
      distinctive.strange
        (same ▸ (item.1.ordinary_declarationLine name (worded.argumentType _ found)).plain)
    have passage := @count_passageLines function _ name item.2 _ lookup
    rw [List.count, List.countP_map] at passage
    rw [List.countP_cons]
    simpa [apart, Function.comp_def] using passage
  rw [List.count, List.countP_map]
  exact (countP_flatMap_of_each each).trans (countP_looksUpProgram function)

end Lookup

section Passages

variable {function : Function}

theorem passageLines_eq_blobLine_iff (argument : Argument) (position : Nat) :
    passageLines function argument position = [blobLine argument position] ↔
      PassesBlob function argument := by
  constructor
  · intro same
    rw [← blobLine_mem_passageLines_iff function argument position, same]
    exact List.mem_singleton_self _
  · exact fun blob => if_pos blob

theorem lookupLine_mem_passageLines_iff {argument : Argument} (name : Wordy argument.name)
    (position : Nat) :
    ⟨1, "GLint program = -1;"⟩ ∈ passageLines function argument position ↔
      LooksUpProgram function argument position := by
  constructor
  · intro shown
    have count := @count_passageLines function _ name position _ List.mem_cons_self
    apply Decidable.byContradiction
    intro plain
    rw [if_neg plain, List.count_eq_zero] at count
    exact count (List.mem_map_of_mem shown)
  · intro uniform
    have plain : ¬ PassesBlob function argument := fun blob =>
      not_uniform_of_passesBlob blob uniform.1
    rw [passageLines, if_neg plain, if_pos uniform]
    exact List.mem_append_left _ List.mem_cons_self

theorem lookupLines_isPrefix_iff {argument : Argument} (name : Wordy argument.name)
    (position : Nat) :
    lookupLines <+: passageLines function argument position ↔
      LooksUpProgram function argument position := by
  rw [← lookupLine_mem_passageLines_iff name]
  refine ⟨fun shown => shown.subset List.mem_cons_self, fun shown => ?_⟩
  have uniform := (lookupLine_mem_passageLines_iff name position).mp shown
  have plain : ¬ PassesBlob function argument := fun blob =>
    not_uniform_of_passesBlob blob uniform.1
  rw [passageLines, if_neg plain, if_pos uniform]
  exact List.prefix_append _ _

theorem occurrences_lookupTexts (worded : function.Worded) (effects : function.sideEffects = true)
    {text : String} (lookup : text ∈ lookupTexts) :
    occurrences text ((unitLines function).map Line.render) =
      if LooksUp function then 1 else 0 := by
  have own := own_of_lookup lookup
  have distinctive := distinctive_ownTexts text own
  have apart : text ∉ guardTexts ∧ text ∉ [giveUpText] ∧ text ∉ bookkeepingTexts := by
    revert text
    simp [lookupTexts, guardTexts, guardText, arrayCheckTexts, elementCheckTexts, giveUpText,
      bookkeepingTexts, growWindowTexts, snapshotTexts]
  rw [occurrences_parts worded effects own, count_sectionLines worded lookup,
    (within_guardLines function).count_eq_zero distinctive apart.1,
    (within_giveUpIfUndecodable function).count_eq_zero distinctive apart.2.1,
    (within_wrapperLines worded).count_eq_zero distinctive]
  · omega
  · rw [List.mem_append, not_or]
    exact ⟨fun call => distinctive.uncalled (function.callLike_callTexts worded text call),
      apart.2.2⟩

/-- A call that is not made again needs neither its program nor its arguments. -/
theorem occurrences_of_effectless (worded : function.Worded)
    (effectless : function.sideEffects = false) {text : String}
    (decodes : text ∈ lookupTexts ++ [giveUpText]) :
    occurrences text ((unitLines function).map Line.render) = 0 := by
  have own : text ∈ ownTexts := List.mem_append_left _ (List.mem_append_right _ decodes)
  rw [occurrences_unitLines worded own]
  refine (within_unitLines worded).count_eq_zero (distinctive_ownTexts text own) ?_
  revert text
  simp [textsAfterGuard, effectless, lookupTexts, guardTexts, guardText, arrayCheckTexts,
    elementCheckTexts, giveUpText]

theorem count_giveUpIfUndecodable (function : Function) :
    ((giveUpIfUndecodable function).map Line.text).count giveUpText =
      if Undecodable function then 1 else 0 := by
  have distinctive := distinctive_ownTexts giveUpText own_giveUpText
  have none := (within_giveUpLines function 2 1).count_eq_zero distinctive (by simp)
  unfold giveUpIfUndecodable
  split
  · rw [Function.giveUpBlockLines, List.append_assoc, List.map_append, List.count_append, none]
    simp [giveUpText]
  · rfl

theorem occurrences_giveUpText (worded : function.Worded) (effects : function.sideEffects = true) :
    occurrences giveUpText ((unitLines function).map Line.render) =
      if Undecodable function then 1 else 0 := by
  have distinctive := distinctive_ownTexts giveUpText own_giveUpText
  have apart : giveUpText ∉ guardTexts ∧ giveUpText ∉ lookupTexts ∧
      giveUpText ∉ bookkeepingTexts := by
    simp [lookupTexts, guardTexts, guardText, arrayCheckTexts, elementCheckTexts, giveUpText,
      bookkeepingTexts, growWindowTexts, snapshotTexts]
  rw [occurrences_parts worded effects own_giveUpText, count_giveUpIfUndecodable,
    (within_guardLines function).count_eq_zero distinctive apart.1,
    (within_sectionLines worded).count_eq_zero distinctive apart.2.1,
    (within_wrapperLines worded).count_eq_zero distinctive]
  · omega
  · rw [List.mem_append, not_or]
    exact ⟨fun call => distinctive.uncalled (function.callLike_callTexts worded _ call),
      apart.2.2⟩

end Passages

theorem argumentOverrides_lines {function : Function} (spelled : function.Spelled)
    (effects : function.sideEffects = true) :
    ∃ lines, plan.hooks.unitLines? function = some lines ∧
      lines = (function.headingLine :: (guardLines function ++
        (function.arguments.zipIdx.flatMap fun (argument, position) =>
          argument.declarationLine :: passageLines function argument position) ++
        giveUpIfUndecodable function ++ wrapperLines function ++
        Function.closingLines)).map Line.render ∧
      (∀ argument position, function.arguments[position]? = some argument →
        (passageLines function argument position = [blobLine argument position] ↔
          PassesBlob function argument) ∧
        (lookupLines <+: passageLines function argument position ↔
          LooksUpProgram function argument position)) ∧
      blobCount lines = function.arguments.countP (PassesBlob function ·) ∧
      (function.argumentNames.Nodup → blobCount lines ≤ 1) ∧
      (∀ text ∈ lookupTexts, occurrences text lines = if LooksUp function then 1 else 0) ∧
      ¬ (0 < blobCount lines ∧ ∃ text ∈ lookupTexts, 0 < occurrences text lines) ∧
      occurrences "if (1) \x7b" lines = (if Undecodable function then 1 else 0) := by
  have worded := spelled.worded
  have blobs := blobCount_unitLines worded effects
  have lookups (text : String) (lookup : text ∈ lookupTexts) :=
    occurrences_lookupTexts worded effects lookup
  refine ⟨(unitLines function).map Line.render, unitLines?_plan spelled, ?_, ?_, blobs, ?_,
    lookups, ?_, occurrences_giveUpText worded effects⟩
  · simp [unitLines, afterGuardLines, effects, sectionLines]
  · intro argument position listed
    have name := worded.argumentName argument (List.mem_of_getElem? listed)
    exact ⟨passageLines_eq_blobLine_iff argument position, lookupLines_isPrefix_iff name position⟩
  · intro distinct
    rw [blobs]
    exact countP_passesBlob_le_one distinct
  · rintro ⟨passed, text, lookup, looked⟩
    rw [blobs, List.countP_pos_iff] at passed
    obtain ⟨argument, -, blob⟩ := passed
    rw [lookups text lookup] at looked
    have uniform : LooksUp function := by
      apply Decidable.byContradiction
      intro plain
      simp [plain] at looked
    exact not_uniform_of_passesBlob (of_decide_eq_true blob) uniform.1

def drawElements : Function :=
  .build "glDrawElements" [.argument "mode" "GLenum" false, .argument "count" "GLsizei" false,
    .argument "type" "GLenum" false, .argument "indices" "GLvoid" false]

theorem argumentOverrides_lines_drawElements :
    drawElements.Spelled ∧ drawElements.sideEffects = true ∧
      ∃ lines, plan.hooks.unitLines? drawElements = some lines ∧ blobCount lines = 1 ∧
        occurrences "glGetIntegerv(GL_CURRENT_PROGRAM, &program);" lines = 0 ∧
        occurrences "if (1) \x7b" lines = 0 := by
  have spelled : drawElements.Spelled := Function.build_spelled (by decide) (by decide +kernel)
  have plain : ¬ LooksUp drawElements := by decide +kernel
  have decodable : ¬ Undecodable drawElements := by decide +kernel
  obtain ⟨lines, written, -, -, blobs, -, lookups, -, giveUp⟩ :=
    argumentOverrides_lines spelled rfl
  refine ⟨spelled, rfl, lines, written, ?_, ?_, ?_⟩
  · rw [blobs]
    decide +kernel
  · rw [lookups _ (by simp [lookupTexts]), if_neg plain]
  · rw [giveUp, if_neg decodable]

end ReplayGen.GL
