import ReplayGen.Proofs.GL.Distinctive

set_option autoImplicit false

namespace ReplayGen.GL

open Text

section Ending

def blobEnding : List Char :=
  [')', '.', 'b', 'l', 'o', 'b', '(', ')', ';']

def PassesBlobLine (line : String) : Prop :=
  blobEnding <:+ line.toList

instance (line : String) : Decidable (PassesBlobLine line) :=
  inferInstanceAs (Decidable (_ <:+ _))

theorem passesBlobLine_render (line : Line) :
    PassesBlobLine line.render ↔ PassesBlobLine line.text := by
  unfold PassesBlobLine
  rw [Line.render_toList]
  split
  next empty =>
    rw [String.isEmpty_iff.mp empty]
    rfl
  next =>
    refine ⟨fun ends => ?_, fun ends => ends.trans (List.suffix_append _ _)⟩
    rcases List.suffix_or_suffix_of_suffix ends (List.suffix_append _ _) with shorter | ⟨front, all⟩
    · exact shorter
    · cases front with
      | nil => exact all ▸ List.suffix_refl _
      | cons c rest =>
          -- The ending would reach into the indentation, but no space stands in it.
          obtain ⟨before, same⟩ := ends
          rw [← all, ← List.append_assoc] at same
          have indented : c ∈ List.replicate (4 * line.depth) ' ' := by
            simp [← List.append_cancel_right same]
          have inside : c ∈ blobEnding := by simp [← all]
          rw [List.eq_of_mem_replicate indented] at inside
          exact absurd inside (by decide)

theorem not_passesBlobLine_of_dotless {text : String} (dotless : '.' ∉ text.toList) :
    ¬ PassesBlobLine text :=
  fun ends => dotless (ends.subset (by decide))

theorem not_passesBlobLine_literal (chars : List Char) (apart : ¬ blobEnding <:+ chars) :
    ¬ PassesBlobLine (String.ofList chars) := by
  rwa [PassesBlobLine, String.toList_ofList]

theorem passesBlobLine_append_literal (first : String) (chars : List Char)
    (ends : blobEnding <:+ chars) : PassesBlobLine (first ++ String.ofList chars) := by
  rw [PassesBlobLine, String.toList_append, String.toList_ofList]
  exact ends.trans (List.suffix_append _ _)

theorem not_passesBlobLine_append (first : String) {second : String}
    (apart : ¬ blobEnding <:+ second.toList ∧ ¬ second.toList <:+ blobEnding) :
    ¬ PassesBlobLine (first ++ second) := by
  intro ends
  -- Of two endings of one text, the shorter is an ending of the longer.
  have tail : second.toList <:+ (first ++ second).toList := by simp
  exact (List.suffix_or_suffix_of_suffix ends tail).elim apart.1 apart.2

theorem not_passesBlobLine_append_literal (first : String) (chars : List Char)
    (apart : ¬ blobEnding <:+ chars ∧ ¬ chars <:+ blobEnding) :
    ¬ PassesBlobLine (first ++ String.ofList chars) :=
  not_passesBlobLine_append first (by rwa [String.toList_ofList])

end Ending

section Parts

variable {function : Function}

theorem not_passesBlobLine_ownTexts : ∀ text ∈ ownTexts, ¬ PassesBlobLine text := by
  simp only [ownTexts, frontTexts, guardTexts, guardText, arrayCheckTexts, elementCheckTexts,
    lookupTexts, giveUpText, bookkeepingTexts, growWindowTexts, snapshotTexts, List.cons_append,
    List.nil_append, List.forall_mem_cons]
  repeat' apply And.intro
  all_goals first
    | exact List.forall_mem_nil _
    | exact not_passesBlobLine_literal _ (by decide)

theorem not_passesBlobLine_giveUpTexts (function : Function) :
    ∀ text ∈ function.giveUpTexts, ¬ PassesBlobLine text := by
  simp only [Function.giveUpTexts, List.forall_mem_cons]
  exact ⟨not_passesBlobLine_append_literal _ _ (by decide),
    not_passesBlobLine_literal _ (by decide), not_passesBlobLine_literal _ (by decide), by simp⟩

theorem not_passesBlobLine_callLines (worded : function.Worded) :
    ∀ line ∈ function.callLines, ¬ PassesBlobLine line.text := by
  have called : ∀ text ∈ function.callTexts, ¬ PassesBlobLine text := fun text member =>
    not_passesBlobLine_of_dotless fun dot =>
      (function.callLike_callTexts worded text member).2 ⟨'.', dot, by decide⟩
  unfold Function.callTexts at called
  unfold Function.callLines
  cases type : function.returnType with
  | none => simpa [type] using called
  | some kept =>
      simp only [type, List.forall_mem_cons] at called ⊢
      exact ⟨not_passesBlobLine_append_literal _ _ (by decide), called.1, called.2.1, by simp⟩

theorem not_passesBlobLine_declarationLine {argument : Argument} (name : Wordy argument.name)
    (type : Wordy argument.type) : ¬ PassesBlobLine argument.declarationLine.text := by
  have words := Argument.wordy_declared name type
  apply not_passesBlobLine_of_dotless
  rw [Argument.declarationLine, String.toList_append, List.mem_append, not_or]
  exact ⟨fun dot => words '.' dot (by decide), by decide⟩

theorem not_passesBlobLine_decodingLines (argument : Argument) (position : Nat) :
    ∀ line ∈ argument.decodingLines position, ¬ PassesBlobLine line.text := by
  have reads (kind : Scalar) (value : String) :
      ¬ PassesBlobLine (value ++ kind.reader ++ "();") := by
    rw [String.append_assoc]
    exact not_passesBlobLine_append value (by cases kind <;> decide +kernel)
  unfold Argument.decodingLines
  cases argument.kind with
  | scalar kind => simpa only [List.forall_mem_singleton] using reads kind _
  | text | address | unknown =>
      simp only [List.forall_mem_singleton]
      exact not_passesBlobLine_append_literal _ _ (by decide)
  | array element =>
      simp only [List.forall_mem_cons]
      refine ⟨?_, ?_, ?_, ?_, reads element _, ?_, ?_, ?_, ?_, by simp⟩
      · simp only [← String.append_assoc]
        rw [String.append_assoc]
        exact not_passesBlobLine_append _ (by decide +kernel)
      · exact not_passesBlobLine_append_literal _ _ (by decide)
      · exact not_passesBlobLine_append_literal _ _ (by decide)
      · exact not_passesBlobLine_append_literal _ _ (by decide)
      · exact not_passesBlobLine_literal _ (by decide)
      · exact not_passesBlobLine_literal _ (by decide)
      · exact not_passesBlobLine_append_literal _ _ (by decide)
      · exact not_passesBlobLine_literal _ (by decide)

end Parts

section Count

variable {function : Function}

def blobCount (lines : List String) : Nat :=
  lines.countP fun line => PassesBlobLine line

def passesBlob (line : Line) : Bool :=
  PassesBlobLine line.text

theorem blobCount_render (lines : List Line) :
    blobCount (lines.map Line.render) = lines.countP passesBlob := by
  simp only [blobCount, List.countP_map, Function.comp_def, passesBlobLine_render]
  rfl

theorem countP_passesBlob_eq_zero {lines : List Line} :
    lines.countP passesBlob = 0 ↔ ∀ line ∈ lines, ¬ PassesBlobLine line.text := by
  simp [List.countP_eq_zero, passesBlob]

theorem countP_flatMap_of_each {α β : Type} {items : List α} {parts : α → List β}
    {holds : β → Bool} {due : α → Bool}
    (each : ∀ item ∈ items, (parts item).countP holds = if due item then 1 else 0) :
    (items.flatMap parts).countP holds = items.countP due := by
  induction items with
  | nil => rfl
  | cons item rest ih =>
      rw [List.flatMap_cons, List.countP_append, List.countP_cons, each item (by simp),
        ih fun other member => each other (by simp [member]), Nat.add_comm]

theorem countP_zipIdx_fst {α : Type} (items : List α) (holds : α → Bool) :
    items.zipIdx.countP (fun item => holds item.1) = items.countP holds := by
  have mapped := @List.countP_map _ _ holds Prod.fst items.zipIdx
  rwa [List.zipIdx_map_fst, eq_comm] at mapped

theorem passesBlobLine_blobLine (argument : Argument) (position : Nat) :
    PassesBlobLine (blobLine argument position).text :=
  passesBlobLine_append_literal _ _ (by decide)

theorem countP_passageLines (function : Function) (argument : Argument) (position : Nat) :
    (passageLines function argument position).countP passesBlob =
      if PassesBlob function argument then 1 else 0 := by
  unfold passageLines
  split
  next => simp [passesBlob, passesBlobLine_blobLine]
  next =>
    rw [countP_passesBlob_eq_zero]
    intro line member
    simp only [List.mem_append, List.mem_ite_nil_right] at member
    rcases member with ⟨-, inside⟩ | inside
    · have lookup : line.text ∈ lookupTexts := List.mem_map_of_mem inside
      exact not_passesBlobLine_ownTexts line.text (own_of_lookup lookup)
    · exact not_passesBlobLine_decodingLines argument position line inside

theorem blobLine_mem_passageLines_iff (function : Function) (argument : Argument)
    (position : Nat) :
    blobLine argument position ∈ passageLines function argument position ↔
      PassesBlob function argument := by
  constructor
  -- Names may be anything here, so lines are told apart by what they pass.
  · intro shown
    have count := countP_passageLines function argument position
    apply Decidable.byContradiction
    intro plain
    rw [if_neg plain, countP_passesBlob_eq_zero] at count
    exact count _ shown (passesBlobLine_blobLine argument position)
  · intro blob
    rw [passageLines, if_pos blob]
    exact List.mem_singleton_self _

theorem countP_sectionLines (worded : function.Worded) :
    (sectionLines function).countP passesBlob =
      function.arguments.countP (PassesBlob function ·) := by
  have each : ∀ item ∈ function.arguments.zipIdx,
      (item.1.declarationLine :: passageLines function item.1 item.2).countP passesBlob =
        if decide (PassesBlob function item.1) then 1 else 0 := by
    intro item listed
    have found := List.fst_mem_of_mem_zipIdx listed
    have declaration := not_passesBlobLine_declarationLine (worded.argumentName _ found)
      (worded.argumentType _ found)
    rw [List.countP_cons, countP_passageLines]
    simp [passesBlob, declaration]
  exact (countP_flatMap_of_each each).trans
    (countP_zipIdx_fst function.arguments (PassesBlob function ·))

theorem blobCount_unitLines_eq (worded : function.Worded) :
    blobCount ((unitLines function).map Line.render) =
      if function.sideEffects then function.arguments.countP (PassesBlob function ·) else 0 := by
  have others := @countP_unitLines function passesBlob (fun text => ¬ PassesBlobLine text)
    fun line other => decide_eq_false other
  rw [blobCount_render, others not_passesBlobLine_ownTexts
    (not_passesBlobLine_giveUpTexts function) (not_passesBlobLine_callLines worded)
    (not_passesBlobLine_append_literal _ _ (by decide)) (by decide) (by decide),
    countP_sectionLines worded]

theorem blobCount_unitLines (worded : function.Worded) (effects : function.sideEffects = true) :
    blobCount ((unitLines function).map Line.render) =
      function.arguments.countP (PassesBlob function ·) := by
  rw [blobCount_unitLines_eq worded, if_pos effects]

end Count

end ReplayGen.GL
