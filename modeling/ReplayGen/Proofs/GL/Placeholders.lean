import ReplayGen.Proofs.GL.BlobLines

set_option autoImplicit false

namespace ReplayGen

def Argument.placeholderLine (argument : Argument) : Line :=
  ⟨1, argument.name ++ " = 0; // FIXME"⟩

end ReplayGen

namespace ReplayGen.GL

open Text

section Ending

def placeholderEnding : List Char :=
  [' ', '=', ' ', '0', ';', ' ', '/', '/', ' ', 'F', 'I', 'X', 'M', 'E']

def StandsIn (line : String) : Prop :=
  placeholderEnding <:+ line.toList

instance (line : String) : Decidable (StandsIn line) :=
  inferInstanceAs (Decidable (_ <:+ _))

def placeholderCount (lines : List String) : Nat :=
  lines.countP fun line => StandsIn line

-- The last letter of the ending is enough to tell, and is the same at any indentation.
def EndsInE (text : String) : Prop :=
  text.toList.getLast? = some 'E'

instance (text : String) : Decidable (EndsInE text) :=
  inferInstanceAs (Decidable (_ = _))

theorem endsInE_append {first second : String} (solid : second.toList ≠ []) :
    EndsInE (first ++ second) ↔ EndsInE second := by
  rw [EndsInE, String.toList_append, List.getLast?_append,
    Option.or_of_isSome (List.getLast?_isSome.mpr solid), EndsInE]

theorem not_endsInE_literal (chars : List Char) (other : chars.getLast? ≠ some 'E') :
    ¬ EndsInE (String.ofList chars) := by
  rwa [EndsInE, String.toList_ofList]

theorem not_endsInE_append_literal (first : String) (chars : List Char)
    (other : chars ≠ [] ∧ chars.getLast? ≠ some 'E') : ¬ EndsInE (first ++ String.ofList chars) := by
  rw [endsInE_append (by simpa using other.1)]
  exact not_endsInE_literal chars other.2

theorem endsInE_render (line : Line) : EndsInE line.render ↔ EndsInE line.text := by
  unfold Line.render
  split
  next empty => rw [String.isEmpty_iff.mp empty]
  next solid =>
    refine endsInE_append fun empty => solid ?_
    rw [String.isEmpty_iff, ← String.toList_eq_nil_iff, empty]

theorem StandsIn.endsInE {line : String} (standsIn : StandsIn line) : EndsInE line := by
  obtain ⟨front, same⟩ := standsIn
  rw [EndsInE, ← same, List.getLast?_append]
  rfl

theorem standsIn_placeholderLine (argument : Argument) :
    StandsIn argument.placeholderLine.render := by
  have ends : placeholderEnding <:+ argument.placeholderLine.text.toList := by
    rw [Argument.placeholderLine, String.toList_append]
    exact List.suffix_append _ _
  rw [StandsIn, Line.render_toList, if_neg]
  · exact ends.trans (List.suffix_append _ _)
  · intro empty
    rw [String.isEmpty_iff.mp empty] at ends
    exact absurd ends (by decide)

end Ending

section Parts

variable {function : Function}

theorem not_endsInE_ownTexts : ∀ text ∈ ownTexts, ¬ EndsInE text := by
  simp only [ownTexts, frontTexts, guardTexts, guardText, arrayCheckTexts, elementCheckTexts,
    lookupTexts, giveUpText, bookkeepingTexts, growWindowTexts, snapshotTexts, List.cons_append,
    List.nil_append, List.forall_mem_cons]
  repeat' apply And.intro
  all_goals first
    | exact List.forall_mem_nil _
    | exact not_endsInE_literal _ (by decide)

theorem not_endsInE_giveUpTexts (function : Function) :
    ∀ text ∈ function.giveUpTexts, ¬ EndsInE text := by
  simp only [Function.giveUpTexts, List.forall_mem_cons]
  exact ⟨not_endsInE_append_literal _ _ (by decide), not_endsInE_literal _ (by decide),
    not_endsInE_literal _ (by decide), by simp⟩

theorem not_endsInE_callLines (function : Function) :
    ∀ line ∈ function.callLines, ¬ EndsInE line.text := by
  have call (front : String) : ¬ EndsInE (front ++ function.callText) := by
    rw [Function.callText, ← String.append_assoc]
    exact not_endsInE_append_literal _ _ (by decide)
  unfold Function.callLines
  cases function.returnType with
  | none => simpa using call ""
  | some kept =>
      simp only [List.forall_mem_cons]
      exact ⟨not_endsInE_append_literal _ _ (by decide), call _, not_endsInE_literal _ (by decide),
        by simp⟩

theorem decodingLines_of_unknown {argument : Argument} (unknown : argument.kind = .unknown)
    (position : Nat) : argument.decodingLines position = [argument.placeholderLine] := by
  rw [Argument.decodingLines, unknown]
  rfl

theorem not_endsInE_decodingLines {argument : Argument} (known : argument.kind ≠ .unknown)
    (position : Nat) : ∀ line ∈ argument.decodingLines position, ¬ EndsInE line.text := by
  unfold Argument.decodingLines
  cases kind : argument.kind with
  | scalar | text | address =>
      simp only [List.forall_mem_singleton]
      exact not_endsInE_append_literal _ _ (by decide)
  | array element =>
      simp only [List.forall_mem_cons]
      refine ⟨?_, ?_, ?_, ?_, ?_, ?_, ?_, ?_, ?_, by simp⟩
      · exact not_endsInE_append_literal _ _ (by decide)
      · exact not_endsInE_append_literal _ _ (by decide)
      · exact not_endsInE_append_literal _ _ (by decide)
      · exact not_endsInE_append_literal _ _ (by decide)
      · exact not_endsInE_append_literal _ _ (by decide)
      · exact not_endsInE_literal _ (by decide)
      · exact not_endsInE_literal _ (by decide)
      · exact not_endsInE_append_literal _ _ (by decide)
      · exact not_endsInE_literal _ (by decide)
  | unknown => exact absurd kind known

end Parts

section Count

variable {function : Function}

def StoodInFor (function : Function) (argument : Argument) : Prop :=
  argument.kind = .unknown ∧ ¬ PassesBlob function argument

instance (function : Function) (argument : Argument) : Decidable (StoodInFor function argument) :=
  inferInstanceAs (Decidable (_ ∧ _))

def standsIn (line : Line) : Bool :=
  StandsIn line.render

theorem placeholderCount_render (lines : List Line) :
    placeholderCount (lines.map Line.render) = lines.countP standsIn := by
  rw [placeholderCount, List.countP_map]
  rfl

theorem standsIn_eq_false (line : Line) (other : ¬ EndsInE line.text) : standsIn line = false :=
  decide_eq_false fun shown => other ((endsInE_render line).mp shown.endsInE)

theorem countP_standsIn_eq_zero {lines : List Line} (others : ∀ line ∈ lines, ¬ EndsInE line.text) :
    lines.countP standsIn = 0 := by
  rw [List.countP_eq_zero]
  intro line member
  simp [standsIn_eq_false line (others line member)]

theorem countP_standsIn_passageLines (function : Function) (argument : Argument) (position : Nat) :
    (passageLines function argument position).countP standsIn =
      if StoodInFor function argument then 1 else 0 := by
  unfold passageLines
  split
  next blob =>
    rw [if_neg fun stood => stood.2 blob]
    apply countP_standsIn_eq_zero
    exact List.forall_mem_singleton.mpr (not_endsInE_append_literal _ _ (by decide))
  next plain =>
    have lookUp : (if LooksUpProgram function argument position then lookupLines else []).countP
        standsIn = 0 := by
      apply countP_standsIn_eq_zero
      intro line member
      obtain ⟨-, inside⟩ := List.mem_ite_nil_right.mp member
      exact not_endsInE_ownTexts _ (own_of_lookup (List.mem_map_of_mem inside))
    rw [List.countP_append, lookUp, Nat.zero_add]
    by_cases unknown : argument.kind = .unknown
    · rw [decodingLines_of_unknown unknown, if_pos ⟨unknown, plain⟩]
      simp [standsIn, standsIn_placeholderLine]
    · rw [if_neg fun stood => unknown stood.1]
      exact countP_standsIn_eq_zero (not_endsInE_decodingLines unknown position)

theorem placeholderLine_mem_passageLines_iff (function : Function) (argument : Argument)
    (position : Nat) :
    argument.placeholderLine ∈ passageLines function argument position ↔
      StoodInFor function argument := by
  constructor
  · intro shown
    have count := countP_standsIn_passageLines function argument position
    apply Decidable.byContradiction
    intro other
    rw [if_neg other, List.countP_eq_zero] at count
    exact count _ shown (decide_eq_true (standsIn_placeholderLine argument))
  · rintro ⟨unknown, plain⟩
    rw [passageLines, if_neg plain, decodingLines_of_unknown unknown]
    simp

theorem countP_standsIn_sectionLines (function : Function) :
    (sectionLines function).countP standsIn =
      function.arguments.countP (StoodInFor function ·) := by
  have each : ∀ item ∈ function.arguments.zipIdx,
      (item.1.declarationLine :: passageLines function item.1 item.2).countP standsIn =
        if decide (StoodInFor function item.1) then 1 else 0 := by
    intro item _
    have declaration : ¬ EndsInE item.1.declarationLine.text :=
      not_endsInE_append_literal _ _ (by decide)
    rw [← List.singleton_append, List.countP_append, countP_standsIn_passageLines,
      countP_standsIn_eq_zero (by simpa using declaration)]
    simp
  exact (countP_flatMap_of_each each).trans
    (countP_zipIdx_fst function.arguments (StoodInFor function ·))

theorem placeholderCount_unitLines (function : Function) :
    placeholderCount ((unitLines function).map Line.render) =
      if function.sideEffects then function.arguments.countP (StoodInFor function ·) else 0 := by
  have others := @countP_unitLines function standsIn (fun text => ¬ EndsInE text) standsIn_eq_false
  rw [placeholderCount_render, others not_endsInE_ownTexts (not_endsInE_giveUpTexts function)
    (not_endsInE_callLines function) (not_endsInE_append_literal _ _ (by decide)) (by decide)
    (by decide), countP_standsIn_sectionLines]

end Count

end ReplayGen.GL
