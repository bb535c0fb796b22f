import ReplayGen.Proofs.Text.Distinctive
import ReplayGen.Proofs.Replay.Lines

set_option autoImplicit false

namespace ReplayGen

open Text

theorem ordinary_brace : Ordinary "\x7d" :=
  ordinary_literal _ (by decide) (by decide)

namespace Argument

variable {argument : Argument}

theorem ordinary_declarationLine (name : Wordy argument.name) (type : Wordy argument.type) :
    Ordinary argument.declarationLine.text := by
  have words := wordy_declared name type
  exact words.ordinary (ordinary_literal _ (by decide) (by decide))

theorem ordinary_reading (name : Wordy argument.name) {value : String}
    (foreign : HasForeignMark value) : Ordinary (argument.name ++ (" = (" ++ value)) := by
  refine name.ordinary (ordinary_opening _ (by decide) ?_)
  exact (hasForeignMark_append _ _).mpr (.inr foreign)

theorem ordinary_decodingLines (name : Wordy argument.name) (position : Nat) :
    ∀ line ∈ argument.decodingLines position, Ordinary line.text := by
  have recorded (rest : String) : HasForeignMark ("call.arg(" ++ rest) :=
    (hasForeignMark_append _ _).mpr (.inl (hasForeignMark_literal _ (by decide)))
  unfold decodingLines
  cases argument.kind with
  | scalar kind =>
      simp only [List.forall_mem_singleton, String.append_assoc]
      exact ordinary_reading name (recorded _)
  | text =>
      simp only [List.forall_mem_singleton, String.append_assoc]
      exact ordinary_reading name (recorded _)
  | address =>
      simp only [List.forall_mem_singleton, String.append_assoc]
      refine ordinary_reading name ?_
      simp only [hasForeignMark_append]
      exact .inr (.inr (.inl (hasForeignMark_literal _ (by decide))))
  | array element =>
      -- The head of the test reaches into the name of the local.
      have opened : "if (" ++ "__a_" = "if (__a_" := by decide
      simp only [List.forall_mem_cons, String.append_assoc]
      refine ⟨?_, ?_, ?_, ?_, ?_, ordinary_brace, ?_, ?_, ordinary_brace, by simp⟩
      · refine ordinary_opening _ (by decide) ?_
        simp only [hasForeignMark_append]
        exact .inl (hasForeignMark_literal _ (by decide))
      · rw [← @String.append_assoc "if (", opened]
        refine ordinary_opening _ (by decide) ?_
        simp only [hasForeignMark_append]
        exact .inr (.inr (hasForeignMark_literal _ (by decide)))
      · refine name.ordinary (ordinary_opening _ (by decide) ?_)
        simp only [hasForeignMark_append]
        exact .inr (.inr (.inl (hasForeignMark_literal _ (by decide))))
      · refine ordinary_opening _ (by decide) ?_
        simp only [hasForeignMark_append]
        exact .inr (.inr (.inr (.inr (.inr (.inr (.inl (hasForeignMark_literal _ (by decide))))))))
      · refine name.ordinary (ordinary_opening _ (by decide) ?_)
        simp only [hasForeignMark_append]
        exact .inl (hasForeignMark_literal _ (by decide))
      · exact ordinary_literal _ (by decide) (by decide)
      · exact name.ordinary (ordinary_literal _ (by decide) (by decide))
  | unknown =>
      simp only [List.forall_mem_singleton]
      exact name.ordinary (ordinary_literal _ (by decide) (by decide))

end Argument

namespace Function

variable {function : Function}

theorem ordinary_headingLine (worded : function.Worded) :
    Ordinary function.headingLine.text := by
  have words : Wordy ("static void retrace_" ++ function.name) :=
    (wordy_literal _ (by decide)).append worded.name
  exact words.ordinary (ordinary_literal _ (by decide) (by decide))

def giveUpTexts (function : Function) : List String :=
  ["std::cerr << \"warning: unsupported call " ++ function.name ++ "\\n\";", "return;", "\x7d"]

theorem text_mem_giveUpTexts {depth : Nat} {line : Line} (member : line ∈ function.giveUpLines depth) :
    line.text ∈ function.giveUpTexts := by
  simp only [giveUpLines, List.mem_cons, List.not_mem_nil, or_false] at member
  rcases member with rfl | rfl <;> simp [giveUpTexts]

theorem ordinary_giveUpTexts (function : Function) :
    ∀ text ∈ function.giveUpTexts, Ordinary text := by
  simp only [giveUpTexts, List.forall_mem_cons, String.append_assoc]
  refine ⟨?_, ordinary_literal _ (by decide) (by decide), ordinary_brace, by simp⟩
  refine ordinary_opening _ (by decide) ?_
  exact (hasForeignMark_append _ _).mpr (.inl (hasForeignMark_literal _ (by decide)))

def callTexts (function : Function) : List String :=
  match function.returnType with
  | none => [function.callText]
  | some _ => ["__result = " ++ function.callText, "(void)__result;"]

theorem callLike_callTexts (worded : function.Worded) :
    ∀ text ∈ function.callTexts, CallLike text := by
  have joined : ¬ HasForeignMark (", ".intercalate (function.arguments.map Argument.name)) := by
    rintro ⟨c, member, foreign⟩
    rw [String.toList_intercalate] at member
    rcases mem_joined_names worded member with rfl | solid
    · exact absurd foreign (by decide)
    · exact solid (List.mem_filter.mp foreign).1
  have call : CallLike function.callText := by
    refine ⟨by simp [callText], ?_⟩
    simp only [callText, hasForeignMark_append, not_or]
    exact ⟨⟨⟨worded.name.noForeignMark, noForeignMark_literal _ (by decide)⟩, joined⟩,
      noForeignMark_literal _ (by decide)⟩
  unfold callTexts
  cases function.returnType with
  | none => simpa using call
  | some type =>
      simp only [List.forall_mem_cons]
      refine ⟨⟨by simp [call.1], ?_⟩, ⟨by decide, noForeignMark_literal _ (by decide)⟩, by simp⟩
      rw [hasForeignMark_append, not_or]
      exact ⟨noForeignMark_literal _ (by decide), call.2⟩

theorem mem_callLines (worded : function.Worded) :
    ∀ line ∈ function.callLines, Ordinary line.text ∨ line.text ∈ function.callTexts := by
  unfold callLines callTexts
  cases type : function.returnType with
  | none => simp
  | some kept =>
      simp only [List.forall_mem_cons]
      refine ⟨.inl ?_, .inr (by simp), .inr (by simp), by simp⟩
      exact (worded.returnType kept type).ordinary (ordinary_literal _ (by decide) (by decide))

theorem flush_callTexts (spelled : function.Spelled) :
    ∀ text ∈ function.callTexts, unindented text = text := by
  have started (first : Char) (rest : List Char) (solid : first ≠ ' ') {text : String}
      (letters : text.toList = first :: rest) : unindented text = text := by
    rw [unindented, letters, List.dropWhile_cons_of_neg (by simpa using solid), ← letters,
      String.ofList_toList]
  -- The call starts with the name of the function, which is not empty.
  have call : unindented function.callText = function.callText := by
    have identifier := spelled.name
    cases letters : function.name.toList with
    | nil => simp [letters, isIdentifier] at identifier
    | cons first rest =>
        refine started first _ ?_ (by simp [callText, letters]; rfl)
        rintro rfl
        simp [letters, isIdentifier] at identifier
  unfold callTexts
  cases function.returnType with
  | none => simpa using call
  | some type =>
      simp only [List.forall_mem_cons]
      refine ⟨started '_' _ (by decide) (by simp; rfl), started '(' _ (by decide) rfl, by simp⟩

theorem occurrences_callLines (spelled : function.Spelled) {text : String}
    (member : text ∈ function.callTexts) :
    occurrences text (function.callLines.map Line.render) = 1 := by
  have worded := spelled.worded
  have called := function.callLike_callTexts worded text member
  have flush := function.flush_callTexts spelled
  -- Their first characters differ, whatever the call is.
  have apart : "__result = " ++ function.callText ≠ "(void)__result;" := by
    rw [Ne, ← String.toList_inj, String.toList_append]
    simp
  unfold callLines
  unfold callTexts at member flush
  cases type : function.returnType with
  | none =>
      simp only [type, List.mem_singleton, forall_eq] at member flush
      simp [occurrences, unindented_render, member, flush]
  | some kept =>
      simp only [type, List.forall_mem_cons] at flush
      have declaration : Ordinary (kept ++ " __result;") :=
        (worded.returnType kept type).ordinary (ordinary_literal _ (by decide) (by decide))
      have declared : unindented (kept ++ " __result;") ≠ text :=
        unindented_render ⟨1, kept ++ " __result;"⟩ ▸ called.unsaid declaration.uncalled
      simp only [type, List.mem_cons, List.not_mem_nil, or_false] at member
      rcases member with rfl | rfl
      · simp [occurrences, unindented_render, declared, flush.1, flush.2.1, apart.symm]
      · simp [occurrences, unindented_render, declared, flush.1, flush.2.1, apart]

end Function

end ReplayGen
