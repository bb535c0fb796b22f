import Mathlib.Data.List.Nodup
import ReplayGen.Proofs.Replay.Sections

set_option autoImplicit false

namespace ReplayGen

open Text

structure Line.Aside (line : Line) : Prop where
  uncalled : ¬ CallLike line.text
  unread : ∀ position, found (recordedValue position).toList line.text.toList = 0

theorem Line.aside_of_dotless {line : Line} (uncalled : ¬ CallLike line.text)
    (dotless : '.' ∉ line.text.toList) : line.Aside :=
  ⟨uncalled, fun position => found_recordedValue_eq_zero position dotless⟩

section Asides

variable {lines : List Line}

theorem mentions_eq_zero {position : Nat}
    (unread : ∀ line ∈ lines, found (recordedValue position).toList line.text.toList = 0) :
    mentions (recordedValue position) (lines.map Line.render) = 0 := by
  rw [mentions_render]
  induction lines with
  | nil => rfl
  | cons line rest ih =>
      rw [List.forall_mem_cons] at unread
      rw [List.map_cons, List.sum_cons, unread.1, ih unread.2]

theorem occurrences_eq_zero {text : String} (called : CallLike text)
    (uncalled : ∀ line ∈ lines, ¬ CallLike line.text) :
    occurrences text (lines.map Line.render) = 0 := by
  rw [occurrences, List.countP_map, List.countP_eq_zero]
  intro line member
  simpa using called.unsaid (uncalled line member)

end Asides

namespace Function

variable {function : Function}

theorem aside_headingLine (worded : function.Worded) : function.headingLine.Aside := by
  have name := worded.name.dotless
  apply Line.aside_of_dotless (function.ordinary_headingLine worded).uncalled
  simp [headingLine, name]

theorem aside_closingLines : ∀ line ∈ closingLines, line.Aside := by
  have unopened {line : Line} (quiet : '(' ∉ line.text.toList) : ¬ CallLike line.text :=
    fun called => quiet called.1
  simp only [closingLines, List.forall_mem_cons]
  exact ⟨Line.aside_of_dotless (unopened (by decide)) (by decide),
    Line.aside_of_dotless (unopened (by decide)) (by decide), List.forall_mem_nil _⟩

theorem aside_giveUpTexts (worded : function.Worded) {line : Line}
    (said : line.text ∈ function.giveUpTexts) : line.Aside := by
  have name := worded.name.dotless
  apply Line.aside_of_dotless (function.ordinary_giveUpTexts _ said).uncalled
  revert said
  generalize line.text = text
  revert text
  simp [giveUpTexts, name]

theorem aside_giveUpBlockLines (worded : function.Worded) :
    ∀ line ∈ function.giveUpBlockLines, line.Aside := by
  have head : (⟨1, "if (1) \x7b"⟩ : Line).Aside := by
    have braced : HasForeignMark "if (1) \x7b" := hasForeignMark_literal _ (by decide)
    exact Line.aside_of_dotless braced.uncalled (by decide)
  intro line member
  simp only [giveUpBlockLines, List.mem_append, List.mem_singleton, or_assoc] at member
  rcases member with rfl | inside | rfl
  · exact head
  · exact aside_giveUpTexts worded (function.text_mem_giveUpTexts inside)
  · exact aside_giveUpTexts worded (by simp [giveUpTexts])

theorem marked_giveUpBlockLines (function : Function) :
    ∀ line ∈ function.giveUpBlockLines, 2 ≤ line.depth ∨ line.Marked := by
  simp only [giveUpBlockLines, giveUpLines, List.cons_append, List.nil_append, List.forall_mem_cons]
  exact ⟨.inr (by decide), .inl (Nat.le_refl 2), .inl (Nat.le_refl 2), .inr (by decide),
    List.forall_mem_nil _⟩

theorem dotless_callLines (worded : function.Worded) :
    ∀ line ∈ function.callLines, '.' ∉ line.text.toList := by
  have called {text : String} (call : text ∈ function.callTexts) : '.' ∉ text.toList := fun dot =>
    (function.callLike_callTexts worded text call).2 ⟨'.', dot, by decide⟩
  unfold callTexts at called
  unfold callLines
  cases type : function.returnType with
  | none => exact List.forall_mem_singleton.mpr (called (by simp [type]))
  | some kept =>
      have typed := (worded.returnType kept type).dotless
      simp only [type] at called
      simp only [List.forall_mem_cons]
      exact ⟨by simp [typed], called (by simp), called (by simp), List.forall_mem_nil _⟩

def callingText (function : Function) : String :=
  (if function.returnType.isSome then "__result = " else "") ++ function.name ++ "(" ++
    ", ".intercalate function.argumentNames ++ ");"

theorem callingText_mem_callTexts (function : Function) : function.callingText ∈ function.callTexts := by
  unfold callingText callTexts
  cases function.returnType <;> simp [callText, argumentNames, ← String.toList_inj]

theorem callingText_mem_callLines (function : Function) :
    (⟨1, function.callingText⟩ : Line) ∈ function.callLines := by
  unfold callingText callLines
  cases function.returnType <;> simp [callText, argumentNames, ← String.toList_inj]

end Function

namespace Argument

theorem not_marked_declarationLine {argument : Argument} (name : Wordy argument.name)
    (type : Wordy argument.type) : ¬ argument.declarationLine.Marked := by
  have words := wordy_declared name type
  rintro ⟨c, mark, member⟩
  have apart : Line.tellingMarks.all (fun c => c ∈ marks ∧ c ∉ ";".toList) = true := by decide
  have own := of_decide_eq_true (List.all_eq_true.mp apart c mark)
  rw [declarationLine, String.toList_append, List.mem_append] at member
  exact member.elim (fun inside => words c inside own.1) own.2

theorem name_of_declarationLine {first second : Argument}
    (firstName : ' ' ∉ first.name.toList) (secondName : ' ' ∉ second.name.toList)
    (same : first.declarationLine = second.declarationLine) : first.name = second.name := by
  -- Types may hold spaces, names do not, so the lines are read from their ends.
  have letters := congrArg (fun line : Line => line.text.toList.reverse) same
  have mark {argument : Argument} (name : ' ' ∉ argument.name.toList) :
      ' ' ∉ ';' :: argument.name.toList.reverse := by
    simp [name]
  have ended {argument : Argument} : argument.declarationLine.text.toList.reverse =
      (';' :: argument.name.toList.reverse) ++ ' ' :: argument.localType.toList.reverse := by
    simp [declarationLine]
  simp only [ended] at letters
  have ends := (prefix_marked_iff (mark firstName) (mark secondName)).mp
    ⟨[], by rw [List.append_nil, letters]⟩
  exact String.toList_inj.mp (by simpa using ends.1)

end Argument

namespace Plan

section Parts

variable (plan : Plan) (function : Function)

def sectionLines : List Line :=
  function.arguments.flatMap fun argument =>
    (Script.code (plan.argumentScript function argument)).lines 1

def frontLines : List Line :=
  Script.layout 1 (plan.prologue function) ++ plan.sectionLines function ++
    if function.arguments.all (plan.decodes function) then [] else function.giveUpBlockLines

structure Sectioned : Prop where
  prologue : ∀ line ∈ Script.layout 1 (plan.prologue function),
    line.Aside ∧ (2 ≤ line.depth ∨ line.Marked)
  passage : ∀ argument ∈ function.arguments,
    ∀ line ∈ Script.layout 1 (plan.passage function argument), ¬ CallLike line.text
  sections : ∀ argument ∈ function.arguments,
    Section argument argument.index (plan.decodes function argument)
      (Script.code (plan.argumentScript function argument))
  call : ∃ before after, Script.layout 1 (plan.call function) = before ++ function.callLines ++ after ∧
    ∀ line ∈ before ++ after, line.Aside

end Parts

variable {plan : Plan} {function : Function}

theorem layout_unit_of_effects (balanced : plan.Balanced function) (effects : function.sideEffects = true) :
    Script.layout 0 (plan.unit function) = function.headingLine :: (plan.frontLines function ++
      Script.layout 1 (plan.call function) ++ Function.closingLines) := by
  have sections : Script.layout 1 (function.arguments.flatMap (plan.argumentScript function)) =
      plan.sectionLines function := by
    rw [Script.layout_flatMap fun argument _ => balanced.argumentScript argument, sectionLines]
    congr 1
    funext argument
    exact (balanced.argumentScript argument).layout_eq_lines 1
  have giveUp : Script.layout 1
      (if function.arguments.all (plan.decodes function) then [] else function.giveUpBlock) =
        if function.arguments.all (plan.decodes function) then [] else function.giveUpBlockLines := by
    split
    · rfl
    · exact function.layout_giveUpBlock
  rw [layout_unit balanced, afterPrologue, if_pos effects, balanced.decodings.layout_append,
    decodings, balanced.sections.layout_append, sections, giveUp, frontLines]
  simp only [List.append_assoc]

section Sections

variable (sectioned : plan.Sectioned function) (balanced : plan.Balanced function)
  (worded : function.Worded)

include sectioned balanced worded

theorem Sectioned.total_unit (effects : function.sideEffects = true) {total : List Line → Nat}
    (adds : ∀ first second, total (first ++ second) = total first + total second)
    (asides : ∀ lines, (∀ line ∈ lines, line.Aside) → total lines = 0) :
    total (Script.layout 0 (plan.unit function)) =
      total (plan.sectionLines function) + total function.callLines := by
  have giveUp : total (if function.arguments.all (plan.decodes function) then [] else
      function.giveUpBlockLines) = 0 := by
    split
    · exact asides [] (List.forall_mem_nil _)
    · exact asides _ (function.aside_giveUpBlockLines worded)
  have heading := asides _ (List.forall_mem_singleton.mpr (function.aside_headingLine worded))
  have prologue := asides _ fun line member => (sectioned.prologue line member).1
  have closing := asides _ Function.aside_closingLines
  obtain ⟨before, after, layout, aside⟩ := sectioned.call
  rw [List.forall_mem_append] at aside
  rw [layout_unit_of_effects balanced effects, ← List.singleton_append, layout, frontLines]
  simp only [adds, heading, prologue, giveUp, closing, asides _ aside.1, asides _ aside.2, Nat.zero_add,
    Nat.add_zero]

theorem Sectioned.occurrences_callingText (spelled : function.Spelled)
    (effects : function.sideEffects = true) :
    occurrences function.callingText ((Script.layout 0 (plan.unit function)).map Line.render) = 1 := by
  have call := function.callingText_mem_callTexts
  have called := function.callLike_callTexts worded _ call
  have sections : occurrences function.callingText ((plan.sectionLines function).map Line.render) = 0 := by
    apply occurrences_eq_zero called
    intro line member
    obtain ⟨argument, listed, inside⟩ := List.mem_flatMap.mp member
    rw [← (balanced.argumentScript argument).layout_eq_lines 1] at inside
    rcases List.mem_cons.mp inside with rfl | inside
    · exact (argument.ordinary_declarationLine (worded.argumentName argument listed)
        (worded.argumentType argument listed)).uncalled
    · exact sectioned.passage argument listed line inside
  have total := sectioned.total_unit balanced worded effects
    (fun first second => by rw [List.map_append, occurrences_append])
    (fun lines aside => occurrences_eq_zero called fun line member => (aside line member).uncalled)
  rw [total, sections, function.occurrences_callLines spelled call]

theorem Sectioned.mentions_unit (sound : function.Sound) (effects : function.sideEffects = true)
    (position : Nat) :
    mentions (recordedValue position) ((Script.layout 0 (plan.unit function)).map Line.render) =
      if function.arguments[position]?.any (plan.decodes function) then 1 else 0 := by
  have sections : mentions (recordedValue position) ((plan.sectionLines function).map Line.render) =
      if function.arguments[position]?.any (plan.decodes function) then 1 else 0 := by
    rw [sectionLines, mentions_flatMap, ← sound.sum_positions]
    congr 1
    exact List.map_congr_left fun argument listed => (sectioned.sections argument listed).reads position
  have call : mentions (recordedValue position) (function.callLines.map Line.render) = 0 :=
    mentions_eq_zero fun line member =>
      found_recordedValue_eq_zero position (function.dotless_callLines worded line member)
  have total := sectioned.total_unit balanced worded effects
    (fun first second => by rw [List.map_append, mentions_append])
    (fun lines aside => mentions_eq_zero fun line member => (aside line member).unread position)
  rw [total, sections, call, Nat.add_zero]

theorem Sectioned.count_declarationLine (careful : plan.Careful function) (sound : function.Sound)
    (names : ∀ argument ∈ function.arguments, ' ' ∉ argument.name.toList)
    (distinct : function.argumentNames.Nodup) {argument : Argument}
    (listed : argument ∈ function.arguments) :
    (plan.frontLines function).count argument.declarationLine = 1 := by
  have unmarked := Argument.not_marked_declarationLine (worded.argumentName argument listed)
    (worded.argumentType argument listed)
  have none {lines : List Line} (other : ∀ line ∈ lines, 2 ≤ line.depth ∨ line.Marked) :
      lines.count argument.declarationLine = 0 := by
    rw [List.count_eq_zero]
    intro member
    rcases other _ member with deep | marked
    · exact absurd deep (by simp [Argument.declarationLine])
    · exact unmarked marked
  have giveUp : (if function.arguments.all (plan.decodes function) then [] else
      function.giveUpBlockLines).count argument.declarationLine = 0 := by
    split
    · rfl
    · exact none function.marked_giveUpBlockLines
  have each : ∀ other ∈ function.arguments,
      ((Script.code (plan.argumentScript function other)).lines 1).count argument.declarationLine =
        if argument.index = other.index ∧ decide (other = argument) = true then 1 else 0 := by
    intro other found
    have passage := none fun line member => .inr (careful.passage other found line member).1
    have same : other.declarationLine = argument.declarationLine ↔ other = argument := by
      refine ⟨fun lines => ?_, congrArg Argument.declarationLine⟩
      have named := Argument.name_of_declarationLine (names other found) (names argument listed) lines
      exact List.inj_on_of_nodup_map distinct found listed named
    rw [← (balanced.argumentScript other).layout_eq_lines 1,
      show Script.layout 1 (plan.argumentScript function other) =
        other.declarationLine :: Script.layout 1 (plan.passage function other) from rfl,
      List.count_cons, passage, Nat.zero_add]
    by_cases here : other = argument
    · simp [here]
    · simp [here, same]
  have here := sound.getElem?_iff.mpr ⟨listed, rfl⟩
  have sections : (plan.sectionLines function).count argument.declarationLine = 1 := by
    have total := sound.sum_positions (fun other => decide (other = argument)) argument.index
    rw [here, ← List.map_congr_left each] at total
    rw [sectionLines, List.count_flatMap]
    exact total.trans (by simp)
  rw [frontLines, List.count_append, List.count_append, sections, giveUp,
    none fun line member => (sectioned.prologue line member).2]

end Sections

end Plan

end ReplayGen
