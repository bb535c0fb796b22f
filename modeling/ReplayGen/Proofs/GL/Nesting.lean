import ReplayGen.Proofs.GL.FileLines
import ReplayGen.Proofs.Replay.Nesting

set_option autoImplicit false

namespace ReplayGen.GL

open Text

section Plan

variable {function : Function}

theorem nested_requireBuffer (worded : function.Worded) {buffer binding : String}
    (bufferBraceless : buffer.toList.filter isBrace = [])
    (bindingBraceless : binding.toList.filter isBrace = []) :
    Script.Nested (requireBuffer function buffer binding) := by
  simp [requireBuffer, Step.begins, Step.ends, Step.Nested, Function.nested_giveUp worded, Solid,
    braces, bufferBraceless, bindingBraceless, isBrace]

theorem nested_prologue (worded : function.Worded) : Script.Nested (prologue function) := by
  refine forall_mem_prologue ?_ ?_ ?_ ?_
  · simp [Step.Nested, Solid, braces, isBrace]
  · exact nested_requireBuffer worded (by decide) (by decide)
  · exact nested_requireBuffer worded (by decide) (by decide)
  · simp [Step.Nested, braces, isBrace]

theorem nested_extract {argument : Argument} (name : Wordy argument.name)
    (type : Wordy argument.type) (start : Solid argument.name) :
    Script.Nested
      (extract function argument argument.name (recordedValue argument.index)).script := by
  have position : (Nat.toDigits 10 argument.index).filter isBrace = [] :=
    filter_isBrace fun c member => not_mark_of_mem_toDigits member
  have blob : (readStatement "blob" argument.name (recordedValue argument.index)).Nested := by
    obtain ⟨c, head, flush, other⟩ := solid_iff.mp start
    simp [readStatement, recordedValue, Step.Nested, Solid, head, flush, other, braces,
      name.braceless, position, isBrace]
  have lookUp : Script.Nested (lookUpProgram function) := by
    simp [lookUpProgram, Step.Nested, Solid, braces, isBrace]
  exact forall_mem_extract trivial blob lookUp (Argument.nested_decoding name type start)

theorem nested_growWindow : Script.Nested growWindow := by
  have asked := @Step.nested_line "reshape_window = true;" (plain_literal _ (by decide))
  have done := @Step.nested_line "reshape_window = false;" (plain_literal _ (by decide))
  simp only [growWindow, Script.nested_cons, Script.nested_nil, Step.nested_ends, asked, done,
    true_and, and_true]
  refine ⟨Step.nested_line ?_, Step.nested_begins ?_, Step.nested_line ?_, Step.nested_begins ?_,
    Step.nested_line ?_, Step.nested_begins ?_, Step.nested_line ?_, Step.nested_line ?_⟩
  all_goals exact plain_literal _ (by decide)

theorem nested_snapshotOnChange : Script.Nested snapshotOnChange := by
  simp only [snapshotOnChange, Script.nested_cons, Script.nested_nil, Step.nested_ends, and_true]
  refine ⟨Step.nested_line ?_, Step.nested_line ?_, Step.nested_begins ?_, Step.nested_line ?_,
    Step.nested_line ?_⟩
  all_goals exact plain_literal _ (by decide)

theorem nested_call (worded : function.Worded) (solid : function.Solid) :
    Script.Nested (call function) := by
  have alone : ∀ text ∈ singleTexts, (Step.line text).Nested := by
    simp only [singleTexts, List.forall_mem_cons]
    refine ⟨Step.nested_line ?_, Step.nested_line ?_, Step.nested_line ?_, Step.nested_line ?_,
      List.forall_mem_nil _⟩
    all_goals exact plain_literal _ (by decide)
  exact forall_mem_call nested_growWindow nested_snapshotOnChange alone
    (Function.nested_callStatement worded solid)

theorem nested_plan (worded : function.Worded) (solid : function.Solid) :
    plan.Nested function where
  prologue := nested_prologue worded
  decoding argument member :=
    nested_extract (worded.argumentName argument member) (worded.argumentType argument member)
      (solid.argumentName argument member)
  call := nested_call worded solid

end Plan

section File

variable {functions : List Function}

theorem nested_unit (lettered : ∀ function ∈ functions, function.Lettered) (function : Function)
    (member : function ∈ functions) : Script.Nested (plan.unit function) := by
  have worded := (lettered function member).worded
  have solid := (lettered function member).solid
  exact (nested_plan worded solid).unit worded solid

theorem unbroken_unit (worded : ∀ function ∈ functions, function.Worded) (function : Function)
    (member : function ∈ functions) : Script.Unbroken (plan.unit function) :=
  (unbroken_plan (worded function member).unbroken).unit (worded function member).unbroken

theorem nested_file (lettered : ∀ function ∈ functions, function.Lettered) :
    Script.Nested (plan.file functions) := by
  refine Plan.forall_mem_file (nested_unit lettered) (nested_dispatchTable ?_) trivial
  intro name member
  obtain ⟨function, listed, rfl⟩ := List.mem_map.mp member
  exact (lettered function listed).worded.name

def headerScript : Script :=
  [.blank, .line "#include \"glproc.hpp\"", .line "#include \"glretrace.hpp\"", .blank, .blank,
    .blank]

theorem balanced_headerScript : Script.Balanced headerScript :=
  fun _ => rfl

theorem nested_headerScript : Script.Nested headerScript := by
  have blank : Step.blank.Nested := trivial
  simp only [headerScript, Script.nested_cons, Script.nested_nil, blank, true_and, and_true]
  refine ⟨Step.nested_line ?_, Step.nested_line ?_⟩
  all_goals exact plain_literal _ (by decide)

theorem balance_fileHeader : balance fileHeader = 0 := by
  have shown : Script.layout 0 headerScript = headerLines := rfl
  have ended := (nested_headerScript.layout (balanced_headerScript 0)).2
  rw [shown, ← fileHeader_eq] at ended
  simpa using ended

theorem nests_lines (lettered : ∀ function ∈ functions, function.Lettered) :
    Nests 0 (lines (generate functions).text) := by
  have header := balanced_headerScript
  have balanced : Script.Balanced (plan.file functions) :=
    Plan.balanced_file fun function _ => balanced_plan function
  have whole : Script.Nested (headerScript ++ plan.file functions) := by
    rw [Script.nested_append]
    exact ⟨nested_headerScript, nested_file lettered⟩
  have shown : Script.layout 0 (headerScript ++ plan.file functions) = fileLines functions := by
    rw [header.layout_append, fileLines_eq]
    rfl
  rw [lines_generate fun function member => (lettered function member).worded, ← shown]
  exact (whole.layout ((header.append balanced) 0)).1

theorem level_generate (lettered : ∀ function ∈ functions, function.Lettered)
    {front rest : Script} (split : .raw fileHeader :: plan.file functions = front ++ rest) :
    ∃ here, Emit.play front {} = .ok () here ∧ here.Level := by
  have worded (function : Function) (member : function ∈ functions) : function.Worded :=
    (lettered function member).worded
  cases front with
  | nil => exact ⟨{}, rfl, rfl⟩
  | cons first others =>
      rw [List.cons_append, List.cons.injEq] at split
      obtain ⟨rfl, split⟩ := split
      have nested := nested_file lettered
      have unbroken := unbroken_file worded
      have ended : Script.depthAfter? 0 (plan.file functions) = some 0 :=
        Plan.balanced_file (fun function _ => balanced_plan function) 0
      rw [split] at nested unbroken ended
      rw [Script.depthAfter?_append] at ended
      obtain ⟨depth, reached, -⟩ := Option.bind_eq_some_iff.mp ended
      have start : Draft.Level { text := fileHeader } := balance_fileHeader.symm
      exact start.play ((Script.nested_append _ _).mp nested).1
        ((Script.unbroken_append _ _).mp unbroken).1 reached

theorem balance_units (lettered : ∀ function ∈ functions, function.Lettered) :
    balance (String.join (functions.map (plan.hooks.unitText 0))) = 0 := by
  have balanced (function : Function) (_ : function ∈ functions) : plan.Balanced function :=
    balanced_plan function
  have worded (function : Function) (member : function ∈ functions) : function.Worded :=
    (lettered function member).worded
  have nested : Script.Nested (functions.flatMap plan.unit) :=
    Plan.forall_mem_units (nested_unit lettered)
  have unbroken : Script.Unbroken (functions.flatMap plan.unit) :=
    Plan.forall_mem_units (unbroken_unit worded)
  have ended := nested.written unbroken (Plan.balanced_units balanced 0)
  rw [Plan.written_units balanced] at ended
  simpa using ended

theorem generate_nesting (lettered : ∀ function ∈ functions, function.Lettered) :
    unlines (lines (generate functions).text) = (generate functions).text ∧
    (∀ front line back, lines (generate functions).text = front ++ line :: back → line ≠ "" →
      (leadingSpaces line : Int) = 4 * (balance (unlines front) - closings line)) ∧
    (∀ front rest, (generate functions).text = front ++ rest → 0 ≤ balance front) ∧
    (∀ earlier later, functions = earlier ++ later →
      let front := fileHeader ++ String.join (earlier.map (plan.hooks.unitText 0))
      (∃ rest, (generate functions).text = front ++ rest) ∧ balance front = 0) ∧
    balance (generate functions).text = 0 ∧
    file functions = Emit.play (.raw fileHeader :: plan.file functions) ∧
    ∀ front rest, .raw fileHeader :: plan.file functions = front ++ rest →
      ∃ here, Emit.play front {} = .ok () here ∧ (here.depth : Int) = balance here.text := by
  have worded (function : Function) (member : function ∈ functions) : function.Worded :=
    (lettered function member).worded
  have nests := nests_lines lettered
  have whole : unlines (lines (generate functions).text) = (generate functions).text := by
    rw [lines_generate worded, ← generate_eq_unlines worded]
  refine ⟨whole, ?_, ?_, ?_, ?_, file_eq functions, fun front rest => level_generate lettered⟩
  · intro front line back split nonempty
    rw [split] at nests
    simpa using nests.fits.indented nonempty
  · intro front rest split
    have inside : front.toList <+: (unlines (lines (generate functions).text)).toList := by
      rw [whole, split, String.toList_append]
      exact List.prefix_append _ _
    have covered := nests.covered (Int.le_refl 0) inside
    rwa [Int.zero_add] at covered
  · rintro earlier later rfl
    refine ⟨⟨_, generate_text_append earlier later⟩, ?_⟩
    rw [balance_append, balance_fileHeader,
      balance_units fun function member => lettered function (List.mem_append_left _ member)]
    rfl
  · have ended := (nested_file lettered).written (unbroken_file worded)
      (Plan.balanced_file (fun function _ => balanced_plan function) 0)
    rw [generate_eq, balance_append, balance_fileHeader]
    exact ended

end File

def deleteBuffers : List Function :=
  [.build "glDeleteBuffers" [.argument "n" "GLsizei" false,
    .argument "buffer" "const GLuint *" true]]

theorem generate_nesting_deleteBuffers :
    (∀ function ∈ deleteBuffers, function.Lettered) ∧
      balance (generate deleteBuffers).text = 0 ∧
      ∃ front back, lines (generate deleteBuffers).text = front ++ "    \x7d else \x7b" :: back ∧
        balance (unlines front) = 2 := by
  have lettered : ∀ function ∈ deleteBuffers, function.Lettered := by
    simp only [deleteBuffers, List.forall_mem_singleton]
    exact Function.build_lettered (by decide) (by decide +kernel)
  obtain ⟨-, indented, -, -, ended, -⟩ := generate_nesting lettered
  have shown : "    \x7d else \x7b" ∈ lines (generate deleteBuffers).text := by
    rw [lines_generate fun function member => (lettered function member).worded]
    decide +kernel
  obtain ⟨front, back, split⟩ := List.append_of_mem shown
  refine ⟨lettered, ended, front, back, split, ?_⟩
  have spaces := indented front _ back split (by decide)
  have four : leadingSpaces "    \x7d else \x7b" = 4 := by decide +kernel
  have one : closings "    \x7d else \x7b" = 1 := by decide +kernel
  rw [four, one] at spaces
  omega

end ReplayGen.GL
