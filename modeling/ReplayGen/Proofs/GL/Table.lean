import ReplayGen.Proofs.Catalog.Validation
import ReplayGen.Proofs.Emission.Depth
import ReplayGen.Proofs.GL.FileLines

set_option autoImplicit false

namespace ReplayGen

theorem Line.render_outside (text : String) : render ⟨0, text⟩ = text := by
  rw [← String.toList_inj, render_toList]
  split
  next empty => exact (String.toList_eq_nil_iff.mpr (String.isEmpty_iff.mp empty)).symm
  next => simp

theorem Line.head?_render {line : Line} (inside : 0 < line.depth) :
    line.render.toList.head? = none ∨ line.render.toList.head? = some ' ' := by
  rw [render_toList]
  split
  · exact .inl rfl
  · refine .inr ?_
    rw [show 4 * line.depth = (4 * line.depth - 1) + 1 by omega, List.replicate_succ]
    rfl

end ReplayGen

namespace ReplayGen.GL

open Text

def headingStart : String :=
  "static void retrace_"

def StartsUnit (line : String) : Prop :=
  headingStart.toList <+: line.toList

instance (line : String) : Decidable (StartsUnit line) :=
  inferInstanceAs (Decidable (_ <+: _))

def headingText (name : String) : String :=
  headingStart ++ name ++ "(Trace::Call &call) \x7b"

section Unit

variable {function : Function}

def linesAfterHeading (function : Function) : List Line :=
  Script.layout 1 (plan.prologue function) ++ Script.layout 1 (plan.afterPrologue function) ++
    Function.closingLines

theorem layout_unit_eq (function : Function) :
    Script.layout 0 (plan.unit function) = function.headingLine :: linesAfterHeading function :=
  Plan.layout_unit (balanced_plan function)

theorem head?_linesAfterHeading {line : Line} (member : line ∈ linesAfterHeading function) :
    line.render.toList.head? ∈ [none, some ' ', some '\x7d'] := by
  have balanced := balanced_plan function
  have inner (inside : 0 < line.depth) :
      line.render.toList.head? ∈ [none, some ' ', some '\x7d'] := by
    rcases line.head?_render inside with first | first <;> simp [first]
  simp only [linesAfterHeading, List.mem_append, or_assoc] at member
  rcases member with inside | inside | closing
  · exact inner (balanced.prologue.le_depth inside)
  · exact inner (balanced.afterPrologue.le_depth inside)
  · have first : ∀ line ∈ Function.closingLines,
        line.render.toList.head? ∈ [none, some ' ', some '\x7d'] := by decide +kernel
    exact first line closing

end Unit

theorem headingText_inj {a b : String} : headingText a = headingText b ↔ a = b := by
  simp [headingText]

theorem tableEntry_inj {a b : String} : tableEntry a = tableEntry b ↔ a = b := by
  refine ⟨fun same => ?_, fun same => same ▸ rfl⟩
  -- The name stands twice in its entry, so the length of the entry tells that of the name.
  have lists := congrArg String.toList same
  simp only [tableEntry, String.toList_append, List.append_assoc] at lists
  have sizes := congrArg List.length lists
  simp only [List.length_append] at sizes
  have names := List.append_cancel_left lists
  exact String.toList_inj.mp (List.append_inj_left names (by omega))

theorem render_headingLine (function : Function) :
    function.headingLine.render = headingText function.name :=
  Line.render_outside _

theorem render_entry (name : String) :
    Line.render ⟨1, tableEntry name⟩ = "    " ++ tableEntry name := by
  simp [Line.render, tableEntry, indentation]

theorem not_startsUnit {line : String} (other : line.toList.head? ≠ some 's') :
    ¬ StartsUnit line := by
  rintro ⟨rest, shown⟩
  rw [← shown] at other
  exact other rfl

theorem startsUnit_headingText (name : String) : StartsUnit (headingText name) := by
  simp [StartsUnit, headingText]

theorem filter_unit (function : Function) :
    ((Script.layout 0 (plan.unit function)).map Line.render).filter (fun l => StartsUnit l) =
      [headingText function.name] := by
  have rest : ((linesAfterHeading function).map Line.render).filter (fun l => StartsUnit l) = [] := by
    rw [List.filter_eq_nil_iff]
    intro line member
    obtain ⟨inner, inside, rfl⟩ := List.mem_map.mp member
    have first := head?_linesAfterHeading inside
    simp only [decide_eq_true_eq]
    refine not_startsUnit fun start => ?_
    rw [start] at first
    exact absurd first (by decide)
  rw [layout_unit_eq, List.map_cons, List.filter_cons_of_pos, rest, render_headingLine]
  rw [render_headingLine]
  simpa using startsUnit_headingText function.name

theorem head?_linesAfterStart {names : List String} {line : String}
    (member : line ∈ names.map (fun name => "    " ++ tableEntry name) ++
      ["    " ++ tableSentinel, "\x7d;"]) :
    line.toList.head? ∈ [some ' ', some '\x7d'] := by
  simp only [List.mem_append, List.mem_map, List.mem_cons, List.not_mem_nil, or_false] at member
  rcases member with ⟨name, -, rfl⟩ | rfl | rfl <;> simp

theorem tableLines_render (names : List String) :
    (tableLines names).map Line.render =
      tableStart :: (names.map (fun name => "    " ++ tableEntry name) ++
        ["    " ++ tableSentinel, "\x7d;"]) := by
  have sentinel : Line.render ⟨1, tableSentinel⟩ = "    " ++ tableSentinel := by
    simp [Line.render, tableSentinel, indentation]
  simp only [tableLines, List.map_cons, List.map_append, List.map_map, List.map_nil, sentinel,
    Line.render_outside, Function.comp_def, render_entry]

theorem filter_table (names : List String) :
    ((tableLines names).map Line.render).filter (fun l => StartsUnit l) = [] := by
  rw [List.filter_eq_nil_iff, tableLines_render]
  intro line member
  rw [decide_eq_true_eq]
  refine not_startsUnit fun start => ?_
  rcases List.mem_cons.mp member with rfl | inside
  · exact absurd start (by decide)
  · have first := head?_linesAfterStart inside
    rw [start] at first
    exact absurd first (by decide)

def linesBeforeTable (functions : List Function) : List String :=
  (headerLines ++ functions.flatMap fun function => Script.layout 0 (plan.unit function)).map
    Line.render

theorem fileLines_render (functions : List Function) :
    (fileLines functions).map Line.render =
      linesBeforeTable functions ++ tableStart ::
        ((functions.map Function.name).map (fun name => "    " ++ tableEntry name) ++
          ["    " ++ tableSentinel, "\x7d;"]) := by
  rw [fileLines, List.map_append, tableLines_render, linesBeforeTable]

theorem filter_linesBeforeTable (functions : List Function) :
    (linesBeforeTable functions).filter (fun l => StartsUnit l) =
      (functions.map Function.name).map headingText := by
  have header : (headerLines.map Line.render).filter (fun l => StartsUnit l) = [] := by
    decide +kernel
  rw [linesBeforeTable, List.map_append, List.filter_append, header, List.map_flatMap,
    List.filter_flatMap]
  simp only [filter_unit]
  rw [List.map_map, List.map_eq_flatMap]
  rfl

theorem tableStart_not_mem_linesBeforeTable (functions : List Function) :
    tableStart ∉ linesBeforeTable functions := by
  have start : tableStart.toList.head? = some 'c' := by decide
  have header : tableStart ∉ headerLines.map Line.render := by decide +kernel
  rw [linesBeforeTable, List.map_append, List.mem_append, not_or]
  refine ⟨header, fun member => ?_⟩
  obtain ⟨line, inside, same⟩ := List.mem_map.mp member
  obtain ⟨function, -, inside⟩ := List.mem_flatMap.mp inside
  rw [layout_unit_eq, List.mem_cons] at inside
  rcases inside with rfl | inside
  · rw [render_headingLine] at same
    simp [← same, headingText, headingStart] at start
  · have first := head?_linesAfterHeading inside
    rw [same, start] at first
    exact absurd first (by decide)

theorem generate_readBack {functions : List Function} {catalog : Catalog}
    (accepted : Catalog.ofFunctions functions = .ok catalog)
    (spelled : ∀ function ∈ functions, function.Spelled) :
    unlines (lines (generate catalog.functions).text) = (generate catalog.functions).text ∧
    (lines (generate catalog.functions).text).filter (fun line => StartsUnit line) =
      (functions.map Function.name).map headingText ∧
    ((functions.map Function.name).map headingText).Nodup ∧
    (∃ front, lines (generate catalog.functions).text = front ++ tableStart ::
        ((functions.map Function.name).map (fun name => "    " ++ tableEntry name) ++
          ["    \x7bNULL, NULL\x7d", "\x7d;"]) ∧
      ∀ name ∈ functions.map Function.name, front.count (headingText name) = 1) ∧
    (lines (generate catalog.functions).text).count tableStart = 1 ∧
    ((functions.map Function.name).map tableEntry).Nodup ∧
    ∀ others otherCatalog, Catalog.ofFunctions others = .ok otherCatalog →
      (∀ function ∈ others, function.Spelled) →
      (generate otherCatalog.functions).text = (generate catalog.functions).text →
      others.map Function.name = functions.map Function.name := by
  have distinct := catalog.distinctNames
  rw [Catalog.functions_of_ofFunctions accepted] at distinct ⊢
  have filtered {functions : List Function} (spelled : ∀ function ∈ functions, function.Spelled) :
      (lines (generate functions).text).filter (fun line => StartsUnit line) =
        (functions.map Function.name).map headingText := by
    rw [lines_generate fun function member => (spelled function member).worded, fileLines_render,
      ← tableLines_render, List.filter_append, filter_linesBeforeTable, filter_table,
      List.append_nil]
  have worded : ∀ function ∈ functions, function.Worded :=
    fun function member => (spelled function member).worded
  have written := (lines_generate worded).trans (fileLines_render functions)
  have headings := distinct.map fun _ _ => headingText_inj.mp
  refine ⟨?_, filtered spelled, headings, ⟨linesBeforeTable functions, written, ?_⟩, ?_,
    distinct.map fun _ _ => tableEntry_inj.mp, ?_⟩
  · rw [lines_generate worded, ← generate_eq_unlines worded]
  · intro name member
    have counted : ((linesBeforeTable functions).filter fun line => StartsUnit line).count
        (headingText name) = (linesBeforeTable functions).count (headingText name) :=
      List.count_filter (decide_eq_true (startsUnit_headingText name))
    rw [← counted, filter_linesBeforeTable]
    exact List.count_eq_one_of_mem headings (List.mem_map_of_mem member)
  · have after : tableStart ∉ (functions.map Function.name).map
        (fun name => "    " ++ tableEntry name) ++ ["    " ++ tableSentinel, "\x7d;"] :=
      fun member => absurd (head?_linesAfterStart member) (by decide)
    rw [written, List.count_append, List.count_cons_self,
      List.count_eq_zero.mpr (tableStart_not_mem_linesBeforeTable functions),
      List.count_eq_zero.mpr after]
  · intro others otherCatalog otherAccepted otherSpelled same
    rw [Catalog.functions_of_ofFunctions otherAccepted] at same
    have headings := filtered otherSpelled
    rw [same, filtered spelled] at headings
    exact (List.map_inj_right fun a b => headingText_inj.mp).mp headings.symm

def bufferFunctions : List Function :=
  [.build "glReadBuffer" [.argument "mode" "GLenum" false],
    .build "glFlush" [.withoutSideEffects]]

theorem generate_readBack_bufferFunctions :
    ∃ catalog, Catalog.ofFunctions bufferFunctions = .ok catalog ∧
      (∀ function ∈ bufferFunctions, function.Spelled) ∧
      (lines (generate catalog.functions).text).filter (fun line => StartsUnit line) =
        ["static void retrace_glReadBuffer(Trace::Call &call) \x7b",
          "static void retrace_glFlush(Trace::Call &call) \x7b"] ∧
      ∃ front, lines (generate catalog.functions).text = front ++
        ["const glretrace::Entry glretrace::gl_callbacks[] = \x7b",
          "    \x7b\"glReadBuffer\", &retrace_glReadBuffer\x7d,",
          "    \x7b\"glFlush\", &retrace_glFlush\x7d,",
          "    \x7bNULL, NULL\x7d", "\x7d;"] := by
  have spelled : ∀ function ∈ bufferFunctions, function.Spelled := by
    simp only [bufferFunctions, List.forall_mem_cons]
    exact ⟨Function.build_spelled (by decide) (by decide +kernel),
      Function.build_spelled (by decide) (by decide +kernel), by simp⟩
  obtain ⟨catalog, accepted⟩ : ∃ catalog, Catalog.ofFunctions bufferFunctions = .ok catalog :=
    ⟨_, rfl⟩
  obtain ⟨-, headings, -, ⟨front, written, -⟩, -⟩ := generate_readBack accepted spelled
  refine ⟨catalog, accepted, spelled, ?_, front, ?_⟩
  · rw [headings]
    decide +kernel
  · rw [written]
    simp [bufferFunctions, tableStart, tableEntry]

end ReplayGen.GL
