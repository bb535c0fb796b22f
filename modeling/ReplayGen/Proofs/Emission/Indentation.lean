import ReplayGen.Proofs.Emission.Depth

set_option autoImplicit false

namespace ReplayGen

namespace Text

def indentLine (levels : Nat) (line : List Char) : List Char :=
  if line = [] then [] else List.replicate (4 * levels) ' ' ++ line

def indent (levels : Nat) (text : String) : String :=
  String.ofList (['\n'].intercalate ((text.toList.splitOn '\n').map (indentLine levels)))

@[simp] theorem indent_empty (levels : Nat) : indent levels "" = "" := rfl

theorem indent_line {line : String} (unbroken : '\n' ∉ line.toList) (levels : Nat) (rest : String) :
    indent levels (line ++ "\n" ++ rest) =
      String.ofList (indentLine levels line.toList) ++ "\n" ++ indent levels rest := by
  have split : (line ++ "\n" ++ rest).toList.splitOn '\n' =
      line.toList :: rest.toList.splitOn '\n' := splitOn_line unbroken rest
  obtain ⟨first, others, parts⟩ :=
    List.exists_cons_of_ne_nil (List.splitOn_ne_nil '\n' rest.toList)
  rw [indent, split, indent, parts, ← String.toList_inj]
  simp [List.intercalate_cons_cons]

theorem indent_unlines {lines : List String} (unbroken : ∀ line ∈ lines, '\n' ∉ line.toList)
    (levels : Nat) :
    indent levels (unlines lines) =
      unlines (lines.map fun line => String.ofList (indentLine levels line.toList)) := by
  induction lines with
  | nil => rfl
  | cons line rest ih =>
      have first := unbroken line (by simp)
      have later := ih fun other member => unbroken other (by simp [member])
      rw [unlines_cons, indent_line first, later, List.map_cons, unlines_cons]

end Text

theorem Line.render_deepened (levels : Nat) (line : Line) :
    (line.deepened levels).render = String.ofList (Text.indentLine levels line.render.toList) := by
  by_cases empty : line.text = ""
  · simp [render, deepened, empty, Text.indentLine]
  · have filled : line.render.toList ≠ [] := by
      simp [render_toList, empty]
    rw [Text.indentLine, if_neg filled, ← String.toList_inj, String.toList_ofList, render_toList,
      render_toList]
    simp [deepened, empty, Nat.mul_add, ← List.replicate_append_replicate]

namespace Script

def OnLines (script : Script) (text : String) : Prop :=
  ∃ lines : List Line, text = Text.unlines (lines.map Line.render) ∧
    lines.map Line.text = script.filterMap Step.text? ∧ ∀ line ∈ lines, '\n' ∉ line.text.toList

theorem onLines_written {script : Script} (unbroken : Unbroken script) {depth after : Nat}
    (reached : depthAfter? depth script = some after) : script.OnLines (written depth script) :=
  ⟨layout depth script, written_eq_unlines unbroken depth, map_text_layout reached,
    fun _ laid => unbroken_layout unbroken laid⟩

theorem written_add {script : Script} (unbroken : Unbroken script) {depth after : Nat}
    (reached : depthAfter? depth script = some after) (levels : Nat) :
    written (levels + depth) script = Text.indent levels (written depth script) := by
  have lines : ∀ line ∈ (layout depth script).map Line.render, '\n' ∉ line.toList := by
    intro line member
    obtain ⟨laid, inside, rfl⟩ := List.mem_map.mp member
    exact laid.render_unbroken (unbroken_layout unbroken inside)
  rw [written_eq_unlines unbroken, written_eq_unlines unbroken, layout_add reached,
    Text.indent_unlines lines]
  simp [Function.comp_def, Line.render_deepened]

end Script

end ReplayGen
