import ReplayGen.Proofs.Emission.Run

set_option autoImplicit false

namespace ReplayGen

namespace Text

/-- The lines of a text, each ended by a line feed. What follows the last is not one. -/
def lines (text : String) : List String :=
  (text.toList.splitOn '\n').dropLast.map String.ofList

@[simp] theorem lines_empty : lines "" = [] := rfl

theorem splitOn_line {line : String} (unbroken : '\n' ∉ line.toList) (rest : String) :
    (line ++ "\n" ++ rest).toList.splitOn '\n' = line.toList :: rest.toList.splitOn '\n' := by
  -- The line feed put after the line is the first there is.
  simp only [String.toList_append, List.splitOn, List.append_assoc]
  apply List.splitOnP_append_cons_of_forall_mem
  · intro c member
    simpa using fun same : c = '\n' => unbroken (same ▸ member)
  · rfl

theorem lines_line {line : String} (unbroken : '\n' ∉ line.toList) (rest : String) :
    lines (line ++ "\n" ++ rest) = line :: lines rest := by
  rw [lines, splitOn_line unbroken, List.dropLast_cons_of_ne_nil (List.splitOn_ne_nil _ _),
    List.map_cons, String.ofList_toList, lines]

def unlines (lines : List String) : String :=
  String.join (lines.map (· ++ "\n"))

@[simp] theorem unlines_nil : unlines [] = "" := rfl

theorem unlines_cons (line : String) (rest : List String) :
    unlines (line :: rest) = line ++ "\n" ++ unlines rest := by
  rw [unlines, List.map_cons, String.join_cons, unlines]

theorem unlines_append (first second : List String) :
    unlines (first ++ second) = unlines first ++ unlines second := by
  simp [unlines, String.join_append]

theorem lines_unlines_append {front : List String} (unbroken : ∀ line ∈ front, '\n' ∉ line.toList)
    (rest : String) : lines (unlines front ++ rest) = front ++ lines rest := by
  induction front with
  | nil => simp
  | cons line others ih =>
      rw [unlines_cons, String.append_assoc, lines_line (unbroken line (by simp)),
        ih fun other member => unbroken other (by simp [member]), List.cons_append]

theorem unbroken_literal (chars : List Char) (unbroken : '\n' ∉ chars) :
    '\n' ∉ (String.ofList chars).toList := by
  rwa [String.toList_ofList]

def unindented (line : String) : String :=
  String.ofList (line.toList.dropWhile (· = ' '))

end Text

structure Line where
  depth : Nat
  text : String
  deriving DecidableEq, Repr

namespace Line

def render (line : Line) : String :=
  if line.text.isEmpty then "" else indentation line.depth ++ line.text

theorem indentedLine_eq (depth : Nat) (text : String) :
    indentedLine depth text = render ⟨depth, text⟩ ++ "\n" := rfl

theorem render_toList (line : Line) :
    line.render.toList =
      if line.text.isEmpty then []
      else List.replicate (4 * line.depth) ' ' ++ line.text.toList := by
  unfold render
  split <;> simp [indentation]

theorem render_unbroken (line : Line) (unbroken : '\n' ∉ line.text.toList) :
    '\n' ∉ line.render.toList := by
  rw [render_toList]
  split
  · simp
  · simp [unbroken, List.mem_replicate]

end Line

namespace Step

def layout : Nat → Step → List Line
  | depth, .line text | depth, .openBlock text => [⟨depth, text⟩]
  | depth, .blank => [⟨depth, ""⟩]
  | _, .raw _ | _, .note _ => []
  | 0, .closeBlock _ | 0, .reopenBlock _ => []
  | depth + 1, .closeBlock text | depth + 1, .reopenBlock text => [⟨depth, text⟩]

def text? : Step → Option String
  | .line text | .openBlock text | .closeBlock text | .reopenBlock text => some text
  | .blank => some ""
  | .raw _ | .note _ => none

theorem map_text_layout {step : Step} {depth after : Nat}
    (stepped : step.depthAfter? depth = some after) :
    (step.layout depth).map Line.text = step.text?.toList := by
  cases step with
  | closeBlock | reopenBlock =>
      cases depth with
      | zero => simp [depthAfter?] at stepped
      | succ depth => rfl
  | _ => rfl

def Unbroken : Step → Prop
  | .line text | .openBlock text | .closeBlock text | .reopenBlock text => '\n' ∉ text.toList
  | .raw _ => False
  | .blank | .note _ => True

theorem unbroken_layout {step : Step} (unbroken : step.Unbroken) {depth : Nat} {line : Line}
    (laid : line ∈ step.layout depth) : '\n' ∉ line.text.toList := by
  cases step with
  | raw | note => simp [layout] at laid
  | blank =>
      obtain rfl := List.mem_singleton.mp laid
      simp
  | line | openBlock =>
      obtain rfl := List.mem_singleton.mp laid
      exact unbroken
  | closeBlock | reopenBlock =>
      cases depth with
      | zero => simp [layout] at laid
      | succ depth =>
          obtain rfl := List.mem_singleton.mp laid
          exact unbroken

theorem lines_written {step : Step} (unbroken : step.Unbroken) (depth : Nat) (rest : String) :
    Text.lines (step.written depth ++ rest) =
      (step.layout depth).map Line.render ++ Text.lines rest := by
  cases step with
  | raw => exact unbroken.elim
  | note => simp [written, layout]
  | blank =>
      simpa [written, layout, Line.indentedLine_eq] using
        Text.lines_line (Line.render_unbroken ⟨depth, ""⟩ (by simp)) rest
  | line text | openBlock text =>
      simpa [written, layout, Line.indentedLine_eq] using
        Text.lines_line (Line.render_unbroken ⟨depth, text⟩ unbroken) rest
  | closeBlock text | reopenBlock text =>
      cases depth with
      | zero => simp [written, layout]
      | succ depth =>
          simpa [written, layout, Line.indentedLine_eq] using
            Text.lines_line (Line.render_unbroken ⟨depth, text⟩ unbroken) rest

theorem written_eq_unlines {step : Step} (unbroken : step.Unbroken) (depth : Nat) :
    step.written depth = Text.unlines ((step.layout depth).map Line.render) := by
  cases step with
  | raw => exact unbroken.elim
  | closeBlock | reopenBlock => cases depth <;> simp [written, layout, Text.unlines, Line.indentedLine_eq]
  | _ => simp [written, layout, Text.unlines, Line.indentedLine_eq]

end Step

namespace Script

def layout : Nat → Script → List Line
  | _, [] => []
  | depth, step :: rest =>
      step.layout depth ++ layout ((step.depthAfter? depth).getD depth) rest

def Unbroken (script : Script) : Prop :=
  ∀ step ∈ script, step.Unbroken

@[simp] theorem layout_nil (depth : Nat) : layout depth [] = [] := rfl

theorem layout_cons (depth : Nat) (step : Step) (rest : Script) :
    layout depth (step :: rest) =
      step.layout depth ++ layout ((step.depthAfter? depth).getD depth) rest := rfl

theorem layout_append {depth middle : Nat} {first : Script}
    (reached : depthAfter? depth first = some middle) (second : Script) :
    layout depth (first ++ second) = layout depth first ++ layout middle second := by
  induction first generalizing depth with
  | nil =>
      obtain rfl : depth = middle := by simpa using reached
      simp
  | cons step rest ih =>
      obtain ⟨next, stepped, reached⟩ := Option.bind_eq_some_iff.mp reached
      simp [layout, stepped, ih reached]

theorem Balanced.layout_append {first : Script} (balanced : Balanced first) (second : Script)
    (depth : Nat) :
    layout depth (first ++ second) = layout depth first ++ layout depth second :=
  Script.layout_append (balanced depth) second

theorem layout_block {body : Script} (balanced : Balanced body) (depth : Nat)
    (head tail : String) :
    layout depth (.openBlock head :: (body ++ [.closeBlock tail])) =
      ⟨depth, head⟩ :: (layout (depth + 1) body ++ [⟨depth, tail⟩]) := by
  simp [layout_cons, balanced.layout_append, Step.layout, Step.depthAfter?]

theorem layout_flatMap {α : Type} {items : List α} {script : α → Script}
    (balanced : ∀ item ∈ items, Balanced (script item)) (depth : Nat) :
    layout depth (items.flatMap script) = items.flatMap fun item => layout depth (script item) := by
  induction items with
  | nil => rfl
  | cons item rest ih =>
      rw [List.flatMap_cons, (balanced item (by simp)).layout_append,
        ih fun other member => balanced other (by simp [member]), List.flatMap_cons]

theorem map_text_layout {script : Script} {depth after : Nat}
    (reached : depthAfter? depth script = some after) :
    (layout depth script).map Line.text = script.filterMap Step.text? := by
  induction script generalizing depth with
  | nil => rfl
  | cons step rest ih =>
      obtain ⟨next, stepped, reached⟩ := Option.bind_eq_some_iff.mp reached
      have texts : (step :: rest).filterMap Step.text? =
          step.text?.toList ++ rest.filterMap Step.text? := by
        cases written : step.text? <;> simp [written]
      rw [layout_cons, stepped, Option.getD_some, List.map_append, Step.map_text_layout stepped,
        ih reached, texts]

@[simp] theorem unbroken_append (first second : Script) :
    Unbroken (first ++ second) ↔ Unbroken first ∧ Unbroken second :=
  List.forall_mem_append

@[simp] theorem unbroken_nil : Unbroken [] := by
  simp [Unbroken]

@[simp] theorem unbroken_cons (step : Step) (rest : Script) :
    Unbroken (step :: rest) ↔ step.Unbroken ∧ Unbroken rest := by
  simp [Unbroken]

theorem unbroken_layout {script : Script} (unbroken : Unbroken script) {depth : Nat} {line : Line}
    (laid : line ∈ layout depth script) : '\n' ∉ line.text.toList := by
  induction script generalizing depth with
  | nil => simp at laid
  | cons step rest ih =>
      rw [unbroken_cons] at unbroken
      rw [layout_cons, List.mem_append] at laid
      cases laid with
      | inl first => exact Step.unbroken_layout unbroken.1 first
      | inr later => exact ih unbroken.2 later

theorem lines_written {script : Script} (unbroken : Unbroken script) (depth : Nat) :
    Text.lines (written depth script) = (layout depth script).map Line.render := by
  -- Every step that adds text ends its line, so none goes on in the next step.
  induction script generalizing depth with
  | nil => simp
  | cons step rest ih =>
      rw [unbroken_cons] at unbroken
      rw [written, Step.lines_written unbroken.1, ih unbroken.2, layout, List.map_append]

theorem written_eq_unlines {script : Script} (unbroken : Unbroken script) (depth : Nat) :
    written depth script = Text.unlines ((layout depth script).map Line.render) := by
  induction script generalizing depth with
  | nil => rfl
  | cons step rest ih =>
      rw [unbroken_cons] at unbroken
      rw [written, Step.written_eq_unlines unbroken.1, ih unbroken.2, layout, List.map_append,
        Text.unlines_append]

end Script

end ReplayGen
