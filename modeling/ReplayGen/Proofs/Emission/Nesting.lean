import Mathlib.Data.List.Infix
import ReplayGen.Proofs.Emission.Depth
import ReplayGen.Proofs.Text.Braces

set_option autoImplicit false

namespace ReplayGen

namespace Text

/-- The line is indented by the blocks that are open where it starts, less the one that it
closes first, if any, and it closes no block that is not open. -/
structure Fits (opened : Int) (line : String) : Prop where
  indented : line ≠ "" → (leadingSpaces line : Int) = 4 * (opened - closings line)
  covered : ∀ front, front <+: line.toList → 0 ≤ opened + net front

def Nests : Int → List String → Prop
  | _, [] => True
  | opened, line :: rest => Fits opened line ∧ Nests (opened + balance line) rest

theorem fits_empty {opened : Int} (nonneg : 0 ≤ opened) : Fits opened "" := by
  refine ⟨fun nonempty => absurd rfl nonempty, fun front inside => ?_⟩
  obtain rfl : front = [] := by simpa using inside
  simpa using nonneg

theorem balance_unlines_cons (line : String) (rest : List String) :
    balance (unlines (line :: rest)) = balance line + balance (unlines rest) := by
  have feed : balance "\n" = 0 := by decide
  rw [unlines_cons, balance_append, balance_append, feed, Int.add_zero]

theorem nests_append {first : List String} (second : List String) (opened : Int) :
    Nests opened (first ++ second) ↔
      Nests opened first ∧ Nests (opened + balance (unlines first)) second := by
  induction first generalizing opened with
  | nil => simp [Nests]
  | cons line rest ih =>
      rw [List.cons_append, Nests, Nests, ih, balance_unlines_cons, Int.add_assoc, and_assoc]

theorem Nests.fits {front back : List String} {line : String} {opened : Int}
    (nests : Nests opened (front ++ line :: back)) :
    Fits (opened + balance (unlines front)) line :=
  ((nests_append _ _).mp nests).2.1

/-- A line nests by its depth, if it starts by closing `closed` blocks, at most one, and its
braces in order, the `shape`, close no more than that. -/
theorem nests_render (line : Line) {c : Char} {shape : List Char} {closed : Nat}
    {opened after : Int} (head : line.text.toList.head? = some c) (flush : c ≠ ' ')
    (closing : (if c = '\x7d' then 1 else 0) = closed) (braced : braces line.text = shape)
    (low : ∀ front ∈ shape.inits, 0 ≤ closed + net front) (deep : line.depth + closed = opened)
    (reached : opened + net shape = after) :
    Nests opened [line.render] ∧ opened + balance (unlines [line.render]) = after := by
  refine ⟨⟨⟨fun _ => ?_, fun front inside => ?_⟩, trivial⟩, ?_⟩
  · rw [leadingSpaces_render head flush, closings_render, closings_of_head? head flush, closing]
    omega
  · have kept : front.filter isBrace ∈ shape.inits := by
      rw [List.mem_inits, ← braced, ← braces_render]
      exact inside.filter isBrace
    have enough := low _ kept
    rw [net_filter] at enough
    omega
  · rw [balance_unlines_cons, unlines_nil, balance_empty, Int.add_zero, balance_eq, braces_render,
      braced, reached]

theorem Nests.covered {lines : List String} {opened : Int} (nests : Nests opened lines)
    (nonneg : 0 ≤ opened) {front : List Char} (inside : front <+: (unlines lines).toList) :
    0 ≤ opened + net front := by
  induction lines generalizing opened front with
  | nil =>
      obtain rfl : front = [] := by simpa using inside
      simpa using nonneg
  | cons line rest ih =>
      obtain ⟨fits, nests⟩ := nests
      have whole := fits.covered line.toList List.prefix_rfl
      have letters : (unlines (line :: rest)).toList =
          line.toList ++ '\n' :: (unlines rest).toList := by simp [unlines_cons]
      rw [letters] at inside
      rcases List.prefix_or_prefix_of_prefix inside (List.prefix_append _ _) with
        inner | ⟨beyond, rfl⟩
      · exact fits.covered front inner
      · rw [List.prefix_append_right_inj] at inside
        -- Only the line feed stands between the line and the rest.
        have later {back : List Char} (inside : back <+: (unlines rest).toList) :
            0 ≤ opened + net line.toList + net back := ih nests whole inside
        rcases List.prefix_cons_iff.mp inside with rfl | ⟨back, rfl, inside⟩
        · simpa using whole
        · have feed : net ('\n' :: back) = net back := by simp [net]
          rw [net_append, feed, ← Int.add_assoc]
          exact later (List.cons_prefix_cons.mp inside).2

end Text

namespace Step

open Text

/-- The step writes the braces of the blocks it opens and closes, and no others but pairs. Its
text starts by closing a block if the step does, and else with a character that is no space. -/
def Nested : Step → Prop
  | .line text => Solid text ∧ (braces text = [] ∨ braces text = ['\x7b', '\x7d'])
  | .openBlock text => Solid text ∧ braces text = ['\x7b']
  | .closeBlock text => text.toList.head? = some '\x7d' ∧ braces text = ['\x7d']
  | .reopenBlock text => text.toList.head? = some '\x7d' ∧ braces text = ['\x7d', '\x7b']
  | .blank | .note _ => True
  | .raw _ => False

theorem nested_line {text : String} (plain : Solid text ∧ braces text = []) :
    (line text).Nested :=
  ⟨plain.1, .inl plain.2⟩

theorem nested_begins {head : String} (plain : Solid head ∧ braces head = []) :
    (begins head).Nested := by
  refine ⟨plain.1.append _, ?_⟩
  rw [braces_append, plain.2]
  decide

theorem nested_ends : ends.Nested := by
  simp [ends, Nested, braces, isBrace]

theorem Nested.layout {step : Step} (nested : step.Nested) {depth after : Nat}
    (stepped : step.depthAfter? depth = some after) :
    Nests depth ((step.layout depth).map Line.render) ∧
      depth + balance (unlines ((step.layout depth).map Line.render)) = after := by
  cases step with
  | raw => exact nested.elim
  | note =>
      obtain rfl := Option.some.inj stepped
      exact ⟨trivial, Int.add_zero _⟩
  | blank =>
      obtain rfl := Option.some.inj stepped
      refine ⟨⟨fits_empty (by omega), trivial⟩, ?_⟩
      simp [Step.layout, Line.render, balance_unlines_cons]
  | line text =>
      obtain rfl := Option.some.inj stepped
      obtain ⟨start, braced⟩ := nested
      obtain ⟨c, head, flush, other⟩ := solid_iff.mp start
      rcases braced with braced | braced
      · exact nests_render ⟨depth, text⟩ head flush (if_neg other) braced (by decide)
          (by simp) (by rw [net_nil, Int.add_zero])
      · exact nests_render ⟨depth, text⟩ head flush (if_neg other) braced (by decide)
          (by simp) (by rw [net_pair, Int.add_zero])
  | openBlock text =>
      obtain rfl := Option.some.inj stepped
      obtain ⟨start, braced⟩ := nested
      obtain ⟨c, head, flush, other⟩ := solid_iff.mp start
      exact nests_render ⟨depth, text⟩ head flush (if_neg other) braced (by decide)
        (by simp) (by rw [net_opening, Int.natCast_succ])
  | closeBlock text =>
      obtain ⟨head, braced⟩ := nested
      cases depth with
      | zero => simp [depthAfter?] at stepped
      | succ depth =>
          obtain rfl := Option.some.inj stepped
          exact nests_render ⟨depth, text⟩ head (by decide) (if_pos rfl) braced
            (by decide) (by simp) (by rw [net_closing]; omega)
  | reopenBlock text =>
      obtain ⟨head, braced⟩ := nested
      cases depth with
      | zero => simp [depthAfter?] at stepped
      | succ depth =>
          obtain rfl := Option.some.inj stepped
          exact nests_render ⟨depth, text⟩ head (by decide) (if_pos rfl) braced
            (by decide) (by simp) (by rw [net_reopening, Int.add_zero])

end Step

namespace Script

open Text

def Nested (script : Script) : Prop :=
  ∀ step ∈ script, step.Nested

@[simp] theorem nested_nil : Nested [] := by
  simp [Nested]

@[simp] theorem nested_cons (step : Step) (rest : Script) :
    Nested (step :: rest) ↔ step.Nested ∧ Nested rest := by
  simp [Nested]

@[simp] theorem nested_append (first second : Script) :
    Nested (first ++ second) ↔ Nested first ∧ Nested second :=
  List.forall_mem_append

theorem Nested.layout {script : Script} (nested : Nested script) {depth after : Nat}
    (reached : depthAfter? depth script = some after) :
    Nests depth ((layout depth script).map Line.render) ∧
      depth + balance (unlines ((layout depth script).map Line.render)) = after := by
  induction script generalizing depth with
  | nil =>
      obtain rfl : depth = after := by simpa using reached
      exact ⟨trivial, Int.add_zero _⟩
  | cons step rest ih =>
      rw [nested_cons] at nested
      obtain ⟨next, stepped, reached⟩ := Option.bind_eq_some_iff.mp reached
      obtain ⟨first, here⟩ := nested.1.layout stepped
      obtain ⟨others, there⟩ := ih nested.2 reached
      rw [layout_cons, stepped, Option.getD_some, List.map_append, nests_append, unlines_append,
        balance_append, here]
      exact ⟨⟨first, others⟩, by omega⟩

theorem Nested.written {script : Script} (nested : Nested script) (unbroken : Unbroken script)
    {depth after : Nat} (reached : depthAfter? depth script = some after) :
    depth + balance (written depth script) = after := by
  rw [written_eq_unlines unbroken]
  exact (nested.layout reached).2

end Script

def Draft.Level (draft : Draft) : Prop :=
  (draft.depth : Int) = Text.balance draft.text

theorem Draft.Level.play {draft : Draft} (level : draft.Level) {script : Script}
    (nested : Script.Nested script) (unbroken : Script.Unbroken script) {depth : Nat}
    (reached : Script.depthAfter? draft.depth script = some depth) :
    ∃ here, Emit.play script draft = .ok () here ∧ here.Level := by
  refine ⟨_, Emit.play_eq reached, ?_⟩
  rw [Level] at level
  rw [Level, Draft.extended_depth, Draft.extended, Text.balance_append, ← level,
    nested.written unbroken reached]

end ReplayGen
