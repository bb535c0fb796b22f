import ReplayGen.Proofs.Emission.Lines

set_option autoImplicit false

namespace ReplayGen

def Line.deepened (levels : Nat) (line : Line) : Line :=
  { line with depth := levels + line.depth }

namespace Step

def LeavesBlock : Step → Prop
  | .closeBlock _ | .reopenBlock _ => True
  | _ => False

theorem depthAfter?_add {step : Step} {depth after : Nat}
    (stepped : step.depthAfter? depth = some after) (base : Nat) :
    step.depthAfter? (base + depth) = some (base + after) := by
  cases step with
  | closeBlock | reopenBlock =>
      cases depth with
      | zero => simp [depthAfter?] at stepped
      | succ inner =>
          simp only [depthAfter?, Option.some.injEq] at stepped
          subst stepped
          rfl
  | _ =>
      simp only [depthAfter?, Option.some.injEq] at stepped
      subst stepped
      rfl

theorem layout_add {step : Step} {depth after : Nat}
    (stepped : step.depthAfter? depth = some after) (base : Nat) :
    step.layout (base + depth) = (step.layout depth).map (Line.deepened base) := by
  cases step with
  | closeBlock | reopenBlock =>
      cases depth with
      | zero => simp [depthAfter?] at stepped
      | succ inner => rfl
  | _ => rfl

theorem pos_of_leavesBlock {step : Step} (leaves : step.LeavesBlock) {depth after : Nat}
    (stepped : step.depthAfter? depth = some after) : 0 < depth := by
  cases step with
  | closeBlock | reopenBlock =>
      cases depth with
      | zero => simp [depthAfter?] at stepped
      | succ inner => omega
  | _ => exact leaves.elim

end Step

namespace Script

theorem depthAfter?_add {script : Script} {depth after : Nat}
    (reached : depthAfter? depth script = some after) (base : Nat) :
    depthAfter? (base + depth) script = some (base + after) := by
  induction script generalizing depth with
  | nil =>
      obtain rfl : depth = after := by simpa using reached
      rfl
  | cons step rest ih =>
      obtain ⟨next, stepped, reached⟩ := Option.bind_eq_some_iff.mp reached
      rw [depthAfter?_cons, Step.depthAfter?_add stepped base, Option.bind_some, ih reached]

theorem layout_add {script : Script} {depth after : Nat}
    (reached : depthAfter? depth script = some after) (base : Nat) :
    layout (base + depth) script = (layout depth script).map (Line.deepened base) := by
  induction script generalizing depth with
  | nil => rfl
  | cons step rest ih =>
      obtain ⟨next, stepped, reached⟩ := Option.bind_eq_some_iff.mp reached
      simp [layout_cons, Step.layout_add stepped base, Step.depthAfter?_add stepped base, stepped,
        ih reached]

theorem Balanced.le_depth {script : Script} (balanced : Balanced script) {depth : Nat}
    {line : Line} (member : line ∈ layout depth script) : depth ≤ line.depth := by
  rw [show depth = depth + 0 from rfl, layout_add (balanced 0) depth] at member
  obtain ⟨outside, -, rfl⟩ := List.mem_map.mp member
  exact Nat.le_add_right depth outside.depth

theorem Balanced.above {front rest : Script} {step : Step}
    (balanced : Balanced (front ++ step :: rest)) (depth : Nat) :
    ∃ here, depthAfter? depth front = some here ∧ depth ≤ here ∧
      (step.LeavesBlock → depth < here) := by
  -- Outside all blocks the script does not fault either, so there is room for every step.
  have outside := balanced 0
  rw [depthAfter?_append] at outside
  obtain ⟨inner, reached, later⟩ := Option.bind_eq_some_iff.mp outside
  obtain ⟨next, stepped, -⟩ := Option.bind_eq_some_iff.mp later
  refine ⟨depth + inner, depthAfter?_add reached depth, by omega, fun leaves => ?_⟩
  have room := Step.pos_of_leavesBlock leaves stepped
  omega

end Script

namespace Emit

/-- From every draft the emission takes the steps of the script without a fault and ends as
deep as it began. On the way it is never less deep, and leaves no block that it did not open. -/
structure KeepsDepth {α : Type} (emission : Emit α) (script : Script) : Prop where
  plays : ∀ draft, ∃ answer after, emission draft = .ok answer after ∧
    play script draft = .ok () after ∧ after.depth = draft.depth
  above : ∀ front step rest, script = front ++ step :: rest → ∀ draft : Draft,
    ∃ here, play front draft = .ok () here ∧ draft.depth ≤ here.depth ∧
      (step.LeavesBlock → draft.depth < here.depth)

theorem keepsDepth_of_balanced {script : Script} (balanced : Script.Balanced script) {α : Type}
    (answer : α) : KeepsDepth (do play script; return answer) script where
  plays draft := by
    have played := play_eq (balanced draft.depth)
    exact ⟨answer, _, bind_eq played, played, rfl⟩
  above front step rest whole draft := by
    subst whole
    obtain ⟨here, reached, deep, inside⟩ := balanced.above draft.depth
    exact ⟨_, play_eq reached, deep, inside⟩

theorem keepsDepth_play {script : Script} (balanced : Script.Balanced script) :
    (play script).KeepsDepth script := by
  have kept := keepsDepth_of_balanced balanced ()
  rwa [show (do play script; return ()) = play script from bind_pure_unit] at kept

end Emit

end ReplayGen
