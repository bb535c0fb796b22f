import Mathlib.Algebra.Ring.Int.Defs
import ReplayGen.Proofs.Emission.Depth

set_option autoImplicit false

namespace ReplayGen

def Step.net : Step → Int
  | .openBlock _ => 1
  | .closeBlock _ => -1
  | _ => 0

theorem Step.depthAfter?_eq_none_iff {step : Step} {depth : Nat} :
    step.depthAfter? depth = none ↔ step.LeavesBlock ∧ depth = 0 := by
  cases step <;> cases depth <;> simp [depthAfter?, LeavesBlock]

theorem Step.net_eq {step : Step} {depth after : Nat}
    (stepped : step.depthAfter? depth = some after) : (after : Int) = depth + step.net := by
  cases step with
  | closeBlock | reopenBlock =>
      cases depth with
      | zero => simp [depthAfter?] at stepped
      | succ outside =>
          simp only [depthAfter?, Option.some.injEq] at stepped
          simp [net, ← stepped]
  | _ =>
      simp only [depthAfter?, Option.some.injEq] at stepped
      simp [net, ← stepped]

namespace Script

def net (script : Script) : Int :=
  (script.map Step.net).sum

@[simp] theorem net_nil : net [] = 0 := rfl

theorem net_cons (step : Step) (rest : Script) : net (step :: rest) = step.net + net rest := by
  simp [net]

theorem net_append (first second : Script) : net (first ++ second) = net first + net second := by
  simp [net]

theorem depth_eq_add_net {script : Script} {depth after : Nat}
    (reached : depthAfter? depth script = some after) : (after : Int) = depth + net script := by
  induction script generalizing depth with
  | nil =>
      obtain rfl : depth = after := by simpa using reached
      simp
  | cons step rest ih =>
      obtain ⟨next, stepped, reached⟩ := Option.bind_eq_some_iff.mp reached
      have here := Step.net_eq stepped
      have later := ih reached
      rw [net_cons]
      omega

theorem Balanced.net {script : Script} (balanced : Balanced script) : Script.net script = 0 := by
  have kept := depth_eq_add_net (balanced 0)
  omega

def LeavesUnopened (depth : Nat) (script : Script) : Prop :=
  ∃ front step rest, script = front ++ step :: rest ∧ step.LeavesBlock ∧
    depthAfter? depth front = some 0

theorem depthAfter?_eq_none_iff {script : Script} {depth : Nat} :
    depthAfter? depth script = none ↔ LeavesUnopened depth script := by
  constructor
  · intro faulted
    induction script generalizing depth with
    | nil => simp at faulted
    | cons step rest ih =>
        cases stepped : step.depthAfter? depth with
        | none =>
            obtain ⟨leaves, rfl⟩ := Step.depthAfter?_eq_none_iff.mp stepped
            exact ⟨[], step, rest, rfl, leaves, rfl⟩
        | some next =>
            rw [depthAfter?_cons, stepped, Option.bind_some] at faulted
            obtain ⟨front, fault, others, rfl, leaves, reached⟩ := ih faulted
            refine ⟨step :: front, fault, others, rfl, leaves, ?_⟩
            rw [depthAfter?_cons, stepped, Option.bind_some, reached]
  · rintro ⟨front, step, rest, rfl, leaves, reached⟩
    have faults := Step.depthAfter?_eq_none_iff.mpr ⟨leaves, rfl⟩
    rw [depthAfter?_append, reached, Option.bind_some, depthAfter?_cons, faults, Option.bind_none]

end Script

theorem Emit.play_error {draft : Draft} {front rest : Script} {step : Step}
    (leaves : step.LeavesBlock) (reached : Script.depthAfter? draft.depth front = some 0) :
    Emit.play (front ++ step :: rest) draft =
      .error .unopenedBlock
        (draft.extended (Script.written draft.depth front) 0 (Script.events front)) := by
  have faults : (draft.extended (Script.written draft.depth front) 0 (Script.events front)).take?
      step = none := by
    rw [Step.take?_eq, Draft.extended_depth, Step.depthAfter?_eq_none_iff.mpr ⟨leaves, rfl⟩,
      Option.map_none]
  rw [play_append, bind_eq (play_eq reached), play_cons]
  apply bind_error
  rw [Emit.step, faults]

end ReplayGen
