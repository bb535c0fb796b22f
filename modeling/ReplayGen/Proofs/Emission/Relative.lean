import ReplayGen.Proofs.Emission.Run

set_option autoImplicit false

namespace ReplayGen

namespace Draft

def continued (draft later : Draft) : Draft :=
  draft.extended later.text later.depth later.log

@[simp] theorem continued_depth (draft later : Draft) :
    (draft.continued later).depth = later.depth := rfl

@[simp] theorem continued_empty (draft : Draft) :
    draft.continued { depth := draft.depth } = draft := by
  simp [continued, extended]

theorem continued_extended (draft later : Draft) (text : String) (depth : Nat)
    (events : List Event) :
    (draft.continued later).extended text depth events =
      draft.continued (later.extended text depth events) := by
  simp [continued, extended, String.append_assoc]

theorem continued_continued (draft middle later : Draft) :
    (draft.continued middle).continued later = draft.continued (middle.continued later) :=
  draft.continued_extended middle later.text later.depth later.log

end Draft

namespace Emit

variable {α β : Type}

def onto (draft : Draft) : EStateM.Result Fault Draft α → EStateM.Result Fault Draft α
  | .ok answer later => .ok answer (draft.continued later)
  | .error fault later => .error fault (draft.continued later)

/-- The emission does to a draft what it does to an empty one of the same depth. -/
def Relative (emission : Emit α) : Prop :=
  ∀ draft, emission draft = onto draft (emission { depth := draft.depth })

theorem relative_pure (answer : α) : (pure answer : Emit α).Relative := by
  intro draft
  simp [pure, EStateM.pure, onto]

theorem relative_throw (fault : Fault) : (throw fault : Emit α).Relative := by
  have thrown (draft : Draft) : (throw fault : Emit α) draft = .error fault draft := rfl
  intro draft
  simp [thrown, onto]

theorem Relative.bind {first : Emit α} {next : α → Emit β} (here : first.Relative)
    (there : ∀ answer, (next answer).Relative) : (first >>= next).Relative := by
  intro draft
  have ran := here draft
  cases alone : first { depth := draft.depth } with
  | error fault stopped =>
      rw [alone] at ran
      rw [bind_error ran, bind_error alone]
      rfl
  | ok answer middle =>
      rw [alone] at ran
      rw [bind_eq ran, bind_eq alone, there answer (draft.continued middle), there answer middle]
      -- Both go on from the same depth, one of them after more text.
      rw [Draft.continued_depth]
      cases next answer { depth := middle.depth } with
      | ok last later => simp [onto, Draft.continued_continued]
      | error fault later => simp [onto, Draft.continued_continued]

theorem Relative.ite {condition : Prop} [Decidable condition] {first second : Emit α}
    (firstRelative : first.Relative) (secondRelative : second.Relative) :
    (if condition then first else second).Relative := by
  split
  · exact firstRelative
  · exact secondRelative

theorem relative_depth {next : Nat → Emit α} (each : ∀ depth, (next depth).Relative) :
    (get >>= fun draft => next draft.depth : Emit α).Relative := by
  intro draft
  rw [bind_eq (get_eq draft), bind_eq (get_eq _)]
  exact each draft.depth draft

theorem relative_step (step : Step) : (Emit.step step).Relative := by
  intro draft
  cases stepped : step.depthAfter? draft.depth with
  | some depth =>
      have alone : step.depthAfter? ({ depth := draft.depth } : Draft).depth = some depth := stepped
      rw [step_eq stepped, step_eq alone, onto, ← Draft.continued_extended, Draft.continued_empty]
  | none => simp [Emit.step, Step.take?_eq, stepped, onto]

theorem relative_play (script : Script) : (play script).Relative := by
  induction script with
  | nil => exact relative_pure ()
  | cons step rest ih => exact (relative_step step).bind fun _ => ih

end Emit

end ReplayGen
