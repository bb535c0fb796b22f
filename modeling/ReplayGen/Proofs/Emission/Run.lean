import ReplayGen.Emit

set_option autoImplicit false

namespace ReplayGen

namespace Draft

def extended (draft : Draft) (text : String) (depth : Nat) (events : List Event) : Draft :=
  { text := draft.text ++ text, depth, log := draft.log ++ events }

@[simp] theorem extended_depth (draft : Draft) (text : String) (depth : Nat)
    (events : List Event) : (draft.extended text depth events).depth = depth := rfl

theorem extended_extended (draft : Draft) (first second : String) (inner outer : Nat)
    (before after : List Event) :
    (draft.extended first inner before).extended second outer after =
      draft.extended (first ++ second) outer (before ++ after) := by
  simp [extended, String.append_assoc]

end Draft

namespace Step

def depthAfter? : Nat → Step → Option Nat
  | depth, .line _ | depth, .blank | depth, .raw _ | depth, .note _ => some depth
  | depth, .openBlock _ => some (depth + 1)
  | 0, .closeBlock _ | 0, .reopenBlock _ => none
  | depth + 1, .closeBlock _ => some depth
  | depth + 1, .reopenBlock _ => some (depth + 1)

def written : Nat → Step → String
  | depth, .line text | depth, .openBlock text => indentedLine depth text
  | depth, .blank => indentedLine depth ""
  | _, .raw text => text
  | _, .note _ => ""
  | 0, .closeBlock _ | 0, .reopenBlock _ => ""
  | depth + 1, .closeBlock text | depth + 1, .reopenBlock text => indentedLine depth text

def events : Step → List Event
  | .note event => [event]
  | _ => []

theorem take?_eq (draft : Draft) (step : Step) :
    draft.take? step = (step.depthAfter? draft.depth).map fun depth =>
      draft.extended (step.written draft.depth) depth step.events := by
  obtain ⟨text, depth, log⟩ := draft
  cases step with
  -- Only a step that leaves a block can fault, outside all of them.
  | closeBlock | reopenBlock =>
      cases depth <;> simp [Draft.take?, Draft.outdent?, Draft.indent, Draft.line, Draft.append,
        Draft.extended, depthAfter?, written, events]
  | _ =>
      simp [Draft.take?, Draft.indent, Draft.line, Draft.append, Draft.note, Draft.extended,
        depthAfter?, written, events]

end Step

namespace Script

def depthAfter? : Nat → Script → Option Nat
  | depth, [] => some depth
  | depth, step :: rest => (step.depthAfter? depth).bind (depthAfter? · rest)

-- The text the script adds; a step that faults is passed over.
def written : Nat → Script → String
  | _, [] => ""
  | depth, step :: rest =>
      step.written depth ++ written ((step.depthAfter? depth).getD depth) rest

def events (script : Script) : List Event :=
  script.flatMap Step.events

@[simp] theorem depthAfter?_nil (depth : Nat) : depthAfter? depth [] = some depth := rfl

theorem depthAfter?_cons (depth : Nat) (step : Step) (rest : Script) :
    depthAfter? depth (step :: rest) = (step.depthAfter? depth).bind (depthAfter? · rest) := rfl

theorem depthAfter?_append (depth : Nat) (first second : Script) :
    depthAfter? depth (first ++ second) =
      (depthAfter? depth first).bind (depthAfter? · second) := by
  induction first generalizing depth with
  | nil => rfl
  | cons step rest ih => cases h : step.depthAfter? depth <;> simp [depthAfter?, h, ih]

@[simp] theorem written_nil (depth : Nat) : written depth [] = "" := rfl

theorem written_append {depth middle : Nat} {first : Script}
    (reached : depthAfter? depth first = some middle) (second : Script) :
    written depth (first ++ second) = written depth first ++ written middle second := by
  induction first generalizing depth with
  | nil =>
      obtain rfl : depth = middle := by simpa using reached
      simp
  | cons step rest ih =>
      obtain ⟨next, stepped, reached⟩ := Option.bind_eq_some_iff.mp reached
      simp [written, stepped, ih reached, String.append_assoc]

@[simp] theorem events_append (first second : Script) :
    events (first ++ second) = events first ++ events second := by
  simp [events]

end Script

theorem Emit.bind_eq {α β : Type} {first : Emit α} {next : α → Emit β} {draft after : Draft}
    {answer : α} (ran : first draft = .ok answer after) :
    (first >>= next) draft = next answer after := by
  simp [bind, EStateM.bind, ran]

theorem Emit.bind_error {α β : Type} {first : Emit α} {next : α → Emit β} {draft after : Draft}
    {fault : Fault} (stopped : first draft = .error fault after) :
    (first >>= next) draft = .error fault after := by
  simp [bind, EStateM.bind, stopped]

theorem Emit.get_eq (draft : Draft) : (get : Emit Draft) draft = .ok draft draft := rfl

theorem Emit.step_eq {draft : Draft} {step : Step} {depth : Nat}
    (stepped : step.depthAfter? draft.depth = some depth) :
    Emit.step step draft =
      .ok () (draft.extended (step.written draft.depth) depth step.events) := by
  simp [Emit.step, Step.take?_eq, stepped]

theorem Emit.play_eq {draft : Draft} {script : Script} {depth : Nat}
    (reached : Script.depthAfter? draft.depth script = some depth) :
    Emit.play script draft =
      .ok () (draft.extended (Script.written draft.depth script) depth
        (Script.events script)) := by
  induction script generalizing draft with
  | nil =>
      obtain rfl : draft.depth = depth := by simpa using reached
      simp [Draft.extended, Script.events, pure, EStateM.pure]
  | cons step rest ih =>
      obtain ⟨next, stepped, reached⟩ := Option.bind_eq_some_iff.mp reached
      have later := @ih (draft.extended (step.written draft.depth) next step.events) reached
      rw [Emit.play_cons, Emit.bind_eq (Emit.step_eq stepped), later]
      simp only [Draft.extended_extended, Draft.extended_depth, Script.written, stepped,
        Option.getD_some, Script.events, List.flatMap_cons]

namespace Script

/-- From every depth the script comes back to it, never going below. -/
def Balanced (script : Script) : Prop :=
  ∀ depth, depthAfter? depth script = some depth

theorem balanced_nil : Balanced [] :=
  fun _ => rfl

theorem Balanced.cons {step : Step} {rest : Script}
    (level : ∀ depth, step.depthAfter? depth = some depth) (balanced : Balanced rest) :
    Balanced (step :: rest) := by
  intro depth
  simp [depthAfter?_cons, level depth, balanced depth]

theorem Balanced.append {first second : Script} (firstBalanced : Balanced first)
    (secondBalanced : Balanced second) : Balanced (first ++ second) := by
  intro depth
  simp [depthAfter?_append, firstBalanced depth, secondBalanced depth]

theorem Balanced.ite {condition : Prop} [Decidable condition] {first second : Script}
    (firstBalanced : Balanced first) (secondBalanced : Balanced second) :
    Balanced (if condition then first else second) := by
  split
  · exact firstBalanced
  · exact secondBalanced

theorem balanced_flatMap {α : Type} {items : List α} {script : α → Script}
    (each : ∀ item ∈ items, Balanced (script item)) : Balanced (items.flatMap script) := by
  induction items with
  | nil => exact balanced_nil
  | cons item rest ih =>
      rw [List.flatMap_cons]
      exact (each item (by simp)).append (ih fun other member => each other (by simp [member]))

theorem written_flatMap {α : Type} {items : List α} {script : α → Script}
    (each : ∀ item ∈ items, Balanced (script item)) (depth : Nat) :
    written depth (items.flatMap script) =
      String.join (items.map fun item => written depth (script item)) := by
  induction items with
  | nil => rfl
  | cons item rest ih =>
      rw [List.flatMap_cons, written_append (each item (by simp) depth),
        ih fun other member => each other (by simp [member]), List.map_cons, String.join_cons]

theorem Balanced.block {body : Script} (balanced : Balanced body) (head tail : String) :
    Balanced (.openBlock head :: (body ++ [.closeBlock tail])) := by
  intro depth
  simp [depthAfter?_cons, depthAfter?_append, Step.depthAfter?, balanced (depth + 1)]

end Script

end ReplayGen
