import ReplayGen.Event

set_option autoImplicit false

/-!
# Emitting source text

A draft is generated text under construction, with the depth of the block it stands in.
Text is emitted by steps; a script is a list of them. A step that closes a block where
none is open faults and changes nothing, and what was emitted before a fault stays.
-/

namespace ReplayGen

structure Draft where
  text : String := ""
  depth : Nat := 0
  log : List Event := []
  deriving DecidableEq, Repr

inductive Fault where
  | unopenedBlock
  | unbalanced (function : String)
  deriving DecidableEq, Repr

def Fault.message : Fault → String
  | unopenedBlock => "gl-retrace-gen: closing a block that was never opened"
  | unbalanced function => "unbalanced blocks in retrace_" ++ function

inductive Step where
  | line (text : String)
  | blank
  | openBlock (text : String)
  | closeBlock (text : String)
  | reopenBlock (text : String)
  | raw (text : String)
  | note (event : Event)
  deriving DecidableEq, Repr

abbrev Script := List Step

namespace Step

def begins (head : String) : Step :=
  .openBlock (head ++ " \x7b")

def ends : Step :=
  .closeBlock "\x7d"

end Step

def indentation (depth : Nat) : String :=
  String.ofList (List.replicate (4 * depth) ' ')

-- A line with its line feed. Only the start of its text is indented, and an empty line is
-- not indented at all.
def indentedLine (depth : Nat) (text : String) : String :=
  (if text.isEmpty then "" else indentation depth ++ text) ++ "\n"

namespace Draft

def append (draft : Draft) (text : String) : Draft :=
  { draft with text := draft.text ++ text }

def line (draft : Draft) (text : String) : Draft :=
  draft.append (indentedLine draft.depth text)

def note (draft : Draft) (event : Event) : Draft :=
  { draft with log := draft.log ++ [event] }

def indent (draft : Draft) : Draft :=
  { draft with depth := draft.depth + 1 }

def outdent? (draft : Draft) : Option Draft :=
  match draft.depth with
  | 0 => none
  | depth + 1 => some { draft with depth }

def take? (draft : Draft) : Step → Option Draft
  | .line text => some (draft.line text)
  | .blank => some (draft.line "")
  | .openBlock text => some (draft.line text).indent
  | .closeBlock text => draft.outdent?.map (·.line text)
  | .reopenBlock text => draft.outdent?.map fun outside => (outside.line text).indent
  | .raw text => some (draft.append text)
  | .note event => some (draft.note event)

end Draft

/-- Emission changes a draft and may stop at a fault, which keeps what was emitted. -/
abbrev Emit := EStateM Fault Draft

namespace Emit

def step (step : Step) : Emit Unit := fun draft =>
  match draft.take? step with
  | some next => .ok () next
  | none => .error .unopenedBlock draft

def play (script : Script) : Emit Unit :=
  script.forM step

@[simp] theorem play_nil : play [] = pure () := rfl

theorem play_cons (first : Step) (rest : Script) :
    play (first :: rest) = (do step first; play rest) := rfl

@[simp] theorem play_append (first rest : Script) :
    play (first ++ rest) = (do play first; play rest) := by
  simp [play]

def draft {α : Type} (emission : Emit α) (start : Draft) : Draft :=
  match emission start with
  | .ok _ draft | .error _ draft => draft

def fault? {α : Type} (emission : Emit α) (start : Draft) : Option Fault :=
  match emission start with
  | .ok .. => none
  | .error fault _ => some fault

def answer? {α : Type} (emission : Emit α) (start : Draft) : Option α :=
  match emission start with
  | .ok answer _ => some answer
  | .error .. => none

end Emit

end ReplayGen
