import ReplayGen.Replay.GL

set_option autoImplicit false

namespace ReplayGen

inductive Command where
  | step (step : Step)
  | function (hooks : Hooks) (function : Function)
  | functions (hooks : Hooks) (functions : List Function)
  | prologue (hooks : Hooks) (function : Function)
  | call (hooks : Hooks) (function : Function)
  | extract (hooks : Hooks) (function : Function) (argument : Argument) (lvalue rvalue : String)
  | decoding (argument : Argument) (lvalue rvalue : String)
  | callStatement (function : Function)
  | giveUp (function : Function)

structure Reply where
  added : String
  depth : Nat
  extraction : Option Extraction
  fault : Option Fault
  deriving DecidableEq, Repr

namespace Command

def silently (emission : Emit Unit) : Emit (Option Extraction) := do
  emission
  return none

def answering (emission : Emit Extraction) : Emit (Option Extraction) := do
  return some (← emission)

def emit : Command → Emit (Option Extraction)
  | step s => silently (Emit.step s)
  | function hooks f => silently (hooks.function f)
  | functions hooks fs => silently (hooks.functions fs)
  | prologue hooks f => silently (hooks.prologue f)
  | call hooks f => silently (hooks.call f)
  | extract hooks f argument lvalue rvalue =>
      answering (hooks.extract f argument lvalue rvalue)
  | decoding argument lvalue rvalue => answering (argument.decoding lvalue rvalue).emit
  | callStatement f => silently (Emit.play f.callStatement)
  | giveUp f => silently (Emit.play f.giveUp)

def reply (length : Nat) (after : Draft) (extraction : Option Extraction)
    (fault : Option Fault) : Reply :=
  { added := (after.text.drop length).copy, depth := after.depth, extraction, fault }

def run (command : Command) (before : Draft) : Draft × Reply :=
  let length := before.text.length
  match command.emit before with
  | .ok extraction after => (after, reply length after extraction none)
  | .error fault after => (after, reply length after none (some fault))

end Command

namespace Session

def run : List Command → Draft → Draft × List Reply
  | [], draft => (draft, [])
  | command :: rest, draft =>
      let (next, reply) := command.run draft
      let (last, replies) := run rest next
      (last, reply :: replies)

end Session

end ReplayGen
