import ReplayGen.Replay.Call
import ReplayGen.Replay.Decoding

set_option autoImplicit false

namespace ReplayGen

structure Hooks where
  prologue : Function → Emit Unit
  call : Function → Emit Unit
  extract : Function → Argument → (lvalue rvalue : String) → Emit Extraction

def recordedValue (index : Nat) : String :=
  "call.arg(" ++ toString index ++ ")"

namespace Argument

def declaration (argument : Argument) : Step :=
  .line (argument.localType ++ " " ++ argument.name ++ ";")

def placeholder (function : Function) (argument : Argument) : Script :=
  [.note (.undecodable function.name argument.name argument.type),
    .line (argument.name ++ " = 0; // FIXME")]

end Argument

namespace Function

-- Gives up in a block of its own, so that the call after it still compiles.
def giveUpBlock (function : Function) : Script :=
  [.begins "if (1)"] ++ function.giveUp ++ [.ends]

def heading (function : Function) : Script :=
  [.note (.retracing function.name function.roles),
    .begins ("static void retrace_" ++ function.name ++ "(Trace::Call &call)")]

end Function

namespace Hooks

/-- Writes the declaration and the decoding of one argument; true if it was decoded. -/
def argument (hooks : Hooks) (function : Function) (argument : Argument) : Emit Bool := do
  Emit.step argument.declaration
  let outcome ←
    hooks.extract function argument argument.name (recordedValue argument.index)
  match outcome with
  | .decoded => return true
  | .unsupported =>
      Emit.play (argument.placeholder function)
      return false

def arguments (hooks : Hooks) (function : Function) : List Argument → Emit Bool
  | [] => return true
  | first :: rest => do
      let decoded ← hooks.argument function first
      let othersDecoded ← hooks.arguments function rest
      return decoded && othersDecoded

def body (hooks : Hooks) (function : Function) : Emit Unit := do
  hooks.prologue function
  if function.sideEffects then
    let decoded ← hooks.arguments function function.arguments
    unless decoded do
      Emit.play function.giveUpBlock
    hooks.call function
  else
    Emit.step (.line "(void)call;")

def function (hooks : Hooks) (function : Function) : Emit Unit := do
  let before := (← get).depth
  Emit.play function.heading
  hooks.body function
  Emit.step .ends
  let after := (← get).depth
  if after = before then
    Emit.step .blank
  else
    throw (.unbalanced function.name)

end Hooks

def dispatchEntry (name : String) : Step :=
  .line ("\x7b\"" ++ name ++ "\", &retrace_" ++ name ++ "\x7d,")

def dispatchTable (names : List String) : Script :=
  [.begins "const glretrace::Entry glretrace::gl_callbacks[] ="] ++
    names.map dispatchEntry ++
    [.line "\x7bNULL, NULL\x7d", .closeBlock "\x7d;"]

def Hooks.functions (hooks : Hooks) (functions : List Function) : Emit Unit := do
  functions.forM hooks.function
  Emit.play (dispatchTable (functions.map Function.name))
  Emit.step (.note (.generated functions.length))

/-- Hooks that settle what is written in advance. -/
structure Plan where
  prologue : Function → Script := fun _ => []
  call : Function → Script := Function.callStatement
  extract : Function → Argument → (lvalue rvalue : String) → Decoding :=
    fun _ argument => argument.decoding

def Plan.hooks (plan : Plan) : Hooks where
  prologue function := Emit.play (plan.prologue function)
  call function := Emit.play (plan.call function)
  extract function argument lvalue rvalue := (plan.extract function argument lvalue rvalue).emit

def Plan.plain : Plan := {}

structure Overrides where
  prologue : Script := []
  call : Option Script := none
  unsupported : List String := []
  handled : List String := []

def Overrides.plan (overrides : Overrides) : Plan where
  prologue _ := overrides.prologue
  call function := overrides.call.getD function.callStatement
  extract _ argument lvalue rvalue :=
    if argument.name ∈ overrides.unsupported then .unsupported
    else if argument.name ∈ overrides.handled then
      .supported [.line ("custom(" ++ lvalue ++ ", " ++ rvalue ++ ");")]
    else argument.decoding lvalue rvalue

end ReplayGen
