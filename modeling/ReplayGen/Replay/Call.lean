import ReplayGen.Function
import ReplayGen.Emit

set_option autoImplicit false

namespace ReplayGen.Function

def callExpression (function : Function) : String :=
  function.name ++ "(" ++ ", ".intercalate function.argumentNames ++ ")"

-- Makes the call. A result is stored, and then discarded in the open.
def callStatement (function : Function) : Script :=
  match function.returnType with
  | none => [.line (function.callExpression ++ ";")]
  | some type =>
      [.line (type ++ " __result;"),
        .line ("__result = " ++ function.callExpression ++ ";"),
        .line "(void)__result;"]

def giveUp (function : Function) : Script :=
  [.line ("std::cerr << \"warning: unsupported call " ++ function.name ++ "\\n\";"),
    .line "return;"]

end ReplayGen.Function
