import ReplayGen.Function
import ReplayGen.Emit

set_option autoImplicit false

namespace ReplayGen

inductive Extraction where
  | decoded
  | unsupported
  deriving DecidableEq, Repr

structure Decoding where
  script : Script
  outcome : Extraction
  deriving DecidableEq, Repr

namespace Decoding

def supported (script : Script) : Decoding := ⟨script, .decoded⟩

def unsupported : Decoding := ⟨[], .unsupported⟩

def emit (decoding : Decoding) : Emit Extraction := do
  Emit.play decoding.script
  return decoding.outcome

end Decoding

def readStatement (method lvalue rvalue : String) : Step :=
  .line (lvalue ++ " = (" ++ rvalue ++ ")." ++ method ++ "();")

namespace Argument

def arrayLocal (argument : Argument) : String :=
  "__a_" ++ argument.name

def indexLocal (argument : Argument) : String :=
  "__j_" ++ argument.name

def arrayLength (argument : Argument) : String :=
  argument.arrayLocal ++ "->values.size()"

-- Copies a recorded array. What was recorded for a null pointer is no array.
def arrayCopy (argument : Argument) (element : Scalar) (lvalue rvalue : String) : Script :=
  let array := argument.arrayLocal
  let index := argument.indexLocal
  let length := argument.arrayLength
  [.line ("const Trace::Array *" ++ array ++ " = dynamic_cast<const Trace::Array *>(&"
      ++ rvalue ++ ");"),
    .begins ("if (" ++ array ++ ")"),
    .line (lvalue ++ " = new " ++ argument.elementType ++ "[" ++ length ++ "];"),
    .begins ("for (size_t " ++ index ++ " = 0; " ++ index ++ " < " ++ length ++ "; ++"
      ++ index ++ ")"),
    readStatement element.reader (lvalue ++ "[" ++ index ++ "]")
      ("*" ++ array ++ "->values[" ++ index ++ "]"),
    .ends,
    .reopenBlock "\x7d else \x7b",
    .line (lvalue ++ " = NULL;"),
    .ends]

def decoding (argument : Argument) (lvalue rvalue : String) : Decoding :=
  match argument.kind with
  | .scalar kind => .supported [readStatement kind.reader lvalue rvalue]
  | .text => .supported [readStatement "toString" lvalue rvalue]
  | .address =>
      .supported
        [.line (lvalue ++ " = (" ++ argument.type ++ ")(" ++ rvalue ++ ").toPointer();")]
  | .array element => .supported (argument.arrayCopy element lvalue rvalue)
  | .unknown => .unsupported

theorem decoding_outcome (argument : Argument) (lvalue rvalue : String) :
    (argument.decoding lvalue rvalue).outcome = .unsupported ↔ argument.kind = .unknown := by
  unfold decoding
  split <;> simp_all [Decoding.supported, Decoding.unsupported]

end Argument

end ReplayGen
