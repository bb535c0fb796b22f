import ReplayGen.Role

set_option autoImplicit false

namespace ReplayGen

inductive Level where
  | trace
  | debug
  | info
  | warn
  | error
  deriving DecidableEq, Repr

namespace Level

def severity : Level → Nat
  | trace => 1
  | debug => 2
  | info => 3
  | warn => 4
  | error => 5

def name : Level → String
  | trace => "TRACE"
  | debug => "DEBUG"
  | info => "INFO"
  | warn => "WARN"
  | error => "ERROR"

end Level

inductive Event where
  | retracing (function : String) (roles : Roles)
  | passingBlob (function argument : String)
  | lookingUpProgram (function : String)
  | undecodable (function argument type : String)
  | generated (functions : Nat)
  deriving DecidableEq, Repr

namespace Event

def level : Event → Level
  | retracing .. => .debug
  | passingBlob .. | lookingUpProgram .. => .trace
  | undecodable .. => .warn
  | generated .. => .info

def message : Event → String
  | retracing .. => "retracing"
  | passingBlob .. => "passing blob"
  | lookingUpProgram .. => "looking up current program"
  | undecodable .. => "can't decode argument"
  | generated .. => "generated replay functions"

inductive FieldValue where
  | text (value : String)
  | bare (value : String)
  deriving DecidableEq, Repr

def FieldValue.value : FieldValue → String
  | .text value | .bare value => value

def fields : Event → List (String × FieldValue)
  | retracing function roles => [("function", .text function), ("roles", .bare roles.describe)]
  | passingBlob function argument => [("function", .text function), ("arg", .text argument)]
  | lookingUpProgram function => [("function", .text function)]
  | undecodable function argument type =>
      [("function", .text function), ("arg", .text argument), ("ctype", .text type)]
  | generated functions => [("functions", .bare (toString functions))]

end Event

end ReplayGen
