import ReplayGen.Kind
import ReplayGen.Role

set_option autoImplicit false

namespace ReplayGen

structure Argument where
  name : String
  index : Nat
  type : String
  kind : Kind
  deriving DecidableEq, Repr

namespace Argument

-- The argument declared with type `type`. With `array`, a pointer points to an array.
def declare (index : Nat) (name type : String) (array : Bool) : Argument :=
  let type := CType.normalize type
  { name, index, type, kind := Kind.ofType type array }

def elementType (argument : Argument) : String :=
  CType.element argument.type

-- The type of the local that holds the argument. Arrays are allocated by the replay
-- itself, so their local points to elements that can be assigned.
def localType (argument : Argument) : String :=
  match argument.kind with
  | .array _ => argument.elementType ++ " *"
  | _ => argument.type

end Argument

structure Function where
  name : String
  returnType : Option String := none
  arguments : List Argument := []
  sideEffects : Bool := true
  roles : Roles
  deriving DecidableEq, Repr

inductive BuildStep where
  | returns (type : String)
  | argument (name type : String) (array : Bool)
  | withoutSideEffects
  deriving DecidableEq, Repr

namespace Function

def named (name : String) : Function :=
  { name, roles := Roles.classify name }

def returns (function : Function) (type : String) : Function :=
  let type := CType.normalize type
  { function with returnType := if type = "void" then none else some type }

def argument (function : Function) (name type : String) (array : Bool) : Function :=
  let added := Argument.declare function.arguments.length name type array
  { function with arguments := function.arguments ++ [added] }

def withoutSideEffects (function : Function) : Function :=
  { function with sideEffects := false }

def step (function : Function) : BuildStep → Function
  | .returns type => function.returns type
  | .argument name type array => function.argument name type array
  | .withoutSideEffects => function.withoutSideEffects

def build (name : String) (steps : List BuildStep) : Function :=
  steps.foldl step (named name)

@[simp] theorem build_nil (name : String) : build name [] = named name := rfl

theorem build_append (name : String) (first rest : List BuildStep) :
    build name (first ++ rest) = rest.foldl step (build name first) := by
  simp [build]

def stages (name : String) (steps : List BuildStep) : List Function :=
  steps.scanl step (named name)

def argumentNames (function : Function) : List String :=
  function.arguments.map Argument.name

end Function

end ReplayGen
