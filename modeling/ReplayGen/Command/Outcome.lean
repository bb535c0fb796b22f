import ReplayGen.Command.Files
import ReplayGen.Event

set_option autoImplicit false

namespace ReplayGen

inductive Failure where
  | usage
  | load (error : LoadError)
  deriving Repr

structure Outcome where
  failure : Option Failure := none
  printed : String := ""
  files : Files
  log : List Event := []

namespace Outcome

def fail (failure : Failure) (files : Files) : Outcome :=
  { failure := some failure, files }

def print (text : String) (files : Files) (log : List Event := []) : Outcome :=
  { printed := text, files, log }

def status (outcome : Outcome) : Nat :=
  if outcome.failure.isSome then 1 else 0

@[simp] theorem status_fail (failure : Failure) (files : Files) :
    (fail failure files).status = 1 := rfl

@[simp] theorem status_print (text : String) (files : Files) (log : List Event) :
    (print text files log).status = 0 := rfl

end Outcome

end ReplayGen
