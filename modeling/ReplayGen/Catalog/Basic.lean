import ReplayGen.Function

set_option autoImplicit false

namespace ReplayGen

def firstRepeat? (seen : List String) : List String → Option String
  | [] => none
  | name :: rest => if name ∈ seen then some name else firstRepeat? (name :: seen) rest

theorem firstRepeat?_eq_none_iff (seen names : List String) :
    firstRepeat? seen names = none ↔ names.Nodup ∧ ∀ name ∈ names, name ∉ seen := by
  induction names generalizing seen with
  | nil => simp [firstRepeat?]
  | cons name rest ih =>
      by_cases known : name ∈ seen
      · simp [firstRepeat?, known]
      · simp only [firstRepeat?, known, if_false, ih, List.nodup_cons, List.mem_cons]
        grind

inductive Duplicate where
  | function (name : String)
  | argument (function argument : String)
  deriving DecidableEq, Repr

namespace Duplicate

def message : Duplicate → String
  | function name => "catalog lists function `" ++ name ++ "` more than once"
  | argument caller name =>
      "function `" ++ caller ++ "` has more than one argument named `" ++ name ++ "`"

/-- The name of a function is checked before its arguments. -/
def first? (seen : List String) : List Function → Option Duplicate
  | [] => none
  | f :: rest =>
      if f.name ∈ seen then some (.function f.name)
      else
        match firstRepeat? [] f.argumentNames with
        | some name => some (.argument f.name name)
        | none => first? (f.name :: seen) rest

theorem first?_eq_none_iff (seen : List String) (functions : List Function) :
    first? seen functions = none ↔
      ((functions.map Function.name).Nodup ∧ ∀ f ∈ functions, f.name ∉ seen) ∧
        ∀ f ∈ functions, f.argumentNames.Nodup := by
  induction functions generalizing seen with
  | nil => simp [first?]
  | cons f rest ih =>
      by_cases known : f.name ∈ seen
      · simp [first?, known]
      · cases repeated : firstRepeat? [] f.argumentNames with
        | some name =>
            have twice : ¬ f.argumentNames.Nodup := fun distinct => by
              have none := (firstRepeat?_eq_none_iff [] f.argumentNames).mpr ⟨distinct, by simp⟩
              simp [none] at repeated
            simp [first?, known, repeated, twice]
        | none =>
            have distinct := ((firstRepeat?_eq_none_iff [] f.argumentNames).mp repeated).1
            simp only [first?, known, if_false, repeated, ih, List.map_cons, List.nodup_cons,
              List.mem_cons, List.mem_map]
            grind

end Duplicate

structure Catalog where
  functions : List Function
  distinctNames : (functions.map Function.name).Nodup
  distinctArguments : ∀ f ∈ functions, f.argumentNames.Nodup

namespace Catalog

def ofFunctions (functions : List Function) : Except Duplicate Catalog :=
  match clear : Duplicate.first? [] functions with
  | some duplicate => .error duplicate
  | none =>
      have distinct := (Duplicate.first?_eq_none_iff [] functions).mp clear
      .ok ⟨functions, distinct.1.1, distinct.2⟩

def size (catalog : Catalog) : Nat :=
  catalog.functions.length

def get? (catalog : Catalog) (name : String) : Option Function :=
  catalog.functions.find? (·.name = name)

end Catalog

end ReplayGen
