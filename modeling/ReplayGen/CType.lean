import ReplayGen.Text.Blank

set_option autoImplicit false

namespace ReplayGen.CType

open Text

def beforeStar? (cs : List Char) : Option (List Char) :=
  if cs.getLast? = some '*' then some cs.dropLast else none

@[simp] theorem beforeStar?_append_star (cs : List Char) : beforeStar? (cs ++ ['*']) = some cs := by
  simp [beforeStar?]

theorem eq_append_of_beforeStar? {cs target : List Char} (found : beforeStar? cs = some target) :
    cs = target ++ ['*'] := by
  unfold beforeStar? at found
  split at found
  next last =>
    obtain ⟨front, rfl⟩ := List.getLast?_eq_some_iff.mp last
    simp_all
  next => simp at found

def spell (cs : List Char) : List Char :=
  let joined := [' '].intercalate (words cs)
  match beforeStar? joined with
  | some target => trimEnd target ++ [' ', '*']
  | none => joined

def normalize (type : String) : String :=
  String.ofList (spell type.toList)

def constPrefix : List Char := "const ".toList

-- Drops one leading `const`, then the blanks at both ends.
def withoutConst (cs : List Char) : List Char :=
  trim (if constPrefix.isPrefixOf cs then cs.drop constPrefix.length else cs)

def element (type : String) : String :=
  match beforeStar? type.toList with
  | some target => String.ofList (withoutConst target)
  | none => type

end ReplayGen.CType
