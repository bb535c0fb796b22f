import ReplayGen.Pattern.Reading

set_option autoImplicit false

namespace ReplayGen

structure FieldTest where
  name : String
  value : Option String := none
  deriving DecidableEq, Repr

namespace FieldTest

def isSign (c : Char) : Bool :=
  c = '+' || c = '-'

def dropSign : List Char → List Char
  | c :: rest => if isSign c then rest else c :: rest
  | [] => []

def isExponent : List Char → Bool
  | mark :: rest =>
      let digits := dropSign rest
      mark.toLower = 'e' && !digits.isEmpty && digits.all Char.isDigit
  | [] => false

def isDecimal (text : List Char) : Bool :=
  let (whole, rest) := text.span Char.isDigit
  let (fraction, rest) :=
    match rest with
    | '.' :: rest => rest.span Char.isDigit
    | rest => ([], rest)
  !(whole.isEmpty && fraction.isEmpty) && (rest.isEmpty || isExponent rest)

def numberNames : List String := ["inf", "infinity", "nan"]

def isNumber (text : List Char) : Bool :=
  let unsigned := dropSign text
  isDecimal unsigned || String.ofList (unsigned.map Char.toLower) ∈ numberNames

def isValue (text : List Char) : Bool :=
  isNumber text || Pattern.isPattern text

-- The value is between the first equals sign and the next.
def ofText? (text : String) : Option FieldTest :=
  match text.splitToList (· = '=') with
  | [] => none
  | [name] => some { name }
  | name :: value :: _ => if isValue value.toList then some { name, value := some value } else none

end FieldTest

end ReplayGen
