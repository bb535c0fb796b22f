import ReplayGen.CType

set_option autoImplicit false

namespace ReplayGen

inductive Scalar where
  | signed
  | unsigned
  | enumeration
  | bitmask
  | float
  | double
  deriving DecidableEq, Repr

namespace Scalar

def all : List Scalar := [signed, unsigned, enumeration, bitmask, float, double]

def types : Scalar → List String
  | signed =>
      ["GLbyte", "GLshort", "GLint", "GLsizei", "GLintptr", "GLintptrARB", "GLsizeiptr",
        "GLsizeiptrARB", "GLint64", "GLint64EXT", "int"]
  | unsigned =>
      ["GLubyte", "GLushort", "GLuint", "GLuint64", "GLuint64EXT", "GLboolean", "unsigned"]
  | enumeration => ["GLenum"]
  | bitmask => ["GLbitfield"]
  | float => ["GLfloat", "GLclampf"]
  | double => ["GLdouble", "GLclampd"]

def ofType? (type : String) : Option Scalar :=
  all.find? (type ∈ ·.types)

theorem mem_types_of_ofType? {type : String} {kind : Scalar} (found : ofType? type = some kind) :
    type ∈ kind.types := by
  simpa using List.find?_some found

def reader : Scalar → String
  | signed | enumeration => "toSInt"
  | unsigned | bitmask => "toUInt"
  | float => "toFloat"
  | double => "toDouble"

end Scalar

inductive Kind where
  | scalar (kind : Scalar)
  -- Text that ends in a NUL.
  | text
  -- Any other pointer, passed on as the address that was recorded.
  | address
  | array (element : Scalar)
  | unknown
  deriving DecidableEq, Repr

namespace Kind

def characterTypes : List String := ["GLchar", "GLcharARB", "char"]

def ofPointer (target : List Char) (array : Bool) : Kind :=
  let pointee := Text.trimEnd target
  let base := String.ofList (CType.withoutConst pointee)
  if array then
    match Scalar.ofType? base with
    | some element => .array element
    | none => .unknown
  else if CType.constPrefix.isPrefixOf pointee && base ∈ characterTypes then .text
  else .address

def ofType (type : String) (array : Bool) : Kind :=
  let spelling := CType.spell type.toList
  match CType.beforeStar? spelling with
  | some target => ofPointer target array
  | none =>
    match Scalar.ofType? (String.ofList spelling) with
    | some kind => .scalar kind
    | none => .unknown

end Kind

end ReplayGen
