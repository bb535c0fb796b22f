import ReplayGen.Decimal.Shortest
import ReplayGen.Text.Quoted
import ReplayGen.Toml.Value

set_option autoImplicit false

/-!
# The catalog schema

What a TOML value has to be to describe a catalog: one optional key `function` with an
array of function records, each with an array of argument records. A record is a table of
its fields, or an array that gives a first part of them in order. A value that does not
fit is refused for the first reason met in document order.
-/

namespace ReplayGen.Catalog

open Toml

structure ArgumentEntry where
  name : String
  type : String
  array : Bool := false
  deriving DecidableEq, Repr

structure FunctionEntry where
  name : String
  returnType : Option String := none
  arguments : List ArgumentEntry := []
  sideEffects : Bool := true
  deriving DecidableEq, Repr

inductive Expected where
  | string
  | boolean
  | sequence
  | record (name : String)
  deriving DecidableEq, Repr

inductive SchemaError where
  | missingField (name : String)
  | unknownField (name : String) (known : List String)
  | wrongType (found : Value) (expected : Expected)
  -- An array that ends before a field that is required.
  | tooShort (length : Nat) (record : String) (fields : Nat)
  deriving Repr

structure RecordType (α : Type) where
  name : String
  fields : List String
  -- The number of fields, from the first on, that have no default.
  required : Nat
  start : α
  set : Nat → Value → α → Except SchemaError α

namespace RecordType

variable {α : Type}

-- The key under which a date or time counts as a table.
def momentKey : String := "$__toml_private_datetime"

def setNamed (type : RecordType α) (record : α) (entry : String × Value) :
    Except SchemaError α :=
  match type.fields.findIdx? (· = entry.1) with
  | some position => type.set position entry.2 record
  | none => .error (.unknownField entry.1 type.fields)

def missing? (type : RecordType α) (given : List String) : Option String :=
  (type.fields.take type.required).find? (· ∉ given)

def ofTable (type : RecordType α) (entries : List (String × Value)) : Except SchemaError α := do
  let record ← entries.foldlM type.setNamed type.start
  match type.missing? (entries.map Prod.fst) with
  | some name => .error (.missingField name)
  | none => .ok record

-- Sets fields from `position` on. Items beyond the last field are ignored.
def setFrom (type : RecordType α) (position : Nat) (record : α) :
    List Value → Except SchemaError α
  | [] => .ok record
  | item :: rest =>
      if position < type.fields.length then do
        let next ← type.set position item record
        type.setFrom (position + 1) next rest
      else .ok record

def ofArray (type : RecordType α) (items : List Value) : Except SchemaError α := do
  let record ← type.setFrom 0 type.start items
  if items.length < type.required then
    .error (.tooShort items.length type.name type.fields.length)
  else .ok record

def ofValue (type : RecordType α) : Value → Except SchemaError α
  | .table entries => type.ofTable entries
  | .array items => type.ofArray items
  | .moment _ => .error (.unknownField momentKey type.fields)
  | other => .error (.wrongType other (.record type.name))

end RecordType

def asString : Value → Except SchemaError String
  | .string text => .ok text
  | other => .error (.wrongType other .string)

def asBoolean : Value → Except SchemaError Bool
  | .boolean value => .ok value
  | other => .error (.wrongType other .boolean)

def asSequence : Value → Except SchemaError (List Value)
  | .array items => .ok items
  | other => .error (.wrongType other .sequence)

def argumentType : RecordType ArgumentEntry where
  name := "ArgEntry"
  fields := ["name", "type", "array"]
  required := 2
  start := { name := "", type := "" }
  set
    | 0, value, entry => do return { entry with name := ← asString value }
    | 1, value, entry => do return { entry with type := ← asString value }
    | _, value, entry => do return { entry with array := ← asBoolean value }

def argumentEntries (value : Value) : Except SchemaError (List ArgumentEntry) := do
  (← asSequence value).mapM argumentType.ofValue

def functionType : RecordType FunctionEntry where
  name := "FunctionEntry"
  fields := ["name", "ret", "args", "sideeffects"]
  required := 1
  start := { name := "" }
  set
    | 0, value, entry => do return { entry with name := ← asString value }
    | 1, value, entry => do return { entry with returnType := some (← asString value) }
    | 2, value, entry => do return { entry with arguments := ← argumentEntries value }
    | _, value, entry => do return { entry with sideEffects := ← asBoolean value }

def functionEntries (value : Value) : Except SchemaError (List FunctionEntry) := do
  (← asSequence value).mapM functionType.ofValue

def functionKey : String := "function"

def entries : Value → Except SchemaError (List FunctionEntry)
  | .table pairs =>
      let set (_ : List FunctionEntry) (pair : String × Value) :=
        if pair.1 = functionKey then functionEntries pair.2
        else .error (.unknownField pair.1 [functionKey])
      pairs.foldlM set []
  | other => .error (.wrongType other (.record "CatalogFile"))

namespace SchemaError

def describe : Value → String
  | .string text => "string " ++ Text.quote text
  | .integer value => "integer `" ++ toString value ++ "`"
  | .float value => "floating point `" ++ value.text ++ "`"
  | .boolean value => "boolean `" ++ (if value then "true" else "false") ++ "`"
  | .array _ => "sequence"
  | .moment _ | .table _ => "map"

def Expected.text : Expected → String
  | .string => "a string"
  | .boolean => "a boolean"
  | .sequence => "a sequence"
  | .record name => "struct " ++ name

def fieldName (name : String) : String := "`" ++ name ++ "`"

def knownFields : List String → String
  | [name] => fieldName name
  | names => "one of " ++ ", ".intercalate (names.map fieldName)

def message : SchemaError → String
  | missingField name => "missing field " ++ fieldName name
  | unknownField name known =>
      "unknown field " ++ fieldName name ++ ", expected " ++ knownFields known
  | wrongType found expected =>
      "invalid type: " ++ describe found ++ ", expected " ++ Expected.text expected
  | tooShort length record fields =>
      "invalid length " ++ toString length ++ ", expected struct " ++ record ++ " with "
        ++ toString fields ++ " elements"

end SchemaError

end ReplayGen.Catalog
