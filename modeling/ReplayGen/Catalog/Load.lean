import ReplayGen.Catalog.Basic
import ReplayGen.Catalog.Builtin
import ReplayGen.Toml.Document

set_option autoImplicit false

namespace ReplayGen

inductive FileError where
  | notFound
  | isDirectory
  -- Something on the path to the file is no directory.
  | notDirectory
  | nameTooLong
  | denied
  | invalidText
  | other (text : String)
  deriving DecidableEq, Repr

def FileError.message : FileError → String
  | notFound => "No such file or directory (os error 2)"
  | isDirectory => "Is a directory (os error 21)"
  | notDirectory => "Not a directory (os error 20)"
  | nameTooLong => "File name too long (os error 36)"
  | denied => "Permission denied (os error 13)"
  | invalidText => "stream did not contain valid UTF-8"
  | other text => text

inductive LoadError where
  | file (error : FileError)
  | malformed
  | schema (error : Catalog.SchemaError)
  | duplicate (offence : Duplicate)
  deriving Repr

def LoadError.message : LoadError → String
  | file error => "gl-retrace-gen: " ++ error.message
  | malformed => "gl-retrace-gen: malformed catalog"
  | schema error => "gl-retrace-gen: malformed catalog: " ++ error.message
  | duplicate offence => "gl-retrace-gen: " ++ offence.message

namespace Catalog

def ArgumentEntry.buildStep (entry : ArgumentEntry) : BuildStep :=
  .argument entry.name entry.type entry.array

def FunctionEntry.buildSteps (entry : FunctionEntry) : List BuildStep :=
  (entry.returnType.map BuildStep.returns).toList ++
    entry.arguments.map ArgumentEntry.buildStep ++
    (if entry.sideEffects then [] else [.withoutSideEffects])

def FunctionEntry.function (entry : FunctionEntry) : Function :=
  Function.build entry.name entry.buildSteps

def ofEntries (entries : List FunctionEntry) : Except LoadError Catalog :=
  (ofFunctions (entries.map FunctionEntry.function)).mapError .duplicate

def ofValue (document : Toml.Value) : Except LoadError Catalog := do
  ofEntries (← (entries document).mapError .schema)

def ofText (text : String) : Except LoadError Catalog :=
  match Toml.read? text with
  | some document => ofValue document
  | none => .error .malformed

def ofBytes (bytes : ByteArray) : Except LoadError Catalog :=
  match String.fromUTF8? bytes with
  | some text => ofText text
  | none => .error (.file .invalidText)

def ofFile (content : Except FileError ByteArray) : Except LoadError Catalog := do
  ofBytes (← content.mapError .file)

def builtin : Except LoadError Catalog :=
  ofEntries Builtin.entries

end Catalog

end ReplayGen
