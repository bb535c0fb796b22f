import ReplayGen.Command.Generate
import ReplayGen.Command.Log
import ReplayGen.Command.ShowRoles

set_option autoImplicit false

namespace ReplayGen.Main

-- The system's codes for what is a directory; some calls negate theirs.
def directoryCodes : List UInt32 := [21, -21]

def longNameCode : UInt32 := 36

def fileError : IO.Error → FileError
  | .noFileOrDirectory .. => .notFound
  | .permissionDenied .. => .denied
  | .inappropriateType _ code _ => if code ∈ directoryCodes then .isDirectory else .notDirectory
  | error@(.invalidArgument _ code _) =>
      if code = longNameCode then .nameTooLong else .other (toString error)
  | error => .other (toString error)

def readFile (path : String) : IO (Except FileError ByteArray) := do
  try return .ok (← IO.FS.readBinFile path)
  catch error => return .error (fileError error)

def writeFile (path text : String) : IO (Except FileError Unit) := do
  try
    IO.FS.writeFile path text
    return .ok ()
  catch error => return .error (fileError error)

def fail (message : String) : IO UInt32 := do
  (← IO.getStderr).putStrLn message
  return 1

def succeed (text : String) (log : List Event) : IO UInt32 := do
  let filter := ((← IO.getEnv "RUST_LOG").map Filter.ofText).getD Filter.standard
  for line in logLines filter log do
    (← IO.getStderr).putStrLn line
  IO.print text
  return 0

def showRoles (words : List String) : IO UInt32 := do
  match ShowRoles.Request.ofWords? words with
  | none => fail ShowRoles.help
  | some request =>
      match ShowRoles.text request with
      | .error error => fail error.message
      | .ok text => succeed text []

def generate (words : List String) : IO UInt32 := do
  match Generate.Request.ofWords? words with
  | none => fail Generate.help
  | some .help => succeed Generate.help []
  | some (.generate paths) =>
      match Generate.draft (← paths.catalog.mapM readFile) with
      | .error error => fail error.message
      | .ok draft =>
          match paths.output with
          | none => succeed draft.text draft.log
          | some path =>
              match ← writeFile path draft.text with
              | .error error => fail (LoadError.file error).message
              | .ok () => succeed "" draft.log

end ReplayGen.Main

def main : List String → IO UInt32
  | "gl-roles" :: words => ReplayGen.Main.showRoles words
  | "glretrace-gen" :: words => ReplayGen.Main.generate words
  | _ => ReplayGen.Main.fail "usage: (gl-roles | glretrace-gen) <argument>..."
