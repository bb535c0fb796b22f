import ReplayGen.Catalog.Load

set_option autoImplicit false

/-!
# Files

Files by their places, and the paths that lead to them. A path leads from the working directory,
or from the root, through directories that are there, and wherever it meets a link it goes on at
another place. What is written replaces a file or makes one.
-/

namespace ReplayGen

abbrev Place := List String

structure Files where
  contents : List (Place × ByteArray) := []
  work : Place := []
  directories : List Place := []
  links : List (Place × Place) := []
  -- Places at which, and below which, no file is made.
  closed : List Place := []

namespace Files

def stream (number : String) : Place := ["proc", "self", "fd", number]

def standardInput : Place := stream "0"
def standardOutput : Place := stream "1"
def standardError : Place := stream "2"

def systemDirectories : List Place :=
  ["bin", "boot", "dev", "etc", "home", "lib", "media", "mnt", "opt", "proc", "root", "run",
    "sbin", "srv", "sys", "tmp", "usr", "var"].map fun name => [name]

-- Files of every system. Nothing can be read from its devices.
def systemFiles : List (Place × ByteArray) :=
  [(["dev", "null"], ByteArray.empty), (standardInput, ByteArray.empty),
    (standardOutput, ByteArray.empty), (standardError, ByteArray.empty),
    (["etc", "hostname"], "localhost\n".toUTF8),
    (["etc", "hosts"], "127.0.0.1 localhost\n".toUTF8),
    (["etc", "passwd"], "root:x:0:0:root:/root:/bin/sh\n".toUTF8)]

def systemLinks (work : Place) : List (Place × Place) :=
  [(["dev", "stdin"], standardInput), (["dev", "stdout"], standardOutput),
    (["dev", "stderr"], standardError), (["dev", "fd"], ["proc", "self", "fd"]),
    (["proc", "self", "cwd"], work), (["proc", "self", "root"], [])]

def systemClosed : List Place := [["dev", "full"], ["proc"], ["sys"]]

def inWork (named : List (String × ByteArray)) : Files :=
  let work := ["tmp", "work"]
  let placed := named.map fun (name, bytes) => (work ++ name.splitToList (· = '/'), bytes)
  { contents := placed ++ systemFiles
    work
    directories := systemDirectories
    links := systemLinks work
    closed := systemClosed }

def isDirectory (files : Files) (place : Place) : Bool :=
  (files.work :: files.directories).any (place.isPrefixOf ·) ||
    files.contents.any fun (file, _) => place.isPrefixOf file && place ≠ file

def follow (files : Files) (place : Place) : Place :=
  (files.links.lookup place).getD place

def find? (files : Files) (place : Place) : Option ByteArray :=
  (files.contents.find? (·.1 = place)).map Prod.snd

def maxName : Nat := 255

def maxPath : Nat := 4095

-- Where the names lead from `place`. Even those that stay where they are need a directory.
def walk (files : Files) : Place → List String → Except FileError Place
  | place, [] => .ok place
  | place, name :: rest =>
      if !files.isDirectory place then
        .error (if (files.find? place).isSome then .notDirectory else .notFound)
      else if name = "" ∨ name = "." then files.walk place rest
      else if name = ".." then files.walk place.dropLast rest
      else if maxName < name.utf8ByteSize then .error .nameTooLong
      else files.walk (files.follow (place ++ [name])) rest

/-- Where a path leads. All but the last name on the way are directories that are there. -/
def place (files : Files) (path : String) : Except FileError Place :=
  if path.isEmpty then .error .notFound
  else if maxPath < path.utf8ByteSize then .error .nameTooLong
  else
    files.walk (if path.toList.head? = some '/' then [] else files.work)
      (path.splitToList (· = '/'))

def read (files : Files) (path : String) : Except FileError ByteArray := do
  let place ← files.place path
  if files.isDirectory place then .error .isDirectory
  else
    match files.find? place with
    | some bytes => .ok bytes
    | none => .error .notFound

def write (files : Files) (path : String) (bytes : ByteArray) : Except FileError Files := do
  let place ← files.place path
  if files.isDirectory place then .error .isDirectory
  else if (files.find? place).isNone && files.closed.any (·.isPrefixOf place) then .error .denied
  else .ok { files with contents := (place, bytes) :: files.contents.filter (·.1 ≠ place) }

def leadsTo (files : Files) (path : String) (place : Place) : Bool :=
  (files.place path).toOption = some place

end Files

end ReplayGen
