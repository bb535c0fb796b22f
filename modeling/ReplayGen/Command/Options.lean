import ReplayGen.Text.Blank

set_option autoImplicit false

namespace ReplayGen

structure OptionSpec where
  name : String
  short : Option Char := none
  takesValue : Bool := false
  deriving DecidableEq, Repr

structure CommandLine where
  options : List (String × String) := []
  words : List String := []
  deriving DecidableEq, Repr

namespace CommandLine

def addOption (line : CommandLine) (name : String) (value : String := "") : CommandLine :=
  { line with options := (name, value) :: line.options }

def addWord (line : CommandLine) (word : String) : CommandLine :=
  { line with words := word :: line.words }

def valuesOf (line : CommandLine) (name : String) : List String :=
  (line.options.filter (·.1 = name)).map Prod.snd

def count (line : CommandLine) (name : String) : Nat :=
  (line.valuesOf name).length

end CommandLine

inductive WordShape where
  | short (letters : List Char)
  | long (name : String) (value : Option String)
  | plain
  deriving DecidableEq, Repr

/-- What stands before the first blank has no blanks, and an option is no more than that unless
the rest belongs to a value after an equals sign. A value has no line feed. -/
def WordShape.ofChars (word : List Char) : WordShape :=
  match word with
  | '-' :: '-' :: rest =>
      let (solid, beyond) := rest.span fun c => !Text.isBlank c
      let valued := solid.tail.contains '=' && !beyond.contains '\n'
      if !solid.isEmpty && (beyond.isEmpty || valued) then
        let (name, value) := rest.span (· ≠ '=')
        .long (String.ofList name) (value.tail?.map String.ofList)
      else .plain
  | '-' :: letter :: rest =>
      if rest.any Text.isBlank then .plain else .short (letter :: rest)
  | _ => .plain

namespace CommandLine

variable (specs : List OptionSpec)

def addShort (line : CommandLine) : List Char → Option CommandLine
  | [] => some line
  | letter :: rest => do
      let spec ← specs.find? (·.short = some letter)
      addShort (line.addOption spec.name) rest

def readFrom (line : CommandLine) : List String → Option CommandLine
  | [] => some line
  | "--" :: rest => some (rest.foldl addWord line)
  | word :: rest =>
      match WordShape.ofChars word.toList with
      | .plain => readFrom (line.addWord word) rest
      | .short letters => do readFrom (← addShort specs line letters) rest
      | .long name value =>
          match specs.find? (·.name = name), value, rest with
          | none, _, _ => none
          | some { takesValue := true, .. }, some value, rest =>
              readFrom (line.addOption name value) rest
          | some { takesValue := true, .. }, none, value :: rest =>
              readFrom (line.addOption name value) rest
          | some { takesValue := true, .. }, none, [] => none
          | some { takesValue := false, .. }, none, rest => readFrom (line.addOption name) rest
          | some { takesValue := false, .. }, some _, _ => none

def read? (words : List String) : Option CommandLine :=
  (readFrom specs {} words).map fun line =>
    { options := line.options.reverse, words := line.words.reverse }

end CommandLine

end ReplayGen
