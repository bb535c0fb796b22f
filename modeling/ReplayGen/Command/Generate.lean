import ReplayGen.Command.Options
import ReplayGen.Command.Outcome
import ReplayGen.Replay.GL

set_option autoImplicit false

namespace ReplayGen.Generate

structure Paths where
  -- The built-in catalog if there is none.
  catalog : Option String := none
  -- Standard output if there is none.
  output : Option String := none
  deriving DecidableEq, Repr

inductive Request where
  | generate (paths : Paths)
  | help
  deriving DecidableEq, Repr

def options : List OptionSpec :=
  [{ name := "catalog", takesValue := true }, { name := "output", takesValue := true },
    { name := "help", short := some 'h' }]

def help : String :=
  "Generate GL replay code.

Write the C++ source for replaying recorded GL calls. Each entry point in the
catalog gets a function that decodes a recorded call and makes it again,
followed by a table of all of them.

Usage:
  glretrace-gen [--catalog=<path>] [--output=<path>]
  glretrace-gen (-h | --help)

Options:
  --catalog=<path>  Read entry points from this TOML catalog, instead of
                    using the built-in GL catalog.
  --output=<path>   Write to this file instead of standard output.
  -h, --help        Show this message.
"

def paths (line : CommandLine) : Paths :=
  { catalog := (line.valuesOf "catalog").head?
    output := (line.valuesOf "output").head? }

def Request.ofWords? (words : List String) : Option Request := do
  let line ← CommandLine.read? options words
  guard line.words.isEmpty
  match line.count "help" with
  | 0 =>
      guard (line.count "catalog" ≤ 1 ∧ line.count "output" ≤ 1)
      return .generate (paths line)
  | 1 =>
      guard (line.count "catalog" = 0 ∧ line.count "output" = 0)
      return .help
  | _ => none

def draft (content : Option (Except FileError ByteArray)) : Except LoadError Draft := do
  let catalog ←
    match content with
    | some content => Catalog.ofFile content
    | none => Catalog.builtin
  return GL.generate catalog.functions

def deliver (draft : Draft) (output : Option String) (files : Files) : Outcome :=
  match output with
  | none => .print draft.text files draft.log
  | some path =>
      if files.leadsTo path Files.standardOutput then .print draft.text files draft.log
      else
        match files.write path draft.text.toUTF8 with
        | .ok written => .print "" written draft.log
        | .error error => .fail (.load (.file error)) files

def run (paths : Paths) (files : Files) : Outcome :=
  match draft (paths.catalog.map files.read) with
  | .error error => .fail (.load error) files
  | .ok draft => deliver draft paths.output files

def execute (words : List String) (files : Files) : Outcome :=
  match Request.ofWords? words with
  | none => .fail .usage files
  | some .help => .print help files
  | some (.generate paths) => run paths files

end ReplayGen.Generate
