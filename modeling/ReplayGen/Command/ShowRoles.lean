import ReplayGen.Command.Options
import ReplayGen.Command.Outcome

set_option autoImplicit false

namespace ReplayGen.ShowRoles

inductive Request where
  | names (names : List String)
  | allFunctions
  | help
  deriving DecidableEq, Repr

def options : List OptionSpec :=
  [{ name := "all" }, { name := "help", short := some 'h' }]

def help : String :=
  "Show the replay roles of GL functions.

For each name, print the roles that affect how its calls are replayed:
whether it sets an array pointer, draws, binds a framebuffer, and so on.
Names with no special roles print `-`.

Usage:
  gl-roles <name>...
  gl-roles --all
  gl-roles (-h | --help)

Options:
  --all       Show every function in the built-in GL catalog.
  -h, --help  Show this message.
"

def Request.ofWords? (words : List String) : Option Request := do
  let line ← CommandLine.read? options words
  match line.count "all", line.count "help", line.words with
  | 0, 0, first :: rest => some (.names (first :: rest))
  | 1, 0, [] => some .allFunctions
  | 0, 1, [] => some .help
  | _, _, _ => none

def nameWidth : Nat := 36

def pad (name : String) : String :=
  name ++ String.ofList (List.replicate (nameWidth - name.toList.length) ' ')

def roleNames (roles : Roles) : String :=
  match roles.toList with
  | [] => "-"
  | list => " ".intercalate (list.map Role.name)

def record (name : String) (roles : Roles) : String :=
  pad name ++ " " ++ roleNames roles ++ "\n"

def namesText (names : List String) : String :=
  String.join (names.map fun name => record name (Roles.classify name))

def functionsText (functions : List Function) : String :=
  String.join (functions.map fun f => record f.name f.roles)

def text : Request → Except LoadError String
  | .names names => .ok (namesText names)
  | .allFunctions => do return functionsText (← Catalog.builtin).functions
  | .help => .ok help

def execute (words : List String) (files : Files) : Outcome :=
  match Request.ofWords? words with
  | none => .fail .usage files
  | some request =>
      match text request with
      | .ok printed => .print printed files
      | .error error => .fail (.load error) files

end ReplayGen.ShowRoles
