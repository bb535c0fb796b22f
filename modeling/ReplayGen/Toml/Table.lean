import ReplayGen.Toml.Value

set_option autoImplicit false

/-!
# Building TOML tables

Headers and dotted keys name tables by paths. A path creates the tables that it passes
through, and each table is defined in one way only: a header does not define a table
again, and a dotted key does not add to a table that has a header.
-/

namespace ReplayGen.Toml

inductive Origin where
  | header
  | implied
  | dotted
  deriving DecidableEq, Repr

inductive Node where
  | value (value : Value)
  | table (origin : Origin) (entries : List (String × Node))
  -- An array of tables, the newest first. Paths pass through the newest.
  | tables (newestFirst : List Node)

abbrev Entries := List (String × Node)

mutual

def Node.toValue : Node → Value
  | .value value => value
  | .table _ entries => .table (entryValues entries)
  | .tables newestFirst => .array (nodeValues newestFirst).reverse

def entryValues : List (String × Node) → List (String × Value)
  | [] => []
  | (key, node) :: rest => (key, node.toValue) :: entryValues rest

def nodeValues : List Node → List Value
  | [] => []
  | node :: rest => node.toValue :: nodeValues rest

end

def Entries.has (entries : Entries) (key : String) : Bool :=
  entries.any (·.1 = key)

def Entries.alter (key : String) (change : Option Node → Option Node) : Entries → Option Entries
  | [] => (change none).map fun node => [(key, node)]
  | (other, node) :: rest =>
      if other = key then (change (some node)).map fun changed => (key, changed) :: rest
      else (alter key change rest).map ((other, node) :: ·)

/-- Changes the table at the end of `path`, creating tables of origin `created` on the way.
Dotted keys do not enter a table that has a header, and no path enters a value. -/
def atPath (created : Origin) (change : Origin → Entries → Option Entries) :
    List String → Origin → Entries → Option Entries
  | [], origin, entries => change origin entries
  | key :: path, _, entries =>
      entries.alter key fun
        | none => (atPath created change path created []).map (.table created)
        | some (.table origin inner) =>
            if created = .dotted ∧ origin = .header then none
            else (atPath created change path origin inner).map (.table origin)
        | some (.tables (.table origin inner :: older)) =>
            (atPath created change path origin inner).map fun changed =>
              .tables (.table origin changed :: older)
        | some _ => none

def setKey (path : List String) (key : String) (value : Value) (origin : Origin)
    (entries : Entries) : Option Entries :=
  let set (origin : Origin) (entries : Entries) : Option Entries :=
    if path ≠ [] ∧ origin ≠ .dotted then none
    else if entries.has key then none
    else some (entries ++ [(key, .value value)])
  atPath .dotted set path origin entries

-- Defines a table by a header. One that was only implied keeps its entries, and takes the
-- place of its own header.
def defineTable (key : String) (entries : Entries) : Option Entries :=
  match entries.find? (·.1 = key) with
  | none => some (entries ++ [(key, .table .header [])])
  | some (_, .table .implied inner) =>
      some (entries.filter (·.1 ≠ key) ++ [(key, .table .header inner)])
  | some _ => none

def addTable (key : String) (entries : Entries) : Option Entries :=
  entries.alter key fun
    | none => some (.tables [.table .header []])
    | some (.tables newestFirst) => some (.tables (.table .header [] :: newestFirst))
    | some _ => none

structure Outline where
  root : Entries := []
  current : List String := []

namespace Outline

def define (outline : Outline) (path : List String)
    (add : String → Entries → Option Entries) : Option Outline := do
  let key ← path.getLast?
  let root ← atPath .implied (fun _ => add key) path.dropLast .header outline.root
  return { root, current := path }

def set (outline : Outline) (path : List String) (value : Value) : Option Outline := do
  let key ← path.getLast?
  let root ←
    atPath .implied (setKey path.dropLast key value) outline.current .header outline.root
  return { outline with root }

end Outline

end ReplayGen.Toml
