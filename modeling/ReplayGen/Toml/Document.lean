import ReplayGen.Toml.Moment
import ReplayGen.Toml.Number
import ReplayGen.Toml.Table

set_option autoImplicit false

namespace ReplayGen.Toml

-- The deepest nesting, and the most parts of a dotted key.
def maxDepth : Nat := 79

def isBareKeyChar (c : Char) : Bool :=
  c.isAlphanum || c = '-' || c = '_'

def keyPart (cs : List Char) : Option (String × List Char) :=
  match cs with
  | '"' :: _ | '\'' :: _ => lineString cs
  | _ =>
      let (name, rest) := cs.span isBareKeyChar
      if name.isEmpty then none else some (String.ofList name, rest)

def keyOf : (limit : Nat) → Scan (List String)
  | 0, _ => none
  | limit + 1, cs => do
      let (part, rest) ← keyPart (skipSpaces cs)
      match skipSpaces rest with
      | '.' :: rest =>
          let (parts, rest) ← keyOf limit rest
          return (part :: parts, rest)
      | rest => return ([part], rest)

def key : Scan (List String) := keyOf maxDepth

def pair (value : Scan Value) : Scan (List String × Value) := fun cs => do
  let (path, rest) ← key cs
  let rest ← expect '=' rest
  let (value, rest) ← value (skipSpaces rest)
  return ((path, value), rest)

-- Items up to the closing bracket. A comma may follow the last; each item takes one of
-- `fuel`, of which the length of the text is enough.
def items (value : Scan Value) : (fuel : Nat) → Scan (List Value)
  | 0, _ => none
  | fuel + 1, cs =>
      match skipLines false cs with
      | ']' :: rest => some ([], rest)
      | cs => do
          let (first, rest) ← value cs
          match skipLines false rest with
          | ',' :: rest =>
              let (others, rest) ← items value fuel rest
              return (first :: others, rest)
          | ']' :: rest => return ([first], rest)
          | _ => none

def pairs (value : Scan Value) : (fuel : Nat) → Entries → Scan Entries
  | 0, _, _ => none
  | fuel + 1, entries, cs => do
      let ((path, value'), rest) ← pair value cs
      let key ← path.getLast?
      let entries ← setKey path.dropLast key value' .header entries
      match skipSpaces rest with
      | ',' :: rest => pairs value fuel entries rest
      | '\x7d' :: rest => return (entries, rest)
      | _ => none

def inlineTable (value : Scan Value) : Scan Value := fun cs =>
  match skipSpaces cs with
  | '\x7d' :: rest => some (.table [], rest)
  | cs => (pairs value (cs.length + 1) [] cs).map fun (entries, rest) =>
      (.table (entryValues entries), rest)

def atom : Scan Value
  | 't' :: 'r' :: 'u' :: 'e' :: rest => some (.boolean true, rest)
  | 'f' :: 'a' :: 'l' :: 's' :: 'e' :: rest => some (.boolean false, rest)
  | '"' :: rest => (string ('"' :: rest)).map fun (text, rest) => (.string text, rest)
  | '\'' :: rest => (string ('\'' :: rest)).map fun (text, rest) => (.string text, rest)
  | cs => moment cs <|> number cs

def valueOfDepth : (depth : Nat) → Scan Value
  | 0, cs => atom cs
  | depth + 1, cs =>
      match cs with
      | '[' :: rest =>
          (items (valueOfDepth depth) (rest.length + 1) rest).map fun (values, rest) =>
            (.array values, rest)
      | '\x7b' :: rest => inlineTable (valueOfDepth depth) rest
      | cs => atom cs

def value : Scan Value := valueOfDepth maxDepth

def line (outline : Outline) : Scan Outline
  | '[' :: '[' :: cs => do
      let (path, rest) ← key cs
      let rest ← lineEnd? (← expect ']' (← expect ']' rest))
      let outline ← outline.define path addTable
      return (outline, rest)
  | '[' :: cs => do
      let (path, rest) ← key cs
      let rest ← lineEnd? (← expect ']' rest)
      let outline ← outline.define path defineTable
      return (outline, rest)
  | cs =>
      match lineEnd? cs with
      | some rest => some (outline, rest)
      | none => do
          let ((path, value), rest) ← pair value cs
          let rest ← lineEnd? rest
          let outline ← outline.set path value
          return (outline, rest)

def lines : (fuel : Nat) → Outline → List Char → Option Outline
  | 0, _, _ => none
  | fuel + 1, outline, cs =>
      match skipSpaces cs with
      | [] => some outline
      | cs => do
          let (outline, rest) ← line outline cs
          lines fuel outline rest

def dropByteOrderMark : List Char → List Char
  | '\ufeff' :: rest => rest
  | cs => cs

def read? (text : String) : Option Value := do
  let cs := dropByteOrderMark text.toList
  let outline ← lines (cs.length + 1) {} cs
  return .table (entryValues outline.root)

end ReplayGen.Toml
