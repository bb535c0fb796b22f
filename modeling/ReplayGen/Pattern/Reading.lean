import ReplayGen.Pattern.Basic
import ReplayGen.Text.Alphanumeric

set_option autoImplicit false

namespace ReplayGen.Pattern

structure OpenGroup where
  flags : Flags := {}
  spacedAround : Bool := false
  -- The branches that are complete, from the last.
  branches : List Pattern := []
  -- The parts of the branch that is not, from the last.
  parts : List Pattern := []

namespace OpenGroup

def add (current : OpenGroup) (part : Pattern) : OpenGroup :=
  { current with parts := part :: current.parts }

def branch (current : OpenGroup) : Pattern :=
  sequenceOf current.parts.reverse

def nextBranch (current : OpenGroup) : OpenGroup :=
  { current with branches := current.branch :: current.branches, parts := [] }

def inner (current : OpenGroup) : Pattern :=
  match current.branches with
  | [] => current.branch
  | branches => choice (current.branch :: branches).reverse

def close (current : OpenGroup) : Pattern :=
  group current.flags current.inner

def repeat? (current : OpenGroup) : Option OpenGroup :=
  match current.parts with
  | [] | .flags _ :: _ => none
  | part :: parts => some { current with parts := repeated part :: parts }

end OpenGroup

def isName : List Char → Bool
  | [] => false
  | first :: rest =>
      (first = '_' || Text.isAlphabetic first) &&
        rest.all fun c => c ∈ ['_', '.', '[', ']'] || Text.isAlphanumeric c

inductive Opening where
  | group (turned : Flags) (name : Option String)
  | flags (turned : Flags)

namespace Opening

def named? (text : List Char) : Option (Opening × List Char) :=
  match text.span (· ≠ '>') with
  | (name, '>' :: rest) =>
      if isName name then some (group {} (some (String.ofList name)), rest) else none
  | _ => none

def flagged? (text : List Char) : Option (Opening × List Char) := do
  let (letters, rest) := text.span (· ∉ [':', ')'])
  let turned ← Flags.ofLetters? letters
  match rest with
  | ':' :: rest => some (group turned none, rest)
  | ')' :: rest => if letters.isEmpty then none else some (flags turned, rest)
  | _ => none

def read? : List Char → Option (Opening × List Char)
  | '?' :: 'P' :: '<' :: rest => named? rest
  | '?' :: '<' :: rest => named? rest
  | '?' :: rest => flagged? rest
  | rest => some (group {} none, rest)

end Opening

def repetitions : List Char := ['?', '*', '+']

def readFrom :
    Nat → List String → Bool → OpenGroup → List OpenGroup → List Char → Option Pattern
  | 0, _, _, _, _, _ => none
  | fuel + 1, names, spaced, current, outer, text =>
      match next spaced text with
      | [] => if outer.isEmpty then some current.inner else none
      | '(' :: rest => do
          match ← Opening.read? (next spaced rest) with
          | (.flags turned, rest) =>
              readFrom fuel names (turned.spaced.getD spaced) (current.add (.flags turned)) outer
                rest
          | (.group turned name, rest) =>
              guard (name.all (· ∉ names))
              readFrom fuel (name.toList ++ names) (turned.spaced.getD spaced)
                { flags := turned, spacedAround := spaced } (current :: outer) rest
      | ')' :: rest =>
          match outer with
          | [] => none
          | around :: outer =>
              readFrom fuel names current.spacedAround (around.add current.close) outer rest
      | '|' :: rest => readFrom fuel names spaced current.nextBranch outer rest
      | '[' :: rest => do
          let (chars, rest) ← CharSet.read? spaced rest
          readFrom fuel names spaced (current.add (.set chars)) outer rest
      | '\x7b' :: _ => none
      | '\\' :: rest => do
          let (leaf, rest) ← Atom.read? spaced rest
          readFrom fuel names spaced (current.add (.atom leaf)) outer rest
      | c :: rest =>
          if c ∈ repetitions then do
            let repeated ← current.repeat?
            readFrom fuel names spaced repeated outer
              (if rest.head? = some '?' then rest.tail else rest)
          else readFrom fuel names spaced (current.add (.atom (.ofChar c))) outer rest

def read? (text : List Char) : Option Pattern :=
  readFrom (text.length + 1) [] false {} [] text

def isPattern (text : List Char) : Bool :=
  (read? text).any canMatch

end ReplayGen.Pattern
