import ReplayGen.Pattern.Atom

set_option autoImplicit false

namespace ReplayGen

inductive SetOperator where
  | intersection
  | difference
  | symmetricDifference
  deriving DecidableEq, Repr

inductive CharSet where
  | empty
  | range (first last : Char)
  | named (name : String) (complement : Bool)
  | category (letter : Char) (complement : Bool)
  | brackets (complement : Bool) (set : CharSet)
  | union (sets : List CharSet)
  | combined (operator : SetOperator) (left right : CharSet)
  deriving Repr

namespace CharSet

def unionOf : List CharSet → CharSet
  | [] => empty
  | [set] => set
  | sets => union sets

def ofAtom? : Pattern.Atom → Option CharSet
  | .char value _ => some (range value value)
  | .named name complement => some (named name complement)
  | .category letter complement => some (category letter complement)
  | .dot | .anchor | .wordEdge => none

def between? : Pattern.Atom → Pattern.Atom → Option CharSet
  | .char first _, .char last _ => if first ≤ last then some (range first last) else none
  | _, _ => none

mutual

def height : CharSet → Nat
  | empty | range .. | named .. | category .. => 0
  | brackets _ set => set.height + 1
  | union sets => heightOfAll sets + 1
  | combined _ left right => max left.height right.height + 1

def heightOfAll : List CharSet → Nat
  | [] => 0
  | set :: sets => max set.height (heightOfAll sets)

end

mutual

-- No part of the set has characters beyond ASCII, as the complement of a set in ASCII has.
def isAscii : CharSet → Bool
  | empty => true
  | range _ last => last.toNat < 0x80
  | named _ complement => !complement
  | category .. => false
  | brackets complement set => !complement && set.isAscii
  | union sets => areAscii sets
  | combined _ left right => left.isAscii && right.isAscii

def areAscii : List CharSet → Bool
  | [] => true
  | set :: sets => set.isAscii && areAscii sets

end

end CharSet

structure OpenSet where
  complement : Bool := false
  left : Option (CharSet × SetOperator) := none
  -- The members after it, from the last.
  members : List CharSet := []

namespace OpenSet

def add (current : OpenSet) (set : CharSet) : OpenSet :=
  { current with members := set :: current.members }

def operand (current : OpenSet) : CharSet :=
  let right := CharSet.unionOf current.members.reverse
  match current.left with
  | none => right
  | some (left, operator) => .combined operator left right

def operate (current : OpenSet) (operator : SetOperator) : OpenSet :=
  { current with left := some (current.operand, operator), members := [] }

def close (current : OpenSet) : CharSet :=
  .brackets current.complement current.operand

def hyphens (spaced : Bool) : Nat → List Char → Nat × List Char
  | limit + 1, '-' :: rest =>
      let (count, rest) := hyphens spaced limit (Pattern.next spaced rest)
      (count + 1, rest)
  | _, text => (0, text)

-- Opens a bracket. Hyphens, or else a closing bracket, that come first are members.
def start (spaced : Bool) (text : List Char) : OpenSet × List Char :=
  let (complement, text) :=
    match Pattern.next spaced text with
    | '^' :: rest => (true, Pattern.next spaced rest)
    | text => (false, text)
  match hyphens spaced text.length text with
  | (0, ']' :: rest) => ({ complement, members := [.range ']' ']'] }, rest)
  | (count, rest) => ({ complement, members := List.replicate count (.range '-' '-') }, rest)

end OpenSet

namespace CharSet

def names : List String :=
  ["alnum", "alpha", "ascii", "blank", "cntrl", "digit", "graph", "lower", "print", "punct",
    "space", "upper", "word", "xdigit"]

def ofName? : List Char → Option (CharSet × List Char)
  | ':' :: rest =>
      let (complement, rest) :=
        match rest with
        | '^' :: rest => (true, rest)
        | rest => (false, rest)
      match rest.span (· ≠ ':') with
      | (name, ':' :: ']' :: rest) =>
          if String.ofList name ∈ names then some (named (String.ofList name) complement, rest)
          else none
      | _ => none
  | _ => none

def atom? (spaced : Bool) : List Char → Option (Pattern.Atom × List Char)
  | [] => none
  | '\\' :: rest => Pattern.Atom.read? spaced rest
  | c :: rest => some (.char c, rest)

-- The next character after a hyphen that may stand for a range. Of a comment only its sign is
-- passed over.
def afterHyphen? (spaced : Bool) (text : List Char) : Option Char :=
  if spaced then
    match text.dropWhile Text.isBlank with
    | '#' :: rest => (rest.dropWhile Text.isBlank).head?
    | rest => rest.head?
  else text.head?

-- A member that is no set in brackets. A hyphen in front of another one, or of the end, makes no
-- range.
def member? (spaced : Bool) (text : List Char) : Option (CharSet × List Char) := do
  let (first, rest) ← atom? spaced text
  match Pattern.next spaced rest with
  | '-' :: rest =>
      if afterHyphen? spaced rest ∈ [some ']', some '-'] then
        return (← ofAtom? first, '-' :: rest)
      else
        let (last, rest) ← atom? spaced (Pattern.next spaced rest)
        return (← between? first last, rest)
  | rest => return (← ofAtom? first, rest)

/-- Reads on in a bracket, within others that are open from the innermost. Each step takes a
character of the text. -/
def readFrom (spaced : Bool) :
    Nat → OpenSet → List OpenSet → List Char → Option (CharSet × List Char)
  | 0, _, _, _ => none
  | fuel + 1, current, outer, text =>
      match Pattern.next spaced text with
      | [] => none
      | '[' :: rest =>
          match ofName? rest with
          | some (set, rest) => readFrom spaced fuel (current.add set) outer rest
          | none =>
              let (opened, rest) := OpenSet.start spaced rest
              readFrom spaced fuel opened (current :: outer) rest
      | ']' :: rest =>
          match outer with
          | [] => some (current.close, rest)
          | around :: outer => readFrom spaced fuel (around.add current.close) outer rest
      | '&' :: '&' :: rest => readFrom spaced fuel (current.operate .intersection) outer rest
      | '-' :: '-' :: rest => readFrom spaced fuel (current.operate .difference) outer rest
      | '~' :: '~' :: rest =>
          readFrom spaced fuel (current.operate .symmetricDifference) outer rest
      | text => do
          let (set, rest) ← member? spaced text
          readFrom spaced fuel (current.add set) outer rest

def read? (spaced : Bool) (text : List Char) : Option (CharSet × List Char) :=
  let (opened, rest) := OpenSet.start spaced text
  readFrom spaced (text.length + 1) opened [] rest

end CharSet

end ReplayGen
