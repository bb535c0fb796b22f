import ReplayGen.Text.Blank
import ReplayGen.Text.CodePoint

set_option autoImplicit false

namespace ReplayGen.Pattern

def dropSpace (inComment : Bool) : List Char → List Char
  | [] => []
  | c :: rest =>
      if inComment then dropSpace (c ≠ '\n') rest
      else if Text.isBlank c then dropSpace false rest
      else if c = '#' then dropSpace true rest
      else c :: rest

def next (spaced : Bool) (text : List Char) : List Char :=
  if spaced then dropSpace false text else text

@[simp] theorem next_false (text : List Char) : next false text = text := rfl

inductive Atom where
  | char (value : Char) (asByte : Bool := false)
  -- Every character that does not end a line.
  | dot
  | anchor
  | wordEdge
  | named (name : String) (complement : Bool)
  | category (letter : Char) (complement : Bool)
  deriving DecidableEq, Repr

namespace Atom

def ofChar : Char → Atom
  | '.' => dot
  | '^' | '$' => anchor
  | c => char c

-- Words can be told apart in ASCII alone, and without Unicode an atom has no characters beyond
-- ASCII, except for one that is written as it is.
def fits (unicode : Bool) : Atom → Bool
  | char value asByte => unicode || !asByte || value.toNat < 0x80
  | anchor => true
  | wordEdge => !unicode
  | named _ complement => unicode || !complement
  | dot | category .. => unicode

def take? (spaced : Bool) : Nat → List Char → Option (List Char × List Char)
  | 0, text => some ([], text)
  | _ + 1, [] => none
  | count + 1, c :: rest =>
      (take? spaced count (next spaced rest)).map fun (taken, rest) => (c :: taken, rest)

def ofCode? (spaced : Bool) (digits : Nat) (text : List Char) : Option (Atom × List Char) := do
  let (code, rest) ← take? spaced digits (next spaced text)
  let value ← Text.codePoint? code
  return (char value (digits = 2), rest)

-- The letters of the general categories, each of which has others within it.
def categories : List Char := ['c', 'l', 'm', 'n', 'p', 's', 'z']

def ofCategory? (spaced complement : Bool) (text : List Char) : Option (Atom × List Char) :=
  match next spaced text with
  | [] => none
  | letter :: rest =>
      if letter.toLower ∈ categories then some (category letter complement, next spaced rest)
      else none

def controls : List (Char × Char) :=
  [('a', '\x07'), ('f', '\x0c'), ('n', '\n'), ('r', '\r'), ('t', '\t'), ('v', '\x0b')]

-- Sets that have a letter after a backslash; its capital is the complement.
def letterSets : List (Char × String) :=
  [('d', "digit"), ('s', "space"), ('w', "word")]

def codeLengths : List (Char × Nat) :=
  [('x', 2), ('u', 4), ('U', 8)]

-- What a backslash makes of `c` alone. No letter or digit stands for itself after one.
def ofEscaped? (c : Char) : Option Atom :=
  match controls.lookup c, letterSets.lookup c.toLower with
  | some control, _ => some (char control)
  | none, some name => some (named name c.isUpper)
  | none, none =>
      if c ∈ ['A', 'z'] then some anchor
      else if c ∈ ['b', 'B', '<', '>'] then some wordEdge
      else if c.toNat < 0x80 && !c.isAlphanum then some (char c)
      else none

def read? (spaced : Bool) : List Char → Option (Atom × List Char)
  | [] => none
  | c :: rest =>
      match codeLengths.lookup c with
      | some digits => ofCode? spaced digits rest
      | none =>
          if c = 'p' ∨ c = 'P' then ofCategory? spaced (c = 'P') rest
          else (ofEscaped? c).map fun atom => (atom, rest)

end Atom

end ReplayGen.Pattern
