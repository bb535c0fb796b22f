import ReplayGen.Pattern.CharSet

set_option autoImplicit false

namespace ReplayGen

namespace Pattern

structure Flags where
  unicode : Option Bool := none
  spaced : Option Bool := none
  deriving DecidableEq, Repr

def Flags.letters : List Char := ['i', 'm', 's', 'x', 'R', 'U', 'u']

def Flags.ofLetters? (text : List Char) : Option Flags :=
  if text.Nodup ∧ text.all (fun c => c = '-' || c ∈ letters) ∧ text.getLast? ≠ some '-' then
    let turned (letter : Char) :=
      if letter ∈ text then some (decide (letter ∈ text.takeWhile (· ≠ '-'))) else none
    some { unicode := turned 'u', spaced := turned 'x' }
  else none

end Pattern

inductive Pattern where
  | atom (leaf : Pattern.Atom)
  | set (chars : CharSet)
  | flags (turned : Pattern.Flags)
  | repeated (pattern : Pattern)
  | group (turned : Pattern.Flags) (pattern : Pattern)
  | sequence (patterns : List Pattern)
  | choice (patterns : List Pattern)
  deriving Repr

namespace Pattern

def sequenceOf : List Pattern → Pattern
  | [pattern] => pattern
  | patterns => sequence patterns

mutual

def height : Pattern → Nat
  | atom _ | flags _ | sequence [] => 0
  | set chars => chars.height
  | repeated pattern | group _ pattern => pattern.height + 1
  | sequence patterns | choice patterns => heightOfAll patterns + 1

def heightOfAll : List Pattern → Nat
  | [] => 0
  | pattern :: patterns => max pattern.height (heightOfAll patterns)

end

mutual

def unicodeAfter? (unicode : Bool) : Pattern → Option Bool
  | atom leaf => if leaf.fits unicode then some unicode else none
  | set chars => if unicode || chars.isAscii then some unicode else none
  | flags turned => some (turned.unicode.getD unicode)
  | repeated pattern => unicodeAfter? unicode pattern
  | group turned pattern =>
      (unicodeAfter? (turned.unicode.getD unicode) pattern).map fun _ => unicode
  | sequence patterns | choice patterns => unicodeAfterAll? unicode patterns

def unicodeAfterAll? (unicode : Bool) : List Pattern → Option Bool
  | [] => some unicode
  | pattern :: patterns => do unicodeAfterAll? (← unicodeAfter? unicode pattern) patterns

end

def maxHeight : Nat := 250

def canMatch (pattern : Pattern) : Bool :=
  pattern.height ≤ maxHeight && (unicodeAfter? true pattern).isSome

end Pattern

end ReplayGen
