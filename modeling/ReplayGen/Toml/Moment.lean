import ReplayGen.Toml.Value
import ReplayGen.Toml.Scan

set_option autoImplicit false

namespace ReplayGen.Toml

def fixedNumber (count : Nat) (cs : List Char) : Option (Nat × List Char) :=
  let ds := cs.take count
  if ds.length = count ∧ ds.all Char.isDigit then
    some (ds.foldl (fun value c => 10 * value + (c.toNat - '0'.toNat)) 0, cs.drop count)
  else none

def isLeapYear (year : Nat) : Bool :=
  year % 4 = 0 && (year % 100 ≠ 0 || year % 400 = 0)

def daysIn (year month : Nat) : Nat :=
  if month = 2 then (if isLeapYear year then 29 else 28)
  else if month ∈ [4, 6, 9, 11] then 30
  else 31

def afterDate? (cs : List Char) : Option (List Char) := do
  let (year, cs) ← fixedNumber 4 cs
  let (month, cs) ← fixedNumber 2 (← expect '-' cs)
  let (day, cs) ← fixedNumber 2 (← expect '-' cs)
  guard (1 ≤ month ∧ month ≤ 12 ∧ 1 ≤ day ∧ day ≤ daysIn year month)
  return cs

def skipFraction : List Char → List Char
  | '.' :: c :: rest => if c.isDigit then rest.dropWhile Char.isDigit else '.' :: c :: rest
  | cs => cs

-- What is left after a time of day. A minute may have a leap second.
def afterTime? (cs : List Char) : Option (List Char) := do
  let (hour, cs) ← fixedNumber 2 cs
  let (minute, cs) ← fixedNumber 2 (← expect ':' cs)
  let (second, cs) ← fixedNumber 2 (← expect ':' cs)
  guard (hour ≤ 23 ∧ minute ≤ 59 ∧ second ≤ 60)
  return skipFraction cs

def afterOffset? : List Char → Option (List Char)
  | c :: cs =>
      if c = 'Z' ∨ c = 'z' then some cs
      else if c = '+' ∨ c = '-' then do
        let (hour, cs) ← fixedNumber 2 cs
        let (minute, cs) ← fixedNumber 2 (← expect ':' cs)
        guard (hour ≤ 23 ∧ minute ≤ 59)
        return cs
      else none
  | [] => none

def afterDatedTime? : List Char → Option (List Char)
  | c :: cs =>
      if c = 'T' ∨ c = 't' ∨ c = ' ' then do
        let rest ← afterTime? cs
        return (afterOffset? rest).getD rest
      else none
  | [] => none

def afterMoment? (cs : List Char) : Option (List Char) :=
  match afterDate? cs with
  | some rest => some ((afterDatedTime? rest).getD rest)
  | none => afterTime? cs

def moment : Scan Value := fun cs => do
  let rest ← afterMoment? cs
  return (.moment (String.ofList (cs.take (cs.length - rest.length))), rest)

end ReplayGen.Toml
