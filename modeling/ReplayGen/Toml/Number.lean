import ReplayGen.Toml.Text
import ReplayGen.Toml.Value

set_option autoImplicit false

namespace ReplayGen.Toml

open Decimal

-- Digits that follow a first one. An underscore stands between two digits.
def moreDigits (isDigit : Char → Bool) : Scan (List Char)
  | [] => some ([], [])
  | ['_'] => none
  | '_' :: c :: rest => if isDigit c then andThen c (moreDigits isDigit rest) else none
  | c :: rest =>
      if isDigit c then andThen c (moreDigits isDigit rest) else some ([], c :: rest)

def digits (isDigit : Char → Bool) : Scan (List Char)
  | c :: rest => if isDigit c then andThen c (moreDigits isDigit rest) else none
  | [] => none

def wholeDigits : Scan (List Char)
  | '0' :: rest => some (['0'], rest)
  | cs => digits Char.isDigit cs

def valueOf (base : Nat) (ds : List Char) : Nat :=
  ds.foldl (fun value c => base * value + (Text.hexDigit? c).getD 0) 0

def sign : List Char → Bool × List Char
  | '-' :: rest => (true, rest)
  | '+' :: rest => (false, rest)
  | cs => (false, cs)

def integer? (value : Int) : Option Value :=
  if -0x8000000000000000 ≤ value ∧ value < 0x8000000000000000 then some (.integer value) else none

def based (base : Nat) (isDigit : Char → Bool) (cs : List Char) : Option (Value × List Char) := do
  let (ds, rest) ← digits isDigit cs
  let value ← integer? (valueOf base ds)
  return (value, rest)

def isExponentMark (c : Char) : Bool :=
  c = 'e' || c = 'E'

def exponent : Scan Int
  | c :: rest =>
      if isExponentMark c then do
        let (negative, rest) := sign rest
        let (ds, rest) ← digits Char.isDigit rest
        let value : Int := valueOf 10 ds
        return (if negative then -value else value, rest)
      else some (0, c :: rest)
  | [] => some (0, [])

def decimals : Scan (List Char)
  | '.' :: rest => digits Char.isDigit rest
  | cs => some ([], cs)

def startsFraction (cs : List Char) : Bool :=
  cs.head?.any fun c => c = '.' || isExponentMark c

-- A float that is too large is refused, but a negative one is not.
def float? (negative : Bool) (value : Binary64) : Option Value :=
  match value with
  | .infinite _ => if negative then some (.float (.infinite true)) else none
  | value => some (.float (if negative then value.negate else value))

def decimalNumber (cs : List Char) : Option (Value × List Char) := do
  let (negative, cs) := sign cs
  let (whole, rest) ← wholeDigits cs
  if startsFraction rest then
    let (places, rest) ← decimals rest
    let (power, rest) ← exponent rest
    let value := Binary64.ofDecimal (valueOf 10 (whole ++ places)) (power - places.length)
    let float ← float? negative value
    return (float, rest)
  else
    let value : Int := valueOf 10 whole
    let number ← integer? (if negative then -value else value)
    return (number, rest)

def specialFloat? (negative : Bool) : List Char → Option (Value × List Char)
  | 'i' :: 'n' :: 'f' :: rest => some (.float (.infinite negative), rest)
  | 'n' :: 'a' :: 'n' :: rest => some (.float .nan, rest)
  | _ => none

def number : Scan Value
  | '0' :: 'x' :: rest => based 16 (fun c => (Text.hexDigit? c).isSome) rest
  | '0' :: 'o' :: rest => based 8 (fun c => '0' ≤ c && c ≤ '7') rest
  | '0' :: 'b' :: rest => based 2 (fun c => c = '0' || c = '1') rest
  | cs =>
      let (negative, rest) := sign cs
      specialFloat? negative rest <|> decimalNumber cs

end ReplayGen.Toml
