import ReplayGen.Decimal.Binary64

set_option autoImplicit false

namespace ReplayGen.Decimal

/-- A positive number `significand * 2 ^ exponent`, with the two ends of what rounds to it,
all as multiples of a quarter of the unit in its last place. -/
structure Neighbourhood where
  low : Nat
  value : Nat
  high : Nat
  -- A quarter of the unit in the last place is `2 ^ exponent`.
  exponent : Int
  -- Both ends round to the value as well.
  closed : Bool
  deriving DecidableEq, Repr

-- Below a power of two the next number is only half as far.
def neighbourhood (significand : Nat) (exponent : Int) : Neighbourhood :=
  let narrow :=
    significand = Nat.pow 2 (Binary64.precision - 1) ∧ Binary64.minExponent < exponent
  { low := 4 * significand - (if narrow then 1 else 2)
    value := 4 * significand
    high := 4 * significand + 2
    exponent := exponent - 2
    closed := significand % 2 = 0 }

namespace Neighbourhood

def scales (around : Neighbourhood) (power : Int) : Nat × Nat :=
  (Nat.pow 10 power.toNat * Nat.pow 2 (-around.exponent).toNat,
    Nat.pow 2 around.exponent.toNat * Nat.pow 10 (-power).toNat)

def log10 (around : Neighbourhood) : Int :=
  -- Every value exceeds 10 ^ -350, so the shifted value has an integer part.
  let shift := 350
  let (tens, units) := around.scales (-shift)
  ((Nat.toDigits 10 (around.value * units / tens)).length : Int) - 1 - shift

-- The multiple of `10 ^ power` nearest to the value, if it rounds to the value. The larger
-- wins a tie.
def nearest? (around : Neighbourhood) (power : Int) : Option Nat :=
  let (tens, units) := around.scales power
  let below := around.value * units / tens
  let within (count : Nat) : Bool :=
    if around.closed then
      around.low * units ≤ count * tens && count * tens ≤ around.high * units
    else
      around.low * units < count * tens && count * tens < around.high * units
  let belowIsNearer :=
    around.value * units - below * tens < (below + 1) * tens - around.value * units
  if within below && (belowIsNearer || !within (below + 1)) then some below
  else if within (below + 1) then some (below + 1)
  else none

end Neighbourhood

/-- Digits and the power of ten that they count. Seventeen digits always suffice. -/
def shortest (significand : Nat) (exponent : Int) : Nat × Int :=
  let around := neighbourhood significand exponent
  let attempt (extra : Nat) : Option (Nat × Int) :=
    let power := around.log10 - extra
    (around.nearest? power).map (·, power)
  ((List.range 17).findSome? attempt).getD (0, 0)

def positional (digits : Nat) (power : Int) : String :=
  let ds := Nat.toDigits 10 digits
  let decimals := (-power).toNat
  let padded := List.replicate (decimals + 1 - ds.length) '0' ++ ds
    ++ List.replicate power.toNat '0'
  let (whole, places) := padded.splitAt (padded.length - decimals)
  let fraction := (places.reverse.dropWhile (· = '0')).reverse
  String.ofList (whole ++ ['.'] ++ (if fraction.isEmpty then ['0'] else fraction))

def Binary64.text : Binary64 → String
  | finite negative significand exponent =>
      let (digits, power) := if significand = 0 then (0, 0) else shortest significand exponent
      (if negative then "-" else "") ++ positional digits power
  | infinite negative => if negative then "-inf" else "inf"
  | nan => "NaN"

end ReplayGen.Decimal
