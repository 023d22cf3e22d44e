import Trifold.Number.Basic

namespace Trifold.Number

structure Decimal where
  digits : Nat
  exponent : Int
  deriving Repr, DecidableEq

-- All comparisons happen on integers: values are scaled by 2^1100 · 10^400, which leaves no fraction.
def scaledBinary (quarters : Nat) (exponent : Int) : Nat :=
  quarters * twoTo (exponent - 2 + 1100).toNat * tenTo 400

def scaledDecimal (d : Decimal) : Nat := d.digits * tenTo (d.exponent + 400).toNat * twoTo 1100

-- The reals that round to mantissa · 2^exponent, in quarters of its last place. Below a power of two the
-- neighbour is nearer by half.
structure Interval where
  low : Nat
  value : Nat
  high : Nat
  closed : Bool

def interval (mantissa : Nat) (exponent : Int) : Interval :=
  let below := if mantissa == twoTo 52 && -1074 < exponent then 1 else 2
  { low := scaledBinary (4 * mantissa - below) exponent,
    value := scaledBinary (4 * mantissa) exponent,
    high := scaledBinary (4 * mantissa + 2) exponent,
    closed := mantissa % 2 == 0 }

def Interval.holds (i : Interval) (n : Nat) : Bool :=
  if i.closed then i.low ≤ n && n ≤ i.high else i.low < n && n < i.high

def decimalLength (n : Nat) : Nat := (Nat.toDigits 10 n).length

def onGrid (i : Interval) (exponent : Int) : Option Decimal :=
  let step := scaledDecimal ⟨1,exponent⟩
  let lower : Decimal := ⟨i.value / step,exponent⟩
  let upper : Decimal := ⟨i.value / step + 1,exponent⟩
  let lowerIn := lower.digits != 0 && i.holds (scaledDecimal lower)
  let upperIn := i.holds (scaledDecimal upper)
  if lowerIn && upperIn then
    let below := i.value - scaledDecimal lower
    let above := scaledDecimal upper - i.value
    some (if below < above || (below == above && lower.digits % 2 == 0) then lower else upper)
  else if lowerIn then some lower
  else if upperIn then some upper
  else none

def firstHit (i : Interval) (exponent : Int) : Nat → Option Decimal
  | 0 => none
  | tries+1 => (onGrid i exponent).orElse fun _ => firstHit i (exponent - 1) tries

def stripZeros : Nat → Decimal → Decimal
  | 0, d => d
  | fuel+1, d =>
      if d.digits % 10 == 0 && d.digits != 0 then stripZeros fuel ⟨d.digits / 10,d.exponent + 1⟩ else d

-- Of the decimals that round to the value one with the fewest digits, of those the nearest, and on a tie the even one.
-- Seventeen digits always suffice.
def shortest (mantissa : Nat) (exponent : Int) : Decimal :=
  let i := interval mantissa exponent
  let leading : Int := (decimalLength i.value : Int) - decimalLength (scaledDecimal ⟨1,0⟩)
  match firstHit i leading 18 with
  | some d => stripZeros 20 d
  | none => ⟨0,0⟩

end Trifold.Number
