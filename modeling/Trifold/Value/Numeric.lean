import Trifold.Number.Reading
import Trifold.Text.Units
import Trifold.Value.Text

namespace Trifold.Value

def scalarNumber : Value → Ask Float
  | absent => return Number.nan
  | null => return 0
  | bool truth => return if truth then 1 else 0
  | number x => return x
  | text s => return Number.ofText s
  | bigint _ => .misuse .bigintNumber
  | _ => .misuse .symbolNumber

def toNumber : Value → Ask Float
  | number x => return x
  | value => do scalarNumber (← toScalar .number value)

-- What counts as holding: everything but nothing, zero and the empty text.
def isTrue : Value → Bool
  | absent | null => false
  | bool truth => truth
  | number x => !(x == 0) && !Number.isNaN x
  | text s => !s.isEmpty
  | bigint n => n != 0
  | _ => true

inductive Amount where
  | number (x : Float)
  | bigint (n : Int)

def scalarAmount : Value → Ask Amount
  | bigint n => return .bigint n
  | value => do return .number (← scalarNumber value)

def toAmount (value : Value) : Ask Amount := do scalarAmount (← toScalar .number value)

namespace Amount

def toValue : Amount → Value
  | number x => .number x
  | bigint n => .bigint n

def both (onNumbers : Float → Float → Float) (onBigints : Int → Int → Ask Int) : Amount → Amount → Ask Value
  | number x, number y => return .number (onNumbers x y)
  | bigint m, bigint n => do return .bigint (← onBigints m n)
  | _, _ => .misuse .mixedBigint

def bigintBelow (n : Int) (x : Float) : Option Bool :=
  match Number.exact x with
  | .nan => none
  | .infinite negative => some !negative
  | _ => (Number.floor? x).map fun floor => n < floor || (n == floor && !Number.isInteger x)

def bigintAbove (n : Int) (x : Float) : Option Bool :=
  match Number.exact x with
  | .nan => none
  | .infinite negative => some negative
  | _ => (Number.floor? x).map fun floor => floor < n

def below? : Amount → Amount → Option Bool
  | number x, number y => if Number.isNaN x || Number.isNaN y then none else some (x < y)
  | bigint m, bigint n => some (m < n)
  | bigint m, number y => bigintBelow m y
  | number x, bigint n => bigintAbove n x

end Amount

def difference (a b : Value) : Ask Value := do
  Amount.both (· - ·) (fun m n => return m - n) (← toAmount a) (← toAmount b)

def product (a b : Value) : Ask Value := do
  Amount.both (· * ·) (fun m n => return m * n) (← toAmount a) (← toAmount b)

def quotient (a b : Value) : Ask Value := do
  Amount.both (· / ·) (fun m n => if n = 0 then .misuse .bigintDivision else return m.tdiv n)
    (← toAmount a) (← toAmount b)

def sum (a b : Value) : Ask Value := do
  let a ← toScalar .either a
  let b ← toScalar .either b
  if a.text?.isSome || b.text?.isSome then return text ((← scalarText a) ++ (← scalarText b))
  else Amount.both (· + ·) (fun m n => return m + n) (← scalarAmount a) (← scalarAmount b)

-- A big integer compares with a text by the whole number the text stands for.
def scalarBelow? : Value → Value → Ask (Option Bool)
  | text s, text t => return some (Text.before s t)
  | bigint n, text t => return (Number.integer? t).map (n < ·)
  | text s, bigint n => return (Number.integer? s).map (· < n)
  | a, b => do return Amount.below? (← scalarAmount a) (← scalarAmount b)

def below? (a b : Value) : Ask (Option Bool) := do
  let a ← toScalar .number a
  let b ← toScalar .number b
  scalarBelow? a b

def isBelow (a b : Value) : Ask Bool := do return (← below? a b) == some true

-- `a` is above `b`; both are asked in this order.
def isAbove (a b : Value) : Ask Bool := do
  let a ← toScalar .number a
  let b ← toScalar .number b
  return (← scalarBelow? b a) == some true

def isAtLeast (a b : Value) : Ask Bool := do return (← below? a b) == some false

def isAtMost (a b : Value) : Ask Bool := do
  let a ← toScalar .number a
  let b ← toScalar .number b
  return (← scalarBelow? b a) == some false

end Trifold.Value
