namespace Trifold.Number
open Float.Model

inductive Exact where
  | nan
  | infinite (negative : Bool)
  | zero (negative : Bool)
  | finite (negative : Bool) (mantissa : Nat) (exponent : Int)

-- Rounding goes through mantissa and exponent, never through a second floating operation, so its results are exact.
def exact (x : Float) : Exact :=
  match UnpackedFloat.unpack Format.binary64 x.toBits.toBitVec with
  | .notANumber => .nan
  | .infinity sign => .infinite (sign == .negative)
  | .zero sign => .zero (sign == .negative)
  | .finite sign mantissa exponent _ => .finite (sign == .negative) mantissa exponent

def twoTo (n : Nat) : Nat := Nat.pow 2 n

def tenTo (n : Nat) : Nat := Nat.pow 10 n

def infinity : Float := 1.0 / 0.0

def nan : Float := 0.0 / 0.0

def isFinite (x : Float) : Bool :=
  match exact x with
  | .zero _ | .finite .. => true
  | _ => false

def isNaN (x : Float) : Bool :=
  match exact x with
  | .nan => true
  | _ => false

def signed (negative : Bool) (n : Nat) : Int := if negative then -(n : Int) else n

def floor? (x : Float) : Option Int :=
  match exact x with
  | .nan | .infinite _ => none
  | .zero _ => some 0
  | .finite negative mantissa exponent =>
      some (match exponent with
        | .ofNat e => signed negative (mantissa * twoTo e)
        | .negSucc e => (signed negative mantissa).fdiv (twoTo (e+1)))

def truncated? (x : Float) : Option Int :=
  match exact x with
  | .nan | .infinite _ => none
  | .zero _ => some 0
  | .finite negative mantissa exponent =>
      some (signed negative (match exponent with
        | .ofNat e => mantissa * twoTo e
        | .negSucc e => mantissa / twoTo (e+1)))

-- Nearest integer; a half goes up.
def rounded? (x : Float) : Option Int :=
  match exact x with
  | .nan | .infinite _ => none
  | .zero _ => some 0
  | .finite negative mantissa exponent =>
      some (match exponent with
        | .ofNat e => signed negative (mantissa * twoTo e)
        | .negSucc e => (2 * signed negative mantissa + twoTo (e+1)).fdiv (twoTo (e+2)))

def ofInt (n : Int) : Float := if n < 0 then -(Float.ofNat n.natAbs) else Float.ofNat n.natAbs

def round (x : Float) : Float := (rounded? x).elim x ofInt

def truncate (x : Float) : Float := (truncated? x).elim x ofInt

def floor (x : Float) : Float := (floor? x).elim x ofInt

def isInteger (x : Float) : Bool :=
  match exact x with
  | .zero _ => true
  | .finite _ mantissa exponent =>
      match exponent with
      | .ofNat _ => true
      | .negSucc e => mantissa % twoTo (e+1) == 0
  | _ => false

-- The larger and the smaller of two; a value that is no number wins over both.
def larger (a b : Float) : Float :=
  if isNaN a then a else if isNaN b then b else if a < b then b else a

def smaller (a b : Float) : Float :=
  if isNaN a then a else if isNaN b then b else if b < a then b else a

end Trifold.Number
