import Trifold.Fields
import Trifold.Number.Basic
import Trifold.Text.Blank

namespace Trifold.Number

def digits (cs : List Char) : List Char := cs.takeWhile Fields.isDigit

def afterDigits (cs : List Char) : List Char := cs.dropWhile Fields.isDigit

def signOf (cs : List Char) : Bool × List Char :=
  match cs with
  | '-' :: rest => (true,rest)
  | '+' :: rest => (false,rest)
  | cs => (false,cs)

def negatedIf (negative : Bool) (x : Float) : Float := if negative then -x else x

-- An exponent is there only with a digit.
def power (cs : List Char) : Int × List Char :=
  match cs with
  | 'e' :: rest | 'E' :: rest =>
      let (negative,rest) := signOf rest
      if (digits rest).isEmpty then (0,cs)
      else (signed negative (Fields.numeral (digits rest)),afterDigits rest)
  | cs => (0,cs)

-- Far outside the range of numbers the size is known without being computed.
def ofDecimal (mantissa length : Nat) (scale : Int) : Float :=
  if mantissa == 0 then 0
  else if 400 < scale then infinity
  else if scale < -(400 + (length : Int)) then 0
  else Float.ofScientific mantissa (scale < 0) scale.natAbs

def unsigned? (cs : List Char) : Option (Float × List Char) :=
  let whole := digits cs
  let (fraction,rest) := match afterDigits cs with
    | '.' :: rest => (digits rest,afterDigits rest)
    | rest => ([],rest)
  let written := whole ++ fraction
  if written.isEmpty then none
  else
    let (power,rest) := power rest
    some (ofDecimal (Fields.numeral written) written.length (power - fraction.length),rest)

def digitValue? (base : Nat) (c : Char) : Option Nat :=
  let value :=
    if Fields.isDigit c then c.toNat - 48
    else if 'a' ≤ c && c ≤ 'z' then c.toNat - 87
    else if 'A' ≤ c && c ≤ 'Z' then c.toNat - 55
    else base
  if value < base then some value else none

def natural? (base : Nat) : List Char → Option Nat
  | [] => none
  | cs => cs.foldlM (fun n c => (digitValue? base c).map (base * n + ·)) 0

def marked? : List Char → Option Nat
  | '0' :: 'x' :: rest | '0' :: 'X' :: rest => natural? 16 rest
  | '0' :: 'o' :: rest | '0' :: 'O' :: rest => natural? 8 rest
  | '0' :: 'b' :: rest | '0' :: 'B' :: rest => natural? 2 rest
  | _ => none

def decimal? (cs : List Char) : Option Float :=
  let (negative,rest) := signOf cs
  if rest == "Infinity".toList then some (negatedIf negative infinity)
  else match unsigned? rest with
    | some (x,[]) => some (negatedIf negative x)
    | _ => none

-- The number a whole text stands for. Nothing but blanks is zero, and what is no number stands for none.
def ofText (s : String) : Float :=
  match Text.trimChars s.toList with
  | [] => 0
  | cs => match marked? cs with
    | some n => Float.ofNat n
    | none => (decimal? cs).getD nan

def integer? (s : String) : Option Int :=
  match Text.trimChars s.toList with
  | [] => some 0
  | cs => match marked? cs with
    | some n => some n
    | none =>
        let (negative,rest) := signOf cs
        (natural? 10 rest).map (signed negative)

end Trifold.Number
