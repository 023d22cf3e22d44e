import Trifold.Number.Shortest

namespace Trifold.Number

def zeros (n : Nat) : String := String.ofList (List.replicate n '0')

-- `point` counts the digits before the point; it may lie outside them on either side.
def placed (digits : String) (point : Int) : String :=
  let length : Int := digits.length
  if length ≤ point && point ≤ 21 then digits ++ zeros (point - length).toNat
  else if 0 < point && point ≤ 21 then
    String.ofList (digits.toList.take point.toNat) ++ "." ++ String.ofList (digits.toList.drop point.toNat)
  else if -6 < point && point ≤ 0 then "0." ++ zeros (-point).toNat ++ digits
  else
    let exponent := point - 1
    let mark := if exponent < 0 then "e-" else "e+"
    let tail := mark ++ toString exponent.natAbs
    match digits.toList with
    | [] => tail
    | [d] => String.singleton d ++ tail
    | d :: rest => String.singleton d ++ "." ++ String.ofList rest ++ tail

def Decimal.written (d : Decimal) : String :=
  let digits := toString d.digits
  placed digits (d.exponent + digits.length)

def written (x : Float) : String :=
  match exact x with
  | .nan => "NaN"
  | .infinite negative => if negative then "-Infinity" else "Infinity"
  | .zero _ => "0"
  | .finite negative mantissa exponent =>
      (if negative then "-" else "") ++ (shortest mantissa exponent).written

end Trifold.Number
