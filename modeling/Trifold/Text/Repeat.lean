import Trifold.Misuse
import Trifold.Text.Units

namespace Trifold.Text

def lengthLimit : Nat := 536870888

def repeated (n : Nat) (s : String) : String := String.join (List.replicate n s)

def count? (count : Float) : Except Misuse Nat :=
  if Number.isNaN count then .ok 0
  else match Number.truncated? count with
    | none => .error (.badCount count)
    | some n => if n < 0 then .error (.badCount count) else .ok n.toNat

def repeat? (s : String) (count : Float) : Except Misuse String := do
  let n ← count? count
  if s.isEmpty then return ""
  else if lengthLimit < n * unitLength s then throw .tooLong
  else return repeated n s

end Trifold.Text
