import Trifold.Attributes
import Trifold.Table.Runs
import Trifold.Text.Units
import Trifold.Value.Json

namespace Trifold.Table
open Value

def orderText (value : Value) : Ask (Option String) := do
  if value.isObject then json? value else return some (← value.toText)

-- What has no text ties with everything.
def textDifference : Option String → Option String → Float
  | some left, some right => if Text.before left right then -1 else if Text.before right left then 1 else 0
  | _, _ => 0

-- Below zero when the first comes before the second. A difference of two infinities is no number.
def compare : Value → Value → Ask Float
  | number x, number y =>
      return if Number.isNaN x && Number.isNaN y then 0
        else if Number.isNaN x then 1
        else if Number.isNaN y then -1
        else x - y
  | .bool a, .bool b => return (if a then 1 else 0) - (if b then 1 else 0)
  | a, b => do
      let left ← orderText a
      let right ← orderText b
      return textDifference left right

structure Keyed where
  row : Value
  place : Nat
  value : Value

def isAscending (direction : Value) : Bool := isSame direction (text "asc")

def placed (ascending : Bool) (a b : Value) : Ask Float :=
  match a.isMissing, b.isMissing with
  | true, true => return 0
  | true, false => return if ascending then -1 else 1
  | false, true => return if ascending then 1 else -1
  | false, false => do
      let order ← compare a b
      return if ascending then order else -order

def goesBefore (ascending : Bool) (a b : Keyed) : Ask Bool := do
  let order ← placed ascending a.value b.value
  return if order == 0 then a.place < b.place else order < 0

def keyed (rows : List Value) (key : Value) : Ask (List Keyed) :=
  rows.zipIdx.mapM fun (row,place) => do return { row, place, value := ← Attributes.readBy key row }

def sort (rows : List Value) (key direction : Value) : Ask (List Value) := do
  return (← Runs.sort (goesBefore (isAscending direction)) (← keyed rows key)).map (·.row)

-- Rows as they are written. Without any, or without a key, they stay as they are.
def sortRows (rows key direction : Value) : Ask Value := do
  if isSame (← rows.fetch "length") (number 0) || key.isMissing then return rows
  return list (← sort (← listItems "rows.map" rows) key (direction.given (text "asc")))

end Trifold.Table
