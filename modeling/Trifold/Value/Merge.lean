import Trifold.Value.Items

namespace Trifold.Value

mutual
def mergedOver (current : Option Value) : Value → Value
  | record bare fields =>
      match current.bind fields? with
      | some under => object (merge under fields)
      | none => record bare fields
  | ancestor => ((current.bind fields?).map object).getD ancestor
  | value => value
def merge (left : Fields Value) : List (String × Value) → Fields Value
  | [] => left
  | (key,value) :: rest => merge (Fields.put key (mergedOver (Fields.get? key left) value) left) rest
end

def mergeAll (states : List (Fields Value)) : Fields Value := states.foldl merge []

-- The same for anything that has fields. What is merged over something else has to be there.
def deepMerge (left right : Value) : Ask (Fields Value) := do return merge (own left) (← entries right)

def mergeStates (states : Value) : Ask (Fields Value) := do
  return mergeAll (← (← listItems "states.reduce" states).mapM entries)

end Trifold.Value
