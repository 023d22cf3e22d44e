import Trifold.Signal.Handler
import Trifold.Value.Assign

namespace Trifold.Handlers
open Value

abbrev Found := List (String × Fields Value)

def among (keys : List String) (details : Value) : Fields Value :=
  keys.filterMap fun key => (Handler.ofValue? (details.get key)).map fun handler => (key,handler.toValue)

-- Elements without handlers are left out, text inputs apart.
def entry (isInput : Bool) (id : Option String) (handlers : Fields Value) : Found :=
  match id with
  | some id => if !handlers.isEmpty || isInput then [(id,handlers)] else []
  | none => []

def entryBy (isInput : Bool) (id : Value) (handlers : Fields Value) : Ask Found := do
  if handlers.isEmpty && !isInput then return [] else return entry isInput (← id.toKey) handlers

-- As one record; a later element of the same id replaces an earlier one.
def toValue (found : Found) : Except Misuse Value :=
  assignAll true (found.map fun (id,handlers) => (id,object handlers))

end Trifold.Handlers
