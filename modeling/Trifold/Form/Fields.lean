import Trifold.Element.Tree
import Trifold.Payload.Hygiene

namespace Trifold.Form
open Value

-- The id and value of an input with an id that names the form. Inputs of no form answer to the absent one.
def member? (formId : Value) (element : Element) : Option (String × Option String) :=
  match element.body with
  | .textInput input =>
      if isSame (ofText? input.formId) formId then element.id.map fun id => (id,input.value) else none
  | _ => none

def members (root formId : Value) : List (String × Option String) := Tree.gather root (member? formId)

def inputIds (root formId : Value) : List String := (members root formId).map (·.1)

def fieldValue (value : Option String) : Value := (value.map text).getD null

def collect (root formId : Value) : Except Misuse Value := do
  let data ← assignAll false ((members root formId).map fun (id,value) => (id,fieldValue value))
  Payload.redactedFields (own data)

def submission (formId data extra : Value) : Value :=
  object (spread [("formId",formId), ("data",data)] (own extra))

end Trifold.Form
