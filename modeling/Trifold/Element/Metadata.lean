import Trifold.Element.Basic
import Trifold.Value.Assign
import Trifold.Value.Text

namespace Trifold.Element
open Value

def nestedKeys : List String := ["children", "items", "submenu", "tabs", "content", "rootNodes"]

def commonKeys : List String := ["type", "id", "style", "visible"]

def isNesting (value : Value) : Bool :=
  match value with
  | null => true
  | value => value.isObject

def describes (key : String) (value : Value) : Bool :=
  !value.isAbsent && !(nestedKeys.contains key && isNesting value) && !commonKeys.contains key

def metadata (value : Value) : Except Misuse Value :=
  match ofValue? value with
  | none => .ok (object [("type",text "unknown")])
  | some element =>
      let base := defined [("type",text element.kind.name), ("visible",bool element.visible),
        ("id",ofText? element.id), ("style",ofOption element.style)]
      ((own value).filter fun (key,held) => describes key held).foldlM
        (fun draft (key,held) => assign false key held draft) (object base)

def isVisible (value : Value) : Except Misuse Bool := do
  let description ← metadata value
  return match description.get "visible" with
    | .bool false => false
    | _ => true

def describeKind (value : Value) : Ask String := (describe value).toText

end Trifold.Element
