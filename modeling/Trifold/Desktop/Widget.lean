import Trifold.Element.Kind
import Trifold.Platform.Handlers
import Trifold.Value.Items
import Trifold.Value.Same

namespace Trifold.Desktop.Widget
open Value

def compact (source : Value) : Ask Value := do .ofMisuse (assignDefined (← entries source))

-- Given properties come after the widget's own and may override them.
def make (shape : String) (base : Fields Value) (props children id : Value) : Ask Value := do
  let props ← compact (object (spread base (own props)))
  let children ← items children
  return object (defined [("type",text shape), ("id",id), ("props",props), ("children",list children)])

def label (shown props id : Value) : Ask Value := make "label" [("text",shown)] props (list []) id

def button (label onClick props id : Value) : Ask Value :=
  make "button" [("label",label), ("onClick",onClick)] props (list []) id

def container (direction children props id : Value) : Ask Value :=
  make "container" [("direction",direction)] props children id

def withLabelFor (widget target : Value) : Value := object (Fields.put "labelFor" target (own widget))

def withTag (widget kind details : Value) : Ask Value := do
  let tag := object [("kind",kind), ("meta",← compact details)]
  return object (Fields.put "tag" tag (own widget))

variable {α : Type}

mutual
def walk (visit : Value → Ask (List α)) (widget : Value) : Ask (List α) := do
  let here ← visit widget
  match _ : widget.get "children" with
  | list children => return here ++ (← walkAll visit children)
  | children =>
      if (← items children).isEmpty then return here else .misuse (.notIterable "root.children")
termination_by sizeOf widget
decreasing_by exact Value.sizeOf_listed_lt "children" (by decide) (by assumption)
def walkAll (visit : Value → Ask (List α)) (widgets : List Value) : Ask (List α) := do
  match widgets with
  | [] => return []
  | widget :: rest =>
      let here ← walk visit widget
      return here ++ (← walkAll visit rest)
termination_by sizeOf widgets
end

def outline (root : Value) : Ask (List (Value × Value)) :=
  walk (fun widget => do return [(← widget.fetch "type",widget.get "id")]) root

def tagHandlerKeys : List String := ["onChange", "onSubmit", "onSelect", "onToggle", "onRowSelect", "onSort"]

-- Buttons hold their own handler, every other one is on a tag.
def ownHandlers (widget : Value) : Ask Handlers.Found := do
  let id ← widget.fetch "id"
  if id.isAbsent then return []
  let onButton ←
    if isSame (widget.get "type") (text "button") then do
      let onClick ← (widget.get "props").fetch "onClick"
      pure (Handlers.among ["onClick"] (object [("onClick",onClick)]))
    else pure []
  let tag := widget.get "tag"
  let onTag := Handlers.among tagHandlerKeys (tag.get "meta")
  Handlers.entryBy (isSame (tag.get "kind") (text Kind.textInput.name)) id (onButton ++ onTag)

def handlers (root : Value) : Ask Handlers.Found := walk ownHandlers root

end Trifold.Desktop.Widget
