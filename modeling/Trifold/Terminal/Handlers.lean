import Trifold.Element.Kind
import Trifold.Platform.Handlers
import Trifold.Terminal.Node

namespace Trifold.Terminal
open Value

def handlerKeys : List String :=
  ["onClick", "onChange", "onSubmit", "onSelect", "onToggle", "onRowSelect", "onSort", "action"]

namespace Node

def isTagged (node : Value) : Bool := isSame (node.get "kind") (text "tagged")

def ownHandlers (node : Value) : Ask Handlers.Found := do
  if !isTagged node then return []
  let details := node.get "meta"
  let id ← details.fetch "id"
  return Handlers.entry (isSame (node.get "tag") (text Kind.textInput.name)) id.text?
    (Handlers.among handlerKeys details)

mutual
def handlers (node : Value) : Ask Handlers.Found := do
  there node
  match shape node with
  | .wrapper =>
      let inner ← if _ : (node.get "node").isAbsent = false then handlers (node.get "node") else nothingInside
      return inner ++ (← ownHandlers node)
  | .stack =>
      match _ : node.get "children" with
      | list children => handlersOf children
      | children => do
          let _ ← items children
          return []
  | _ => return []
termination_by sizeOf node
decreasing_by
  · exact Value.sizeOf_member_lt "node" (by decide) (by assumption)
  · exact Value.sizeOf_listed_lt "children" (by decide) (by assumption)
def handlersOf (nodes : List Value) : Ask Handlers.Found := do
  match nodes with
  | [] => return []
  | node :: rest =>
      let here ← handlers node
      return here ++ (← handlersOf rest)
termination_by sizeOf nodes
end

end Node

end Trifold.Terminal
