import Trifold.Text.Repeat
import Trifold.Value.Assign
import Trifold.Value.Items
import Trifold.Value.Numeric
import Trifold.Value.Same

namespace Trifold.Terminal.Node
open Value

def empty : Value := object [("kind",text "empty")]

def content (shown : Value) : Value := object [("kind",text "text"), ("content",shown)]

def stackWith (direction : Value) (children : List Value) (spacing padding align justify : Value) : Value :=
  object ([("kind",text "stack"), ("direction",direction), ("children",list children),
    ("spacing",spacing.orElse (number 0))] ++ defined [("padding",padding), ("align",align), ("justify",justify)])

def stack (direction : String) (children : List Value) (spacing : Float) : Value :=
  stackWith (text direction) children (number spacing) absent absent absent

def stackOf (direction children options : Value) : Ask Value := do
  let options := options.given (object [])
  let children ← items children
  return stackWith direction children (← options.fetch "spacing") (options.get "padding") (options.get "align")
    (options.get "justify")

def withStyle (node style : Value) : Value :=
  if style.isAbsent then node else object [("kind",text "styled"), ("node",node), ("style",style)]

def withTag (tag : Value) (node details : Value) : Value :=
  object [("kind",text "tagged"), ("tag",tag), ("node",node), ("meta",details)]

def tagOf (tag node details : Value) : Ask Value := do
  return withTag tag node (← .ofMisuse (assignDefined (← entries details)))

inductive Shape where
  | text
  | stack
  | wrapper
  | empty
  | foreign
  deriving DecidableEq, Repr

def shape (node : Value) : Shape :=
  match (node.get "kind").text? with
  | some "text" => .text
  | some "stack" => .stack
  | some "styled" | some "tagged" => .wrapper
  | some "empty" => .empty
  | _ => .foreign

def there (node : Value) : Ask Unit := do
  let _ ← node.fetch "kind"
  return ()

def nothingInside {α : Type} : Ask α := .misuse (.readOfAbsent "kind")

-- The texts of all leaves, from left to right. A foreign value has none, and counts as one absent text in a stack.
mutual
def texts (node : Value) : Ask (Option (List Value)) := do
  there node
  match shape node with
  | .text => return some [node.get "content"]
  | .empty => return some []
  | .foreign => return none
  | .wrapper =>
      if _ : (node.get "node").isAbsent = false then texts (node.get "node") else nothingInside
  | .stack =>
      match _ : node.get "children" with
      | list children => some <$> textsOf children
      | children => some <$> listItems "children.flatMap" children
termination_by sizeOf node
decreasing_by
  · exact Value.sizeOf_member_lt "node" (by decide) (by assumption)
  · exact Value.sizeOf_listed_lt "children" (by decide) (by assumption)
def textsOf (nodes : List Value) : Ask (List Value) := do
  match nodes with
  | [] => return []
  | node :: rest =>
      let here := (← texts node).getD [absent]
      return here ++ (← textsOf rest)
termination_by sizeOf nodes
end

def gap (direction spacing : Value) : Ask String := do
  if isSame direction (.text "horizontal") then .ofMisuse (Text.repeat? " " (← toNumber spacing))
  else .ofMisuse (Text.repeat? "\n" (← toNumber (← sum spacing (number 1))))

def isFilled (part : Value) : Ask Bool := do isAbove (← part.fetch "length") (number 0)

-- The plain layout: empty parts are dropped, the others stand apart by blank lines or spaces.
mutual
def plain (node : Value) : Ask Value := do
  there node
  match shape node with
  | .text => return node.get "content"
  | .empty => return .text ""
  | .foreign => return absent
  | .wrapper =>
      if _ : (node.get "node").isAbsent = false then plain (node.get "node") else nothingInside
  | .stack =>
      let parts ← match _ : node.get "children" with
        | list children => plainParts children
        | children => listItems "children.map" children
      let filled ← parts.filterM isFilled
      let gap ← gap (node.get "direction") (node.get "spacing")
      return .text (gap.intercalate (← itemTexts filled))
termination_by sizeOf node
decreasing_by
  · exact Value.sizeOf_member_lt "node" (by decide) (by assumption)
  · exact Value.sizeOf_listed_lt "children" (by decide) (by assumption)
def plainParts (nodes : List Value) : Ask (List Value) := do
  match nodes with
  | [] => return []
  | node :: rest =>
      let part ← plain node
      return part :: (← plainParts rest)
termination_by sizeOf nodes
end

end Trifold.Terminal.Node
