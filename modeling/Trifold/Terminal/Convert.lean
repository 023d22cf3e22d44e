import Trifold.Chart.Basic
import Trifold.Platform.Details
import Trifold.Platform.Walk
import Trifold.Style.Basic
import Trifold.Terminal.Node

namespace Trifold.Terminal
open Value

def cellStyle (style : Value) : Ask Value := do
  if style.isAbsent then return absent
  let colors := defined [("fg",← style.fetch "fg"), ("bg",style.get "bg")]
  let attrs := style.get "attrs"
  if colors.isEmpty && isSame (← attrs.fetch "length") (number 0) then return absent
  return object (colors ++ [("attrs",attrs)])

-- Several styles as one, the later ones over the earlier.
def mergedStyle (styles : Value) : Ask Value := do
  let there := (← listItems "filter" styles).filter (!·.isAbsent)
  if there.isEmpty then return absent
  cellStyle (← Style.mergeAll there).toValue

def further : Kind → List String
  | .button => ["id", "onClick", "disabled"]
  | .label => ["id", "for"]
  | .menuItem => ["id", "action", "disabled"]
  | .tab => ["id", "disabled"]
  | _ => ["id"]

def leaf (style shown : Value) : Value := Node.withStyle (Node.content shown) style

def column (style : Value) (children : List Value) : Value := Node.withStyle (Node.stack "vertical" children 0) style

def box (direction : String) (style value : Value) (children : List Value) : Value :=
  Node.withStyle (Node.stackWith (text direction) children (value.get "spacing") (value.get "padding")
    (value.get "alignItems") (value.get "justifyContent")) style

def tagged (value : Value) (element : Element) (node : Value) : Value :=
  Node.withTag (text element.kind.name) node (Details.ofElement (further element.kind) value element)

def assemble (value : Value) (element : Element) (inside panel : List Value) : Ask Value := do
  let style ← cellStyle (value.get "style")
  let tagged := tagged value element
  let drawn (shown : String) : Value := tagged (leaf style (text shown))
  let written (key : String) : Value := (value.get key).orElse (text "")
  match element.body with
  | .text _ => return leaf style (written "content")
  | .button it =>
      let node := leaf style (text (← Label.button (value.get "label")))
      return if it.onClick.isSome then tagged node else node
  | .label target _ =>
      let node := leaf style (written "text")
      return if target.isSome then tagged node else node
  | .textInput _ => return drawn (← Label.input value)
  | .gauge _ => return drawn (← Chart.gaugeText value)
  | .sparkline _ => return drawn (← Chart.sparklineText (value.get "data"))
  | .barChart _ => return drawn (← Chart.barText value)
  | .lineChart _ => return drawn (← Chart.lineText value)
  | .table _ => return drawn (← Table.drawn value)
  | .column _ => return leaf style (value.get "header")
  | .menuItem _ => return drawn (← Label.menuItem value)
  | .menu _ => return tagged (column style (((← Label.menuTitle value).present?.map Node.content).toList ++ inside))
  | .contextMenu _ | .treeView _ => return tagged (column style inside)
  | .tab _ => return drawn (← Label.tab value)
  | .tabs _ =>
      let bar := Node.withStyle (Node.stack "horizontal" inside 2) style
      return tagged (Node.stack "vertical" (bar :: panel) 1)
  | .treeNode _ =>
      let label := leaf style (text (← Label.treeNode value))
      return tagged (if inside.isEmpty then label else Node.stack "vertical" (label :: inside) 0)
  | .vbox _ => return box "vertical" style value inside
  | .hbox _ => return box "horizontal" style value inside

def backend : Backend Value :=
  { platform := .terminal,
    blank := Node.empty,
    blankName := "empty",
    ready := fun _ => return (),
    assemble }

end Trifold.Terminal
