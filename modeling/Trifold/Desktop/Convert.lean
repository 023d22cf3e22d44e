import Trifold.Chart.Basic
import Trifold.Desktop.Widget
import Trifold.Platform.Details
import Trifold.Platform.Walk

namespace Trifold.Desktop
open Value

def isFontStyle (value : Value) : Bool := value.text?.any ["bold", "underline", "italic"].contains

def styleProps (style : Value) : Ask (Fields Value) := do
  if style.isAbsent then return []
  let fonts := (← listItems "style.attrs.filter" (← style.fetch "attrs")).filter isFontStyle
  return defined [("color",style.get "fg"), ("background",style.get "bg"),
    ("fontStyle",if fonts.isEmpty then absent else list fonts)]

-- Keywords are records, so a name they inherit has a meaning too.
def alignments : Value :=
  object [("start",text "left"), ("center",text "center"), ("end",text "right"), ("stretch",text "stretch")]

def justifications : Value :=
  object [("start",text "top"), ("center",text "center"), ("end",text "bottom"),
    ("space_between",text "space_between"), ("space_around",text "space_around")]

def meaning (keywords keyword : Value) : Ask Value :=
  if keyword.isAbsent then return absent else fetchBy keyword keywords

def align (keyword : Value) : Ask Value := meaning alignments keyword

def justify (keyword : Value) : Ask Value := meaning justifications keyword

def disabledProps (disabled : Bool) : Fields Value := if disabled then [("disabled",bool true)] else []

def boxProps (value : Value) : Ask (Fields Value) := do
  return [("spacing",value.get "spacing"), ("padding",value.get "padding"),
    ("align",← align (value.get "alignItems")), ("justify",← justify (value.get "justifyContent"))]

def further : Kind → List String
  | .textInput => ["id"]
  | _ => []

def tagged (value : Value) (element : Element) (widget : Value) : Ask Value :=
  Widget.withTag widget (text element.kind.name) (Details.ofElement (further element.kind) value element)

def titleLabel (menu : Value) : Ask (List Value) := do
  let title ← Label.menuTitle menu
  if title.isAbsent then return [] else return [← Widget.label title absent absent]

def assemble (value : Value) (element : Element) (inside panel : List Value) : Ask Value := do
  let style ← styleProps (value.get "style")
  let id := value.get "id"
  let tagged := tagged value element
  let able (disabled : Bool) : Value := object (spread style (disabledProps disabled))
  let label (shown : Value) : Ask Value := Widget.label (shown.orElse (text "")) (object style) id
  let drawn (shown : String) : Ask Value := do tagged (← label (text shown))
  let container (direction : String) (children : List Value) (props : Fields Value) : Ask Value :=
    Widget.container (text direction) (list children) (object props) id
  match element.body with
  | .text _ => label (value.get "content")
  | .button it =>
      Widget.button ((value.get "label").orElse (text "")) (value.get "onClick") (able it.disabled) id
  | .label target _ =>
      let widget ← label (value.get "text")
      return if target.isSome then Widget.withLabelFor widget (value.get "for") else widget
  | .textInput it => do tagged (← Widget.label (← Label.inputDisplay value) (able it.disabled) id)
  | .gauge _ => do drawn (← Chart.gaugeText value)
  | .sparkline _ => do drawn (← Chart.sparklineText (value.get "data"))
  | .barChart _ => do drawn (← Chart.barText value)
  | .lineChart _ => do drawn (← Chart.lineText value)
  | .table _ => do drawn (← Table.drawn value)
  | .column _ => label (value.get "header")
  | .menuItem it => do
      tagged (← Widget.button (text (← Label.menuItem value)) (value.get "action") (able it.disabled) id)
  | .menu _ => do tagged (← container "vbox" ((← titleLabel value) ++ inside) style)
  | .contextMenu _ | .treeView _ => do tagged (← container "vbox" inside style)
  | .tab it => do tagged (← Widget.button (text (← Label.tab value)) absent (able it.disabled) id)
  | .tabs _ => do
      let bar ← Widget.container (text "hbox") (list inside) (object [("spacing",number 2)]) absent
      tagged (← container "vbox" (bar :: panel) (spread [("spacing",number 1)] style))
  | .treeNode _ => do
      let shown := text (← Label.treeNode value)
      if inside.isEmpty then tagged (← label shown)
      else tagged (← container "vbox" ((← Widget.label shown (object style) absent) :: inside) [])
  | .vbox _ | .hbox _ => do container element.kind.name inside (spread (← boxProps value) style)

def backend : Backend Value :=
  { platform := .desktop,
    blank := object [("type",text "label"), ("props",object [("text",text "")]), ("children",list [])],
    blankName := "as an empty label",
    ready := fun _ => return (),
    assemble }

end Trifold.Desktop
