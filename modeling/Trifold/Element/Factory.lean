import Trifold.Element.Kind
import Trifold.Value.Basic

namespace Trifold.Factory
open Value

def shown : String × Value := ("visible",bool true)

def defaults (kind : Kind) (subject : Value) : Fields Value :=
  match kind with
  | .button | .menuItem => [shown, ("disabled",bool false)]
  | .textInput => [shown, ("disabled",bool false), ("inputType",text "text")]
  | .gauge => [shown, ("min",number 0), ("max",number 100)]
  | .sparkline => [shown, ("showDots",bool false), ("showArea",bool false)]
  | .barChart => [shown, ("orientation",text "horizontal"), ("showLabels",bool true)]
  | .lineChart => [shown, ("showDots",bool true), ("showArea",bool false)]
  | .column => [shown, ("sortable",bool true), ("align",text "left"), ("header",subject)]
  | .table => [shown, ("columns",list []), ("sortDirection",text "asc")]
  | .contextMenu => [shown, ("triggerOn",text "right_click")]
  | .tab => [shown, ("disabled",bool false), ("closable",bool false)]
  | .treeNode => [shown, ("expanded",bool false), ("selectable",bool true)]
  | .treeView => [shown, ("showRoot",bool true)]
  | .vbox | .hbox => [shown, ("spacing",number 0)]
  | .text | .label | .menu | .tabs => [shown]

def subjectKey : Kind → Option String
  | .text => some "content"
  | .button | .menuItem | .tab | .treeNode => some "label"
  | .label => some "text"
  | .textInput => none
  | .gauge => some "value"
  | .sparkline | .barChart | .lineChart | .table => some "data"
  | .column => some "key"
  | .menu | .contextMenu => some "items"
  | .tabs => some "tabs"
  | .treeView => some "rootNodes"
  | .vbox | .hbox => some "children"

def make (kind : Kind) (subject properties : Value) : Value :=
  let given := spread (defaults kind subject) (own properties)
  let named := Fields.put "type" (text kind.name) given
  object (match subjectKey kind with
    | some key => Fields.put key subject named
    | none => named)

end Trifold.Factory
