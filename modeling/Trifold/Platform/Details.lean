import Trifold.Table.Layout

namespace Trifold.Details
open Value

def keys : Kind → List String
  | .textInput => ["value", "placeholder", "inputType", "onChange", "onSubmit", "disabled", "formId"]
  | .gauge => ["value", "min", "max", "label"]
  | .sparkline | .lineChart => ["data", "showDots", "showArea"]
  | .barChart => ["data", "orientation", "showLabels"]
  | .table => ["selectedRow", "sortColumn", "sortDirection", "onRowSelect", "onSort"]
  | .menu => ["title", "position"]
  | .menuItem => ["label", "icon", "shortcut"]
  | .contextMenu => ["triggerOn"]
  | .tabs => ["activeTab", "position", "onChange"]
  | .tab => ["label", "icon", "closable"]
  | .treeView => ["selectedNode", "expandedNodes", "onSelect", "onToggle", "showRoot"]
  | .treeNode => ["label", "value", "expanded", "selectable"]
  | .text | .button | .label | .column | .vbox | .hbox => []

def derived : Body → Fields Value
  | .table it =>
      [("columns",texts ((Table.shownColumns it).map (·.key))), ("rowCount",ofNat it.data.length)]
  | .menuItem it => [("hasSubmenu",bool it.submenu.isSome)]
  | .treeNode it => [("hasChildren",bool it.children.isSome)]
  | _ => []

def picked (keys : List String) (value : Value) : Fields Value :=
  defined (keys.map fun key => (key,value.get key))

def ofElement (further : List String) (value : Value) (element : Element) : Value :=
  object (picked (further ++ keys element.kind) value ++ derived element.body)

end Trifold.Details
