import Trifold.Element.Basic

namespace Trifold
open Value

namespace Body

def ofList? (items : Option (List Value)) : Value := ofOption (items.map list)

def boxFields (box : Box) : List (String × Value) :=
  [("children",list box.children),
    ("spacing",number box.spacing),
    ("alignItems",ofText? box.alignItems),
    ("justifyContent",ofText? box.justifyContent),
    ("padding",ofNumber? box.padding)]

def fields : Body → List (String × Value)
  | text content => [("content",ofText? content)]
  | button it =>
      [("label",ofText? it.label), ("onClick",ofOption it.onClick), ("disabled",bool it.disabled)]
  | label target content => [("for",ofText? target), ("text",ofText? content)]
  | textInput it =>
      [("value",ofText? it.value), ("placeholder",ofText? it.placeholder), ("inputType",.text it.inputType),
        ("onChange",ofOption it.onChange), ("onSubmit",ofOption it.onSubmit), ("disabled",bool it.disabled),
        ("formId",ofText? it.formId)]
  | gauge it =>
      [("value",number it.value), ("min",number it.min), ("max",number it.max), ("label",ofText? it.label)]
  | sparkline it =>
      [("data",list (it.data.map number)), ("showDots",bool it.showDots), ("showArea",bool it.showArea)]
  | barChart it =>
      [("data",list it.data), ("orientation",.text it.orientation), ("showLabels",bool it.showLabels)]
  | lineChart it =>
      [("data",list it.data), ("showDots",bool it.showDots), ("showArea",bool it.showArea)]
  | table it =>
      [("data",list it.data), ("columns",list it.columns), ("selectedRow",ofNumber? it.selectedRow),
        ("height",ofNumber? it.height), ("onRowSelect",ofOption it.onRowSelect),
        ("onSort",ofOption it.onSort), ("sortColumn",ofText? it.sortColumn),
        ("sortDirection",.text it.sortDirection)]
  | column it =>
      [("key",.text it.key), ("header",.text it.header), ("sortable",bool it.sortable),
        ("formatter",ofOption (it.formatter.map function)), ("width",ofNumber? it.width),
        ("align",.text it.align)]
  | menu it => [("title",ofText? it.title), ("position",ofText? it.position), ("items",list it.items)]
  | menuItem it =>
      [("label",.text it.label), ("action",ofOption it.action), ("disabled",bool it.disabled),
        ("icon",ofText? it.icon), ("shortcut",ofText? it.shortcut), ("submenu",ofList? it.submenu)]
  | contextMenu it => [("triggerOn",.text it.triggerOn), ("items",list it.items)]
  | tabs it =>
      [("activeTab",ofText? it.activeTab), ("position",ofText? it.position), ("onChange",ofOption it.onChange),
        ("tabs",list it.tabs)]
  | tab it =>
      [("label",.text it.label), ("icon",ofText? it.icon), ("disabled",bool it.disabled),
        ("closable",bool it.closable), ("content",ofOption it.content)]
  | treeView it =>
      [("rootNodes",list it.rootNodes), ("selectedNode",ofText? it.selectedNode),
        ("expandedNodes",ofOption (it.expandedNodes.map texts)), ("onSelect",ofOption it.onSelect),
        ("onToggle",ofOption it.onToggle), ("showRoot",bool it.showRoot)]
  | treeNode it =>
      [("label",.text it.label), ("value",it.value), ("expanded",bool it.expanded), ("icon",ofText? it.icon),
        ("iconExpanded",ofText? it.iconExpanded), ("selectable",bool it.selectable),
        ("children",ofList? it.children)]
  | vbox it => boxFields it
  | hbox it => boxFields it

end Body

namespace Element

def toValue (element : Element) : Value :=
  object (defined ([("type",.text element.kind.name), ("id",ofText? element.id),
    ("style",ofOption element.style), ("visible",bool element.visible)] ++ element.body.fields))

end Element

end Trifold
