import Trifold.Chart.Basic
import Trifold.Platform.Walk
import Trifold.Signal.Handler
import Trifold.Table.Layout
import Trifold.Web.Css
import Trifold.Web.Markup

namespace Trifold.Web
open Value

def dashed (name : String) : String := Text.replaceAll "_" "-" name

def eventName (handler : Value) : Ask Value := do
  match handler with
  | absent => return absent
  | text name => return text (dashed name)
  | handler => return text (dashed (← textOf "name.replaceAll" (← handler.fetch "signal")))

def eventAttr (event : String) (handler : Option Value) : Attribute :=
  ("data-on-" ++ event,(handler.bind Handler.ofValue?).map fun handler => dashed handler.signal)

def isInputType (type : String) : Bool := ["text", "password", "email", "number", "tel"].contains type

def inputType (type : String) : String := if isInputType type then type else "text"

def inputTypeOf (type : Value) : String := inputType (type.text?.getD "")

def texted (name : String) (given : List Attribute) (content : String) : Markup :=
  .element name given [.text content]

def headCell (table : Table) (column : Column) : Markup :=
  let glyph :=
    if table.sortColumn = some column.key then " " ++ Table.sortGlyph (text table.sortDirection) else ""
  texted "th"
    [("style",some ("text-align: " ++ column.align)), ("data-sort-key",if column.sortable then some column.key else none)]
    (column.header ++ glyph)

-- What is not a text cannot be escaped.
def bodyCell (row column : Value) : Ask Markup := do
  let content ← textOf "value.replace" (← Table.cell column row)
  return texted "td" [("style",some ("text-align: " ++ (Table.column column).align))] content

def isSelected (table : Table) (place : Nat) : Bool := table.selectedRow.any (· == Float.ofNat place)

def bodyRow (table : Table) (columns : List Value) (row : Value) (place : Nat) : Ask Markup := do
  return .element "tr" [("aria-selected",if isSelected table place then some "true" else none)]
    (← columns.mapM (bodyCell row))

def table (id styled : Attribute) (value : Value) (table : Table) : Ask Markup := do
  let columns := Table.shownValues table
  if columns.isEmpty then return texted "pre" [id] Table.noColumns
  let head := (Table.shownColumns table).map (headCell table)
  let rows ← items (← Table.rows value)
  let body ← rows.zipIdx.mapM fun (row,place) => bodyRow table columns row place
  return .element "table" [id, eventAttr "sort" table.onSort, eventAttr "row-select" table.onRowSelect, styled]
    [.element "thead" [] [.element "tr" [] head], .element "tbody" [] body]

def box (id : Attribute) (direction : String) (value : Value) (inside : List Markup) : Ask Markup := do
  let layout := object [("direction",text direction), ("spacing",value.get "spacing"),
    ("padding",value.get "padding"), ("align",value.get "alignItems"), ("justify",value.get "justifyContent"),
    ("style",value.get "style")]
  return .element "div" [id, ("style",some (← flexCss layout))] inside

def assemble (value : Value) (element : Element) (inside panel : List Markup) : Ask Markup := do
  let style ← css (value.get "style")
  let id : Attribute := ("id",element.id)
  let styled : Attribute := ("style",some style)
  let picture (content : String) : Markup :=
    texted "pre" [id, ("data-kind",some element.kind.name), styled] content
  match element.body with
  | .text content => return texted "span" [id, styled] (content.getD "")
  | .button it =>
      return texted "button" [id, .flag "disabled" it.disabled, eventAttr "click" it.onClick, styled]
        (it.label.getD "")
  | .label target content => return texted "label" [id, ("for",target), styled] (content.getD "")
  | .textInput it =>
      return .void "input" [id, ("name",element.id), ("type",some (inputType it.inputType)), ("value",it.value),
        ("placeholder",it.placeholder), eventAttr "change" it.onChange, eventAttr "submit" it.onSubmit,
        .flag "disabled" it.disabled, ("form",it.formId), styled]
  | .gauge _ => return picture (← Chart.gaugeText value)
  | .sparkline _ => return picture (← Chart.sparklineText (value.get "data"))
  | .barChart _ => return picture (← Chart.barText value)
  | .lineChart _ => return picture (← Chart.lineText value)
  | .table it => table id styled value it
  | .column it => return texted "span" [id, styled] it.header
  | .menuItem it =>
      return texted "li"
        [id, ("role",some "menuitem"), eventAttr "click" (if it.disabled then none else it.action),
          .flag "aria-disabled" it.disabled, .flag "aria-haspopup" it.submenu.isSome, styled]
        (← Label.menuItem value)
  | .menu it =>
      let title := ((← Label.menuTitle value).text?.map (texted "div" [("class",some "menu-title")])).toList
      return .element "nav" [id, ("data-position",it.position), styled]
        (title ++ [.element "ul" [("role",some "menu")] inside])
  | .contextMenu it =>
      return .element "ul"
        [id, ("role",some "menu"), ("data-trigger",some (dashed it.triggerOn)), styled] inside
  | .tab it =>
      return texted "button" [id, ("role",some "tab"), .flag "disabled" it.disabled, styled] (← Label.tab value)
  | .tabs it =>
      return .element "div"
        [id, ("data-active-tab",it.activeTab), ("data-position",it.position), styled]
        [.element "div" [("role",some "tablist"), eventAttr "change" it.onChange] inside,
          .element "div" [("role",some "tabpanel"), ("aria-labelledby",it.activeTab)] panel]
  | .treeNode it =>
      let expanded := if it.children.isSome then some (if it.expanded then "true" else "false") else none
      let group := if inside.isEmpty then [] else [Markup.element "ul" [("role",some "group")] inside]
      return .element "li" [id, ("role",some "treeitem"), ("aria-expanded",expanded), styled]
        (.text (← Label.treeNode value) :: group)
  | .treeView it =>
      return .element "ul"
        [id, ("role",some "tree"), eventAttr "select" it.onSelect, eventAttr "toggle" it.onToggle, styled] inside
  | .vbox _ => box id "column" value inside
  | .hbox _ => box id "row" value inside

def backend : Backend Markup :=
  { platform := .web,
    blank := .element "span" [] [],
    blankName := "as an empty span",
    ready := fun value => do
      let _ ← css (value.get "style")
      return (),
    assemble }

end Trifold.Web
