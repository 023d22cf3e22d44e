import Trifold.Element.Written
import Trifold.Run
import Trifold.Source.Entity
import Trifold.Style.Registry

namespace Trifold.Build
open Attributes

def inputTypes : List String := ["text", "password", "email", "number", "tel"]

def cellAligns : List String := ["left", "center", "right"]

def boxAligns : List String := ["start", "center", "end", "stretch"]

def boxJustifies : List String := ["start", "center", "end", "space_between", "space_around"]

def edges : List String := ["top", "bottom", "left", "right"]

def triggers : List String := ["right_click", "left_click", "long_press"]

def withPayload (signal : String) (payload : Value) : Value :=
  .object (("signal",.text signal) :: if payload.isPlain then [("payload",payload)] else [])

-- A signal name that is not empty, a record with a signal, or a pair of a signal and a payload.
def handler? : Value → Option Value
  | .text name => if name.isEmpty then none else some (.text name)
  | .record bare fields => do
      let signal ← ((Value.record bare fields).get "signal").text?
      return withPayload signal ((Value.record bare fields).get "payload")
  | value => do
      let (signal,payload) ← pair? value
      if payload.isPlain then return withPayload signal payload else none

def datum (label : String) (value : Float) : Value :=
  .object [("label",.text label), ("value",.number value)]

def datum? : Value → Option Value
  | .record bare fields => do
      let label ← ((Value.record bare fields).get "label").text?
      return datum label (← finite? ((Value.record bare fields).get "value"))
  | value => do
      let (label,amount) ← pair? value
      return datum label (← finite? amount)

def chartData (value : Value) : List Value := (value.list?.getD []).filterMap datum?

def isRow (value : Value) : Bool := value.isPlain || (pairs? value).isSome

def rows (value : Value) : List Value := (value.list?.getD []).filter isRow

def formatter? : Value → Option Function
  | .function f => some (.shown f)
  | _ => none

structure Common where
  id : Option String
  style : Option Style
  visible : Bool

def Common.element (common : Common) (body : Body) : Element :=
  { id := common.id, style := common.style.map Style.toValue, visible := common.visible, body }

structure Scope where
  styles : Registry
  host : Host

def style (scope : Scope) (attributes : Value) : Run (Option Style) := do
  let ref := read "style" attributes
  if scope.styles.dangles ref then
    Run.warn (warningArea "builder" ++ " style reference names an unregistered style")
  Run.ask scope.host (scope.styles.resolveRef ref)

def common (scope : Scope) (attributes : Value) : Run Common := do
  let style ← style scope attributes
  return { id := (read "id" attributes).text?, style, visible := truth true (read "visible" attributes) }

def column (scope : Scope) (attributes : Value) : Run (Option Element) :=
  match (read "key" attributes).text? with
  | none => return none
  | some key => do
      let common ← common scope attributes
      return some (common.element (.column {
        key,
        header := ((read "header" attributes).text?).getD key,
        sortable := truth true (read "sortable" attributes),
        formatter := formatter? (read "formatter" attributes),
        width := finite? (read "width" attributes),
        align := (oneOf? cellAligns (read "align" attributes)).getD "left" }))

def plainColumn (key : String) : Element :=
  { id := none, style := none, visible := true,
    body := .column { key, header := key, sortable := true, formatter := none, width := none, align := "left" } }

def columnsFrom (scope : Scope) : List Value → Run (List Element)
  | [] => return []
  | .text key :: rest => do return plainColumn key :: (← columnsFrom scope rest)
  | item :: rest => do
      let column ← column scope (Entity.normalized item)
      return column.toList ++ (← columnsFrom scope rest)

def ofKind (kind : Kind) (elements : List Element) : List Element := elements.filter (·.kind = kind)

def written (elements : List Element) : List Value := elements.map Element.toValue

def declaredColumns (scope : Scope) (attributes : Value) (nested : List Element) : Run (List Element) :=
  if nested.isEmpty then columnsFrom scope ((read "columns" attributes).list?.getD []) else return nested

def unlessEmpty (values : List Value) : Option (List Value) := if values.isEmpty then none else some values

def tabContent : List Value → Option Value
  | [] => none
  | [content] => some content
  | contents => some (.list contents)

def box (attributes : Value) (children : List Value) : Box :=
  { children,
    spacing := (finite? (read "spacing" attributes)).getD 0,
    alignItems := oneOf? boxAligns (read "alignItems" attributes),
    justifyContent := oneOf? boxJustifies (read "justifyContent" attributes),
    padding := finite? (read "padding" attributes) }

def leaf (attributes : Value) : Kind → Option Body
  | .text => some (.text (read "content" attributes).text?)
  | .button => some (.button {
      label := (read "label" attributes).text?,
      onClick := handler? (read "onClick" attributes),
      disabled := truth false (read "disabled" attributes) })
  | .label => some (.label (read "for" attributes).text? (read "text" attributes).text?)
  | .textInput => some (.textInput {
      value := (read "value" attributes).text?,
      placeholder := (read "placeholder" attributes).text?,
      inputType := (oneOf? inputTypes (read "type" attributes)).getD "text",
      onChange := handler? (read "onChange" attributes),
      onSubmit := handler? (read "onSubmit" attributes),
      disabled := truth false (read "disabled" attributes),
      formId := (read "formId" attributes).text? })
  | .gauge => some (.gauge {
      value := (finite? (read "value" attributes)).getD 0,
      min := (finite? (read "min" attributes)).getD 0,
      max := (finite? (read "max" attributes)).getD 100,
      label := (read "label" attributes).text? })
  | .sparkline => some (.sparkline {
      data := finites (read "data" attributes),
      showDots := truth false (read "showDots" attributes),
      showArea := truth false (read "showArea" attributes) })
  | .barChart => some (.barChart {
      data := chartData (read "data" attributes),
      orientation := (oneOf? ["horizontal", "vertical"] (read "orientation" attributes)).getD "horizontal",
      showLabels := truth true (read "showLabels" attributes) })
  | .lineChart => some (.lineChart {
      data := chartData (read "data" attributes),
      showDots := truth true (read "showDots" attributes),
      showArea := truth false (read "showArea" attributes) })
  | _ => none

def table (attributes : Value) (columns : List Element) : Body :=
  .table {
    data := rows (read "data" attributes),
    columns := written columns,
    selectedRow := finite? (read "selectedRow" attributes),
    height := finite? (read "height" attributes),
    onRowSelect := handler? (read "onRowSelect" attributes),
    onSort := handler? (read "onSort" attributes),
    sortColumn := (read "sortColumn" attributes).text?,
    sortDirection := (oneOf? ["asc", "desc"] (read "sortDirection" attributes)).getD "asc" }

def branch (attributes : Value) (inside : List Element) : Kind → Option Body
  | .menu => some (.menu {
      title := (read "title" attributes).text?,
      position := oneOf? edges (read "position" attributes),
      items := written (ofKind .menuItem inside) })
  | .menuItem => some (.menuItem {
      label := (read "label" attributes).text?.getD "",
      action := handler? (read "action" attributes),
      disabled := truth false (read "disabled" attributes),
      icon := (read "icon" attributes).text?,
      shortcut := (read "shortcut" attributes).text?,
      submenu := unlessEmpty (written (ofKind .menuItem inside)) })
  | .contextMenu => some (.contextMenu {
      triggerOn := (oneOf? triggers (read "triggerOn" attributes)).getD "right_click",
      items := written (ofKind .menuItem inside) })
  | .tabs => some (.tabs {
      activeTab := (read "activeTab" attributes).text?,
      position := oneOf? edges (read "position" attributes),
      onChange := handler? (read "onChange" attributes),
      tabs := written (ofKind .tab inside) })
  | .tab => some (.tab {
      label := (read "label" attributes).text?.getD "",
      icon := (read "icon" attributes).text?,
      disabled := truth false (read "disabled" attributes),
      closable := truth false (read "closable" attributes),
      content := tabContent (written inside) })
  | .treeView => some (.treeView {
      rootNodes := written (ofKind .treeNode inside),
      selectedNode := (read "selectedNode" attributes).text?,
      expandedNodes := texts? (read "expandedNodes" attributes),
      onSelect := handler? (read "onSelect" attributes),
      onToggle := handler? (read "onToggle" attributes),
      showRoot := truth true (read "showRoot" attributes) })
  | .treeNode => some (.treeNode {
      label := (read "label" attributes).text?.getD "",
      value := read "value" attributes,
      expanded := truth false (read "expanded" attributes),
      icon := (read "icon" attributes).text?,
      iconExpanded := (read "iconExpanded" attributes).text?,
      selectable := truth true (read "selectable" attributes),
      children := unlessEmpty (written (ofKind .treeNode inside)) })
  | .vbox => some (.vbox (box attributes (written inside)))
  | .hbox => some (.hbox (box attributes (written inside)))
  | _ => none

def collection : Kind → Option (String × String)
  | .table => some ("columns","column")
  | .menu => some ("menuItems","menuItem")
  | .menuItem => some ("submenu","menuItem")
  | .contextMenu => some ("items","menuItem")
  | .tabs => some ("tabs","tab")
  | .treeView => some ("rootNodes","treeNode")
  | .treeNode => some ("children","treeNode")
  | _ => none

def inner (entity : Entity) (kind : Kind) : Ask (List Entity) :=
  match collection kind with
  | some (name,wanted) => entity.nested (.text name) (.text wanted)
  | none => entity.contents

theorem sizeOf_inner {entity : Entity} {kind : Kind} {host : Host} {inside : List Entity}
    (given : inner entity kind host = .ok inside) : sizeOf inside < sizeOf entity := by
  unfold inner at given
  cases known : collection kind with
  | some pair => simp only [known] at given; exact Entity.sizeOf_nested given
  | none => simp only [known] at given; exact Entity.sizeOf_contents given

def unknown (name : String) : Run (Option Element) := do
  Run.warn (warningArea "builder" ++ s!" unknown entity kind \"{name}\" skipped")
  return none

-- A box reads its own properties before its children are built, every other kind after. The order shows in the
-- order of warnings.
mutual
def element (scope : Scope) (entity : Entity) : Run (Option Element) :=
  match entity.name with
  | none => Run.fail (.misuse (.notCallable "name.replace"))
  | some name =>
      let attributes := entity.attributes
      match Kind.ofName? (Entity.camel name) with
      | none => unknown name
      | some .column => column scope attributes
      | some kind =>
          match leaf attributes kind with
          | some body => do
              let common ← common scope attributes
              return some (common.element body)
          | none =>
              if kind = .vbox ∨ kind = .hbox then do
                let common ← common scope attributes
                let inside ← within scope entity kind
                return (branch attributes inside kind).map common.element
              else if kind = .table then do
                let nested := ofKind .column (← within scope entity .table)
                let columns ← declaredColumns scope attributes nested
                let common ← common scope attributes
                return some (common.element (table attributes columns))
              else do
                let inside ← within scope entity kind
                let common ← common scope attributes
                return (branch attributes inside kind).map common.element
termination_by (sizeOf entity,1)
def within (scope : Scope) (entity : Entity) (kind : Kind) : Run (List Element) :=
  match _ : inner entity kind scope.host with
  | .error fault => Run.fail fault
  | .ok inside => elements scope inside
termination_by (sizeOf entity,0)
decreasing_by exact Prod.Lex.left _ _ (sizeOf_inner (by assumption))
def elements (scope : Scope) (entities : List Entity) : Run (List Element) :=
  match entities with
  | [] => return []
  | entity :: rest => do
      let built ← element scope entity
      return built.toList ++ (← elements scope rest)
termination_by (sizeOf entities,0)
end

-- The first root entity that gives an element; those after it are not built.
def first (scope : Scope) : List Entity → Run (Option Element)
  | [] => return none
  | entity :: rest => do
      match ← element scope entity with
      | some built => return some built
      | none => first scope rest

end Trifold.Build
