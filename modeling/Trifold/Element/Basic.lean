import Trifold.Attributes
import Trifold.Element.Kind

namespace Trifold

structure Button where
  label : Option String
  onClick : Option Value
  disabled : Bool

structure TextInput where
  value : Option String
  placeholder : Option String
  inputType : String
  onChange : Option Value
  onSubmit : Option Value
  disabled : Bool
  formId : Option String

structure Gauge where
  value : Float
  min : Float
  max : Float
  label : Option String

structure Sparkline where
  data : List Float
  showDots : Bool
  showArea : Bool

structure BarChart where
  data : List Value
  orientation : String
  showLabels : Bool

structure LineChart where
  data : List Value
  showDots : Bool
  showArea : Bool

structure Column where
  key : String
  header : String
  sortable : Bool
  formatter : Option Function
  width : Option Float
  align : String

structure Table where
  data : List Value
  columns : List Value
  selectedRow : Option Float
  height : Option Float
  onRowSelect : Option Value
  onSort : Option Value
  sortColumn : Option String
  sortDirection : String

structure MenuItem where
  label : String
  action : Option Value
  disabled : Bool
  icon : Option String
  shortcut : Option String
  submenu : Option (List Value)

structure Menu where
  title : Option String
  position : Option String
  items : List Value

structure ContextMenu where
  triggerOn : String
  items : List Value

structure Tab where
  label : String
  icon : Option String
  disabled : Bool
  closable : Bool
  content : Option Value

structure Tabs where
  activeTab : Option String
  position : Option String
  onChange : Option Value
  tabs : List Value

structure TreeNode where
  label : String
  value : Value
  expanded : Bool
  icon : Option String
  iconExpanded : Option String
  selectable : Bool
  children : Option (List Value)

structure TreeView where
  rootNodes : List Value
  selectedNode : Option String
  expandedNodes : Option (List String)
  onSelect : Option Value
  onToggle : Option Value
  showRoot : Bool

structure Box where
  children : List Value
  spacing : Float
  alignItems : Option String
  justifyContent : Option String
  padding : Option Float

inductive Body where
  | text (content : Option String)
  | button (button : Button)
  | label (target : Option String) (text : Option String)
  | textInput (input : TextInput)
  | gauge (gauge : Gauge)
  | sparkline (line : Sparkline)
  | barChart (chart : BarChart)
  | lineChart (chart : LineChart)
  | table (table : Table)
  | column (column : Column)
  | menu (menu : Menu)
  | menuItem (item : MenuItem)
  | contextMenu (menu : ContextMenu)
  | tabs (tabs : Tabs)
  | tab (tab : Tab)
  | treeView (view : TreeView)
  | treeNode (node : TreeNode)
  | vbox (box : Box)
  | hbox (box : Box)

structure Element where
  id : Option String
  style : Option Value
  visible : Bool
  body : Body

namespace Body

def kind : Body → Kind
  | text _ => .text
  | button _ => .button
  | label .. => .label
  | textInput _ => .textInput
  | gauge _ => .gauge
  | sparkline _ => .sparkline
  | barChart _ => .barChart
  | lineChart _ => .lineChart
  | table _ => .table
  | column _ => .column
  | menu _ => .menu
  | menuItem _ => .menuItem
  | contextMenu _ => .contextMenu
  | tabs _ => .tabs
  | tab _ => .tab
  | treeView _ => .treeView
  | treeNode _ => .treeNode
  | vbox _ => .vbox
  | hbox _ => .hbox

def tabContent (content : Value) : List Value := content.list?.getD [content]

def contents : Body → List Value
  | menu it => it.items
  | menuItem it => it.submenu.getD []
  | contextMenu it => it.items
  | tabs it => it.tabs
  | tab it => (it.content.map tabContent).getD []
  | treeView it => it.rootNodes
  | treeNode it => it.children.getD []
  | vbox it => it.children
  | hbox it => it.children
  | _ => []

end Body

namespace Element

def kind (element : Element) : Kind := element.body.kind

def contents (element : Element) : List Value := element.body.contents

variable {α : Type}

def field (read : Value → Option α) (key : String) (value : Value) : Option α := read (value.get key)

-- A field that may be absent, but if it is there has the type.
def optional (read : Value → Option α) (key : String) (value : Value) : Option (Option α) :=
  match value.get key with
  | .absent => some none
  | held => (read held).map some

def listOf (read : Value → Option α) (value : Value) : Option (List α) := value.list?.bind (·.mapM read)

def nested? (value : Value) : Option Value := if value.isObject then some value else none

def handler? (value : Value) : Option Value :=
  if value.text?.isSome || (value.isPlain && (value.get "signal").text?.isSome &&
    ((value.get "payload").isAbsent || (value.get "payload").isPlain)) then some value else none

def datum? (value : Value) : Option Value :=
  if value.isPlain && (value.get "label").text?.isSome && (value.get "value").number?.isSome then some value
  else none

def row? (value : Value) : Option Value :=
  if value.isPlain || value.list?.isSome then some value else none

def style? (value : Value) : Option Value :=
  if value.isPlain && (value.get "attrs").list?.isSome then some value else none

def box? (value : Value) : Option Box := do
  return { children := ← field Value.list? "children" value,
           spacing := ← field Value.number? "spacing" value,
           alignItems := ← optional Value.text? "alignItems" value,
           justifyContent := ← optional Value.text? "justifyContent" value,
           padding := ← optional Value.number? "padding" value }

def columnBody? (value : Value) : Option Column := do
  return { key := ← field Value.text? "key" value,
           header := ← field Value.text? "header" value,
           sortable := ← field Value.bool? "sortable" value,
           formatter := ← optional Value.function? "formatter" value,
           width := ← optional Value.number? "width" value,
           align := ← field Value.text? "align" value }

def common? (value : Value) : Option (Option String × Option Value × Bool) := do
  return (← optional Value.text? "id" value,← optional style? "style" value,← field Value.bool? "visible" value)

def kind? (value : Value) : Option Kind := if value.isObject then (value.get "type").text?.bind Kind.ofName? else none

def column? (value : Value) : Option Value := do
  let kind ← kind? value
  let _ ← common? value
  let _ ← columnBody? value
  if kind = .column then return value else none

def body? (value : Value) : Kind → Option Body
  | .text => do return .text (← optional Value.text? "content" value)
  | .button => do
      return .button {
        label := ← optional Value.text? "label" value,
        onClick := ← optional handler? "onClick" value,
        disabled := ← field Value.bool? "disabled" value }
  | .label => do
      return .label (← optional Value.text? "for" value) (← optional Value.text? "text" value)
  | .textInput => do
      return .textInput {
        value := ← optional Value.text? "value" value,
        placeholder := ← optional Value.text? "placeholder" value,
        inputType := ← field Value.text? "inputType" value,
        onChange := ← optional handler? "onChange" value,
        onSubmit := ← optional handler? "onSubmit" value,
        disabled := ← field Value.bool? "disabled" value,
        formId := ← optional Value.text? "formId" value }
  | .gauge => do
      return .gauge {
        value := ← field Value.number? "value" value,
        min := ← field Value.number? "min" value,
        max := ← field Value.number? "max" value,
        label := ← optional Value.text? "label" value }
  | .sparkline => do
      return .sparkline {
        data := ← field (listOf Value.number?) "data" value,
        showDots := ← field Value.bool? "showDots" value,
        showArea := ← field Value.bool? "showArea" value }
  | .barChart => do
      return .barChart {
        data := ← field (listOf datum?) "data" value,
        orientation := ← field Value.text? "orientation" value,
        showLabels := ← field Value.bool? "showLabels" value }
  | .lineChart => do
      return .lineChart {
        data := ← field (listOf datum?) "data" value,
        showDots := ← field Value.bool? "showDots" value,
        showArea := ← field Value.bool? "showArea" value }
  | .column => do return .column (← columnBody? value)
  | .table => do
      return .table {
        data := ← field (listOf row?) "data" value,
        columns := ← field (listOf column?) "columns" value,
        selectedRow := ← optional Value.number? "selectedRow" value,
        height := ← optional Value.number? "height" value,
        onRowSelect := ← optional handler? "onRowSelect" value,
        onSort := ← optional handler? "onSort" value,
        sortColumn := ← optional Value.text? "sortColumn" value,
        sortDirection := ← field Value.text? "sortDirection" value }
  | .menu => do
      return .menu {
        title := ← optional Value.text? "title" value,
        position := ← optional Value.text? "position" value,
        items := ← field Value.list? "items" value }
  | .menuItem => do
      return .menuItem {
        label := ← field Value.text? "label" value,
        action := ← optional handler? "action" value,
        disabled := ← field Value.bool? "disabled" value,
        icon := ← optional Value.text? "icon" value,
        shortcut := ← optional Value.text? "shortcut" value,
        submenu := ← optional Value.list? "submenu" value }
  | .contextMenu => do
      return .contextMenu {
        triggerOn := ← field Value.text? "triggerOn" value,
        items := ← field Value.list? "items" value }
  | .tabs => do
      return .tabs {
        activeTab := ← optional Value.text? "activeTab" value,
        position := ← optional Value.text? "position" value,
        onChange := ← optional handler? "onChange" value,
        tabs := ← field Value.list? "tabs" value }
  | .tab => do
      return .tab {
        label := ← field Value.text? "label" value,
        icon := ← optional Value.text? "icon" value,
        disabled := ← field Value.bool? "disabled" value,
        closable := ← field Value.bool? "closable" value,
        content := ← optional nested? "content" value }
  | .treeView => do
      return .treeView {
        rootNodes := ← field Value.list? "rootNodes" value,
        selectedNode := ← optional Value.text? "selectedNode" value,
        expandedNodes := ← optional (listOf Value.text?) "expandedNodes" value,
        onSelect := ← optional handler? "onSelect" value,
        onToggle := ← optional handler? "onToggle" value,
        showRoot := ← field Value.bool? "showRoot" value }
  | .treeNode => do
      return .treeNode {
        label := ← field Value.text? "label" value,
        value := value.get "value",
        expanded := ← field Value.bool? "expanded" value,
        icon := ← optional Value.text? "icon" value,
        iconExpanded := ← optional Value.text? "iconExpanded" value,
        selectable := ← field Value.bool? "selectable" value,
        children := ← optional Value.list? "children" value }
  | .vbox => do return .vbox (← box? value)
  | .hbox => do return .hbox (← box? value)

-- What is nested inside is not looked at, table columns apart.
def ofValue? (value : Value) : Option Element := do
  let kind ← kind? value
  let (id,style,visible) ← common? value
  let body ← body? value kind
  return { id, style, visible, body }

def describe (value : Value) : Value :=
  if value.isObject && value.contains "type" then value.get "type" else .text value.sort

theorem list?_eq_some {value : Value} {items : List Value} (listed : value.list? = some items) :
    value = .list items := by
  cases value <;> simp_all [Value.list?]

theorem field_list_lt {key : String} {value : Value} {items : List Value}
    (ordinary : Value.isOrdinary key = true)
    (held : field Value.list? key value = some items) : sizeOf items < sizeOf value := by
  have shape := list?_eq_some held
  have there : value.get key ≠ .absent := by simp [shape]
  have smaller := Value.sizeOf_get_lt ordinary value there
  rw [shape] at smaller
  simp only [Value.list.sizeOf_spec] at smaller
  omega

theorem optional_eq_some {read : Value → Option α} {key : String} {value : Value} {held : α}
    (found : optional read key value = some (some held)) :
    value.get key ≠ .absent ∧ read (value.get key) = some held := by
  unfold optional at found
  split at found
  · cases found
  · refine ⟨by assumption,?_⟩
    simpa using found

theorem optional_list_lt {key : String} {value : Value} {items : List Value}
    (ordinary : Value.isOrdinary key = true)
    (held : optional Value.list? key value = some (some items)) : sizeOf items < sizeOf value :=
  field_list_lt ordinary (optional_eq_some held).2

theorem sizeOf_tabContent (content : Value) : sizeOf (Body.tabContent content) ≤ sizeOf content + 2 := by
  unfold Body.tabContent
  cases content <;> simp [Value.list?] <;> omega

theorem one_lt_sizeOf {value : Value} {kind : Kind} (known : kind? value = some kind) : 1 < sizeOf value := by
  have there : value.get "type" ≠ .absent := by
    intro missing
    simp [kind?,missing,Value.text?] at known
  have := Value.sizeOf_get_lt (by decide) value there
  omega

theorem contents_lt {value : Value} {element : Element} (sound : ofValue? value = some element) :
    sizeOf element.contents < sizeOf value := by
  simp only [ofValue?,Option.bind_eq_bind,Option.bind_eq_some_iff] at sound
  obtain ⟨kind,known,⟨id,style,visible⟩,_,body,read,same⟩ := sound
  cases same
  have large := one_lt_sizeOf known
  show sizeOf body.contents < sizeOf value
  have none_lt : sizeOf ([] : List Value) < sizeOf value := by simpa using large
  cases kind <;>
    simp only [body?,box?,Option.bind_eq_bind,Option.bind_eq_some_iff,Option.pure_def,Option.some.injEq] at read
  case text => obtain ⟨_,_,rfl⟩ := read; exact none_lt
  case button => obtain ⟨_,_,_,_,_,_,rfl⟩ := read; exact none_lt
  case label => obtain ⟨_,_,_,_,rfl⟩ := read; exact none_lt
  case textInput => obtain ⟨_,_,_,_,_,_,_,_,_,_,_,_,_,_,rfl⟩ := read; exact none_lt
  case gauge => obtain ⟨_,_,_,_,_,_,_,_,rfl⟩ := read; exact none_lt
  case sparkline => obtain ⟨_,_,_,_,_,_,rfl⟩ := read; exact none_lt
  case barChart => obtain ⟨_,_,_,_,_,_,rfl⟩ := read; exact none_lt
  case lineChart => obtain ⟨_,_,_,_,_,_,rfl⟩ := read; exact none_lt
  case table => obtain ⟨_,_,_,_,_,_,_,_,_,_,_,_,_,_,_,_,rfl⟩ := read; exact none_lt
  case column => obtain ⟨_,_,rfl⟩ := read; exact none_lt
  case menu =>
    obtain ⟨_,_,_,_,items,held,rfl⟩ := read
    exact field_list_lt (by decide) held
  case menuItem =>
    obtain ⟨_,_,_,_,_,_,_,_,_,_,submenu,held,rfl⟩ := read
    cases submenu with
    | none => exact none_lt
    | some items => exact optional_list_lt (by decide) held
  case contextMenu =>
    obtain ⟨_,_,items,held,rfl⟩ := read
    exact field_list_lt (by decide) held
  case tabs =>
    obtain ⟨_,_,_,_,_,_,items,held,rfl⟩ := read
    exact field_list_lt (by decide) held
  case tab =>
    obtain ⟨_,_,_,_,_,_,_,_,content,held,rfl⟩ := read
    cases content with
    | none => exact none_lt
    | some content =>
      obtain ⟨there,nested⟩ := optional_eq_some held
      have same : value.get "content" = content := by
        unfold nested? at nested
        split at nested
        · exact Option.some.inj nested
        · cases nested
      have smaller := Value.sizeOf_get_lt (by decide) value there
      rw [same] at smaller
      have := sizeOf_tabContent content
      show sizeOf (Body.tabContent content) < sizeOf value
      omega
  case treeView =>
    obtain ⟨items,held,_,_,_,_,_,_,_,_,_,_,rfl⟩ := read
    exact field_list_lt (by decide) held
  case treeNode =>
    obtain ⟨_,_,_,_,_,_,_,_,_,_,children,held,rfl⟩ := read
    cases children with
    | none => exact none_lt
    | some items => exact optional_list_lt (by decide) held
  case vbox =>
    obtain ⟨_,⟨items,held,_,_,_,_,_,_,_,_,rfl⟩,rfl⟩ := read
    exact field_list_lt (by decide) held
  case hbox =>
    obtain ⟨_,⟨items,held,_,_,_,_,_,_,_,_,rfl⟩,rfl⟩ := read
    exact field_list_lt (by decide) held

end Element

end Trifold
