import Trifold.Element.Basic
import Trifold.Proofs.Value.Alike

namespace Trifold
open List (Forall₂)

abbrev SameNumber (x y : Float) : Prop := Number.same x y = true

variable (level : Value → Value → Prop)

abbrev Alike? : Option Value → Option Value → Prop := Option.Rel (Value.Alike level)

abbrev AlikeAll : List Value → List Value → Prop := Forall₂ (Value.Alike level)

namespace Column

structure Matched (left right : Column) : Prop where
  key : left.key = right.key
  header : left.header = right.header
  sortable : left.sortable = right.sortable
  formatter : left.formatter = right.formatter
  width : Option.Rel SameNumber left.width right.width
  align : left.align = right.align

end Column

namespace Table

structure Matched (left right : Table) : Prop where
  data : AlikeAll level left.data right.data
  columns : AlikeAll level left.columns right.columns
  selectedRow : Option.Rel SameNumber left.selectedRow right.selectedRow
  onRowSelect : Alike? level left.onRowSelect right.onRowSelect
  onSort : Alike? level left.onSort right.onSort
  sortColumn : left.sortColumn = right.sortColumn
  sortDirection : left.sortDirection = right.sortDirection

end Table

namespace Body

inductive Matched : Body → Body → Prop
  | text (content : Option String) : Matched (.text content) (.text content)
  | button (label : Option String) {click click' : Option Value} (onClick : Alike? level click click') (disabled : Bool) :
      Matched (.button ⟨label,click,disabled⟩) (.button ⟨label,click',disabled⟩)
  | label (target text : Option String) : Matched (.label target text) (.label target text)
  | textInput (value placeholder : Option String) (inputType : String) {change change' submit submit' : Option Value}
      (onChange : Alike? level change change') (onSubmit : Alike? level submit submit') (disabled : Bool)
      (formId : Option String) :
      Matched (.textInput ⟨value,placeholder,inputType,change,submit,disabled,formId⟩)
        (.textInput ⟨value,placeholder,inputType,change',submit',disabled,formId⟩)
  | gauge {value value' min min' max max' : Float} (values : SameNumber value value') (mins : SameNumber min min')
      (maxs : SameNumber max max') (label : Option String) :
      Matched (.gauge ⟨value,min,max,label⟩) (.gauge ⟨value',min',max',label⟩)
  | sparkline {data data' : List Float} (points : Forall₂ SameNumber data data') (showDots showArea : Bool) :
      Matched (.sparkline ⟨data,showDots,showArea⟩) (.sparkline ⟨data',showDots,showArea⟩)
  | barChart {data data' : List Value} (points : AlikeAll level data data') (orientation : String) (showLabels : Bool) :
      Matched (.barChart ⟨data,orientation,showLabels⟩) (.barChart ⟨data',orientation,showLabels⟩)
  | lineChart {data data' : List Value} (points : AlikeAll level data data') (showDots showArea : Bool) :
      Matched (.lineChart ⟨data,showDots,showArea⟩) (.lineChart ⟨data',showDots,showArea⟩)
  | table {left right : Table} (tables : Table.Matched level left right) : Matched (.table left) (.table right)
  | column {left right : Column} (columns : Column.Matched left right) : Matched (.column left) (.column right)
  | menu (title position : Option String) {items items' : List Value} (inside : AlikeAll level items items') :
      Matched (.menu ⟨title,position,items⟩) (.menu ⟨title,position,items'⟩)
  | menuItem (label : String) {action action' : Option Value} (actions : Alike? level action action') (disabled : Bool)
      (icon shortcut : Option String) {submenu submenu' : Option (List Value)}
      (inside : Option.Rel (AlikeAll level) submenu submenu') :
      Matched (.menuItem ⟨label,action,disabled,icon,shortcut,submenu⟩)
        (.menuItem ⟨label,action',disabled,icon,shortcut,submenu'⟩)
  | contextMenu (triggerOn : String) {items items' : List Value} (inside : AlikeAll level items items') :
      Matched (.contextMenu ⟨triggerOn,items⟩) (.contextMenu ⟨triggerOn,items'⟩)
  | tabs (activeTab position : Option String) {change change' : Option Value} (onChange : Alike? level change change')
      {tabs tabs' : List Value} (inside : AlikeAll level tabs tabs') :
      Matched (.tabs ⟨activeTab,position,change,tabs⟩) (.tabs ⟨activeTab,position,change',tabs'⟩)
  | tab (label : String) (icon : Option String) (disabled closable : Bool) {content content' : Option Value}
      (inside : Alike? level content content') :
      Matched (.tab ⟨label,icon,disabled,closable,content⟩) (.tab ⟨label,icon,disabled,closable,content'⟩)
  | treeView {nodes nodes' : List Value} (inside : AlikeAll level nodes nodes') (selectedNode : Option String)
      (expandedNodes : Option (List String)) {select select' toggle toggle' : Option Value}
      (onSelect : Alike? level select select') (onToggle : Alike? level toggle toggle') (showRoot : Bool) :
      Matched (.treeView ⟨nodes,selectedNode,expandedNodes,select,toggle,showRoot⟩)
        (.treeView ⟨nodes',selectedNode,expandedNodes,select',toggle',showRoot⟩)
  | treeNode (label : String) {value value' : Value} (values : Value.Alike level value value') (expanded : Bool)
      (icon iconExpanded : Option String) (selectable : Bool) {children children' : Option (List Value)}
      (inside : Option.Rel (AlikeAll level) children children') :
      Matched (.treeNode ⟨label,value,expanded,icon,iconExpanded,selectable,children⟩)
        (.treeNode ⟨label,value',expanded,icon,iconExpanded,selectable,children'⟩)
  | vbox {left right : Box} (inside : AlikeAll level left.children right.children) : Matched (.vbox left) (.vbox right)
  | hbox {left right : Box} (inside : AlikeAll level left.children right.children) : Matched (.hbox left) (.hbox right)

end Body

structure Element.Matched (left right : Element) : Prop where
  id : left.id = right.id
  style : Alike? level left.style right.style
  visible : left.visible = right.visible
  body : Body.Matched level left.body right.body

variable {level}

namespace Element

variable {α β : Type} {a b : Value} {R : α → β → Prop}

theorem optional_if (read : Value → Option α) (key : String) (value : Value) :
    optional read key value = if (value.get key).isAbsent then some none else (read (value.get key)).map some := by
  unfold optional
  cases value.get key <;> rfl

section

variable (alike : Value.Alike level a b) (key : String)
include alike

theorem text_matched : field Value.text? key a = field Value.text? key b := (alike.get key).text?

theorem bool_matched : field Value.bool? key a = field Value.bool? key b := (alike.get key).bool?

theorem number_matched : Option.Rel SameNumber (field Value.number? key a) (field Value.number? key b) :=
  (alike.get key).number?

theorem list_matched : Option.Rel (AlikeAll level) (field Value.list? key a) (field Value.list? key b) :=
  (alike.get key).list?

theorem listOf_matched {read : Value → Option α} {read' : Value → Option β}
    (each : ∀ v w, Value.Alike level v w → Option.Rel R (read v) (read' w)) :
    Option.Rel (Forall₂ R) (field (listOf read) key a) (field (listOf read') key b) :=
  Agree.bind (alike.get key).list? fun _ _ items => Agree.mapM items each

theorem optional_matched {read : Value → Option α} {read' : Value → Option β}
    (each : ∀ v w, Value.Alike level v w → Option.Rel R (read v) (read' w)) :
    Option.Rel (Option.Rel R) (optional read key a) (optional read' key b) := by
  rw [optional_if,optional_if,(alike.get key).isAbsent]
  split
  · exact .some .none
  · exact Agree.map (each _ _ (alike.get key)) fun _ _ here => .some here

theorem text_optional_matched : optional Value.text? key a = optional Value.text? key b := by
  rw [optional_if,optional_if,(alike.get key).isAbsent,(alike.get key).text?]

theorem texts_optional_matched : optional (listOf Value.text?) key a = optional (listOf Value.text?) key b := by
  have names : listOf Value.text? (a.get key) = listOf Value.text? (b.get key) :=
    Agree.bind_eq (alike.get key).list? fun _ _ items => Agree.mapM_eq items fun _ _ => Value.Alike.text?
  rw [optional_if,optional_if,(alike.get key).isAbsent,names]

theorem function_optional_matched : optional Value.function? key a = optional Value.function? key b := by
  rw [optional_if,optional_if,(alike.get key).isAbsent,(alike.get key).function?]

end

section

variable (alike : Value.Alike level a b)
include alike

-- A value that is kept as it is, where it has some form.
theorem kept_matched {ask ask' : Bool} (equal : ask = ask') :
    Alike? level (if ask then some a else none) (if ask' then some b else none) := by
  rw [equal]
  split
  · exact .some alike
  · exact .none

theorem handler?_matched : Alike? level (handler? a) (handler? b) := by
  refine kept_matched alike ?_
  rw [alike.text?,alike.isPlain,(alike.get "signal").text?,(alike.get "payload").isAbsent,
    (alike.get "payload").isPlain]

theorem datum?_matched : Alike? level (datum? a) (datum? b) := by
  refine kept_matched alike ?_
  rw [alike.isPlain,(alike.get "label").text?,Agree.isSome_eq (alike.get "value").number?]

theorem row?_matched : Alike? level (row? a) (row? b) := by
  refine kept_matched alike ?_
  rw [alike.isPlain,Agree.isSome_eq alike.list?]

theorem style?_matched : Alike? level (style? a) (style? b) := by
  refine kept_matched alike ?_
  rw [alike.isPlain,Agree.isSome_eq (alike.get "attrs").list?]

theorem nested?_matched : Alike? level (nested? a) (nested? b) := kept_matched alike alike.isObject

theorem kind?_matched : kind? a = kind? b := by rw [kind?,kind?,alike.isObject,(alike.get "type").text?]

theorem columnBody?_matched : Option.Rel Column.Matched (columnBody? a) (columnBody? b) := by
  simp only [columnBody?,text_matched alike,bool_matched alike,function_optional_matched alike]
  refine Agree.bind_same fun key => Agree.bind_same fun header => Agree.bind_same fun sortable =>
    Agree.bind_same fun formatter => Agree.bind (optional_matched alike "width" fun _ _ => Value.Alike.number?) ?_
  intro width width' widths
  exact Agree.bind_same fun align => .some ⟨rfl,rfl,rfl,rfl,widths,rfl⟩

theorem common?_matched :
    Option.Rel (fun left right => left.1 = right.1 ∧ Alike? level left.2.1 right.2.1 ∧ left.2.2 = right.2.2)
      (common? a) (common? b) := by
  simp only [common?,text_optional_matched alike,bool_matched alike]
  refine Agree.bind_same fun id => Agree.bind (optional_matched alike "style" fun _ _ => style?_matched) ?_
  intro style style' styles
  exact Agree.bind_same fun visible => .some ⟨rfl,styles,rfl⟩

theorem column?_matched : Alike? level (column? a) (column? b) := by
  simp only [column?,kind?_matched alike]
  refine Agree.bind_same fun kind => Agree.bind (common?_matched alike) fun _ _ _ =>
    Agree.bind (columnBody?_matched alike) fun _ _ _ => ?_
  split
  · exact .some alike
  · exact .none

theorem box?_matched :
    Option.Rel (fun left right => AlikeAll level left.children right.children) (box? a) (box? b) := by
  simp only [box?,text_optional_matched alike]
  refine Agree.bind (list_matched alike "children") ?_
  intro children children' inside
  refine Agree.bind (number_matched alike "spacing") fun _ _ _ => Agree.bind_same fun _ => Agree.bind_same fun _ => ?_
  exact Agree.bind (optional_matched alike "padding" fun _ _ => Value.Alike.number?) fun _ _ _ => .some inside

theorem handler_matched (key : String) :
    Option.Rel (Alike? level) (optional handler? key a) (optional handler? key b) :=
  optional_matched alike key fun _ _ => handler?_matched

theorem body?_matched (kind : Kind) : Option.Rel (Body.Matched level) (body? a kind) (body? b kind) := by
  have handler := handler_matched alike
  have listed := list_matched alike
  have number := number_matched alike
  have number? (key : String) := optional_matched alike key fun _ _ => Value.Alike.number?
  have list? (key : String) := optional_matched alike key fun _ _ => Value.Alike.list?
  cases kind <;>
    simp only [body?,text_matched alike,bool_matched alike,text_optional_matched alike,texts_optional_matched alike]
  case text => exact Agree.bind_same fun content => .some (.text content)
  case button =>
    exact Agree.bind_same fun label => Agree.bind (handler "onClick") fun _ _ click =>
      Agree.bind_same fun disabled => .some (.button label click disabled)
  case label => exact Agree.bind_same fun target => Agree.bind_same fun content => .some (.label target content)
  case textInput =>
    exact Agree.bind_same fun value => Agree.bind_same fun placeholder => Agree.bind_same fun inputType =>
      Agree.bind (handler "onChange") fun _ _ change => Agree.bind (handler "onSubmit") fun _ _ submit =>
        Agree.bind_same fun disabled => Agree.bind_same fun formId =>
          .some (.textInput value placeholder inputType change submit disabled formId)
  case gauge =>
    exact Agree.bind (number "value") fun _ _ values => Agree.bind (number "min") fun _ _ mins =>
      Agree.bind (number "max") fun _ _ maxs => Agree.bind_same fun label => .some (.gauge values mins maxs label)
  case sparkline =>
    exact Agree.bind (listOf_matched alike "data" fun _ _ => Value.Alike.number?) fun _ _ points =>
      Agree.bind_same fun dots => Agree.bind_same fun area => .some (.sparkline points dots area)
  case barChart =>
    exact Agree.bind (listOf_matched alike "data" fun _ _ => datum?_matched) fun _ _ points =>
      Agree.bind_same fun orientation => Agree.bind_same fun labels => .some (.barChart points orientation labels)
  case lineChart =>
    exact Agree.bind (listOf_matched alike "data" fun _ _ => datum?_matched) fun _ _ points =>
      Agree.bind_same fun dots => Agree.bind_same fun area => .some (.lineChart points dots area)
  case column => exact Agree.bind (columnBody?_matched alike) fun _ _ columns => .some (.column columns)
  case table =>
    exact Agree.bind (listOf_matched alike "data" fun _ _ => row?_matched) fun _ _ rows =>
      Agree.bind (listOf_matched alike "columns" fun _ _ => column?_matched) fun _ _ columns =>
        Agree.bind (number? "selectedRow") fun _ _ selected => Agree.bind (number? "height") fun _ _ _ =>
          Agree.bind (handler "onRowSelect") fun _ _ rowSelect => Agree.bind (handler "onSort") fun _ _ sort =>
            Agree.bind_same fun column => Agree.bind_same fun direction =>
              .some (.table ⟨rows,columns,selected,rowSelect,sort,rfl,rfl⟩)
  case menu =>
    exact Agree.bind_same fun title => Agree.bind_same fun position => Agree.bind (listed "items") fun _ _ inside =>
      .some (.menu title position inside)
  case menuItem =>
    exact Agree.bind_same fun label => Agree.bind (handler "action") fun _ _ actions =>
      Agree.bind_same fun disabled => Agree.bind_same fun icon => Agree.bind_same fun shortcut =>
        Agree.bind (list? "submenu") fun _ _ inside => .some (.menuItem label actions disabled icon shortcut inside)
  case contextMenu =>
    exact Agree.bind_same fun trigger => Agree.bind (listed "items") fun _ _ inside => .some (.contextMenu trigger inside)
  case tabs =>
    exact Agree.bind_same fun active => Agree.bind_same fun position => Agree.bind (handler "onChange") fun _ _ change =>
      Agree.bind (listed "tabs") fun _ _ inside => .some (.tabs active position change inside)
  case tab =>
    exact Agree.bind_same fun label => Agree.bind_same fun icon => Agree.bind_same fun disabled =>
      Agree.bind_same fun closable => Agree.bind (optional_matched alike "content" fun _ _ => nested?_matched)
        fun _ _ inside => .some (.tab label icon disabled closable inside)
  case treeView =>
    exact Agree.bind (listed "rootNodes") fun _ _ inside => Agree.bind_same fun selected =>
      Agree.bind_same fun expanded => Agree.bind (handler "onSelect") fun _ _ select =>
        Agree.bind (handler "onToggle") fun _ _ toggle => Agree.bind_same fun root =>
          .some (.treeView inside selected expanded select toggle root)
  case treeNode =>
    exact Agree.bind_same fun label => Agree.bind_same fun expanded => Agree.bind_same fun icon =>
      Agree.bind_same fun iconExpanded => Agree.bind_same fun selectable => Agree.bind (list? "children")
        fun _ _ inside => .some (.treeNode label (alike.get "value") expanded icon iconExpanded selectable inside)
  case vbox => exact Agree.bind (box?_matched alike) fun _ _ inside => .some (.vbox inside)
  case hbox => exact Agree.bind (box?_matched alike) fun _ _ inside => .some (.hbox inside)

-- Both are elements that match, or neither is one.
theorem ofValue?_matched : Option.Rel (Element.Matched level) (ofValue? a) (ofValue? b) := by
  simp only [ofValue?,kind?_matched alike]
  refine Agree.bind_same fun kind => Agree.bind (common?_matched alike) ?_
  rintro ⟨id,style,visible⟩ ⟨id',style',visible'⟩ ⟨ids,styles,shown⟩
  exact Agree.bind (body?_matched alike kind) fun _ _ bodies => .some ⟨ids,styles,shown,bodies⟩

end

end Element

end Trifold
