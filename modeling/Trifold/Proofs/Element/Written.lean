import Trifold.Element.Written
import Trifold.Proofs.Fields

namespace Trifold

namespace Value

theorem get?_defined {key : String} {fields : Fields Value} (once : (Fields.keys fields).Nodup) :
    Fields.get? key (defined fields) = (Fields.get? key fields).bind present? := by
  induction fields with
  | nil => rfl
  | cons entry rest ih =>
    obtain ⟨name,value⟩ := entry
    obtain ⟨fresh,others⟩ := List.nodup_cons.mp once
    have later := ih others
    rw [defined] at later ⊢
    rw [List.filter_cons,Fields.get?_cons]
    by_cases here : name = key
    · have gone : Fields.get? key rest = none := Fields.get?_eq_none.mpr (here ▸ fresh)
      rw [gone] at later
      cases value with
      | absent => simpa [here,isAbsent,present?] using later
      | _ => simp [here,isAbsent,present?,Fields.get?]
    · rw [if_neg here,← later]
      cases value.isAbsent <;> simp [here,Fields.get?]

-- A field that is left out reads as nothing, unless every record answers for its name.
theorem get_object_defined {key : String} (unanswered : inherited key = absent) {fields : Fields Value}
    (once : (Fields.keys fields).Nodup) :
    get key (object (defined fields)) = (Fields.get? key fields).getD absent := by
  rw [object,get,get?_defined once,unanswered]
  cases Fields.get? key fields with
  | none => rfl
  | some value => cases value <;> rfl

end Value

namespace Element

-- The form that the values held by a body must have.
def Typed : Body → Prop
  | .button it => ∀ handler ∈ it.onClick, handler? handler = some handler
  | .textInput it =>
      (∀ handler ∈ it.onChange, handler? handler = some handler) ∧
        ∀ handler ∈ it.onSubmit, handler? handler = some handler
  | .barChart it => ∀ value ∈ it.data, datum? value = some value
  | .lineChart it => ∀ value ∈ it.data, datum? value = some value
  | .table it =>
      (∀ row ∈ it.data, row? row = some row) ∧ (∀ column ∈ it.columns, column? column = some column) ∧
        (∀ handler ∈ it.onRowSelect, handler? handler = some handler) ∧
        ∀ handler ∈ it.onSort, handler? handler = some handler
  | .menuItem it => ∀ handler ∈ it.action, handler? handler = some handler
  | .tabs it => ∀ handler ∈ it.onChange, handler? handler = some handler
  | .tab it => ∀ content ∈ it.content, nested? content = some content
  | .treeView it =>
      (∀ handler ∈ it.onSelect, handler? handler = some handler) ∧
        ∀ handler ∈ it.onToggle, handler? handler = some handler
  | _ => True

variable {α : Type}

theorem field_eq {read : Value → Option α} {key : String} {value : Value} {a : α} {written : Value}
    (held : value.get key = written) (back : read written = some a) : field read key value = some a := by
  rw [field,held,back]

theorem optional_eq {read : Value → Option α} (write : α → Value) {key : String} {value : Value} {given : Option α}
    (held : value.get key = Value.ofOption (given.map write))
    (back : ∀ a ∈ given, write a ≠ .absent ∧ read (write a) = some a) : optional read key value = some given := by
  rw [optional,held]
  cases given with
  | none => rfl
  | some a =>
    obtain ⟨there,same⟩ := back a rfl
    rw [Option.map_some,Value.ofOption]
    split
    · contradiction
    · rw [same]
      rfl

theorem listOf_eq {read : Value → Option α} {write : α → Value} {items : List α}
    (back : ∀ a ∈ items, read (write a) = some a) : listOf read (.list (items.map write)) = some items := by
  change (items.map write).mapM read = some items
  induction items with
  | nil => rfl
  | cons a rest ih =>
    obtain ⟨here,later⟩ := List.forall_mem_cons.mp back
    rw [List.map_cons,List.mapM_cons,here,ih later]
    rfl

-- All fields of an element, those that hold nothing included.
def allFields (element : Element) : Fields Value :=
  [("type",.text element.kind.name), ("id",Value.ofText? element.id), ("style",Value.ofOption element.style),
    ("visible",.bool element.visible)] ++ element.body.fields

theorem allFields_once (element : Element) : (Fields.keys element.allFields).Nodup := by
  obtain ⟨id,style,visible,body⟩ := element
  cases body <;> simp [allFields,Body.fields,Body.boxFields,Fields.keys]

-- The names of all fields of all kinds.
def fieldNames : List String :=
  ["type", "id", "style", "visible", "content", "label", "onClick", "disabled", "for", "text", "value", "placeholder",
    "inputType", "onChange", "onSubmit", "formId", "min", "max", "data", "showDots", "showArea", "orientation",
    "showLabels", "columns", "selectedRow", "height", "onRowSelect", "onSort", "sortColumn", "sortDirection", "key",
    "header", "sortable", "formatter", "width", "align", "title", "position", "items", "action", "icon", "shortcut",
    "submenu", "triggerOn", "activeTab", "tabs", "closable", "rootNodes", "selectedNode", "expandedNodes", "onSelect",
    "onToggle", "showRoot", "expanded", "iconExpanded", "selectable", "children", "spacing", "alignItems",
    "justifyContent", "padding"]

theorem fieldNames_unanswered : ∀ name ∈ fieldNames, (Value.inherited name).isAbsent = true := by decide +kernel

theorem keys_named (element : Element) : ∀ name ∈ Fields.keys element.allFields, name ∈ fieldNames := by
  obtain ⟨id,style,visible,body⟩ := element
  have listed : ∀ names : List String, names.all fieldNames.contains = true → ∀ name ∈ names, name ∈ fieldNames := by
    intro names all name there
    exact List.contains_iff_mem.mp (List.all_eq_true.mp all name there)
  refine listed _ ?_
  cases body <;> rfl

-- No field of an element has a name that every record answers to, so what is written is what is read.
theorem toValue_get {element : Element} {key : String} {written : Value}
    (listed : Fields.get? key element.allFields = some written) : element.toValue.get key = written := by
  have named : key ∈ Fields.keys element.allFields := List.mem_map_of_mem (Fields.mem_of_get? listed)
  have unanswered := Value.eq_absent (fieldNames_unanswered key (keys_named element key named))
  change Value.get key (.object (Value.defined element.allFields)) = written
  rw [Value.get_object_defined unanswered element.allFields_once,listed]
  rfl

section
variable {element : Element} {key : String}

theorem text_field {s : String}
    (listed : Fields.get? key element.allFields = some (.text s)) : field Value.text? key element.toValue = some s :=
  field_eq (toValue_get listed) rfl

theorem bool_field {truth : Bool}
    (listed : Fields.get? key element.allFields = some (.bool truth)) :
    field Value.bool? key element.toValue = some truth :=
  field_eq (toValue_get listed) rfl

theorem number_field {x : Float}
    (listed : Fields.get? key element.allFields = some (.number x)) : field Value.number? key element.toValue = some x :=
  field_eq (toValue_get listed) rfl

theorem list_field {items : List Value}
    (listed : Fields.get? key element.allFields = some (.list items)) :
    field Value.list? key element.toValue = some items :=
  field_eq (toValue_get listed) rfl

theorem listOf_field {read : Value → Option α} (write : α → Value) {items : List α}
    (back : ∀ a ∈ items, read (write a) = some a)
    (listed : Fields.get? key element.allFields = some (.list (items.map write))) :
    field (listOf read) key element.toValue = some items :=
  field_eq (toValue_get listed) (listOf_eq back)

-- A list whose items are kept as the values they are.
theorem kept_field {read : Value → Option Value} {items : List Value} (back : ∀ item ∈ items, read item = some item)
    (listed : Fields.get? key element.allFields = some (.list items)) :
    field (listOf read) key element.toValue = some items := by
  refine listOf_field (fun value => value) back ?_
  rw [List.map_id']
  exact listed

theorem text_optional {given : Option String}
    (listed : Fields.get? key element.allFields = some (Value.ofText? given)) :
    optional Value.text? key element.toValue = some given :=
  optional_eq Value.text (toValue_get listed) fun _ _ => ⟨nofun,rfl⟩

theorem number_optional {given : Option Float}
    (listed : Fields.get? key element.allFields = some (Value.ofNumber? given)) :
    optional Value.number? key element.toValue = some given :=
  optional_eq Value.number (toValue_get listed) fun _ _ => ⟨nofun,rfl⟩

theorem list_optional {given : Option (List Value)}
    (listed : Fields.get? key element.allFields = some (Body.ofList? given)) :
    optional Value.list? key element.toValue = some given :=
  optional_eq Value.list (toValue_get listed) fun _ _ => ⟨nofun,rfl⟩

theorem function_optional {given : Option Function}
    (listed : Fields.get? key element.allFields = some (Value.ofOption (given.map Value.function))) :
    optional Value.function? key element.toValue = some given :=
  optional_eq Value.function (toValue_get listed) fun _ _ => ⟨nofun,rfl⟩

theorem texts_optional {given : Option (List String)}
    (listed : Fields.get? key element.allFields = some (Value.ofOption (given.map Value.texts))) :
    optional (listOf Value.text?) key element.toValue = some given :=
  optional_eq Value.texts (toValue_get listed) fun _ _ => ⟨nofun,listOf_eq fun _ _ => rfl⟩

-- What is kept as a value is what was read, and nothing absent is ever read.
theorem kept_optional {read : Value → Option Value} (strict : read .absent = none) {given : Option Value}
    (back : ∀ value ∈ given, read value = some value)
    (listed : Fields.get? key element.allFields = some (Value.ofOption given)) :
    optional read key element.toValue = some given := by
  refine optional_eq (fun value => value) (by rw [Option.map_id']; exact toValue_get listed) ?_
  intro value here
  refine ⟨?_,back value here⟩
  rintro rfl
  rw [back _ here] at strict
  cases strict

theorem handler_optional {given : Option Value} (back : ∀ handler ∈ given, handler? handler = some handler)
    (listed : Fields.get? key element.allFields = some (Value.ofOption given)) :
    optional handler? key element.toValue = some given :=
  kept_optional rfl back listed

end

theorem box?_eq {value : Value} {it : Box} (children : field Value.list? "children" value = some it.children)
    (spacing : field Value.number? "spacing" value = some it.spacing)
    (alignItems : optional Value.text? "alignItems" value = some it.alignItems)
    (justifyContent : optional Value.text? "justifyContent" value = some it.justifyContent)
    (padding : optional Value.number? "padding" value = some it.padding) : box? value = some it := by
  rw [box?,children,spacing,alignItems,justifyContent,padding]
  rfl

theorem columnBody?_toValue (id : Option String) (style : Option Value) (visible : Bool) (it : Column) :
    columnBody? (Element.toValue ⟨id,style,visible,.column it⟩) = some it := by
  simp only [columnBody?,Option.bind_eq_bind,Option.bind_eq_some_iff]
  exact ⟨it.key,text_field rfl,it.header,text_field rfl,it.sortable,bool_field rfl,
    it.formatter,function_optional rfl,it.width,number_optional rfl,
    it.align,text_field rfl,rfl⟩

theorem body?_toValue (element : Element) (typed : Typed element.body) :
    body? element.toValue element.kind = some element.body := by
  obtain ⟨id,style,visible,body⟩ := element
  cases body with
  | text content =>
    simp only [kind,Body.kind,body?,Option.bind_eq_bind,Option.bind_eq_some_iff]
    exact ⟨content,text_optional rfl,rfl⟩
  | button it =>
    simp only [kind,Body.kind,body?,Option.bind_eq_bind,Option.bind_eq_some_iff]
    exact ⟨it.label,text_optional rfl,it.onClick,handler_optional typed rfl,
      it.disabled,bool_field rfl,rfl⟩
  | label target content =>
    simp only [kind,Body.kind,body?,Option.bind_eq_bind,Option.bind_eq_some_iff]
    exact ⟨target,text_optional rfl,content,text_optional rfl,rfl⟩
  | textInput it =>
    simp only [kind,Body.kind,body?,Option.bind_eq_bind,Option.bind_eq_some_iff]
    exact ⟨it.value,text_optional rfl,it.placeholder,text_optional rfl,
      it.inputType,text_field rfl,it.onChange,handler_optional typed.1 rfl,
      it.onSubmit,handler_optional typed.2 rfl,it.disabled,bool_field rfl,
      it.formId,text_optional rfl,rfl⟩
  | gauge it =>
    simp only [kind,Body.kind,body?,Option.bind_eq_bind,Option.bind_eq_some_iff]
    exact ⟨it.value,number_field rfl,it.min,number_field rfl,it.max,number_field rfl,
      it.label,text_optional rfl,rfl⟩
  | sparkline it =>
    simp only [kind,Body.kind,body?,Option.bind_eq_bind,Option.bind_eq_some_iff]
    exact ⟨it.data,listOf_field Value.number (fun _ _ => rfl) rfl,it.showDots,bool_field rfl,
      it.showArea,bool_field rfl,rfl⟩
  | barChart it =>
    simp only [kind,Body.kind,body?,Option.bind_eq_bind,Option.bind_eq_some_iff]
    exact ⟨it.data,kept_field typed rfl,it.orientation,text_field rfl,
      it.showLabels,bool_field rfl,rfl⟩
  | lineChart it =>
    simp only [kind,Body.kind,body?,Option.bind_eq_bind,Option.bind_eq_some_iff]
    exact ⟨it.data,kept_field typed rfl,it.showDots,bool_field rfl,
      it.showArea,bool_field rfl,rfl⟩
  | table it =>
    obtain ⟨rows,columns,onRowSelect,onSort⟩ := typed
    simp only [kind,Body.kind,body?,Option.bind_eq_bind,Option.bind_eq_some_iff]
    exact ⟨it.data,kept_field rows rfl,it.columns,kept_field columns rfl,
      it.selectedRow,number_optional rfl,it.height,number_optional rfl,
      it.onRowSelect,handler_optional onRowSelect rfl,it.onSort,handler_optional onSort rfl,
      it.sortColumn,text_optional rfl,it.sortDirection,text_field rfl,rfl⟩
  | column it =>
    simp only [kind,Body.kind,body?,Option.bind_eq_bind,Option.bind_eq_some_iff]
    exact ⟨it,columnBody?_toValue id style visible it,rfl⟩
  | menu it =>
    simp only [kind,Body.kind,body?,Option.bind_eq_bind,Option.bind_eq_some_iff]
    exact ⟨it.title,text_optional rfl,it.position,text_optional rfl,
      it.items,list_field rfl,rfl⟩
  | menuItem it =>
    simp only [kind,Body.kind,body?,Option.bind_eq_bind,Option.bind_eq_some_iff]
    exact ⟨it.label,text_field rfl,it.action,handler_optional typed rfl,
      it.disabled,bool_field rfl,it.icon,text_optional rfl,
      it.shortcut,text_optional rfl,it.submenu,list_optional rfl,rfl⟩
  | contextMenu it =>
    simp only [kind,Body.kind,body?,Option.bind_eq_bind,Option.bind_eq_some_iff]
    exact ⟨it.triggerOn,text_field rfl,it.items,list_field rfl,rfl⟩
  | tabs it =>
    simp only [kind,Body.kind,body?,Option.bind_eq_bind,Option.bind_eq_some_iff]
    exact ⟨it.activeTab,text_optional rfl,it.position,text_optional rfl,
      it.onChange,handler_optional typed rfl,it.tabs,list_field rfl,rfl⟩
  | tab it =>
    simp only [kind,Body.kind,body?,Option.bind_eq_bind,Option.bind_eq_some_iff]
    exact ⟨it.label,text_field rfl,it.icon,text_optional rfl,
      it.disabled,bool_field rfl,it.closable,bool_field rfl,
      it.content,kept_optional rfl typed rfl,rfl⟩
  | treeView it =>
    simp only [kind,Body.kind,body?,Option.bind_eq_bind,Option.bind_eq_some_iff]
    exact ⟨it.rootNodes,list_field rfl,it.selectedNode,text_optional rfl,
      it.expandedNodes,texts_optional rfl,it.onSelect,handler_optional typed.1 rfl,
      it.onToggle,handler_optional typed.2 rfl,it.showRoot,bool_field rfl,rfl⟩
  | treeNode it =>
    simp only [kind,Body.kind,body?,Option.bind_eq_bind,Option.bind_eq_some_iff]
    refine ⟨it.label,text_field rfl,it.expanded,bool_field rfl,
      it.icon,text_optional rfl,it.iconExpanded,text_optional rfl,
      it.selectable,bool_field rfl,it.children,list_optional rfl,?_⟩
    have value : Value.get "value" (toValue ⟨id,style,visible,.treeNode it⟩) = it.value := toValue_get rfl
    rw [value]
    rfl
  | vbox it =>
    simp only [kind,Body.kind,body?,Option.bind_eq_bind,Option.bind_eq_some_iff]
    exact ⟨it,box?_eq (list_field rfl) (number_field rfl) (text_optional rfl)
      (text_optional rfl) (number_optional rfl),rfl⟩
  | hbox it =>
    simp only [kind,Body.kind,body?,Option.bind_eq_bind,Option.bind_eq_some_iff]
    exact ⟨it,box?_eq (list_field rfl) (number_field rfl) (text_optional rfl)
      (text_optional rfl) (number_optional rfl),rfl⟩

theorem ofValue?_toValue (element : Element) (styled : ∀ style ∈ element.style, style? style = some style)
    (typed : Typed element.body) : ofValue? element.toValue = some element := by
  have named : kind? element.toValue = some element.kind := by
    have type : Value.get "type" element.toValue = .text element.kind.name := toValue_get rfl
    rw [kind?,type]
    exact Kind.ofName?_name element.kind
  have common : common? element.toValue = some (element.id,element.style,element.visible) := by
    simp only [common?,Option.bind_eq_bind,Option.bind_eq_some_iff]
    exact ⟨element.id,text_optional rfl,element.style,kept_optional rfl styled rfl,element.visible,bool_field rfl,rfl⟩
  rw [ofValue?,named,common]
  simp only [Option.bind_eq_bind,Option.bind_some]
  rw [body?_toValue element typed]
  rfl

end Element

end Trifold
