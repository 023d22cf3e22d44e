import Trifold.Proofs.Platform.Handlers
import Trifold.Proofs.Platform.Seen
import Trifold.Proofs.Web.Scan

namespace Trifold.Web
open Element

-- A handler under its key, if its signal has a name.
def heard (key : String) (handler : Option Value) : Option (String × Value) :=
  ((handler.bind Handler.ofValue?).map (·.signal)).bind fun signal =>
    if signal = "" then none else some (key,.text (signal.map fun c => if c = '_' then '-' else c))

def named (handlers : List (String × Option Value)) : Fields Value :=
  handlers.filterMap fun (key,handler) => heard key handler

-- What the markup of an element carries.
def carried (element : Element) : Fields Value :=
  match element.body with
  | .button it => named [("onClick",it.onClick)]
  | .menuItem it => if it.disabled then [] else named [("onClick",it.action)]
  | .textInput it => named [("onChange",it.onChange), ("onSubmit",it.onSubmit)]
  | .table it =>
      if (Table.shownValues it).isEmpty then [] else named [("onSort",it.onSort), ("onRowSelect",it.onRowSelect)]
  | .treeView it => named [("onSelect",it.onSelect), ("onToggle",it.onToggle)]
  | _ => []

def isInput (element : Element) : Bool := element.kind == .textInput

-- An element is listed under its id if it carries a handler, and an input in any case.
def listed (element : Element) : Handlers.Found :=
  Handlers.entry (isInput element) (element.id.filter (· ≠ "")) (carried element)

theorem dashed_eq (name : String) : dashed name = name.map fun c => if c = '_' then '-' else c := by
  rw [← String.toList_inj,String.toList_map,dashed,Text.replaceAll,String.toList_ofList]
  change Text.replaceFrom ['_'] ['-'] 0 name.toList = _
  induction name.toList with
  | nil => rfl
  | cons c rest ih =>
    rw [List.map_cons,← ih]
    split
    · rename_i same
      subst same
      rfl
    · rename_i other
      exact Text.replaceFrom_missed (Text.not_prefix_of_head (Ne.symm other))

theorem dashed_isEmpty (name : String) : (dashed name).isEmpty = true ↔ name = "" := by
  rw [dashed_eq,String.isEmpty_iff,← String.toList_eq_nil_iff,String.toList_map,List.map_eq_nil_iff,String.toList_eq_nil_iff]

namespace OpenTag

variable {name : String} {value : Option String} {given : List Attribute}

-- What an attribute tells of a handler.
def event? : Attribute → Option (String × Value)
  | (name,value) =>
      if isEvent name then (value.filter (!·.isEmpty)).map fun value => (handlerKey name,.text value) else none

theorem event?_given (pair : Attribute) :
    (((Attribute.given? pair).filter fun read => isEvent read.1).map fun (name,value) =>
      (handlerKey name,Value.text (unescape value))) = event? pair := by
  obtain ⟨name,value⟩ := pair
  rw [event?]
  cases value with
  | none => exact (ite_self none).symm
  | some value =>
    rw [Attribute.given?,Option.filter_some]
    cases value.isEmpty with
    | true => exact (ite_self none).symm
    | false =>
      cases event : isEvent name with
      | true => simp [event,unescape_escape]
      | false => simp [event]

theorem handlers_of (name : String) (given : List Attribute) :
    (of name given).handlers = Fields.ofEntries (given.filterMap event?) := by
  rw [OpenTag.handlers,of,List.filter_filterMap,List.map_filterMap]
  exact congrArg (fun read => Fields.ofEntries (given.filterMap read)) (funext event?_given)

theorem event?_eventAttr {event key : String} (marked : isEvent ("data-on-" ++ event) = true)
    (keyed : handlerKey ("data-on-" ++ event) = key) (handler : Option Value) :
    event? (eventAttr event handler) = heard key handler := by
  rw [eventAttr,event?,if_pos marked,heard,keyed]
  cases handler.bind Handler.ofValue? with
  | none => rfl
  | some handler =>
    rw [Option.map_some,Option.map_some,Option.filter_some,Option.bind_some,← dashed_eq]
    by_cases unnamed : handler.signal = ""
    · rw [(dashed_isEmpty _).mpr unnamed,if_pos unnamed]
      rfl
    · rw [Bool.eq_false_iff.mpr (mt (dashed_isEmpty _).mp unnamed),if_neg unnamed]
      rfl

theorem events_other (other : isEvent name = false) (value : Option String) (given : List Attribute) :
    ((name,value) :: given).filterMap event? = given.filterMap event? := by
  refine List.filterMap_cons_none ?_
  rw [event?,other]
  rfl

theorem events_none (plain : ∀ pair ∈ given, isEvent pair.1 = false) : given.filterMap event? = [] := by
  refine List.filterMap_eq_nil_iff.mpr ?_
  rintro ⟨name,value⟩ there
  rw [event?,plain _ there]
  rfl

theorem events_cons (event key : String) (marked : isEvent ("data-on-" ++ event) = true)
    (keyed : handlerKey ("data-on-" ++ event) = key) (handler : Option Value) (given : List Attribute) :
    (eventAttr event handler :: given).filterMap event? = named [(key,handler)] ++ given.filterMap event? := by
  rw [List.filterMap_cons,event?_eventAttr marked keyed,named,List.filterMap_cons]
  dsimp only
  cases heard key handler <;> rfl

theorem given?_name {pair : Attribute} {read : String × String} (there : Attribute.given? pair = some read) :
    read.1 = pair.1 := by
  obtain ⟨name,value⟩ := pair
  cases value with
  | none => cases there
  | some value =>
    rw [Attribute.given?] at there
    split at there <;> cases there
    rfl

theorem ids_none (fresh : (given.all (·.1 != "id")) = true) :
    (given.filterMap Attribute.given?).filter (·.1 == "id") = [] := by
  refine List.filter_eq_nil_iff.mpr ?_
  intro read there
  obtain ⟨pair,inside,kept⟩ := List.mem_filterMap.mp there
  rw [given?_name kept,beq_iff_eq]
  exact bne_iff_ne.mp (List.all_eq_true.mp fresh pair inside)

theorem id?_of (id : Option String) (fresh : (given.all (·.1 != "id")) = true) :
    (of name (("id",id) :: given)).id? = id.filter (· ≠ "") := by
  have rest := ids_none fresh
  rw [id?,of]
  cases id with
  | none =>
    rw [List.filterMap_cons_none rfl,rest]
    rfl
  | some id =>
    by_cases empty : id = ""
    · subst empty
      rw [List.filterMap_cons_none rfl,rest]
      rfl
    · have read : Attribute.given? ("id",some id) = some ("id",escape id) :=
        if_neg (mt String.isEmpty_iff.mp empty)
      have kept : (some id).filter (· ≠ "") = some id := Option.filter_eq_some_iff.mpr ⟨rfl,decide_eq_true empty⟩
      rw [List.filterMap_cons_some read,List.filter_cons_of_pos rfl,rest,kept]
      exact congrArg some (unescape_escape id)

-- What one tag is listed with.
def found (tag : OpenTag) : Handlers.Found := Handlers.entry (tag.name == "input") tag.id? tag.handlers

theorem found_none (fresh : (given.all (·.1 != "id")) = true) : (of name given).found = [] := by
  rw [found,id?,of,ids_none fresh]
  rfl

theorem found_of (id : Option String) (fresh : (given.all (·.1 != "id")) = true) :
    (of name (("id",id) :: given)).found =
      Handlers.entry (name == "input") (id.filter (· ≠ "")) (Fields.ofEntries (given.filterMap event?)) := by
  rw [found,id?_of id fresh,handlers_of,events_other rfl]
  rfl

end OpenTag

theorem heard_key {key : String} {handler : Option Value} {entry : String × Value}
    (there : heard key handler = some entry) : entry.1 = key := by
  obtain ⟨signal,_,told⟩ := Option.bind_eq_some_iff.mp there
  split at told <;> cases told
  rfl

theorem keys_named (handlers : List (String × Option Value)) :
    (Fields.keys (named handlers)).Sublist (handlers.map (·.1)) := by
  induction handlers with
  | nil => exact .slnil
  | cons pair rest ih =>
    obtain ⟨key,handler⟩ := pair
    rw [named,List.filterMap_cons,List.map_cons]
    dsimp only
    cases told : heard key handler with
    | none => exact ih.cons key
    | some entry =>
      rw [Fields.keys,List.map_cons,heard_key told]
      exact ih.cons_cons key

theorem ofEntries_named {handlers : List (String × Option Value)} (once : (handlers.map (·.1)).Nodup)
    (names : ∀ key ∈ handlers.map (·.1), Fields.position? key = none) :
    Fields.ofEntries (named handlers) = named handlers := by
  refine Fields.putAll_names ?_ (once.sublist (keys_named handlers))
  intro entry there
  exact names entry.1 ((keys_named handlers).subset (List.mem_map_of_mem there))

namespace Markup
open OpenTag

-- What is found in the written form of a tree.
def found (markup : Markup) : Handlers.Found := markup.tags.flatMap OpenTag.found

theorem tagsAll_eq (children : List Markup) : tagsAll children = children.flatMap tags := by
  induction children with
  | nil => rfl
  | cons child rest ih => rw [tagsAll,ih,List.flatMap_cons]

theorem found_element (name : String) (given : List Attribute) (children : List Markup) :
    (element name given children).found = (of name given).found ++ children.flatMap found := by
  rw [found,tags,tagsAll_eq,List.flatMap_cons,List.flatMap_assoc]
  rfl

theorem found_texted (name : String) (given : List Attribute) (content : String) :
    (texted name given content).found = (of name given).found := List.append_nil _

theorem found_silent {children : List Markup} (silent : ∀ child ∈ children, child.found = []) :
    children.flatMap found = [] := List.flatMap_eq_nil_iff.mpr silent

end Markup

open Markup OpenTag

theorem found_row {cells : List Markup} (silent : ∀ cell ∈ cells, cell.found = []) (name : String) {given : List Attribute}
    (fresh : (given.all (·.1 != "id")) = true) : (Markup.element name given cells).found = [] := by
  rw [found_element,found_none fresh,found_silent silent]
  rfl

variable {host : Host}

theorem bodyRow_found {table : Table} {columns : List Value} {row : Value} {place : Nat} {made : Markup}
    (given : bodyRow table columns row place host = .ok made) : made.found = [] := by
  obtain ⟨cells,inside,given⟩ := Ask.ok_of_bind given
  cases given
  refine found_row (Ask.forall_of_mapM ?_ inside) "tr" rfl
  intro column _ cell drawn
  obtain ⟨shown,_,drawn⟩ := Ask.ok_of_bind drawn
  obtain ⟨content,_,drawn⟩ := Ask.ok_of_bind drawn
  cases drawn
  exact (found_texted _ _ _).trans (found_none rfl)

-- A tag without handlers of its own.
theorem found_bare (name : String) (id : Option String) {given : List Attribute} (fresh : (given.all (·.1 != "id")) = true)
    (plain : ∀ pair ∈ given, isEvent pair.1 = false) :
    (of name (("id",id) :: given)).found = Handlers.entry (name == "input") (id.filter (· ≠ "")) [] := by
  rw [found_of id fresh,events_none plain]
  rfl

theorem found_handling (name : String) (id : Option String) {given : List Attribute}
    {handlers : List (String × Option Value)} (fresh : (given.all (·.1 != "id")) = true)
    (events : given.filterMap event? = named handlers) (once : (handlers.map (·.1)).Nodup)
    (names : ∀ key ∈ handlers.map (·.1), Fields.position? key = none) :
    (of name (("id",id) :: given)).found =
      Handlers.entry (name == "input") (id.filter (· ≠ "")) (named handlers) := by
  rw [found_of id fresh,events,ofEntries_named once names]

theorem table_found {id styled : Option String} {value : Value} {it : Table} {made : Markup}
    (given : table ("id",id) ("style",styled) value it host = .ok made) :
    made.found = Handlers.entry false (id.filter (· ≠ ""))
      (if (Table.shownValues it).isEmpty then [] else named [("onSort",it.onSort), ("onRowSelect",it.onRowSelect)]) := by
  unfold table at given
  split at given
  · rename_i bare
    cases given
    rw [if_pos bare,found_texted]
    exact found_bare "pre" id rfl (by simp)
  · rename_i columns
    obtain ⟨sorted,_,given⟩ := Ask.ok_of_bind given
    obtain ⟨rows,_,given⟩ := Ask.ok_of_bind given
    obtain ⟨body,inside,given⟩ := Ask.ok_of_bind given
    cases given
    have cells : ∀ cell ∈ (Table.shownColumns it).map (headCell it), cell.found = [] := by
      intro cell there
      obtain ⟨column,_,rfl⟩ := List.mem_map.mp there
      exact (found_texted _ _ _).trans (found_none rfl)
    have head : (Markup.element "tr" [] ((Table.shownColumns it).map (headCell it))).found = [] := found_row cells "tr" rfl
    have thead : (Markup.element "thead" [] [.element "tr" [] ((Table.shownColumns it).map (headCell it))]).found = [] :=
      found_row (by simpa using head) "thead" rfl
    have tbody : (Markup.element "tbody" [] body).found = [] :=
      found_row (Ask.forall_of_mapM (fun _ _ _ drawn => bodyRow_found drawn) inside) "tbody" rfl
    have events : [eventAttr "sort" it.onSort, eventAttr "row-select" it.onRowSelect, ("style",styled)].filterMap event? =
        named [("onSort",it.onSort), ("onRowSelect",it.onRowSelect)] := by
      rw [events_cons "sort" "onSort" rfl rfl,events_cons "row-select" "onRowSelect" rfl rfl,
        events_none (by simp [isEvent,eventMark,List.isPrefixOf]),List.append_nil]
      exact (List.filterMap_append ..).symm
    rw [if_neg columns,found_element,found_handling "table" id rfl events (by simp) (by simp [Fields.position?,Fields.isDigit]),
      found_silent (by simp [thead,tbody]),List.append_nil]
    rfl

theorem assemble_found {value : Value} {element : Element} {inside panel : List Markup} {made : Markup}
    (bare : element.shown = [] → inside = []) (closed : element.panel = .ok [] → panel = [])
    (given : assemble value element inside panel host = .ok made) :
    made.found = listed element ++ (inside.flatMap Markup.found ++ panel.flatMap Markup.found) := by
  obtain ⟨style,_,given⟩ := Ask.ok_of_bind given
  obtain ⟨id,styled,visible,body⟩ := element
  cases body with
  | text | label | column =>
    cases given
    cases bare rfl
    cases closed rfl
    rw [found_texted]
    exact (found_bare _ id rfl (by simp [isEvent,eventMark,List.isPrefixOf])).trans (List.append_nil _).symm
  | gauge | sparkline | barChart | lineChart | tab =>
    obtain ⟨drawn,_,given⟩ := Ask.ok_of_bind given
    cases given
    cases bare rfl
    cases closed rfl
    rw [found_texted]
    exact (found_bare _ id rfl (by simp [isEvent,eventMark,List.isPrefixOf,Attribute.flag])).trans
      (List.append_nil _).symm
  | button it =>
    cases given
    cases bare rfl
    cases closed rfl
    have events : [.flag "disabled" it.disabled, eventAttr "click" it.onClick, ("style",some style)].filterMap event? =
        named [("onClick",it.onClick)] := by
      rw [Attribute.flag,events_other rfl,events_cons "click" "onClick" rfl rfl,
        events_none (by simp [isEvent,eventMark,List.isPrefixOf]),List.append_nil]
    rw [found_texted]
    exact (found_handling "button" id rfl events (by simp) (by simp [Fields.position?,Fields.isDigit])).trans
      (List.append_nil _).symm
  | textInput it =>
    cases given
    cases bare rfl
    cases closed rfl
    have events : [("name",id), ("type",some (inputType it.inputType)), ("value",it.value),
        ("placeholder",it.placeholder), eventAttr "change" it.onChange, eventAttr "submit" it.onSubmit,
        Attribute.flag "disabled" it.disabled, ("form",it.formId), ("style",some style)].filterMap event? =
        named [("onChange",it.onChange), ("onSubmit",it.onSubmit)] := by
      rw [events_other rfl,events_other rfl,events_other rfl,events_other rfl,
        events_cons "change" "onChange" rfl rfl,events_cons "submit" "onSubmit" rfl rfl,
        events_none (by simp [isEvent,eventMark,List.isPrefixOf,Attribute.flag]),List.append_nil]
      exact (List.filterMap_append ..).symm
    rw [Markup.found,Markup.tags,List.flatMap_singleton]
    exact (found_handling "input" id rfl events (by simp) (by simp [Fields.position?,Fields.isDigit])).trans
      (List.append_nil _).symm
  | menuItem it =>
    obtain ⟨drawn,_,given⟩ := Ask.ok_of_bind given
    cases given
    cases bare rfl
    cases closed rfl
    have events : [("role",some "menuitem"), eventAttr "click" (if it.disabled then none else it.action),
        Attribute.flag "aria-disabled" it.disabled, Attribute.flag "aria-haspopup" it.submenu.isSome, ("style",some style)].filterMap event? =
        named [("onClick",if it.disabled then none else it.action)] := by
      rw [events_other rfl,events_cons "click" "onClick" rfl rfl,
        events_none (by simp [isEvent,eventMark,List.isPrefixOf,Attribute.flag]),List.append_nil]
    have enabled : named [("onClick",if it.disabled then none else it.action)] =
        if it.disabled then [] else named [("onClick",it.action)] := by
      split <;> rfl
    rw [found_texted,found_handling "li" id rfl events (by simp) (by simp [Fields.position?,Fields.isDigit]),enabled]
    exact (List.append_nil _).symm
  | table it =>
    cases bare rfl
    cases closed rfl
    exact (table_found given).trans (List.append_nil _).symm
  | menu it =>
    obtain ⟨title,_,given⟩ := Ask.ok_of_bind given
    cases given
    cases closed rfl
    have heading : ((title.text?.map (texted "div" [("class",some "menu-title")])).toList).flatMap Markup.found = [] := by
      refine found_silent ?_
      intro made there
      obtain ⟨content,_,rfl⟩ := Option.map_eq_some_iff.mp (Option.mem_toList.mp there)
      exact (found_texted _ _ _).trans (found_none rfl)
    rw [found_element,found_bare "nav" id rfl (by simp [isEvent,eventMark,List.isPrefixOf]),List.flatMap_append,heading,
      List.flatMap_singleton,found_element,found_none rfl]
    exact congrArg _ (List.append_nil _).symm
  | contextMenu it =>
    cases given
    cases closed rfl
    rw [found_element,found_bare "ul" id rfl (by simp [isEvent,eventMark,List.isPrefixOf])]
    exact congrArg _ (List.append_nil _).symm
  | tabs it =>
    cases given
    rw [found_element,found_bare "div" id rfl (by simp [isEvent,eventMark,List.isPrefixOf]),List.flatMap_cons,
      List.flatMap_singleton,found_element,found_element,found_none rfl,found_none rfl]
    rfl
  | treeNode it =>
    obtain ⟨label,_,given⟩ := Ask.ok_of_bind given
    cases given
    cases closed rfl
    have group : (if inside.isEmpty then [] else [Markup.element "ul" [("role",some "group")] inside]).flatMap
        Markup.found = inside.flatMap Markup.found := by
      cases inside with
      | nil => rfl
      | cons child rest =>
        rw [if_neg (by simp),List.flatMap_singleton,found_element,found_none rfl]
        rfl
    rw [found_element,found_bare "li" id rfl (by simp [isEvent,eventMark,List.isPrefixOf]),List.flatMap_cons,group]
    exact congrArg _ (List.append_nil _).symm
  | treeView it =>
    cases given
    cases closed rfl
    have events : [("role",some "tree"), eventAttr "select" it.onSelect, eventAttr "toggle" it.onToggle,
        ("style",some style)].filterMap event? = named [("onSelect",it.onSelect), ("onToggle",it.onToggle)] := by
      rw [events_other rfl,events_cons "select" "onSelect" rfl rfl,events_cons "toggle" "onToggle" rfl rfl,
        events_none (by simp [isEvent,eventMark,List.isPrefixOf]),List.append_nil]
      exact (List.filterMap_append ..).symm
    rw [found_element,found_handling "ul" id rfl events (by simp) (by simp [Fields.position?,Fields.isDigit])]
    exact congrArg _ (List.append_nil _).symm
  | vbox it | hbox it =>
    cases closed rfl
    obtain ⟨css,_,given⟩ := Ask.ok_of_bind given
    cases given
    rw [found_element,found_bare "div" id rfl (by simp [isEvent,eventMark,List.isPrefixOf])]
    exact congrArg _ (List.append_nil _).symm

theorem keys_listed (element : Element) : (Fields.keys (listed element)).Sublist element.id.toList := by
  rw [listed,Handlers.entry.eq_def]
  cases element.id with
  | none => exact .slnil
  | some id =>
    rw [Option.filter_some]
    split
    · rename_i found
      split at found <;> cases found
      split
      · exact .refl _
      · exact List.nil_sublist _
    · exact List.nil_sublist _

theorem keys_found (elements : List Element) :
    (Fields.keys (elements.flatMap listed)).Sublist (elements.filterMap (·.id)) := by
  induction elements with
  | nil => exact .slnil
  | cons element rest ih =>
    have first : (element :: rest).filterMap (·.id) = element.id.toList ++ rest.filterMap (·.id) := by
      rw [List.filterMap_cons]
      cases element.id <;> rfl
    rw [List.flatMap_cons,Fields.keys,List.map_append,first]
    exact (keys_listed element).append ih

theorem convert_found {value : Value} {html : String}
    (converted : ((Renderer.web host).convert value).outcome = .ok (.text html)) :
    handlers html = (seen value).flatMap listed := by
  obtain ⟨made,drawn,ended⟩ := Run.ok_of_bind converted
  cases made with
  | none => cases ended
  | some markup =>
    cases ended
    have named : markup.Named :=
      Backend.convert_keeps blank_named (fun inside panel given => assemble_named inside panel given) value markup drawn
    have gathered := @Backend.convert_gathers _ _ backend host Markup.found listed rfl ?_ value _ drawn
    · exact (congrArg (List.flatMap OpenTag.found) (all_written named)).trans
        ((List.append_nil _).symm.trans gathered)
    · intro value element held inside panel made sound opened first second given
      refine assemble_found ?_ ?_ given
      · intro bare
        exact Backend.nothing_inside (bare ▸ first)
      · intro closed
        cases closed.symm.trans opened
        exact Backend.nothing_inside second

-- A button whose id and label look like markup, beside an input without handlers.
def shout : Value :=
  .object [("type",.text "button"), ("id",.text "\"><b"), ("visible",.bool true), ("label",.text "<input id=\"x\">"),
    ("onClick",.text "say_hi"), ("disabled",.bool false)]

def query : Value :=
  .object [("type",.text "textInput"), ("id",.text "q"), ("visible",.bool true), ("inputType",.text "text"),
    ("disabled",.bool false)]

def desk : Value :=
  .object [("type",.text "vbox"), ("visible",.bool true), ("spacing",.number 0), ("children",.list [shout, query])]

def asking : Element := ⟨some "q",none,true,.textInput ⟨none,none,"text",none,none,false,none⟩⟩

end Trifold.Web
