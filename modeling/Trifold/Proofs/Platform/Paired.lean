import Trifold.Platform.Builtin
import Trifold.Proofs.Desktop.Handlers
import Trifold.Proofs.Platform.Handlers
import Trifold.Proofs.Platform.Placed
import Trifold.Proofs.Terminal.Handlers

namespace Trifold
open Value Element

variable {host : Host}

namespace Fields

variable {α β : Type}

theorem get?_mapValues (f : α → β) (key : String) (fields : Fields α) : get? key (mapValues f fields) = (get? key fields).map f := by
  induction fields with
  | nil => rfl
  | cons entry rest ih =>
    obtain ⟨name,value⟩ := entry
    change get? key ((name,f value) :: mapValues f rest) = _
    rw [get?_cons,get?_cons,ih]
    split <;> rfl

end Fields

namespace Handlers

variable {value node widget : Value}

-- The name that a menu item's action has on a terminal, turned into the name it has on a desktop.
def onDesktop (key : String) : String := if key = "action" then "onClick" else key

def renamed (handlers : Fields Value) : Fields Value := handlers.map fun (key,handler) => (onDesktop key,handler)

theorem borne_renamed (handlers : List (String × Option Value)) :
    borne (handlers.map fun (key,handler) => (onDesktop key,handler)) = renamed (borne handlers) := by
  induction handlers with
  | nil => rfl
  | cons entry rest ih =>
    obtain ⟨key,handler⟩ := entry
    have cons (key : String) (rest : List (String × Option Value)) : borne ((key,handler) :: rest) =
        ((handler.bind Handler.ofValue?).map fun handler => (key,handler.toValue)).toList ++ borne rest := by
      rw [borne,List.filterMap_cons]
      dsimp only
      cases handler.bind Handler.ofValue? <;> rfl
    rw [List.map_cons,cons,cons,ih,renamed,renamed,List.map_append]
    cases handler.bind Handler.ofValue? <;> rfl

theorem bearing_renamed (element : Element) :
    bearing "onClick" element = Fields.mapValues renamed (bearing "action" element) := by
  have handlers : element.handlersOf "onClick" =
      (element.handlersOf "action").map fun (key,handler) => (onDesktop key,handler) := by
    obtain ⟨id,style,visible,body⟩ := element
    cases body <;> simp [handlersOf,onDesktop]
  rw [bearing,bearing,handlers,borne_renamed,entry.eq_def,entry.eq_def]
  cases element.id with
  | none => rfl
  | some id =>
    have empty : (renamed (borne (element.handlersOf "action"))).isEmpty = (borne (element.handlersOf "action")).isEmpty := by
      cases borne (element.handlersOf "action") <;> rfl
    dsimp only
    rw [empty]
    split <;> rfl

theorem bearings_renamed (elements : List Element) :
    elements.flatMap (bearing "onClick") = Fields.mapValues renamed (elements.flatMap (bearing "action")) := by
  rw [Fields.mapValues,List.map_flatMap]
  exact congrArg (elements.flatMap ·) (funext bearing_renamed)

theorem keys_bearing (action : String) (elements : List Element) :
    (Fields.keys (elements.flatMap (bearing action))).Sublist (elements.filterMap (·.id)) := by
  induction elements with
  | nil => exact .slnil
  | cons element rest ih =>
    have first : (element :: rest).filterMap (·.id) = element.id.toList ++ rest.filterMap (·.id) := by
      rw [List.filterMap_cons]
      cases element.id <;> rfl
    have own : (Fields.keys (bearing action element)).Sublist element.id.toList := by
      rw [bearing,entry.eq_def]
      cases element.id with
      | none => exact .slnil
      | some id =>
        dsimp only
        split
        · exact .refl _
        · exact List.nil_sublist _
    rw [List.flatMap_cons,Fields.keys,List.map_append,first]
    exact own.append ih

-- A handler is found under the id of the element that bears it, and an input with none is found too.
theorem mem_bearing {action id : String} {element : Element} {handlers : Fields Value} :
    (id,handlers) ∈ bearing action element ↔ element.id = some id ∧
      (handlers ≠ [] ∨ element.kind = .textInput) ∧ handlers = borne (element.handlersOf action) := by
  rw [bearing,entry.eq_def]
  cases element.id with
  | none => simp
  | some other =>
    dsimp only
    split
    · rename_i told
      simp only [Bool.or_eq_true,Bool.not_eq_true',List.isEmpty_eq_false_iff,beq_iff_eq] at told
      simp only [List.mem_singleton,Prod.mk.injEq,Option.some.injEq]
      constructor
      · rintro ⟨rfl,rfl⟩
        exact ⟨rfl,told,rfl⟩
      · rintro ⟨rfl,_,rfl⟩
        exact ⟨rfl,rfl⟩
    · rename_i untold
      simp only [Bool.or_eq_true,Bool.not_eq_true',List.isEmpty_eq_false_iff,beq_iff_eq] at untold
      simp only [List.not_mem_nil,false_iff,not_and]
      rintro _ told rfl
      exact untold told

-- The handlers of a terminal's root, once the walk over it has ended.
theorem terminal_walked {found : Found} (walked : Terminal.Node.handlers node host = .ok found) :
    Platform.handlers .terminal node host = (toValue found).mapError Fault.misuse := by
  have there : node ≠ .null := by
    rintro rfl
    rw [Terminal.Node.handlers] at walked
    cases walked
  have same : Platform.handlers .terminal node = (do .ofMisuse (toValue (← Terminal.Node.handlers node))) := by
    cases node <;> first | rfl | contradiction
  rw [same,Ask.bind_ok walked]
  rfl

-- What is found on a terminal, in some order, and what is found on a desktop.
theorem terminal_found (converted : ((Renderer.terminal host).convert value).outcome = .ok node) :
    ∃ found, Platform.handlers .terminal node host = (toValue found).mapError Fault.misuse ∧
      found.Perm ((seen value).flatMap (bearing "action")) := by
  obtain ⟨made,drawn,ended⟩ := Run.ok_of_bind converted
  cases made with
  | none =>
    cases ended
    rw [Backend.seen_of_none drawn]
    exact ⟨[],rfl,.nil⟩
  | some root =>
    cases ended
    obtain ⟨found,walked,order⟩ := Terminal.convert_stands drawn
    exact ⟨found,terminal_walked walked,order⟩

theorem desktop_found (converted : ((Renderer.desktop host).convert value).outcome = .ok widget) :
    Platform.handlers .desktop widget host =
      (toValue ((seen value).flatMap (bearing "onClick"))).mapError Fault.misuse := by
  obtain ⟨made,drawn,ended⟩ := Run.ok_of_bind converted
  cases made with
  | none =>
    cases ended
    rw [Backend.seen_of_none drawn]
    rfl
  | some root =>
    cases ended
    have walked := (Desktop.convert_stands drawn).handlers
    have there : root ≠ .null := by
      rintro rfl
      rw [Desktop.Widget.handlers,Desktop.Widget.walk] at walked
      cases walked
    have same : Platform.handlers .desktop root = (do .ofMisuse (toValue (← Desktop.Widget.handlers root))) := by
      cases root <;> first | rfl | contradiction
    change Platform.handlers .desktop root host = _
    rw [same,Ask.bind_ok walked]
    rfl

end Handlers

namespace Renderer
open Handlers
open Terminal.Node (finds_content finds_stack finds_wrapper)

theorem handlers_paired (host : Host) {value node widget : Value} (distinct : ((seen value).filterMap (·.id)).Nodup)
    (plain : "__proto__" ∉ (seen value).filterMap (·.id))
    (terminal : ((builtin host .terminal).convert value).outcome = .ok node)
    (desktop : ((builtin host .desktop).convert value).outcome = .ok widget) :
    ∃ left right, Platform.handlers .terminal node host = .ok (object left) ∧
      Platform.handlers .desktop widget host = .ok (object right) ∧ (Fields.keys left).Nodup ∧ (Fields.keys right).Nodup ∧
      (∀ id, Fields.get? id right = (Fields.get? id left).map fun handlers => object (renamed (own handlers))) ∧
      ∀ id handlers, Fields.get? id left = some handlers ↔ ∃ element ∈ seen value, element.id = some id ∧
        (borne (element.handlersOf "action") ≠ [] ∨ element.kind = .textInput) ∧
        handlers = object (borne (element.handlersOf "action")) := by
  obtain ⟨found,read,order⟩ := terminal_found terminal
  have read' := desktop_found desktop
  have once : (Fields.keys ((seen value).flatMap (bearing "action"))).Nodup := distinct.sublist (keys_bearing _ _)
  have once' : (Fields.keys ((seen value).flatMap (bearing "onClick"))).Nodup := distinct.sublist (keys_bearing _ _)
  have named : baseName ∉ Fields.keys found := fun there =>
    plain ((keys_bearing _ _).subset ((order.map Prod.fst).mem_iff.mp there))
  have named' : baseName ∉ Fields.keys ((seen value).flatMap (bearing "onClick")) := fun there =>
    plain ((keys_bearing _ _).subset there)
  have ordered : (Fields.keys found).Nodup := (order.map Prod.fst).nodup_iff.mpr once
  have empty : (Fields.keys ([] : Fields Value)).Nodup := List.nodup_nil
  rw [toValue_named named] at read
  rw [toValue_named named'] at read'
  refine ⟨_,_,read,read',Fields.nodup_putAll empty _,Fields.nodup_putAll empty _,?_,?_⟩
  · intro id
    rw [get?_toValue once',get?_toValue ordered,Fields.get?_perm order ordered,bearings_renamed,Fields.get?_mapValues,
      Option.map_map,Option.map_map]
    rfl
  · intro id handlers
    rw [get?_toValue ordered,Fields.get?_perm order ordered,Option.map_eq_some_iff]
    constructor
    · rintro ⟨borne,there,rfl⟩
      obtain ⟨element,inside,there⟩ := List.mem_flatMap.mp (Fields.mem_of_get? there)
      obtain ⟨same,reason,rfl⟩ := mem_bearing.mp there
      exact ⟨element,inside,same,reason,rfl⟩
    · rintro ⟨element,inside,same,reason,rfl⟩
      refine ⟨_,Fields.get?_of_mem once ?_,rfl⟩
      exact List.mem_flatMap.mpr ⟨element,inside,mem_bearing.mpr ⟨same,reason,rfl⟩⟩

def deed : Value :=
  object [("type",text "menuItem"), ("id",text "open"), ("visible",.bool true), ("label",text "Open"), ("action",text "open"),
    ("disabled",.bool false)]

def context : Value :=
  object [("type",text "contextMenu"), ("id",text "context"), ("visible",.bool true), ("triggerOn",text "click"),
    ("items",list [deed,entry])]

theorem handlers_paired_context : ((seen context).filterMap (·.id)).Nodup ∧ "__proto__" ∉ (seen context).filterMap (·.id) ∧
    ∃ node widget left right, ((builtin .silent .terminal).convert context).outcome = .ok node ∧
      ((builtin .silent .desktop).convert context).outcome = .ok widget ∧
      Platform.handlers .terminal node .silent = .ok (object left) ∧
      Platform.handlers .desktop widget .silent = .ok (object right) ∧
      Fields.get? "open" left = some (object [("action",text "open")]) ∧
      Fields.get? "open" right = some (object [("onClick",text "open")]) ∧ Fields.get? "a&b" right = some (object []) := by
  have item : ofValue? deed = some ⟨some "open",none,true,.menuItem ⟨"Open",some (text "open"),false,none,none,none⟩⟩ := rfl
  have input : ofValue? entry = some ⟨some "a&b",none,true,.textInput ⟨none,none,"text",none,none,false,none⟩⟩ := rfl
  have menu : ofValue? context = some ⟨some "context",none,true,.contextMenu ⟨"click",[deed,entry]⟩⟩ := rfl
  have visible : seen context = [⟨some "context",none,true,.contextMenu ⟨"click",[deed,entry]⟩⟩,
      ⟨some "open",none,true,.menuItem ⟨"Open",some (text "open"),false,none,none,none⟩⟩,
      ⟨some "a&b",none,true,.textInput ⟨none,none,"text",none,none,false,none⟩⟩] := by
    rw [seen_shown menu rfl rfl]
    simp only [Element.shown,seenAll,seen_shown item rfl rfl,seen_shown input rfl rfl]
    rfl
  have terminal : ∃ node, ((builtin .silent .terminal).convert context).outcome = .ok node := by
    change ∃ node, (Run.bind (Terminal.backend.convert .silent context) _).outcome = .ok node
    rw [Backend.convert_shown menu rfl]
    simp only [Element.shown,Element.panel,Backend.convertAll.eq_1,Backend.convertAll_cons,Backend.convert_shown item rfl,
      Backend.convert_shown input rfl,Run.ofMisuse_ok,Run.pure_bind]
    exact ⟨_,rfl⟩
  have desktop : ∃ widget, ((builtin .silent .desktop).convert context).outcome = .ok widget := by
    change ∃ widget, (Run.bind (Desktop.backend.convert .silent context) _).outcome = .ok widget
    rw [Backend.convert_shown menu rfl]
    simp only [Element.shown,Element.panel,Backend.convertAll.eq_1,Backend.convertAll_cons,Backend.convert_shown item rfl,
      Backend.convert_shown input rfl,Run.ofMisuse_ok,Run.pure_bind]
    exact ⟨_,rfl⟩
  have distinct : ((seen context).filterMap (·.id)).Nodup := by
    rw [visible]
    decide
  have plain : "__proto__" ∉ (seen context).filterMap (·.id) := by
    rw [visible]
    decide
  obtain ⟨node,terminal⟩ := terminal
  obtain ⟨widget,desktop⟩ := desktop
  obtain ⟨left,right,read,read',_,_,same,exact⟩ := handlers_paired .silent distinct plain terminal desktop
  have opened : Fields.get? "open" left = some (object [("action",text "open")]) := by
    have inside : ⟨some "open",none,true,.menuItem ⟨"Open",some (text "open"),false,none,none,none⟩⟩ ∈ seen context := by
      simp [visible]
    exact (exact _ _).mpr ⟨_,inside,rfl,.inl (fun none => by cases none),rfl⟩
  have typed : Fields.get? "a&b" left = some (object []) := by
    have inside : ⟨some "a&b",none,true,.textInput ⟨none,none,"text",none,none,false,none⟩⟩ ∈ seen context := by
      simp [visible]
    exact (exact _ _).mpr ⟨_,inside,rfl,.inr rfl,rfl⟩
  refine ⟨distinct,plain,node,widget,left,right,terminal,desktop,read,read',opened,?_,?_⟩
  · rw [same,opened]
    rfl
  · rw [same,typed]
    rfl

-- An element called `__proto__` gives its handlers to the record itself. A terminal meets it last and a desktop first, where
-- the record then refuses the handlers of an element that is called like one of them.
def press : Value :=
  object [("type",text "button"), ("id",text "onChange"), ("visible",.bool true), ("onClick",text "press"),
    ("disabled",.bool false)]

def sheet : Value :=
  object [("type",text "tab"), ("id",text "sheet"), ("visible",.bool true), ("label",text "Sheet"),
    ("disabled",.bool false), ("closable",.bool false), ("content",press)]

def binder : Value :=
  object [("type",text "tabs"), ("id",text "__proto__"), ("visible",.bool true), ("activeTab",text "sheet"),
    ("onChange",text "turn"), ("tabs",list [sheet])]

theorem handlers_unpaired : ((seen binder).filterMap (·.id)).Nodup ∧ ∃ node widget found,
    ((builtin .silent .terminal).convert binder).outcome = .ok node ∧
      ((builtin .silent .desktop).convert binder).outcome = .ok widget ∧
      Platform.handlers .terminal node .silent = .ok found ∧
      Platform.handlers .desktop widget .silent = .error (.misuse (.lockedKey "onChange")) := by
  have button : ofValue? press = some ⟨some "onChange",none,true,.button ⟨none,some (text "press"),false⟩⟩ := rfl
  have tab : ofValue? sheet = some ⟨some "sheet",none,true,.tab ⟨"Sheet",none,false,false,some press⟩⟩ := rfl
  have bar : ofValue? binder =
      some ⟨some "__proto__",none,true,.tabs ⟨some "sheet",none,some (text "turn"),[sheet]⟩⟩ := rfl
  have opened : Label.activeContent [sheet] (ofText? (some "sheet")) = .ok [press] := rfl
  have visible : seen binder = [⟨some "__proto__",none,true,.tabs ⟨some "sheet",none,some (text "turn"),[sheet]⟩⟩,
      ⟨some "sheet",none,true,.tab ⟨"Sheet",none,false,false,some press⟩⟩,
      ⟨some "onChange",none,true,.button ⟨none,some (text "press"),false⟩⟩] := by
    rw [seen_shown bar rfl opened]
    simp only [Element.shown,seenAll,seen_shown tab rfl rfl,seen_shown button rfl rfl]
    rfl
  have terminal : ∃ node, (Terminal.backend.convert .silent binder).outcome = .ok (some node) ∧
      Terminal.Node.handlers node .silent =
        .ok [("onChange",[("onClick",text "press")]), ("__proto__",[("onChange",text "turn")])] := by
    rw [Backend.convert_shown bar rfl]
    simp only [Element.shown,Element.panel,opened,Backend.convertAll.eq_1,Backend.convertAll_cons,Backend.convert_shown tab rfl,
      Backend.convert_shown button rfl,Run.ofMisuse_ok,Run.pure_bind]
    refine ⟨_,rfl,?_⟩
    have shown := finds_wrapper rfl rfl rfl (@finds_content .silent (text "[  ]")) (Terminal.ownHandlers_tagged button rfl _)
    have line := finds_wrapper rfl rfl rfl (@finds_content .silent (text "Sheet")) (Terminal.ownHandlers_tagged tab rfl _)
    exact finds_wrapper rfl rfl rfl
      (finds_stack rfl rfl rfl (.cons (finds_stack rfl rfl rfl (.cons line .nil)) (.cons shown .nil)))
      (Terminal.ownHandlers_tagged bar rfl _)
  have desktop : ∃ widget, (Desktop.backend.convert .silent binder).outcome = .ok (some widget) := by
    rw [Backend.convert_shown bar rfl]
    simp only [Element.shown,Element.panel,opened,Backend.convertAll.eq_1,Backend.convertAll_cons,Backend.convert_shown tab rfl,
      Backend.convert_shown button rfl,Run.ofMisuse_ok,Run.pure_bind]
    exact ⟨_,rfl⟩
  obtain ⟨node,drawn,walked⟩ := terminal
  obtain ⟨widget,desktop⟩ := desktop
  have rooted : ((Renderer.terminal .silent).convert binder).outcome = .ok node := by
    change (Run.bind (Terminal.backend.convert .silent binder) _).outcome = _
    rw [Run.bind_ok _ _ _ drawn]
    rfl
  have rooted' : ((Renderer.desktop .silent).convert binder).outcome = .ok widget := by
    change (Run.bind (Desktop.backend.convert .silent binder) _).outcome = _
    rw [Run.bind_ok _ _ _ desktop]
    rfl
  have recorded : ∃ found,
      Handlers.toValue [("onChange",[("onClick",text "press")]), ("__proto__",[("onChange",text "turn")])] =
      .ok found := ⟨_,rfl⟩
  obtain ⟨found,recorded⟩ := recorded
  refine ⟨?_,node,widget,found,rooted,rooted',?_,?_⟩
  · rw [visible]
    decide
  · rw [terminal_walked walked,recorded]
    rfl
  · rw [desktop_found rooted',visible]
    rfl

end Renderer

end Trifold
