import Trifold.Proofs.Desktop.Captions
import Trifold.Proofs.Platform.Bearing
import Trifold.Proofs.Platform.Seen

namespace Trifold.Desktop
open Value Element
open List (Forall₂)

variable {host : Host}

namespace Widget

-- One widget: its parts as far as they tell where it stands and what can be done with it.
structure Shape (widget : Value) (shape : String) (id click tag : Value) (children : List Value) : Prop where
  record : ∃ fields, widget = object fields
  type : widget.get "type" = text shape
  id : widget.get "id" = id
  props : (widget.get "props").isMissing = false
  click : (widget.get "props").get "onClick" = click
  tag : widget.get "tag" = tag
  held : widget.get "children" = list children

variable {widget id click tag props : Value} {shape : String} {children : List Value}

theorem make_shape {base : Fields Value} (once : (Fields.keys base).Nodup) (named : ∀ entry ∈ base, entry.1 ≠ baseName)
    (mute : Mute (own props)) (given : make shape base props (list children) id host = .ok widget) :
    Shape widget shape id ((Fields.get? "onClick" base).getD absent) absent children := by
  obtain ⟨other,made,ended,record,⟨type,named,untagged⟩,held,inside,kept⟩ := make_ok shape id children once named mute host
  rw [given] at ended
  cases ended
  refine ⟨record,type,named,?_,?_,untagged,inside⟩
  · rw [held]
    rfl
  · rw [held,object,Value.get,kept "onClick" (by decide)]
    cases Fields.get? "onClick" base with
    | none => rfl
    | some click => cases click <;> rfl

theorem label_shape {shown : Value} (mute : Mute (own props)) (given : label shown props id host = .ok widget) :
    Shape widget "label" id absent absent [] :=
  make_shape (by simp [Fields.keys]) (by simp [baseName]) mute given

theorem button_shape {shown : Value} (mute : Mute (own props)) (given : button shown click props id host = .ok widget) :
    Shape widget "button" id click absent [] :=
  make_shape (by simp [Fields.keys]) (by simp [baseName]) mute given

theorem container_shape {direction : Value} (mute : Mute (own props))
    (given : container direction (list children) props id host = .ok widget) :
    Shape widget "container" id absent absent children :=
  make_shape (by simp [Fields.keys]) (by simp [baseName]) mute given

theorem Shape.put (plain : Shape widget shape id click absent children) (key : String) (value : Value)
    (other : key ∉ ["type", "id", "props", "children"]) :
    Shape (object (Fields.put key value (own widget))) shape id click (if key = "tag" then value else absent) children := by
  obtain ⟨⟨fields,rfl⟩,type,named,there,clicked,untagged,inside⟩ := plain
  have kept (name : String) : (object (Fields.put key value fields)).get name =
      if key = name then value else (object fields).get name := by
    rw [object,object,Value.get,Value.get,Fields.get?_put]
    split <;> rfl
  simp only [List.mem_cons,List.not_mem_nil,or_false,not_or] at other
  change Shape (object (Fields.put key value fields)) _ _ _ _ _
  refine ⟨⟨_,rfl⟩,?_,?_,?_,?_,?_,?_⟩
  · rw [kept,if_neg other.1,type]
  · rw [kept,if_neg other.2.1,named]
  · rw [kept,if_neg other.2.2.1,there]
  · rw [kept,if_neg other.2.2.1,clicked]
  · rw [kept,untagged]
  · rw [kept,if_neg other.2.2.2,inside]

theorem entryBy_text (isInput : Bool) (id : String) (handlers : Fields Value) :
    Handlers.entryBy isInput (text id) handlers host = .ok (Handlers.entry isInput (some id) handlers) := by
  unfold Handlers.entryBy Handlers.entry
  cases handlers <;> cases isInput <;> rfl

theorem ownHandlers_shape {id : Option String} {click : Option Value}
    (shaped : Shape widget shape (ofText? id) (ofOption click) tag children) :
    ownHandlers widget host = .ok (Handlers.entry (isSame (tag.get "kind") (text "textInput")) id
      ((if shape = "button" then borne [("onClick",click)] else []) ++
        Handlers.among tagHandlerKeys (tag.get "meta"))) := by
  obtain ⟨⟨fields,rfl⟩,type,named,there,clicked,tagged,inside⟩ := shaped
  unfold ownHandlers
  rw [fetch_there rfl,named,pure_bind,type,tagged,fetch_there there,clicked]
  cases id with
  | none => rfl
  | some id =>
    have keyed : Handlers.among ["onClick"] (object [("onClick",ofOption click)]) = borne [("onClick",click)] := by
      apply @Handlers.among_borne _ [("onClick",click)]
      intro entry there
      cases List.mem_singleton.mp there
      rfl
    have asked (found : Fields Value) : (Handlers.entryBy (isSame (tag.get "kind") (text Kind.textInput.name)) (text id)
        found) host = .ok (Handlers.entry (isSame (tag.get "kind") (text "textInput")) (some id) found) :=
      entryBy_text _ id found
    by_cases button : shape = "button"
    · have same : isSame (text shape) (text "button") = true := by simp [isSame,button]
      rw [same,if_pos button,← keyed]
      exact asked _
    · have other : isSame (text shape) (text "button") = false := by simp [isSame,button]
      rw [other,if_neg button]
      exact asked _

theorem withTag_shape {widget' kind : Value} {details : Fields Value} (plain : Shape widget shape id click absent children)
    (once : (Fields.keys details).Nodup) (named : ∀ entry ∈ details, entry.1 ≠ baseName)
    (given : withTag widget kind (object details) host = .ok widget') :
    ∃ made, Shape widget' shape id click (object [("kind",kind), ("meta",object made)]) children ∧
      ∀ key, Fields.get? key made = (Fields.get? key details).bind present? := by
  obtain ⟨made,ended,kept⟩ := compact_ok once named host
  obtain ⟨_,compacted,given⟩ := Ask.ok_of_bind given
  rw [ended] at compacted
  cases compacted
  cases given
  exact ⟨made,plain.put "tag" _ (by decide),kept⟩

end Widget

open Widget

-- The elements that the widgets of a tree stand for, in the order of the walk: their handlers are what is found there, and
-- their ids are the ids of the widgets.
structure Stands (host : Host) (widget : Value) (elements : List Element) : Prop where
  handlers : Widget.handlers widget host = .ok (elements.flatMap (bearing "onClick"))
  placed : ∃ shown, Widget.outline widget host = .ok shown ∧ shown.filterMap (·.2.text?) = elements.filterMap (·.id)

variable {widget click tag : Value} {shape : String} {children : List Value} {told : List (List Element)}

theorem stands_all (inside : Forall₂ (Stands host) children told) :
    walkAll Widget.ownHandlers children host = .ok (told.flatten.flatMap (bearing "onClick")) ∧
      ∃ shown, walkAll (fun widget => do return [(← widget.fetch "type",widget.get "id")]) children host = .ok shown ∧
        shown.filterMap (·.2.text?) = told.flatten.filterMap (·.id) := by
  induction inside with
  | nil =>
    rw [walkAll,walkAll]
    exact ⟨rfl,[],rfl,rfl⟩
  | cons here later ih =>
    obtain ⟨found,shown,walked,placed⟩ := ih
    obtain ⟨handlers,first,begun,named⟩ := here
    refine ⟨?_,first ++ shown,?_,?_⟩
    · rw [walkAll]
      refine (Ask.bind_ok handlers).trans ?_
      rw [Ask.bind_ok found,List.flatten_cons,List.flatMap_append]
      rfl
    · rw [walkAll]
      refine (Ask.bind_ok begun).trans ?_
      rw [Ask.bind_ok walked]
      rfl
    · rw [List.filterMap_append,List.flatten_cons,List.filterMap_append,named,placed]

-- A widget stands for the element whose id it has, if any, and then for what the widgets inside it stand for.
theorem stands_shape {id : Option String} {own : List Element} (shaped : Shape widget shape (ofText? id) click tag children)
    (bears : Widget.ownHandlers widget host = .ok (own.flatMap (bearing "onClick"))) (named : own.filterMap (·.id) = id.toList)
    (inside : Forall₂ (Stands host) children told) : Stands host widget (own ++ told.flatten) := by
  obtain ⟨found,shown,walked,placed⟩ := stands_all inside
  refine ⟨?_,(text shape,ofText? id) :: shown,?_,?_⟩
  · rw [Widget.handlers,walk_children shaped.held,Ask.bind_ok bears,Ask.bind_ok found,List.flatMap_append]
    rfl
  · obtain ⟨fields,rfl⟩ := shaped.record
    rw [Widget.outline,walk_children shaped.held,fetch_there rfl,shaped.type,shaped.id,pure_bind,pure_bind,Ask.bind_ok walked]
    rfl
  · rw [List.filterMap_append,named,← placed]
    cases id <;> rfl

-- A widget that is put between stands for no element itself.
theorem stands_between (shaped : Shape widget shape absent absent absent children) (inside : Forall₂ (Stands host) children told) :
    Stands host widget told.flatten := by
  have bears : Widget.ownHandlers widget host = .ok [] := @ownHandlers_shape host _ _ _ _ none none shaped
  exact @stands_shape host _ _ _ _ _ _ none [] shaped bears rfl inside

-- Of the handlers of an element a tag records all but those a button holds itself.
theorem among_tag {value : Value} {element : Element} (sound : ofValue? value = some element) {made : Fields Value}
    (kept : ∀ key, Fields.get? key made = (Fields.get? key (Details.picked (further element.kind ++ Details.keys element.kind)
      value ++ Details.derived element.body)).bind present?) :
    Handlers.among tagHandlerKeys (object made) = borne ((element.handlersOf "onClick").filter (·.1 ≠ "onClick")) := by
  have once : (further element.kind ++ Details.keys element.kind).Nodup := by
    cases element.kind <;> decide
  have plain : ∀ key ∈ tagHandlerKeys, key ∉ Fields.keys (Details.derived element.body) ∧ inherited key = absent := by
    intro key listed
    apply Handlers.event_plain
    exact List.mem_cons_of_mem _ (List.mem_append_left ["action"] listed)
  have recorded := @Handlers.among_details value element _ _ made once plain (by
    intro key
    rw [kept]
    generalize Fields.get? key _ = held
    rcases held with _ | held
    · rfl
    · cases held <;> rfl)
  rw [recorded]
  have held : ∀ entry ∈ (element.handlersOf "onClick").filter (·.1 ≠ "onClick"), value.get entry.1 = ofOption entry.2 := by
    intro entry there
    obtain ⟨listed,other⟩ := List.mem_filter.mp there
    apply handlersOf_held sound
    obtain ⟨id,style,visible,body⟩ := element
    cases body with
    | menuItem =>
      cases List.mem_singleton.mp listed
      simp at other
    | _ => exact listed
  rw [← Handlers.among_borne held]
  congr 1
  obtain ⟨id,style,visible,body⟩ := element
  cases body <;> rfl

-- The handlers of a button are its own, those of everything else are on the tag.
def onButton (shape : String) (click : Option Value) : List (String × Option Value) :=
  if shape = "button" then [("onClick",click)] else []

theorem borne_append (handlers others : List (String × Option Value)) :
    borne (handlers ++ others) = borne handlers ++ borne others := List.filterMap_append ..

theorem borne_onButton (click : Option Value) :
    (if shape = "button" then borne [("onClick",click)] else []) = borne (onButton shape click) := by
  unfold onButton
  split <;> rfl

theorem isInput_name (kind : Kind) : isSame (text kind.name) (text "textInput") = (kind == .textInput) := by
  cases kind <;> decide

theorem names_once (element : Element) : (Details.names (further element.kind) element).Nodup := by
  obtain ⟨id,style,visible,body⟩ := element
  cases body <;> simp [Details.names,Details.keys,Details.derived,further,Element.kind,Body.kind,Fields.keys]

section
variable {value : Value} {element : Element} (sound : ofValue? value = some element)
  (inside : Forall₂ (Stands host) children told)
include inside

theorem stands_plain (pressed : Option Value) (plain : Shape widget shape (ofText? element.id) (ofOption pressed) absent children)
    (whole : element.handlersOf "onClick" = onButton shape pressed) (other : element.kind ≠ .textInput) :
    Stands host widget (element :: told.flatten) := by
  have bears := @ownHandlers_shape host _ _ _ _ _ _ plain
  have quiet : (element.kind == .textInput) = false := by simpa using other
  refine @stands_shape host _ _ _ _ _ _ element.id [element] plain ?_ ?_ inside
  · rw [bears,List.flatMap_singleton,bearing,whole,quiet,borne_onButton]
    exact congrArg (fun handlers => Except.ok (Handlers.entry _ _ handlers)) (List.append_nil _)
  · cases named : element.id <;> simp [named]

include sound

theorem stands_tagged (pressed : Option Value) (plain : Shape widget shape (ofText? element.id) (ofOption pressed) absent children)
    (whole : borne (onButton shape pressed ++ (element.handlersOf "onClick").filter (·.1 ≠ "onClick")) =
      borne (element.handlersOf "onClick")) {widget' : Value} (given : tagged value element widget host = .ok widget') :
    Stands host widget' (element :: told.flatten) := by
  have once : (Fields.keys (Details.picked (further element.kind ++ Details.keys element.kind) value ++
      Details.derived element.body)).Nodup := (names_once element).sublist (Details.keys_fields _ value element)
  obtain ⟨made,shaped,kept⟩ := withTag_shape plain once (details_named value element) given
  have bears := @ownHandlers_shape host _ _ _ _ _ _ shaped
  refine @stands_shape host _ _ _ _ _ _ element.id [element] shaped ?_ ?_ inside
  · change _ = Except.ok ([element].flatMap _)
    have recorded := among_tag sound kept
    have kind : (object [("kind",text element.kind.name), ("meta",object made)]).get "kind" = text element.kind.name := rfl
    have details : (object [("kind",text element.kind.name), ("meta",object made)]).get "meta" = object made := rfl
    rw [bears,kind,details,recorded,isInput_name,borne_onButton,← borne_append,whole,List.flatMap_singleton]
    rfl
  · cases named : element.id <;> simp [named]

end

theorem titleLabel_stands {menu : Value} {labels : List Value} (given : titleLabel menu host = .ok labels) :
    ∃ between, Forall₂ (Stands host) labels between ∧ between.flatten = [] := by
  obtain ⟨title,_,given⟩ := Ask.ok_of_bind given
  split at given
  · cases given
    exact ⟨[],.nil,rfl⟩
  · obtain ⟨widget,drawn,given⟩ := Ask.ok_of_bind given
    cases given
    have mute : Mute (own absent) := Mute.nil
    exact ⟨[[]],.cons (stands_between (label_shape mute drawn) .nil) .nil,rfl⟩

-- One case a kind: a label or a button of the element's own, or a container around what stands for its contents.
theorem assemble_stands {value : Value} {element : Element} (sound : ofValue? value = some element) {inside panel : List Value}
    {made : Value} {told told' : List (List Element)} (bare : element.shown = [] → inside = [])
    (closed : element.panel = .ok [] → panel = []) (insides : Forall₂ (Stands host) inside told)
    (panels : Forall₂ (Stands host) panel told') (given : assemble value element inside panel host = .ok made) :
    Stands host made (element :: (told.flatten ++ told'.flatten)) := by
  obtain ⟨props,styled,mute⟩ := styleProps_ok sound host
  obtain ⟨style,same,given⟩ := Ask.ok_of_bind given
  rw [styled] at same
  cases same
  have quiet : Mute (own (object props)) := mute
  have named : value.get "id" = ofText? element.id := get_of_sound sound rfl
  obtain ⟨id,shape,visible,body⟩ := element
  rw [named] at given
  cases body with
  | text | column =>
    cases bare rfl
    cases closed rfl
    cases insides
    cases panels
    exact stands_plain .nil none (label_shape quiet given) rfl nofun
  | button it =>
    cases bare rfl
    cases closed rfl
    cases insides
    cases panels
    have pressed : value.get "onClick" = ofOption it.onClick := get_of_sound sound rfl
    dsimp only at given
    rw [pressed] at given
    exact stands_plain .nil it.onClick (button_shape (mute_able mute it.disabled) given) rfl nofun
  | label target content =>
    cases bare rfl
    cases closed rfl
    cases insides
    cases panels
    obtain ⟨widget,drawn,given⟩ := Ask.ok_of_bind given
    have plain := label_shape quiet drawn
    split at given
    · cases given
      exact stands_plain .nil none (plain.put "labelFor" _ (by decide)) rfl nofun
    · cases given
      exact stands_plain .nil none plain rfl nofun
  | textInput it =>
    cases bare rfl
    cases closed rfl
    cases insides
    cases panels
    obtain ⟨shown,_,given⟩ := Ask.ok_of_bind given
    obtain ⟨widget,drawn,given⟩ := Ask.ok_of_bind given
    exact stands_tagged sound .nil none (label_shape (mute_able mute it.disabled) drawn) rfl given
  | gauge | sparkline | barChart | lineChart | table =>
    cases bare rfl
    cases closed rfl
    cases insides
    cases panels
    obtain ⟨shown,_,given⟩ := Ask.ok_of_bind given
    obtain ⟨widget,drawn,given⟩ := Ask.ok_of_bind given
    exact stands_tagged sound .nil none (label_shape quiet drawn) rfl given
  | menuItem it =>
    cases bare rfl
    cases closed rfl
    cases insides
    cases panels
    have pressed : value.get "action" = ofOption it.action := get_of_sound sound rfl
    obtain ⟨shown,_,given⟩ := Ask.ok_of_bind given
    obtain ⟨widget,drawn,given⟩ := Ask.ok_of_bind given
    rw [pressed] at drawn
    exact stands_tagged sound .nil it.action (button_shape (mute_able mute it.disabled) drawn) rfl given
  | tab it =>
    cases bare rfl
    cases closed rfl
    cases insides
    cases panels
    obtain ⟨shown,_,given⟩ := Ask.ok_of_bind given
    obtain ⟨widget,drawn,given⟩ := Ask.ok_of_bind given
    exact stands_tagged sound .nil none (button_shape (mute_able mute it.disabled) drawn) rfl given
  | menu it =>
    cases closed rfl
    cases panels
    obtain ⟨labels,titled,given⟩ := Ask.ok_of_bind given
    obtain ⟨widget,drawn,given⟩ := Ask.ok_of_bind given
    obtain ⟨between,heading,silent⟩ := titleLabel_stands titled
    have whole := stands_tagged sound (List.rel_append heading insides) none (container_shape quiet drawn) rfl given
    rw [List.flatten_append,silent,List.nil_append] at whole
    rw [List.flatten_nil,List.append_nil]
    exact whole
  | contextMenu | treeView =>
    cases closed rfl
    cases panels
    obtain ⟨widget,drawn,given⟩ := Ask.ok_of_bind given
    rw [List.flatten_nil,List.append_nil]
    exact stands_tagged sound insides none (container_shape quiet drawn) rfl given
  | tabs it =>
    have apart : Mute (own (object [("spacing",number 2)])) := .cons (by decide) .nil
    have spaced : Mute (own (object (spread [("spacing",number 1)] props))) := Mute.spread (.cons (by decide) .nil) mute
    obtain ⟨bar,lined,given⟩ := Ask.ok_of_bind given
    obtain ⟨widget,drawn,given⟩ := Ask.ok_of_bind given
    have between := stands_between (container_shape apart lined) insides
    exact stands_tagged sound (.cons between panels) none (container_shape spaced drawn) rfl given
  | treeNode it =>
    cases closed rfl
    cases panels
    rw [List.flatten_nil,List.append_nil]
    obtain ⟨shown,_,given⟩ := Ask.ok_of_bind given
    cases insides with
    | nil =>
      obtain ⟨widget,drawn,given⟩ := Ask.ok_of_bind given
      exact stands_tagged sound .nil none (label_shape quiet drawn) rfl given
    | cons here later =>
      have plain : Mute (own (object [])) := Mute.nil
      rw [List.isEmpty_cons,if_neg Bool.false_ne_true] at given
      obtain ⟨head,lined,given⟩ := Ask.ok_of_bind given
      obtain ⟨widget,drawn,given⟩ := Ask.ok_of_bind given
      have between : Stands host head [] := stands_between (label_shape quiet lined) .nil
      exact stands_tagged sound (.cons between (.cons here later)) none (container_shape plain drawn) rfl given
  | vbox it | hbox it =>
    cases closed rfl
    cases panels
    rw [List.flatten_nil,List.append_nil]
    obtain ⟨fitted,ended,fits⟩ := boxProps_ok it.alignItems it.justifyContent (get_of_sound sound rfl)
      (get_of_sound sound rfl) host
    obtain ⟨spaced,drawn,given⟩ := Ask.ok_of_bind given
    rw [ended] at drawn
    cases drawn
    have mixed : Mute (own (object (spread fitted props))) := fits.spread mute
    exact stands_plain insides none (container_shape mixed given) rfl nofun

theorem blank_stands : Stands host backend.blank [] := by
  have shaped : Shape backend.blank "label" absent absent absent [] := ⟨⟨_,rfl⟩,rfl,rfl,rfl,rfl,rfl,rfl⟩
  exact stands_between shaped .nil

theorem convert_stands {value root : Value} (converted : (backend.convert host value).outcome = .ok (some root)) :
    Stands host root (seen value) :=
  Backend.convert_stands_some blank_stands (fun sound => assemble_stands sound) converted

end Trifold.Desktop
