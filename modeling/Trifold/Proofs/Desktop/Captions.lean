import Trifold.Proofs.Desktop.Alike
import Trifold.Proofs.Element.Caption
import Trifold.Proofs.Platform.Beside

namespace Trifold.Desktop
open Value Agree Element
open List (Forall₂)

variable {host : Host}

namespace Widget

-- What a widget itself says: a label its text, a button its label, a container nothing.
def said (widget : Value) : List Value :=
  if isSame (widget.get "type") (text "label") then [(widget.get "props").get "text"]
  else if isSame (widget.get "type") (text "button") then [(widget.get "props").get "label"]
  else []

-- All that is said, a container before what it holds.
def texts (root : Value) : Ask (List Value) := walk (fun widget => return said widget) root

-- Properties that are neither a caption nor a handler.
def Mute (props : Fields Value) : Prop :=
  ∀ entry ∈ props, entry.1 ≠ baseName ∧ entry.1 ≠ "text" ∧ entry.1 ≠ "label" ∧ entry.1 ≠ "onClick"

theorem Mute.nil : Mute [] := nofun

theorem Mute.cons {name : String} {value : Value} {props : Fields Value}
    (mute : name ≠ baseName ∧ name ≠ "text" ∧ name ≠ "label" ∧ name ≠ "onClick") (rest : Mute props) : Mute ((name,value) :: props) :=
  List.forall_mem_cons.mpr ⟨mute,rest⟩

theorem Mute.spread {props further : Fields Value} (mute : Mute props) (mute' : Mute further) :
    Mute (Value.spread props further) := by
  intro entry there
  exact (Fields.mem_putAll there).elim (mute entry) (mute' entry)

theorem Mute.defined {props : Fields Value} (mute : Mute props) : Mute (Value.defined props) := by
  intro entry there
  exact mute entry (List.mem_filter.mp there).1

-- Compacting keeps everything that holds something under its name.
theorem compact_ok {fields : Fields Value} (once : (Fields.keys fields).Nodup)
    (named : ∀ entry ∈ fields, entry.1 ≠ baseName) (host : Host) :
    ∃ made, compact (object fields) host = .ok (object made) ∧
      ∀ key, Fields.get? key made = (Fields.get? key fields).bind present? := by
  refine ⟨Fields.putAll [] (Value.defined fields),?_,?_⟩
  · change (assignDefined fields).mapError Fault.misuse = _
    rw [assignDefined_named named]
    rfl
  · intro key
    rw [Fields.get?_putAll key (nodup_defined once),get?_defined once]
    exact Option.or_none

-- One widget: what it says itself and what it holds.
structure Part (widget : Value) (words children : List Value) : Prop where
  record : ∃ fields, widget = object fields
  said : said widget = words
  held : widget.get "children" = list children

theorem Part.put {widget : Value} {words children : List Value} (part : Part widget words children) (key : String)
    (value : Value) (other : key ≠ "type" ∧ key ≠ "props" ∧ key ≠ "children") :
    Part (object (Fields.put key value (own widget))) words children := by
  obtain ⟨⟨fields,rfl⟩,said,held⟩ := part
  have kept (name : String) (apart : key ≠ name) :
      (object (Fields.put key value fields)).get name = (object fields).get name := by
    rw [object,object,Value.get,Value.get,Fields.get?_put,if_neg apart]
  obtain ⟨type,props,inside⟩ := other
  refine ⟨⟨_,rfl⟩,?_,?_⟩
  · change Widget.said (object (Fields.put key value fields)) = words
    rw [← said,Widget.said,Widget.said,kept "type" type,kept "props" props]
  · exact (kept "children" inside).trans held

theorem make_ok (shape : String) {base : Fields Value} {props : Value} (id : Value) (children : List Value)
    (once : (Fields.keys base).Nodup) (named : ∀ entry ∈ base, entry.1 ≠ baseName) (mute : Mute (own props))
    (host : Host) :
    ∃ widget made, make shape base props (list children) id host = .ok widget ∧ (∃ fields, widget = object fields) ∧
      (widget.get "type" = text shape ∧ widget.get "id" = id ∧ widget.get "tag" = absent) ∧
      widget.get "props" = object made ∧ widget.get "children" = list children ∧
      ∀ key ∈ ["text", "label", "onClick"], Fields.get? key made = (Fields.get? key base).bind present? := by
  have written : ∀ entry ∈ Value.spread base (own props), entry.1 ≠ baseName := by
    intro entry there
    exact (Fields.mem_putAll there).elim (named entry) fun inside => (mute entry inside).1
  obtain ⟨made,ended,kept⟩ := compact_ok (Fields.nodup_putAll once _) written host
  have parts : ["type", "id", "props", "children"].Nodup := by decide
  refine ⟨_,made,Ask.bind_ok ended,⟨_,rfl⟩,⟨?_,?_,?_⟩,?_,?_,?_⟩
  · exact get_object_defined rfl parts
  · exact get_object_defined rfl parts
  · exact get_object_defined rfl parts
  · exact get_object_defined rfl parts
  · exact get_object_defined rfl parts
  · intro key listed
    rw [kept,Fields.get?_putAll_fresh]
    intro entry there
    have apart := mute entry there
    simp only [List.mem_cons,List.not_mem_nil,or_false] at listed
    rcases listed with rfl | rfl | rfl
    · exact apart.2.1
    · exact apart.2.2.1
    · exact apart.2.2.2

theorem label_ok (words : String) {props : Value} (mute : Mute (own props)) (id : Value) (host : Host) :
    ∃ widget, label (text words) props id host = .ok widget ∧ Part widget [text words] [] := by
  have base : (Fields.keys [("text",text words)]).Nodup ∧ ∀ entry ∈ [("text",text words)], entry.1 ≠ baseName := by
    simp [Fields.keys,baseName]
  obtain ⟨widget,made,ended,record,⟨type,_⟩,held,children,kept⟩ := make_ok "label" id [] base.1 base.2 mute host
  refine ⟨widget,ended,record,?_,children⟩
  have shown : (object made).get "text" = text words := by
    rw [object,Value.get,kept "text" (by decide)]
    rfl
  rw [said,type,held,shown]
  rfl

theorem button_ok (words : String) (click : Value) {props : Value} (mute : Mute (own props)) (id : Value) (host : Host) :
    ∃ widget, button (text words) click props id host = .ok widget ∧ Part widget [text words] [] := by
  have base : (Fields.keys [("label",text words), ("onClick",click)]).Nodup ∧
      ∀ entry ∈ [("label",text words), ("onClick",click)], entry.1 ≠ baseName := by
    simp [Fields.keys,baseName]
  obtain ⟨widget,made,ended,record,⟨type,_⟩,held,children,kept⟩ := make_ok "button" id [] base.1 base.2 mute host
  refine ⟨widget,ended,record,?_,children⟩
  have shown : (object made).get "label" = text words := by
    rw [object,Value.get,kept "label" (by decide)]
    rfl
  rw [said,type,held,shown]
  rfl

theorem container_ok (direction : Value) (children : List Value) {props : Value} (mute : Mute (own props)) (id : Value)
    (host : Host) :
    ∃ widget, container direction (list children) props id host = .ok widget ∧ Part widget [] children := by
  have base : (Fields.keys [("direction",direction)]).Nodup ∧ ∀ entry ∈ [("direction",direction)], entry.1 ≠ baseName := by
    simp [Fields.keys,baseName]
  obtain ⟨widget,made,ended,record,⟨type,_⟩,held,inside,kept⟩ := make_ok "container" id children base.1 base.2 mute host
  refine ⟨widget,ended,record,?_,inside⟩
  rw [said,type]
  rfl

theorem withTag_ok {widget : Value} {words children : List Value} (part : Part widget words children) (kind : Value)
    {details : Fields Value} (named : ∀ entry ∈ details, entry.1 ≠ baseName) (host : Host) :
    ∃ widget', withTag widget kind (object details) host = .ok widget' ∧ Part widget' words children := by
  have ended : compact (object details) host = .ok (object (Fields.putAll [] (Value.defined details))) := by
    change (assignDefined details).mapError Fault.misuse = _
    rw [assignDefined_named named]
    rfl
  exact ⟨_,Ask.bind_ok ended,part.put "tag" _ (by decide)⟩

theorem walk_children {α : Type} {visit : Value → Ask (List α)} {widget : Value} {children : List Value}
    (held : widget.get "children" = list children) :
    walk visit widget = (do return (← visit widget) ++ (← walkAll visit children)) := by
  rw [walk]
  congr 1
  funext here
  split
  · rename_i found same
    rw [held] at same
    cases same
    rfl
  · rename_i unlisted
    exact (unlisted children held).elim

theorem walkAll_ok {α : Type} {visit : Value → Ask (List α)} {children : List Value} {each : List (List α)}
    (inside : Forall₂ (fun child found => walk visit child host = .ok found) children each) :
    walkAll visit children host = .ok each.flatten := by
  induction inside with
  | nil =>
    rw [walkAll]
    rfl
  | cons here later ih =>
    rw [walkAll]
    refine (Ask.bind_ok here).trans ?_
    rw [Ask.bind_ok ih]
    rfl

theorem texts_part {widget : Value} {words children : List Value} (part : Part widget words children)
    {each : List (List Value)} (inside : Forall₂ (fun child words => texts child host = .ok words) children each) :
    texts widget host = .ok (words ++ each.flatten) := by
  rw [texts,walk_children part.held,pure_bind,part.said,Ask.bind_ok (walkAll_ok inside)]
  rfl

end Widget

open Widget

def Shows (host : Host) (widget : Value) (captions : List Caption) : Prop :=
  Widget.texts widget host = .ok (captions.map fun caption => text caption.words)

variable {widget : Value} {captions : List Caption}

theorem shows_leaf {words : String} (part : Part widget [text words] []) (element : Element) :
    Shows host widget [⟨element,words⟩] := texts_part part .nil

theorem shows_container {children : List Value} {each : List (List Caption)} (part : Part widget [] children)
    (shows : Forall₂ (Shows host) children each) : Shows host widget each.flatten := by
  have inside : Forall₂ (fun child words => texts child host = .ok words) children
      (each.map (List.map fun caption => text caption.words)) := List.forall₂_map_right_iff.mpr shows
  rw [Shows,texts_part part inside,List.map_flatten]
  rfl

theorem styleProps_ok {value : Value} {element : Element} (sound : ofValue? value = some element) (host : Host) :
    ∃ props, styleProps (value.get "style") host = .ok props ∧ Mute props := by
  have held : value.get "style" = ofOption element.style := get_of_sound sound rfl
  have shaped := style_of_sound sound
  rw [held]
  cases styled : element.style with
  | none => exact ⟨_,rfl,.nil⟩
  | some style =>
    obtain ⟨plain,attrs,listed⟩ := shaped style styled
    have there : style.isMissing = false := by cases style <;> first | rfl | cases plain
    have present : style.isAbsent = false := by cases style <;> first | rfl | cases plain
    have items : listItems "style.attrs.filter" (list attrs) = pure attrs := rfl
    unfold styleProps
    rw [ofOption,present,fetch_there there,listed]
    simp only [pure_bind,items,Bool.false_eq_true,if_false]
    exact ⟨_,rfl,Mute.defined (.cons (by decide) (.cons (by decide) (.cons (by decide) .nil)))⟩

theorem meaning_ok (keywords : Value) (there : keywords.isMissing = false) (keyword : Option String) (host : Host) :
    ∃ meant, meaning keywords (ofText? keyword) host = .ok meant := by
  cases keyword with
  | none => exact ⟨_,rfl⟩
  | some name =>
    cases keywords <;> first | exact ⟨_,rfl⟩ | cases there

theorem boxProps_ok {value : Value} (across along : Option String) (aligned : value.get "alignItems" = ofText? across)
    (justified : value.get "justifyContent" = ofText? along) (host : Host) :
    ∃ props, boxProps value host = .ok props ∧ Mute props := by
  obtain ⟨side,ended⟩ := meaning_ok alignments rfl across host
  obtain ⟨share,ended'⟩ := meaning_ok justifications rfl along host
  unfold boxProps align justify
  rw [aligned,justified,Ask.bind_ok ended,Ask.bind_ok ended']
  exact ⟨_,rfl,.cons (by decide) (.cons (by decide) (.cons (by decide) (.cons (by decide) .nil)))⟩

theorem mute_able {style : Fields Value} (mute : Mute style) (disabled : Bool) :
    Mute (own (object (spread style (disabledProps disabled)))) := by
  refine mute.spread ?_
  cases disabled
  · exact .nil
  · exact .cons (by decide) .nil

-- A question answered with a widget that says and holds this.
def Gives (host : Host) (asked : Ask Value) (words children : List Value) : Prop :=
  ∃ widget, asked host = .ok widget ∧ Part widget words children

section
variable {asked : Ask Value} {words children : List Value}

theorem Gives.tagged (gives : Gives host asked words children) (value : Value) (element : Element) :
    Gives host (asked >>= tagged value element) words children := by
  obtain ⟨widget,ended,part⟩ := gives
  obtain ⟨widget',ended',part'⟩ := withTag_ok part _ (details_named value element) host
  exact ⟨widget',(Ask.bind_ok ended).trans ended',part'⟩

theorem Gives.leaf {words : String} (gives : Gives host asked [text words] []) (element : Element) :
    Outcome (Shows host) (asked host) ((pure [⟨element,words⟩] : Ask (List Caption)) host) := by
  obtain ⟨widget,ended,part⟩ := gives
  rw [ended]
  exact .ok (shows_leaf part element)

theorem Gives.container {each : List (List Caption)} (gives : Gives host asked [] children)
    (shows : Forall₂ (Shows host) children each) :
    Outcome (Shows host) (asked host) ((pure each.flatten : Ask (List Caption)) host) := by
  obtain ⟨widget,ended,part⟩ := gives
  rw [ended]
  exact .ok (shows_container part shows)

end

-- The title of a menu, as captions of its own.
def heading (element : Element) (menu : Menu) : List (List Caption) :=
  ((Caption.title? menu).map fun words => [⟨element,words⟩]).toList

theorem flatten_heading (element : Element) (menu : Menu) (inside : List (List Caption)) :
    ((Caption.title? menu).map fun words => [⟨element,words⟩]).getD [] ++ inside.flatten =
      (heading element menu ++ inside).flatten := by
  unfold heading
  cases Caption.title? menu <;> rfl

theorem titleLabel_ok {value : Value} {id : Option String} {shape : Option Value} {visible : Bool} {menu : Menu}
    (sound : ofValue? value = some ⟨id,shape,visible,.menu menu⟩) (host : Host) :
    ∃ labels, titleLabel value host = .ok labels ∧
      Forall₂ (Shows host) labels (heading ⟨id,shape,visible,.menu menu⟩ menu) := by
  unfold titleLabel heading
  rw [Label.menuTitle_sound sound,pure_bind]
  cases Caption.title? menu with
  | none => exact ⟨[],rfl,.nil⟩
  | some title =>
    have mute : Mute (own absent) := Mute.nil
    obtain ⟨widget,ended,part⟩ := label_ok title mute absent host
    exact ⟨[widget],Ask.bind_ok ended,.cons (shows_leaf part _) .nil⟩

-- One case a kind: a label or a button with a text, or a container of what the contents have become.
theorem assemble_beside {value : Value} {element : Element} (sound : ofValue? value = some element)
    {inside panel : List Value} {inside' panel' : List (List Caption)} (insides : Forall₂ (Shows host) inside inside')
    (panels : Forall₂ (Shows host) panel panel') :
    Outcome (Shows host) (assemble value element inside panel host) (Caption.assemble value element inside' panel' host) := by
  obtain ⟨id,shape,visible,body⟩ := element
  obtain ⟨style,styled,mute⟩ := styleProps_ok sound host
  have quiet : Mute (own (object style)) := mute
  have labelled (words : String) (id : Value) : Gives host (label (text words) (object style) id) [text words] [] :=
    label_ok words quiet id host
  have held (children : List Value) : Gives host
      (container (text "vbox") (list children) (object style) (value.get "id")) [] children :=
    container_ok _ children quiet _ host
  unfold assemble Caption.assemble
  rw [Ask.bind_ok styled]
  cases body with
  | gauge | sparkline | barChart | lineChart | table =>
    exact Outcome.bind_same fun words _ => ((labelled words _).tagged value _).leaf _
  | menuItem it =>
    exact Outcome.bind_same fun words _ =>
      (Gives.tagged (button_ok words _ (mute_able mute it.disabled) _ host) value _).leaf _
  | tab it =>
    exact Outcome.bind_same fun words _ =>
      (Gives.tagged (button_ok words _ (mute_able mute it.disabled) _ host) value _).leaf _
  | text content =>
    have shown : value.get "content" = ofText? content := get_of_sound sound rfl
    dsimp only
    rw [shown,Label.ofText?_orElse]
    exact (labelled _ _).leaf _
  | button it =>
    have shown : value.get "label" = ofText? it.label := get_of_sound sound rfl
    dsimp only
    rw [shown,Label.ofText?_orElse]
    exact Gives.leaf (button_ok _ _ (mute_able mute it.disabled) _ host) _
  | label target content =>
    have shown : value.get "text" = ofText? content := get_of_sound sound rfl
    dsimp only
    rw [shown,Label.ofText?_orElse]
    obtain ⟨widget,ended,part⟩ := labelled (content.getD "") (value.get "id")
    rw [Ask.bind_ok ended]
    split
    · exact .ok (shows_leaf (part.put "labelFor" _ (by decide)) _)
    · exact .ok (shows_leaf part _)
  | textInput it =>
    dsimp only
    rw [Label.inputDisplay_sound sound,pure_bind]
    exact (Gives.tagged (label_ok _ (mute_able mute it.disabled) _ host) value _).leaf _
  | column it =>
    have shown : value.get "header" = text it.header := get_of_sound sound rfl
    dsimp only
    rw [shown]
    exact (labelled _ _).leaf _
  | menu it =>
    obtain ⟨labels,ended,heading⟩ := titleLabel_ok sound host
    dsimp only
    rw [Ask.bind_ok ended,flatten_heading]
    exact ((held (labels ++ inside)).tagged value _).container (List.rel_append heading insides)
  | contextMenu | treeView => exact ((held inside).tagged value _).container insides
  | tabs =>
    have spaced : Mute (own (object (spread [("spacing",number 1)] style))) := Mute.spread (.cons (by decide) .nil) mute
    have apart : Mute (own (object [("spacing",number 2)])) := .cons (by decide) .nil
    obtain ⟨bar,ended,part⟩ := container_ok (text "hbox") inside apart absent host
    dsimp only
    rw [Ask.bind_ok ended]
    exact (Gives.tagged (container_ok _ (bar :: panel) spaced _ host) value _).container
      (.cons (shows_container part insides) panels)
  | treeNode =>
    refine Outcome.bind_same fun words _ => ?_
    cases insides with
    | nil => exact ((labelled words _).tagged value _).leaf _
    | cons here later =>
      have plain : Mute (own (object [])) := Mute.nil
      obtain ⟨head,ended,part⟩ := labelled words absent
      dsimp only [List.isEmpty_cons]
      rw [if_neg Bool.false_ne_true,Ask.bind_ok ended]
      exact (Gives.tagged (container_ok _ _ plain _ host) value _).container
        (.cons (shows_leaf part _) (.cons here later))
  | vbox it | hbox it =>
    obtain ⟨props,ended,fitted⟩ := boxProps_ok it.alignItems it.justifyContent (get_of_sound sound rfl)
      (get_of_sound sound rfl) host
    dsimp only
    rw [Ask.bind_ok ended]
    have mixed : Mute (own (object (spread props style))) := fitted.spread mute
    exact Gives.container (container_ok _ inside mixed _ host) insides

theorem backend_beside (host : Host) : backend.Beside Caption.backend host (Shows host) :=
  ⟨fun _ => .ok trivial,fun sound => assemble_beside sound⟩

end Trifold.Desktop
