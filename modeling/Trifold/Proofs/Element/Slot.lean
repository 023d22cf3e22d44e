import Trifold.Proofs.Element.Held
import Trifold.Proofs.Value.Alike

namespace Trifold
open Value

-- The name under which a kind keeps what is nested in it.
def Kind.slot? : Kind → Option String
  | .menu | .contextMenu => some "items"
  | .menuItem => some "submenu"
  | .tabs => some "tabs"
  | .tab => some "content"
  | .treeView => some "rootNodes"
  | .treeNode | .vbox | .hbox => some "children"
  | _ => none

namespace Body

-- Two bodies that are the same but for what is nested in them: `xs` in the one and `ys` in the other.
inductive Exchanged (xs ys : List Value) : Body → Body → Prop
  | menu (title position : Option String) : Exchanged xs ys (.menu ⟨title,position,xs⟩) (.menu ⟨title,position,ys⟩)
  | menuItem (label : String) (action : Option Value) (disabled : Bool) (icon shortcut : Option String) :
      Exchanged xs ys (.menuItem ⟨label,action,disabled,icon,shortcut,some xs⟩)
        (.menuItem ⟨label,action,disabled,icon,shortcut,some ys⟩)
  | contextMenu (trigger : String) : Exchanged xs ys (.contextMenu ⟨trigger,xs⟩) (.contextMenu ⟨trigger,ys⟩)
  | tabs (active position : Option String) (change : Option Value) :
      Exchanged xs ys (.tabs ⟨active,position,change,xs⟩) (.tabs ⟨active,position,change,ys⟩)
  | tab (label : String) (icon : Option String) (disabled closable : Bool) {x y : Value} (before : tabContent x = xs)
      (after : tabContent y = ys) :
      Exchanged xs ys (.tab ⟨label,icon,disabled,closable,some x⟩) (.tab ⟨label,icon,disabled,closable,some y⟩)
  | treeView (selected : Option String) (expanded : Option (List String)) (select toggle : Option Value) (root : Bool) :
      Exchanged xs ys (.treeView ⟨xs,selected,expanded,select,toggle,root⟩)
        (.treeView ⟨ys,selected,expanded,select,toggle,root⟩)
  | treeNode (label : String) (value : Value) (expanded : Bool) (icon iconExpanded : Option String) (selectable : Bool) :
      Exchanged xs ys (.treeNode ⟨label,value,expanded,icon,iconExpanded,selectable,some xs⟩)
        (.treeNode ⟨label,value,expanded,icon,iconExpanded,selectable,some ys⟩)
  | vbox (spacing : Float) (align justify : Option String) (padding : Option Float) :
      Exchanged xs ys (.vbox ⟨xs,spacing,align,justify,padding⟩) (.vbox ⟨ys,spacing,align,justify,padding⟩)
  | hbox (spacing : Float) (align justify : Option String) (padding : Option Float) :
      Exchanged xs ys (.hbox ⟨xs,spacing,align,justify,padding⟩) (.hbox ⟨ys,spacing,align,justify,padding⟩)

end Body

namespace Element

variable {α : Type} {a b : Value} {key : String}

theorem field_besides (others : ∀ other, other ≠ key → a.get other = b.get other) (read : Value → Option α) {other : String}
    (apart : other ≠ key) : field read other b = field read other a := by
  simp only [field,others other apart]

theorem optional_besides (others : ∀ other, other ≠ key → a.get other = b.get other) (read : Value → Option α)
    {other : String} (apart : other ≠ key) : optional read other b = optional read other a := by
  simp only [optional,others other apart]

theorem common?_of {element : Element} (sound : ofValue? a = some element) :
    common? a = some (element.id,element.style,element.visible) := by
  simp only [ofValue?,Option.bind_eq_bind,Option.bind_eq_some_iff] at sound
  obtain ⟨_,_,_,common,_,_,same⟩ := sound
  cases same
  exact common

theorem kind_of_get {element element' : Element} (sound : ofValue? a = some element) (sound' : ofValue? b = some element')
    (same : a.get "type" = b.get "type") : element'.kind = element.kind := by
  have named : a.get "type" = text element.kind.name := get_of_sound sound rfl
  have named' : b.get "type" = text element'.kind.name := get_of_sound sound' rfl
  rw [named,named'] at same
  injection same with same
  exact Kind.name_injective _ _ same.symm

theorem slot?_apart {kind : Kind} (kept : kind.slot? = some key) : key ∉ ["type", "id", "style", "visible"] := by
  cases kind <;> simp [Kind.slot?] at kept <;> subst kept <;> decide

theorem slot_there {element : Element} (sound : ofValue? a = some element) (kept : element.kind.slot? = some key)
    (filled : element.contents ≠ []) : (a.get key).isAbsent = false := by
  have read {written : Value} : Fields.get? key element.allFields = some written → a.get key = written := get_of_sound sound
  obtain ⟨id,style,visible,body⟩ := element
  cases body <;> simp only [Element.kind,Body.kind,Kind.slot?,Option.some.injEq,reduceCtorEq] at kept <;> subst kept
  case menuItem it =>
    cases submenu : it.submenu with
    | none => simp [Element.contents,Body.contents,submenu] at filled
    | some items =>
      rw [read rfl,submenu]
      rfl
  case tab it =>
    have opened := body?_of sound
    simp only [Element.kind,Body.kind,body?,Option.bind_eq_bind,Option.bind_eq_some_iff,Option.pure_def,Option.some.injEq] at opened
    obtain ⟨_,_,_,_,_,_,_,_,content,held,same⟩ := opened
    cases same
    cases content with
    | none => simp [Element.contents,Body.contents] at filled
    | some content => simpa using fun nothing => (optional_eq_some held).1 (eq_absent nothing)
  case treeNode it =>
    cases children : it.children with
    | none => simp [Element.contents,Body.contents,children] at filled
    | some items =>
      rw [read rfl,children]
      rfl
  all_goals
    rw [read rfl]
    rfl

-- Two elements that are read alike but for what is nested in them. There is something nested in both.
structure Exchange (key : String) (xs ys : List Value) (a b : Value) (element element' : Element) : Prop where
  sound : ofValue? a = some element
  sound' : ofValue? b = some element'
  kept : element.kind.slot? = some key
  others : ∀ other, other ≠ key → a.get other = b.get other
  held : element.contents = xs
  held' : element'.contents = ys
  filled : xs ≠ []
  filled' : ys ≠ []

namespace Exchange

variable {xs ys : List Value} {element element' : Element}

theorem same (pair : Exchange key xs ys a b element element') :
    element'.id = element.id ∧ element'.style = element.style ∧ element'.visible = element.visible ∧
      element'.kind = element.kind := by
  obtain ⟨sound,sound',kept,others,_,_,_,_⟩ := pair
  have apart := slot?_apart kept
  simp only [List.mem_cons,List.not_mem_nil,or_false,not_or] at apart
  obtain ⟨type,id,style,visible⟩ := apart
  have common : common? b = common? a := by
    simp only [common?,optional_besides others _ (Ne.symm id),optional_besides others _ (Ne.symm style),
      field_besides others _ (Ne.symm visible)]
  have kind := kind_of_get sound sound' (others "type" (Ne.symm type))
  rw [common?_of sound,common?_of sound'] at common
  injection common with common
  simp only [Prod.mk.injEq] at common
  refine ⟨common.1,common.2.1,common.2.2,kind⟩

theorem body (pair : Exchange key xs ys a b element element') : Body.Exchanged xs ys element.body element'.body := by
  have kind := pair.same.2.2.2
  obtain ⟨sound,sound',kept,others,rfl,rfl,filled,filled'⟩ := pair
  have read := body?_of sound
  have read' := body?_of sound'
  rw [kind] at read'
  clear kind sound sound'
  generalize element.kind = kind at kept read read'
  unfold contents at filled filled' ⊢
  generalize element.body = body at filled read ⊢
  generalize element'.body = body' at filled' read' ⊢
  cases kind <;> simp only [Kind.slot?,Option.some.injEq,reduceCtorEq] at kept <;> subst kept
  -- In each case what the first value gives is put into the reading of the second, which leaves the nested values open.
  all_goals
    simp (disch := decide) only [body?,box?,optional_besides others,field_besides others,Option.bind_eq_bind,
      Option.bind_eq_some_iff,Option.pure_def,Option.some.injEq] at read read'
  case menu =>
    obtain ⟨title,titled,position,placed,xs,_,rfl⟩ := read
    simp only [titled,placed,Option.some.injEq,exists_eq_left'] at read'
    obtain ⟨ys,_,rfl⟩ := read'
    exact .menu title position
  case menuItem =>
    obtain ⟨label,labelled,action,acted,disabled,able,icon,drawn,shortcut,short,xs,_,rfl⟩ := read
    simp only [labelled,acted,able,drawn,short,Option.some.injEq,exists_eq_left'] at read'
    obtain ⟨ys,_,rfl⟩ := read'
    cases xs with
    | none => exact absurd rfl filled
    | some xs =>
      cases ys with
      | none => exact absurd rfl filled'
      | some ys => exact .menuItem label action disabled icon shortcut
  case contextMenu =>
    obtain ⟨trigger,triggered,xs,_,rfl⟩ := read
    simp only [triggered,Option.some.injEq,exists_eq_left'] at read'
    obtain ⟨ys,_,rfl⟩ := read'
    exact .contextMenu trigger
  case tabs =>
    obtain ⟨active,opened,position,placed,change,changed,xs,_,rfl⟩ := read
    simp only [opened,placed,changed,Option.some.injEq,exists_eq_left'] at read'
    obtain ⟨ys,_,rfl⟩ := read'
    exact .tabs active position change
  case tab =>
    obtain ⟨label,labelled,icon,drawn,disabled,able,closable,closed,x,_,rfl⟩ := read
    simp only [labelled,drawn,able,closed,Option.some.injEq,exists_eq_left'] at read'
    obtain ⟨y,_,rfl⟩ := read'
    cases x with
    | none => exact absurd rfl filled
    | some x =>
      cases y with
      | none => exact absurd rfl filled'
      | some y => exact .tab label icon disabled closable rfl rfl
  case treeView =>
    obtain ⟨xs,_,selected,chosen,expanded,open_,select,selects,toggle,toggles,root,shown,rfl⟩ := read
    simp only [chosen,open_,selects,toggles,shown,Option.some.injEq,exists_eq_left'] at read'
    obtain ⟨ys,_,rfl⟩ := read'
    exact .treeView selected expanded select toggle root
  case treeNode =>
    obtain ⟨label,labelled,expanded,open_,icon,drawn,iconExpanded,redrawn,selectable,chosen,xs,_,rfl⟩ := read
    simp only [labelled,open_,drawn,redrawn,chosen,Option.some.injEq,exists_eq_left'] at read'
    obtain ⟨ys,_,rfl⟩ := read'
    rw [← others "value" (by decide)]
    cases xs with
    | none => exact absurd rfl filled
    | some xs =>
      cases ys with
      | none => exact absurd rfl filled'
      | some ys => exact .treeNode label _ expanded icon iconExpanded selectable
  case vbox =>
    obtain ⟨_,⟨xs,_,spacing,spaced,align,aligned,justify,justified,padding,padded,rfl⟩,rfl⟩ := read
    simp only [spaced,aligned,justified,padded,Option.some.injEq,exists_eq_left'] at read'
    obtain ⟨_,⟨ys,_,rfl⟩,rfl⟩ := read'
    exact .vbox spacing align justify padding
  case hbox =>
    obtain ⟨_,⟨xs,_,spacing,spaced,align,aligned,justify,justified,padding,padded,rfl⟩,rfl⟩ := read
    simp only [spaced,aligned,justified,padded,Option.some.injEq,exists_eq_left'] at read'
    obtain ⟨_,⟨ys,_,rfl⟩,rfl⟩ := read'
    exact .hbox spacing align justify padding

end Exchange

end Element

end Trifold
