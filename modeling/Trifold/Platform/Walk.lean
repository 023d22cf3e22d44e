import Trifold.Element.Label
import Trifold.Element.Metadata
import Trifold.Platform.Name
import Trifold.Run

namespace Trifold

-- A platform's side of the walk. `ready` is asked before anything inside is looked at; `assemble` gets the element,
-- as it is written and as it is read, and what its contents and its open panel have become.
structure Backend (ρ : Type) where
  platform : Platform
  blank : ρ
  blankName : String
  ready : Value → Ask Unit
  assemble : Value → Element → List ρ → List ρ → Ask ρ

namespace Element

-- The contents that are shown where the element stands. A submenu and the content of a tab are not.
def shown (element : Element) : List Value :=
  match element.body with
  | .menu it => it.items
  | .contextMenu it => it.items
  | .tabs it => it.tabs
  | .treeView it => it.rootNodes
  | .treeNode it => Label.visibleChildren it
  | .vbox it => it.children
  | .hbox it => it.children
  | _ => []

def panel (element : Element) : Except Misuse (List Value) :=
  match element.body with
  | .tabs it => Label.activeContent it.tabs (Value.ofText? it.activeTab)
  | _ => .ok []

theorem shown_le (element : Element) : sizeOf element.shown ≤ sizeOf element.contents := by
  obtain ⟨id,style,visible,body⟩ := element
  cases body with
  | treeNode node => exact Label.visibleChildren_le node
  | menuItem item =>
      have := Value.sizeOf_list_pos (item.submenu.getD [])
      simp only [shown,contents,Body.contents,List.nil.sizeOf_spec]
      omega
  | tab tab =>
      have := Value.sizeOf_list_pos ((tab.content.map Body.tabContent).getD [])
      simp only [shown,contents,Body.contents,List.nil.sizeOf_spec]
      omega
  | _ => exact Nat.le_refl _

theorem shown_lt {value : Value} {element : Element} (sound : ofValue? value = some element) :
    sizeOf element.shown < sizeOf value :=
  Nat.lt_of_le_of_lt (shown_le element) (contents_lt sound)

theorem panel_lt {value : Value} {element : Element} {held : List Value} (sound : ofValue? value = some element)
    (open_ : element.panel = .ok held) : sizeOf held < sizeOf value := by
  have inside := contents_lt sound
  have large := Value.sizeOf_list_pos element.contents
  obtain ⟨id,style,visible,body⟩ := element
  cases body with
  | tabs it => exact Nat.lt_of_le_of_lt (Label.activeContent_lt open_) inside
  | _ =>
      simp only [panel,Except.ok.injEq] at open_
      subst open_
      simp only [List.nil.sizeOf_spec]
      omega

end Element

namespace Backend

variable {ρ : Type}

def unknown (backend : Backend ρ) (host : Host) (value : Value) : Run (Option ρ) := do
  let kind ← Run.ask host (Element.describeKind value)
  Run.warn (warningArea backend.platform.name ++ s!" unknown node kind \"{kind}\" rendered {backend.blankName}")
  return some backend.blank

-- A hidden element gives nothing, and neither does anything beneath it.
mutual
def convert (backend : Backend ρ) (host : Host) (value : Value) : Run (Option ρ) :=
  match _ : Element.ofValue? value with
  | none => backend.unknown host value
  | some element =>
      if !element.visible then return none
      else do
        Run.ask host (backend.ready value)
        let inside ← convertAll backend host element.shown
        match _ : element.panel with
        | .error cause => Run.fail (.misuse cause)
        | .ok held =>
            let panel ← convertAll backend host held
            return some (← Run.ask host (backend.assemble value element inside panel))
termination_by sizeOf value
decreasing_by
  · exact Element.shown_lt (by assumption)
  · exact Element.panel_lt (by assumption) (by assumption)
def convertAll (backend : Backend ρ) (host : Host) (values : List Value) : Run (List ρ) :=
  match values with
  | [] => return []
  | value :: rest => do
      let here ← convert backend host value
      return here.toList ++ (← convertAll backend host rest)
termination_by sizeOf values
end

end Backend

end Trifold
