import Trifold.Platform.Walk

namespace Trifold.Element

inductive Reaches (root : Value) : Value → Prop
  | root : Reaches root root
  | inside {value held : Value} {element : Element} (there : Reaches root value)
      (sound : ofValue? value = some element) (listed : held ∈ element.contents) : Reaches root held

def IsKind (kind : Kind) (value : Value) : Prop := ∃ element, ofValue? value = some element ∧ element.kind = kind

-- What an element holds is of the kind that belongs there, and a list that may be left out is not empty. A tab holds
-- one element or several.
def Arranged (element : Element) : Prop :=
  match element.body with
  | .table it => ∀ column ∈ it.columns, IsKind .column column
  | .menu it => ∀ item ∈ it.items, IsKind .menuItem item
  | .menuItem it => ∀ items ∈ it.submenu, items ≠ [] ∧ ∀ item ∈ items, IsKind .menuItem item
  | .contextMenu it => ∀ item ∈ it.items, IsKind .menuItem item
  | .tabs it => ∀ tab ∈ it.tabs, IsKind .tab tab
  | .tab it => ∀ content ∈ it.content,
      (∃ element, ofValue? content = some element) ∨ ∃ contents, content = .list contents ∧ 2 ≤ contents.length
  | .treeView it => ∀ node ∈ it.rootNodes, IsKind .treeNode node
  | .treeNode it => ∀ nodes ∈ it.children, nodes ≠ [] ∧ ∀ node ∈ nodes, IsKind .treeNode node
  | _ => True

inductive Whole : Value → Prop
  | mk {value : Value} {element : Element} (sound : ofValue? value = some element) (arranged : element.Arranged)
      (inside : ∀ held ∈ element.contents, Whole held) : Whole value

theorem Whole.element {value : Value} (whole : Whole value) :
    ∃ element, ofValue? value = some element ∧ element.Arranged := by
  cases whole with
  | mk sound arranged inside => exact ⟨_,sound,arranged⟩

theorem Whole.contents {value : Value} {element : Element} (whole : Whole value)
    (sound : ofValue? value = some element) : ∀ held ∈ element.contents, Whole held := by
  cases whole with
  | mk found arranged inside =>
    rw [sound] at found
    cases found
    exact inside

theorem whole_of_reaches {root value : Value} (whole : Whole root) (there : Reaches root value) : Whole value := by
  induction there with
  | root => exact whole
  | inside _ sound listed ih => exact ih.contents sound _ listed

theorem kind_of_body? {value : Value} {kind : Kind} {body : Body} (read : body? value kind = some body) :
    body.kind = kind := by
  cases kind
  all_goals
    simp only [body?,Option.bind_eq_bind,Option.bind_eq_some_iff,Option.pure_def,Option.some.injEq] at read
    -- One field after the other, and last the body they make.
    repeat obtain ⟨_,_,read⟩ := read
    rfl

theorem body?_of {value : Value} {element : Element} (sound : ofValue? value = some element) :
    body? value element.kind = some element.body := by
  simp only [ofValue?,Option.bind_eq_bind,Option.bind_eq_some_iff] at sound
  obtain ⟨kind,known,common,_,body,read,same⟩ := sound
  cases same
  rw [Element.kind,kind_of_body? read]
  exact read

theorem contents_of_shown {element : Element} {held : Value} (listed : held ∈ element.shown) :
    held ∈ element.contents := by
  obtain ⟨id,style,visible,body⟩ := element
  cases body with
  | treeNode it =>
    change held ∈ Label.visibleChildren it at listed
    rw [Label.visibleChildren] at listed
    split at listed
    · exact listed
    · cases listed
  | text | button | label | textInput | gauge | sparkline | barChart | lineChart | table | column | menuItem | tab =>
    cases listed
  | _ => exact listed

theorem contentOf_tab {value : Value} (tab : IsKind .tab value) {element : Element}
    (sound : ofValue? value = some element) : Label.contentOf value = element.contents := by
  obtain ⟨found,known,kind⟩ := tab
  rw [sound] at known
  cases known
  have read := body?_of sound
  rw [kind] at read
  simp only [body?,Option.bind_eq_bind,Option.bind_eq_some_iff,Option.pure_def,Option.some.injEq] at read
  obtain ⟨_,_,_,_,_,_,_,_,content,held,same⟩ := read
  rw [Element.contents,← same,Label.contentOf]
  cases content with
  | none =>
    have nothing : value.get "content" = .absent := by
      rw [optional] at held
      split at held
      · assumption
      · simp at held
    rw [nothing]
    rfl
  | some content =>
    obtain ⟨there,nested⟩ := optional_eq_some held
    have kept : value.get "content" = content := by
      rw [nested?] at nested
      split at nested
      · exact Option.some.inj nested
      · cases nested
    rw [← kept]
    split
    · contradiction
    · rfl

theorem mem_tab_of_panel {element : Element} (arranged : element.Arranged) {held : List Value} {value : Value}
    (open_ : element.panel = .ok held) (listed : value ∈ held) :
    ∃ tab ∈ element.contents, ∃ inner, ofValue? tab = some inner ∧ value ∈ inner.contents := by
  obtain ⟨id,style,visible,body⟩ := element
  cases body with
  | tabs it =>
    change Label.activeContent it.tabs (Value.ofText? it.activeTab) = _ at open_
    rw [Label.activeContent] at open_
    split at open_
    · cases open_
      cases listed
    · cases found : Label.findNamed (Value.ofText? it.activeTab) it.tabs with
      | error cause => rw [found] at open_; cases open_
      | ok hit =>
        rw [found] at open_
        cases hit with
        | none =>
          cases open_
          cases listed
        | some tab =>
          cases open_
          have there : tab ∈ it.tabs := Label.mem_of_findNamed found
          have kind : IsKind .tab tab := arranged tab there
          obtain ⟨inner,sound,_⟩ := kind
          refine ⟨tab,there,inner,sound,?_⟩
          rw [← contentOf_tab (arranged tab there) sound]
          exact listed
  | _ =>
    cases open_
    cases listed

-- A tree of which a walk sees nothing but elements. What it does not show may hold anything.
inductive Tree : Value → Prop
  | mk {value : Value} {element : Element} (sound : ofValue? value = some element)
      (shown : ∀ held ∈ element.shown, Tree held)
      (panel : ∀ all, element.panel = .ok all → ∀ held ∈ all, Tree held) : Tree value

theorem Tree.leaf {value : Value} {element : Element} (sound : ofValue? value = some element) (bare : element.shown = [])
    (closed : element.panel = .ok []) : Tree value := by
  refine .mk sound ?_ ?_
  · rw [bare]
    exact nofun
  · intro all opened
    cases closed.symm.trans opened
    exact nofun

-- The contents of a tab are shown by the bar it stands in, so they are carried along with the tab.
theorem Whole.tree {value : Value} (whole : Whole value) : Tree value := by
  suffices Tree value ∧ ∀ element, ofValue? value = some element → ∀ held ∈ element.contents, Tree held from this.1
  induction whole with
  | @mk value element sound arranged inside ih =>
    refine ⟨.mk sound (fun held listed => (ih held (contents_of_shown listed)).1) ?_,?_⟩
    · intro all opened held listed
      obtain ⟨tab,there,inner,found,within⟩ := mem_tab_of_panel arranged opened listed
      exact (ih tab there).2 inner found held within
    · intro other known held listed
      rw [sound] at known
      cases known
      exact (ih held listed).1

end Trifold.Element
