import Mathlib.Data.List.Perm.Subperm
import Trifold.Element.Check
import Trifold.Proofs.Element.Whole
import Trifold.Proofs.Platform.Seen

namespace Trifold.Tree
open Element

-- Every element with the value it is read from.
mutual
def inOrder (value : Value) : List (Value × Element) :=
  match _ : ofValue? value with
  | none => []
  | some element => (value,element) :: inOrderAll element.contents
termination_by sizeOf value
decreasing_by exact contents_lt (by assumption)
def inOrderAll (values : List Value) : List (Value × Element) :=
  match values with
  | [] => []
  | value :: rest => inOrder value ++ inOrderAll rest
termination_by sizeOf values
end

variable {α : Type} {value : Value} {element : Element} {kept : Element → Bool}

theorem inOrder_foreign (foreign : ofValue? value = none) : inOrder value = [] := by
  rw [inOrder]
  split
  · rfl
  · rename_i sound
    rw [foreign] at sound
    cases sound

theorem inOrder_sound (sound : ofValue? value = some element) :
    inOrder value = (value,element) :: inOrderAll element.contents := by
  rw [inOrder]
  split
  · rename_i foreign
    rw [sound] at foreign
    cases foreign
  · rename_i found same
    rw [sound] at same
    cases same
    rfl

theorem fold_inOrder (visit : Value → Element → α → α) (value : Value) (held : α) :
    fold .parentsFirst visit value held =
      (inOrder value).foldl (fun held (value,element) => visit value element held) held := by
  refine (inOrder.mutual_induct
    (fun value => ∀ held, fold .parentsFirst visit value held =
      (inOrder value).foldl (fun held (value,element) => visit value element held) held)
    (fun values => ∀ held, foldAll .parentsFirst visit values held =
      (inOrderAll values).foldl (fun held (value,element) => visit value element held) held)
    ?foreign ?sound ?none ?more).1 value held
  case foreign =>
    intro value foreign held
    rw [inOrder_foreign foreign,fold]
    split
    · rfl
    · rename_i sound
      rw [foreign] at sound
      cases sound
  case sound =>
    intro value element sound ih held
    rw [inOrder_sound sound,List.foldl_cons,← ih,fold]
    split
    · rename_i foreign
      rw [sound] at foreign
      cases foreign
    · rename_i found same
      rw [sound] at same
      cases same
      rfl
  case none =>
    intro held
    rw [foldAll,inOrderAll]
    rfl
  case more =>
    intro value rest here later held
    rw [foldAll,inOrderAll,List.foldl_append,here,later]

def elements (value : Value) : List Element := (inOrder value).map (·.2)

theorem gather_inOrder (value : Value) (answer : Element → Option α) :
    gather value answer = (elements value).filterMap answer := by
  have appended (found : List (Value × Element)) (held : List α) :
      found.foldl (fun held (_,element) => held ++ (answer element).toList) held =
        held ++ (found.map (·.2)).filterMap answer := by
    induction found generalizing held with
    | nil => simp
    | cons first rest ih =>
      obtain ⟨value,element⟩ := first
      rw [List.foldl_cons,ih,List.map_cons,List.filterMap_cons]
      cases given : answer element <;> simp [given]
  rw [gather,fold_inOrder,appended,List.nil_append]
  rfl

theorem ids_inOrder (value : Value) : ids value = (elements value).filterMap (·.id) := gather_inOrder value _

theorem owners_ids (value : Value) : (owners value).map (·.1) = ids value := by
  rw [owners,gather_inOrder,ids_inOrder,List.map_filterMap]
  congr 1
  funext element
  cases element.id <;> rfl

theorem firstRepeat_none {seen names : List String} :
    firstRepeat seen names = none ↔ names.Nodup ∧ ∀ name ∈ names, name ∉ seen := by
  induction names generalizing seen with
  | nil => simp [firstRepeat]
  | cons name rest ih =>
    by_cases there : name ∈ seen
    · simp [firstRepeat,there]
    · simp only [firstRepeat,List.contains_eq_mem,there,decide_false,Bool.false_eq_true,if_false,ih,List.nodup_cons,
        List.mem_cons,not_or,forall_eq_or_imp]
      constructor
      · rintro ⟨once,apart⟩
        exact ⟨⟨fun inside => (apart name inside).1 rfl,once⟩,not_false,fun other inside => (apart other inside).2⟩
      · rintro ⟨⟨fresh,once⟩,_,apart⟩
        refine ⟨once,fun other inside => ⟨?_,apart other inside⟩⟩
        rintro rfl
        exact fresh inside

theorem verifyUniqueIds_ok : verifyUniqueIds value = .ok () ↔ (ids value).Nodup := by
  have unseen := @firstRepeat_none [] (ids value)
  simp only [List.not_mem_nil,not_false_eq_true,implies_true,and_true] at unseen
  rw [← unseen,verifyUniqueIds,owners_ids]
  cases firstRepeat [] (ids value) <;> simp

-- An element that is shown as the content of what a tab bar opens, although that is no tab and declares no content.
def Stray (root : Value) (element : Element) : Prop :=
  ∃ bar ∈ seen root, ∃ it name tab, bar.body = .tabs it ∧ it.activeTab = some name ∧
    Label.findNamed (.text name) it.tabs = .ok (some tab) ∧ ¬ IsKind .tab tab ∧
      ∃ held ∈ Label.contentOf tab, element ∈ seen held

def elementsAll (values : List Value) : List Element := (inOrderAll values).map (·.2)

theorem elements_sound (sound : ofValue? value = some element) :
    elements value = element :: elementsAll element.contents := by
  rw [elements,inOrder_sound sound]
  rfl

theorem elementsAll_nil : elementsAll [] = [] := by
  rw [elementsAll,inOrderAll]
  rfl

theorem elementsAll_cons (value : Value) (rest : List Value) :
    elementsAll (value :: rest) = elements value ++ elementsAll rest := by
  rw [elementsAll,inOrderAll,List.map_append]
  rfl

theorem elementsAll_append (values rest : List Value) :
    elementsAll (values ++ rest) = elementsAll values ++ elementsAll rest := by
  induction values with
  | nil => rw [elementsAll_nil]; rfl
  | cons value values ih => rw [List.cons_append,elementsAll_cons,elementsAll_cons,ih,List.append_assoc]

theorem seenAll_append (values rest : List Value) : seenAll (values ++ rest) = seenAll values ++ seenAll rest := by
  induction values with
  | nil => rw [seenAll]; rfl
  | cons value values ih => rw [List.cons_append,seenAll,seenAll,ih,List.append_assoc]

theorem seenAll_subperm {values : List Value}
    (each : ∀ value ∈ values, ((seen value).filter kept).Subperm (elements value)) :
    ((seenAll values).filter kept).Subperm (elementsAll values) := by
  induction values with
  | nil => rw [seenAll]; exact List.nil_subperm
  | cons value rest ih =>
    obtain ⟨here,later⟩ := List.forall_mem_cons.mp each
    rw [seenAll,elementsAll_cons,List.filter_append]
    exact here.append (ih later)

-- What is shown in place is all that is nested, or nothing.
theorem shown_contents (element : Element) : element.shown = element.contents ∨ element.shown = [] := by
  obtain ⟨id,style,visible,body⟩ := element
  cases body with
  | treeNode it =>
    change Label.visibleChildren it = it.children.getD [] ∨ Label.visibleChildren it = []
    rw [Label.visibleChildren]
    split
    · exact .inl rfl
    · exact .inr rfl
  | menuItem | tab => exact .inr rfl
  | _ => exact .inl rfl

theorem seen_tab (tab : IsKind .tab value) (sound : ofValue? value = some element) :
    (seen value).Subperm [element] := by
  obtain ⟨found,known,kind⟩ := tab
  rw [sound] at known
  cases known
  cases visible : element.visible with
  | false =>
    rw [seen_hidden sound visible]
    exact List.nil_subperm
  | true =>
    obtain ⟨id,style,_,body⟩ := element
    cases body <;> cases kind
    rw [seen_shown sound visible rfl]
    change (_ :: (seenAll [] ++ seenAll [])).Subperm _
    rw [seenAll]
    exact List.Subperm.refl _

-- Of what the open panel of a tab bar shows nothing is kept, or it is what one of its tabs holds.
theorem panel_tab {held : List Value} (spared : ∀ it name tab, element.body = .tabs it → it.activeTab = some name →
      Label.findNamed (.text name) it.tabs = .ok (some tab) → ¬ IsKind .tab tab →
        (seenAll (Label.contentOf tab)).filter kept = [])
    (opened : element.panel = .ok held) :
    (seenAll held).filter kept = [] ∨ ∃ before tab after inner,
      element.contents = before ++ tab :: after ∧ element.shown = element.contents ∧ IsKind .tab tab ∧
        ofValue? tab = some inner ∧ held = inner.contents := by
  obtain ⟨id,style,visible,body⟩ := element
  have nothing : (seenAll []).filter kept = [] := by rw [seenAll]; rfl
  cases body with
  | tabs it =>
    change Label.activeContent it.tabs (Value.ofText? it.activeTab) = _ at opened
    cases named : it.activeTab with
    | none =>
      rw [named] at opened
      cases opened
      exact .inl nothing
    | some name =>
      rw [named] at opened
      change (do return ((← Label.findNamed (.text name) it.tabs).map Label.contentOf).getD []) = _ at opened
      cases found : Label.findNamed (.text name) it.tabs with
      | error cause => rw [found] at opened; cases opened
      | ok hit =>
        rw [found] at opened
        cases hit with
        | none =>
          cases opened
          exact .inl nothing
        | some tab =>
          cases opened
          by_cases kind : IsKind .tab tab
          · obtain ⟨inner,sound,same⟩ := kind
            have kind : IsKind .tab tab := ⟨inner,sound,same⟩
            obtain ⟨before,after,split⟩ := List.append_of_mem (Label.mem_of_findNamed found)
            exact .inr ⟨before,tab,after,inner,split,rfl,kind,sound,contentOf_tab kind sound⟩
          · exact .inl (spared it name tab rfl named found kind)
  | _ =>
    cases opened
    exact .inl nothing

theorem shown_subperm (each : ∀ held ∈ element.shown, ((seen held).filter kept).Subperm (elements held)) :
    ((seenAll element.shown).filter kept).Subperm (elementsAll element.contents) := by
  rcases shown_contents element with all | nothing
  · rw [all] at each ⊢
    exact seenAll_subperm each
  · rw [nothing,seenAll]
    exact List.nil_subperm

-- The contents of the open tab move next to the tab itself.
theorem opened_subperm {before after : List Value} {tab : Value} {inner : Element} (kind : IsKind .tab tab)
    (sound : ofValue? tab = some inner)
    (each : ∀ held ∈ before ++ tab :: after, ((seen held).filter kept).Subperm (elements held))
    (below : ∀ held ∈ inner.contents, ((seen held).filter kept).Subperm (elements held)) :
    ((seenAll (before ++ tab :: after) ++ seenAll inner.contents).filter kept).Subperm
      (elementsAll (before ++ tab :: after)) := by
  have first := seenAll_subperm fun held listed => each held (List.mem_append_left _ listed)
  have last := seenAll_subperm fun held listed => each held (List.mem_append_right _ (List.mem_cons_of_mem _ listed))
  have opening : ((seen tab ++ seenAll inner.contents).filter kept).Subperm (elements tab) := by
    rw [elements_sound sound,List.filter_append]
    exact (List.filter_sublist.subperm.trans (seen_tab kind sound)).append (seenAll_subperm below)
  have moved : (seenAll before ++ (seen tab ++ seenAll after) ++ seenAll inner.contents).Perm
      (seenAll before ++ ((seen tab ++ seenAll inner.contents) ++ seenAll after)) := by
    rw [List.append_assoc,List.append_assoc,List.append_assoc]
    exact ((List.perm_append_comm).append_left _).append_left _
  rw [seenAll_append,seenAll,elementsAll_append,elementsAll_cons]
  refine (moved.filter kept).subperm.trans ?_
  rw [List.filter_append,List.filter_append]
  exact first.append (opening.append last)

theorem filter_cons_subperm {all found : List Element} (element : Element) (inside : (found.filter kept).Subperm all) :
    ((element :: found).filter kept).Subperm (element :: all) := by
  rw [List.filter_cons]
  split
  · exact (List.subperm_cons element).mpr inside
  · exact inside.trans (List.sublist_cons_self _ _).subperm

-- A tab is seen with what it holds at most once: the tab in the bar, and what it holds in the panel. Of what is kept nothing
-- is to be a stray.
theorem seen_subperm (value : Value) (spared : ∀ element, Stray value element → kept element = false) :
    ((seen value).filter kept).Subperm (elements value) := by
  cases read : ofValue? value with
  | none =>
    rw [seen_foreign read]
    exact List.nil_subperm
  | some element =>
    rw [elements_sound read]
    cases visible : element.visible with
    | false =>
      rw [seen_hidden read visible]
      exact List.nil_subperm
    | true =>
      have within {held : Value} (part : ∀ other ∈ seen held, other ∈ seen value) :
          ∀ other, Stray held other → kept other = false := by
        rintro other ⟨bar,there,stray⟩
        exact spared other ⟨bar,part bar there,stray⟩
      have inside (rest : List Element) (parts : seen value = element :: (seenAll element.shown ++ rest)) :
          ∀ held ∈ element.shown, ((seen held).filter kept).Subperm (elements held) := by
        intro held listed
        have := List.sizeOf_lt_of_mem listed
        have := shown_lt read
        refine seen_subperm held (within fun other there => ?_)
        rw [parts]
        exact List.mem_cons_of_mem _ (List.mem_append_left _ (mem_seenAll.mpr ⟨held,listed,there⟩))
      cases opened : element.panel with
      | error cause =>
        have parts := seen_shut read visible opened
        rw [parts]
        exact filter_cons_subperm element (shown_subperm (inside [] (by rw [parts,List.append_nil])))
      | ok held =>
        have parts := seen_shown read visible opened
        have each := inside _ parts
        have below : ∀ one ∈ held, ((seen one).filter kept).Subperm (elements one) := by
          intro one listed
          have := List.sizeOf_lt_of_mem listed
          have := panel_lt read opened
          refine seen_subperm one (within fun other there => ?_)
          rw [parts]
          exact List.mem_cons_of_mem _ (List.mem_append_right _ (mem_seenAll.mpr ⟨one,listed,there⟩))
        have dropped : ∀ it name tab, element.body = .tabs it → it.activeTab = some name →
            Label.findNamed (.text name) it.tabs = .ok (some tab) → ¬ IsKind .tab tab →
              (seenAll (Label.contentOf tab)).filter kept = [] := by
          intro it name tab body named found other
          refine List.filter_eq_nil_iff.mpr fun stray there => ?_
          obtain ⟨one,listed,there⟩ := mem_seenAll.mp there
          have bar : element ∈ seen value := by rw [parts]; exact List.mem_cons_self
          rw [spared stray ⟨element,bar,it,name,tab,body,named,found,other,one,listed,there⟩]
          exact Bool.false_ne_true
        rw [parts]
        apply filter_cons_subperm
        rcases panel_tab dropped opened with nothing | ⟨before,tab,after,inner,split,all,kind,sound,rfl⟩
        · rw [List.filter_append,nothing,List.append_nil]
          exact shown_subperm each
        · rw [all,split] at each ⊢
          exact opened_subperm kind sound each below
termination_by sizeOf value

-- Where the ids of a tree are distinct, an id that a platform sees twice is that of a stray.
theorem seen_id_once (unique : verifyUniqueIds value = .ok ()) {id : String}
    (spared : ∀ element, Stray value element → element.id ≠ some id) : ((seen value).filterMap (·.id)).count id ≤ 1 := by
  rw [verifyUniqueIds_ok,ids_inOrder] at unique
  have part := (@seen_subperm (fun element => element.id == some id) value fun element stray =>
    beq_false_of_ne (spared element stray)).countP_le fun element => element.id == some id
  rw [List.countP_filter] at part
  have once := List.nodup_iff_count.mp unique id
  rw [List.count_filterMap] at once ⊢
  simp only [Bool.and_self] at part
  exact Nat.le_trans part once

end Trifold.Tree
