import Trifold.Platform.Builtin
import Trifold.Proofs.Desktop.Handlers
import Trifold.Proofs.Element.Tree
import Trifold.Proofs.Platform.Captions
import Trifold.Proofs.Web.Ids

namespace Trifold
open Value Element

variable {host : Host}

def Desktop.Widget.ids (root : Value) : Ask (List String) :=
  match root with
  | .null => return []
  | root => do return (← outline root).filterMap (·.2.text?)

def Web.idsOf (root : Value) : List String :=
  match root with
  | .text html => ids html
  | _ => []

namespace Backend

variable {ρ : Type} {backend : Backend ρ}

theorem seen_of_none {value : Value} (ended : (backend.convert host value).outcome = .ok none) : seen value = [] := by
  obtain ⟨told,stands,same⟩ := @convert_stands _ backend host (fun _ _ => True) trivial (fun _ _ _ _ _ _ _ => trivial) value
    none ended
  cases stands
  exact same.symm

end Backend

theorem Desktop.ids_seen {value root : Value} (converted : ((Renderer.desktop host).convert value).outcome = .ok root) :
    Widget.ids root host = .ok ((seen value).filterMap (·.id)) := by
  obtain ⟨made,drawn,ended⟩ := Run.ok_of_bind converted
  cases made with
  | none =>
    cases ended
    rw [Backend.seen_of_none drawn]
    rfl
  | some widget =>
    cases ended
    obtain ⟨handlers,shown,walked,placed⟩ := convert_stands drawn
    have there : widget ≠ .null := by
      rintro rfl
      rw [Widget.outline,Widget.walk] at walked
      cases walked
    have same : Widget.ids widget = (do return (← Widget.outline widget).filterMap (·.2.text?)) := by
      cases widget <;> first | rfl | contradiction
    change Widget.ids widget host = _
    rw [same,Ask.bind_ok walked,placed]
    rfl

theorem Web.ids_seen {value page : Value} (converted : ((Renderer.web host).convert value).outcome = .ok page) :
    idsOf page = (seen value).filterMap fun element => element.id.filter (· ≠ "") := by
  obtain ⟨made,drawn,ended⟩ := Run.ok_of_bind converted
  cases made with
  | none =>
    cases ended
    rw [Backend.seen_of_none drawn]
    rfl
  | some markup =>
    cases ended
    exact convert_ids drawn

namespace Renderer

-- A desktop and the web place the same elements in the same order. Where the ids of the tree are distinct, an id that is placed
-- twice is that of a stray, so without strays none is.
theorem convert_placed (host : Host) {value root page : Value}
    (desktop : ((builtin host .desktop).convert value).outcome = .ok root)
    (web : ((builtin host .web).convert value).outcome = .ok page) :
    ∃ ids, Desktop.Widget.ids root host = .ok ids ∧ ids.filter (· ≠ "") = Web.idsOf page ∧
      ids = (seen value).filterMap (·.id) ∧ (Tree.verifyUniqueIds value = .ok () →
        (∀ id, (∀ element, Tree.Stray value element → element.id ≠ some id) →
          ids.count id ≤ 1 ∧ (Web.idsOf page).count id ≤ 1) ∧
        ((∀ element, ¬ Tree.Stray value element) → ids.Nodup ∧ (Web.idsOf page).Nodup)) := by
  have same : ((seen value).filterMap (·.id)).filter (· ≠ "") = Web.idsOf page := by
    rw [Web.ids_seen web,List.filter_filterMap]
  have part : (Web.idsOf page).Sublist ((seen value).filterMap (·.id)) := same ▸ List.filter_sublist
  refine ⟨_,Desktop.ids_seen desktop,same,rfl,fun unique => ?_⟩
  have once (id : String) (spared : ∀ element, Tree.Stray value element → element.id ≠ some id) :=
    Tree.seen_id_once unique spared
  constructor
  · intro id spared
    exact ⟨once id spared,(part.count_le id).trans (once id spared)⟩
  · intro none
    have whole := List.nodup_iff_count.mpr fun id => once id fun element stray => absurd stray (none element)
    exact ⟨whole,whole.sublist part⟩

def entry : Value :=
  object [("type",text "textInput"), ("id",text "a&b"), ("visible",.bool true), ("inputType",text "text"),
    ("disabled",.bool false)]

def leaf : Value :=
  object [("type",text "tab"), ("id",text "one"), ("visible",.bool true), ("label",text "One"), ("disabled",.bool false),
    ("closable",.bool false), ("content",entry)]

def folder : Value :=
  object [("type",text "tabs"), ("id",text "folder"), ("visible",.bool true), ("activeTab",text "one"), ("tabs",list [leaf])]

theorem convert_placed_folder : (∀ element, ¬ Tree.Stray folder element) ∧ Tree.verifyUniqueIds folder = .ok () ∧
    ∃ root page, ((builtin .silent .desktop).convert folder).outcome = .ok root ∧
      ((builtin .silent .web).convert folder).outcome = .ok page ∧
      Desktop.Widget.ids root .silent = .ok ["folder", "one", "a&b"] ∧ Web.idsOf page = ["folder", "one", "a&b"] ∧
      (Web.idsOf page).Nodup := by
  have input : ofValue? entry = some ⟨some "a&b",none,true,.textInput ⟨none,none,"text",none,none,false,none⟩⟩ := rfl
  have tab : ofValue? leaf = some ⟨some "one",none,true,.tab ⟨"One",none,false,false,some entry⟩⟩ := rfl
  have bar : ofValue? folder = some ⟨some "folder",none,true,.tabs ⟨some "one",none,none,[leaf]⟩⟩ := rfl
  have opened : Label.activeContent [leaf] (ofText? (some "one")) = .ok [entry] := rfl
  have visible : seen folder = [⟨some "folder",none,true,.tabs ⟨some "one",none,none,[leaf]⟩⟩,
      ⟨some "one",none,true,.tab ⟨"One",none,false,false,some entry⟩⟩,
      ⟨some "a&b",none,true,.textInput ⟨none,none,"text",none,none,false,none⟩⟩] := by
    rw [seen_shown bar rfl opened]
    simp only [Element.shown,seenAll,seen_shown tab rfl rfl,seen_shown input rfl rfl]
    rfl
  have none : ∀ element, ¬ Tree.Stray folder element := by
    rintro element ⟨shown,there,it,name,held,body,active,found,other,-⟩
    rw [visible] at there
    rcases List.mem_cons.mp there with rfl | there
    · cases body
      cases active
      cases found
      exact other ⟨_,tab,rfl⟩
    · rcases List.mem_cons.mp there with rfl | there
      · cases body
      · cases List.mem_singleton.mp there
        cases body
  have unique : Tree.verifyUniqueIds folder = .ok () := by
    have content : Body.tabContent entry = [entry] := rfl
    rw [Tree.verifyUniqueIds_ok,Tree.ids_inOrder,Tree.elements_sound bar]
    simp only [Element.contents,Body.contents,Tree.elementsAll_cons,Tree.elements_sound tab,Tree.elements_sound input,
      Tree.elementsAll_nil,Option.map_some,Option.getD_some,content]
    decide
  have desktop : ∃ root, ((builtin .silent .desktop).convert folder).outcome = .ok root := by
    change ∃ root, (Run.bind (Desktop.backend.convert .silent folder) _).outcome = .ok root
    rw [Backend.convert_shown bar rfl]
    simp only [Element.shown,Element.panel,opened,Backend.convertAll.eq_1,Backend.convertAll_cons,Backend.convert_shown tab rfl,
      Backend.convert_shown input rfl,Run.ofMisuse_ok,Run.pure_bind]
    exact ⟨_,rfl⟩
  have web : ∃ page, ((builtin .silent .web).convert folder).outcome = .ok page := by
    change ∃ page, (Run.bind (Web.backend.convert .silent folder) _).outcome = .ok page
    rw [Backend.convert_shown bar rfl]
    simp only [Element.shown,Element.panel,opened,Backend.convertAll.eq_1,Backend.convertAll_cons,Backend.convert_shown tab rfl,
      Backend.convert_shown input rfl,Run.ofMisuse_ok,Run.pure_bind]
    exact ⟨_,rfl⟩
  obtain ⟨root,desktop⟩ := desktop
  obtain ⟨page,web⟩ := web
  obtain ⟨ids,placed,same,whole,once⟩ := convert_placed .silent desktop web
  rw [whole,visible] at placed same
  exact ⟨none,unique,root,page,desktop,web,placed,same.symm.trans (by decide),((once unique).2 none).2⟩

-- A box that stands where a tab belongs, with something under a name that no box declares.
def inset : Value := object [("type",text "text"), ("id",text "a"), ("visible",.bool true), ("content",text "x")]

def crate : Value :=
  object [("type",text "vbox"), ("id",text "a"), ("visible",.bool true), ("spacing",number 0), ("children",list []),
    ("content",inset)]

def rack : Value :=
  object [("type",text "tabs"), ("visible",.bool true), ("activeTab",text "a"), ("tabs",list [crate])]

-- The box goes by the name of the open tab, so what it does not declare is placed as its content, next to it.
theorem convert_placed_twice : Element.Tree rack ∧ Tree.verifyUniqueIds rack = .ok () ∧
    ∃ root page, ((builtin .silent .desktop).convert rack).outcome = .ok root ∧
      ((builtin .silent .web).convert rack).outcome = .ok page ∧
      Desktop.Widget.ids root .silent = .ok ["a", "a"] ∧ Web.idsOf page = ["a", "a"] ∧ ¬ ["a", "a"].Nodup := by
  have word : ofValue? inset = some ⟨some "a",none,true,.text (some "x")⟩ := rfl
  have box : ofValue? crate = some ⟨some "a",none,true,.vbox ⟨[],0,none,none,none⟩⟩ := rfl
  have bar : ofValue? rack = some ⟨none,none,true,.tabs ⟨some "a",none,none,[crate]⟩⟩ := rfl
  have opened : Label.activeContent [crate] (ofText? (some "a")) = .ok [inset] := rfl
  have tree : Element.Tree rack := by
    refine .mk bar ?_ ?_
    · exact List.forall_mem_singleton.mpr (.leaf box rfl rfl)
    · intro all given
      cases given
      exact List.forall_mem_singleton.mpr (.leaf word rfl rfl)
  have unique : Tree.verifyUniqueIds rack = .ok () := by
    rw [Tree.verifyUniqueIds_ok,Tree.ids_inOrder,Tree.elements_sound bar]
    simp only [Element.contents,Body.contents,Tree.elementsAll_cons,Tree.elements_sound box,Tree.elementsAll_nil]
    decide
  have desktop : ∃ root, ((builtin .silent .desktop).convert rack).outcome = .ok root := by
    change ∃ root, (Run.bind (Desktop.backend.convert .silent rack) _).outcome = .ok root
    rw [Backend.convert_shown bar rfl]
    simp only [Element.shown,Element.panel,opened,Backend.convertAll.eq_1,Backend.convertAll_cons,Backend.convert_shown box rfl,
      Backend.convert_shown word rfl,Run.ofMisuse_ok,Run.pure_bind]
    exact ⟨_,rfl⟩
  have web : ∃ page, ((builtin .silent .web).convert rack).outcome = .ok page := by
    change ∃ page, (Run.bind (Web.backend.convert .silent rack) _).outcome = .ok page
    rw [Backend.convert_shown bar rfl]
    simp only [Element.shown,Element.panel,opened,Backend.convertAll.eq_1,Backend.convertAll_cons,Backend.convert_shown box rfl,
      Backend.convert_shown word rfl,Run.ofMisuse_ok,Run.pure_bind]
    exact ⟨_,rfl⟩
  have visible : (seen rack).filterMap (·.id) = ["a", "a"] := by
    rw [seen_shown bar rfl opened]
    simp only [Element.shown,seenAll,seen_shown box rfl rfl,seen_shown word rfl rfl]
    rfl
  obtain ⟨root,desktop⟩ := desktop
  obtain ⟨page,web⟩ := web
  have placed := Desktop.ids_seen desktop
  have written := Web.ids_seen web
  rw [visible] at placed
  rw [← List.filter_filterMap,visible] at written
  exact ⟨tree,unique,root,page,desktop,web,placed,written.trans (by decide),by decide⟩

end Renderer

end Trifold
