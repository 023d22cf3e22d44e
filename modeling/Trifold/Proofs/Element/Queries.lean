import Mathlib.Data.List.Induction
import Trifold.Proofs.Ask
import Trifold.Proofs.Element.Site
import Trifold.Proofs.Fields

namespace Trifold.Tree
open Element

variable {α : Type} {root : Value} {id : String}

theorem gather_sites (root : Value) (answer : Element → Option α) :
    gather root answer = (sites .parentsFirst root).filterMap fun site => answer site.element := by
  rw [gather_inOrder,elements,← sites_inOrder,List.map_map,List.filterMap_map]
  rfl

theorem first?_foreign (holds : Element → Bool) {value : Value} (foreign : ofValue? value = none) :
    first? holds value = none := by
  rw [first?]
  split
  · rfl
  · rename_i sound
    rw [foreign] at sound
    cases sound

theorem first?_sound (holds : Element → Bool) {value : Value} {element : Element} (sound : ofValue? value = some element) :
    first? holds value = if holds element then some value else firstAmong? holds element.contents := by
  rw [first?]
  split
  · rename_i foreign
    rw [sound] at foreign
    cases foreign
  · rename_i found same
    rw [sound] at same
    cases same
    rfl

def firstSite? (holds : Element → Bool) (all : List Site) : Option Site := all.find? fun site => holds site.element

theorem firstSite?_within (holds : Element → Bool) (position : Nat) (all : List Site) :
    (firstSite? holds (all.map (Site.within position))).map Site.value = (firstSite? holds all).map Site.value := by
  rw [firstSite?,List.find?_map,Option.map_map]
  rfl

theorem firstSite?_cons (holds : Element → Bool) (site : Site) (all : List Site) :
    firstSite? holds (site :: all) = if holds site.element then some site else firstSite? holds all := by
  rw [firstSite?,List.find?_cons]
  cases holds site.element <;> rfl

theorem firstAmong?_sites {holds : Element → Bool} {values : List Value}
    (each : ∀ value ∈ values, first? holds value = (firstSite? holds (sites .parentsFirst value)).map Site.value)
    (position : Nat) :
    firstAmong? holds values = (firstSite? holds (sitesAll .parentsFirst position values)).map Site.value := by
  induction values generalizing position with
  | nil =>
    rw [firstAmong?,sitesAll]
    rfl
  | cons value rest ih =>
    obtain ⟨here,later⟩ := List.forall_mem_cons.mp each
    rw [firstAmong?,here,ih later (position + 1),← firstSite?_within holds position,sitesAll]
    simp only [firstSite?,List.find?_append,Option.map_or,Option.orElse_eq_or]

theorem first?_sites (holds : Element → Bool) (value : Value) :
    first? holds value = (firstSite? holds (sites .parentsFirst value)).map Site.value := by
  induction value using nested with
  | foreign value foreign =>
    rw [first?_foreign holds foreign,sites_foreign foreign]
    rfl
  | sound value element read ih =>
    rw [first?_sound holds read,sites_parentsFirst read,firstSite?_cons,firstAmong?_sites ih 0]
    split <;> rfl

theorem isNamed_text (id : String) (element : Element) : isNamed (.text id) element = (element.id == some id) := by
  rw [isNamed]
  cases element.id <;> rfl

theorem find?_sites (id : String) (root : Value) : find? (.text id) root =
    ((sites .parentsFirst root).find? fun site => site.element.id == some id).map Site.value := by
  rw [find?,first?_sites,firstSite?]
  simp only [isNamed_text]

theorem ids_sites (root : Value) : ids root = (sites .parentsFirst root).filterMap (·.element.id) := gather_sites root _

theorem find?_none : find? (.text id) root = none ↔ id ∉ ids root := by
  rw [find?_sites,Option.map_eq_none_iff,List.find?_eq_none,ids_sites,List.mem_filterMap,not_exists]
  simp

theorem get_found {value : Value} (found : find? (.text id) root = some value) (host : Host) :
    get (.text id) root host = .ok value := by
  rw [get,found]
  rfl

theorem get_missing (missing : find? (.text id) root = none) (host : Host) :
    get (.text id) root host = .error (.missingElement id) := by
  rw [get,missing]
  rfl

theorem count_sites (root : Value) : count root = (sites .parentsFirst root).length := by
  have counted (found : List Site) (n : Nat) :
      found.foldl (Site.visitBy fun _ _ n => n + 1) n = n + found.length := by
    induction found generalizing n with
    | nil => rfl
    | cons site rest ih => rw [List.foldl_cons,ih,List.length_cons,Site.visitBy]; omega
  rw [count,fold_sites,counted,Nat.zero_add]

-- How often each kind occurs, under its name.
def tally (kinds : List Kind) : Fields Nat :=
  kinds.foldl (fun counts kind => Fields.put kind.name ((Fields.get? kind.name counts).getD 0 + 1) counts) []

theorem countByKind_sites (root : Value) : countByKind root = tally ((sites .parentsFirst root).map (·.element.kind)) := by
  rw [countByKind,fold_sites,tally,List.foldl_map]
  rfl

theorem tally_append (kinds : List Kind) (kind : Kind) : tally (kinds ++ [kind]) =
    Fields.put kind.name ((Fields.get? kind.name (tally kinds)).getD 0 + 1) (tally kinds) := List.foldl_append

-- A kind that does not occur is not listed.
def listedCount (n : Nat) : Option Nat := if 0 < n then some n else none

theorem getD_listedCount (n : Nat) : (listedCount n).getD 0 = n := by
  rw [listedCount]
  split
  · rfl
  · rename_i none
    exact (Nat.eq_zero_of_not_pos none).symm

theorem get?_tally (kind : Kind) (kinds : List Kind) :
    Fields.get? kind.name (tally kinds) = listedCount (kinds.count kind) := by
  induction kinds using List.reverseRecOn with
  | nil => rfl
  | append_singleton kinds last ih =>
    rw [tally_append,Fields.get?_put,List.count_append,List.count_singleton]
    by_cases same : last = kind
    · subst same
      rw [if_pos rfl,ih,getD_listedCount,if_pos (beq_self_eq_true last),listedCount,if_pos (Nat.succ_pos _)]
    · have apart : last.name ≠ kind.name := fun named => same (Kind.name_injective _ _ named)
      rw [if_neg apart,ih,beq_false_of_ne same]
      rfl

theorem keys_tally {name : String} {kinds : List Kind} (listed : name ∈ Fields.keys (tally kinds)) :
    ∃ kind ∈ kinds, name = kind.name := by
  induction kinds using List.reverseRecOn with
  | nil => cases listed
  | append_singleton kinds last ih =>
    rw [tally_append] at listed
    rcases Fields.mem_keys_put.mp listed with rfl | before
    · exact ⟨last,by simp,rfl⟩
    · obtain ⟨kind,there,rfl⟩ := ih before
      exact ⟨kind,List.mem_append_left _ there,rfl⟩

-- What the walks and queries of a tree have to do with a list of its sites.
structure Queried (root : Value) (all : List Site) : Prop where
  reached : ∀ site, site ∈ all ↔ follow site.way root = some site.value ∧ ofValue? site.value = some site.element
  ordered : all.Pairwise fun site later => Precedes .parentsFirst site.way later.way
  walked : ∀ {α : Type} (visit : Value → Element → α → α) (held : α),
    fold .parentsFirst visit root held = all.foldl (Site.visitBy visit) held
  found : ∀ id, find? (.text id) root = (all.find? fun site => site.element.id == some id).map Site.value
  got : ∀ id host, id ∈ ids root → ∃ value, find? (.text id) root = some value ∧ get (.text id) root host = .ok value
  missed : ∀ id host, id ∉ ids root → get (.text id) root host = .error (.missingElement id)
  counted : count root = all.length
  kinds : ∀ kind, Fields.get? kind.name (countByKind root) = listedCount (all.countP (·.element.kind = kind))
  noOther : ∀ name ∈ Fields.keys (countByKind root), ∃ kind : Kind, name = kind.name
  ids : ids root = all.filterMap (·.element.id)
  styles : styles root = all.filterMap (·.element.style)
  -- With children first the same sites are visited, none before what is inside it, and what one element holds in its order.
  childrenFirst : ∃ visited : List Site,
    (∀ {α : Type} (visit : Value → Element → α → α) (held : α),
      fold .childrenFirst visit root held = visited.foldl (Site.visitBy visit) held) ∧
    visited.Perm all ∧ (visited.Pairwise fun site later => ¬ Above site.way later.way) ∧
    visited.Pairwise fun site later => ∀ stem i j, site.way = stem ++ [i] → later.way = stem ++ [j] → i < j

theorem queried_parentsFirst (root : Value) : Queried root (sites .parentsFirst root) where
  reached _ := mem_sites
  ordered := sites_ordered .parentsFirst root
  walked visit held := fold_sites .parentsFirst visit root held
  found id := find?_sites id root
  got id host named := by
    cases found : find? (.text id) root with
    | none => exact absurd named (find?_none.mp found)
    | some value => exact ⟨value,rfl,get_found found host⟩
  missed id host fresh := get_missing (find?_none.mpr fresh) host
  counted := count_sites root
  kinds kind := by
    have many : (sites .parentsFirst root).countP (·.element.kind = kind) =
        ((sites .parentsFirst root).map (·.element.kind)).count kind := by
      rw [List.count,List.countP_map]
      rfl
    rw [countByKind_sites,get?_tally,many]
  noOther name listed := by
    rw [countByKind_sites] at listed
    obtain ⟨kind,_,same⟩ := keys_tally listed
    exact ⟨kind,same⟩
  ids := ids_sites root
  styles := gather_sites root _
  childrenFirst := by
    have ordered := sites_ordered .childrenFirst root
    refine ⟨sites .childrenFirst root,fun visit held => fold_sites .childrenFirst visit root held,sites_perm root,
      ordered.imp Precedes.not_above,ordered.imp ?_⟩
    intro site later precedes stem i j here there
    rw [here,there] at precedes
    exact precedes.siblings

def remark (id : String) : Value := .object [("type",.text "text"), ("id",.text id), ("visible",.bool true)]

def shelf (id : String) (children : List Value) : Value :=
  .object [("type",.text "vbox"), ("id",.text id), ("visible",.bool true), ("spacing",.number 0), ("children",.list children)]

theorem remark_sound (id : String) : ofValue? (remark id) = some ⟨some id,none,true,.text none⟩ := rfl

theorem shelf_sound (id : String) (children : List Value) :
    ofValue? (shelf id children) = some ⟨some id,none,true,.vbox ⟨children,0,none,none,none⟩⟩ := rfl

-- A shelf with a remark in front of another shelf, which has one too, and something foreign at the end.
def shelves : Value := shelf "top" [remark "a", shelf "low" [remark "b"], .text "dust"]

theorem queried_parentsFirst_shelves : ids shelves = ["top", "a", "low", "b"] ∧ count shelves = 4 ∧
    (∀ kind, Fields.get? kind.name (countByKind shelves) =
      listedCount ([Kind.vbox, .text, .vbox, .text].countP (· = kind))) ∧
    find? (.text "low") shelves = some (shelf "low" [remark "b"]) ∧ follow [1,0] shelves = some (remark "b") ∧
    get (.text "dust") shelves .silent = .error (.missingElement "dust") := by
  have foreign : sites .parentsFirst (.text "dust") = [] := sites_foreign rfl
  have all : sites .parentsFirst shelves =
      [⟨[],shelves,⟨some "top",none,true,.vbox ⟨[remark "a", shelf "low" [remark "b"], .text "dust"],0,none,none,none⟩⟩⟩,
        ⟨[0],remark "a",⟨some "a",none,true,.text none⟩⟩,
        ⟨[1],shelf "low" [remark "b"],⟨some "low",none,true,.vbox ⟨[remark "b"],0,none,none,none⟩⟩⟩,
        ⟨[1,0],remark "b",⟨some "b",none,true,.text none⟩⟩] := by
    rw [shelves,sites_parentsFirst (shelf_sound _ _)]
    simp only [Element.contents,Body.contents,sitesAll,sites_parentsFirst (shelf_sound _ _),sites_parentsFirst (remark_sound _),
      foreign]
    rfl
  obtain ⟨reached,-,-,found,-,missed,counted,kinds,-,ids_,-,-⟩ := queried_parentsFirst shelves
  rw [all] at reached found counted kinds ids_
  have deepest := (reached _).mp (List.mem_of_getElem? (i := 3) rfl)
  exact ⟨ids_,counted,kinds,found "low",deepest.1,missed _ _ (by rw [ids_]; decide)⟩

end Trifold.Tree
