import Mathlib.Data.List.Dedup
import Trifold.Proofs.Element.Queries

namespace Trifold.Tree
open Element

variable {root : Value} {seen names : List String} {id : String}

theorem distinct_append (names : List String) (name : String) : distinct (names ++ [name]) =
    if (distinct names).contains name then distinct names else distinct names ++ [name] := by
  rw [distinct,List.foldl_append]
  rfl

-- Of equal names the first stays, so counting what stays tells whether any were equal.
theorem distinct_eq (names : List String) : distinct names = names.reverse.dedup.reverse := by
  induction names using List.reverseRecOn with
  | nil => rfl
  | append_singleton names last ih =>
    rw [distinct_append,List.reverse_append,List.reverse_singleton,List.singleton_append]
    by_cases there : last ∈ names
    · have listed : last ∈ names.reverse := List.mem_reverse.mpr there
      rw [List.dedup_cons_of_mem listed,← ih,if_pos]
      simpa [ih] using there
    · have fresh : last ∉ names.reverse := mt List.mem_reverse.mp there
      rw [List.dedup_cons_of_notMem fresh,List.reverse_cons,← ih,if_neg]
      simpa [ih] using there

theorem length_distinct : (distinct names).length = names.length ↔ names.Nodup := by
  rw [distinct_eq,List.length_reverse,← @List.length_reverse _ names,(List.dedup_sublist _).length_eq,List.dedup_eq_self,
    List.nodup_reverse]

theorem duplicateId_iff : Issue.duplicateId ∈ issues root ↔ ¬ (ids root).Nodup := by
  have others : Issue.duplicateId ∉ (if any root isBareInput then [Issue.missingIdOnTextInput] else []) ++
      (if any root isEmptyLayout then [Issue.emptyLayout] else []) := by
    split <;> split <;> decide
  rw [issues,List.append_assoc,List.mem_append,or_iff_left others,← length_distinct]
  split
  · rename_i differ
    exact ⟨fun _ => bne_iff_ne.mp differ,fun _ => List.mem_singleton_self _⟩
  · rename_i equal
    exact ⟨nofun,fun differ => absurd (bne_iff_ne.mpr differ) equal⟩

theorem firstRepeat_some (repeated : firstRepeat seen names = some id) : ∃ before after,
    names = before ++ id :: after ∧ firstRepeat seen before = none ∧ (id ∈ before ∨ id ∈ seen) := by
  induction names generalizing seen with
  | nil => cases repeated
  | cons name rest ih =>
    rw [firstRepeat] at repeated
    split at repeated
    · rename_i there
      cases repeated
      exact ⟨[],rest,rfl,rfl,.inr (List.contains_iff_mem.mp there)⟩
    · rename_i fresh
      obtain ⟨before,after,rfl,unique,again⟩ := ih repeated
      refine ⟨name :: before,after,rfl,?_,?_⟩
      · rw [firstRepeat,if_neg fresh,unique]
      · rw [List.mem_cons] at again ⊢
        tauto

theorem owners_of (root : Value) (id : String) : ((owners root).filter (·.1 == id)).map (·.2) =
    ((elements root).filter (·.id == some id)).map (·.kind) := by
  rw [owners,gather_inOrder]
  induction elements root with
  | nil => rfl
  | cons element rest ih =>
    rw [List.filterMap_cons,List.filter_cons]
    cases element.id with
    | none => exact ih
    | some name =>
      by_cases same : name = id
      · simpa [same] using ih
      · simpa [same] using ih

theorem verifyUniqueIds_error {fault : Fault} (stopped : verifyUniqueIds root = .error fault) :
    ∃ id before after, ids root = before ++ id :: after ∧ before.Nodup ∧ id ∈ before ∧
      fault = .duplicateId id (((elements root).filter (·.id == some id)).map (·.kind)) := by
  rw [verifyUniqueIds,owners_ids] at stopped
  split at stopped
  · cases stopped
  · rename_i id repeated
    cases stopped
    obtain ⟨before,after,parted,unique,again⟩ := firstRepeat_some repeated
    rw [List.mem_nil_iff,or_false] at again
    exact ⟨id,before,after,parted,(firstRepeat_none.mp unique).1,again,by rw [owners_of]⟩

theorem verifyLabels_ok : verifyLabels root = .ok () ↔ ∀ target ∈ gather root labelTarget?, target ∈ inputIds root := by
  rw [verifyLabels]
  split
  · rename_i all
    simpa using all
  · rename_i target found
    have missing := List.find?_some found
    refine ⟨nofun,fun each => ?_⟩
    have there := each target (List.mem_of_find?_eq_some found)
    simp [there] at missing

theorem verify_ok : verify root = .ok () ↔ (ids root).Nodup ∧ ∀ target ∈ gather root labelTarget?, target ∈ inputIds root := by
  rw [← verifyUniqueIds_ok,← verifyLabels_ok,verify]
  cases verifyUniqueIds root with
  | error fault => exact ⟨nofun,fun both => nomatch both.1⟩
  | ok => exact ⟨fun labels => ⟨rfl,labels⟩,And.right⟩

-- Where ids are not repeated, a search by an id finds the one site that has it.
theorem find?_unique {site : Site} (unique : (ids root).Nodup) (there : site ∈ sites .parentsFirst root)
    (named : site.element.id = some id) : find? (.text id) root = some site.value := by
  rw [ids_sites] at unique
  rw [find?_sites]
  cases found : (sites .parentsFirst root).find? fun site => site.element.id == some id with
  | none => exact absurd (beq_iff_eq.mpr named) (List.find?_eq_none.mp found site there)
  | some first =>
    obtain ⟨hit,before,after,parted,earlier⟩ := List.find?_eq_some_iff_append.mp found
    have within := List.filterMap_cons_some (f := fun site : Site => site.element.id) (l := after) (beq_iff_eq.mp hit)
    rw [parted,List.filterMap_append,within] at unique
    rw [parted,List.mem_append,List.mem_cons] at there
    rcases there with front | rfl | behind
    · simpa [named] using earlier site front
    · rfl
    · have again : id ∈ after.filterMap (·.element.id) := List.mem_filterMap.mpr ⟨site,behind,named⟩
      exact absurd again (List.nodup_cons.mp (List.nodup_append.mp unique).2.1).1

-- What the checks of a tree say of its ids and labels.
structure Checked (root : Value) : Prop where
  stopped : (∃ fault, verifyUniqueIds root = .error fault ∧ fault.code? = some "UI_DUPLICATE_ID") ↔
    Issue.duplicateId ∈ issues root
  repeated : Issue.duplicateId ∈ issues root ↔ ¬ (ids root).Nodup
  named : ∀ fault, verifyUniqueIds root = .error fault → ∃ id before after, ids root = before ++ id :: after ∧
    before.Nodup ∧ id ∈ before ∧ fault = .duplicateId id (((elements root).filter (·.id == some id)).map (·.kind))
  resolved : verify root = .ok () → ∀ element ∈ elements root, ∀ target caption, element.body = .label (some target) caption →
    ∃ value input, find? (.text target) root = some value ∧ ofValue? value = some input ∧ input.kind = .textInput ∧
      input.id = some target

theorem duplicates_checked (root : Value) : Checked root where
  stopped := by
    rw [duplicateId_iff,← verifyUniqueIds_ok]
    cases ended : verifyUniqueIds root with
    | ok => exact ⟨fun ⟨_,stopped,_⟩ => (nomatch stopped),fun passes => absurd rfl passes⟩
    | error fault =>
      obtain ⟨id,before,after,_,_,_,rfl⟩ := verifyUniqueIds_error ended
      exact ⟨fun _ => nofun,fun _ => ⟨_,rfl,rfl⟩⟩
  repeated := duplicateId_iff
  named _ stopped := verifyUniqueIds_error stopped
  resolved passes element listed target caption label := by
    obtain ⟨unique,labels⟩ := verify_ok.mp passes
    rw [gather_inOrder,inputIds,gather_sites] at labels
    have wanted : target ∈ (elements root).filterMap labelTarget? :=
      List.mem_filterMap.mpr ⟨element,listed,by rw [labelTarget?,label]⟩
    obtain ⟨site,there,given⟩ := List.mem_filterMap.mp (labels target wanted)
    split at given
    · rename_i kind
      exact ⟨site.value,site.element,find?_unique unique there given,(mem_sites.mp there).2,kind,given⟩
    · cases given

def ask : Value :=
  .object [("type",.text "label"), ("id",.text "ask"), ("visible",.bool true), ("for",.text "mail")]

def reply (id : String) : Value :=
  .object [("type",.text "textInput"), ("id",.text id), ("visible",.bool true), ("inputType",.text "text"),
    ("disabled",.bool false)]

theorem ask_sound : ofValue? ask = some ⟨some "ask",none,true,.label (some "mail") none⟩ := rfl

theorem reply_sound (id : String) :
    ofValue? (reply id) = some ⟨some id,none,true,.textInput ⟨none,none,"text",none,none,false,none⟩⟩ := rfl

theorem elements_asked (id : String) : elements (shelf "top" [ask, reply id]) =
    [⟨some "top",none,true,.vbox ⟨[ask, reply id],0,none,none,none⟩⟩, ⟨some "ask",none,true,.label (some "mail") none⟩,
      ⟨some id,none,true,.textInput ⟨none,none,"text",none,none,false,none⟩⟩] := by
  rw [elements_sound (shelf_sound _ _)]
  simp only [Element.contents,Body.contents,elementsAll_cons,elementsAll_nil,elements_sound ask_sound,
    elements_sound (reply_sound _)]
  rfl

-- A label and its input, and the same with the input under the name of the shelf.
theorem duplicates_checked_asked :
    (∃ value input, find? (.text "mail") (shelf "top" [ask, reply "mail"]) = some value ∧ ofValue? value = some input ∧
      input.kind = .textInput ∧ input.id = some "mail") ∧
    verifyUniqueIds (shelf "top" [ask, reply "top"]) = .error (.duplicateId "top" [.vbox, .textInput]) ∧
    Issue.duplicateId ∈ issues (shelf "top" [ask, reply "top"]) := by
  refine ⟨?_,?_⟩
  · have passes : verify (shelf "top" [ask, reply "mail"]) = .ok () := by
      rw [verify_ok,ids_inOrder,gather_inOrder,inputIds,gather_inOrder,elements_asked]
      decide
    refine (duplicates_checked _).resolved passes ⟨some "ask",none,true,.label (some "mail") none⟩ ?_ "mail" none rfl
    rw [elements_asked]
    exact List.mem_of_getElem? (i := 1) rfl
  · have stopped : verifyUniqueIds (shelf "top" [ask, reply "top"]) = .error (.duplicateId "top" [.vbox, .textInput]) := by
      rw [verifyUniqueIds,owners,gather_inOrder,elements_asked]
      rfl
    exact ⟨stopped,(duplicates_checked _).stopped.mp ⟨_,stopped,rfl⟩⟩

end Trifold.Tree
