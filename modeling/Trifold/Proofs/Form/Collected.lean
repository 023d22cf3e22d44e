import Mathlib.Data.List.Dedup
import Trifold.Proofs.Element.Queries
import Trifold.Proofs.Form.Secret

namespace Trifold.Form
open Value
open Trifold.Tree (follow sites mem_sites Precedes)
open Element (ofValue?)

-- A text input with an id: the way that leads to it, its id and what stands in it.
structure Input where
  way : List Nat
  id : String
  typed : Option String

-- All on the way are elements, and the last of them is a text input that names the form.
inductive Input.Stands (root formId : Value) : Input → Prop
  | joins {way : List Nat} {value : Value} {element : Element} {input : TextInput} {id : String}
      (led : follow way root = some value) (sound : ofValue? value = some element) (kind : element.body = .textInput input)
      (joined : ofText? input.formId = formId) (named : element.id = some id) : Stands root formId ⟨way,id,input.value⟩

variable {root formId : Value} {element : Element} {input : Input}

theorem isSame_ofText? {s : Option String} {value : Value} : isSame (ofText? s) value = true ↔ ofText? s = value := by
  cases s <;> cases value <;> simp [isSame,ofText?,ofOption]

theorem member?_eq_some {id : String} {typed : Option String} : member? formId element = some (id,typed) ↔
    ∃ input, element.body = .textInput input ∧ ofText? input.formId = formId ∧ element.id = some id ∧ input.value = typed := by
  obtain ⟨_,_,_,body⟩ := element
  cases body with
  | textInput input => simp [member?,isSame_ofText?]
  | _ => simp [member?]

def inputs (root formId : Value) : List Input :=
  (sites .parentsFirst root).filterMap fun site =>
    (member? formId site.element).map fun (id,typed) => ⟨site.way,id,typed⟩

theorem mem_inputs : input ∈ inputs root formId ↔ input.Stands root formId := by
  simp only [inputs,List.mem_filterMap,Option.map_eq_some_iff,Prod.exists,mem_sites]
  constructor
  · rintro ⟨site,⟨led,sound⟩,id,typed,member,rfl⟩
    obtain ⟨input,kind,joined,named,rfl⟩ := member?_eq_some.mp member
    exact .joins led sound kind joined named
  · rintro ⟨led,sound,kind,joined,named⟩
    exact ⟨⟨_,_,_⟩,⟨led,sound⟩,_,_,member?_eq_some.mpr ⟨_,kind,joined,named,rfl⟩,rfl⟩

theorem inputs_ordered (root formId : Value) :
    (inputs root formId).Pairwise fun input later => Precedes .parentsFirst input.way later.way := by
  apply (Tree.sites_ordered .parentsFirst root).filterMap
  intro site later precedes input there input' there'
  obtain ⟨_,_,rfl⟩ := Option.map_eq_some_iff.mp there
  obtain ⟨_,_,rfl⟩ := Option.map_eq_some_iff.mp there'
  exact precedes

theorem members_inputs (root formId : Value) :
    members root formId = (inputs root formId).map fun input => (input.id,input.typed) := by
  rw [members,Tree.gather_sites,inputs,List.map_filterMap]
  simp only [Option.map_map,Function.comp_def,Prod.mk.eta,Option.map_id']

theorem inputIds_inputs (root formId : Value) : inputIds root formId = (inputs root formId).map Input.id := by
  rw [inputIds,members_inputs,List.map_map]
  rfl

def latest (id : String) (all : List Input) : Option Input := (all.filter (·.id = id)).getLast?

def entry (input : Input) : String × Value := (input.id,fieldValue input.typed)

theorem get?_entries (id : String) (all : List Input) :
    Fields.get? id (Fields.ofEntries (all.map entry)) = (latest id all).map fun input => fieldValue input.typed := by
  rw [Fields.get?_ofEntries,List.filter_map,List.getLast?_map,Option.map_map]
  rfl

theorem keys_entries (all : List Input) : Fields.keys (all.map entry) = all.map Input.id := by
  rw [Fields.keys,List.map_map]
  rfl

theorem collect_entries (named : ∀ input ∈ inputs root formId, input.id ≠ baseName) : collect root formId =
    .ok (object ((Fields.ofEntries ((inputs root formId).map entry)).map Payload.covered)) := by
  have apart : ∀ it ∈ (inputs root formId).map entry, it.1 ≠ baseName := List.forall_mem_map.mpr named
  have kept : ∀ it ∈ Fields.ofEntries ((inputs root formId).map entry), it.1 ≠ baseName := fun it there =>
    apart it ((Fields.mem_putAll there).resolve_left List.not_mem_nil)
  have assigned : assignAll false ((inputs root formId).map entry) =
      .ok (object (Fields.ofEntries ((inputs root formId).map entry))) := assignAll_named false apart []
  rw [collect,members_inputs,List.map_map]
  change (assignAll false ((inputs root formId).map entry) >>= fun data => Payload.redactedFields (own data)) = _
  rw [assigned]
  exact Payload.redactedFields_named kept (Fields.ordered_ofEntries _) (Fields.nodup_ofEntries _)

-- What the two queries of a form have to do with the inputs that stand in the tree.
structure Collected (root formId : Value) (all : List Input) (data : Fields Value) : Prop where
  standing : ∀ input, input ∈ all ↔ input.Stands root formId
  ordered : all.Pairwise fun input later => Precedes .parentsFirst input.way later.way
  ids : inputIds root formId = all.map Input.id
  names : (Fields.keys data).Perm (inputIds root formId).dedup
  values : ∀ id, Fields.get? id data = (latest id all).map fun input =>
    if Payload.isSensitive id then text Payload.redacted else (input.typed.map text).getD null

-- Collecting gives a record whose names are the distinct ids of the form, each with the value of its last input: null where
-- nothing stands in that, and covered where the id is sensitive.
theorem collect_agrees (named : ∀ input : Input, input.Stands root formId → input.id ≠ baseName) :
    ∃ all data, collect root formId = .ok (object data) ∧ Collected root formId all data := by
  refine ⟨inputs root formId,_,collect_entries fun input there => named input (mem_inputs.mp there),?_⟩
  refine ⟨fun _ => mem_inputs,inputs_ordered root formId,inputIds_inputs root formId,?_,?_⟩
  · rw [Payload.keys_covered,inputIds_inputs]
    apply (List.perm_ext_iff_of_nodup (Fields.nodup_ofEntries _) (List.nodup_dedup _)).mpr
    intro id
    rw [Fields.mem_keys_ofEntries,keys_entries,List.mem_dedup]
  · intro id
    rw [Payload.get?_covered,get?_entries,Option.map_map]
    rfl

def typing (id : Option String) (form : String) (typed : Option String) : Value :=
  object [("type",text "textInput"), ("id",ofText? id), ("visible",.bool true), ("inputType",text "text"),
    ("value",ofText? typed), ("disabled",.bool false), ("formId",text form)]

def row (children : List Value) : Value :=
  object [("type",text "hbox"), ("visible",.bool true), ("spacing",number 0), ("children",list children)]

def signup : Value :=
  row [typing (some "email") "signup" (some "ann@example.com"),
    row [typing (some "password") "signup" (some "test-secret"), typing (some "email") "signup" none],
    typing none "signup" (some "no id"), typing (some "query") "search" (some "shoes"),
    object [("children",list [typing (some "nickname") "signup" (some "ann")])]]

theorem typing_sound (id : Option String) (form : String) (typed : Option String) : ofValue? (typing id form typed) =
    some ⟨id,none,true,.textInput ⟨typed,none,"text",none,none,false,some form⟩⟩ := by
  cases id <;> cases typed <;> rfl

theorem row_sound (children : List Value) : ofValue? (row children) =
    some ⟨none,none,true,.hbox ⟨children,0,none,none,none⟩⟩ := rfl

theorem signup_members : members signup (text "signup") =
    [("email",some "ann@example.com"), ("password",some "test-secret"), ("email",none)] := by
  have outside : Tree.elements (object [("children",list [typing (some "nickname") "signup" (some "ann")])]) = [] := by
    rw [Tree.elements,Tree.inOrder_foreign rfl]
    rfl
  rw [members,Tree.gather_inOrder,signup]
  simp only [Tree.elements_sound (row_sound _),Tree.elements_sound (typing_sound _ _ _),Tree.elementsAll_cons,
    Element.contents,Body.contents,outside,Tree.elementsAll_nil,List.append_nil]
  rfl

theorem collect_agrees_signup : (∀ input : Input, input.Stands signup (text "signup") → input.id ≠ baseName) ∧
    ∃ all, Collected signup (text "signup") all [("email",null), ("password",text "[REDACTED]")] := by
  have named : ∀ input : Input, input.Stands signup (text "signup") → input.id ≠ baseName := by
    intro input stands
    have there := List.mem_map_of_mem (f := fun input : Input => (input.id,input.typed)) (mem_inputs.mpr stands)
    rw [← members_inputs,signup_members] at there
    simp at there
    rcases there with same | same | same <;> rw [same.1] <;> decide
  have computed : collect signup (text "signup") = .ok (object [("email",null), ("password",text "[REDACTED]")]) := by
    rw [collect,signup_members]
    rfl
  obtain ⟨all,data,collected,agrees⟩ := collect_agrees named
  cases computed.symm.trans collected
  exact ⟨named,all,agrees⟩

end Trifold.Form
