import Trifold.Form.Fields
import Trifold.Platform.Helpers
import Trifold.Proofs.Element.Slot
import Trifold.Proofs.Element.Tree
import Trifold.Proofs.Payload.Secret

namespace Trifold.Form
open Value
open Element (ofValue? get_of_sound kind_of_get slot?_apart)
open Payload (isSensitive isBase)

-- Two trees that are the same but for what stands in text inputs with a sensitive id.
inductive Veiled : Value → Value → Prop
  | same (value : Value) : Veiled value value
  | input {a b : Value} {element element' : Element} {id : String} (sound : ofValue? a = some element)
      (sound' : ofValue? b = some element') (kind : element.kind = .textInput) (named : element.id = some id)
      (sensitive : isSensitive id = true) (others : ∀ key, key ≠ "value" → a.get key = b.get key) : Veiled a b
  | inside {a b : Value} {element element' : Element} {slot : String} (sound : ofValue? a = some element)
      (sound' : ofValue? b = some element') (kept : element.kind.slot? = some slot)
      (others : ∀ key, key ≠ slot → a.get key = b.get key) (counted : element.contents.length = element'.contents.length)
      (each : ∀ i (inside : i < element.contents.length) (inside' : i < element'.contents.length),
        Veiled element.contents[i] element'.contents[i]) : Veiled a b

def shown? (formId : Value) (element : Element) : Option (String × Value) :=
  (member? formId element).map fun (id,value) => Payload.covered (id,fieldValue value)

variable {a b : Value} {element element' : Element} {id slot : String}

theorem shown?_slot (kept : element.kind.slot? = some slot) (formId : Value) : shown? formId element = none := by
  obtain ⟨_,_,_,body⟩ := element
  cases body <;> first | rfl | cases kept

theorem written_same {key : String} {written written' : Value} (sound : ofValue? a = some element)
    (sound' : ofValue? b = some element') (listed : Fields.get? key element.allFields = some written)
    (listed' : Fields.get? key element'.allFields = some written') (same : a.get key = b.get key) : written = written' := by
  rw [← get_of_sound sound listed,← get_of_sound sound' listed',same]

theorem shown?_input (sound : ofValue? a = some element) (sound' : ofValue? b = some element')
    (kind : element.kind = .textInput) (kind' : element'.kind = .textInput) (named : element.id = some id)
    (sensitive : isSensitive id = true) (others : ∀ key, key ≠ "value" → a.get key = b.get key) (formId : Value) :
    shown? formId element = shown? formId element' := by
  have ids : ofText? element.id = ofText? element'.id := written_same sound sound' rfl rfl (others "id" (by decide))
  obtain ⟨_,style,visible,body⟩ := element
  obtain ⟨id',style',visible',body'⟩ := element'
  cases body <;> cases kind
  cases body' <;> cases kind'
  rename_i input input'
  have forms : ofText? input.formId = ofText? input'.formId :=
    written_same sound sound' rfl rfl (others "formId" (by decide))
  cases named
  cases id' with
  | none => cases ids
  | some id' =>
    cases ids
    simp only [shown?,member?,forms]
    split
    · simp [Payload.covered,sensitive]
    · rfl

-- What a tree shows of a form, in order.
def shown (formId root : Value) : List (String × Value) := (Tree.elements root).filterMap (shown? formId)

def shownAll (formId : Value) (roots : List Value) : List (String × Value) :=
  (Tree.elementsAll roots).filterMap (shown? formId)

theorem shown_sound (sound : ofValue? a = some element) (formId : Value) :
    shown formId a = (shown? formId element).toList ++ shownAll formId element.contents := by
  rw [shown,Tree.elements_sound sound,List.filterMap_cons]
  cases shown? formId element <;> rfl

theorem shownAll_cons (formId root : Value) (rest : List Value) :
    shownAll formId (root :: rest) = shown formId root ++ shownAll formId rest := by
  rw [shownAll,Tree.elementsAll_cons,List.filterMap_append]
  rfl

theorem shownAll_same {formId : Value} {roots roots' : List Value}
    (each : List.Forall₂ (fun a b => shown formId a = shown formId b) roots roots') :
    shownAll formId roots = shownAll formId roots' := by
  induction each with
  | nil => rfl
  | cons here _ ih => rw [shownAll_cons,shownAll_cons,here,ih]

theorem shown_same (veiled : Veiled a b) (formId : Value) : shown formId a = shown formId b := by
  induction veiled with
  | same => rfl
  | @input a b element element' id sound sound' kind named sensitive others =>
    have bare {element : Element} (kind : element.kind = .textInput) : element.contents = [] := by
      obtain ⟨_,_,_,body⟩ := element
      cases body <;> cases kind
      rfl
    have kind' := (kind_of_get sound sound' (others "type" (by decide))).trans kind
    rw [shown_sound sound,shown_sound sound',bare kind,bare kind',
      shown?_input sound sound' kind kind' named sensitive others]
  | @inside a b element element' slot sound sound' kept others counted each ih =>
    have apart := slot?_apart kept
    have kind := kind_of_get sound sound' (others "type" fun same => apart (same ▸ List.mem_cons_self))
    rw [shown_sound sound,shown_sound sound',shown?_slot kept,shown?_slot (kind ▸ kept)]
    exact congrArg _ (shownAll_same (List.forall₂_iff_get.mpr ⟨counted,ih⟩))

def collected (root formId : Value) : List (String × Value) :=
  (members root formId).map fun (id,value) => (id,fieldValue value)

theorem collected_flat (root formId : Value) : ∀ entry ∈ collected root formId, isBase entry.2 = false := by
  refine List.forall_mem_map.mpr ?_
  rintro ⟨id,value⟩ _
  cases value <;> rfl

theorem collected_covered (root formId : Value) : (collected root formId).map Payload.covered = shown formId root := by
  rw [collected,members,Tree.gather_inOrder,List.map_map,List.map_filterMap]
  rfl

theorem collect_same (veiled : Veiled a b) (formId : Value) :
    ∃ data, collect a formId = .ok data ∧ collect b formId = .ok data := by
  have same : (collected a formId).map Payload.covered = (collected b formId).map Payload.covered := by
    rw [collected_covered,collected_covered,shown_same veiled]
  exact Payload.redacted_assigned (collected_flat a formId) (collected_flat b formId) same

theorem submit_same {data data' : Value} (there : data.isMissing = false) (there' : data'.isMissing = false)
    (same : Payload.Covered (own data) (own data')) (formId options : Value) (platform : Platform) (stamp stamp' : Stamp)
    (host : Host) :
    Agree.Outcome (Agree.Outcome Signal.Restamped)
      ((do (← RawEvent.formSubmit formId data).toSignal stamp platform options) host)
      ((do (← RawEvent.formSubmit formId data').toSignal stamp' platform options) host) := by
  have raised : RawEvent.formSubmit formId data host = RawEvent.formSubmit formId data' host := by
    refine Agree.Outcome.eq (.bind (.of_eq (Payload.redact_same there there' same)) ?_)
    rintro redacted _ rfl
    exact .ok rfl
  refine .bind (.of_eq raised) ?_
  rintro event _ rfl
  exact Event.toSignal_restamped ..

-- Neither collecting nor submitting a form lets through what is sensitive in it: the data is the same, and so is the signal
-- up to its id and time, or the reason why there is none.
theorem secrets_kept :
    (∀ a b, Veiled a b → ∀ formId, ∃ data, collect a formId = .ok data ∧ collect b formId = .ok data) ∧
    ∀ data data' : Value, data.isMissing = false → data'.isMissing = false → Payload.Covered (own data) (own data') →
      ∀ formId options platform stamp stamp' host, Agree.Outcome (Agree.Outcome Signal.Restamped)
        ((do (← RawEvent.formSubmit formId data).toSignal stamp platform options) host)
        ((do (← RawEvent.formSubmit formId data').toSignal stamp' platform options) host) :=
  ⟨fun _ _ => collect_same,fun _ _ => submit_same⟩

def password (typed : Value) : Value :=
  object [("type",text "textInput"), ("id",text "Password"), ("visible",.bool true), ("inputType",text "password"),
    ("value",typed), ("disabled",.bool false), ("formId",text "login")]

def user : Value :=
  object [("type",text "textInput"), ("id",text "user"), ("visible",.bool true), ("inputType",text "text"),
    ("value",text "ada"), ("disabled",.bool false), ("formId",text "login")]

def page (typed : Value) : Value :=
  object [("type",text "vbox"), ("visible",.bool true), ("spacing",number 0), ("children",list [user, password typed])]

def account (typed : Value) : Value := object [("user",text "ada"), ("Password",typed)]

theorem secrets_kept_login : Veiled (page (text "one")) (page absent) ∧
    (∃ data, collect (page (text "one")) (text "login") = .ok data ∧ collect (page absent) (text "login") = .ok data) ∧
    Payload.Covered (own (account (text "one"))) (own (account (object []))) ∧
    Agree.Outcome (Agree.Outcome Signal.Restamped)
      ((do (← RawEvent.formSubmit (text "login") (account (text "one"))).toSignal ⟨"1","now"⟩ .web absent) .silent)
      ((do (← RawEvent.formSubmit (text "login") (account (object []))).toSignal ⟨"2","later"⟩ .web absent) .silent) := by
  have input (typed : Option String) : ofValue? (password (ofText? typed)) =
      some ⟨some "Password",none,true,.textInput ⟨typed,none,"password",none,none,false,some "login"⟩⟩ := by
    cases typed <;> rfl
  have box (typed : Value) : ofValue? (page typed) =
      some ⟨none,none,true,.vbox ⟨[user, password typed],0,none,none,none⟩⟩ := rfl
  have typed : Veiled (password (text "one")) (password absent) := by
    refine .input (input (some "one")) (input none) rfl rfl (by decide) ?_
    intro key apart
    simp [password,object,Value.get,Fields.get?,apart.symm]
  have veiled : Veiled (page (text "one")) (page absent) := by
    have each : List.Forall₂ Veiled [user, password (text "one")] [user, password absent] :=
      .cons (.same user) (.cons typed .nil)
    refine @Veiled.inside _ _ _ _ "children" (box _) (box _) rfl ?_ rfl (List.forall₂_iff_get.mp each).2
    intro key apart
    simp [page,object,Value.get,Fields.get?,apart.symm]
  have kept : Payload.Covered (own (account (text "one"))) (own (account (object []))) :=
    .cons ⟨rfl,fun _ => rfl⟩ (.cons ⟨rfl,fun shown => absurd shown (by decide)⟩ .nil)
  exact ⟨veiled,secrets_kept.1 _ _ veiled _,kept,secrets_kept.2 _ _ rfl rfl kept ..⟩

end Trifold.Form
