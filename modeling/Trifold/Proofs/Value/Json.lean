import Trifold.Attributes
import Trifold.Proofs.Fields
import Trifold.Proofs.Value.Alike

namespace Trifold.Value
open Ask (Answers Ends)

inductive Json : Value → Prop
  | null : Json null
  | bool (truth : Bool) : Json (bool truth)
  | number {x : Float} (finite : Number.isFinite x = true) : Json (number x)
  | text (s : String) : Json (text s)
  | list {items : List Value} (each : ∀ item ∈ items, Json item) : Json (list items)
  | record {fields : Fields Value} (each : ∀ entry ∈ fields, Json entry.2) : Json (record false fields)

variable {value : Value} {host : Host}

theorem Json.items {items : List Value} (json : Json (.list items)) : ∀ item ∈ items, Json item := by
  cases json with
  | list each => exact each

theorem Json.fields {bare : Bool} {fields : Fields Value} (json : Json (.record bare fields)) :
    bare = false ∧ ∀ entry ∈ fields, Json entry.2 := by
  cases json with
  | record each => exact ⟨rfl,each⟩

-- No value of this form is a function, so nothing answers in the place of a record.
theorem Json.function? (json : Json value) : value.function? = none := by cases json <;> rfl

theorem Json.substitute? {fields : Fields Value} (each : ∀ entry ∈ fields, Json entry.2) :
    substitute? absent fields = none := by
  unfold Value.substitute?
  cases found : Fields.get? "toJSON" fields with
  | none => rfl
  | some held => exact (each _ (Fields.mem_of_get? found)).function?

section

variable {answer : Function → String → Ask (Option String)}

theorem jsonItems_ends {items : List Value}
    (each : ∀ item ∈ items, ∀ key, Ends host (jsonUnder answer key item)) (position : Nat) :
    Ends host (jsonItems answer position items) := by
  induction items generalizing position with
  | nil =>
    rw [jsonItems]
    exact .pure _
  | cons item rest ih =>
    obtain ⟨here,later⟩ := List.forall_mem_cons.mp each
    rw [jsonItems]
    exact (here _).bind fun _ => (ih later _).map

theorem jsonMembers_ends {fields : Fields Value}
    (each : ∀ entry ∈ fields, ∀ key, Ends host (jsonUnder answer key entry.2)) :
    Ends host (jsonMembers answer fields) := by
  induction fields with
  | nil =>
    rw [jsonMembers]
    exact .pure _
  | cons entry rest ih =>
    obtain ⟨here,later⟩ := List.forall_mem_cons.mp each
    rw [jsonMembers]
    exact (here _).bind fun _ => (ih later).map

theorem Json.jsonUnder (json : Json value) (key : String) :
    Answers host (fun written => written.isSome = true) (jsonUnder answer key value) := by
  induction json generalizing key with
  | list each ih =>
    rw [Value.jsonUnder]
    exact (jsonItems_ends (fun item there key => (ih item there key).mono fun _ _ => trivial) 0).bind fun _ => .pure rfl
  | record each ih =>
    rw [Value.jsonUnder,Json.substitute? each]
    exact (jsonMembers_ends fun entry there key => (ih entry there key).mono fun _ _ => trivial).bind fun _ => .pure rfl
  | _ => exact .pure rfl

end

theorem Json.json? (json : Json value) : Answers host (fun written => written.isSome = true) (json? value) :=
  .after rfl (json.jsonUnder "")

-- No record that would be asked for its text has a member of its own for that.
mutual
def isSayable : Value → Bool
  | list items => areSayable items
  | record _ fields => !Fields.has "toString" fields
  | _ => true
def areSayable : List Value → Bool
  | [] => true
  | item :: rest => isSayable item && areSayable rest
end

theorem areSayable_iff {items : List Value} : areSayable items = true ↔ ∀ item ∈ items, isSayable item = true := by
  induction items with
  | nil => simp [areSayable]
  | cons item rest ih => rw [areSayable,Bool.and_eq_true,List.forall_mem_cons,ih]

theorem Json.itemText (json : Json value) (said : Ends host value.toText) :
    Ends host (Alike.itemText value) := by
  cases json with
  | null => exact .pure _
  | _ => exact said

theorem Json.toText (json : Json value) (sayable : value.isSayable = true) : Ends host value.toText := by
  induction json with
  | @list items each ih =>
    rw [isSayable,areSayable_iff] at sayable
    rw [Value.toText,Alike.itemTexts_mapM]
    exact Ends.map (Ends.mapM fun item there => (each item there).itemText (ih item there (sayable item there)))
  | @record fields each ih =>
    rw [isSayable,Fields.has,Bool.not_eq_true',Option.isSome_eq_false_iff,Option.isNone_iff_eq_none] at sayable
    have named : (Value.record false fields).get "toString" = function (.member .record "toString") := by
      rw [get,sayable]
      rfl
    rw [Alike.toText_record rfl]
    refine Answers.bind (P := fun scalar => ∃ s, scalar = .text s) ?_ ?_
    · change Answers host _ (firstOffered (.record false fields) ["toString", "valueOf"])
      rw [firstOffered,Alike.offered_function,named]
      exact .pure ⟨_,rfl⟩
    · rintro _ ⟨s,rfl⟩
      exact Ends.pure s
  | _ => exact .pure _

-- What every record answers with under a name it has no value for.
inductive Inherited : Value → Prop
  | absent : Inherited absent
  | ancestor : Inherited ancestor
  | member (owner : Owner) (name : String) : Inherited (function (.member owner name))

theorem inherited_standard (owner : Owner) (key : String) : Inherited (standard owner key) := by
  unfold standard
  split
  · exact .member _ _
  · split
    · exact .ancestor
    · exact .absent

theorem Inherited.toText (entry : Inherited value) : Ends host value.toText := by
  cases entry with
  | absent => exact .pure _
  | ancestor => exact .pure _
  | member owner name =>
    refine Answers.bind (P := fun scalar => ∃ s, scalar = .text s) ?_ ?_
    · change Answers host _ (firstOffered (function (.member owner name)) ["toString", "valueOf"])
      rw [firstOffered,Alike.offered_function]
      exact .pure ⟨_,rfl⟩
    · rintro _ ⟨s,rfl⟩
      exact Ends.pure s

-- What a row holds under a name: a value of its own, or what every record answers with.
inductive Found : Value → Prop
  | own {value : Value} (json : Json value) : Found value
  | inherited {value : Value} (entry : Inherited value) : Found value

theorem Json.pair {key : String} (json : Json value) {held : Value} (paired : Attributes.pair? value = some (key,held)) :
    Json held := by
  unfold Attributes.pair? at paired
  split at paired
  · cases paired
    exact json.items held (by simp)
  · cases paired

-- What is stated as JSON, or not at all.
def Stated (value : Value) : Prop := value = .absent ∨ Json value

theorem Stated.function? (stated : Stated value) : value.function? = none := by
  rcases stated with rfl | json
  · rfl
  · exact json.function?

theorem Stated.each (stated : Stated value) : ∀ item ∈ value.list?.getD [], Json item := by
  rcases stated with rfl | json
  · exact List.forall_mem_nil _
  · cases value with
    | list => exact json.items
    | _ => exact List.forall_mem_nil _

theorem Json.field (json : Json value) (plain : value.isPlain = true) {key : String} (unanswered : inherited key = absent) :
    Stated (value.get key) := by
  cases json with
  | @record fields each =>
    change Stated ((Fields.get? key fields).getD (inherited key))
    cases found : Fields.get? key fields with
    | none => exact .inl unanswered
    | some held => exact .inr (each _ (Fields.mem_of_get? found))
  | _ => cases plain

theorem stated_read {items : List Value} (each : ∀ item ∈ items, Json item) (key : String) :
    Stated (Attributes.read key (list items)) := by
  change Stated (((items.filterMap Attributes.pair?).find? (·.1 == key)).elim .absent (·.2))
  cases found : (items.filterMap Attributes.pair?).find? (·.1 == key) with
  | none => exact .inl rfl
  | some pair =>
    obtain ⟨item,there,paired⟩ := List.mem_filterMap.mp (List.mem_of_find?_eq_some found)
    exact .inr ((each item there).pair paired)

theorem Stated.entries (stated : Stated value) : ∀ entry ∈ Attributes.entries value, Json entry.2 := by
  rcases stated with rfl | json
  · exact List.forall_mem_nil _
  · cases json with
    | @list items each =>
      intro entry there
      obtain ⟨item,listed,paired⟩ := List.mem_filterMap.mp there
      exact (each item listed).pair paired
    | record each => exact each
    | _ => exact List.forall_mem_nil _

theorem Json.read (json : Json value) (key : String) : Found (Attributes.read key value) := by
  cases json with
  | list each =>
    rcases stated_read each key with none | own
    · rw [none]
      exact .inherited .absent
    · exact .own own
  | @record fields each =>
    change Found ((Fields.get? key fields).getD (Value.inherited key))
    cases found : Fields.get? key fields with
    | none => exact .inherited (inherited_standard .record key)
    | some held => exact .own (each _ (Fields.mem_of_get? found))
  | _ => exact .inherited .absent

theorem Found.toText (entry : Found value) (flat : value.isObject = false) : Ends host value.toText := by
  cases entry with
  | own json =>
    cases json with
    | list | record => cases flat
    | _ => exact .pure _
  | inherited entry => exact entry.toText

theorem Found.json? (entry : Found value) (holds : value.isObject = true) : Ends host (json? value) := by
  cases entry with
  | own json => exact json.json?.mono fun _ _ => trivial
  | inherited entry =>
    cases entry with
    | ancestor => exact .pure _
    | absent | member => cases holds

end Trifold.Value
