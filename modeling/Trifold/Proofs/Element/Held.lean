import Trifold.Proofs.Element.Whole
import Trifold.Proofs.Element.Written
import Trifold.Proofs.Table.Layout

namespace Trifold.Element
open Value

variable {α : Type} {value : Value} {key : String}

theorem eq_bool {truth : Bool} (read : value.bool? = some truth) : value = bool truth := by
  cases value <;> cases read
  rfl

theorem eq_number {x : Float} (read : value.number? = some x) : value = number x := by
  cases value <;> cases read
  rfl

theorem handler?_kept (v w : Value) (kept : handler? v = some w) : v = w := by
  unfold handler? at kept
  split at kept <;> cases kept
  rfl

theorem datum?_kept (v w : Value) (kept : datum? v = some w) : v = w := by
  unfold datum? at kept
  split at kept <;> cases kept
  rfl

theorem style?_kept (v w : Value) (kept : style? v = some w) : v = w := by
  unfold style? at kept
  split at kept <;> cases kept
  rfl

theorem nested?_kept (v w : Value) (kept : nested? v = some w) : v = w := by
  unfold nested? at kept
  split at kept <;> cases kept
  rfl

theorem eq_listOf {read : Value → Option α} {write : α → Value} (back : ∀ {v a}, read v = some a → v = write a)
    {items : List α} (listed : listOf read value = some items) : value = list (items.map write) := by
  obtain ⟨given,shape,each⟩ := Option.bind_eq_some_iff.mp listed
  rw [list?_eq_some shape]
  clear listed shape
  suffices given = items.map write by rw [this]
  induction given generalizing items with
  | nil =>
    cases each
    rfl
  | cons item rest ih =>
    rw [List.mapM_cons] at each
    obtain ⟨first,here,each⟩ := Option.bind_eq_some_iff.mp each
    obtain ⟨others,later,each⟩ := Option.bind_eq_some_iff.mp each
    cases each
    rw [back here,ih later]
    rfl

-- What each way of reading a field says of the value.
@[grind →] theorem get_text {s : String} (read : field Value.text? key value = some s) : value.get key = text s := Table.eq_text read

@[grind →] theorem get_bool {truth : Bool} (read : field Value.bool? key value = some truth) : value.get key = bool truth :=
  eq_bool read

@[grind →] theorem get_number {x : Float} (read : field Value.number? key value = some x) : value.get key = number x :=
  eq_number read

@[grind →] theorem get_list {items : List Value} (read : field Value.list? key value = some items) : value.get key = list items :=
  list?_eq_some read

@[grind →] theorem get_numbers {items : List Float} (read : field (listOf Value.number?) key value = some items) :
    value.get key = list (items.map number) := eq_listOf eq_number read

theorem get_kept {take : Value → Option Value} (kept : ∀ v w, take v = some w → v = w) {items : List Value}
    (read : field (listOf take) key value = some items) : value.get key = list items :=
  (Table.listOf_kept kept read).1

@[grind →] theorem get_text? {s : Option String} (read : optional Value.text? key value = some s) : value.get key = ofText? s :=
  Table.get_of_optional Table.eq_text read

@[grind →] theorem get_number? {x : Option Float} (read : optional Value.number? key value = some x) :
    value.get key = ofNumber? x := Table.get_of_optional eq_number read

@[grind →] theorem get_list? {items : Option (List Value)} (read : optional Value.list? key value = some items) :
    value.get key = Body.ofList? items := Table.get_of_optional list?_eq_some read

theorem get_kept? {take : Value → Option Value} (kept : ∀ v w, take v = some w → v = w) {held : Option Value}
    (read : optional take key value = some held) : value.get key = ofOption held := by
  have found := @Table.get_of_optional value Value take (fun v => v) (fun {_ _} => kept _ _) _ _ read
  rwa [Option.map_id'] at found

@[grind →] theorem get_handler? {handler : Option Value} (read : optional handler? key value = some handler) :
    value.get key = ofOption handler := get_kept? handler?_kept read

@[grind →] theorem get_nested? {content : Option Value} (read : optional nested? key value = some content) :
    value.get key = ofOption content := get_kept? nested?_kept read

@[grind →] theorem get_style? {style : Option Value} (read : optional style? key value = some style) :
    value.get key = ofOption style := get_kept? style?_kept read

@[grind →] theorem get_data {items : List Value} (read : field (listOf datum?) key value = some items) :
    value.get key = list items := get_kept datum?_kept read

@[grind →] theorem get_rows {items : List Value} (read : field (listOf row?) key value = some items) :
    value.get key = list items := get_kept Table.row?_kept read

@[grind →] theorem get_columns {items : List Value} (read : field (listOf column?) key value = some items) :
    value.get key = list items := get_kept Table.column?_kept read

@[grind →] theorem get_texts? {items : Option (List String)} (read : optional (listOf Value.text?) key value = some items) :
    value.get key = ofOption (items.map texts) := Table.get_of_optional (eq_listOf Table.eq_text) read

theorem box?_held {it : Box} (read : box? value = some it) : ∀ entry ∈ Body.boxFields it, value.get entry.1 = entry.2 := by
  simp only [box?,Option.bind_eq_bind,Option.bind_eq_some_iff,Option.pure_def,Option.some.injEq] at read
  obtain ⟨_,children,_,spacing,_,align,_,justify,_,padding,rfl⟩ := read
  simp only [Body.boxFields,List.forall_mem_cons]
  exact ⟨get_list children,get_number spacing,get_text? align,get_text? justify,get_number? padding,List.forall_mem_nil _⟩

theorem columnBody?_held {it : Column} (read : columnBody? value = some it) :
    ∀ entry ∈ Body.fields (.column it), value.get entry.1 = entry.2 := by
  simp only [columnBody?,Option.bind_eq_bind,Option.bind_eq_some_iff,Option.pure_def,Option.some.injEq] at read
  obtain ⟨_,name,_,header,_,sortable,_,formatter,_,width,_,align,rfl⟩ := read
  simp only [Body.fields,List.forall_mem_cons]
  exact ⟨get_text name,get_text header,get_bool sortable,Table.get_of_optional Table.eq_function formatter,
    get_number? width,get_text align,List.forall_mem_nil _⟩

theorem body?_held {kind : Kind} {body : Body} (read : body? value kind = some body) :
    ∀ entry ∈ body.fields, value.get entry.1 = entry.2 := by
  cases kind <;>
    simp only [body?,Option.bind_eq_bind,Option.bind_eq_some_iff,Option.pure_def,Option.some.injEq] at read
  case column =>
    obtain ⟨_,read,rfl⟩ := read
    exact columnBody?_held read
  case vbox | hbox =>
    obtain ⟨_,read,rfl⟩ := read
    exact box?_held read
  all_goals
    -- One field after the other, and last the body they make.
    repeat obtain ⟨_,_,read⟩ := read
    simp only [Body.fields,List.forall_mem_cons]
    grind

theorem there_of_sound {element : Element} (sound : ofValue? value = some element) : value.isMissing = false := by
  simp only [ofValue?,Option.bind_eq_bind,Option.bind_eq_some_iff] at sound
  obtain ⟨kind,known,_⟩ := sound
  exact Table.there_of_kind known

theorem fields_held {element : Element} (sound : ofValue? value = some element) :
    ∀ entry ∈ element.allFields, value.get entry.1 = entry.2 := by
  have body := body?_held (body?_of sound)
  simp only [ofValue?,common?,Option.bind_eq_bind,Option.bind_eq_some_iff,Option.pure_def,Option.some.injEq] at sound
  obtain ⟨kind,known,_,⟨id,named,style,styled,visible,seen,rfl⟩,found,read,rfl⟩ := sound
  have type : value.get "type" = text kind.name := by
    unfold kind? at known
    split at known
    · obtain ⟨name,written,same⟩ := Option.bind_eq_some_iff.mp known
      have called := List.find?_some same
      rw [Table.eq_text written,beq_iff_eq.mp called]
    · cases known
  rw [allFields]
  refine List.forall_mem_append.mpr ⟨?_,body⟩
  simp only [List.forall_mem_cons]
  exact ⟨type.trans (by rw [Element.kind,kind_of_body? read]),get_text? named,get_style? styled,get_bool seen,List.forall_mem_nil _⟩

-- The same for one field, by its name.
theorem get_of_sound {element : Element} {written : Value} (sound : ofValue? value = some element)
    (listed : Fields.get? key element.allFields = some written) : value.get key = written :=
  fields_held sound _ (Fields.mem_of_get? listed)

theorem style_of_sound {element : Element} (sound : ofValue? value = some element) : ∀ style ∈ element.style,
    style.isPlain = true ∧ ∃ attrs, style.get "attrs" = list attrs := by
  simp only [ofValue?,common?,Option.bind_eq_bind,Option.bind_eq_some_iff,Option.pure_def,Option.some.injEq] at sound
  obtain ⟨kind,_,_,⟨id,_,style,styled,visible,_,rfl⟩,found,_,rfl⟩ := sound
  rintro _ rfl
  obtain ⟨_,read⟩ := optional_eq_some styled
  unfold style? at read
  split at read
  case isTrue shaped =>
    cases read
    rw [Bool.and_eq_true,Option.isSome_iff_exists] at shaped
    obtain ⟨plain,attrs,listed⟩ := shaped
    exact ⟨plain,attrs,list?_eq_some listed⟩
  case isFalse => cases read

end Trifold.Element
