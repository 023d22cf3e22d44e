import Trifold.Element.Factory
import Trifold.Proofs.Source.Proper
import Trifold.Proofs.Value.Rearranged

namespace Trifold

-- What may be given as a property. One that is unset is never given.
inductive Property where
  | word
  | truth
  | amount
  | signal
  | words
  | series
  | points
  | rows
  | anything
  | unset
  | choice (allowed : List String)

namespace Property
open Value

-- A label and a finite value, and nothing else.
def IsPoint (value : Value) : Prop := ∃ fields label x, value = object fields ∧ Number.isFinite x = true ∧
  fields.Perm [("label",text label), ("value",number x)]

def Admits : Property → Value → Prop
  | word, value => ∃ s, value = text s
  | truth, value => ∃ b, value = bool b
  | amount, value => ∃ x, Number.isFinite x = true ∧ value = number x
  | signal, value => ∃ s, s ≠ "" ∧ value = text s
  | words, value => ∃ all, value = texts all
  | series, value => ∃ xs : List Float, (∀ x ∈ xs, Number.isFinite x = true) ∧ value = list (xs.map number)
  | points, value => ∃ items, (∀ item ∈ items, IsPoint item) ∧ value = list items
  | rows, value => ∃ items, (∀ item ∈ items, item.isPlain = true) ∧ value = list items
  | anything, _ => True
  | unset, _ => False
  | choice allowed, value => ∃ s ∈ allowed, value = text s

-- What is written for a value: something of its own for nothing, and for what is admitted the very same.
structure Taken (property : Property) (fallback value written : Value) : Prop where
  nothing : value = absent → written = fallback
  admitted : property.Admits value → Distinct value → same written value = true

variable {value fallback : Value} {allowed : List String}

theorem Taken.of_eq {property : Property} {written : Value} (nothing : value = absent → written = fallback)
    (read : property.Admits value → written = value) : Taken property fallback value written := by
  refine ⟨nothing,fun admits distinct => ?_⟩
  rw [read admits]
  exact same_refl distinct

@[simp] theorem taken_anything (value : Value) : Taken anything absent value value :=
  .of_eq id fun _ => rfl

@[simp] theorem taken_unset (value : Value) : Taken unset absent value (ofOption none) := ⟨fun _ => rfl,nofun⟩

@[simp] theorem taken_formatter (value : Value) :
    Taken unset absent value (ofOption ((Build.formatter? value).map function)) := by
  refine ⟨?_,nofun⟩
  rintro rfl
  rfl

@[simp] theorem taken_word (value : Value) : Taken word absent value (ofText? value.text?) := by
  refine .of_eq (by rintro rfl; rfl) ?_
  rintro ⟨s,rfl⟩
  rfl

@[simp] theorem taken_wordOr (other : String) (value : Value) :
    Taken word (text other) value (text (value.text?.getD other)) := by
  refine .of_eq (by rintro rfl; rfl) ?_
  rintro ⟨s,rfl⟩
  rfl

@[simp] theorem taken_truth (other : Bool) (value : Value) :
    Taken truth (bool other) value (bool (Attributes.truth other value)) := by
  refine .of_eq (by rintro rfl; rfl) ?_
  rintro ⟨b,rfl⟩
  rfl

theorem finite?_finite {x : Float} (finite : Number.isFinite x = true) : Attributes.finite? (number x) = some x := by
  rw [Attributes.finite?,number?,Option.filter_some,if_pos finite]

@[simp] theorem taken_amount (value : Value) : Taken amount absent value (ofNumber? (Attributes.finite? value)) := by
  refine .of_eq (by rintro rfl; rfl) ?_
  rintro ⟨x,finite,rfl⟩
  rw [finite?_finite finite]
  rfl

@[simp] theorem taken_amountOr (other : Float) (value : Value) :
    Taken amount (number other) value (number ((Attributes.finite? value).getD other)) := by
  refine .of_eq (by rintro rfl; rfl) ?_
  rintro ⟨x,finite,rfl⟩
  rw [finite?_finite finite]
  rfl

@[simp] theorem taken_signal (value : Value) : Taken signal absent value (ofOption (Build.handler? value)) := by
  refine .of_eq (by rintro rfl; rfl) ?_
  rintro ⟨s,some,rfl⟩
  have filled : s.isEmpty = false := by simpa using some
  rw [Build.handler?,filled]
  rfl

@[simp] theorem taken_words (value : Value) :
    Taken words absent value (ofOption ((Attributes.texts? value).map texts)) := by
  refine .of_eq (by rintro rfl; rfl) ?_
  rintro ⟨all,rfl⟩
  have read : Attributes.texts? (texts all) = some all := by
    rw [Attributes.texts?,texts,list?,Option.map_some,List.filterMap_map]
    exact congrArg some List.filterMap_some
  rw [read]
  rfl

theorem oneOf?_among {s : String} (listed : s ∈ allowed) : Attributes.oneOf? allowed (text s) = some s := by
  rw [Attributes.oneOf?,text?,Option.filter_some,if_pos (List.contains_iff_mem.mpr listed)]

@[simp] theorem taken_choice (allowed : List String) (value : Value) :
    Taken (choice allowed) absent value (ofText? (Attributes.oneOf? allowed value)) := by
  refine .of_eq (by rintro rfl; rfl) ?_
  rintro ⟨s,listed,rfl⟩
  rw [oneOf?_among listed]
  rfl

@[simp] theorem taken_choiceOr (allowed : List String) (other : String) (value : Value) :
    Taken (choice allowed) (text other) value (text ((Attributes.oneOf? allowed value).getD other)) := by
  refine .of_eq (by rintro rfl; rfl) ?_
  rintro ⟨s,listed,rfl⟩
  rw [oneOf?_among listed]
  rfl

@[simp] theorem taken_series (value : Value) :
    Taken series (list []) value (list ((Attributes.finites value).map number)) := by
  refine .of_eq (by rintro rfl; rfl) ?_
  rintro ⟨xs,finite,rfl⟩
  have read : Attributes.finites (list (xs.map number)) = xs := by
    rw [Attributes.finites,list?,Option.getD_some,List.filterMap_map]
    exact (List.filterMap_congr fun x there => finite?_finite (finite x there)).trans List.filterMap_some
  rw [read]

@[simp] theorem taken_rows (value : Value) : Taken rows (list []) value (list (Build.rows value)) := by
  refine .of_eq (by rintro rfl; rfl) ?_
  rintro ⟨items,plain,rfl⟩
  have read : Build.rows (list items) = items := by
    refine List.filter_eq_self.mpr fun row there => ?_
    rw [Build.isRow,plain row there,Bool.true_or]
  rw [read]

theorem datum?_point (point : IsPoint value) : ∃ given, Build.datum? value = some given ∧ same given value = true := by
  obtain ⟨fields,label,x,rfl,finite,order⟩ := point
  have once : (Fields.keys [("label",text label), ("value",number x)]).Nodup := by simp [Fields.keys]
  have once' : (Fields.keys fields).Nodup := (order.map Prod.fst).nodup_iff.mpr once
  have alike (key : String) := Fields.get?_perm order once' key
  have labelled : (object fields).get "label" = text label := by
    rw [object,Value.get,alike]
    rfl
  have amount : (object fields).get "value" = number x := by
    rw [object,Value.get,alike]
    rfl
  refine ⟨Build.datum label x,?_,?_⟩
  · change (((object fields).get "label").text?.bind fun label =>
      (Attributes.finite? ((object fields).get "value")).bind fun x => some (Build.datum label x)) = _
    rw [labelled,amount,finite?_finite finite]
    rfl
  · have distinct : Distinct (object fields) := by
      refine distinct_object.mpr ⟨once',fun entry there => ?_⟩
      rcases List.mem_pair.mp (order.mem_iff.mp there) with rfl | rfl <;> trivial
    refine same_of_held (Build.datum_distinct label x) distinct fun key => ?_
    rw [held,held,alike]

@[simp] theorem taken_points (value : Value) : Taken points (list []) value (list (Build.chartData value)) := by
  refine ⟨?_,?_⟩
  · rintro rfl
    rfl
  rintro ⟨items,each,rfl⟩ _
  refine same_list.mpr ?_
  change List.Forall₂ _ (items.filterMap Build.datum?) items
  clear * - each
  induction items with
  | nil => exact .nil
  | cons item rest ih =>
    obtain ⟨here,later⟩ := List.forall_mem_cons.mp each
    obtain ⟨given,read,equal⟩ := datum?_point here
    rw [List.filterMap_cons_some read]
    exact .cons equal (ih later)

-- The properties particular to a kind. What is inside is no property.
def particular : Kind → List (String × Property)
  | .text => [("content",word)]
  | .button => [("label",word), ("onClick",signal), ("disabled",truth)]
  | .label => [("text",word), ("for",word)]
  | .textInput =>
      [("value",word), ("placeholder",word), ("inputType",choice ["text", "password", "email", "number", "tel"]),
        ("onChange",signal), ("onSubmit",signal), ("disabled",truth), ("formId",word)]
  | .gauge => [("value",amount), ("min",amount), ("max",amount), ("label",word)]
  | .sparkline => [("data",series), ("showDots",truth), ("showArea",truth)]
  | .barChart => [("data",points), ("orientation",choice ["horizontal", "vertical"]), ("showLabels",truth)]
  | .lineChart => [("data",points), ("showDots",truth), ("showArea",truth)]
  | .table =>
      [("data",rows), ("selectedRow",amount), ("height",amount), ("onRowSelect",signal), ("onSort",signal),
        ("sortColumn",word), ("sortDirection",choice ["asc", "desc"])]
  | .column =>
      [("key",word), ("header",word), ("sortable",truth), ("formatter",unset), ("width",amount),
        ("align",choice ["left", "center", "right"])]
  | .menu => [("title",word), ("position",choice ["top", "bottom", "left", "right"])]
  | .menuItem => [("label",word), ("action",signal), ("disabled",truth), ("icon",word), ("shortcut",word)]
  | .contextMenu => [("triggerOn",choice ["right_click", "left_click", "long_press"])]
  | .tabs => [("activeTab",word), ("position",choice ["top", "bottom", "left", "right"]), ("onChange",signal)]
  | .tab => [("label",word), ("icon",word), ("disabled",truth), ("closable",truth)]
  | .treeView =>
      [("selectedNode",word), ("expandedNodes",words), ("onSelect",signal), ("onToggle",signal), ("showRoot",truth)]
  | .treeNode =>
      [("label",word), ("value",anything), ("expanded",truth), ("icon",word), ("iconExpanded",word),
        ("selectable",truth)]
  | .vbox | .hbox =>
      [("spacing",amount), ("alignItems",choice ["start", "center", "end", "stretch"]),
        ("justifyContent",choice ["start", "center", "end", "space_between", "space_around"]), ("padding",amount)]

def all (kind : Kind) : List (String × Property) := [("id",word), ("visible",truth), ("style",unset)] ++ particular kind

variable {kind : Kind} {given : Fields Value}

theorem particular_apart (kind : Kind) :
    ∀ entry ∈ particular kind, entry.1 ∉ ["type", "id", "style", "visible"] := by cases kind <;> decide

theorem type_apart (kind : Kind) : "type" ∉ Fields.keys (all kind) := by cases kind <;> decide

theorem all_named (kind : Kind) : ∀ key ∈ Fields.keys (all kind), key ∈ Element.fieldNames := by cases kind <;> decide

theorem of_key {key : String} (known : key ∈ Fields.keys (all kind)) : ∃ property, (key,property) ∈ all kind := by
  obtain ⟨⟨_,property⟩,listed,rfl⟩ := List.mem_map.mp known
  exact ⟨property,listed⟩

-- Any of the properties of a kind, each at most once, with what it admits. A column has its key.
structure Given (kind : Kind) (given : Fields Value) : Prop where
  once : (Fields.keys given).Nodup
  admitted : ∀ entry ∈ given, ∃ property, (entry.1,property) ∈ all kind ∧ property.Admits entry.2
  keyed : kind = .column → "key" ∈ Fields.keys given

theorem Given.known (well : Given kind given) : ∀ key ∈ Fields.keys given, key ∈ Fields.keys (all kind) := by
  intro key there
  obtain ⟨entry,listed,rfl⟩ := List.mem_map.mp there
  obtain ⟨property,known,_⟩ := well.admitted entry listed
  exact List.mem_map_of_mem known

theorem Given.unstyled (well : Given kind given) : Fields.get? "style" given = none := by
  refine Fields.get?_eq_none.mpr fun there => ?_
  obtain ⟨⟨name,value⟩,listed,rfl⟩ := List.mem_map.mp there
  obtain ⟨property,known,admits⟩ := well.admitted _ listed
  rcases List.mem_append.mp known with shared | special
  · have same : property = unset := by simpa using shared
    subst same
    exact admits
  · exact particular_apart kind _ special (by simp)

theorem Given.key (well : Given .column given) : ∃ key, Fields.get? "key" given = some (text key) := by
  obtain ⟨⟨name,value⟩,listed,rfl⟩ := List.mem_map.mp (well.keyed rfl)
  obtain ⟨property,known,admits⟩ := well.admitted _ listed
  have same : property = word := by simpa [all,particular] using known
  subst same
  obtain ⟨key,rfl⟩ := admits
  exact ⟨key,Fields.get?_of_mem well.once listed⟩

end Property

namespace Factory
open Value

variable {kind : Kind} {arguments : Fields Value} {key : String}

-- What stands for the argument a factory cannot do without.
def blank : Kind → Value
  | .gauge => number 0
  | .sparkline | .barChart | .lineChart | .table => list []
  | .menuItem | .tab | .treeNode => text ""
  | _ => absent

def subject (kind : Kind) (arguments : Fields Value) : Value :=
  (subjectKey kind).elim absent fun key => (Fields.get? key arguments).getD (blank kind)

-- A factory called with all it is given by name: the argument it takes first, then the others.
def called (kind : Kind) (arguments : Fields Value) : Value :=
  make kind (subject kind arguments) (object ((subjectKey kind).elim arguments fun key => Fields.remove key arguments))

def fallback (kind : Kind) (subject : Value) : Fields Value :=
  ((subjectKey kind).map fun key => (key,blank kind)).toList ++ defaults kind subject

theorem fallback_shared (kind : Kind) (first : Value) : Fields.get? "id" (fallback kind first) = none ∧
    Fields.get? "visible" (fallback kind first) = some (bool true) ∧ Fields.get? "style" (fallback kind first) = none := by
  cases kind <;> exact ⟨rfl,rfl,rfl⟩

theorem subjectKey_ne_type (known : subjectKey kind = some key) : key ≠ "type" := by
  cases kind <;> cases known <;> decide

theorem subject_distinct (distinct : Distinct (object arguments)) : Distinct (subject kind arguments) := by
  have blank : Distinct (blank kind) := by cases kind <;> trivial
  rw [subject]
  cases subjectKey kind with
  | none => trivial
  | some key => exact distinct_getD (fun held there => (distinct_object.mp distinct).2 (key,held) (Fields.mem_of_get? there)) blank

theorem defaults_distinct {first : Value} (distinct : Distinct first) : Distinct (object (defaults kind first)) := by
  have empty : Distinct (list []) := trivial
  refine distinct_object.mpr ?_
  cases kind <;> simp [defaults,shown,Fields.keys,distinct,empty]

theorem called_fields (kind : Kind) (distinct : Distinct (object arguments)) : ∃ fields, called kind arguments = object fields ∧
    Distinct (object fields) ∧ ∀ key, Fields.get? key fields = if "type" = key then some (text kind.name) else
      (Fields.get? key arguments).or (Fields.get? key (fallback kind (subject kind arguments))) := by
  have once := (distinct_object.mp distinct).1
  have first : Distinct (subject kind arguments) := subject_distinct distinct
  have written {rest : Fields Value} (others : Distinct (object rest)) : Distinct (object (Fields.put "type" (text kind.name)
      (spread (defaults kind (subject kind arguments)) rest))) :=
    distinct_put "type" (distinct_spread (defaults_distinct first) others) trivial
  cases known : subjectKey kind with
  | none =>
    refine ⟨Fields.put "type" (text kind.name) (spread (defaults kind (subject kind arguments)) arguments),?_,
      written distinct,fun key => ?_⟩
    · rw [called,make,known]
      rfl
    · rw [Fields.get?_put,spread,Fields.get?_putAll key once,fallback,known]
      rfl
  | some name =>
    refine ⟨Fields.put name (subject kind arguments) (Fields.put "type" (text kind.name)
      (spread (defaults kind (subject kind arguments)) (Fields.remove name arguments))),?_,
      distinct_put name (written (distinct_remove name distinct)) first,fun key => ?_⟩
    · rw [called,make,known]
      rfl
    · have stands : Fields.get? key (fallback kind (subject kind arguments)) =
          if name = key then some (blank kind) else Fields.get? key (defaults kind (subject kind arguments)) := by
        rw [fallback,known]
        rfl
      rw [Fields.get?_put,Fields.get?_put,spread,Fields.get?_putAll key (Fields.nodup_remove once),Fields.get?_remove,stands]
      by_cases here : name = key
      · subst here
        rw [if_pos rfl,if_pos rfl,if_neg (subjectKey_ne_type known).symm,subject,known,Option.elim_some]
        cases Fields.get? name arguments <;> rfl
      · rw [if_neg here,if_neg here,if_neg here]

end Factory

end Trifold
