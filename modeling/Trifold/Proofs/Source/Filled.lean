import Trifold.Proofs.Element.Properties

namespace Trifold

-- The kind of what a collection holds.
def Kind.member : Kind → Option Kind
  | .table => some .column
  | .menu | .menuItem | .contextMenu => some .menuItem
  | .tabs => some .tab
  | .treeView | .treeNode => some .treeNode
  | _ => none

namespace Attributes
open Value

theorem find?_getD (key : String) (pairs : List (String × Value)) :
    (pairs.find? (·.1 == key)).elim absent (·.2) = (Fields.get? key pairs).getD absent := by
  induction pairs with
  | nil => rfl
  | cons entry rest ih =>
    rw [List.find?_cons,Fields.get?_cons]
    by_cases here : entry.1 = key
    · simp [here]
    · rw [beq_false_of_ne here,if_neg here]
      exact ih

theorem read_entries {key : String} (unanswered : inherited key = absent) (source : Value) :
    Attributes.read key source = (Fields.get? key (entries source)).getD absent := by
  cases source with
  | list items => exact find?_getD key (items.filterMap pair?)
  | record bare fields =>
    change (Fields.get? key fields).getD (if bare then absent else inherited key) = (Fields.get? key fields).getD absent
    rw [unanswered,ite_self]
  | ancestor =>
    have apart : key ≠ "__proto__" := by
      rintro rfl
      cases unanswered
    change (if key = "__proto__" then null else inherited key) = absent
    rw [if_neg apart,unanswered]
  | _ => rfl

end Attributes

namespace Build
open Value Property

variable {kind : Kind} {scope : Scope} {attributes first : Value} {built : List Value} {given : Fields Value} {key : String}

-- The attribute that gives a property.
def attributeFor (kind : Kind) (key : String) : String :=
  if kind = .textInput ∧ key = "inputType" then "type" else key

def attributesOf (kind : Kind) (given : Fields Value) : List (String × Value) :=
  given.map fun entry => (attributeFor kind entry.1,entry.2)

theorem attributeFor_eq {name : String} (known : name ∈ Fields.keys (Property.all kind))
    (known' : key ∈ Fields.keys (Property.all kind)) : attributeFor kind name = attributeFor kind key ↔ name = key := by
  have apart {other : String} (there : other ∈ Fields.keys (Property.all kind)) : other ≠ "type" := by
    rintro rfl
    exact type_apart kind there
  constructor
  · intro same
    rw [attributeFor,attributeFor] at same
    split at same <;> split at same
    · rename_i here there
      rw [here.2,there.2]
    · exact absurd same.symm (apart known')
    · exact absurd same (apart known)
    · exact same
  · rintro rfl
    rfl

theorem get?_attributesOf (names : ∀ name ∈ Fields.keys given, name ∈ Fields.keys (Property.all kind))
    (known : key ∈ Fields.keys (Property.all kind)) :
    Fields.get? (attributeFor kind key) (attributesOf kind given) = Fields.get? key given := by
  induction given with
  | nil => rfl
  | cons entry rest ih =>
    obtain ⟨here,later⟩ := List.forall_mem_cons.mp names
    rw [attributesOf,List.map_cons,Fields.get?_cons,← attributesOf,ih later]
    exact if_congr (attributeFor_eq here known) rfl rfl

theorem read_given (well : Given kind given) (sets : Attributes.entries attributes = attributesOf kind given)
    (known : key ∈ Fields.keys (Property.all kind)) :
    Attributes.read (attributeFor kind key) attributes = (Fields.get? key given).getD absent := by
  have listed : attributeFor kind key ∈ Element.fieldNames := by
    rw [attributeFor]
    split
    · decide
    · exact all_named kind key known
  rw [Attributes.read_entries (eq_absent (Element.fieldNames_unanswered _ listed)),sets,get?_attributesOf well.known known]

-- A list of children that may be left out.
def nonEmpty (key : String) (built : List Value) : Fields Value := if built.isEmpty then [] else [(key,list built)]

-- The built children as a factory takes them.
def children (kind : Kind) (built : List Value) : Fields Value :=
  match kind with
  | .table => [("columns",list built)]
  | .menu | .contextMenu => [("items",list built)]
  | .menuItem => nonEmpty "submenu" built
  | .tabs => [("tabs",list built)]
  | .tab => match built with
    | [content] => [("content",content)]
    | contents => nonEmpty "content" contents
  | .treeView => [("rootNodes",list built)]
  | .treeNode => nonEmpty "children" built
  | .vbox | .hbox => [("children",list built)]
  | _ => []

-- All that is given to a factory.
def arguments (kind : Kind) (given : Fields Value) (built : List Value) : Fields Value := given ++ children kind built

theorem children_one (kind : Kind) (built : List Value) : children kind built = [] ∨ ∃ key value,
    children kind built = [(key,value)] ∧ key ∉ Fields.keys (Property.all kind) ∧ (value = list built ∨ built = [value]) := by
  have nonEmpty_one (name : String) (apart : name ∉ Fields.keys (Property.all kind)) :
      nonEmpty name built = [] ∨ ∃ key value, nonEmpty name built = [(key,value)] ∧
        key ∉ Fields.keys (Property.all kind) ∧ (value = list built ∨ built = [value]) := by
    rw [nonEmpty]
    split
    · exact .inl rfl
    · exact .inr ⟨name,list built,rfl,apart,.inl rfl⟩
  cases kind with
  | text | button | label | textInput | gauge | sparkline | barChart | lineChart | column => exact .inl rfl
  | menuItem | treeNode => exact nonEmpty_one _ (by decide)
  | tab =>
    match built with
    | [] => exact .inl rfl
    | [content] => exact .inr ⟨_,_,rfl,by decide,.inr rfl⟩
    | first :: second :: rest => exact nonEmpty_one "content" (by decide)
  | _ => exact .inr ⟨_,_,rfl,by decide,.inl rfl⟩

theorem get?_children (known : key ∈ Fields.keys (Property.all kind)) (built : List Value) :
    Fields.get? key (children kind built) = none := by
  rcases children_one kind built with none | ⟨name,value,one,fresh,_⟩
  · rw [none]
    rfl
  · have apart : name ≠ key := by
      rintro rfl
      exact fresh known
    rw [one,Fields.get?_cons,if_neg apart]
    rfl

theorem arguments_distinct (well : Given kind given) (each : ∀ entry ∈ given, Distinct entry.2)
    (inside : ∀ value ∈ built, Distinct value) : Distinct (object (arguments kind given built)) := by
  rw [arguments]
  rcases children_one kind built with none | ⟨key,value,one,apart,held⟩
  · rw [none,List.append_nil]
    exact distinct_object.mpr ⟨well.once,each⟩
  · have distinct : Distinct value := by
      rcases held with rfl | rfl
      · exact distinct_list.mpr inside
      · exact inside value List.mem_cons_self
    rw [one]
    refine distinct_object.mpr ⟨?_,List.forall_mem_append.mpr ⟨each,List.forall_mem_singleton.mpr distinct⟩⟩
    rw [Fields.keys_append_cons]
    refine List.nodup_append.mpr ⟨well.once,List.nodup_singleton key,?_⟩
    rintro name there other last rfl
    have same : name = key := List.mem_singleton.mp last
    exact apart (well.known key (same ▸ there))

-- What the body of an element holds: each property particular to its kind as it is taken, and beside them the children.
structure Fills (kind : Kind) (first attributes : Value) (built : List Value) (body : Body) : Prop where
  named : body.kind = kind
  taken : ∀ entry ∈ particular kind, entry.2.Taken ((Fields.get? entry.1 (Factory.fallback kind first)).getD absent)
    (Attributes.read (attributeFor kind entry.1) attributes) ((Fields.get? entry.1 body.fields).getD absent)
  others : defined (body.fields.filter fun entry => !(Fields.keys (Property.all kind)).contains entry.1) =
    children kind built

theorem leaf_fills {body : Body} (made : leaf attributes kind = some body) : Fills kind first attributes built body := by
  cases kind <;> cases made
  all_goals
    refine ⟨rfl,?_,rfl⟩
    simp only [particular,List.forall_mem_cons,List.not_mem_nil,false_implies,implies_true,and_true]
    simp [attributeFor,Factory.fallback,Factory.subjectKey,Factory.blank,Factory.defaults,Factory.shown,Body.fields,
      Fields.get?_cons,Fields.get?_nil,inputTypes]

theorem ofKind_kept {inside : List Element} (kept : ∀ element ∈ inside, element.kind = kind) :
    ofKind kind inside = inside :=
  List.filter_eq_self.mpr fun element there => decide_eq_true (kept element there)

theorem defined_nonEmpty (name : String) (built : List Value) :
    defined [(name,Body.ofList? (unlessEmpty built))] = nonEmpty name built := by
  rw [nonEmpty,unlessEmpty]
  cases built.isEmpty <;> rfl

theorem defined_content (there : ∀ value ∈ built, value.isAbsent = false) :
    defined [("content",ofOption (tabContent built))] = children .tab built := by
  match built with
  | [] => rfl
  | [content] => exact List.filter_cons_of_pos (by simp [ofOption,tabContent,there content List.mem_cons_self])
  | first :: second :: rest => rfl

theorem branch_fills {inside : List Element} {body : Body}
    (kept : ∀ wanted ∈ kind.member, ∀ element ∈ inside, element.kind = wanted)
    (made : branch attributes inside kind = some body) : Fills kind first attributes (written inside) body := by
  have whole (wanted : Kind) (known : kind.member = some wanted) : ofKind wanted inside = inside :=
    ofKind_kept (kept wanted known)
  cases kind <;> cases made
  all_goals
    refine ⟨rfl,?_,?_⟩
    · simp only [particular,List.forall_mem_cons,List.not_mem_nil,false_implies,implies_true,and_true]
      simp [attributeFor,Factory.fallback,Factory.subjectKey,Factory.blank,Factory.defaults,Factory.shown,Body.fields,
        Body.boxFields,box,Fields.get?_cons,Fields.get?_nil,edges,triggers,boxAligns,boxJustifies]
  case menu | contextMenu | tabs | treeView =>
    rw [whole _ rfl]
    rfl
  case menuItem =>
    rw [whole _ rfl]
    exact defined_nonEmpty "submenu" _
  case treeNode =>
    rw [whole _ rfl]
    exact defined_nonEmpty "children" _
  case tab =>
    refine defined_content fun value there => ?_
    obtain ⟨element,_,rfl⟩ := List.mem_map.mp there
    rfl
  case vbox | hbox => rfl

theorem table_fills {columns : List Element} :
    Fills .table first attributes (written columns) (table attributes columns) := by
  refine ⟨rfl,?_,rfl⟩
  simp only [particular,List.forall_mem_cons,List.not_mem_nil,false_implies,implies_true,and_true]
  simp [attributeFor,Factory.fallback,Factory.subjectKey,Factory.blank,Factory.defaults,Factory.shown,Body.fields,table,
    Fields.get?_cons,Fields.get?_nil]

-- What every element has that is built without a style.
def plainly (attributes : Value) : Common :=
  ⟨(Attributes.read "id" attributes).text?,none,Attributes.truth true (Attributes.read "visible" attributes)⟩

theorem common_plain (unstyled : Attributes.read "style" attributes = absent) :
    common scope attributes = pure (plainly attributes) := by
  have style : Build.style scope attributes = pure none := by
    rw [Build.style,unstyled]
    rfl
  rw [common,style]
  rfl

theorem column_fills {key : String} (named : Attributes.read "key" attributes = text key)
    (unstyled : Attributes.read "style" attributes = absent) : ∃ body,
      column scope attributes = pure (some ((plainly attributes).element body)) ∧
        ∀ built, Fills .column (text key) attributes built body := by
  have keyed : word.Taken absent (text key) (text key) := taken_word (text key)
  have given : (Attributes.read "key" attributes).text? = some key := by
    rw [named]
    rfl
  -- The body is found where the column is built.
  apply Exists.intro
  constructor
  · rw [column,given]
    dsimp only
    rw [common_plain unstyled]
    rfl
  refine fun built => ⟨rfl,?_,rfl⟩
  simp only [particular,List.forall_mem_cons,List.not_mem_nil,false_implies,implies_true,and_true]
  simp [attributeFor,Factory.fallback,Factory.subjectKey,Factory.blank,Factory.defaults,Factory.shown,Body.fields,
    Fields.get?_cons,Fields.get?_nil,named,keyed,cellAligns]

theorem get?_body {element : Element} (apart : key ∉ ["type", "id", "style", "visible"]) :
    Fields.get? key element.allFields = Fields.get? key element.body.fields := by
  simp only [List.mem_cons,List.not_mem_nil,or_false,not_or,@eq_comm _ key] at apart
  obtain ⟨type,id,style,visible⟩ := apart
  rw [Element.allFields,Fields.get?_append,Fields.get?_cons,if_neg type,Fields.get?_cons,if_neg id,Fields.get?_cons,
    if_neg style,Fields.get?_cons,if_neg visible]
  rfl

theorem Fills.all {body : Body} (fills : Fills kind first attributes built body) :
    ∀ entry ∈ Property.all kind, entry.2.Taken ((Fields.get? entry.1 (Factory.fallback kind first)).getD absent)
      (Attributes.read (attributeFor kind entry.1) attributes)
      ((Fields.get? entry.1 ((plainly attributes).element body).allFields).getD absent) := by
  obtain ⟨id,visible,style⟩ := Factory.fallback_shared kind first
  intro entry there
  rcases List.mem_append.mp there with shared | special
  · have apart {key : String} (other : key ≠ "inputType") : attributeFor kind key = key := if_neg fun both => other both.2
    simp only [List.mem_cons,List.not_mem_nil,or_false] at shared
    rcases shared with rfl | rfl | rfl
    · rw [id,apart (by decide)]
      exact taken_word _
    · rw [visible,apart (by decide)]
      exact taken_truth true _
    · rw [style,apart (by decide)]
      exact taken_unset _
  · rw [get?_body (particular_apart kind entry special)]
    exact fills.taken entry special

theorem Fills.beside {body : Body} (fills : Fills kind first attributes built body) (other : key ≠ "type")
    (unknown : key ∉ Fields.keys (Property.all kind)) :
    (Fields.get? key ((plainly attributes).element body).allFields).getD absent =
      (Fields.get? key (children kind built)).getD absent := by
  have apart : key ∉ ["type", "id", "style", "visible"] := by
    intro there
    simp only [List.mem_cons,List.not_mem_nil,or_false] at there
    rcases there with rfl | rfl | rfl | rfl
    · exact other rfl
    all_goals exact unknown (by simp [Property.all,Fields.keys])
  have once : (Fields.keys body.fields).Nodup := by
    have whole := ((plainly attributes).element body).allFields_once
    rw [Element.allFields,Fields.keys,List.map_append] at whole
    exact (List.nodup_append.mp whole).2.1
  have kept : (!(Fields.keys (Property.all kind)).contains key) = true := by simpa using unknown
  have filtered : (Fields.keys (body.fields.filter fun entry =>
      !(Fields.keys (Property.all kind)).contains entry.1)).Nodup := once.sublist (List.filter_sublist.map Prod.fst)
  rw [get?_body apart,← fills.others,get?_defined filtered,
    Fields.get?_filter (fun name => !(Fields.keys (Property.all kind)).contains name) kept]
  change (Fields.get? key body.fields).getD absent = _
  cases Fields.get? key body.fields with
  | none => rfl
  | some value => cases value <;> rfl

theorem held_getD (key : String) (fields : Fields Value) :
    held key fields = present? ((Fields.get? key fields).getD absent) := by
  rw [held]
  cases Fields.get? key fields <;> rfl

theorem held_defined (key : String) {fields : Fields Value} (once : (Fields.keys fields).Nodup) :
    held key (defined fields) = present? ((Fields.get? key fields).getD absent) := by
  rw [held,get?_defined once]
  cases Fields.get? key fields with
  | none => rfl
  | some value => cases value <;> rfl

theorem Fills.same {body : Body} (fills : Fills kind first attributes built body) (well : Given kind given)
    (sets : Attributes.entries attributes = attributesOf kind given) (known : key ∈ Fields.keys (Property.all kind))
    (distinct : Distinct (((Fields.get? key given).or (Fields.get? key (Factory.fallback kind first))).getD absent)) :
    Value.same ((Fields.get? key ((plainly attributes).element body).allFields).getD absent)
      (((Fields.get? key given).or (Fields.get? key (Factory.fallback kind first))).getD absent) = true := by
  have read := read_given well sets known
  cases found : Fields.get? key given with
  | none =>
    obtain ⟨property,there⟩ := of_key known
    rw [found] at read distinct
    rw [(fills.all (key,property) there).nothing read,Option.none_or]
    exact same_refl distinct
  | some value =>
    obtain ⟨property,there,admits⟩ := well.admitted (key,value) (Fields.mem_of_get? found)
    have taken := fills.all (key,property) there
    rw [found] at read distinct
    rw [read] at taken
    exact taken.admitted admits distinct

theorem fallback_known (kind : Kind) (first : Value) (built : List Value) : ∀ name ∈ Fields.keys (Factory.fallback kind first),
    name ∈ Fields.keys (Property.all kind) ∨ name ∈ Fields.keys (children kind built) := by
  cases kind <;> simp [Factory.fallback,Factory.subjectKey,Factory.defaults,Factory.shown,Fields.keys,Property.all,
    particular,children]

theorem filled_same {body : Body} (fills : Fills kind (Factory.subject kind (arguments kind given built)) attributes built body)
    (well : Given kind given) (sets : Attributes.entries attributes = attributesOf kind given)
    (distinct : Distinct ((plainly attributes).element body).toValue)
    (distinct' : Distinct (object (arguments kind given built))) :
    same ((plainly attributes).element body).toValue (Factory.called kind (arguments kind given built)) = true := by
  obtain ⟨fields,made,distinctMade,listed⟩ := Factory.called_fields kind distinct'
  rw [made]
  refine (same_object distinct distinctMade).mpr fun key => ?_
  have written := held_defined key ((plainly attributes).element body).allFields_once
  refine written ▸ held_getD key fields ▸ present?_same ?_
  have whole : Distinct ((Fields.get? key fields).getD absent) :=
    distinct_getD (fun held there => (distinct_object.mp distinctMade).2 (key,held) (Fields.mem_of_get? there)) trivial
  have inside := listed key
  by_cases typed : "type" = key
  · rw [if_pos typed] at inside
    rw [inside,← typed,← fills.named]
    exact same_refl trivial
  rw [if_neg typed,arguments,Fields.get?_append] at inside
  by_cases known : key ∈ Fields.keys (Property.all kind)
  · rw [get?_children known,Option.or_none] at inside
    rw [inside] at whole ⊢
    exact fills.same well sets known whole
  · have ungiven : Fields.get? key given = none := Fields.get?_eq_none.mpr fun there => known (well.known key there)
    have equal : Fields.get? key fields = Fields.get? key (children kind built) := by
      rw [inside,ungiven,Option.none_or]
      cases found : Fields.get? key (children kind built) with
      | some value => rfl
      | none =>
        rw [Option.none_or]
        refine Fields.get?_eq_none.mpr fun there => ?_
        rcases fallback_known kind _ built key there with property | child
        · exact known property
        · exact Fields.get?_eq_none.mp found child
    rw [fills.beside (Ne.symm typed) known,← equal]
    exact same_refl whole

end Build

end Trifold
