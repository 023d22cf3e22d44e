import Trifold.Proofs.Source.Build
import Trifold.Proofs.Style.Registry
import Trifold.Proofs.Value.Spread

namespace Trifold

namespace Value

variable {value : Value}

theorem distinct_standard (owner : Owner) (key : String) : Distinct (standard owner key) := by
  unfold standard
  split
  · trivial
  · split <;> trivial

theorem distinct_getD {found : Option Value} {other : Value} (each : ∀ held ∈ found, Distinct held) (rest : Distinct other) :
    Distinct (found.getD other) := by
  cases found with
  | none => exact rest
  | some held => exact each held rfl

theorem distinct_get (distinct : Distinct value) (key : String) : Distinct (value.get key) := by
  have listed {fields : Fields Value} (each : ∀ entry ∈ fields, Distinct entry.2) :
      ∀ held ∈ Fields.get? key fields, Distinct held :=
    fun held found => each (key,held) (Fields.mem_of_get? found)
  induction value using members with
  | record bare fields _ =>
    refine distinct_getD (listed (distinct_object.mp distinct).2) ?_
    cases bare
    · exact distinct_standard .record key
    · trivial
  | heir base locked fields above _ =>
    exact distinct_getD (listed (distinctFields_iff.mp distinct.2.2)) (above distinct.1)
  | list items _ =>
    refine distinct_getD ?_ (distinct_standard .list key)
    unfold itemAt
    split
    · rintro _ ⟨⟩
      trivial
    · intro held found
      obtain ⟨position,_,found⟩ := Option.bind_eq_some_iff.mp found
      exact distinctItems_iff.mp distinct held (List.mem_of_getElem? found)
  | plain value flat =>
    cases value with
    | list | record | heir => cases flat
    | text s =>
      refine distinct_getD ?_ (distinct_standard .text key)
      unfold unitAt
      split
      · rintro _ ⟨⟩
        trivial
      · intro held found
        obtain ⟨position,_,found⟩ := Option.bind_eq_some_iff.mp found
        obtain ⟨unit,_,rfl⟩ := Option.map_eq_some_iff.mp found
        trivial
    | function f =>
      refine distinct_getD ?_ (distinct_standard .function key)
      unfold functionAt
      split
      · rintro _ ⟨⟩
        trivial
      · split
        · rintro _ ⟨⟩
          trivial
        · exact nofun
    | symbol =>
      unfold get
      split
      · trivial
      · exact distinct_standard .symbol key
    | ancestor =>
      unfold get
      split
      · trivial
      · exact distinct_standard .record key
    | _ => first | exact distinct_standard _ key | trivial

theorem distinct_ofOption {given : Option Value} (each : ∀ held ∈ given, Distinct held) : Distinct (ofOption given) := by
  cases given with
  | none => trivial
  | some held => exact each held rfl

@[simp] theorem distinct_ofText? (s : Option String) : Distinct (ofText? s) := by cases s <;> trivial

@[simp] theorem distinct_ofNumber? (x : Option Float) : Distinct (ofNumber? x) := by cases x <;> trivial

@[simp] theorem distinct_text (s : String) : Distinct (text s) := trivial

@[simp] theorem distinct_bool (truth : Bool) : Distinct (bool truth) := trivial

@[simp] theorem distinct_number (x : Float) : Distinct (number x) := trivial

theorem distinct_list {items : List Value} : Distinct (list items) ↔ ∀ item ∈ items, Distinct item := distinctItems_iff

theorem distinct_texts (all : List String) : Distinct (texts all) := by
  refine distinct_list.mpr fun item there => ?_
  obtain ⟨s,_,rfl⟩ := List.mem_map.mp there
  trivial

theorem distinct_numbers (xs : List Float) : Distinct (list (xs.map number)) := by
  refine distinct_list.mpr fun item there => ?_
  obtain ⟨x,_,rfl⟩ := List.mem_map.mp there
  trivial

end Value

namespace Attributes
open Value

variable {source : Value}

theorem pair?_distinct {item value : Value} {key : String} (distinct : Distinct item) (paired : pair? item = some (key,value)) :
    Distinct value := by
  unfold pair? at paired
  split at paired
  · cases paired
    exact distinct_list.mp distinct value (List.mem_cons_of_mem _ List.mem_cons_self)
  · cases paired

theorem entries_distinct (distinct : Distinct source) : ∀ entry ∈ Attributes.entries source, Distinct entry.2 := by
  intro entry there
  unfold Attributes.entries at there
  split at there
  · obtain ⟨item,listed,paired⟩ := List.mem_filterMap.mp there
    exact pair?_distinct (distinct_list.mp distinct item listed) paired
  · cases source with
    | record bare fields => exact (distinct_object.mp distinct).2 entry there
    | _ => cases there

theorem read_distinct (distinct : Distinct source) (key : String) : Distinct (read key source) := by
  unfold read
  split
  · cases found : List.find? _ _ with
    | none => trivial
    | some entry =>
      obtain ⟨item,listed,paired⟩ := List.mem_filterMap.mp (List.mem_of_find?_eq_some found)
      exact pair?_distinct (distinct_list.mp distinct item listed) paired
  · split
    · exact distinct_get distinct key
    · trivial

end Attributes

namespace Style
open Value

variable {style : Style}

theorem Colored.distinct {value : Value} (colored : Colored value) : Distinct value := by
  cases colored with
  | channels xs => exact distinct_numbers xs
  | _ => trivial

theorem scalars_distinct : (∀ entry ∈ style.scalars, Distinct entry.2) ↔ Distinct style.fg ∧ Distinct style.bg ∧
    Distinct style.padding ∧ Distinct style.margin ∧ Distinct style.width ∧ Distinct style.height ∧ Distinct style.align := by
  simp [scalars]

theorem given_distinct {value other : Value} (distinct : Distinct value) (distinct' : Distinct other) :
    Distinct (value.given other) := by
  unfold given
  split
  · exact distinct'
  · exact distinct

theorem orElse_distinct {value other : Value} (distinct : Distinct value) (distinct' : Distinct other) :
    Distinct (value.orElse other) := by
  unfold orElse
  split
  · exact distinct'
  · exact distinct

theorem set_distinct (each : ∀ entry ∈ style.scalars, Distinct entry.2) (entry : String × Value) :
    ∀ entry' ∈ (style.set entry).scalars, Distinct entry'.2 := by
  rw [scalars_distinct] at each ⊢
  obtain ⟨fg,bg,padding,margin,width,height,align⟩ := each
  have color (value : Value) := (color_colored value).distinct
  unfold set
  split
  · exact ⟨given_distinct (color _) fg,bg,padding,margin,width,height,align⟩
  · exact ⟨fg,given_distinct (color _) bg,padding,margin,width,height,align⟩
  · exact ⟨fg,bg,padding,margin,width,height,align⟩
  · exact ⟨fg,bg,given_distinct (distinct_ofNumber? _) padding,margin,width,height,align⟩
  · exact ⟨fg,bg,padding,given_distinct (distinct_ofNumber? _) margin,width,height,align⟩
  · exact ⟨fg,bg,padding,margin,given_distinct (distinct_ofNumber? _) width,height,align⟩
  · exact ⟨fg,bg,padding,margin,width,given_distinct (distinct_ofNumber? _) height,align⟩
  · exact ⟨fg,bg,padding,margin,width,height,given_distinct (distinct_ofText? _) align⟩
  · exact ⟨fg,bg,padding,margin,width,height,align⟩

theorem ofAttributes_distinct (source : Value) : ∀ entry ∈ (ofAttributes source).scalars, Distinct entry.2 := by
  have empty : ∀ entry ∈ empty.scalars, Distinct entry.2 := by
    rw [scalars_distinct]
    exact ⟨trivial,trivial,trivial,trivial,trivial,trivial,trivial⟩
  unfold ofAttributes
  exact List.foldlRecOn (motive := fun style : Style => ∀ entry ∈ style.scalars, Distinct entry.2) _ _ empty
    fun style each entry _ => set_distinct each entry

theorem merge_distinct (a b : Style) (first : ∀ entry ∈ a.scalars, Distinct entry.2)
    (second : ∀ entry ∈ b.scalars, Distinct entry.2) : ∀ entry ∈ (a.merge b).scalars, Distinct entry.2 := by
  rw [scalars_distinct] at first second ⊢
  obtain ⟨fg,bg,padding,margin,width,height,align⟩ := first
  obtain ⟨fg',bg',padding',margin',width',height',align'⟩ := second
  exact ⟨orElse_distinct fg' fg,orElse_distinct bg' bg,orElse_distinct padding' padding,orElse_distinct margin' margin,
    orElse_distinct width' width,orElse_distinct height' height,orElse_distinct align' align⟩

theorem toValue_distinct (made : Made style) (each : ∀ entry ∈ style.scalars, Distinct entry.2) :
    Distinct style.toValue := by
  have once : (Fields.keys (("attrs",list style.attrs) :: style.scalars)).Nodup := by simp [Fields.keys,scalars]
  refine distinct_object.mpr ⟨nodup_defined once,fun entry there => ?_⟩
  rcases List.mem_cons.mp (List.mem_filter.mp there).1 with rfl | scalar
  · refine distinct_list.mpr fun attr listed => ?_
    obtain ⟨s,rfl⟩ := made.attrs attr listed
    trivial
  · exact each entry scalar

end Style

namespace Entity
open Value

variable {host : Host} {entity : Entity}

-- What an entity holds, and all those inside.
inductive Proper : Entity → Prop
  | mk {entity : Entity} (attributes : Distinct entity.attributes)
      (inside : ∀ held, entity.inside = .entities held → ∀ child ∈ held, Proper child) : Proper entity

theorem Proper.contents {held : List Entity} (proper : entity.Proper) (ended : entity.contents host = .ok held) :
    ∀ child ∈ held, child.Proper := by
  obtain ⟨name,attributes,contents,written⟩ := entity
  cases proper with
  | mk _ inside =>
    cases contents with
    | entities =>
      cases ended
      exact inside held rfl
    | other | nothing => cases ended

theorem share_proper {collection wanted : Value} {held : List Entity} (proper : entity.Proper)
    (ended : share collection wanted entity host = .ok held) : ∀ child ∈ held, child.Proper := by
  unfold share at ended
  cases named : entity.name with
  | none =>
    rw [named] at ended
    cases ended
  | some name =>
    rw [named] at ended
    obtain ⟨opened,_,ended⟩ := Ask.ok_of_bind ended
    cases opened with
    | true => exact proper.contents ended
    | false =>
      cases ended
      split
      · exact List.forall_mem_singleton.mpr proper
      · exact List.forall_mem_nil _

theorem nestedFrom_proper {collection wanted : Value} {children held : List Entity} (proper : ∀ child ∈ children, child.Proper)
    (ended : nestedFrom collection wanted children host = .ok held) : ∀ child ∈ held, child.Proper := by
  induction children generalizing held with
  | nil =>
    cases ended
    exact List.forall_mem_nil _
  | cons child rest ih =>
    obtain ⟨here,later⟩ := List.forall_mem_cons.mp proper
    obtain ⟨first,shared,ended⟩ := Ask.ok_of_bind ended
    obtain ⟨others,gone,ended⟩ := Ask.ok_of_bind ended
    cases ended
    exact List.forall_mem_append.mpr ⟨share_proper here shared,ih later gone⟩

-- A value that lists each name once is an entity that does, and so is all that is inside it.
mutual
theorem ofValue_proper (value : Value) (distinct : Distinct value) : (ofValue value).Proper := by
  rw [ofValue]
  refine .mk (distinct_get distinct "attrs") ?_
  intro held there
  dsimp only [Entity.inside] at there
  split at there
  · rename_i items found
    have smaller := sizeOf_listed_lt "entities" (by decide) found
    cases there
    exact ofValues_proper items (distinct_list.mp (found ▸ distinct_get distinct "entities"))
  · cases there
    intro child listed
    obtain ⟨character,_,rfl⟩ := List.mem_map.mp listed
    exact .mk trivial nofun
  all_goals cases there
termination_by sizeOf value
theorem ofValues_proper (values : List Value) (distinct : ∀ value ∈ values, Distinct value) :
    ∀ entity ∈ ofValues values, entity.Proper := by
  cases values with
  | nil =>
    rw [ofValues]
    exact List.forall_mem_nil _
  | cons value rest =>
    obtain ⟨here,later⟩ := List.forall_mem_cons.mp distinct
    rw [ofValues]
    exact List.forall_mem_cons.mpr ⟨ofValue_proper value here,ofValues_proper rest later⟩
termination_by sizeOf values
end

end Entity

namespace Build
open Value

variable {scope : Scope} {entity : Entity} {attributes value : Value} {kind : Kind}

theorem inner_proper {held : List Entity} (proper : entity.Proper) (ended : inner entity kind scope.host = .ok held) :
    ∀ child ∈ held, child.Proper := by
  unfold inner at ended
  cases known : collection kind with
  | none =>
    rw [known] at ended
    exact proper.contents ended
  | some pair =>
    rw [known] at ended
    obtain ⟨children,contents,ended⟩ := Ask.ok_of_bind ended
    exact Entity.nestedFrom_proper (proper.contents contents) ended

theorem withPayload_distinct (signal : String) (distinct : Distinct value) : Distinct (withPayload signal value) := by
  unfold withPayload
  refine distinct_object.mpr ?_
  split
  · simp [Fields.keys,distinct,Distinct]
  · simp [Fields.keys,Distinct]

theorem handler?_distinct {handler : Value} (distinct : Distinct value) (read : handler? value = some handler) :
    Distinct handler := by
  rw [handler?.eq_def] at read
  split at read
  · split at read
    · cases read
    · cases read
      trivial
  · obtain ⟨signal,_,made⟩ := Option.bind_eq_some_iff.mp read
    cases made
    exact withPayload_distinct signal (distinct_get distinct "payload")
  · obtain ⟨⟨signal,payload⟩,paired,made⟩ := Option.bind_eq_some_iff.mp read
    dsimp only at made
    split at made
    · cases made
      exact withPayload_distinct signal (Attributes.pair?_distinct distinct paired)
    · cases made

theorem datum_distinct (label : String) (x : Float) : Distinct (datum label x) :=
  distinct_object.mpr (by simp [Fields.keys,Distinct])

theorem chartData_distinct (value : Value) : ∀ item ∈ chartData value, Distinct item := by
  intro item there
  obtain ⟨given,_,read⟩ := List.mem_filterMap.mp there
  rw [datum?.eq_def] at read
  split at read
  all_goals
    obtain ⟨_,_,read⟩ := Option.bind_eq_some_iff.mp read
    obtain ⟨_,_,made⟩ := Option.bind_eq_some_iff.mp read
    cases made
    exact datum_distinct _ _

theorem rows_distinct (distinct : Distinct value) : ∀ row ∈ rows value, Distinct row := by
  intro row there
  have listed := (List.mem_filter.mp there).1
  cases value with
  | list items => exact distinct_list.mp distinct row listed
  | _ => cases listed

theorem common_distinct {shared : Common} (ended : (common scope attributes).outcome = .ok shared) :
    ∀ made ∈ shared.style, Distinct made.toValue := by
  have told := common_resolved ended
  intro made here
  exact Style.toValue_distinct (Registry.resolveRef_made told made here)
    (Registry.resolveRef_kept Style.ofAttributes_distinct Style.merge_distinct told made here)

theorem element_distinct (shared : Common) {body : Body} (styled : ∀ made ∈ shared.style, Distinct made.toValue)
    (fields : ∀ entry ∈ body.fields, Distinct entry.2) : Distinct (shared.element body).toValue := by
  have style : Distinct (ofOption (shared.element body).style) := by
    refine distinct_ofOption fun value here => ?_
    obtain ⟨made,given,rfl⟩ := Option.map_eq_some_iff.mp here
    exact styled made given
  refine distinct_object.mpr ⟨nodup_defined (Element.allFields_once _),fun entry there => ?_⟩
  rcases List.mem_append.mp (List.mem_filter.mp there).1 with first | field
  · simp only [List.mem_cons,List.not_mem_nil,or_false] at first
    rcases first with rfl | rfl | rfl | rfl
    · trivial
    · exact distinct_ofText? _
    · exact style
    · trivial
  · exact fields entry field

-- What a reader takes from well-formed attributes.
theorem handler_distinct (distinct : Distinct attributes) (key : String) :
    Distinct (ofOption (handler? (Attributes.read key attributes))) :=
  distinct_ofOption fun _ read => handler?_distinct (Attributes.read_distinct distinct key) read

theorem leaf_distinct {body : Body} (distinct : Distinct attributes) (made : leaf attributes kind = some body) :
    ∀ entry ∈ body.fields, Distinct entry.2 := by
  have handlers := handler_distinct distinct
  have points (key : String) := distinct_list.mpr (chartData_distinct (Attributes.read key attributes))
  cases kind <;> cases made <;> simp [Body.fields,handlers,distinct_numbers,points]

theorem branch_distinct {inside : List Element} {body : Body} (distinct : Distinct attributes)
    (each : ∀ element ∈ inside, Distinct element.toValue) (made : branch attributes inside kind = some body) :
    ∀ entry ∈ body.fields, Distinct entry.2 := by
  have handlers := handler_distinct distinct
  have value (key : String) := Attributes.read_distinct distinct key
  have all : ∀ item ∈ written inside, Distinct item := by
    intro item there
    obtain ⟨element,listed,rfl⟩ := List.mem_map.mp there
    exact each element listed
  have whole : Distinct (list (written inside)) := distinct_list.mpr all
  have some (kind : Kind) : ∀ item ∈ written (ofKind kind inside), Distinct item := by
    intro item there
    obtain ⟨element,listed,rfl⟩ := List.mem_map.mp there
    exact each element (List.mem_filter.mp listed).1
  have part (kind : Kind) : Distinct (list (written (ofKind kind inside))) := distinct_list.mpr (some kind)
  have kept (kind : Kind) : Distinct (Body.ofList? (unlessEmpty (written (ofKind kind inside)))) := by
    refine distinct_ofOption fun held here => ?_
    obtain ⟨values,given,rfl⟩ := Option.map_eq_some_iff.mp here
    rw [(unlessEmpty_some given).1]
    exact part kind
  have content : Distinct (ofOption (tabContent (written inside))) := by
    refine distinct_ofOption fun held here => ?_
    generalize written inside = values at here all whole
    unfold tabContent at here
    split at here <;> cases here
    · exact all _ List.mem_cons_self
    · exact whole
  have names : Distinct (ofOption ((Attributes.texts? (Attributes.read "expandedNodes" attributes)).map texts)) := by
    refine distinct_ofOption fun held here => ?_
    obtain ⟨names,_,rfl⟩ := Option.map_eq_some_iff.mp here
    exact distinct_texts names
  cases kind <;> cases made <;> simp [Body.fields,Body.boxFields,box,handlers,value,whole,part,kept,content,names]

theorem table_distinct {columns : List Element} (distinct : Distinct attributes)
    (each : ∀ column ∈ columns, Distinct column.toValue) :
    ∀ entry ∈ (table attributes columns).fields, Distinct entry.2 := by
  have handlers := handler_distinct distinct
  have data : Distinct (list (rows (Attributes.read "data" attributes))) :=
    distinct_list.mpr (rows_distinct (Attributes.read_distinct distinct "data"))
  have whole : Distinct (list (written columns)) := by
    refine distinct_list.mpr fun item there => ?_
    obtain ⟨column,listed,rfl⟩ := List.mem_map.mp there
    exact each column listed
  simp [table,Body.fields,handlers,data,whole]

theorem column_distinct {column : Element} (ended : (Build.column scope attributes).outcome = .ok (some column)) :
    Distinct column.toValue := by
  rw [Build.column] at ended
  split at ended
  · cases ended
  · obtain ⟨shared,common,ended⟩ := Run.ok_of_bind ended
    cases ended
    refine element_distinct shared (common_distinct common) ?_
    have formatter (f : Option Function) : Distinct (ofOption (f.map function)) := by cases f <;> trivial
    simp [Body.fields,formatter]

theorem plainColumn_distinct (key : String) : Distinct (plainColumn key).toValue :=
  element_distinct ⟨none,none,true⟩ nofun (by simp [Body.fields,ofOption,Distinct])

theorem declaredColumns_distinct {inside columns : List Element} (each : ∀ element ∈ inside, Distinct element.toValue)
    (ended : (declaredColumns scope attributes (ofKind .column inside)).outcome = .ok columns) :
    ∀ column ∈ columns, Distinct column.toValue := by
  rw [declaredColumns] at ended
  split at ended
  · exact columnsFrom_kept plainColumn_distinct (fun _ _ _ => column_distinct) ended
  · cases ended
    exact fun column listed => each column (List.mem_filter.mp listed).1

theorem distinct_kept (scope : Scope) : Keeps scope Entity.Proper fun element => Distinct element.toValue := by
  refine ⟨inner_proper,?_⟩
  intro entity built proper within ended
  have distinct : Distinct entity.attributes := by
    cases proper
    assumption
  rcases element_ok ended with column | ⟨shared,common,⟨kind,body,made,rfl⟩ | ⟨inside,columns,held,declared,rfl⟩ |
    ⟨kind,inside,body,held,made,rfl⟩⟩
  · exact column_distinct column
  · exact element_distinct shared (common_distinct common) (leaf_distinct distinct made)
  · exact element_distinct shared (common_distinct common)
      (table_distinct distinct (declaredColumns_distinct (within held) declared))
  · exact element_distinct shared (common_distinct common) (branch_distinct distinct (within held) made)

-- Whatever is built of entities that list each name once lists each name once.
theorem built_distinct {built : Element} (proper : entity.Proper)
    (ended : (element scope entity).outcome = .ok (some built)) : Distinct built.toValue :=
  element_kept (distinct_kept scope) entity proper ended

theorem elements_distinct {entities : List Entity} {all : List Element} (proper : ∀ entity ∈ entities, entity.Proper)
    (ended : (elements scope entities).outcome = .ok all) : ∀ built ∈ all, Distinct built.toValue :=
  elements_kept (distinct_kept scope) entities proper ended

end Build

end Trifold
