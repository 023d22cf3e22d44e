import Trifold.Proofs.Agree
import Trifold.Proofs.Source.Filled
import Trifold.Proofs.Source.Grouped

namespace Trifold

-- Which entities a kind takes as its children: those of its members, or any.
def Kind.Accepts (kind : Kind) (child : Entity) : Prop :=
  (∃ wanted ∈ kind.member, child.GoesBy wanted.name) ∨ kind = .tab ∨ kind = .vbox ∨ kind = .hbox

namespace Build
open Value Property

variable {kind outer : Kind} {scope : Scope} {entity : Entity} {attributes : Value} {nested : List Entity}
  {given : Fields Value}

-- What an entity becomes, kind by kind, where it has no style.
theorem element_leaf {body : Body} (named : entity.GoesBy kind.name)
    (unstyled : Attributes.read "style" entity.attributes = absent) (made : leaf entity.attributes kind = some body) :
    element scope entity = pure (some ((plainly entity.attributes).element body)) := by
  obtain ⟨name,called,spelled⟩ := named
  rw [element.eq_1,called]
  dsimp only
  rw [spelled,Kind.ofName?_name]
  cases kind <;> cases made <;> rw [common_plain unstyled] <;> rfl

theorem element_branch {body : List Element → Body} (named : entity.GoesBy kind.name)
    (unstyled : Attributes.read "style" entity.attributes = absent)
    (made : ∀ inside, branch entity.attributes inside kind = some (body inside)) :
    element scope entity = within scope entity kind >>= fun inside =>
      pure (some ((plainly entity.attributes).element (body inside))) := by
  obtain ⟨name,called,spelled⟩ := named
  rw [element.eq_1,called]
  dsimp only
  rw [spelled,Kind.ofName?_name]
  have first := made []
  cases kind with
  | menu | menuItem | contextMenu | tabs | tab | treeView | treeNode | vbox | hbox =>
    rw [common_plain unstyled]
    simp only [made]
    rfl
  | _ => cases first

theorem element_declared (named : entity.GoesBy Kind.table.name)
    (unstyled : Attributes.read "style" entity.attributes = absent) :
    element scope entity = within scope entity .table >>= fun inside =>
      declaredColumns scope entity.attributes (ofKind .column inside) >>= fun columns =>
        pure (some ((plainly entity.attributes).element (table entity.attributes columns))) := by
  obtain ⟨name,called,spelled⟩ := named
  rw [element.eq_1,called]
  dsimp only
  rw [spelled,Kind.ofName?_name]
  change (within scope entity .table >>= fun inside =>
    declaredColumns scope entity.attributes (ofKind .column inside) >>= fun columns =>
      common scope entity.attributes >>= fun common => _) = _
  simp only [common_plain unstyled,Run.pure_bind]

theorem element_table (named : entity.GoesBy Kind.table.name)
    (unstyled : Attributes.read "style" entity.attributes = absent)
    (undeclared : Attributes.read "columns" entity.attributes = absent) :
    element scope entity = within scope entity .table >>= fun inside =>
      pure (some ((plainly entity.attributes).element (table entity.attributes (ofKind .column inside)))) := by
  have declared (nested : List Element) : declaredColumns scope entity.attributes nested = pure nested := by
    rw [declaredColumns,undeclared]
    cases nested <;> rfl
  rw [element_declared named unstyled]
  simp only [declared,Run.pure_bind]

theorem element_column (named : entity.GoesBy Kind.column.name) :
    element scope entity = column scope entity.attributes := by
  obtain ⟨name,called,spelled⟩ := named
  rw [element.eq_1,called]
  dsimp only
  rw [spelled,Kind.ofName?_name]

theorem leaf_or_branch (attributes : Value) (other : kind ≠ .table ∧ kind ≠ .column) :
    (∃ body, leaf attributes kind = some body) ∨
      ∃ body : List Element → Body, ∀ inside, branch attributes inside kind = some (body inside) := by
  cases kind with
  | table => exact absurd rfl other.1
  | column => exact absurd rfl other.2
  | menu | menuItem | contextMenu | tabs | tab | treeView | treeNode | vbox | hbox => exact .inr ⟨_,fun _ => rfl⟩
  | _ => exact .inl ⟨_,rfl⟩

-- An entity that goes by the name of a collection's members becomes one of them.
theorem element_kind {built : Element} (known : outer.member = some kind) (named : entity.GoesBy kind.name)
    (ended : (element scope entity).outcome = .ok (some built)) : built.kind = kind := by
  have among : kind = .column ∨ kind = .menuItem ∨ kind = .tab ∨ kind = .treeNode := by
    cases outer <;> cases known <;> decide
  rcases among with rfl | among
  · rw [element_column named,column] at ended
    split at ended
    · cases ended
    · obtain ⟨_,_,ended⟩ := Run.ok_of_bind ended
      cases ended
      rfl
  · obtain ⟨name,called,spelled⟩ := named
    rw [element.eq_1,called] at ended
    dsimp only at ended
    rw [spelled,Kind.ofName?_name] at ended
    rcases among with rfl | rfl | rfl
    all_goals
      obtain ⟨_,_,ended⟩ := Run.ok_of_bind ended
      obtain ⟨_,_,ended⟩ := Run.ok_of_bind ended
      cases ended
      rfl

theorem elements_kind {built : List Element} (known : outer.member = some kind)
    (named : ∀ child ∈ nested, child.GoesBy kind.name) (ended : (elements scope nested).outcome = .ok built) :
    ∀ element ∈ built, element.kind = kind := by
  induction nested generalizing built with
  | nil =>
    rw [elements] at ended
    cases ended
    exact List.forall_mem_nil _
  | cons child rest ih =>
    obtain ⟨here,later⟩ := List.forall_mem_cons.mp named
    rw [elements] at ended
    obtain ⟨made,begun,ended⟩ := Run.ok_of_bind ended
    obtain ⟨others,gone,ended⟩ := Run.ok_of_bind ended
    cases ended
    refine List.forall_mem_append.mpr ⟨fun element there => ?_,ih later gone⟩
    rw [Option.mem_toList.mp there] at begun
    exact element_kind known here begun

theorem collection_member {collection wanted : String} (known : Build.collection kind = some (collection,wanted)) :
    ∃ member, kind.member = some member ∧ wanted = member.name := by
  cases kind <;> cases known <;> exact ⟨_,rfl,rfl⟩

theorem accepts_member {wanted : Kind} (accepted : ∀ child ∈ nested, kind.Accepts child)
    (known : kind.member = some wanted) : ∀ child ∈ nested, child.GoesBy wanted.name := by
  intro child there
  rcases accepted child there with ⟨member,same,named⟩ | any
  · rw [known] at same
    cases same
    exact named
  · rcases any with rfl | rfl | rfl <;> cases known

theorem accepts_none (accepted : ∀ child ∈ nested, kind.Accepts child) (member : kind.member = none)
    (closed : kind ≠ .tab ∧ kind ≠ .vbox ∧ kind ≠ .hbox) : nested = [] := by
  refine List.eq_nil_iff_forall_not_mem.mpr fun child there => ?_
  rcases accepted child there with ⟨wanted,known,_⟩ | rfl | rfl | rfl
  · rw [member] at known
    cases known
  · exact closed.1 rfl
  · exact closed.2.1 rfl
  · exact closed.2.2 rfl

theorem within_nested (holds : entity.inside = .entities nested) (accepted : ∀ child ∈ nested, kind.Accepts child) :
    within scope entity kind = elements scope nested := by
  refine within_inner ?_
  cases known : Build.collection kind with
  | none =>
    rw [inner,known]
    dsimp only
    rw [Entity.contents,holds]
    rfl
  | some pair =>
    obtain ⟨member,isMember,same⟩ := collection_member known
    exact inner_grouped known holds (.refl pair.1 nested) (same ▸ accepts_member accepted isMember) scope.host

theorem read_style (well : Given kind given) (sets : Attributes.entries attributes = attributesOf kind given) :
    Attributes.read "style" attributes = absent := by
  have known : "style" ∈ Fields.keys (Property.all kind) := by simp [Property.all,Fields.keys]
  have same : attributeFor kind "style" = "style" := if_neg fun both => absurd both.2 (by decide)
  rw [← same,read_given well sets known,well.unstyled]
  rfl

theorem read_columns (well : Given .table given) (sets : Attributes.entries attributes = attributesOf .table given) :
    Attributes.read "columns" attributes = absent := by
  have unlisted : Fields.get? "columns" (Attributes.entries attributes) = none := by
    refine Fields.get?_eq_none.mpr fun there => ?_
    rw [sets,attributesOf,Fields.keys,List.map_map] at there
    obtain ⟨entry,listed,same⟩ := List.mem_map.mp there
    have known := well.known entry.1 (List.mem_map_of_mem listed)
    change attributeFor .table entry.1 = "columns" at same
    rw [attributeFor,if_neg fun both => Kind.noConfusion both.1] at same
    rw [same] at known
    revert known
    decide
  rw [Attributes.read_entries (eq_absent (Element.fieldNames_unanswered "columns" (by decide))),unlisted]
  rfl

theorem column_filled (well : Given .column given) (sets : Attributes.entries attributes = attributesOf .column given) :
    ∃ body, column scope attributes = pure (some ((plainly attributes).element body)) ∧
      ∀ built, Fills .column (Factory.subject .column (arguments .column given built)) attributes built body := by
  obtain ⟨key,keyed⟩ := well.key
  have read : Attributes.read "key" attributes = text key := by
    have known : "key" ∈ Fields.keys (Property.all .column) := by decide
    refine (read_given well sets known).trans ?_
    rw [keyed]
    rfl
  obtain ⟨body,made,fills⟩ := column_fills read (read_style well sets)
  refine ⟨body,made,fun built => ?_⟩
  have first : Factory.subject .column (arguments .column given built) = text key := by
    change (Fields.get? "key" (given ++ children .column built)).getD absent = _
    rw [Fields.get?_append,keyed]
    rfl
  rw [first]
  exact fills built

-- Whatever the kind, the children are built, and the body is filled from the attributes and from what they have become.
theorem element_filled (scope : Scope) (named : entity.GoesBy kind.name) (well : Given kind given)
    (sets : Attributes.entries entity.attributes = attributesOf kind given) (holds : entity.inside = .entities nested)
    (accepted : ∀ child ∈ nested, kind.Accepts child) : ∃ body : List Element → Body,
      (∀ inside, (∀ wanted ∈ kind.member, ∀ element ∈ inside, element.kind = wanted) →
        Fills kind (Factory.subject kind (arguments kind given (written inside))) entity.attributes (written inside)
          (body inside)) ∧
      element scope entity = elements scope nested >>= fun inside =>
        pure (some ((plainly entity.attributes).element (body inside))) := by
  have unstyled := read_style well sets
  have bare (member : kind.member = none) (closed : kind ≠ .tab ∧ kind ≠ .vbox ∧ kind ≠ .hbox) :
      elements scope nested = pure [] := by
    rw [accepts_none accepted member closed,elements]
  by_cases isColumn : kind = .column
  · subst isColumn
    obtain ⟨body,made,fills⟩ := column_filled well sets
    refine ⟨fun _ => body,fun inside _ => fills (written inside),?_⟩
    rw [bare rfl (by decide),element_column named,made]
    rfl
  by_cases isTable : kind = .table
  · subst isTable
    refine ⟨fun inside => table entity.attributes (ofKind .column inside),fun inside kept => ?_,?_⟩
    · dsimp only
      rw [ofKind_kept (kept .column rfl)]
      exact table_fills
    · rw [element_table named unstyled (read_columns well sets),within_nested holds accepted]
  rcases leaf_or_branch entity.attributes ⟨isTable,isColumn⟩ with ⟨body,made⟩ | ⟨body,made⟩
  · have member : kind.member = none := by cases kind <;> first | rfl | cases made
    have closed : kind ≠ .tab ∧ kind ≠ .vbox ∧ kind ≠ .hbox := by
      refine ⟨?_,?_,?_⟩ <;> rintro rfl <;> cases made
    refine ⟨fun _ => body,fun inside _ => leaf_fills made,?_⟩
    rw [bare member closed,element_leaf named unstyled made]
    rfl
  · refine ⟨body,fun inside kept => branch_fills kept (made inside),?_⟩
    rw [element_branch named unstyled made,within_nested holds accepted]

-- Where the children can be built the entity is, and equals what the factory makes; where they cannot, neither can it.
theorem element_factory (named : entity.GoesBy kind.name) (proper : entity.Proper) (well : Given kind given)
    (sets : Attributes.entries entity.attributes = attributesOf kind given) (holds : entity.inside = .entities nested)
    (accepted : ∀ child ∈ nested, kind.Accepts child) :
    Agree.Outcome (fun built made => ∃ element, made = some element ∧
        same element.toValue (Factory.called kind (arguments kind given (written built))) = true)
      (elements scope nested).outcome (element scope entity).outcome := by
  obtain ⟨body,fills,filled⟩ := element_filled scope named well sets holds accepted
  have inner : ∀ child ∈ nested, child.Proper := by
    cases proper with
    | mk _ inside => exact inside nested holds
  have attributes : Distinct entity.attributes := by
    cases proper
    assumption
  have each : ∀ entry ∈ given, Distinct entry.2 := by
    intro entry there
    refine Attributes.entries_distinct attributes (attributeFor kind entry.1,entry.2) ?_
    rw [sets]
    exact List.mem_map_of_mem there
  have ended (built : List Element) (gone : (elements scope nested).outcome = .ok built) :
      (element scope entity).outcome = .ok (some ((plainly entity.attributes).element (body built))) := by
    rw [filled]
    change (Run.bind _ _).outcome = _
    rw [Run.bind_ok _ _ built gone]
    rfl
  rw [filled]
  refine Agree.Outcome.run_next fun built gone => .ok ⟨_,rfl,?_⟩
  have whole : ∀ value ∈ written built, Distinct value := by
    intro value there
    obtain ⟨element,listed,rfl⟩ := List.mem_map.mp there
    exact elements_distinct inner gone element listed
  have kept : ∀ wanted ∈ kind.member, ∀ element ∈ built, element.kind = wanted := fun wanted known =>
    elements_kind known (accepts_member accepted known) gone
  exact filled_same (fills built kept) well sets (built_distinct proper (ended built gone))
    (arguments_distinct well each whole)

-- A menu item with a submenu of two.
def file : Fields Value := [("label",text "File"), ("action",text "open"), ("icon",text "folder")]

def fileItem : Entity := ⟨some "menu_item",object file,.entities [command "Open", command "Save"],.absent⟩

theorem element_factory_file : Given .menuItem file ∧
    (∀ child ∈ [command "Open", command "Save"], Kind.menuItem.Accepts child) ∧
    Agree.Outcome (fun built made => ∃ element, made = some element ∧
        same element.toValue (Factory.called .menuItem (arguments .menuItem file (written built))) = true)
      (elements ⟨[],.silent⟩ [command "Open", command "Save"]).outcome (element ⟨[],.silent⟩ fileItem).outcome := by
  have called : Entity.camel "menu_item" = "menuItem" := by decide
  have well : Given .menuItem file := by
    refine ⟨by decide,?_,nofun⟩
    intro entry there
    simp only [file,List.mem_cons,List.not_mem_nil,or_false] at there
    rcases there with rfl | rfl | rfl
    · exact ⟨word,by simp [Property.all,particular],"File",rfl⟩
    · exact ⟨signal,by simp [Property.all,particular],"open",by decide,rfl⟩
    · exact ⟨word,by simp [Property.all,particular],"folder",rfl⟩
  have accepted : ∀ child ∈ [command "Open", command "Save"], Kind.menuItem.Accepts child := by
    intro child there
    simp only [List.mem_cons,List.not_mem_nil,or_false] at there
    rcases there with rfl | rfl <;> exact .inl ⟨.menuItem,rfl,_,rfl,called⟩
  have inner (label : String) : (command label).Proper :=
    .mk (distinct_object.mpr (by simp [Fields.keys])) (by rintro _ ⟨⟩; exact List.forall_mem_nil _)
  have proper : fileItem.Proper := by
    refine .mk (distinct_object.mpr (by simp [file,Fields.keys])) ?_
    rintro _ ⟨⟩
    exact List.forall_mem_cons.mpr ⟨inner "Open",List.forall_mem_singleton.mpr (inner "Save")⟩
  exact ⟨well,accepted,element_factory ⟨_,rfl,called⟩ proper well rfl rfl accepted⟩

-- A gauge stands at nought where its value is left out. Its factory, called without one, leaves it out.
def dial : Entity := ⟨some "gauge",object [("label",text "CPU")],.entities [],.absent⟩

theorem gauge_unset : Given .gauge [("label",text "CPU")] ∧ ∃ built,
    element ⟨[],.silent⟩ dial = pure (some built) ∧
      same built.toValue (Factory.make .gauge absent (object [("label",text "CPU")])) = false := by
  have named : dial.GoesBy Kind.gauge.name := ⟨_,rfl,by decide⟩
  refine ⟨⟨by decide,?_,nofun⟩,⟨none,none,true,.gauge ⟨0,0,100,some "CPU"⟩⟩,?_,?_⟩
  · intro entry there
    cases List.mem_singleton.mp there
    exact ⟨word,by simp [Property.all,particular],"CPU",rfl⟩
  · exact element_leaf named rfl rfl
  · rw [Bool.eq_false_iff]
    intro equal
    have counted := (same_record.mp equal).2.1
    revert counted
    decide

end Build

end Trifold
