import Trifold.Proofs.Element.Whole
import Trifold.Proofs.Element.Written
import Trifold.Proofs.Platform.Quiet
import Trifold.Source.Build

namespace Trifold.Build
open Element

-- Each reader gives only what the element that holds it will accept.
theorem withPayload_taken (signal : String) (payload : Value) :
    Element.handler? (withPayload signal payload) = some (withPayload signal payload) := by
  rw [withPayload]
  cases plain : payload.isPlain with
  | false => rfl
  | true =>
    have there : Value.get "payload" (.object [("signal",.text signal), ("payload",payload)]) = payload := rfl
    have named : Value.get "signal" (.object [("signal",.text signal), ("payload",payload)]) = .text signal := rfl
    simp only [if_true,Element.handler?,there,named,plain]
    simp [Value.object,Value.isPlain,Value.text?]

theorem handler?_taken {value handler : Value} (read : handler? value = some handler) :
    Element.handler? handler = some handler := by
  rw [handler?.eq_def] at read
  split at read
  · split at read
    · cases read
    · cases read
      rfl
  · obtain ⟨signal,_,made⟩ := Option.bind_eq_some_iff.mp read
    cases made
    exact withPayload_taken signal _
  · obtain ⟨⟨signal,payload⟩,_,made⟩ := Option.bind_eq_some_iff.mp read
    dsimp only at made
    split at made
    · cases made
      exact withPayload_taken signal payload
    · cases made

theorem datum?_taken {value held : Value} (read : datum? value = some held) : Element.datum? held = some held := by
  rw [datum?.eq_def] at read
  split at read
  · obtain ⟨label,_,read⟩ := Option.bind_eq_some_iff.mp read
    obtain ⟨amount,_,made⟩ := Option.bind_eq_some_iff.mp read
    cases made
    rfl
  · obtain ⟨⟨label,given⟩,_,read⟩ := Option.bind_eq_some_iff.mp read
    obtain ⟨amount,_,made⟩ := Option.bind_eq_some_iff.mp read
    cases made
    rfl

theorem row?_taken {row : Value} (taken : isRow row = true) : row? row = some row := by
  rw [isRow,Bool.or_eq_true] at taken
  rw [row?]
  rcases taken with plain | paired
  · simp [plain]
  · cases row with
    | list items => simp [Value.list?]
    | _ => simp [Attributes.pairs?] at paired

theorem style?_taken (style : Style) : style? style.toValue = some style.toValue := by
  have attrs : Value.get "attrs" style.toValue = .list style.attrs := rfl
  rw [style?,attrs]
  rfl

-- An element that reads back as itself, in a tree with nothing foreign in it.
structure Built (element : Element) : Prop where
  read : ofValue? element.toValue = some element
  whole : Whole element.toValue

theorem built_element (common : Common) {body : Body} (typed : Typed body)
    (arranged : (common.element body).Arranged) (inside : ∀ held ∈ body.contents, Whole held) :
    Built (common.element body) := by
  have styled : ∀ style ∈ (common.element body).style, style? style = some style := by
    intro style here
    obtain ⟨given,_,rfl⟩ := Option.map_eq_some_iff.mp here
    exact style?_taken given
  have read := ofValue?_toValue (common.element body) styled typed
  exact ⟨read,.mk read arranged inside⟩

theorem column?_of_built {element : Element} (built : Built element) (kind : element.kind = .column) :
    column? element.toValue = some element.toValue := by
  have read := built.read
  simp only [ofValue?,Option.bind_eq_bind,Option.bind_eq_some_iff] at read
  obtain ⟨found,known,common,shared,body,held,same⟩ := read
  cases same
  have isColumn : found = .column := (kind_of_body? held).symm.trans kind
  cases isColumn
  obtain ⟨columnBody,held,_⟩ := Option.bind_eq_some_iff.mp held
  rw [column?,known,shared]
  simp only [Option.bind_eq_bind,Option.bind_some]
  rw [held]
  rfl

theorem written_whole {elements : List Element} (each : ∀ element ∈ elements, Built element) :
    ∀ value ∈ written elements, Whole value := by
  intro value listed
  obtain ⟨element,there,rfl⟩ := List.mem_map.mp listed
  exact (each element there).whole

theorem written_ofKind {elements : List Element} (each : ∀ element ∈ elements, Built element) (kind : Kind) :
    ∀ value ∈ written (ofKind kind elements), IsKind kind value ∧ Whole value := by
  intro value listed
  obtain ⟨element,there,rfl⟩ := List.mem_map.mp listed
  obtain ⟨member,same⟩ := List.mem_filter.mp there
  have built := each element member
  exact ⟨⟨element,built.read,of_decide_eq_true same⟩,built.whole⟩

theorem unlessEmpty_some {values kept : List Value} (given : kept ∈ unlessEmpty values) : kept = values ∧ kept ≠ [] := by
  rw [unlessEmpty] at given
  split at given
  · cases given
  · rename_i filled
    cases given
    exact ⟨rfl,fun empty => filled (by rw [empty]; rfl)⟩

theorem getD_unlessEmpty (values : List Value) : (unlessEmpty values).getD [] = values := by
  rw [unlessEmpty]
  cases values <;> rfl

theorem leaf_built (common : Common) {attributes : Value} {kind : Kind} {body : Body}
    (made : leaf attributes kind = some body) : Built (common.element body) := by
  cases kind <;> cases made
  case button => exact built_element common (fun handler here => handler?_taken here) trivial (List.forall_mem_nil _)
  case textInput =>
    exact built_element common ⟨fun handler here => handler?_taken here,fun handler here => handler?_taken here⟩
      trivial (List.forall_mem_nil _)
  case barChart =>
    refine built_element common (fun value there => ?_) trivial (List.forall_mem_nil _)
    obtain ⟨_,_,read⟩ := List.mem_filterMap.mp there
    exact datum?_taken read
  case lineChart =>
    refine built_element common (fun value there => ?_) trivial (List.forall_mem_nil _)
    obtain ⟨_,_,read⟩ := List.mem_filterMap.mp there
    exact datum?_taken read
  all_goals exact built_element common trivial trivial (List.forall_mem_nil _)

-- One element stands for itself, so what a tab holds is what was built for it, in both forms.
theorem contents_tabContent (elements : List Element) :
    ((tabContent (written elements)).map Body.tabContent).getD [] = written elements := by
  cases elements with
  | nil => rfl
  | cons first rest => cases rest <;> rfl

theorem tabContent_typed (elements : List Element) :
    ∀ content ∈ tabContent (written elements), nested? content = some content := by
  intro content here
  cases elements with
  | nil => cases here
  | cons first rest => cases rest <;> cases here <;> rfl

theorem tabContent_arranged {elements : List Element} (each : ∀ element ∈ elements, Built element) :
    ∀ content ∈ tabContent (written elements), (∃ element, ofValue? content = some element) ∨
      ∃ contents, content = .list contents ∧ 2 ≤ contents.length := by
  intro content here
  cases elements with
  | nil => cases here
  | cons first rest =>
    cases rest with
    | nil =>
      cases here
      exact .inl ⟨first,(each first List.mem_cons_self).read⟩
    | cons second rest =>
      cases here
      exact .inr ⟨written (first :: second :: rest),rfl,Nat.le_add_left 2 _⟩

theorem branch_built (common : Common) {attributes : Value} {inside : List Element} {kind : Kind} {body : Body}
    (each : ∀ element ∈ inside, Built element) (made : branch attributes inside kind = some body) :
    Built (common.element body) := by
  have items := written_ofKind each .menuItem
  have tabs := written_ofKind each .tab
  have nodes := written_ofKind each .treeNode
  cases kind <;> cases made
  case menu =>
    exact built_element common trivial (fun item listed => (items item listed).1) fun item listed => (items item listed).2
  case menuItem =>
    refine built_element common (fun handler here => handler?_taken here) ?_ ?_
    · intro kept here
      obtain ⟨rfl,filled⟩ := unlessEmpty_some here
      exact ⟨filled,fun item listed => (items item listed).1⟩
    · intro item listed
      change item ∈ (unlessEmpty _).getD [] at listed
      rw [getD_unlessEmpty] at listed
      exact (items item listed).2
  case contextMenu =>
    exact built_element common trivial (fun item listed => (items item listed).1) fun item listed => (items item listed).2
  case tabs =>
    exact built_element common (fun handler here => handler?_taken here) (fun tab listed => (tabs tab listed).1)
      fun tab listed => (tabs tab listed).2
  case tab =>
    refine built_element common (tabContent_typed inside) (tabContent_arranged each) ?_
    intro value listed
    change value ∈ ((tabContent (written inside)).map Body.tabContent).getD [] at listed
    rw [contents_tabContent] at listed
    exact written_whole each value listed
  case treeView =>
    exact built_element common ⟨fun handler here => handler?_taken here,fun handler here => handler?_taken here⟩
      (fun node listed => (nodes node listed).1) fun node listed => (nodes node listed).2
  case treeNode =>
    refine built_element common trivial ?_ ?_
    · intro kept here
      obtain ⟨rfl,filled⟩ := unlessEmpty_some here
      exact ⟨filled,fun node listed => (nodes node listed).1⟩
    · intro node listed
      change node ∈ (unlessEmpty _).getD [] at listed
      rw [getD_unlessEmpty] at listed
      exact (nodes node listed).2
  case vbox => exact built_element common trivial trivial (written_whole each)
  case hbox => exact built_element common trivial trivial (written_whole each)

-- A column of a table, however it was given.
structure BuiltColumn (element : Element) : Prop extends Built element where
  kind : element.kind = .column

theorem plainColumn_built (key : String) : BuiltColumn (plainColumn key) :=
  ⟨built_element ⟨none,none,true⟩ trivial trivial (List.forall_mem_nil _),rfl⟩

theorem column_built {scope : Scope} {attributes : Value} {element : Element}
    (ended : (column scope attributes).outcome = .ok (some element)) : BuiltColumn element := by
  rw [column] at ended
  split at ended
  · cases ended
  · obtain ⟨common,_,ended⟩ := Run.ok_of_bind ended
    cases ended
    exact ⟨built_element common trivial trivial (List.forall_mem_nil _),rfl⟩

theorem columnsFrom_kept {P : Element → Prop} {scope : Scope} {items : List Value} (plain : ∀ key, P (plainColumn key))
    (read : ∀ item ∈ items, ∀ made, (column scope (Entity.normalized item)).outcome = .ok (some made) → P made)
    {columns : List Element} (ended : (columnsFrom scope items).outcome = .ok columns) : ∀ column ∈ columns, P column := by
  induction items generalizing columns with
  | nil =>
    cases ended
    exact List.forall_mem_nil _
  | cons item rest ih =>
    obtain ⟨here,later⟩ := List.forall_mem_cons.mp read
    rw [columnsFrom.eq_def] at ended
    split at ended
    · contradiction
    · rename_i key others same
      cases same
      obtain ⟨others,gone,ended⟩ := Run.ok_of_bind ended
      cases ended
      exact List.forall_mem_cons.mpr ⟨plain key,ih later gone⟩
    · rename_i given others _ same
      cases same
      obtain ⟨made,begun,ended⟩ := Run.ok_of_bind ended
      obtain ⟨others,gone,ended⟩ := Run.ok_of_bind ended
      cases ended
      refine List.forall_mem_append.mpr ⟨fun column there => ?_,ih later gone⟩
      rw [Option.mem_toList.mp there] at begun
      exact here column begun

theorem columnsFrom_built {scope : Scope} {items : List Value} {columns : List Element}
    (ended : (columnsFrom scope items).outcome = .ok columns) : ∀ column ∈ columns, BuiltColumn column :=
  columnsFrom_kept plainColumn_built (fun _ _ _ => column_built) ended

theorem table_built (common : Common) (attributes : Value) {columns : List Element}
    (each : ∀ column ∈ columns, BuiltColumn column) : Built (common.element (table attributes columns)) := by
  refine built_element common ⟨?_,?_,fun handler here => handler?_taken here,fun handler here => handler?_taken here⟩
    ?_ (List.forall_mem_nil _)
  · intro row listed
    exact row?_taken (List.mem_filter.mp listed).2
  · intro value listed
    obtain ⟨column,there,rfl⟩ := List.mem_map.mp listed
    exact column?_of_built (each column there).toBuilt (each column there).kind
  · intro value listed
    obtain ⟨column,there,rfl⟩ := List.mem_map.mp listed
    exact ⟨column,(each column there).read,(each column there).kind⟩

theorem common_resolved {scope : Scope} {attributes : Value} {shared : Common}
    (ended : (common scope attributes).outcome = .ok shared) :
    scope.styles.resolveRef (Attributes.read "style" attributes) scope.host = .ok shared.style := by
  obtain ⟨style,resolved,ended⟩ := Run.ok_of_bind ended
  cases ended
  unfold Build.style at resolved
  extract_lets at resolved
  split at resolved
  · obtain ⟨_,_,resolved⟩ := Run.ok_of_bind resolved
    exact Run.ok_of_ask resolved
  · exact Run.ok_of_ask resolved

theorem element_ok {scope : Scope} {entity : Entity} {built : Element}
    (ended : (element scope entity).outcome = .ok (some built)) :
    (column scope entity.attributes).outcome = .ok (some built) ∨ ∃ shared : Common,
      (common scope entity.attributes).outcome = .ok shared ∧
        ((∃ (kind : Kind) (body : Body), leaf entity.attributes kind = some body ∧ built = shared.element body) ∨
          (∃ inside columns : List Element, (within scope entity .table).outcome = .ok inside ∧
            (declaredColumns scope entity.attributes (ofKind .column inside)).outcome = .ok columns ∧
            built = shared.element (table entity.attributes columns)) ∨
          ∃ (kind : Kind) (inside : List Element) (body : Body), (within scope entity kind).outcome = .ok inside ∧
            branch entity.attributes inside kind = some body ∧ built = shared.element body) := by
  rw [element.eq_1] at ended
  split at ended
  · cases ended
  · dsimp only at ended
    split at ended
    · obtain ⟨_,_,ended⟩ := Run.ok_of_bind ended
      cases ended
    · exact .inl ended
    · rename_i kind _ _
      refine .inr ?_
      split at ended
      · rename_i body made
        obtain ⟨shared,common,ended⟩ := Run.ok_of_bind ended
        cases ended
        exact ⟨shared,common,.inl ⟨kind,body,made,rfl⟩⟩
      · split at ended
        · obtain ⟨shared,common,ended⟩ := Run.ok_of_bind ended
          obtain ⟨inside,within,ended⟩ := Run.ok_of_bind ended
          obtain ⟨body,made,same⟩ := Option.map_eq_some_iff.mp (Except.ok.inj ended)
          exact ⟨shared,common,.inr (.inr ⟨kind,inside,body,within,made,same.symm⟩)⟩
        · split at ended
          · obtain ⟨inside,within,ended⟩ := Run.ok_of_bind ended
            obtain ⟨columns,declared,ended⟩ := Run.ok_of_bind ended
            obtain ⟨shared,common,ended⟩ := Run.ok_of_bind ended
            cases ended
            exact ⟨shared,common,.inr (.inl ⟨inside,columns,within,declared,rfl⟩)⟩
          · obtain ⟨inside,within,ended⟩ := Run.ok_of_bind ended
            obtain ⟨shared,common,ended⟩ := Run.ok_of_bind ended
            obtain ⟨body,made,same⟩ := Option.map_eq_some_iff.mp (Except.ok.inj ended)
            exact ⟨shared,common,.inr (.inr ⟨kind,inside,body,within,made,same.symm⟩)⟩

theorem declaredColumns_built {scope : Scope} {attributes : Value} {inside columns : List Element}
    (each : ∀ element ∈ inside, Built element)
    (ended : (declaredColumns scope attributes (ofKind .column inside)).outcome = .ok columns) :
    ∀ column ∈ columns, BuiltColumn column := by
  rw [declaredColumns] at ended
  split at ended
  · exact columnsFrom_built ended
  · cases ended
    intro column listed
    obtain ⟨there,same⟩ := List.mem_filter.mp listed
    exact ⟨each column there,of_decide_eq_true same⟩

-- What building keeps of entities that pass something on to those they hold: it holds of what is built wherever it holds of
-- all that is inside.
structure Keeps (scope : Scope) (Q : Entity → Prop) (P : Element → Prop) : Prop where
  passes : ∀ {entity kind held}, Q entity → inner entity kind scope.host = .ok held → ∀ child ∈ held, Q child
  step : ∀ {entity built}, Q entity → (∀ {kind inside}, (within scope entity kind).outcome = .ok inside →
    ∀ element ∈ inside, P element) → (element scope entity).outcome = .ok (some built) → P built

-- Induction along the entities, as deep as they are nested.
mutual
theorem element_kept {scope : Scope} {Q : Entity → Prop} {P : Element → Prop} (keeps : Keeps scope Q P) (entity : Entity)
    (holds : Q entity) {built : Element} (ended : (element scope entity).outcome = .ok (some built)) : P built :=
  keeps.step holds (fun inside => within_kept keeps entity holds inside) ended
termination_by (sizeOf entity,1)
theorem within_kept {scope : Scope} {Q : Entity → Prop} {P : Element → Prop} (keeps : Keeps scope Q P) (entity : Entity)
    (holds : Q entity) {kind : Kind} {inside : List Element} (ended : (within scope entity kind).outcome = .ok inside) :
    ∀ element ∈ inside, P element := by
  rw [within] at ended
  split at ended
  · cases ended
  · rename_i entities held
    have smaller := sizeOf_inner held
    exact elements_kept keeps entities (keeps.passes holds held) ended
termination_by (sizeOf entity,0)
theorem elements_kept {scope : Scope} {Q : Entity → Prop} {P : Element → Prop} (keeps : Keeps scope Q P)
    (entities : List Entity) (holds : ∀ entity ∈ entities, Q entity) {all : List Element}
    (ended : (elements scope entities).outcome = .ok all) : ∀ element ∈ all, P element := by
  cases entities with
  | nil =>
    rw [elements] at ended
    cases ended
    exact List.forall_mem_nil _
  | cons entity rest =>
    obtain ⟨here,later⟩ := List.forall_mem_cons.mp holds
    rw [elements] at ended
    obtain ⟨made,begun,ended⟩ := Run.ok_of_bind ended
    obtain ⟨others,gone,ended⟩ := Run.ok_of_bind ended
    cases ended
    refine List.forall_mem_append.mpr ⟨fun element there => ?_,elements_kept keeps rest later gone⟩
    rw [Option.mem_toList.mp there] at begun
    exact element_kept keeps entity here begun
termination_by (sizeOf entities,0)
end

theorem built_kept (scope : Scope) : Keeps scope (fun _ => True) Built := by
  refine ⟨fun _ _ _ _ => trivial,?_⟩
  intro entity built _ within ended
  rcases element_ok ended with column | ⟨shared,_,⟨kind,body,made,rfl⟩ | ⟨inside,columns,held,declared,rfl⟩ |
    ⟨kind,inside,body,held,made,rfl⟩⟩
  · exact (column_built column).toBuilt
  · exact leaf_built shared made
  · exact table_built shared _ (declaredColumns_built (within held) declared)
  · exact branch_built shared (within held) made

theorem element_built {scope : Scope} (entity : Entity) {built : Element}
    (ended : (element scope entity).outcome = .ok (some built)) : Built built :=
  element_kept (built_kept scope) entity trivial ended

theorem first_built {scope : Scope} {entities : List Entity} {built : Element}
    (ended : (first scope entities).outcome = .ok (some built)) : Built built := by
  induction entities with
  | nil => cases ended
  | cons entity rest ih =>
    rw [first] at ended
    obtain ⟨made,begun,ended⟩ := Run.ok_of_bind ended
    cases made with
    | some element =>
      cases ended
      exact element_built entity begun
    | none => exact ih ended

-- Whatever a build gives, of one entity or of a forest: everything that is reached in it is an element that holds what
-- belongs there, and no platform has anything unknown to report.
theorem built_whole {scope : Scope} {built : Element}
    (ended : (∃ entity, (element scope entity).outcome = .ok (some built)) ∨
      ∃ entities, (first scope entities).outcome = .ok (some built)) :
    (∀ value, Reaches built.toValue value → ∃ found, ofValue? value = some found ∧ found.Arranged) ∧
      ∀ host platform, ((Renderer.builtin host platform).convert built.toValue).warnings = [] := by
  have sound : Built built := by
    rcases ended with ⟨entity,ended⟩ | ⟨entities,ended⟩
    · exact element_built entity ended
    · exact first_built ended
  refine ⟨?_,?_⟩
  · intro value there
    exact (whole_of_reaches sound.whole there).element
  · intro host platform
    exact Renderer.convert_quiet host platform sound.whole

-- A tab bar with one tab that holds two texts.
def plain : Scope := ⟨[],Host.silent⟩

def caption (content : String) : Entity :=
  ⟨some "text",.object [("content",.text content)],.entities [],.absent⟩

def tab : Entity := ⟨some "tab",.object [],.entities [caption "one", caption "two"],.absent⟩

def tabBar : Entity := ⟨some "tabs",.object [],.entities [tab],.absent⟩

def captioned (content : String) : Element := ⟨none,none,true,.text (some content)⟩

def builtTab : Element :=
  ⟨none,none,true,.tab {
    label := "",
    icon := none,
    disabled := false,
    closable := false,
    content := some (.list (written [captioned "one", captioned "two"])) }⟩

def builtTabs : Element :=
  ⟨none,none,true,.tabs { activeTab := none, position := none, onChange := none, tabs := [builtTab.toValue] }⟩

theorem element_caption (content : String) : element plain (caption content) = pure (some (captioned content)) := by
  rw [element.eq_1]
  rfl

theorem element_tab : element plain tab = pure (some builtTab) := by
  have inside : within plain tab .tab = pure [captioned "one", captioned "two"] := by
    rw [within]
    change elements plain [caption "one", caption "two"] = _
    rw [elements,elements,elements,element_caption,element_caption]
    rfl
  rw [element.eq_1]
  change (within plain tab .tab >>= _) = _
  rw [inside]
  rfl

theorem element_tabBar : element plain tabBar = pure (some builtTabs) := by
  have inside : within plain tabBar .tabs = pure [builtTab] := by
    rw [within]
    change elements plain [tab] = _
    rw [elements,elements,element_tab]
    rfl
  rw [element.eq_1]
  change (within plain tabBar .tabs >>= _) = _
  rw [inside]
  rfl

theorem built_whole_tabs :
    (first plain [tabBar]).outcome = .ok (some builtTabs) ∧
      (∀ value, Reaches builtTabs.toValue value → ∃ found, ofValue? value = some found ∧ found.Arranged) ∧
      ∀ host platform, ((Renderer.builtin host platform).convert builtTabs.toValue).warnings = [] := by
  have ended : (first plain [tabBar]).outcome = .ok (some builtTabs) := by
    rw [first,element_tabBar]
    rfl
  exact ⟨ended,built_whole (.inr ⟨[tabBar],ended⟩)⟩

end Trifold.Build
