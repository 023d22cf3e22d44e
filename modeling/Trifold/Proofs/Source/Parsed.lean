import Trifold.Proofs.Element.Patched
import Trifold.Proofs.Source.Build
import Trifold.Proofs.Source.Spelling

namespace Trifold

namespace Attributes
open Value

-- Attributes as they are once their keys are normalized.
def Settled (source : Value) : Prop := ∃ pairs, source = list pairs ∧ ∀ pair ∈ pairs, Json pair

theorem Settled.read {source : Value} (settled : Settled source) (key : String) : Stated (Attributes.read key source) := by
  obtain ⟨pairs,rfl,each⟩ := settled
  exact stated_read each key

theorem settled_normalized {source : Value} (stated : Stated source) : Settled (Entity.normalized source) := by
  refine ⟨_,rfl,fun pair there => ?_⟩
  obtain ⟨⟨key,value⟩,listed,rfl⟩ := List.mem_map.mp there
  refine .list (List.forall_mem_cons.mpr ⟨.text _,List.forall_mem_singleton.mpr ?_⟩)
  exact stated.entries (key,value) listed

end Attributes

namespace Entity
open Value Attributes
open Ask (Answers Ends)

variable {host : Host} {value : Value} {entity : Entity}

inductive Parsed : Entity → Prop
  | mk {name : String} {attributes written : Value} {held : List Entity} (settled : Settled attributes)
      (inside : ∀ child ∈ held, Parsed child) : Parsed ⟨some name,attributes,.entities held,written⟩

theorem listed_json (stated : Stated value) : ∀ item ∈ listed value, Json item := by
  rcases stated with rfl | json
  · exact List.forall_mem_nil _
  · cases json with
    | list each => exact each
    | _ => exact List.forall_mem_singleton.mpr (by constructor <;> assumption)

theorem ofValues_parse (value : Value) :
    ofValues (parse value) = (listed value).filterMap fun source => (parseOne source).map ofValue := by
  rw [ofValues_map,parse_eq,List.map_filterMap]

theorem parseOne_named {name : String} (called : value.get "name" = text name) (filled : name ≠ "")
    (plain : value.isPlain = true) : (parseOne value).map ofValue =
      some ⟨some name,normalized (value.get "attrs"),.entities (ofValues (parse (value.get "entities"))),
        made (text name) (value.get "attrs") (list (parse (value.get "entities")))⟩ := by
  rw [parseOne_some.mpr ⟨name,called,filled,plain,rfl⟩,Option.map_some,ofValue_made]

-- Induction along the value, as deep as entities are nested in it.
theorem parseOne_json (value : Value) (json : Json value) {given : Value} (parsed : parseOne value = some given) :
    (ofValue given).Parsed := by
  obtain ⟨name,called,some,plain,rfl⟩ := parseOne_some.mp parsed
  rw [ofValue_made]
  refine .mk (settled_normalized (json.field plain rfl)) ?_
  intro child there
  rw [ofValues_parse] at there
  obtain ⟨source,listed,read⟩ := List.mem_filterMap.mp there
  obtain ⟨given,parsed,rfl⟩ := Option.map_eq_some_iff.mp read
  have smaller := sizeOf_inside listed
  exact parseOne_json source (listed_json (json.field plain rfl) source listed) parsed
termination_by sizeOf value

theorem parse_json (json : Json value) : ∀ entity ∈ ofValues (parse value), entity.Parsed := by
  intro entity there
  rw [ofValues_parse] at there
  obtain ⟨source,listed,read⟩ := List.mem_filterMap.mp there
  obtain ⟨given,parsed,rfl⟩ := Option.map_eq_some_iff.mp read
  exact parseOne_json source (listed_json (.inr json) source listed) parsed

theorem Parsed.settled (parsed : entity.Parsed) : Settled entity.attributes := by
  cases parsed with
  | mk settled => exact settled

theorem Parsed.contents (parsed : entity.Parsed) : Answers host (fun held => ∀ child ∈ held, child.Parsed) entity.contents := by
  cases parsed with
  | mk _ inside => exact .pure inside

theorem Parsed.share (parsed : entity.Parsed) (collection wanted : Value) :
    Answers host (fun held => ∀ child ∈ held, child.Parsed) (share collection wanted entity) := by
  have itself := parsed
  cases parsed with
  | @mk name attributes written held settled inside =>
    unfold Entity.share
    refine Ends.bind ?_ fun opened => ?_
    · unfold opens
      split
      · exact Ends.pure _
      · exact Ends.pure _
    · cases opened with
      | true => exact itself.contents
      | false =>
        refine .pure ?_
        split
        · exact List.forall_mem_singleton.mpr itself
        · exact List.forall_mem_nil _

theorem nestedFrom_parsed {collection wanted : Value} {children : List Entity} (parsed : ∀ child ∈ children, child.Parsed) :
    Answers host (fun held => ∀ child ∈ held, child.Parsed) (nestedFrom collection wanted children) := by
  induction children with
  | nil => exact .pure (List.forall_mem_nil _)
  | cons child rest ih =>
    obtain ⟨here,later⟩ := List.forall_mem_cons.mp parsed
    refine (here.share collection wanted).bind fun first shared => ?_
    exact (ih later).bind fun others gone => .pure (List.forall_mem_append.mpr ⟨shared,gone⟩)

end Entity

namespace Build
open Value Attributes
open Entity (Parsed)

variable {scope : Scope} {entity : Entity} {attributes : Value} {kind : Kind}

theorem inner_parsed (parsed : entity.Parsed) (kind : Kind) (host : Host) :
    Ask.Answers host (fun held => ∀ child ∈ held, child.Parsed) (inner entity kind) := by
  unfold inner
  cases collection kind with
  | none => exact parsed.contents
  | some pair => exact parsed.contents.bind fun children each => Entity.nestedFrom_parsed each

-- Every reference to a style is resolved, so nothing stops a build.
section

variable (acyclic : scope.styles.Acyclic)
include acyclic

theorem common_ends (attributes : Value) : (common scope attributes).Ends := by
  refine Run.Ends.bind ?_ fun style _ => .pure _
  have resolved := Run.Ends.ask (@Registry.resolveRef_ends _ scope.host acyclic (read "style" attributes))
  unfold Build.style
  dsimp only
  split
  · exact Run.Ends.bind ⟨(),rfl⟩ fun _ _ => resolved
  · exact resolved

theorem column_ends (attributes : Value) : (column scope attributes).Ends := by
  unfold column
  split
  · exact .pure _
  · exact (common_ends acyclic attributes).map

theorem columnsFrom_ends (items : List Value) : (columnsFrom scope items).Ends := by
  induction items with
  | nil => exact .pure _
  | cons item rest ih =>
    rw [columnsFrom.eq_def]
    split
    · contradiction
    · rename_i same
      cases same
      exact ih.map
    · rename_i same
      cases same
      exact (column_ends acyclic _).bind fun made _ => ih.map

theorem declaredColumns_ends (attributes : Value) (nested : List Element) : (declaredColumns scope attributes nested).Ends := by
  unfold declaredColumns
  split
  · exact columnsFrom_ends acyclic _
  · exact .pure _

end

-- Induction along the entities, as deep as they are nested.
mutual
theorem element_ends (acyclic : scope.styles.Acyclic) (entity : Entity) (parsed : entity.Parsed) :
    (element scope entity).Ends := by
  have inside (kind : Kind) := within_ends acyclic entity parsed kind
  rw [element.eq_1]
  cases parsed with
  | @mk name attributes written held settled children =>
    dsimp only [Entity.name,Entity.attributes]
    split
    · exact Run.Ends.bind ⟨(),rfl⟩ fun _ _ => .pure _
    · exact column_ends acyclic attributes
    · rename_i kind _ _
      split
      · exact (common_ends acyclic attributes).map
      · split
        · exact (common_ends acyclic attributes).bind fun _ _ => (inside kind).map
        · split
          · refine (inside .table).bind fun built _ => ?_
            exact (declaredColumns_ends acyclic attributes _).bind fun _ _ => (common_ends acyclic attributes).map
          · exact (inside kind).bind fun built _ => (common_ends acyclic attributes).map
termination_by (sizeOf entity,1)
theorem within_ends (acyclic : scope.styles.Acyclic) (entity : Entity) (parsed : entity.Parsed) (kind : Kind) :
    (within scope entity kind).Ends := by
  obtain ⟨found,answered,each⟩ := inner_parsed parsed kind scope.host
  rw [within]
  split
  · rename_i failed
    rw [answered] at failed
    cases failed
  · rename_i held given
    have smaller := sizeOf_inner given
    rw [answered] at given
    cases given
    exact elements_ends acyclic found each
termination_by (sizeOf entity,0)
theorem elements_ends (acyclic : scope.styles.Acyclic) (entities : List Entity) (parsed : ∀ entity ∈ entities, entity.Parsed) :
    (elements scope entities).Ends := by
  cases entities with
  | nil =>
    rw [elements]
    exact .pure _
  | cons entity rest =>
    obtain ⟨here,later⟩ := List.forall_mem_cons.mp parsed
    rw [elements]
    exact (element_ends acyclic entity here).bind fun built _ => (elements_ends acyclic rest later).map
termination_by (sizeOf entities,0)
end

theorem first_ends (acyclic : scope.styles.Acyclic) {entities : List Entity} (parsed : ∀ entity ∈ entities, entity.Parsed) :
    (first scope entities).Ends := by
  induction entities with
  | nil => exact .pure _
  | cons entity rest ih =>
    obtain ⟨here,later⟩ := List.forall_mem_cons.mp parsed
    rw [first]
    refine (element_ends acyclic entity here).bind fun built _ => ?_
    cases built with
    | some element => exact .pure _
    | none => exact ih later

-- What was built can be drawn: numbers are finite, the rows of a table are JSON and its columns plain, and styles are ones
-- that were resolved. All that is nested in it can be drawn as well.
section

open Element

variable {shared : Common} {body : Body} {element : Element}

-- An element that reads back as itself, in a tree of elements that can be drawn.
structure Drawable (element : Element) : Prop extends Built element where
  patched : Patched element.toValue

theorem tabbed_of_arranged (arranged : element.Arranged) : element.Tabbed := by
  obtain ⟨id,style,visible,body⟩ := element
  rintro it ⟨⟩ tab there inner sound
  obtain ⟨found,known,kind⟩ := arranged tab there
  rw [sound] at known
  cases known
  exact kind

theorem drawable_element (built : Built (shared.element body)) (made : ∀ style ∈ shared.style, Style.Made style)
    (measured : body.Measured) (inside : ∀ held ∈ body.contents, Patched held) : Drawable (shared.element body) := by
  obtain ⟨found,sound,arranged⟩ := built.whole.element
  rw [built.read] at sound
  cases sound
  refine ⟨built,.element built.read ⟨measured,?_⟩ (tabbed_of_arranged arranged) inside⟩
  intro style here
  obtain ⟨given,listed,rfl⟩ := Option.map_eq_some_iff.mp here
  exact Style.toValue_written (made given listed)

theorem common_made (ended : (common scope attributes).outcome = .ok shared) : ∀ style ∈ shared.style, Style.Made style :=
  Registry.resolveRef_made (common_resolved ended)

theorem isFinite_finite {value : Value} {x : Float} (read : finite? value = some x) : Number.isFinite x = true := by
  unfold finite? at read
  exact (Option.filter_eq_some_iff.mp read).2

theorem isFinite_getD {value : Value} {x : Float} (finite : Number.isFinite x = true) :
    Number.isFinite ((finite? value).getD x) = true := by
  cases read : finite? value with
  | none => exact finite
  | some y => exact isFinite_finite read

theorem isFinite_finites {value : Value} : ∀ x ∈ finites value, Number.isFinite x = true := by
  intro x there
  obtain ⟨item,_,read⟩ := List.mem_filterMap.mp there
  exact isFinite_finite read

theorem chartData_measured {value : Value} : ∀ datum ∈ chartData value, Number.isFinite (Chart.amount datum) = true := by
  intro item there
  obtain ⟨given,_,read⟩ := List.mem_filterMap.mp there
  rw [datum?.eq_def] at read
  split at read
  all_goals
    obtain ⟨label,_,read⟩ := Option.bind_eq_some_iff.mp read
    obtain ⟨x,finite,made⟩ := Option.bind_eq_some_iff.mp read
    cases made
    exact isFinite_finite finite

theorem leaf_held (made : leaf attributes kind = some body) : body.Measured ∧ body.contents = [] := by
  cases kind <;> cases made
  case gauge => exact ⟨⟨isFinite_getD rfl,isFinite_getD rfl,isFinite_getD rfl⟩,rfl⟩
  case sparkline => exact ⟨isFinite_finites,rfl⟩
  case barChart | lineChart => exact ⟨chartData_measured,rfl⟩
  all_goals exact ⟨trivial,rfl⟩

theorem branch_held {inside : List Element} (made : branch attributes inside kind = some body) :
    body.Measured ∧ ∀ held ∈ body.contents, held ∈ written inside := by
  have part (wanted : Kind) : ∀ held ∈ written (ofKind wanted inside), held ∈ written inside := by
    intro held there
    obtain ⟨element,listed,rfl⟩ := List.mem_map.mp there
    exact List.mem_map_of_mem (List.mem_filter.mp listed).1
  have kept (wanted : Kind) : ∀ held ∈ (unlessEmpty (written (ofKind wanted inside))).getD [], held ∈ written inside := by
    rw [getD_unlessEmpty]
    exact part wanted
  cases kind <;> cases made
  case tab =>
    refine ⟨trivial,fun held there => ?_⟩
    change held ∈ ((tabContent (written inside)).map Body.tabContent).getD [] at there
    rwa [contents_tabContent] at there
  case menuItem | treeNode => exact ⟨trivial,kept _⟩
  case vbox | hbox => exact ⟨trivial,fun _ there => there⟩
  all_goals exact ⟨trivial,part _⟩

-- A column that can be drawn is one that a table can be drawn with.
theorem plain_of_drawable (drawable : Drawable element) (column : element.kind = .column) : Table.Plain element.toValue := by
  have sound := drawable.read
  have measured := (drawable.patched.parts sound).1.measured
  obtain ⟨id,style,visible,body⟩ := element
  cases body <;> cases column
  rename_i it
  have formatter : Value.get "formatter" (Element.toValue ⟨id,style,visible,.column it⟩) = ofOption (it.formatter.map function) :=
    get_of_sound sound rfl
  have width : Value.get "width" (Element.toValue ⟨id,style,visible,.column it⟩) = ofNumber? it.width := get_of_sound sound rfl
  refine ⟨?_,?_⟩
  · rw [Table.column,formatter,measured.1]
    rfl
  · have same : (ofNumber? it.width).number? = it.width := by cases it.width <;> rfl
    rw [Table.column,width]
    change ∀ w ∈ (ofNumber? it.width).number?, _
    rw [same]
    exact measured.2

theorem plainColumn_drawable (key : String) : Drawable (plainColumn key) :=
  @drawable_element ⟨none,none,true⟩ _ (plainColumn_built key).toBuilt nofun ⟨rfl,nofun⟩ (List.forall_mem_nil _)

theorem column_drawable (settled : Settled attributes)
    (ended : (column scope attributes).outcome = .ok (some element)) : Drawable element := by
  have built := column_built ended
  rw [Build.column] at ended
  split at ended
  · cases ended
  · obtain ⟨shared,common,ended⟩ := Run.ok_of_bind ended
    cases ended
    refine drawable_element built.toBuilt (common_made common) ⟨?_,fun w read => isFinite_finite read⟩ (List.forall_mem_nil _)
    unfold formatter?
    split
    · rename_i given
      have none := (settled.read "formatter").function?
      rw [given] at none
      cases none
    · rfl

theorem declaredColumns_drawable (settled : Settled attributes) {inside columns : List Element}
    (each : ∀ element ∈ inside, Drawable element)
    (ended : (declaredColumns scope attributes (ofKind .column inside)).outcome = .ok columns) :
    ∀ column ∈ columns, Drawable column := by
  rw [declaredColumns] at ended
  split at ended
  · refine columnsFrom_kept plainColumn_drawable (fun item listed made ended => column_drawable ?_ ended) ended
    exact settled_normalized (.inr ((settled.read "columns").each item listed))
  · cases ended
    exact fun column listed => each column (List.mem_filter.mp listed).1

theorem table_drawable (settled : Settled attributes) {columns : List Element} (built : ∀ column ∈ columns, BuiltColumn column)
    (each : ∀ column ∈ columns, Drawable column) (made : ∀ style ∈ shared.style, Style.Made style) :
    Drawable (shared.element (table attributes columns)) := by
  refine drawable_element (table_built shared attributes built) made ⟨?_,?_⟩ (List.forall_mem_nil _)
  · intro row there
    exact (settled.read "data").each row (List.mem_filter.mp there).1
  · intro value there
    obtain ⟨column,listed,rfl⟩ := List.mem_map.mp there
    exact plain_of_drawable (each column listed) (built column listed).kind

theorem drawable_kept (scope : Scope) : Keeps scope Parsed Drawable := by
  refine ⟨?_,?_⟩
  · intro entity kind held parsed ended
    obtain ⟨found,answered,each⟩ := inner_parsed parsed kind scope.host
    rw [ended] at answered
    cases answered
    exact each
  · intro entity built parsed within ended
    have settled := parsed.settled
    rcases element_ok ended with column | ⟨shared,common,⟨kind,body,made,rfl⟩ | ⟨inside,columns,held,declared,rfl⟩ |
      ⟨kind,inside,body,held,made,rfl⟩⟩
    · exact column_drawable settled column
    · obtain ⟨measured,bare⟩ := leaf_held made
      exact drawable_element (leaf_built shared made) (common_made common) measured (bare ▸ List.forall_mem_nil _)
    · have each := within held
      exact table_drawable settled (declaredColumns_built (fun element there => (each element there).toBuilt) declared)
        (declaredColumns_drawable settled each declared) (common_made common)
    · have each := within held
      obtain ⟨measured,kept⟩ := branch_held made
      refine drawable_element (branch_built shared (fun element there => (each element there).toBuilt) made) (common_made common)
        measured ?_
      intro value there
      obtain ⟨element,listed,rfl⟩ := List.mem_map.mp (kept value there)
      exact (each element listed).patched

theorem first_drawable {entities : List Entity} (parsed : ∀ entity ∈ entities, entity.Parsed) {built : Element}
    (ended : (first scope entities).outcome = .ok (some built)) : Drawable built := by
  induction entities with
  | nil => cases ended
  | cons entity rest ih =>
    obtain ⟨here,later⟩ := List.forall_mem_cons.mp parsed
    rw [first] at ended
    obtain ⟨made,begun,ended⟩ := Run.ok_of_bind ended
    cases made with
    | some element =>
      cases ended
      exact element_kept (drawable_kept scope) entity here begun
    | none => exact ih later ended

end

end Build

end Trifold
