import Trifold.Proofs.Agree
import Trifold.Source.Build

namespace Trifold.Entity
open Value Agree
open List (Forall₂)

variable {host : Host} {value a b : Value} {name : String}

-- A small letter, which an underscore before it makes a capital.
def isSmall (c : Char) : Bool := 'a' ≤ c && c ≤ 'z'

theorem toUpper_small {c : Char} (small : isSmall c = true) : isSmall c.toUpper = false ∧ c.toUpper ≠ '_' := by
  have all : ∀ k : Fin 26, isSmall (Char.ofNat (97 + k)).toUpper = false ∧ (Char.ofNat (97 + k)).toUpper ≠ '_' := by decide
  simp only [isSmall,Bool.and_eq_true,decide_eq_true_eq,Char.le_def] at small
  obtain ⟨low,high⟩ := small
  have low : 97 ≤ c.toNat := low
  have high : c.toNat ≤ 122 := high
  have here := all ⟨c.toNat - 97,by omega⟩
  have same : 97 + (c.toNat - 97) = c.toNat := by omega
  rwa [same,Char.ofNat_toNat] at here

theorem camelChars_other {c : Char} (other : c ≠ '_') (rest : List Char) : camelChars (c :: rest) = c :: camelChars rest := by
  rw [camelChars.eq_def]
  split
  · contradiction
  · rename_i same
    cases same
    exact absurd rfl other
  · rename_i same
    cases same
    rfl

theorem camelChars_small {c : Char} (small : isSmall c = true) (rest : List Char) :
    camelChars ('_' :: c :: rest) = c.toUpper :: camelChars rest := if_pos small

theorem camelChars_kept {cs : List Char} (kept : ∀ c ∈ cs.head?, isSmall c = false) :
    camelChars ('_' :: cs) = '_' :: camelChars cs := by
  cases cs with
  | nil => rfl
  | cons c rest => exact if_neg (by simpa [isSmall] using kept c rfl)

theorem head_camelChars {cs : List Char} (kept : ∀ c ∈ cs.head?, isSmall c = false) :
    ∀ c ∈ (camelChars cs).head?, isSmall c = false := by
  cases cs with
  | nil => exact kept
  | cons c rest =>
    by_cases under : c = '_'
    · subst under
      by_cases small : ∃ d ∈ rest.head?, isSmall d = true
      · obtain ⟨d,first,small⟩ := small
        obtain ⟨later,rfl⟩ := List.head?_eq_some_iff.mp first
        rw [camelChars_small small]
        intro c same
        cases same
        exact (toUpper_small small).1
      · rw [camelChars_kept (by simpa using small)]
        exact kept
    · rw [camelChars_other under]
      exact kept

theorem camelChars_camelChars (cs : List Char) : camelChars (camelChars cs) = camelChars cs := by
  fun_induction camelChars cs with
  | case1 => rfl
  | case2 c rest small ih =>
    rw [camelChars_other (toUpper_small small).2,ih]
  | case3 c rest large ih =>
    have kept : ∀ d ∈ (camelChars (c :: rest)).head?, isSmall d = false := by
      refine head_camelChars fun d same => ?_
      cases same
      exact eq_false_of_ne_true large
    rw [camelChars_kept kept,ih]
  | case4 c rest other ih =>
    by_cases under : c = '_'
    · cases rest with
      | nil =>
        subst under
        rfl
      | cons d later => exact absurd rfl (other d later under)
    · rw [camelChars_other under,ih]

theorem camel_camel (name : String) : camel (camel name) = camel name := by
  rw [camel,camel,String.toList_ofList,camelChars_camelChars]

theorem camelChars_eq_nil {cs : List Char} (none : camelChars cs = []) : cs = [] := by
  rw [camelChars.eq_def] at none
  split at none
  · rfl
  · split at none <;> cases none
  · cases none

theorem camel_empty {name other : String} (same : camel name = camel other) (none : name = "") : other = "" := by
  subst none
  have empty : camelChars other.toList = [] := by
    rw [← String.toList_ofList (l := camelChars other.toList)]
    exact (congrArg String.toList same).symm
  exact String.toList_eq_nil_iff.mp (camelChars_eq_nil empty)

theorem entries_list (pairs : List (String × Value)) :
    Attributes.entries (.list (pairs.map fun (key,value) => .list [.text key, value])) = pairs := by
  rw [Attributes.entries,List.filterMap_map]
  exact List.filterMap_some

theorem normalized_normalized (source : Value) : normalized (normalized source) = normalized source := by
  have rewritten : Attributes.entries (normalized source) = (Attributes.entries source).map fun entry => (camel entry.1,entry.2) := by
    rw [normalized,← entries_list ((Attributes.entries source).map fun entry => (camel entry.1,entry.2)),List.map_map]
    rfl
  rw [normalized,rewritten,normalized,List.map_map]
  simp only [Function.comp_def,camel_camel]

-- What stands in a forest, in whichever form it is given.
def listed : Value → List Value
  | .list items => items
  | .absent => []
  | value => [value]

theorem parseAll_eq (values : List Value) : parseAll values = values.filterMap parseOne := by
  induction values with
  | nil => rw [parseAll,List.filterMap_nil]
  | cons value rest ih =>
    rw [parseAll,ih,List.filterMap_cons]
    cases parseOne value <;> rfl

theorem parse_eq (value : Value) : parse value = (listed value).filterMap parseOne := by
  rw [parse.eq_def]
  split
  · exact parseAll_eq _
  · rfl
  · rename_i unlisted there
    have alone : listed value = [value] := by
      cases value <;> first | rfl | exact absurd rfl (unlisted _) | exact absurd rfl there
    rw [alone,List.filterMap_cons]
    cases parseOne value <;> rfl

theorem parseOne_some {given : Value} : parseOne value = some given ↔ ∃ name, value.get "name" = text name ∧ name ≠ "" ∧
    value.isPlain = true ∧ given = made (text name) (value.get "attrs") (list (parse (value.get "entities"))) := by
  have inside : (if _ : (value.get "entities").isAbsent then [] else parse (value.get "entities")) =
      parse (value.get "entities") := by
    split
    · rename_i none
      cases held : value.get "entities" with
      | absent => rw [parse_eq]; rfl
      | _ => rw [held] at none; cases none
    · rfl
  rw [parseOne]
  cases named : (value.get "name").text? with
  | none =>
    refine ⟨nofun,?_⟩
    rintro ⟨name,called,_⟩
    rw [called] at named
    cases named
  | some name =>
    have called : value.get "name" = text name := by
      cases held : value.get "name" <;> rw [held] at named <;> cases named
      rfl
    dsimp only
    rw [inside,called]
    cases plain : value.isPlain with
    | false => exact ⟨nofun,fun ⟨_,_,_,there,_⟩ => nomatch there⟩
    | true =>
      by_cases empty : name = ""
      · subst empty
        refine ⟨nofun,?_⟩
        rintro ⟨name,same,some,_⟩
        cases same
        exact absurd rfl some
      · have filled : name.isEmpty = false := by simpa using empty
        rw [filled]
        constructor
        · intro same
          exact ⟨name,rfl,empty,rfl,(Option.some.inj same).symm⟩
        · rintro ⟨other,same,_,_,rfl⟩
          cases same
          rfl

theorem sizeOf_inside {item : Value} (there : item ∈ listed (value.get "entities")) : sizeOf item < sizeOf value := by
  have alone (held : value.get "entities" ≠ .absent) (same : item = value.get "entities") : sizeOf item < sizeOf value := by
    have smaller := sizeOf_get_lt (by decide) value held
    rw [same]
    omega
  cases held : value.get "entities" with
  | list items =>
    rw [held] at there
    have member : sizeOf item < sizeOf items := List.sizeOf_lt_of_mem there
    have smaller := sizeOf_listed_lt "entities" (by decide) held
    omega
  | absent =>
    rw [held] at there
    cases there
  | _ =>
    rw [held] at there
    exact alone (by simp [held]) ((List.mem_singleton.mp there).trans held.symm)

theorem parseOne_parsed (value : Value) {given : Value} (parsed : parseOne value = some given) :
    parseOne given = some given := by
  obtain ⟨name,called,some,plain,rfl⟩ := parseOne_some.mp parsed
  have kept : ∀ item ∈ parse (value.get "entities"), parseOne item = Option.some item := by
    intro item there
    rw [parse_eq] at there
    obtain ⟨source,listed,parsed⟩ := List.mem_filterMap.mp there
    have smaller := sizeOf_inside listed
    exact parseOne_parsed source parsed
  have inside : parse (list (parse (value.get "entities"))) = parse (value.get "entities") := by
    rw [parse_eq (list _)]
    exact (List.filterMap_congr kept).trans List.filterMap_some
  refine parseOne_some.mpr ⟨name,rfl,some,rfl,?_⟩
  change made _ _ _ = made _ (normalized (value.get "attrs")) (list (parse (list (parse (value.get "entities")))))
  rw [inside,made,made,normalized_normalized]
termination_by sizeOf value

theorem parse_parse (value : Value) : parse (list (parse value)) = parse value := by
  have kept : ∀ item ∈ parse value, parseOne item = some item := by
    intro item there
    rw [parse_eq] at there
    obtain ⟨source,_,parsed⟩ := List.mem_filterMap.mp there
    exact parseOne_parsed source parsed
  rw [parse_eq (list _)]
  exact (List.filterMap_congr kept).trans List.filterMap_some

-- The same value twice, or an entity in two spellings: a name and keys that differ in nothing else, the values in their
-- order, and inside it the same again.
inductive Respelled : Value → Value → Prop
  | kept (value : Value) : Respelled value value
  | entity {a b : Value} {name name' : String} (plain : a.isPlain = true) (plain' : b.isPlain = true)
      (called : a.get "name" = text name) (called' : b.get "name" = text name') (names : camel name = camel name')
      (attributes : Forall₂ (fun entry entry' => camel entry.1 = camel entry'.1 ∧ entry.2 = entry'.2)
        (Attributes.entries (a.get "attrs")) (Attributes.entries (b.get "attrs")))
      (counted : (listed (a.get "entities")).length = (listed (b.get "entities")).length)
      (inside : ∀ pair ∈ (listed (a.get "entities")).zip (listed (b.get "entities")), Respelled pair.1 pair.2) : Respelled a b

-- Two entities that differ in how they and those inside are called, in spelling only.
inductive Spelled : Entity → Entity → Prop
  | same (entity : Entity) : Spelled entity entity
  | respelled {name name' : String} {attributes written written' : Value} {held held' : List Entity}
      (names : camel name = camel name') (counted : held.length = held'.length)
      (inside : ∀ pair ∈ held.zip held', Spelled pair.1 pair.2) :
      Spelled ⟨some name,attributes,.entities held,written⟩ ⟨some name',attributes,.entities held',written'⟩

theorem Spelled.refl (all : List Entity) : Forall₂ Spelled all all := List.forall₂_same.mpr fun entity _ => .same entity

theorem ofValues_map (values : List Value) : ofValues values = values.map ofValue := by
  induction values with
  | nil => rw [ofValues,List.map_nil]
  | cons value rest ih => rw [ofValues,ih,List.map_cons]

theorem ofValue_made (name : String) (attributes : Value) (inside : List Value) :
    ofValue (made (text name) attributes (list inside)) =
      ⟨some name,normalized attributes,.entities (ofValues inside),made (text name) attributes (list inside)⟩ := by
  rw [ofValue]
  congr 1

theorem parseOne_none (called : value.get "name" = text "") : parseOne value = none := by
  cases parsed : parseOne value with
  | none => rfl
  | some given =>
    obtain ⟨name,called',some,_⟩ := parseOne_some.mp parsed
    cases called.symm.trans called'
    exact absurd rfl some

theorem parse_each {forest forest' : Value}
    (each : Forall₂ (fun a b => Option.Rel (fun v w => Spelled (ofValue v) (ofValue w)) (parseOne a) (parseOne b))
      (listed forest) (listed forest')) : Forall₂ Spelled (ofValues (parse forest)) (ofValues (parse forest')) := by
  rw [ofValues_map,ofValues_map,parse_eq,parse_eq]
  exact List.forall₂_map_left_iff.mpr (List.forall₂_map_right_iff.mpr (List.rel_filterMap (fun _ _ => id) each))

theorem parseOne_respelled (same : Respelled a b) :
    Option.Rel (fun v w => Spelled (ofValue v) (ofValue w)) (parseOne a) (parseOne b) := by
  induction same with
  | kept value =>
    cases parseOne value with
    | none => exact .none
    | some given => exact .some (.same _)
  | @entity a b name name' plain plain' called called' names attributes counted inside ih =>
    by_cases empty : name = ""
    · have empty' := camel_empty names empty
      subst empty empty'
      rw [parseOne_none called,parseOne_none called']
      exact .none
    · have filled : name' ≠ "" := mt (camel_empty names.symm) empty
      have keys : normalized (a.get "attrs") = normalized (b.get "attrs") := by
        rw [normalized,normalized]
        refine congrArg list (Agree.map_eq attributes ?_)
        rintro ⟨key,held⟩ ⟨key',held'⟩ ⟨same,rfl⟩
        exact congrArg (fun key => list [text key, held]) same
      have within := parse_each (List.forall₂_iff_zip.mpr ⟨counted,fun there => ih _ there⟩)
      rw [parseOne_some.mpr ⟨name,called,empty,plain,rfl⟩,parseOne_some.mpr ⟨name',called',filled,plain',rfl⟩]
      refine .some ?_
      rw [ofValue_made,ofValue_made,keys]
      exact .respelled names within.length_eq fun pair there => List.forall₂_zip within there

theorem parse_respelled {forest forest' : Value} (same : Forall₂ Respelled (listed forest) (listed forest')) :
    Forall₂ Spelled (ofValues (parse forest)) (ofValues (parse forest')) :=
  parse_each (same.imp fun _ _ => parseOne_respelled)

theorem share_spelled {collection wanted : Value} {child child' : Entity} (same : Spelled child child') :
    Outcome (Forall₂ Spelled) (share collection wanted child host) (share collection wanted child' host) := by
  cases same with
  | same => exact (Outcome.of_eq rfl).mono fun _ _ equal => equal ▸ Spelled.refl _
  | @respelled name name' attributes written written' held held' names counted inside =>
    have each : Forall₂ Spelled held held' := List.forall₂_iff_zip.mpr ⟨counted,fun there => inside _ there⟩
    have itself : Spelled ⟨some name,attributes,.entities held,written⟩ ⟨some name',attributes,.entities held',written'⟩ :=
      .respelled names counted inside
    have filled : opens ⟨some name,attributes,.entities held,written⟩ (camel name) collection =
        opens ⟨some name',attributes,.entities held',written'⟩ (camel name') collection := by
      rw [opens,opens,names,isFilled,isFilled]
      dsimp only [Entity.inside]
      rw [Agree.isEmpty_eq each]
    unfold share
    dsimp only [Entity.name]
    rw [filled,names]
    refine Outcome.bind_same ?_
    intro opened _
    cases opened with
    | true => exact .ok each
    | false =>
      refine .ok ?_
      split
      · exact .cons itself .nil
      · exact .nil

theorem nestedFrom_spelled {collection wanted : Value} {children children' : List Entity}
    (same : Forall₂ Spelled children children') :
    Outcome (Forall₂ Spelled) (nestedFrom collection wanted children host) (nestedFrom collection wanted children' host) := by
  induction same with
  | nil => exact .ok .nil
  | cons first _ ih =>
    refine Outcome.bind (share_spelled first) fun here here' alike => ?_
    refine Outcome.bind ih fun later later' others => ?_
    exact .ok (List.rel_append alike others)

theorem contents_spelled {entity entity' : Entity} (same : Spelled entity entity') :
    Outcome (Forall₂ Spelled) (entity.contents host) (entity'.contents host) := by
  cases same with
  | same => exact (Outcome.of_eq rfl).mono fun _ _ equal => equal ▸ Spelled.refl _
  | respelled _ counted inside => exact .ok (List.forall₂_iff_zip.mpr ⟨counted,fun there => inside _ there⟩)

end Trifold.Entity

namespace Trifold.Build
open Agree
open Entity (camel Spelled Respelled listed)
open List (Forall₂)

variable {α β : Type} {scope : Scope} {entity entity' : Entity} {kind : Kind}

-- Two warnings are the same, or both quote what an unknown kind is called, each in its own spelling.
def Quotes (said said' : String) : Prop := said = said' ∨ ∃ name name', camel name = camel name' ∧
  (unknown name).warnings = [said] ∧ (unknown name').warnings = [said']

-- Runs that end alike, and warn of the same.
def spelled : Lifting Run Run where
  rel R x y := Outcome R x.outcome y.outcome ∧ Forall₂ Quotes x.warnings y.warnings
  pure here := ⟨.ok here,.nil⟩
  bind := by
    rintro _ _ _ _ R S x y f g ⟨ended,said⟩ next
    obtain ⟨warnings,outcome⟩ := x
    obtain ⟨warnings',outcome'⟩ := y
    cases ended with
    | error cause => exact ⟨.error cause,said⟩
    | ok here =>
      obtain ⟨ended,more⟩ := next _ _ here
      exact ⟨ended,List.rel_append said more⟩

theorem spelled_refl (run : Run α) : spelled.rel (· = ·) run run :=
  ⟨.of_eq rfl,List.forall₂_same.mpr fun _ _ => .inl rfl⟩

theorem inner_spelled (same : Spelled entity entity') (kind : Kind) (host : Host) :
    Outcome (Forall₂ Spelled) (inner entity kind host) (inner entity' kind host) := by
  unfold inner
  cases collection kind with
  | none => exact Entity.contents_spelled same
  | some pair => exact Outcome.bind (Entity.contents_spelled same) fun _ _ => Entity.nestedFrom_spelled

theorem unknown_spelled {name name' : String} (names : camel name = camel name') :
    spelled.rel (· = ·) (unknown name) (unknown name') :=
  ⟨.of_eq rfl,.cons (.inr ⟨name,name',names,rfl,rfl⟩) .nil⟩

theorem spelled_bind {x x' : Run α} {f g : α → Run β} (begun : spelled.rel (· = ·) x x')
    (next : ∀ a, spelled.rel (· = ·) (f a) (g a)) : spelled.rel (· = ·) (x >>= f) (x' >>= g) := by
  refine spelled.bind begun ?_
  rintro a _ rfl
  exact next a

-- Induction along the entities of the first spelling, as deep as they are nested.
mutual
theorem element_spelled (entity : Entity) {entity' : Entity} (same : Spelled entity entity') :
    spelled.rel (· = ·) (element scope entity) (element scope entity') := by
  have inside (kind : Kind) := within_spelled entity same kind
  cases same with
  | same => exact spelled_refl _
  | @respelled name name' attributes written written' held held' names counted deeper =>
    rw [element.eq_1,element.eq_1]
    dsimp only [Entity.name,Entity.attributes]
    rw [← names]
    cases known : Kind.ofName? (camel name) with
    | none => exact unknown_spelled names
    | some kind =>
      split
      · cases ‹some kind = none›
      · exact spelled_refl _
      · rename_i found _ same
        cases same
        split
        · exact spelled_refl _
        · split
          · refine spelled_bind (spelled_refl _) fun common => ?_
            exact spelled_bind (inside kind) fun built => spelled_refl _
          · split
            · exact spelled_bind (inside .table) fun built => spelled_refl _
            · exact spelled_bind (inside kind) fun built => spelled_refl _
termination_by (sizeOf entity,1)
theorem within_spelled (entity : Entity) {entity' : Entity} (same : Spelled entity entity') (kind : Kind) :
    spelled.rel (· = ·) (within scope entity kind) (within scope entity' kind) := by
  have found := inner_spelled same kind scope.host
  rw [within,within]
  split
  · rename_i fault failed
    rw [failed] at found
    split
    · rename_i fault' failed'
      rw [failed'] at found
      cases found
      exact spelled_refl _
    · rename_i there
      rw [there] at found
      cases found
  · rename_i held there
    have smaller := sizeOf_inner there
    rw [there] at found
    split
    · rename_i failed
      rw [failed] at found
      cases found
    · rename_i held' there'
      rw [there'] at found
      cases found with
      | ok each => exact elements_spelled held each
termination_by (sizeOf entity,0)
theorem elements_spelled (entities : List Entity) {entities' : List Entity} (same : Forall₂ Spelled entities entities') :
    spelled.rel (· = ·) (elements scope entities) (elements scope entities') := by
  cases same with
  | nil => exact spelled_refl _
  | @cons entity entity' rest rest' first others =>
    rw [elements,elements]
    refine spelled_bind (element_spelled entity first) fun built => ?_
    exact spelled_bind (elements_spelled rest others) fun later => spelled_refl _
termination_by (sizeOf entities,0)
end

theorem first_spelled {entities entities' : List Entity} (same : Forall₂ Spelled entities entities') :
    spelled.rel (· = ·) (first scope entities) (first scope entities') := by
  induction same with
  | nil => exact spelled_refl _
  | cons here _ ih =>
    rw [first,first]
    refine spelled_bind (element_spelled _ here) fun built => ?_
    cases built with
    | some element => exact spelled_refl _
    | none => exact ih

-- The same end, and the same warnings but for how a name in them is spelled.
def Alike (run run' : Run α) : Prop := run.outcome = run'.outcome ∧ Forall₂ Quotes run.warnings run'.warnings

theorem alike_of_spelled {run run' : Run α} (same : spelled.rel (· = ·) run run') : Alike run run' := ⟨same.1.eq,same.2⟩

-- What is parsed is settled. Two spellings of one forest are built alike, entity by entity and as a whole.
theorem parse_settles : (∀ value, Entity.parse (.list (Entity.parse value)) = Entity.parse value) ∧
    ∀ forest forest', Forall₂ Respelled (listed forest) (listed forest') → ∀ scope,
      Forall₂ (fun entity entity' => Alike (element scope entity) (element scope entity'))
        (Entity.ofValues (Entity.parse forest)) (Entity.ofValues (Entity.parse forest')) ∧
      Alike (first scope (Entity.ofValues (Entity.parse forest))) (first scope (Entity.ofValues (Entity.parse forest'))) := by
  refine ⟨Entity.parse_parse,?_⟩
  intro forest forest' same scope
  have parsed := Entity.parse_respelled same
  refine ⟨parsed.imp fun entity entity' here => ?_,?_⟩
  · exact alike_of_spelled (element_spelled entity here)
  · exact alike_of_spelled (first_spelled parsed)

-- A tree behind something unknown, in both spellings, the second time with pairs for attributes.
def snake : Value := .list [.object [("name",.text "no_such")], .object [("name",.text "tree_view"),
  ("attrs",.object [("show_root",.bool false), ("on_select",.text "picked")]),
  ("entities",.list [.object [("name",.text "tree_node"), ("attrs",.object [("label",.text "root")])]])]]

def humps : Value := .list [.object [("name",.text "noSuch")], .object [("name",.text "treeView"),
  ("attrs",.list [.list [.text "showRoot", .bool false], .list [.text "onSelect", .text "picked"]]),
  ("entities",.object [("name",.text "treeNode"), ("attrs",.object [("label",.text "root")])])]]

theorem snake_humps : Forall₂ Respelled (listed snake) (listed humps) := by
  have unknown : Respelled (.object [("name",.text "no_such")]) (.object [("name",.text "noSuch")]) :=
    .entity rfl rfl rfl rfl (by decide) .nil rfl (List.forall_mem_nil _)
  have node : Respelled (.object [("name",.text "tree_node"), ("attrs",.object [("label",.text "root")])])
      (.object [("name",.text "treeNode"), ("attrs",.object [("label",.text "root")])]) :=
    .entity rfl rfl rfl rfl (by decide) (.cons ⟨rfl,rfl⟩ .nil) rfl (List.forall_mem_nil _)
  refine .cons unknown (.cons (.entity rfl rfl rfl rfl (by decide) ?_ rfl ?_) .nil)
  · exact .cons ⟨by decide,rfl⟩ (.cons ⟨by decide,rfl⟩ .nil)
  · exact List.forall_mem_singleton.mpr node

theorem parse_settles_snake : Forall₂ Respelled (listed snake) (listed humps) ∧
    Forall₂ (fun entity entity' => Alike (element ⟨[],.silent⟩ entity) (element ⟨[],.silent⟩ entity'))
      (Entity.ofValues (Entity.parse snake)) (Entity.ofValues (Entity.parse humps)) ∧
    Alike (first ⟨[],.silent⟩ (Entity.ofValues (Entity.parse snake)))
      (first ⟨[],.silent⟩ (Entity.ofValues (Entity.parse humps))) :=
  ⟨snake_humps,parse_settles.2 snake humps snake_humps ⟨[],.silent⟩⟩

end Trifold.Build
