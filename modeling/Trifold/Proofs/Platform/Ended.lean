import Trifold.Proofs.Platform.Captions
import Trifold.Proofs.Platform.Mixed
import Trifold.Proofs.Platform.Paired
import Trifold.Proofs.Source.Factory
import Trifold.Proofs.Source.Parsed
import Trifold.Proofs.Web.Handlers

namespace Trifold
open Value Element
open Agree (Outcome)

variable {host : Host} {value : Value}

namespace Backend

variable {ρ : Type} {backend : Backend ρ} {show_ : ρ → Value}

theorem converted_ok {root : Value} : (backend.converted host show_ value).outcome = .ok root ↔
    ∃ made, (backend.convert host value).outcome = .ok made ∧ (made.map show_).getD .null = root := by
  rw [Renderer.converted_outcome]
  cases (backend.convert host value).outcome with
  | error cause => exact ⟨nofun,fun ⟨_,ended,_⟩ => nomatch ended⟩
  | ok made =>
    refine ⟨fun same => ⟨made,rfl,Except.ok.inj same⟩,?_⟩
    rintro ⟨_,⟨⟩,rfl⟩
    rfl

theorem converts_of_draws {fits : Element → Prop} {P : ρ → Prop} (draws : backend.Draws host fits P) (whole : Whole value)
    (patched : Patched value) (each : ∀ element ∈ seen value, element.Fit → fits element) :
    ∃ root, (backend.converted host show_ value).outcome = .ok root := by
  obtain ⟨open_,none⟩ := walk_whole whole patched
  have mixed : Mixed host fits value := by
    refine patched.mixed value (fun element there => ⟨(open_ element there).1,each element there⟩) ?_
    rw [none]
    exact List.forall_mem_nil _
  obtain ⟨_,made,ended,_⟩ := convert_mixed draws mixed
  exact ⟨_,converted_ok.mpr ⟨made,by rw [ended],rfl⟩⟩

-- A tree with captions has no table that is too narrow.
theorem broad_of_captions {captions : List Caption} (patched : ∀ element ∈ seen value, element.Fit)
    (converted : (Caption.backend.convert host value).outcome = .ok (some captions)) :
    ∀ element ∈ seen value, element.body.Broad := by
  have stands := @convert_stands_some _ Caption.backend host (fun _ elements => ∀ element ∈ elements, element.Fit → element.body.Broad)
    (List.forall_mem_nil _) ?_ value captions converted
  · exact fun element there => stands element there (patched element there)
  · intro value element inside panel made told told' sound _ _ insides panels assembled
    have each {all : List (List Caption)} {told : List (List Element)}
        (stands : List.Forall₂ (fun _ elements => ∀ element ∈ elements, element.Fit → element.body.Broad) all told) :
        ∀ element ∈ told.flatten, element.Fit → element.body.Broad := by
      intro element there
      obtain ⟨elements,listed,there⟩ := List.mem_flatten.mp there
      obtain ⟨_,_,broad⟩ := Agree.partner stands.flip elements listed
      exact broad element there
    refine List.forall_mem_cons.mpr ⟨fun fit => Caption.broad_of_assembled sound fit.measured assembled,?_⟩
    exact List.forall_mem_append.mpr ⟨each insides,each panels⟩

-- A platform that frames tables draws a tree exactly where every table has room for its frame.
theorem converts_iff_broad {R : ρ → List Caption → Prop} {P : ρ → Prop} (beside : Beside backend Caption.backend host R)
    (draws : backend.Draws host (Captioned host) P) (whole : Whole value) (patched : Patched value)
    (short : ∀ element ∈ seen value, element.body.Short host) :
    (∃ root, (backend.converted host show_ value).outcome = .ok root) ↔ ∀ element ∈ seen value, element.body.Broad := by
  refine ⟨?_,fun broad => ?_⟩
  · rintro ⟨root,ended⟩
    obtain ⟨made,ended,_⟩ := converted_ok.mp ended
    have pair := convert_beside beside whole.tree
    rw [ended] at pair
    generalize told : (Caption.backend.convert host value).outcome = captions at pair
    cases pair with
    | ok both =>
      cases both with
      | none =>
        rw [seen_of_none ended]
        exact List.forall_mem_nil _
      | some _ => exact broad_of_captions (fun element there => ((walk_whole whole patched).1 element there).2) told
  · exact converts_of_draws draws whole patched fun element there fit => ⟨fit.measured,broad element there,short element there⟩

end Backend

namespace Renderer
open Handlers

-- No element that was seen has the name of the base of a record, so its handlers are put under its id.
theorem handlers_ended (plain : "__proto__" ∉ (seen value).filterMap (·.id)) (platform : Platform) {root : Value}
    (converted : ((builtin host platform).convert value).outcome = .ok root) :
    ∃ found, Platform.handlers platform root host = .ok found := by
  have recorded {found : Found} (named : baseName ∉ Fields.keys found) :
      ∃ record, (Handlers.toValue found).mapError Fault.misuse = .ok record := by
    rw [toValue_named named]
    exact ⟨_,rfl⟩
  cases platform with
  | terminal =>
    obtain ⟨found,read,order⟩ := terminal_found converted
    rw [read]
    exact recorded fun there => plain ((keys_bearing _ _).subset ((order.map Prod.fst).mem_iff.mp there))
  | desktop =>
    rw [desktop_found converted]
    exact recorded fun there => plain ((keys_bearing _ _).subset there)
  | web =>
    obtain ⟨made,_,rfl⟩ := Backend.converted_ok.mp converted
    cases made with
    | none => exact ⟨_,rfl⟩
    | some markup =>
      have read := Web.convert_found converted
      change ∃ found, (Handlers.toValue (Web.handlers _)).mapError Fault.misuse = .ok found
      rw [read]
      exact recorded fun there => plain ((Web.keys_found (seen value)).subset there)

theorem framed_iff_broad (whole : Whole value) (patched : Patched value) (short : ∀ it ∈ seen value, it.body.Short host)
    {platform : Platform} (framed : platform ≠ .web) :
    (∃ root, ((builtin host platform).convert value).outcome = .ok root) ↔ ∀ it ∈ seen value, it.body.Broad := by
  cases platform with
  | terminal => exact Backend.converts_iff_broad (Terminal.backend_beside host) (Terminal.backend_draws host) whole patched short
  | desktop => exact Backend.converts_iff_broad (Desktop.backend_beside host) (Desktop.backend_draws host) whole patched short
  | web => exact absurd rfl framed

theorem parsed_drawn (host : Host) {forest : Value} (json : Json forest) {registry : Registry} (acyclic : registry.Acyclic) :
    ∃ built, (Build.first ⟨registry,host⟩ (Entity.ofValues (Entity.parse forest))).outcome = .ok built ∧ ∀ element ∈ built,
      (∃ page, ((builtin host .web).convert element.toValue).outcome = .ok page) ∧
      ((∀ it ∈ seen element.toValue, it.body.Short host) → ∀ platform ≠ .web,
        ((∃ root, ((builtin host platform).convert element.toValue).outcome = .ok root) ↔
          ∀ it ∈ seen element.toValue, it.body.Broad)) ∧
      ("__proto__" ∉ (seen element.toValue).filterMap (·.id) → ∀ platform root,
        ((builtin host platform).convert element.toValue).outcome = .ok root →
          ∃ found, Platform.handlers platform root host = .ok found) := by
  have parsed := Entity.parse_json json
  obtain ⟨built,ended⟩ := @Build.first_ends ⟨registry,host⟩ acyclic _ parsed
  refine ⟨built,ended,?_⟩
  rintro element rfl
  have drawable := Build.first_drawable parsed ended
  refine ⟨?_,fun short platform framed => ?_,fun plain platform root => handlers_ended plain platform⟩
  · exact Backend.converts_of_draws (Web.backend_draws host) drawable.whole drawable.patched fun _ _ fit => fit
  · exact framed_iff_broad drawable.whole drawable.patched short framed

-- A table of one row, with one column of a declared width.
def ledger (w : Float) : Value :=
  object [("name",text "table"), ("attrs",object [("data",list [object [("a",text "x")]]),
    ("columns",list [object [("key",text "a"), ("width",number w)]])])]

def ledgerColumn (w : Float) : Element := ⟨none,none,true,.column ⟨"a","a",true,none,some w,"left"⟩⟩

def ledgerTable (w : Float) : Element :=
  ⟨none,none,true,.table ⟨[object [("a",text "x")]],[(ledgerColumn w).toValue],none,none,none,none,none,"asc"⟩⟩

def ledgerEntity (w : Float) : Entity :=
  ⟨some "table",list [list [text "data", list [object [("a",text "x")]]],
    list [text "columns", list [object [("key",text "a"), ("width",number w)]]]],.entities [],
    Entity.made (text "table") ((ledger w).get "attrs") (list [])⟩

theorem parse_ledger (w : Float) : Entity.ofValues (Entity.parse (ledger w)) = [ledgerEntity w] := by
  have none : Entity.parse ((ledger w).get "entities") = [] := Entity.parse_eq _
  have attributes : Entity.normalized ((ledger w).get "attrs") = (ledgerEntity w).attributes := by
    change list [list [text (Entity.camel "data"),_],list [text (Entity.camel "columns"),_]] = _
    have data : Entity.camel "data" = "data" := by decide
    have columns : Entity.camel "columns" = "columns" := by decide
    rw [data,columns]
    rfl
  rw [Entity.ofValues_parse]
  change List.filterMap _ [ledger w] = _
  rw [List.filterMap_cons,Entity.parseOne_named rfl (by decide) rfl,none,attributes,Entity.ofValues]
  rfl

theorem first_ledger (scope : Build.Scope) {w : Float} (finite : Number.isFinite w = true) :
    Build.first scope (Entity.ofValues (Entity.parse (ledger w))) = pure (some (ledgerTable w)) := by
  have named : (ledgerEntity w).GoesBy Kind.table.name := ⟨_,rfl,by decide⟩
  have inside : Build.within scope (ledgerEntity w) .table = pure [] := by
    rw [Build.within]
    change Build.elements scope [] = _
    rw [Build.elements]
  have column : Build.column scope (Entity.normalized (object [("key",text "a"), ("width",number w)])) =
      pure (some (ledgerColumn w)) := by
    have settled : Entity.normalized (object [("key",text "a"), ("width",number w)]) =
        list [list [text "key", text "a"], list [text "width", number w]] := by
      change list [list [text (Entity.camel "key"),_],list [text (Entity.camel "width"),_]] = _
      have key : Entity.camel "key" = "key" := by decide
      have width : Entity.camel "width" = "width" := by decide
      rw [key,width]
    rw [settled,Build.column]
    have read : Attributes.finite? (number w) = some w := Option.filter_some_pos finite
    have keyed : Attributes.read "key" (list [list [text "key", text "a"], list [text "width", number w]]) = text "a" := rfl
    have wide : Attributes.read "width" (list [list [text "key", text "a"], list [text "width", number w]]) = number w := rfl
    rw [keyed,wide,read]
    dsimp only [Value.text?]
    rw [Build.common_plain rfl]
    rfl
  have declared : Build.declaredColumns scope (ledgerEntity w).attributes (Build.ofKind .column []) = pure [ledgerColumn w] := by
    change Build.columnsFrom scope [object [("key",text "a"), ("width",number w)]] = _
    rw [Build.columnsFrom.eq_def]
    change (Build.column scope _ >>= _) = _
    rw [column]
    rfl
  rw [parse_ledger,Build.first,Build.element_declared named rfl,inside,Run.pure_bind,declared]
  simp only [Run.pure_bind]
  rfl

theorem json_ledger {w : Float} (finite : Number.isFinite w = true) : Json (ledger w) := by
  have row : Json (object [("a",text "x")]) := .record (by simp [Json.text])
  have column : Json (object [("key",text "a"), ("width",number w)]) := .record (by simp [Json.text,Json.number finite])
  have attributes : Json (object [("data",list [object [("a",text "x")]]),
      ("columns",list [object [("key",text "a"), ("width",number w)]])]) :=
    .record (by simp [Json.list,row,column])
  exact .record (by simp [Json.text,attributes])

theorem seen_ledger {w : Float} (finite : Number.isFinite w = true) : seen (ledgerTable w).toValue = [ledgerTable w] := by
  have ended := congrArg Run.outcome (first_ledger ⟨[],.silent⟩ finite)
  rw [seen_shown (Build.first_built ended).read rfl rfl]
  simp only [Element.shown,ledgerTable,seenAll]
  rfl

theorem broad_ledger (w : Float) : (ledgerTable w).body.Broad ↔ -3 < w := by
  refine ⟨fun broad => broad _ (List.mem_singleton_self _) w rfl,fun wide => ?_⟩
  rintro c there x declared
  cases List.mem_singleton.mp there
  cases declared
  exact wide

theorem short_ledger {w : Float} (narrow : ¬ Float.ofNat Table.longest < w) : (ledgerTable w).body.Short host := by
  rintro c there
  refine .inl fun x declared => ?_
  cases List.mem_singleton.mp there
  cases declared
  exact narrow

def base : NamedStyle := ⟨text "base",absent,object [("fg",text "red")],absent⟩

theorem parsed_drawn_ledger : Json (ledger (-2)) ∧ Registry.Acyclic [base] ∧ ∃ element,
    (Build.first ⟨[base],.silent⟩ (Entity.ofValues (Entity.parse (ledger (-2))))).outcome = .ok (some element) ∧
    ∀ platform, ∃ root found, ((builtin .silent platform).convert element.toValue).outcome = .ok root ∧
      Platform.handlers platform root .silent = .ok found := by
  have json : Json (ledger (-2)) := json_ledger rfl
  have acyclic : Registry.Acyclic [base] := by
    intro style again
    obtain ⟨_,⟨there,_⟩,_⟩ := Relation.TransGen.head'_iff.mp again
    obtain ⟨_,_,_,found⟩ := Relation.TransGen.tail'_iff.mp again
    cases List.mem_singleton.mp (List.mem_of_find?_eq_some found)
    cases there
  have seen := @seen_ledger (-2) rfl
  obtain ⟨built,ended,drawn⟩ := parsed_drawn .silent json acyclic
  obtain rfl : built = some (ledgerTable (-2)) := by
    have same := congrArg Run.outcome (first_ledger ⟨[base],.silent⟩ (w := -2) rfl)
    exact Except.ok.inj (ended.symm.trans same)
  obtain ⟨page,framed,handled⟩ := drawn _ rfl
  rw [seen] at framed handled
  refine ⟨json,acyclic,_,ended,fun platform => ?_⟩
  have converted : ∃ root, ((builtin .silent platform).convert (ledgerTable (-2)).toValue).outcome = .ok root := by
    by_cases web : platform = .web
    · rw [web]
      exact page
    · refine (framed ?_ platform web).mpr ?_
      · exact List.forall_mem_singleton.mpr (short_ledger (by decide))
      · exact List.forall_mem_singleton.mpr ((broad_ledger _).mpr (by decide))
  obtain ⟨root,converted⟩ := converted
  obtain ⟨found,handled⟩ := handled (by decide) platform root converted
  exact ⟨root,found,converted,handled⟩

theorem parsed_undrawn : Json (ledger (-3)) ∧ Registry.Acyclic [] ∧ ∃ element,
    (Build.first ⟨[],.silent⟩ (Entity.ofValues (Entity.parse (ledger (-3))))).outcome = .ok (some element) ∧
    ∀ platform ≠ .web, ∀ root, ((builtin .silent platform).convert element.toValue).outcome ≠ .ok root := by
  have json : Json (ledger (-3)) := json_ledger rfl
  have acyclic : Registry.Acyclic [] := by
    intro style again
    obtain ⟨_,⟨_,found⟩,_⟩ := Relation.TransGen.head'_iff.mp again
    cases found
  have ended := congrArg Run.outcome (first_ledger ⟨[],.silent⟩ (w := -3) rfl)
  have drawable := Build.first_drawable (Entity.parse_json json) ended
  have short : ∀ element ∈ seen (ledgerTable (-3)).toValue, element.body.Short .silent := by
    rw [seen_ledger rfl]
    exact List.forall_mem_singleton.mpr (short_ledger (by decide))
  have narrow : ¬ ∀ element ∈ seen (ledgerTable (-3)).toValue, element.body.Broad := by
    rw [seen_ledger rfl,List.forall_mem_singleton,broad_ledger]
    decide
  refine ⟨json,acyclic,_,ended,fun platform framed root converted => narrow ?_⟩
  exact (framed_iff_broad drawable.whole drawable.patched short framed).mp ⟨root,converted⟩

end Renderer

end Trifold
