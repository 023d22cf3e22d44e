import Trifold.Proofs.Platform.Ended

namespace Trifold.Renderer
open Value Element
open List (Forall₂)

variable {host : Host} {forest tree : Value} {registry : Registry} {element : Element}

-- The blank of the platform is in the place of every foreign value that a walk comes to, and each gives one warning, in the
-- order of the walk.
def Contains {ρ : Type} (renderer : Renderer) (backend : Backend ρ) (host : Host) (show_ : ρ → Value) (value : Value) :
    Prop :=
  ∃ warnings made, renderer.convert value = ⟨warnings,.ok ((made.map show_).getD .null)⟩ ∧
    Forall₂ (backend.Warns host) (strangers value) warnings ∧ backend.Drawn host value made

section

variable {ρ : Type} {renderer : Renderer} {backend : Backend ρ} {show_ : ρ → Value} {fits : Element → Prop} {P : ρ → Prop}

theorem contains_of_draws (converts : renderer.convert = backend.converted host show_) (draws : backend.Draws host fits P)
    (mixed : Mixed host fits tree) : renderer.Contains backend host show_ tree := by
  obtain ⟨warnings,made,ended,warned,drawn,_⟩ := Backend.convert_mixed draws mixed
  refine ⟨warnings,made,?_,warned,drawn⟩
  rw [converts,Backend.converted,ended]
  change (⟨warnings ++ [],_⟩ : Run Value) = _
  rw [List.append_nil]
  rfl

theorem shut_of_draws (converts : renderer.convert = backend.converted host show_) (draws : backend.Draws host fits P)
    (sound : ofValue? tree = some element) (visible : element.visible = true) (fit : fits element)
    (within : ∀ inner ∈ element.shown, Mixed host fits inner) {cause : Misuse} (shut : element.panel = .error cause) :
    (renderer.convert tree).outcome = .error (.misuse cause) := by
  obtain ⟨_,prepared,_⟩ := draws.ready sound fit
  obtain ⟨_,all,ended,_⟩ := Backend.convertAll_converts fun inner there => Backend.convert_mixed draws (within inner there)
  rw [converts,Backend.converted,Backend.convert_shown sound visible,Run.ask_ok prepared,Run.pure_bind,ended,Run.ended_bind,shut]
  rfl

end

theorem convert_contained (host : Host) (json : Json forest)
    (built : (Build.first ⟨registry,host⟩ (Entity.ofValues (Entity.parse forest))).outcome = .ok (some element))
    (spoiled : Spoiled element.toValue tree) (roomy : ∀ it ∈ seen tree, it.body.Broad ∧ it.body.Short host)
    (opens : ∀ it ∈ seen tree, it.Opens) (sayable : ∀ stranger ∈ strangers tree, (describe stranger).isSayable = true) :
    (terminal host).Contains Terminal.backend host id tree ∧ (desktop host).Contains Desktop.backend host id tree ∧
      (web host).Contains Web.backend host (fun markup => .text markup.written) tree := by
  have patched : Patched tree := spoiled.patched (Build.first_drawable (Entity.parse_json json) built).patched
  have framed : Mixed host (Captioned host) tree :=
    patched.mixed tree (fun it there => ⟨opens it there,fun fit => ⟨fit.measured,(roomy it there).1,(roomy it there).2⟩⟩)
      sayable
  have plain : Mixed host Fit tree := patched.mixed tree (fun it there => ⟨opens it there,fun fit => fit⟩) sayable
  exact ⟨contains_of_draws rfl (Terminal.backend_draws host) framed,contains_of_draws rfl (Desktop.backend_draws host) framed,
    contains_of_draws rfl (Web.backend_draws host) plain⟩

-- A tab bar with two tabs, and what is built of it.
def pocket (name : String) : Value := object [("name",text "tab"), ("attrs",object [("id",text name)])]

def pockets (active : String) : Value :=
  object [("name",text "tabs"), ("attrs",object [("active_tab",text active)]), ("entities",list [pocket "a",pocket "b"])]

def pocketTab (name : String) : Element := ⟨some name,none,true,.tab ⟨"",none,false,false,none⟩⟩

def pocketBar (active : String) (tabs : List Value) : Element := ⟨none,none,true,.tabs ⟨some active,none,none,tabs⟩⟩

def builtBar (active : String) : Element := pocketBar active [(pocketTab "a").toValue,(pocketTab "b").toValue]

def pocketEntity (name : String) : Entity :=
  ⟨some "tab",list [list [text "id",text name]],.entities [],Entity.made (text "tab") ((pocket name).get "attrs") (list [])⟩

def pocketsEntity (active : String) : Entity :=
  ⟨some "tabs",list [list [text "activeTab",text active]],.entities [pocketEntity "a",pocketEntity "b"],
    Entity.made (text "tabs") ((pockets active).get "attrs") (list (Entity.parse (list [pocket "a",pocket "b"])))⟩

theorem parse_pocket (name : String) : (Entity.parseOne (pocket name)).map Entity.ofValue = some (pocketEntity name) := by
  have none : Entity.parse ((pocket name).get "entities") = [] := Entity.parse_eq _
  have attributes : Entity.normalized ((pocket name).get "attrs") = (pocketEntity name).attributes := by
    change list [list [text (Entity.camel "id"),_]] = _
    have id : Entity.camel "id" = "id" := by decide
    rw [id]
    rfl
  rw [Entity.parseOne_named rfl (by decide) rfl,none,attributes,Entity.ofValues]
  rfl

theorem parse_pockets (active : String) : Entity.ofValues (Entity.parse (pockets active)) = [pocketsEntity active] := by
  have attributes : Entity.normalized ((pockets active).get "attrs") = (pocketsEntity active).attributes := by
    change list [list [text (Entity.camel "active_tab"),_]] = _
    have key : Entity.camel "active_tab" = "activeTab" := by decide
    rw [key]
    rfl
  have inside : Entity.ofValues (Entity.parse ((pockets active).get "entities")) = [pocketEntity "a",pocketEntity "b"] := by
    rw [Entity.ofValues_parse]
    change List.filterMap _ [pocket "a",pocket "b"] = _
    simp only [List.filterMap_cons,parse_pocket,List.filterMap_nil]
  rw [Entity.ofValues_parse]
  change List.filterMap _ [pockets active] = _
  rw [List.filterMap_cons,Entity.parseOne_named rfl (by decide) rfl,inside,attributes]
  rfl

theorem first_pockets (scope : Build.Scope) (active : String) :
    Build.first scope (Entity.ofValues (Entity.parse (pockets active))) = pure (some (builtBar active)) := by
  have member (name : String) : (pocketEntity name).GoesBy Kind.tab.name := ⟨_,rfl,by decide⟩
  have named : (pocketsEntity active).GoesBy Kind.tabs.name := ⟨_,rfl,by decide⟩
  have pocket (name : String) : Build.element scope (pocketEntity name) = pure (some (pocketTab name)) := by
    rw [Build.element_branch (member name) rfl fun inside => rfl,Build.within_inner rfl,Build.elements]
    rfl
  have inside : Build.within scope (pocketsEntity active) .tabs = pure [pocketTab "a",pocketTab "b"] := by
    rw [Build.within_nested rfl fun child there => ?_]
    · simp only [Build.elements,pocket]
      rfl
    · refine .inl ⟨.tab,rfl,?_⟩
      simp only [List.mem_cons,List.not_mem_nil,or_false] at there
      rcases there with rfl | rfl <;> exact member _
  rw [parse_pockets,Build.first,Build.element_branch named rfl fun inside => rfl,inside]
  rfl

theorem json_pockets (active : String) : Json (pockets active) := by
  have attributes (key value : String) : Json (object [(key,text value)]) := .record (by simp [Json.text])
  have pocket (name : String) : Json (pocket name) := .record (by simp [Json.text,attributes])
  exact .record (by simp [Json.text,attributes,Json.list,pocket])

theorem exchange_pockets (active : String) {tabs : List Value} (filled : tabs ≠ []) :
    Exchange "tabs" [(pocketTab "a").toValue,(pocketTab "b").toValue] tabs (builtBar active).toValue
      (pocketBar active tabs).toValue (builtBar active) (pocketBar active tabs) := by
  refine ⟨rfl,rfl,rfl,?_,rfl,rfl,nofun,filled⟩
  intro other apart
  have written (tabs : List Value) : (pocketBar active tabs).toValue =
      object [("type",text "tabs"), ("visible",bool true), ("activeTab",text active), ("tabs",list tabs)] := rfl
  simp [builtBar,written,object,Value.get,Fields.get?,Ne.symm apart]

theorem seen_pocket (name : String) : seen (pocketTab name).toValue = [pocketTab name] := by
  rw [seen_visible rfl rfl]
  change _ :: (seenAll [] ++ seenAll []) = _
  rw [seenAll]
  rfl

theorem strangers_pocket (name : String) : strangers (pocketTab name).toValue = [] := by
  rw [strangers_sound rfl]
  change strangersAll [] ++ strangersAll [] = _
  rw [strangersAll]
  rfl

theorem seen_pockets {active : String} {tabs : List Value} (bare : (pocketBar active tabs).opened = []) :
    seen (pocketBar active tabs).toValue = pocketBar active tabs :: seenAll tabs := by
  have sound : ofValue? (pocketBar active tabs).toValue = some (pocketBar active tabs) := rfl
  rw [seen_visible sound rfl,bare]
  change _ :: (seenAll tabs ++ seenAll []) = _
  rw [seenAll.eq_1,List.append_nil]

theorem strangers_pockets {active : String} {tabs : List Value} (bare : (pocketBar active tabs).opened = []) :
    strangers (pocketBar active tabs).toValue = strangersAll tabs := by
  have sound : ofValue? (pocketBar active tabs).toValue = some (pocketBar active tabs) := rfl
  rw [strangers_sound sound,bare]
  change strangersAll tabs ++ strangersAll [] = _
  rw [strangersAll.eq_1,List.append_nil]

theorem spoiled_pockets (active : String) {a b : Value} (first : a = (pocketTab "a").toValue ∨ a = null)
    (second : b = (pocketTab "b").toValue ∨ b = null) : Spoiled (builtBar active).toValue (pocketBar active [a,b]).toValue := by
  have foreign {name : String} {value : Value} (either : value = (pocketTab name).toValue ∨ value = null)
      (unread : ofValue? value = none) : Json value := by
    rcases either with rfl | rfl
    · cases unread
    · exact .null
  have kept {name : String} {value : Value} (either : value = (pocketTab name).toValue ∨ value = null)
      (sound : (ofValue? value).isSome) : Spoiled (pocketTab name).toValue value := by
    rcases either with rfl | rfl
    · exact .kept _
    · cases sound
  refine .inside (exchange_pockets active nofun) rfl ?_ ?_
  · exact List.forall_mem_cons.mpr ⟨foreign first,List.forall_mem_singleton.mpr (foreign second)⟩
  · exact List.forall_mem_cons.mpr ⟨kept first,List.forall_mem_singleton.mpr (kept second)⟩

-- Nothing is left of the second tab, and the first is open.
def emptied : Element := pocketBar "a" [(pocketTab "a").toValue,null]

theorem seen_emptied : seen emptied.toValue = [emptied,pocketTab "a"] := by
  have reached := @seen_pockets "a" [(pocketTab "a").toValue,null] rfl
  rwa [seenAll,seen_pocket,seenAll,@seen_foreign null rfl,seenAll] at reached

theorem strangers_emptied : strangers emptied.toValue = [null] := by
  have reached := @strangers_pockets "a" [(pocketTab "a").toValue,null] rfl
  rwa [strangersAll,strangers_pocket,strangersAll,@strangers_foreign null rfl,strangersAll] at reached

theorem convert_contained_pocket : Json (pockets "a") ∧
    (Build.first ⟨[],.silent⟩ (Entity.ofValues (Entity.parse (pockets "a")))).outcome = .ok (some (builtBar "a")) ∧
    Spoiled (builtBar "a").toValue emptied.toValue ∧
    (∀ it ∈ seen emptied.toValue, (it.body.Broad ∧ it.body.Short .silent) ∧ it.Opens) ∧
    (∀ stranger ∈ strangers emptied.toValue, (describe stranger).isSayable = true) ∧
    (terminal .silent).Contains Terminal.backend .silent id emptied.toValue ∧
    (desktop .silent).Contains Desktop.backend .silent id emptied.toValue ∧
    (web .silent).Contains Web.backend .silent (fun markup => .text markup.written) emptied.toValue := by
  have json := json_pockets "a"
  have built := congrArg Run.outcome (first_pockets ⟨[],.silent⟩ "a")
  have spoiled : Spoiled (builtBar "a").toValue emptied.toValue := spoiled_pockets "a" (.inl rfl) (.inr rfl)
  have opens : emptied.Opens := by
    rintro _ ⟨⟩
    refine ⟨some (pocketTab "a").toValue,rfl,?_⟩
    rintro _ ⟨⟩
    exact ⟨_,rfl⟩
  have drawn : ∀ it ∈ seen emptied.toValue, (it.body.Broad ∧ it.body.Short .silent) ∧ it.Opens := by
    rw [seen_emptied]
    exact List.forall_mem_cons.mpr ⟨⟨⟨trivial,trivial⟩,opens⟩,List.forall_mem_singleton.mpr ⟨⟨trivial,trivial⟩,trivial⟩⟩
  have sayable : ∀ stranger ∈ strangers emptied.toValue, (describe stranger).isSayable = true := by
    rw [strangers_emptied]
    exact List.forall_mem_singleton.mpr rfl
  exact ⟨json,built,spoiled,drawn,sayable,convert_contained .silent json built spoiled (fun it there => (drawn it there).1)
    (fun it there => (drawn it there).2) sayable⟩

-- Nothing is left of the first tab, and the second is open. No platform gets past the first.
def blocked : Element := pocketBar "b" [null,(pocketTab "b").toValue]

theorem seen_blocked : seen blocked.toValue = [blocked,pocketTab "b"] := by
  have reached := @seen_pockets "b" [null,(pocketTab "b").toValue] rfl
  rwa [seenAll,@seen_foreign null rfl,seenAll,seen_pocket,seenAll] at reached

theorem strangers_blocked : strangers blocked.toValue = [null] := by
  have reached := @strangers_pockets "b" [null,(pocketTab "b").toValue] rfl
  rwa [strangersAll,@strangers_foreign null rfl,strangersAll,strangers_pocket,strangersAll] at reached

theorem convert_uncontained : Json (pockets "b") ∧
    (Build.first ⟨[],.silent⟩ (Entity.ofValues (Entity.parse (pockets "b")))).outcome = .ok (some (builtBar "b")) ∧
    Spoiled (builtBar "b").toValue blocked.toValue ∧
    (∀ it ∈ seen blocked.toValue, it.body.Broad ∧ it.body.Short .silent) ∧ strangers blocked.toValue = [null] ∧
    ∀ platform, ((builtin .silent platform).convert blocked.toValue).outcome = .error (.misuse (.readOfNull "id")) := by
  have built := congrArg Run.outcome (first_pockets ⟨[],.silent⟩ "b")
  refine ⟨json_pockets "b",built,spoiled_pockets "b" (.inr rfl) (.inl rfl),?_,strangers_blocked,fun platform => ?_⟩
  · rw [seen_blocked]
    exact List.forall_mem_cons.mpr ⟨⟨trivial,trivial⟩,List.forall_mem_singleton.mpr ⟨trivial,trivial⟩⟩
  have bar : ofValue? blocked.toValue = some blocked := rfl
  have shut : blocked.panel = .error (.readOfNull "id") := rfl
  have inside {fits : Element → Prop} (fit : fits (pocketTab "b")) : ∀ inner ∈ blocked.shown, Mixed .silent fits inner := by
    refine List.forall_mem_cons.mpr ⟨.foreign rfl ⟨"null",rfl,trivial⟩,List.forall_mem_singleton.mpr ?_⟩
    exact .shown rfl rfl fit rfl nofun nofun
  have framed : Captioned .silent (pocketTab "b") := ⟨trivial,trivial,trivial⟩
  have plain : Fit (pocketTab "b") := ⟨trivial,nofun⟩
  cases platform with
  | terminal =>
    exact shut_of_draws rfl (Terminal.backend_draws .silent) bar rfl ⟨trivial,trivial,trivial⟩ (inside framed) shut
  | desktop =>
    exact shut_of_draws rfl (Desktop.backend_draws .silent) bar rfl ⟨trivial,trivial,trivial⟩ (inside framed) shut
  | web => exact shut_of_draws rfl (Web.backend_draws .silent) bar rfl ⟨trivial,nofun⟩ (inside plain) shut

end Trifold.Renderer
