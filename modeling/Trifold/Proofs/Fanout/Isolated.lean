import Trifold.Fanout.Render
import Trifold.Proofs.Ask
import Trifold.Proofs.Fields
import Trifold.Proofs.Platform.Gate

namespace Trifold.Fanout

-- What a renderer is made of.
structure Parts where
  platform : Platform
  conversion : Conversion
  release : Option (State → State)

def Parts.renderer (parts : Parts) : Renderer := .ofConversion parts.platform parts.conversion parts.release

def Parts.first (parts : Parts) (value config : Value) : Run Value :=
  parts.conversion value (some (State.make parts.platform .null (Value.own config) []))

def Request.of (parts : Platform → Parts) (value config : Value) : Request :=
  ⟨fun platform => (parts platform).renderer,value,config⟩

-- What a name answers on its own.
inductive Answer (parts : Platform → Parts) (value config : Value) (name : String) : Shown → Prop
  | unknown (nowhere : Platform.ofName? name = none) : Answer parts value config name (.error .invalidPlatform)
  | failed {platform : Platform} {fault : Fault} (known : Platform.ofName? name = some platform)
      (stopped : ((parts platform).first value config).outcome = .error fault) :
      Answer parts value config name (.error (.render .renderFailed))
  | fresh {platform : Platform} {root : Value} (known : Platform.ofName? name = some platform)
      (converted : ((parts platform).first value config).outcome = .ok root) :
      Answer parts value config name
        (.ok (State.make (parts platform).platform root (Value.own config) [(Renderer.lastKey,value)]))

def Reported (entry : String × Shown) (warning : String) : Prop :=
  ∃ error, entry.2 = .error error ∧
    warning = "[unified-ui][coordinator] render on \"" ++ entry.1 ++ "\" failed: " ++ error.name

def Request.answer (request : Request) (name : Name) : Shown :=
  match (request.show name).outcome with
  | .ok shown => shown
  | .error _ => .error (.render .renderFailed)

def Request.Ends (request : Request) (name : Name) : Prop := (request.show name).outcome = .ok (request.answer name)

variable {request : Request} {parts : Platform → Parts} {value config : Value}

theorem answer_ok {name : Name} {shown : Shown} (ended : (request.show name).outcome = .ok shown) :
    request.answer name = shown := by
  rw [Request.answer,ended]

theorem render_outcome (parts : Parts) (value config : Value) :
    (parts.renderer.render value config).outcome = .ok (match (parts.first value config).outcome with
      | .ok root => .ok (State.make parts.platform root (Value.own config) [(Renderer.lastKey,value)])
      | .error _ => .error .renderFailed) := by
  change (Run.bind (Renderer.tryConvert parts.platform (parts.first value config)) _).outcome = _
  rw [Run.bind_ok _ _ _ (Renderer.tryConvert_outcome _ _)]
  cases (parts.first value config).outcome <;> rfl

theorem show_text (parts : Platform → Parts) (value config : Value) (name : String) : ∃ shown,
    ((Request.of parts value config).show (.ofText name)).outcome = .ok shown ∧ Answer parts value config name shown := by
  unfold Request.show Name.ofText
  cases known : Platform.ofName? name with
  | none => exact ⟨_,rfl,.unknown known⟩
  | some platform =>
    have rendered := render_outcome (parts platform) value config
    dsimp only
    change ∃ shown, (Run.bind ((parts platform).renderer.render value config) _).outcome = .ok shown ∧ _
    rw [Run.bind_ok _ _ _ rendered]
    cases converted : ((parts platform).first value config).outcome with
    | error fault => exact ⟨_,rfl,.failed known converted⟩
    | ok root => exact ⟨_,rfl,.fresh known converted⟩

theorem answer_answers (parts : Platform → Parts) (value config : Value) (name : String) :
    (Request.of parts value config).Ends (.ofText name) ∧
      Answer parts value config name ((Request.of parts value config).answer (.ofText name)) := by
  obtain ⟨shown,ended,answers⟩ := show_text parts value config name
  rw [Request.Ends,answer_ok ended]
  exact ⟨ended,answers⟩

theorem showAll_ended {names : List Name} (ends : ∀ name ∈ names, request.Ends name) : request.showAll names =
    ⟨names.flatMap fun name => (request.show name).warnings,.ok (names.map fun name => (name.key,request.answer name))⟩ := by
  induction names with
  | nil => rfl
  | cons name rest ih =>
    obtain ⟨here,later⟩ := List.forall_mem_cons.mp ends
    rw [Request.showAll,ih later]
    change Run.bind (request.show name) _ = _
    rw [Run.bind_ok _ _ _ here,Run.ended_bind]
    simp only [List.flatMap_cons,List.map_cons]
    exact congrArg (fun warnings => Run.mk (_ ++ warnings) _) (List.append_nil _)

theorem collectFrom_named {entries : List (String × Shown)} (ordinary : ∀ entry ∈ entries, entry.1 ≠ Value.baseName)
    (shows : Fields Shown) :
    collectFrom false shows (entries.map fun entry => (some entry.1,entry.2)) = .ok (Fields.putAll shows entries) := by
  induction entries generalizing shows with
  | nil => rfl
  | cons entry rest ih =>
    obtain ⟨here,later⟩ := List.forall_mem_cons.mp ordinary
    rw [List.map_cons,collectFrom,beq_false_of_ne here]
    exact ih later _

theorem failures_reported (shows : Fields Shown) :
    List.Forall₂ Reported (shows.filter fun entry => !entry.2.isOk) (failures shows) := by
  induction shows with
  | nil => exact .nil
  | cons entry rest ih =>
    obtain ⟨name,shown⟩ := entry
    rw [failures,List.filterMap_cons,List.filter_cons]
    cases shown with
    | ok state => exact ih
    | error error => exact .cons ⟨error,rfl,rfl⟩ ih

theorem renderOn_named {names : List String} (ordinary : ∀ name ∈ names, name ≠ Value.baseName)
    (ends : ∀ name ∈ names, request.Ends (.ofText name)) :
    renderOn request (names.map Name.ofText) =
      let shows := Fields.ofEntries (names.map fun name => (name,request.answer (.ofText name)))
      ⟨(names.flatMap fun name => (request.show (.ofText name)).warnings) ++ failures shows,.ok shows⟩ := by
  have shown := showAll_ended (List.forall_mem_map.mpr ends)
  have collected := @collectFrom_named (names.map fun name => (name,request.answer (.ofText name)))
    (List.forall_mem_map.mpr ordinary) []
  rw [List.map_map] at shown collected
  have shows : Run.ofMisuse (collect (names.map ((fun name => (name.key,request.answer name)) ∘ Name.ofText))) =
      pure (Fields.ofEntries (names.map fun name => (name,request.answer (.ofText name)))) :=
    congrArg Run.ofMisuse collected
  unfold renderOn
  rw [shown,Run.ended_bind,shows,Run.pure_bind,List.flatMap_map]
  rfl

theorem renderOn_single (name : String) (ordinary : name ≠ Value.baseName) (ends : request.Ends (.ofText name)) :
    (renderOn request [Name.ofText name]).outcome = .ok [(name,request.answer (.ofText name))] := by
  have alone := renderOn_named (List.forall_mem_singleton.mpr ordinary) (List.forall_mem_singleton.mpr ends)
  exact congrArg Run.outcome alone

-- Every name has one entry, which is the one it has alone: its platform is unknown, its conversion stopped, or it is a
-- fresh state. Each failed entry is reported once, in order, after everything is rendered.
theorem renderOn_isolated (parts : Platform → Parts) (value config : Value) {names : List String}
    (ordinary : ∀ name ∈ names, name ≠ Value.baseName) : ∃ shows reports,
    renderOn (.of parts value config) (names.map Name.ofText) =
      ⟨(names.flatMap fun name => ((Request.of parts value config).show (.ofText name)).warnings) ++ reports,.ok shows⟩ ∧
    (Fields.keys shows).Nodup ∧ (∀ name, name ∈ Fields.keys shows ↔ name ∈ names) ∧
    (∀ entry ∈ shows, (renderOn (.of parts value config) [Name.ofText entry.1]).outcome = .ok [entry] ∧
      Answer parts value config entry.1 entry.2) ∧
    List.Forall₂ Reported (shows.filter fun entry => !entry.2.isOk) reports := by
  have each (name : String) : (Request.of parts value config).Ends (.ofText name) ∧
      Answer parts value config name ((Request.of parts value config).answer (.ofText name)) := by
    obtain ⟨shown,ended,answers⟩ := show_text parts value config name
    rw [Request.Ends,answer_ok ended]
    exact ⟨ended,answers⟩
  generalize Request.of parts value config = request at each ⊢
  have listed {name : String} :
      name ∈ Fields.keys (Fields.ofEntries (names.map fun name => (name,request.answer (.ofText name)))) ↔ name ∈ names := by
    rw [Fields.mem_keys_ofEntries,Fields.keys,List.map_map]
    exact iff_of_eq (congrArg _ (List.map_id' names))
  refine ⟨_,_,renderOn_named ordinary fun name _ => (each name).1,Fields.nodup_ofEntries _,fun _ => listed,?_,
    failures_reported _⟩
  rintro ⟨name,shown⟩ there
  have named : name ∈ names := listed.mp (List.mem_map_of_mem there)
  obtain ⟨origin,_,same⟩ : ∃ origin ∈ names, (origin,request.answer (.ofText origin)) = (name,shown) :=
    List.mem_map.mp ((Fields.mem_putAll there).resolve_left List.not_mem_nil)
  cases same
  exact ⟨renderOn_single name (ordinary name named) (each name).1,(each name).2⟩

def panels (platform : Platform) : Parts where
  platform
  conversion value _ := if platform = .desktop then Run.fail (.raised "down") else pure value
  release := none

def wall : List String := ["web", "tv", "desktop", "web"]

theorem renderOn_isolated_wall : (∀ name ∈ wall, name ≠ Value.baseName) ∧ ∃ shows reports,
    renderOn (.of panels (.text "hello") .absent) (wall.map Name.ofText) =
      ⟨["[unified-ui][desktop] conversion failed: down"] ++ reports,.ok shows⟩ ∧
    (∀ name, name ∈ Fields.keys shows ↔ name ∈ wall) ∧ List.Forall₂ Reported
      [("tv",.error .invalidPlatform), ("desktop",.error (.render .renderFailed))] reports := by
  have ordinary : ∀ name ∈ wall, name ≠ Value.baseName := by decide
  obtain ⟨shows,reports,ended,_,names,_,reported⟩ := renderOn_isolated panels (.text "hello") .absent ordinary
  refine ⟨ordinary,shows,reports,ended,names,?_⟩
  have whole : ∃ web, (renderOn (.of panels (.text "hello") .absent) (wall.map Name.ofText)).outcome =
      .ok [("web",.ok web), ("tv",.error .invalidPlatform), ("desktop",.error (.render .renderFailed))] := ⟨_,rfl⟩
  obtain ⟨web,whole⟩ := whole
  rw [ended] at whole
  cases whole
  exact reported

end Trifold.Fanout
