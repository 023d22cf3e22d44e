import Trifold.Proofs.Ask
import Trifold.Source.Build

namespace Trifold.Entity

variable {collection wanted : String} {host : Host} {plain grouped : List Entity}

-- What an entity is called, however it is spelled.
def GoesBy (wanted : String) (entity : Entity) : Prop := ∃ name, entity.name = some name ∧ camel name = wanted

-- The same children twice, the second time with runs of them put into groups.
inductive Grouped (collection : String) : List Entity → List Entity → Prop
  | none : Grouped collection [] []
  | alone (child : Entity) {plain grouped : List Entity} (rest : Grouped collection plain grouped) :
      Grouped collection (child :: plain) (child :: grouped)
  | group {group : Entity} {run plain grouped : List Entity} (named : group.GoesBy collection)
      (holds : group.inside = .entities run) (rest : Grouped collection plain grouped) :
      Grouped collection (run ++ plain) (group :: grouped)

theorem Grouped.refl (collection : String) (children : List Entity) : Grouped collection children children := by
  induction children with
  | nil => exact .none
  | cons child rest ih => exact .alone child ih

theorem isNamed_text {name other : String} : isNamed name (.text other) = true ↔ name = other := beq_iff_eq

theorem share_child {child : Entity} (apart : collection ≠ wanted) (named : child.GoesBy wanted) :
    share (.text collection) (.text wanted) child host = .ok [child] := by
  obtain ⟨name,called,rfl⟩ := named
  have closed : child.opens (camel name) (.text collection) host = .ok false := by
    rw [opens,if_neg (mt isNamed_text.mp (Ne.symm apart))]
    rfl
  rw [share,called]
  dsimp only
  rw [Ask.bind_ok closed,if_neg Bool.false_ne_true]
  change Except.ok (if isNamed (camel name) (.text (camel name)) then [child] else []) = _
  rw [if_pos (isNamed_text.mpr rfl)]

theorem share_group {group : Entity} {run : List Entity} (apart : collection ≠ wanted) (named : group.GoesBy collection)
    (holds : group.inside = .entities run) : share (.text collection) (.text wanted) group host = .ok run := by
  obtain ⟨name,called,rfl⟩ := named
  have opened : group.opens (camel name) (.text (camel name)) host = .ok (!run.isEmpty) := by
    rw [opens,if_pos (isNamed_text.mpr rfl),isFilled,holds]
    rfl
  rw [share,called]
  dsimp only
  rw [Ask.bind_ok opened]
  cases run with
  | nil =>
    change Except.ok (if isNamed (camel name) (.text wanted) then [group] else []) = _
    rw [if_neg (mt isNamed_text.mp apart)]
  | cons first rest =>
    change group.contents host = _
    rw [contents,holds]
    rfl

theorem nestedFrom_grouped (apart : collection ≠ wanted) (same : Grouped collection plain grouped)
    (children : ∀ child ∈ plain, child.GoesBy wanted) :
    nestedFrom (.text collection) (.text wanted) grouped host = .ok plain := by
  induction same with
  | none => rfl
  | alone child rest ih =>
    obtain ⟨here,later⟩ := List.forall_mem_cons.mp children
    rw [nestedFrom,Ask.bind_ok (share_child apart here),Ask.bind_ok (ih later)]
    rfl
  | group named holds rest ih =>
    have later := ih fun child there => children child (List.mem_append_right _ there)
    rw [nestedFrom,Ask.bind_ok (share_group apart named holds),Ask.bind_ok later]
    rfl

end Trifold.Entity

namespace Trifold.Build
open Entity (GoesBy Grouped)

variable {kind : Kind} {collection wanted : String} {scope : Scope} {entity other : Entity}

theorem collection_apart (known : Build.collection kind = some (collection,wanted)) : collection ≠ wanted := by
  cases kind <;> cases known <;> decide

theorem inner_grouped {plain grouped : List Entity} (known : Build.collection kind = some (collection,wanted))
    (holds : entity.inside = .entities grouped) (same : Grouped collection plain grouped)
    (children : ∀ child ∈ plain, child.GoesBy wanted) (host : Host) : inner entity kind host = .ok plain := by
  have contents : entity.contents host = .ok grouped := by
    rw [Entity.contents,holds]
    rfl
  rw [inner,known]
  dsimp only
  rw [Entity.nested,Ask.bind_ok contents]
  exact Entity.nestedFrom_grouped (collection_apart known) same children

theorem within_inner {inside : List Entity} (found : inner entity kind scope.host = .ok inside) :
    within scope entity kind = elements scope inside := by
  rw [within]
  split
  · rename_i failed
    rw [found] at failed
    cases failed
  · rename_i all there
    rw [found] at there
    cases there
    rfl

theorem element_alike (named : entity.GoesBy kind.name) (name : other.name = entity.name)
    (attributes : other.attributes = entity.attributes) (inside : within scope other kind = within scope entity kind) :
    element scope other = element scope entity := by
  obtain ⟨written,called,spelled⟩ := named
  rw [element.eq_1,element.eq_1 scope entity,name,called,attributes]
  dsimp only
  rw [spelled,Kind.ofName?_name]
  cases kind with
  | column => rfl
  | table =>
    dsimp only
    rw [inside]
  | _ =>
    dsimp only
    rw [inside]
    rfl

-- However the children of a collection are grouped, the same element is built, with the same warnings.
theorem element_grouped {plain grouped : List Entity} (known : Build.collection kind = some (collection,wanted))
    (named : entity.GoesBy kind.name) (name : other.name = entity.name) (attributes : other.attributes = entity.attributes)
    (holds : entity.inside = .entities plain) (holds' : other.inside = .entities grouped)
    (children : ∀ child ∈ plain, child.GoesBy wanted) (same : Grouped collection plain grouped) :
    element scope other = element scope entity := by
  refine element_alike named name attributes ?_
  rw [within_inner (inner_grouped known holds' same children scope.host),
    within_inner (inner_grouped known holds (.refl collection plain) children scope.host)]

-- A menu of three items, the first two in a group, behind it an empty one. What the groups say of themselves is not read.
def command (label : String) : Entity := ⟨some "menu_item",.object [("label",.text label)],.entities [],.absent⟩

def commands (held : List Entity) : Entity := ⟨some "menu_items",.object [("style",.text "unknown")],.entities held,.absent⟩

def menuOf (held : List Entity) : Entity := ⟨some "menu",.object [],.entities held,.absent⟩

theorem element_grouped_menu : (∀ child ∈ [command "Open", command "Save", command "Quit"], child.GoesBy "menuItem") ∧
    Grouped "menuItems" [command "Open", command "Save", command "Quit"]
      [commands [command "Open", command "Save"], commands [], command "Quit"] ∧
    element ⟨[],.silent⟩ (menuOf [commands [command "Open", command "Save"], commands [], command "Quit"]) =
      element ⟨[],.silent⟩ (menuOf [command "Open", command "Save", command "Quit"]) := by
  have called : Entity.camel "menu_item" = "menuItem" := by decide
  have grouping : Entity.camel "menu_items" = "menuItems" := by decide
  have children : ∀ child ∈ [command "Open", command "Save", command "Quit"], child.GoesBy "menuItem" := by
    intro child there
    simp only [List.mem_cons,List.not_mem_nil,or_false] at there
    rcases there with rfl | rfl | rfl <;> exact ⟨_,rfl,called⟩
  have same : Grouped "menuItems" [command "Open", command "Save", command "Quit"]
      [commands [command "Open", command "Save"], commands [], command "Quit"] := by
    have last : Grouped "menuItems" ([] ++ [command "Quit"]) [commands [], command "Quit"] :=
      .group ⟨_,rfl,grouping⟩ rfl (.alone _ .none)
    exact @Grouped.group _ _ [command "Open", command "Save"] _ _ ⟨_,rfl,grouping⟩ rfl last
  have named : (menuOf [command "Open", command "Save", command "Quit"]).GoesBy Kind.menu.name := ⟨_,rfl,by decide⟩
  exact ⟨children,same,element_grouped rfl named rfl rfl rfl rfl children same⟩

end Trifold.Build
