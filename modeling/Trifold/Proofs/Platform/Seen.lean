import Mathlib.Data.List.Forall2
import Trifold.Proofs.Platform.Walk

namespace Trifold.Element

-- The elements a walk comes to and finds visible, each before what is inside it.
mutual
def seen (value : Value) : List Element :=
  match _ : ofValue? value with
  | none => []
  | some element =>
      if !element.visible then []
      else element :: (seenAll element.shown ++
        match _ : element.panel with
        | .error _ => []
        | .ok held => seenAll held)
termination_by sizeOf value
decreasing_by
  · exact shown_lt (by assumption)
  · exact panel_lt (by assumption) (by assumption)
def seenAll (values : List Value) : List Element :=
  match values with
  | [] => []
  | value :: rest => seen value ++ seenAll rest
termination_by sizeOf values
end

variable {value : Value} {element : Element} {held : List Value}

theorem seen_foreign (foreign : ofValue? value = none) : seen value = [] := by
  rw [seen]
  split
  · rfl
  · rename_i sound
    rw [foreign] at sound
    cases sound

theorem seen_hidden (sound : ofValue? value = some element) (hidden : element.visible = false) : seen value = [] := by
  rw [seen]
  split
  · rfl
  · rename_i found same
    rw [sound] at same
    cases same
    rw [hidden]
    rfl

theorem seen_shown (sound : ofValue? value = some element) (visible : element.visible = true)
    (opened : element.panel = .ok held) : seen value = element :: (seenAll element.shown ++ seenAll held) := by
  rw [seen]
  split
  · rename_i foreign
    rw [sound] at foreign
    cases foreign
  · rename_i found same
    rw [sound] at same
    cases same
    rw [visible]
    simp only [Bool.not_true,Bool.false_eq_true,if_false]
    congr 2
    split
    · rename_i stopped
      rw [opened] at stopped
      cases stopped
    · rename_i found
      rw [opened] at found
      cases found
      rfl

theorem seen_shut {cause : Misuse} (sound : ofValue? value = some element) (visible : element.visible = true)
    (stopped : element.panel = .error cause) : seen value = element :: seenAll element.shown := by
  rw [seen]
  split
  · rename_i foreign
    rw [sound] at foreign
    cases foreign
  · rename_i found same
    rw [sound] at same
    cases same
    rw [visible]
    simp only [Bool.not_true,Bool.false_eq_true,if_false]
    congr 1
    split
    · exact List.append_nil _
    · rename_i opened
      rw [stopped] at opened
      cases opened

theorem mem_seenAll {values : List Value} : element ∈ seenAll values ↔ ∃ value ∈ values, element ∈ seen value := by
  induction values with
  | nil => simp [seenAll]
  | cons value rest ih => simp [seenAll,ih]

end Trifold.Element

namespace Trifold.Backend
open Element
open List (Forall₂)

variable {ρ α : Type} {backend : Backend ρ} {host : Host}

theorem nothing_inside {all : List ρ} (ended : (backend.convertAll host []).outcome = .ok all) : all = [] := by
  rw [convertAll.eq_1] at ended
  cases ended
  rfl

-- The induction over what is seen, once. `Stands` says which elements a result stands for, in the order of the walk; where
-- assembling puts an element in front of what its contents stand for, a whole result stands for what was seen.
theorem convert_stands {Stands : ρ → List Element → Prop} (blank : Stands backend.blank [])
    (assembled : ∀ {value element held inside panel made told told'}, ofValue? value = some element →
      element.panel = .ok held → (backend.convertAll host element.shown).outcome = .ok inside →
      (backend.convertAll host held).outcome = .ok panel → Forall₂ Stands inside told → Forall₂ Stands panel told' →
      backend.assemble value element inside panel host = .ok made →
      Stands made (element :: (told.flatten ++ told'.flatten))) (value : Value) :
    ∀ made, (backend.convert host value).outcome = .ok made →
      ∃ told, Forall₂ Stands made.toList told ∧ told.flatten = seen value := by
  refine (convert.mutual_induct
    (fun value => ∀ made, (backend.convert host value).outcome = .ok made →
      ∃ told, Forall₂ Stands made.toList told ∧ told.flatten = seen value)
    (fun values => ∀ all, (backend.convertAll host values).outcome = .ok all →
      ∃ told, Forall₂ Stands all told ∧ told.flatten = seenAll values)
    ?foreign ?hidden ?shown ?none ?more).1 value
  case foreign =>
    intro value foreign made ended
    rw [convert_foreign foreign] at ended
    obtain ⟨kind,_,ended⟩ := Run.ok_of_bind ended
    obtain ⟨_,_,ended⟩ := Run.ok_of_bind ended
    cases ended
    exact ⟨[[]],.cons blank .nil,(seen_foreign foreign).symm⟩
  case hidden =>
    intro value element sound hidden made ended
    rw [convert_hidden sound (by simpa using hidden)] at ended
    cases ended
    exact ⟨[],.nil,(seen_hidden sound (by simpa using hidden)).symm⟩
  case shown =>
    intro value element sound visible inner outer made ended
    obtain ⟨inside,held,panel,shown,opened,first,second,built,same⟩ :=
      shown_ok sound (by simpa using visible) ended
    cases same
    obtain ⟨told,stands,within⟩ := inner inside first
    obtain ⟨told',stands',beyond⟩ := outer held opened panel second
    refine ⟨[_],.cons (assembled sound opened first second stands stands' built) .nil,?_⟩
    rw [seen_shown sound (by simpa using visible) opened,within,beyond]
    simp
  case none =>
    intro all ended
    rw [nothing_inside ended,seenAll]
    exact ⟨[],.nil,rfl⟩
  case more =>
    intro value rest here after all ended
    rw [convertAll_cons] at ended
    obtain ⟨first,begun,ended⟩ := Run.ok_of_bind ended
    obtain ⟨others,gone,ended⟩ := Run.ok_of_bind ended
    cases ended
    obtain ⟨told,stands,within⟩ := here first begun
    obtain ⟨told',stands',beyond⟩ := after others gone
    refine ⟨told ++ told',List.rel_append stands stands',?_⟩
    rw [seenAll,List.flatten_append,within,beyond]

-- The same for a result that is there. What holds nothing has nothing inside.
theorem convert_stands_some {Stands : ρ → List Element → Prop} (blank : Stands backend.blank [])
    (assembled : ∀ {value element inside panel made told told'}, ofValue? value = some element →
      (element.shown = [] → inside = []) → (element.panel = .ok [] → panel = []) → Forall₂ Stands inside told →
      Forall₂ Stands panel told' → backend.assemble value element inside panel host = .ok made →
      Stands made (element :: (told.flatten ++ told'.flatten))) {value : Value} {made : ρ}
    (converted : (backend.convert host value).outcome = .ok (some made)) : Stands made (seen value) := by
  obtain ⟨told,stands,same⟩ := @convert_stands _ backend host Stands blank
    (fun sound opened first second insides panels built => by
      refine assembled sound ?_ ?_ insides panels built
      · intro bare
        exact nothing_inside (bare ▸ first)
      · intro closed
        cases closed.symm.trans opened
        exact nothing_inside second) value _ converted
  cases stands with
  | cons here rest =>
    cases rest
    rw [← same,List.flatten_singleton]
    exact here

theorem convert_gathers {told : ρ → List α} {own : Element → List α} (blank : told backend.blank = [])
    (assembled : ∀ {value element held inside panel made}, ofValue? value = some element → element.panel = .ok held →
      (backend.convertAll host element.shown).outcome = .ok inside →
      (backend.convertAll host held).outcome = .ok panel →
      backend.assemble value element inside panel host = .ok made →
      told made = own element ++ (inside.flatMap told ++ panel.flatMap told)) (value : Value) :
    ∀ made, (backend.convert host value).outcome = .ok made → made.toList.flatMap told = (seen value).flatMap own := by
  have flattened {all : List ρ} {stood : List (List Element)}
      (stands : Forall₂ (fun made elements => told made = elements.flatMap own) all stood) :
      all.flatMap told = stood.flatten.flatMap own := by
    induction stands with
    | nil => rfl
    | cons here rest ih => rw [List.flatMap_cons,List.flatten_cons,List.flatMap_append,here,ih]
  intro made ended
  obtain ⟨stood,stands,same⟩ := @convert_stands _ backend host (fun made elements => told made = elements.flatMap own) blank
    (fun sound opened first second stands stands' built => by
      rw [assembled sound opened first second built,flattened stands,flattened stands',List.flatMap_cons,
        List.flatMap_append]) value made ended
  rw [flattened stands,same]

end Trifold.Backend
