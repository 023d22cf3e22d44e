import Trifold.Proofs.Element.Drawn
import Trifold.Proofs.Element.Slot

namespace Trifold.Element
open Value
open List (Forall₂)

variable {value a b : Value} {element element' : Element} {key : String} {xs ys : List Value}

def Tabbed (element : Element) : Prop :=
  ∀ it, element.body = .tabs it → ∀ tab ∈ it.tabs, ∀ inner, ofValue? tab = some inner → inner.kind = .tab

inductive Patched : Value → Prop
  | foreign {value : Value} (unread : ofValue? value = none) (json : Json value) : Patched value
  | element {value : Value} {element : Element} (sound : ofValue? value = some element) (fit : element.Fit)
      (tabs : element.Tabbed) (inside : ∀ held ∈ element.contents, Patched held) : Patched value

theorem Patched.parts (patched : Patched value) (sound : ofValue? value = some element) :
    element.Fit ∧ element.Tabbed ∧ ∀ held ∈ element.contents, Patched held := by
  cases patched with
  | foreign unread =>
    rw [sound] at unread
    cases unread
  | element found fit tabs inside =>
    rw [sound] at found
    cases found
    exact ⟨fit,tabs,inside⟩

-- Two trees that differ in what is nested in them only: where the second holds no element it holds a JSON value, whatever
-- the first holds there.
inductive Spoiled : Value → Value → Prop
  | kept (value : Value) : Spoiled value value
  | inside {key : String} {xs ys : List Value} {a b : Value} {element element' : Element}
      (pair : Exchange key xs ys a b element element') (counted : xs.length = ys.length)
      (foreign : ∀ y ∈ ys, ofValue? y = none → Json y)
      (nested : ∀ both ∈ xs.zip ys, (ofValue? both.2).isSome → Spoiled both.1 both.2) : Spoiled a b

theorem Spoiled.kind (spoiled : Spoiled a b) (sound : ofValue? b = some element') :
    ∃ element, ofValue? a = some element ∧ element'.kind = element.kind := by
  cases spoiled with
  | kept => exact ⟨element',sound,rfl⟩
  | inside pair =>
    cases pair.sound'.symm.trans sound
    exact ⟨_,pair.sound,pair.same.2.2.2⟩

theorem Exchange.measured (pair : Exchange key xs ys a b element element') : element'.body.Measured := by
  have bodies := pair.body
  generalize element.body = body at bodies
  generalize element'.body = body' at bodies ⊢
  cases bodies <;> trivial

theorem Spoiled.patched (spoiled : Spoiled a b) (patched : Patched a) : Patched b := by
  induction spoiled with
  | kept => exact patched
  | @inside key xs ys a b element element' pair counted foreign nested ih =>
    obtain ⟨fit,tabs,inside⟩ := patched.parts pair.sound
    rw [pair.held] at inside
    -- What an entry of the second list stands in the place of.
    have before : ∀ y ∈ ys, ∃ x ∈ xs, (x,y) ∈ xs.zip ys := by
      have placed : Forall₂ (fun y x => (x,y) ∈ xs.zip ys) ys xs :=
        (List.forall₂_iff_zip.mpr ⟨counted,fun there => there⟩ : Forall₂ (fun x y => (x,y) ∈ xs.zip ys) xs ys).flip
      exact Agree.partner placed
    refine .element pair.sound' ⟨pair.measured,?_⟩ ?_ ?_
    · rw [pair.same.2.1]
      exact fit.styled
    · intro it body tab there inner sound
      have listed : tab ∈ ys := by
        rw [← pair.held',contents,body]
        exact there
      obtain ⟨x,held,both⟩ := before tab listed
      obtain ⟨outer,found,same⟩ := (nested _ both (by simp [sound])).kind sound
      have bodies := pair.body
      rw [body] at bodies
      generalize bodyOf : element.body = bar at bodies
      cases bodies with
      | tabs active position change => exact same.trans (tabs _ bodyOf x held outer found)
    · intro held listed
      rw [pair.held'] at listed
      cases read : ofValue? held with
      | none => exact .foreign read (foreign held listed read)
      | some inner =>
        obtain ⟨x,there,both⟩ := before held listed
        exact ih _ both (by simp [read]) (inside x there)

end Trifold.Element
