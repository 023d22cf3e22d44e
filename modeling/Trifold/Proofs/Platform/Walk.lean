import Trifold.Platform.Walk

namespace Trifold.Backend

variable {ρ : Type} {backend : Backend ρ} {host : Host}

theorem convert_foreign {value : Value} (foreign : Element.ofValue? value = none) :
    backend.convert host value = backend.unknown host value := by
  rw [convert.eq_1]
  split
  · rfl
  · rename_i element sound
    rw [foreign] at sound
    cases sound

theorem convert_hidden {value : Value} {element : Element} (sound : Element.ofValue? value = some element)
    (hidden : element.visible = false) : backend.convert host value = pure none := by
  rw [convert.eq_1]
  split
  · rename_i foreign
    rw [sound] at foreign
    cases foreign
  · rename_i found same
    rw [sound] at same
    cases same
    rw [hidden]
    rfl

-- Contents come before the open panel, and both before the element itself is assembled.
theorem convert_shown {value : Value} {element : Element} (sound : Element.ofValue? value = some element)
    (visible : element.visible = true) :
    backend.convert host value = do
      Run.ask host (backend.ready value)
      let inside ← backend.convertAll host element.shown
      let held ← Run.ofMisuse element.panel
      let panel ← backend.convertAll host held
      return some (← Run.ask host (backend.assemble value element inside panel)) := by
  rw [convert.eq_1]
  split
  · rename_i foreign
    rw [sound] at foreign
    cases foreign
  · rename_i found same
    rw [sound] at same
    cases same
    simp only [visible,Bool.not_true,Bool.false_eq_true,if_false]
    congr 1
    funext _
    congr 1
    funext inside
    split
    · rename_i cause stopped
      rw [stopped]
      rfl
    · rename_i held open_
      rw [open_]
      symm
      exact Run.pure_bind held _

theorem convertAll_cons (value : Value) (rest : List Value) :
    backend.convertAll host (value :: rest) = do
      let here ← backend.convert host value
      return here.toList ++ (← backend.convertAll host rest) := by
  rw [convertAll.eq_def]

theorem shown_ok {value : Value} {element : Element} {made : Option ρ}
    (sound : Element.ofValue? value = some element) (visible : element.visible = true)
    (ended : (backend.convert host value).outcome = .ok made) :
    ∃ inside held panel shown, element.panel = .ok held ∧
      (backend.convertAll host element.shown).outcome = .ok inside ∧
      (backend.convertAll host held).outcome = .ok panel ∧
      backend.assemble value element inside panel host = .ok shown ∧ made = some shown := by
  rw [convert_shown sound visible] at ended
  obtain ⟨_,_,ended⟩ := Run.ok_of_bind ended
  obtain ⟨inside,first,ended⟩ := Run.ok_of_bind ended
  obtain ⟨held,open_,ended⟩ := Run.ok_of_bind ended
  obtain ⟨panel,second,ended⟩ := Run.ok_of_bind ended
  obtain ⟨shown,built,ended⟩ := Run.ok_of_bind ended
  refine ⟨inside,held,panel,shown,?_,first,second,built,(Except.ok.inj ended).symm⟩
  cases told : element.panel with
  | error cause =>
    rw [told] at open_
    cases open_
  | ok found =>
    rw [told] at open_
    exact congrArg Except.ok (Except.ok.inj open_)

-- The induction over a whole tree, once: a property of the blank that assembling keeps is a property of the result.
theorem convert_keeps {P : ρ → Prop} (blank : P backend.blank)
    (assembled : ∀ {value element inside panel shown}, (∀ made ∈ inside, P made) → (∀ made ∈ panel, P made) →
      backend.assemble value element inside panel host = .ok shown → P shown) (value : Value) :
    ∀ made, (backend.convert host value).outcome = .ok (some made) → P made := by
  refine (convert.mutual_induct
    (fun value => ∀ made, (backend.convert host value).outcome = .ok (some made) → P made)
    (fun values => ∀ all, (backend.convertAll host values).outcome = .ok all → ∀ made ∈ all, P made)
    ?foreign ?hidden ?shown ?none ?more).1 value
  case foreign =>
    intro value foreign made ended
    rw [convert_foreign foreign] at ended
    obtain ⟨kind,_,ended⟩ := Run.ok_of_bind ended
    obtain ⟨_,_,ended⟩ := Run.ok_of_bind ended
    cases ended
    exact blank
  case hidden =>
    intro value element sound hidden made ended
    rw [convert_hidden sound (by simpa using hidden)] at ended
    cases ended
  case shown =>
    intro value element sound visible inner outer made ended
    obtain ⟨inside,held,panel,shown,open_,first,second,built,same⟩ :=
      shown_ok sound (by simpa using visible) ended
    cases same
    exact assembled (inner inside first) (outer held open_ panel second) built
  case none =>
    intro all ended made there
    rw [convertAll.eq_1] at ended
    cases ended
    cases there
  case more =>
    intro value rest here after all ended made there
    rw [convertAll_cons] at ended
    obtain ⟨first,begun,ended⟩ := Run.ok_of_bind ended
    obtain ⟨others,gone,ended⟩ := Run.ok_of_bind ended
    cases ended
    rcases List.mem_append.mp there with inFirst | inOthers
    · exact here made (by rw [begun,Option.mem_toList.mp inFirst])
    · exact after others gone made inOthers

end Trifold.Backend
