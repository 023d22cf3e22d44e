import Mathlib.Data.List.ReduceOption
import Trifold.Platform.Builtin
import Trifold.Proofs.Desktop.Captions
import Trifold.Proofs.Element.Patched
import Trifold.Proofs.Platform.Seen
import Trifold.Proofs.Terminal.Captions
import Trifold.Proofs.Web.Drawn

namespace Trifold
open Value
open Ask (Answers Ends)
open List (Forall₂)

namespace Element

-- What a walk finds in the open panel. Where the panel cannot be opened it finds nothing.
def opened (element : Element) : List Value :=
  match element.panel with
  | .error _ => []
  | .ok held => held

variable {value : Value} {element : Element} {held : List Value}

theorem opened_ok (open_ : element.panel = .ok held) : element.opened = held := by rw [opened,open_]

theorem opened_lt (sound : ofValue? value = some element) : sizeOf element.opened < sizeOf value := by
  unfold opened
  split
  · have inside := shown_lt sound
    have some := Value.sizeOf_list_pos element.shown
    rw [List.nil.sizeOf_spec]
    omega
  · exact panel_lt sound (by assumption)

theorem seen_visible (sound : ofValue? value = some element) (visible : element.visible = true) :
    seen value = element :: (seenAll element.shown ++ seenAll element.opened) := by
  cases open_ : element.panel with
  | ok held => rw [seen_shown sound visible open_,opened_ok open_]
  | error cause =>
    rw [seen_shut sound visible open_,opened,open_,seenAll,List.append_nil]

-- The foreign values a walk comes to.
mutual
def strangers (value : Value) : List Value :=
  match _ : ofValue? value with
  | none => [value]
  | some element => if !element.visible then [] else strangersAll element.shown ++ strangersAll element.opened
termination_by sizeOf value
decreasing_by
  · exact shown_lt (by assumption)
  · exact opened_lt (by assumption)
def strangersAll (values : List Value) : List Value :=
  match values with
  | [] => []
  | value :: rest => strangers value ++ strangersAll rest
termination_by sizeOf values
end

theorem strangers_foreign (foreign : ofValue? value = none) : strangers value = [value] := by
  rw [strangers]
  split
  · rfl
  · rename_i sound
    rw [foreign] at sound
    cases sound

theorem strangers_sound (sound : ofValue? value = some element) : strangers value =
    if !element.visible then [] else strangersAll element.shown ++ strangersAll element.opened := by
  rw [strangers]
  split
  · rename_i foreign
    rw [sound] at foreign
    cases foreign
  · rename_i found same
    rw [sound] at same
    cases same
    rfl

theorem mem_strangersAll {values : List Value} {stranger : Value} :
    stranger ∈ strangersAll values ↔ ∃ value ∈ values, stranger ∈ strangers value := by
  induction values with
  | nil => simp [strangersAll]
  | cons value rest ih => simp [strangersAll,ih]

theorem walk_keeps {Q : Value → Prop} (onward : ∀ {value element held}, Q value → ofValue? value = some element →
    held ∈ element.shown ∨ held ∈ element.opened → Q held) (value : Value) (holds : Q value) :
    (∀ element ∈ seen value, ∃ met, Q met ∧ ofValue? met = some element) ∧
      ∀ stranger ∈ strangers value, Q stranger ∧ ofValue? stranger = none := by
  cases read : ofValue? value with
  | none =>
    rw [seen_foreign read,strangers_foreign read]
    exact ⟨List.forall_mem_nil _,List.forall_mem_singleton.mpr ⟨holds,read⟩⟩
  | some element =>
    have later (held : Value) (reached : held ∈ element.shown ∨ held ∈ element.opened) :=
      have smaller : sizeOf held < sizeOf value := by
        rcases reached with inside | beyond
        · exact (List.sizeOf_lt_of_mem inside).trans (shown_lt read)
        · exact (List.sizeOf_lt_of_mem beyond).trans (opened_lt read)
      walk_keeps onward held (onward holds read reached)
    rw [strangers_sound read]
    cases visible : element.visible with
    | false =>
      rw [seen_hidden read visible]
      exact ⟨List.forall_mem_nil _,List.forall_mem_nil _⟩
    | true =>
      rw [seen_visible read visible]
      refine ⟨List.forall_mem_cons.mpr ⟨⟨value,holds,read⟩,fun other there => ?_⟩,fun stranger there => ?_⟩
      · simp only [List.mem_append,mem_seenAll] at there
        rcases there with ⟨held,listed,there⟩ | ⟨held,listed,there⟩
        · exact (later held (.inl listed)).1 other there
        · exact (later held (.inr listed)).1 other there
      · simp only [Bool.not_true,Bool.false_eq_true,if_false,List.mem_append,mem_strangersAll] at there
        rcases there with ⟨held,listed,there⟩ | ⟨held,listed,there⟩
        · exact (later held (.inl listed)).2 stranger there
        · exact (later held (.inr listed)).2 stranger there
termination_by sizeOf value

-- A tree of which a walk sees elements that fit, and foreign values whose kind has a name.
inductive Mixed (host : Host) (fits : Element → Prop) : Value → Prop
  | foreign {value : Value} (unread : ofValue? value = none) (named : Ends host (describeKind value)) :
      Mixed host fits value
  | hidden {value : Value} {element : Element} (sound : ofValue? value = some element) (hidden : element.visible = false) :
      Mixed host fits value
  | shown {value : Value} {element : Element} {held : List Value} (sound : ofValue? value = some element)
      (visible : element.visible = true) (fit : fits element) (open_ : element.panel = .ok held)
      (within : ∀ inner ∈ element.shown, Mixed host fits inner) (beyond : ∀ inner ∈ held, Mixed host fits inner) :
      Mixed host fits value

end Element

namespace Backend
open Element

variable {ρ : Type}

def warning (backend : Backend ρ) (kind : String) : String :=
  warningArea backend.platform.name ++ s!" unknown node kind \"{kind}\" rendered {backend.blankName}"

def Warns (backend : Backend ρ) (host : Host) (value : Value) (said : String) : Prop :=
  ∃ kind, describeKind value host = .ok kind ∧ said = backend.warning kind

-- What a tree becomes: the blank in the place of every foreign value, nothing in the place of what is hidden, and every
-- other element as the platform assembles it.
inductive Drawn (backend : Backend ρ) (host : Host) : Value → Option ρ → Prop
  | foreign {value : Value} (unread : ofValue? value = none) : Drawn backend host value (some backend.blank)
  | hidden {value : Value} {element : Element} (sound : ofValue? value = some element) (hidden : element.visible = false) :
      Drawn backend host value none
  | shown {value : Value} {element : Element} {held : List Value} {inside panel : List (Option ρ)} {made : ρ}
      (sound : ofValue? value = some element) (visible : element.visible = true) (opened : element.panel = .ok held)
      (within : Forall₂ (Drawn backend host) element.shown inside) (beyond : Forall₂ (Drawn backend host) held panel)
      (assembled : backend.assemble value element inside.reduceOption panel.reduceOption host = .ok made) :
      Drawn backend host value (some made)

-- A platform that draws every element that fits. `P` is what it needs of the contents, and what it gives.
structure Draws (backend : Backend ρ) (host : Host) (fits : Element → Prop) (P : ρ → Prop) : Prop where
  blank : P backend.blank
  ready : ∀ {value element}, ofValue? value = some element → fits element → Ends host (backend.ready value)
  assembled : ∀ {value element inside panel}, ofValue? value = some element → fits element →
    (∀ made ∈ inside, P made) → (∀ made ∈ panel, P made) → Answers host P (backend.assemble value element inside panel)

variable {backend : Backend ρ} {host : Host} {fits : Element → Prop} {P : ρ → Prop}

def Converts (backend : Backend ρ) (host : Host) (P : ρ → Prop) (value : Value) : Prop :=
  ∃ warnings made, backend.convert host value = ⟨warnings,.ok made⟩ ∧
    Forall₂ (backend.Warns host) (strangers value) warnings ∧ backend.Drawn host value made ∧ ∀ shown ∈ made, P shown

theorem convertAll_converts {values : List Value} (each : ∀ value ∈ values, backend.Converts host P value) :
    ∃ warnings all, backend.convertAll host values = ⟨warnings,.ok all.reduceOption⟩ ∧
      Forall₂ (backend.Warns host) (strangersAll values) warnings ∧ Forall₂ (backend.Drawn host) values all ∧
      ∀ shown ∈ all.reduceOption, P shown := by
  induction values with
  | nil =>
    rw [convertAll.eq_1,strangersAll]
    exact ⟨[],[],rfl,.nil,.nil,List.forall_mem_nil _⟩
  | cons value rest ih =>
    obtain ⟨here,later⟩ := List.forall_mem_cons.mp each
    obtain ⟨warnings,made,ended,warned,drawn,kept⟩ := here
    obtain ⟨warnings',all,ended',warned',drawn',kept'⟩ := ih later
    rw [convertAll_cons,ended,ended',strangersAll]
    refine ⟨warnings ++ warnings',made :: all,?_,List.rel_append warned warned',.cons drawn drawn',?_⟩
    · change (⟨warnings ++ (warnings' ++ []),.ok (made.toList ++ all.reduceOption)⟩ : Run (List ρ)) = _
      cases made <;> simp
    · intro shown there
      cases made with
      | none => exact kept' shown (by simpa using there)
      | some made =>
        rw [List.reduceOption_cons_of_some,List.mem_cons] at there
        rcases there with rfl | there
        · exact kept _ rfl
        · exact kept' shown there

theorem convert_mixed (draws : backend.Draws host fits P) {value : Value} (mixed : Mixed host fits value) :
    backend.Converts host P value := by
  induction mixed with
  | @foreign value unread named =>
    obtain ⟨kind,told,_⟩ := named
    refine ⟨[backend.warning kind],some backend.blank,?_,?_,.foreign unread,?_⟩
    · rw [convert_foreign unread,unknown,Run.ask_ok told]
      rfl
    · rw [strangers_foreign unread]
      exact .cons ⟨kind,told,rfl⟩ .nil
    · rintro _ ⟨⟩
      exact draws.blank
  | @hidden value element sound hidden =>
    refine ⟨[],none,?_,?_,.hidden sound hidden,nofun⟩
    · rw [convert_hidden sound hidden]
      rfl
    · rw [strangers_sound sound,hidden]
      exact .nil
  | @shown value element held sound visible fit open_ within beyond ihWithin ihBeyond =>
    obtain ⟨warnings,inside,ended,warned,drawn,kept⟩ := convertAll_converts ihWithin
    obtain ⟨warnings',panel,ended',warned',drawn',kept'⟩ := convertAll_converts ihBeyond
    obtain ⟨_,prepared,_⟩ := draws.ready sound fit
    obtain ⟨made,assembled,given⟩ := draws.assembled sound fit kept kept'
    refine ⟨warnings ++ warnings',some made,?_,?_,.shown sound visible open_ drawn drawn' assembled,?_⟩
    · rw [convert_shown sound visible,Run.ask_ok prepared,Run.pure_bind,ended,Run.ended_bind,open_,Run.ofMisuse_ok,
        Run.pure_bind,ended',Run.ended_bind,Run.ask_ok assembled]
      change (⟨warnings ++ (warnings' ++ []),.ok (some made)⟩ : Run (Option ρ)) = _
      rw [List.append_nil]
    · rw [strangers_sound sound,visible,opened_ok open_]
      exact List.rel_append warned warned'
    · rintro _ ⟨⟩
      exact given

end Backend

open Element

theorem Backend.Beside.draws {ρ : Type} {backend : Backend ρ} {host : Host} {R : ρ → List Caption → Prop}
    (beside : Beside backend Caption.backend host R) (blank : ∃ captions, R backend.blank captions) :
    backend.Draws host (Captioned host) fun made => ∃ captions, R made captions := by
  have all {inside : List ρ} (each : ∀ made ∈ inside, ∃ captions, R made captions) : ∃ told, Forall₂ R inside told := by
    induction inside with
    | nil => exact ⟨[],.nil⟩
    | cons made rest ih =>
      obtain ⟨⟨captions,here⟩,later⟩ := List.forall_mem_cons.mp each
      obtain ⟨told,others⟩ := ih later
      exact ⟨captions :: told,.cons here others⟩
  refine ⟨blank,?_,?_⟩
  · intro value element sound fit
    obtain ⟨_,prepared,_⟩ := (beside.ready sound).ok_of_right (b := ()) rfl
    exact ⟨_,prepared,trivial⟩
  · intro value element inside panel sound fit insides panels
    obtain ⟨told,insides⟩ := all insides
    obtain ⟨told',panels⟩ := all panels
    obtain ⟨captions,given,_⟩ := Caption.assemble_ends sound fit.measured fit.broad fit.short told told'
    obtain ⟨made,assembled,here⟩ := (beside.assembled sound insides panels).ok_of_right given
    exact ⟨made,assembled,captions,here⟩

theorem Terminal.backend_draws (host : Host) :
    Terminal.backend.Draws host (Captioned host) fun node => ∃ captions, Terminal.Shows host node captions := by
  refine (Terminal.backend_beside host).draws ⟨[],[],rfl,?_⟩
  rw [Terminal.Node.Texts,Terminal.Node.texts]
  rfl

theorem Desktop.backend_draws (host : Host) :
    Desktop.backend.Draws host (Captioned host) fun widget => ∃ captions, Desktop.Shows host widget captions := by
  refine (Desktop.backend_beside host).draws ⟨[⟨⟨none,none,true,.text none⟩,""⟩],?_⟩
  exact Desktop.shows_leaf ⟨⟨_,rfl⟩,rfl,rfl⟩ _

theorem Web.backend_draws (host : Host) : Web.backend.Draws host Fit fun _ => True := by
  refine ⟨trivial,?_,fun sound fit _ _ => Web.assemble_ends sound fit.measured fit.styled _ _⟩
  intro value element sound fit
  have style : value.get "style" = ofOption element.style := Element.get_of_sound sound rfl
  change Ends host (Web.css (value.get "style") >>= fun _ => pure ())
  rw [style]
  exact (Web.css_ends fit.styled).bind fun _ => Ends.pure _

-- What a walk over a tree of elements comes to. A tab bar is walked through where its open tab is found and is an element,
-- and then everything the walk comes to is in the tree.
namespace Element

variable {host : Host} {value : Value} {element : Element} {fits : Element → Prop}

-- The open tab of a bar is looked for among values that are there, and what is found is an element.
def Opens (element : Element) : Prop :=
  match element.body with
  | .tabs it => ∀ active ∈ it.activeTab, ∃ hit, Label.findNamed (text active) it.tabs = .ok hit ∧
      ∀ tab ∈ hit, ∃ inner, ofValue? tab = some inner
  | _ => True

theorem findNamed_elements {id : Value} {values : List Value} (each : ∀ value ∈ values, ∃ element, ofValue? value = some element) :
    ∃ hit, Label.findNamed id values = .ok hit := by
  fun_induction Label.findNamed id values with
  | case1 => exact ⟨none,rfl⟩
  | case2 | case3 =>
    obtain ⟨_,sound⟩ := each _ List.mem_cons_self
    cases sound
  | case4 value rest => exact ⟨some value,rfl⟩
  | case5 value rest _ _ other ih => exact ih (List.forall_mem_cons.mp each).2

theorem opens_of_arranged (arranged : element.Arranged) : element.Opens := by
  obtain ⟨id,style,visible,body⟩ := element
  cases body with
  | tabs it =>
    intro active _
    have each : ∀ tab ∈ it.tabs, ∃ inner, ofValue? tab = some inner := fun tab there => (arranged tab there).imp fun _ => And.left
    obtain ⟨hit,found⟩ := @findNamed_elements (text active) _ each
    refine ⟨hit,found,?_⟩
    rintro tab rfl
    exact each tab (Label.mem_of_findNamed found)
  | _ => trivial

theorem panel_of_opens (tabs : element.Tabbed) (opens : element.Opens) : ∃ held, element.panel = .ok held ∧
    ∀ value ∈ held, ∃ tab ∈ element.contents, ∃ inner, ofValue? tab = some inner ∧ value ∈ inner.contents := by
  obtain ⟨id,style,visible,body⟩ := element
  cases body with
  | tabs it =>
    cases active : it.activeTab with
    | none =>
      refine ⟨[],?_,List.forall_mem_nil _⟩
      change Label.activeContent it.tabs (ofText? it.activeTab) = _
      rw [active]
      rfl
    | some name =>
      obtain ⟨hit,found,inside⟩ := opens name active
      refine ⟨(hit.map Label.contentOf).getD [],?_,?_⟩
      · change Label.activeContent it.tabs (ofText? it.activeTab) = _
        rw [active]
        change (Label.findNamed (text name) it.tabs >>= fun hit => pure ((hit.map Label.contentOf).getD [])) = _
        rw [found]
        rfl
      · intro value there
        cases hit with
        | none => cases there
        | some tab =>
          obtain ⟨inner,sound⟩ := inside tab rfl
          have listed := Label.mem_of_findNamed found
          refine ⟨tab,listed,inner,sound,?_⟩
          rw [← contentOf_tab ⟨inner,sound,tabs it rfl tab listed inner sound⟩ sound]
          exact there
  | _ => exact ⟨[],rfl,List.forall_mem_nil _⟩

theorem describe_json (json : Json value) : Json (describe value) := by
  cases json with
  | @record fields each =>
    rw [describe,Value.isObject,Bool.true_and]
    split
    · rename_i typed
      rcases @Json.field _ (.record each) rfl "type" rfl with none | own
      · change ((Fields.get? "type" fields).isSome || _) = true at typed
        change (Fields.get? "type" fields).getD absent = absent at none
        cases found : Fields.get? "type" fields with
        | none =>
          rw [found] at typed
          cases typed
        | some held =>
          have json := each ("type",held) (Fields.mem_of_get? found)
          rw [found] at none
          cases none
          cases json
      · exact own
    · exact .text _
  | _ => exact .text _

theorem Patched.mixed (value : Value) (patched : Patched value) (each : ∀ element ∈ seen value, element.Opens ∧ (element.Fit → fits element))
    (sayable : ∀ stranger ∈ strangers value, (describe stranger).isSayable = true) : Mixed host fits value := by
  cases read : ofValue? value with
  | none =>
    cases patched with
    | element sound =>
      rw [read] at sound
      cases sound
    | foreign unread json =>
      rw [strangers_foreign unread] at sayable
      exact .foreign unread ((describe_json json).toText (sayable value (List.mem_singleton_self _)))
  | some element =>
    obtain ⟨fit,tabs,inside⟩ := patched.parts read
    cases visible : element.visible with
    | false => exact .hidden read visible
    | true =>
      rw [seen_visible read visible] at each
      rw [strangers_sound read,visible] at sayable
      simp only [List.forall_mem_cons,List.forall_mem_append,mem_seenAll] at each
      simp only [Bool.not_true,Bool.false_eq_true,if_false,List.forall_mem_append,mem_strangersAll] at sayable
      obtain ⟨⟨opens,here⟩,within,beyond⟩ := each
      obtain ⟨held,open_,from_⟩ := panel_of_opens tabs opens
      rw [opened_ok open_] at beyond sayable
      refine .shown read visible (here fit) open_ (fun inner listed => ?_) (fun inner listed => ?_)
      · have smaller : sizeOf inner < sizeOf value := (List.sizeOf_lt_of_mem listed).trans (shown_lt read)
        exact Patched.mixed inner (inside inner (contents_of_shown listed)) (fun element there => within element ⟨inner,listed,there⟩)
          fun stranger there => sayable.1 stranger ⟨inner,listed,there⟩
      · obtain ⟨tab,there,outer,sound,held⟩ := from_ inner listed
        have smaller : sizeOf inner < sizeOf value := (List.sizeOf_lt_of_mem listed).trans (panel_lt read open_)
        exact Patched.mixed inner (((inside tab there).parts sound).2.2 inner held) (fun element there => beyond element ⟨inner,listed,there⟩)
          fun stranger there => sayable.2 stranger ⟨inner,listed,there⟩
termination_by sizeOf value

theorem walk_whole (whole : Whole value) (patched : Patched value) :
    (∀ element ∈ seen value, element.Opens ∧ element.Fit) ∧ strangers value = [] := by
  have onward : ∀ {value element held}, Whole value ∧ Patched value → ofValue? value = some element →
      held ∈ element.shown ∨ held ∈ element.opened → Whole held ∧ Patched held := by
    rintro value element held ⟨whole,patched⟩ sound reached
    obtain ⟨_,tabs,inside⟩ := patched.parts sound
    rcases reached with shown | beyond
    · have listed := contents_of_shown shown
      exact ⟨whole.contents sound held listed,inside held listed⟩
    · obtain ⟨found,known,arranged⟩ := whole.element
      rw [sound] at known
      cases known
      obtain ⟨all,open_,from_⟩ := panel_of_opens tabs (opens_of_arranged arranged)
      rw [opened_ok open_] at beyond
      obtain ⟨tab,there,inner,sound',listed⟩ := from_ held beyond
      exact ⟨(whole.contents sound tab there).contents sound' held listed,((inside tab there).parts sound').2.2 held listed⟩
  obtain ⟨seen,strange⟩ := walk_keeps onward value ⟨whole,patched⟩
  refine ⟨fun element there => ?_,List.eq_nil_iff_forall_not_mem.mpr fun stranger there => ?_⟩
  · obtain ⟨met,⟨whole,patched⟩,sound⟩ := seen element there
    obtain ⟨found,known,arranged⟩ := whole.element
    rw [sound] at known
    cases known
    exact ⟨opens_of_arranged arranged,(patched.parts sound).1⟩
  · obtain ⟨⟨whole,_⟩,unread⟩ := strange stranger there
    obtain ⟨_,sound,_⟩ := whole.element
    rw [unread] at sound
    cases sound

end Element

end Trifold
