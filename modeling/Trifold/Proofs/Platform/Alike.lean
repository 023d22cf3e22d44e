import Trifold.Proofs.Platform.Walk
import Trifold.Proofs.Table.Layout

namespace Trifold
open Value Agree
open List (Forall₂)

variable {host : Host} {a b : Value} {element element' : Element}

-- Two elements that are read from values that read alike.
structure Counterpart (host : Host) (a b : Value) (element element' : Element) : Prop where
  alike : Alike (Table.Level host) a b
  sound : Element.ofValue? a = some element
  sound' : Element.ofValue? b = some element'
  matched : Element.Matched (Table.Level host) element element'

namespace Counterpart

theorem there (pair : Counterpart host a b element element') : a.isMissing = false := by
  have sound := pair.sound
  simp only [Element.ofValue?,Option.bind_eq_bind,Option.bind_eq_some_iff] at sound
  obtain ⟨kind,known,_⟩ := sound
  exact Table.there_of_kind known

theorem kind (pair : Counterpart host a b element element') : element.kind = element'.kind := by
  have bodies := pair.matched.body
  unfold Element.kind
  generalize element.body = body at bodies
  generalize element'.body = body' at bodies
  cases bodies <;> rfl

-- Neither numbers nor lists are elements, so tables that read alike are one value or two records.
theorem legible (pair : Counterpart host a b element element') {left right : Table} (body : element.body = .table left)
    (body' : element'.body = .table right) : Table.Legible host left right := by
  have level : Table.Level host a b := by
    obtain ⟨alike,sound,_,_⟩ := pair
    cases alike with
    | flat => exact Table.level_refl host a
    | number => cases sound
    | list => cases sound
    | record _ _ _ _ _ here => exact here
  exact level element element' left right pair.sound pair.sound' body body'

theorem beside (pair : Counterpart host a b element element') {left right : Table} (body : element.body = .table left)
    (body' : element'.body = .table right) : Table.Beside host a b left right := by
  refine ⟨pair.alike,?_,pair.legible body body',Table.holds_of_sound pair.sound body,
    Table.holds_of_sound pair.sound' body'⟩
  have bodies := pair.matched.body
  rw [body,body'] at bodies
  cases bodies with
  | table matched => exact matched

end Counterpart

namespace Element

theorem contains_of_get {key : String} {value : Value} (there : (value.get key).isAbsent = false) :
    value.contains key = true := by
  induction value using members with
  | plain value flat =>
    have held : (!(value.get key).isAbsent || (value.list?.bind (itemAt · key)).isSome) = true := by rw [there]; rfl
    cases value <;> first | exact held | cases flat
  | list items =>
    show (!(Value.get key (.list items)).isAbsent || _) = true
    rw [there]
    rfl
  | record bare fields =>
    rw [contains]
    cases found : Fields.get? key fields with
    | some held =>
      have listed : Fields.has key fields = true := by rw [Fields.has,found]; rfl
      rw [listed]
      rfl
    | none =>
      rw [Value.get,found,Option.getD_none] at there
      cases bare
      · rw [if_neg Bool.false_ne_true] at there
        simp [there]
      · cases there
  | heir base locked fields above =>
    rw [contains]
    cases found : Fields.get? key fields with
    | some held =>
      have listed : Fields.has key fields = true := by rw [Fields.has,found]; rfl
      rw [listed]
      rfl
    | none =>
      rw [Value.get,found,Option.getD_none] at there
      rw [above there,Bool.or_true]

-- A kind can be named for both or for neither. The names may differ, where one side lists a kind that is absent.
theorem describeKind_alike (alike : Alike (Table.Level host) a b) :
    Outcome (fun _ _ => True) (describeKind a host) (describeKind b host) := by
  have named (value : Value) (nothing : (value.get "type").isAbsent = true) :
      ∃ name, describeKind value = pure name := by
    unfold describeKind describe
    split
    · rw [eq_absent nothing]
      exact ⟨_,rfl⟩
    · exact ⟨_,rfl⟩
  have same := (alike.get "type").isAbsent
  cases nothing : (a.get "type").isAbsent with
  | true =>
    obtain ⟨name,left⟩ := named a nothing
    obtain ⟨name',right⟩ := named b (same.symm.trans nothing)
    rw [left,right]
    exact .ok trivial
  | false =>
    unfold describeKind describe
    rw [contains_of_get nothing,contains_of_get (same.symm.trans nothing),alike.isObject]
    cases b.isObject
    · exact .ok trivial
    · exact (Outcome.of_eq (congrFun (alike.get "type").toText host)).mono fun _ _ _ => trivial

theorem shown_matched (matched : Element.Matched (Table.Level host) element element') :
    AlikeAll (Table.Level host) element.shown element'.shown := by
  have bodies := matched.body
  unfold shown
  generalize element.body = body at bodies
  generalize element'.body = body' at bodies
  cases bodies with
  | menu _ _ inside | contextMenu _ inside | tabs _ _ _ inside | treeView inside | vbox inside | hbox inside => exact inside
  | treeNode label values expanded icon iconExpanded selectable inside =>
    cases expanded
    · exact .nil
    · exact Agree.getD inside .nil
  | _ => exact .nil

theorem findNamed_alike (name : String) {values values' : List Value} (items : AlikeAll (Table.Level host) values values') :
    Outcome (Alike? (Table.Level host)) (Label.findNamed (.text name) values) (Label.findNamed (.text name) values') := by
  induction items with
  | nil => exact .ok .none
  | @cons v w rest rest' here later ih =>
    have stop (value : Value) (there : value.isMissing = false) (rest : List Value) :
        Label.findNamed (.text name) (value :: rest) =
          if Label.isNamed (.text name) value then .ok (some value) else Label.findNamed (.text name) rest := by
      cases value <;> first | rfl | cases there
    cases missing : v.isMissing with
    | true =>
      cases here with
      | flat => cases v <;> first | exact .error _ | cases missing
      | number => cases missing
      | list => cases missing
      | record left => cases v <;> cases left <;> cases missing
    | false =>
      rw [stop v missing,stop w (here.isMissing.symm.trans missing),Label.isNamed,Label.isNamed,
        (here.get "id").isSame_text]
      split
      · exact .ok (.some here)
      · exact ih

theorem contentOf_alike (alike : Alike (Table.Level host) a b) :
    AlikeAll (Table.Level host) (Label.contentOf a) (Label.contentOf b) := by
  have content := alike.get "content"
  have read (value : Value) : Label.contentOf value =
      if (value.get "content").isAbsent then [] else (value.get "content").list?.getD [value.get "content"] := by
    unfold Label.contentOf
    cases value.get "content" <;> rfl
  rw [read,read,content.isAbsent]
  split
  · exact .nil
  · exact Agree.getD content.list? (.cons content .nil)

theorem panel_matched (matched : Element.Matched (Table.Level host) element element') :
    Outcome (AlikeAll (Table.Level host)) element.panel element'.panel := by
  have bodies := matched.body
  unfold panel
  generalize element.body = body at bodies
  generalize element'.body = body' at bodies
  cases bodies with
  | @tabs active position _ _ _ tabs tabs' inside =>
    cases active with
    | none => exact .ok .nil
    | some name =>
      have found := findNamed_alike name inside
      show Outcome _ ((Label.findNamed (.text name) tabs).bind fun hit => .ok ((hit.map Label.contentOf).getD []))
        ((Label.findNamed (.text name) tabs').bind fun hit => .ok ((hit.map Label.contentOf).getD []))
      generalize Label.findNamed (.text name) tabs = left at found
      generalize Label.findNamed (.text name) tabs' = right at found
      cases found with
      | error => exact .error _
      | ok hit => exact .ok (Agree.getD (Agree.map hit fun _ _ => contentOf_alike) .nil)
  | _ => exact .ok .nil

end Element

namespace Backend

variable {ρ : Type} {backend : Backend ρ} {R : ρ → ρ → Prop}

theorem unknown_agree (blank : R backend.blank backend.blank) (alike : Alike (Table.Level host) a b) :
    Outcome (Option.Rel R) (backend.unknown host a).outcome (backend.unknown host b).outcome := by
  refine Outcome.run_bind (Element.describeKind_alike alike) ?_
  intro _ _ _
  exact .ok (.some blank)

-- What a platform has to keep: it is ready for both or for neither, and assembles related parts to related wholes.
structure Keeps (backend : Backend ρ) (host : Host) (R : ρ → ρ → Prop) : Prop where
  blank : R backend.blank backend.blank
  ready : ∀ {a b}, Alike (Table.Level host) a b → backend.ready a host = backend.ready b host
  assembled : ∀ {a b element element' inside inside' panel panel'}, Counterpart host a b element element' →
    Forall₂ R inside inside' → Forall₂ R panel panel' →
    Outcome R (backend.assemble a element inside panel host) (backend.assemble b element' inside' panel' host)

theorem convert_agree (keeps : backend.Keeps host R) (value : Value) :
    ∀ other, Alike (Table.Level host) value other →
      Outcome (Option.Rel R) (backend.convert host value).outcome (backend.convert host other).outcome := by
  refine (convert.mutual_induct
    (fun value => ∀ other, Alike (Table.Level host) value other →
      Outcome (Option.Rel R) (backend.convert host value).outcome (backend.convert host other).outcome)
    (fun values => ∀ others, AlikeAll (Table.Level host) values others →
      Outcome (Forall₂ R) (backend.convertAll host values).outcome (backend.convertAll host others).outcome)
    ?foreign ?hidden ?shown ?none ?more).1 value
  case foreign =>
    intro value foreign other alike
    have met := Element.ofValue?_matched alike
    rw [foreign] at met
    generalize read : Element.ofValue? other = found at met
    cases met
    rw [convert_foreign foreign,convert_foreign read]
    exact unknown_agree keeps.blank alike
  case hidden =>
    intro value element sound hidden other alike
    have met := Element.ofValue?_matched alike
    rw [sound] at met
    generalize sound' : Element.ofValue? other = found at met
    cases met with
    | some matched =>
      have hidden : element.visible = false := by simpa using hidden
      rw [convert_hidden sound hidden,convert_hidden sound' (matched.visible.symm.trans hidden)]
      exact .ok .none
  case shown =>
    intro value element sound visible inner outer other alike
    have met := Element.ofValue?_matched alike
    rw [sound] at met
    generalize sound' : Element.ofValue? other = found at met
    cases met with
    | @some _ element' matched =>
      have visible : element.visible = true := by simpa using visible
      rw [convert_shown sound visible,convert_shown sound' (matched.visible.symm.trans visible)]
      refine Outcome.run_bind (Outcome.of_eq (keeps.ready alike)) fun _ _ _ => ?_
      refine Outcome.run_bind (inner _ (Element.shown_matched matched)) ?_
      intro inside inside' shown
      have panels := Element.panel_matched matched
      generalize opened : element.panel = left at panels
      generalize opened' : element'.panel = right at panels
      cases panels with
      | error cause => exact .error _
      | @ok held held' items =>
        simp only [Run.ofMisuse_ok,Run.pure_bind]
        refine Outcome.run_bind (outer held opened _ items) ?_
        intro panel panel' open_
        refine Outcome.run_bind (x := Run.ask host _) (keeps.assembled ⟨alike,sound,sound',matched⟩ shown open_) ?_
        intro made made' here
        exact .ok (.some here)
  case none =>
    rintro _ (_ | _)
    rw [convertAll.eq_1]
    exact .ok .nil
  case more =>
    rintro value rest here after _ (_ | ⟨first,later⟩)
    rw [convertAll_cons,convertAll_cons]
    refine Outcome.run_bind (here _ first) ?_
    intro made made' one
    refine Outcome.run_bind (after _ later) ?_
    intro others others' more
    exact .ok (List.rel_append (Agree.toList one) more)

end Backend

end Trifold
