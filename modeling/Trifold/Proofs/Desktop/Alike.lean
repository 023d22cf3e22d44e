import Trifold.Desktop.Convert
import Trifold.Proofs.Chart.Alike
import Trifold.Proofs.Element.Label
import Trifold.Proofs.Platform.Details

namespace Trifold.Desktop
open Value Agree
open List (Forall₂)

variable {level : Value → Value → Prop} {host : Host} {a b : Value}

namespace Widget

-- Properties in one order, none of them under the special name, so assigning them one by one only writes them.
structure Paired (fields others : Fields Value) : Prop where
  aligned : Aligned fields others
  named : ∀ entry ∈ fields, entry.1 ≠ baseName

theorem Paired.nil : Paired [] [] := ⟨.nil,nofun⟩

theorem Paired.cons {name : String} {x y : Value} {fields others : Fields Value} (ordinary : name ≠ baseName)
    (equal : same x y = true) (rest : Paired fields others) : Paired ((name,x) :: fields) ((name,y) :: others) := by
  refine ⟨.cons ⟨rfl,equal⟩ rest.aligned,?_⟩
  exact List.forall_mem_cons.mpr ⟨ordinary,rest.named⟩

theorem Paired.defined {fields others : Fields Value} (paired : Paired fields others) :
    Paired (Value.defined fields) (Value.defined others) := by
  refine ⟨paired.aligned.defined,?_⟩
  intro entry there
  exact paired.named entry (List.mem_filter.mp there).1

theorem Paired.spread {fields others entries entries' : Fields Value} (paired : Paired fields others)
    (written : Paired entries entries') : Paired (Value.spread fields entries) (Value.spread others entries') := by
  refine ⟨paired.aligned.putAll written.aligned,?_⟩
  intro entry there
  rcases Fields.mem_putAll there with before | new
  · exact paired.named entry before
  · exact written.named entry new

theorem compact_agree {fields others : Fields Value} (paired : Paired fields others) :
    Outcome Built (compact (object fields) host) (compact (object others) host) := by
  have assigned := assignDefined_aligned paired.aligned paired.named
  change Outcome Built ((assignDefined fields).mapError Fault.misuse) ((assignDefined others).mapError Fault.misuse)
  generalize assignDefined fields = left at assigned
  generalize assignDefined others = right at assigned
  cases assigned with
  | ok built => exact .ok built
  | error => exact .error _

theorem make_agree (shape : String) {base base' : Fields Value} {props props' id id' : Value} {xs ys : List Value}
    (bases : Paired base base') (given : Paired (own props) (own props')) (children : Forall₂ Built xs ys)
    (named : same id id' = true) :
    Outcome Built (make shape base props (list xs) id host) (make shape base' props' (list ys) id' host) := by
  unfold make
  refine Outcome.bind (compact_agree (bases.spread given)) ?_
  intro made made' built
  have listed (items : List Value) : Value.items (list items) = pure items := rfl
  simp only [listed,pure_bind]
  have parts : Aligned [("type",text shape), ("id",id), ("props",made), ("children",list xs)]
      [("type",text shape), ("id",id'), ("props",made'), ("children",list ys)] :=
    .cons ⟨rfl,same_refl trivial⟩
      (.cons ⟨rfl,named⟩ (.cons ⟨rfl,built.same⟩ (.cons ⟨rfl,same_list_of_built children⟩ .nil)))
  refine .ok (.record parts.defined ?_)
  have once : ["type", "id", "props", "children"].Nodup := by decide
  exact once.sublist (List.filter_sublist.map Prod.fst)

theorem label_agree {shown shown' props props' id id' : Value} (equal : same shown shown' = true)
    (given : Paired (own props) (own props')) (named : same id id' = true) :
    Outcome Built (label shown props id host) (label shown' props' id' host) :=
  make_agree "label" (.cons (by decide) equal .nil) given .nil named

theorem button_agree {caption caption' click click' props props' id id' : Value} (equal : same caption caption' = true)
    (clicks : same click click' = true) (given : Paired (own props) (own props')) (named : same id id' = true) :
    Outcome Built (button caption click props id host) (button caption' click' props' id' host) :=
  make_agree "button" (.cons (by decide) equal (.cons (by decide) clicks .nil)) given .nil named

theorem container_agree (direction : String) {props props' id id' : Value} {xs ys : List Value}
    (children : Forall₂ Built xs ys) (given : Paired (own props) (own props')) (named : same id id' = true) :
    Outcome Built (container (text direction) (list xs) props id host)
      (container (text direction) (list ys) props' id' host) :=
  make_agree "container" (.cons (by decide) (same_refl trivial) .nil) given children named

theorem withTag_agree {widget widget' : Value} (built : Built widget widget') (kind : String)
    {details details' : Fields Value} (paired : Paired details details') :
    Outcome Built (withTag widget (text kind) (object details) host)
      (withTag widget' (text kind) (object details') host) := by
  unfold withTag
  refine Outcome.bind (compact_agree paired) ?_
  intro kept kept' recorded
  refine .ok (built.put "tag" (Built.record ?_ ?_).same)
  · exact .cons ⟨rfl,same_refl trivial⟩ (.cons ⟨rfl,recorded.same⟩ .nil)
  · simp [Fields.keys]

end Widget

open Widget

theorem isFontStyle_alike (alike : Alike level a b) : isFontStyle a = isFontStyle b := by
  rw [isFontStyle,isFontStyle,alike.text?]

theorem styleProps_agree (alike : Alike level a b) :
    Outcome Paired (styleProps a host) (styleProps b host) := by
  unfold styleProps
  rw [alike.isAbsent]
  split
  · exact .ok .nil
  · refine Outcome.bind (alike.fetch "attrs" host) ?_
    intro attrs attrs' held
    refine Outcome.bind (held.listItems "style.attrs.filter" host) ?_
    intro names names' each
    have told : Relator.LiftFun (Alike level) (· ↔ ·) (fun x => isFontStyle x = true) (fun x => isFontStyle x = true) := by
      intro x y here
      exact iff_of_eq (congrArg (· = true) (isFontStyle_alike here))
    have fonts := List.rel_filter told each
    have listed : Alike level (if (names.filter isFontStyle).isEmpty then absent else list (names.filter isFontStyle))
        (if (names'.filter isFontStyle).isEmpty then absent else list (names'.filter isFontStyle)) := by
      rw [isEmpty_eq fonts]
      split
      · exact .flat rfl
      · exact alike_list fonts
    exact .ok (Paired.defined (.cons (by decide) (alike.get "fg").same (.cons (by decide) (alike.get "bg").same
      (.cons (by decide) listed.same .nil))))

-- What a keyword means holds nothing itself, whatever the keyword is.
theorem flat_keywords {fields : Fields Value} (flat : ∀ entry ∈ fields, entry.2.isHolder = false) (key : String) :
    ((object fields).get key).isHolder = false := by
  rw [object,Value.get]
  refine Alike.flat_getD ?_ _ _
  intro held found
  exact flat (key,held) (Fields.mem_of_get? found)

theorem fetchBy_flat {keyword meant : Value} {fields : Fields Value}
    (flat : ∀ entry ∈ fields, entry.2.isHolder = false)
    (ended : fetchBy keyword (object fields) host = .ok meant) : meant.isHolder = false := by
  cases named : keyword.text? with
  | some name =>
    cases keyword <;> cases named
    cases ended
    exact flat_keywords flat name
  | none =>
    rw [Alike.fetchBy_key named] at ended
    obtain ⟨key,_,ended⟩ := Ask.ok_of_bind ended
    cases ended
    cases key with
    | none => rfl
    | some key => exact flat_keywords flat key

theorem meaning_agree {fields : Fields Value} (flat : ∀ entry ∈ fields, entry.2.isHolder = false)
    (alike : Alike level a b) :
    Outcome (fun x y => same x y = true) (meaning (object fields) a host) (meaning (object fields) b host) := by
  unfold meaning
  rw [alike.isAbsent,alike.fetchBy]
  split
  · exact .ok rfl
  · cases found : fetchBy b (object fields) host with
    | error => exact .error _
    | ok meant =>
      have held : Alike level meant meant := .flat (fetchBy_flat flat found)
      exact .ok held.same

theorem boxProps_agree (alike : Alike level a b) : Outcome Paired (boxProps a host) (boxProps b host) := by
  unfold boxProps align justify
  refine Outcome.bind (meaning_agree (by simp [isHolder]) (alike.get "alignItems")) ?_
  intro across across' aligned
  refine Outcome.bind (meaning_agree (by simp [isHolder]) (alike.get "justifyContent")) ?_
  intro along along' justified
  exact .ok (.cons (by decide) (alike.get "spacing").same (.cons (by decide) (alike.get "padding").same
    (.cons (by decide) aligned (.cons (by decide) justified .nil))))

theorem paired_disabled {style style' : Fields Value} (styles : Paired style style') (disabled : Bool) :
    Paired (spread style (disabledProps disabled)) (spread style' (disabledProps disabled)) := by
  refine styles.spread ?_
  cases disabled
  · exact .nil
  · exact .cons (by decide) rfl .nil

theorem titleLabel_agree (alike : Alike level a b) (there : a.isMissing = false) :
    Outcome (Forall₂ Built) (titleLabel a host) (titleLabel b host) := by
  unfold titleLabel
  refine Outcome.bind (Label.menuTitle_alike alike there host) ?_
  intro title title' titles
  rw [titles.isAbsent]
  split
  · exact .ok .nil
  · refine Outcome.bind (label_agree titles.same .nil rfl) ?_
    intro made made' built
    exact .ok (.cons built .nil)

theorem details_named (value : Value) (element : Element) : ∀ entry ∈ Details.picked
    (further element.kind ++ Details.keys element.kind) value ++ Details.derived element.body, entry.1 ≠ baseName := by
  intro entry there
  have listed := (Details.keys_fields (further element.kind) value element).subset (List.mem_map_of_mem there)
  have named : ∀ name ∈ Details.names (further element.kind) element, name ≠ baseName := by
    obtain ⟨id,style,visible,body⟩ := element
    cases body <;>
      simp [Details.names,Details.keys,Details.derived,further,Element.kind,Body.kind,Fields.keys,baseName]
  exact named _ listed

theorem details_paired {element element' : Element} (pair : Counterpart host a b element element') :
    Paired (Details.picked (further element.kind ++ Details.keys element.kind) a ++ Details.derived element.body)
      (Details.picked (further element'.kind ++ Details.keys element'.kind) b ++ Details.derived element'.body) := by
  refine ⟨?_,details_named a element⟩
  have aligned := Details.ofElement_aligned pair (further element.kind)
  rw [← pair.kind] at aligned ⊢
  exact aligned

theorem tagged_agree {element element' : Element} (pair : Counterpart host a b element element') {widget widget' : Value}
    (built : Built widget widget') : Outcome Built (tagged a element widget host) (tagged b element' widget' host) := by
  have details := details_paired pair
  unfold tagged Details.ofElement
  rw [← pair.kind] at details ⊢
  exact withTag_agree built _ details

-- One case a kind: a label or a button with a text, or a container of what the contents have become.
theorem assemble_agree {element element' : Element} (pair : Counterpart host a b element element')
    {inside inside' panel panel' : List Value} (insides : Forall₂ Built inside inside')
    (panels : Forall₂ Built panel panel') :
    Outcome Built (assemble a element inside panel host) (assemble b element' inside' panel' host) := by
  have alike := pair.alike
  have there := pair.there
  have kind := pair.kind
  have tag {x y : Value} (built : Built x y) := tagged_agree pair built
  have table {left right : Table} (body : element.body = .table left) (body' : element'.body = .table right) :=
    pair.beside body body'
  have bodies := pair.matched.body
  clear pair
  obtain ⟨id,shape,visible,body⟩ := element
  obtain ⟨id',shape',visible',body'⟩ := element'
  dsimp only at bodies table
  unfold assemble
  refine Outcome.bind (styleProps_agree (alike.get "style")) ?_
  intro style style' styles
  have named := (alike.get "id").same
  have able (disabled : Bool) := paired_disabled styles disabled
  have label {x y : Value} (shown : Alike (Table.Level host) x y) :
      Outcome Built (Widget.label (x.orElse (text "")) (object style) (a.get "id") host)
        (Widget.label (y.orElse (text "")) (object style') (b.get "id") host) :=
    label_agree (shown.orElse (.flat rfl)).same styles named
  have drawn {x y : Ask String} (equal : x host = y host) (left right : Element)
      (tag : ∀ {x y : Value}, Built x y → Outcome Built (tagged a left x host) (tagged b right y host)) :
      Outcome Built
        ((do tagged a left (← Widget.label ((text (← x)).orElse (text "")) (object style) (a.get "id"))) host)
        ((do tagged b right (← Widget.label ((text (← y)).orElse (text "")) (object style') (b.get "id"))) host) := by
    refine Outcome.bind (Outcome.of_eq equal) ?_
    rintro shown _ rfl
    refine Outcome.bind (label (.flat rfl)) ?_
    intro made made' built
    exact tag built
  have held {direction : String} {xs ys : List Value} (children : Forall₂ Built xs ys) {props props' : Fields Value}
      (given : Paired props props') (left right : Element)
      (tag : ∀ {x y : Value}, Built x y → Outcome Built (tagged a left x host) (tagged b right y host)) :
      Outcome Built
        ((do tagged a left (← container (text direction) (list xs) (object props) (a.get "id"))) host)
        ((do tagged b right (← container (text direction) (list ys) (object props') (b.get "id"))) host) := by
    refine Outcome.bind (container_agree direction children given named) ?_
    intro made made' built
    exact tag built
  cases bodies with
  | text => exact label (alike.get "content")
  | button caption click disabled =>
    exact button_agree ((alike.get "label").orElse (.flat rfl)).same (alike.get "onClick").same (able disabled) named
  | label target content =>
    refine Outcome.bind (label (alike.get "text")) ?_
    intro made made' built
    split
    · exact .ok (built.put "labelFor" (alike.get "for").same)
    · exact .ok built
  | textInput =>
    refine Outcome.bind (Label.inputDisplay_alike alike there host) ?_
    intro shown shown' displayed
    refine Outcome.bind (label_agree displayed.same (able _) named) ?_
    intro made made' built
    exact tag built
  | gauge => exact drawn (congrFun (Chart.gaugeText_alike alike there) host) _ _ tag
  | sparkline => exact drawn (congrFun (Chart.sparklineText_alike (alike.get "data")) host) _ _ tag
  | barChart => exact drawn (congrFun (Chart.barText_alike alike) host) _ _ tag
  | lineChart => exact drawn (congrFun (Chart.lineText_alike alike) host) _ _ tag
  | table => exact drawn (Table.drawn_agree (table rfl rfl)) _ _ tag
  | column => exact label (alike.get "header")
  | menuItem caption action disabled =>
    refine Outcome.bind (Outcome.of_eq (congrFun (Label.menuItem_alike alike there) host)) ?_
    rintro shown _ rfl
    refine Outcome.bind (button_agree (same_refl trivial) (alike.get "action").same (able _) named) ?_
    intro made made' built
    exact tag built
  | menu =>
    refine Outcome.bind (titleLabel_agree alike there) ?_
    intro title title' titles
    exact held (List.rel_append titles insides) styles _ _ tag
  | contextMenu | treeView => exact held insides styles _ _ tag
  | tab =>
    refine Outcome.bind (Outcome.of_eq (congrFun (Label.tab_alike alike there) host)) ?_
    rintro shown _ rfl
    refine Outcome.bind (button_agree (same_refl trivial) rfl (able _) named) ?_
    intro made made' built
    exact tag built
  | tabs =>
    refine Outcome.bind (container_agree "hbox" insides (.cons (by decide) rfl .nil) rfl) ?_
    intro bar bar' bars
    exact held (.cons bars panels) (Paired.spread (.cons (by decide) rfl .nil) styles) _ _ tag
  | treeNode =>
    dsimp only
    rw [Label.treeNode_alike alike there,isEmpty_eq insides]
    refine Outcome.bind_same fun shown _ => ?_
    split
    · refine Outcome.bind (label (.flat rfl)) ?_
      intro made made' built
      exact tag built
    · refine Outcome.bind (label_agree (same_refl trivial) styles rfl) ?_
      intro head head' heads
      exact held (.cons heads insides) .nil _ _ tag
  | vbox | hbox =>
    refine Outcome.bind (boxProps_agree alike) ?_
    intro props props' given
    exact container_agree _ insides (given.spread styles) named

theorem backend_keeps (host : Host) : backend.Keeps host Built := by
  refine ⟨?_,fun _ => rfl,?_⟩
  · refine .record (.cons ⟨rfl,same_refl trivial⟩ (.cons ⟨rfl,?_⟩ (.cons ⟨rfl,rfl⟩ .nil))) (by decide)
    exact same_refl (distinct_object.mpr ⟨by decide,by simp [Distinct]⟩)
  · intro a b element element' inside inside' panel panel' pair insides panels
    exact assemble_agree pair insides panels

end Trifold.Desktop
