import Trifold.Proofs.Chart.Alike
import Trifold.Proofs.Element.Label
import Trifold.Proofs.Platform.Details
import Trifold.Terminal.Convert

namespace Trifold.Terminal
open Value Agree
open List (Forall₂)

variable {host : Host} {a b : Value}

abbrev SameValue (x y : Value) : Prop := same x y = true

theorem same_text (s : String) : SameValue (text s) (text s) := same_refl trivial

theorem built_content {x y : Value} (equal : SameValue x y) : Built (Node.content x) (Node.content y) :=
  .record (.cons ⟨rfl,same_text _⟩ (.cons ⟨rfl,equal⟩ .nil)) (by simp [Fields.keys])

theorem built_withStyle {x y style style' : Value} (built : Built x y) (styles : SameValue style style') :
    Built (Node.withStyle x style) (Node.withStyle y style') := by
  unfold Node.withStyle
  rw [isAbsent_same styles]
  split
  · exact built
  · exact .record (.cons ⟨rfl,same_text _⟩ (.cons ⟨rfl,built.same⟩ (.cons ⟨rfl,styles⟩ .nil))) (by simp [Fields.keys])

theorem built_stackWith {direction spacing spacing' padding padding' align align' justify justify' : Value}
    {xs ys : List Value} (directed : SameValue direction direction) (children : Forall₂ Built xs ys)
    (spaced : SameValue (spacing.orElse (number 0)) (spacing'.orElse (number 0))) (padded : SameValue padding padding')
    (aligned : SameValue align align') (justified : SameValue justify justify') :
    Built (Node.stackWith direction xs spacing padding align justify)
      (Node.stackWith direction ys spacing' padding' align' justify') := by
  have options : Aligned [("padding",padding), ("align",align), ("justify",justify)]
      [("padding",padding'), ("align",align'), ("justify",justify')] :=
    .cons ⟨rfl,padded⟩ (.cons ⟨rfl,aligned⟩ (.cons ⟨rfl,justified⟩ .nil))
  refine .record (List.rel_append ?_ options.defined) ?_
  · exact .cons ⟨rfl,same_text _⟩ (.cons ⟨rfl,directed⟩ (.cons ⟨rfl,same_list_of_built children⟩ (.cons ⟨rfl,spaced⟩ .nil)))
  · have once : ["kind", "direction", "children", "spacing", "padding", "align", "justify"].Nodup := by decide
    rw [Fields.keys,List.map_append]
    exact once.sublist ((List.filter_sublist.map Prod.fst).append_left _)

theorem built_stack (direction : String) (spacing : Float) {xs ys : List Value} (children : Forall₂ Built xs ys) :
    Built (Node.stack direction xs spacing) (Node.stack direction ys spacing) := by
  have nothing : SameValue absent absent := rfl
  exact built_stackWith (same_text _) children (same_refl trivial) nothing nothing nothing

theorem built_leaf {style style' shown shown' : Value} (styles : SameValue style style') (equal : SameValue shown shown') :
    Built (leaf style shown) (leaf style' shown') :=
  built_withStyle (built_content equal) styles

theorem built_column {style style' : Value} (styles : SameValue style style') {xs ys : List Value}
    (children : Forall₂ Built xs ys) : Built (column style xs) (column style' ys) :=
  built_withStyle (built_stack _ _ children) styles

theorem built_box (direction : String) {style style' : Value} (styles : SameValue style style')
    (alike : Alike (Table.Level host) a b) {xs ys : List Value} (children : Forall₂ Built xs ys) :
    Built (box direction style a xs) (box direction style' b ys) :=
  built_withStyle (built_stackWith (same_text _) children ((alike.get "spacing").orElse (.flat rfl)).same
    (alike.get "padding").same (alike.get "alignItems").same (alike.get "justifyContent").same) styles

theorem built_tagged {element element' : Element} (pair : Counterpart host a b element element') {x y : Value}
    (built : Built x y) : Built (tagged a element x) (tagged b element' y) := by
  have once : (Details.names (further element.kind) element).Nodup := by
    obtain ⟨id,style,visible,body⟩ := element
    cases body <;> simp [Details.names,Details.keys,Details.derived,further,Element.kind,Body.kind,Fields.keys]
  have details := Details.ofElement_built pair (further element.kind) once
  unfold tagged Node.withTag
  rw [← pair.kind]
  exact .record (.cons ⟨rfl,same_text _⟩ (.cons ⟨rfl,same_text _⟩ (.cons ⟨rfl,built.same⟩ (.cons ⟨rfl,details.same⟩ .nil))))
    (by simp [Fields.keys])

theorem cellStyle_agree (alike : Alike (Table.Level host) a b) :
    Outcome SameValue (cellStyle a host) (cellStyle b host) := by
  unfold cellStyle
  rw [alike.isAbsent]
  split
  · exact .ok rfl
  · refine Outcome.bind (alike.fetch "fg" host) ?_
    intro fg fg' first
    have colors : Aligned (defined [("fg",fg), ("bg",a.get "bg")]) (defined [("fg",fg'), ("bg",b.get "bg")]) :=
      Aligned.defined (.cons ⟨rfl,first.same⟩ (.cons ⟨rfl,(alike.get "bg").same⟩ .nil))
    have attrs := alike.get "attrs"
    refine Outcome.bind (attrs.fetch "length" host) ?_
    intro length length' counted
    rw [isEmpty_eq colors,counted.isSame_number]
    split
    · exact .ok rfl
    · refine .ok (Aligned.same_object (List.rel_append colors (.cons ⟨rfl,attrs.same⟩ .nil)) ?_)
      have once : ["fg", "bg", "attrs"].Nodup := by decide
      rw [Fields.keys,List.map_append]
      exact once.sublist ((List.filter_sublist.map Prod.fst).append_right _)

-- One case a kind: a leaf with a text, or a stack of what the contents have become.
theorem assemble_agree {element element' : Element} (pair : Counterpart host a b element element')
    {inside inside' panel panel' : List Value} (insides : Forall₂ Built inside inside')
    (panels : Forall₂ Built panel panel') :
    Outcome Built (assemble a element inside panel host) (assemble b element' inside' panel' host) := by
  have alike := pair.alike
  have there := pair.there
  have tag {x y : Value} (built : Built x y) := built_tagged pair built
  have table {left right : Table} (body : element.body = .table left) (body' : element'.body = .table right) :=
    pair.beside body body'
  have bodies := pair.matched.body
  clear pair
  obtain ⟨id,shape,visible,body⟩ := element
  obtain ⟨id',shape',visible',body'⟩ := element'
  dsimp only at bodies table
  unfold assemble
  refine Outcome.bind (cellStyle_agree (alike.get "style")) ?_
  intro style style' styles
  have written (key : String) : SameValue ((a.get key).orElse (text "")) ((b.get key).orElse (text "")) :=
    ((alike.get key).orElse (.flat rfl)).same
  have drawn {x y : Ask String} (equal : x host = y host) (left right : Element)
      (tag : ∀ {x y : Value}, Built x y → Built (tagged a left x) (tagged b right y)) :
      Outcome Built ((do return tagged a left (leaf style (text (← x)))) host)
        ((do return tagged b right (leaf style' (text (← y)))) host) := by
    refine Outcome.bind (Outcome.of_eq equal) ?_
    rintro shown _ rfl
    exact .ok (tag (built_leaf styles (same_text shown)))
  cases bodies with
  | text => exact .ok (built_leaf styles (written "content"))
  | button label click disabled =>
    dsimp only
    rw [Label.button_alike (alike.get "label"),Agree.isSome_eq click]
    refine Outcome.bind_same fun shown _ => ?_
    have leaf := built_leaf styles (same_text shown)
    split
    · exact .ok (tag leaf)
    · exact .ok leaf
  | label target content =>
    have leaf := built_leaf styles (written "text")
    dsimp only
    split
    · exact .ok (tag leaf)
    · exact .ok leaf
  | textInput => exact drawn (congrFun (Label.input_alike alike there) host) _ _ tag
  | gauge => exact drawn (congrFun (Chart.gaugeText_alike alike there) host) _ _ tag
  | sparkline => exact drawn (congrFun (Chart.sparklineText_alike (alike.get "data")) host) _ _ tag
  | barChart => exact drawn (congrFun (Chart.barText_alike alike) host) _ _ tag
  | lineChart => exact drawn (congrFun (Chart.lineText_alike alike) host) _ _ tag
  | table => exact drawn (Table.drawn_agree (table rfl rfl)) _ _ tag
  | column => exact .ok (built_leaf styles (alike.get "header").same)
  | menu =>
    refine Outcome.bind (Label.menuTitle_alike alike there host) ?_
    intro title title' titles
    have heading := Agree.toList (Agree.map titles.present? fun _ _ here => built_content here.same)
    exact .ok (tag (built_column styles (List.rel_append heading insides)))
  | menuItem => exact drawn (congrFun (Label.menuItem_alike alike there) host) _ _ tag
  | contextMenu | treeView => exact .ok (tag (built_column styles insides))
  | tab => exact drawn (congrFun (Label.tab_alike alike there) host) _ _ tag
  | tabs =>
    have bar := built_withStyle (built_stack "horizontal" 2 insides) styles
    exact .ok (tag (built_stack "vertical" 1 (.cons bar panels)))
  | treeNode =>
    dsimp only
    rw [Label.treeNode_alike alike there,Agree.isEmpty_eq insides]
    refine Outcome.bind_same fun shown _ => ?_
    have label := built_leaf styles (same_text shown)
    split
    · exact .ok (tag label)
    · exact .ok (tag (built_stack "vertical" 0 (.cons label insides)))
  | vbox | hbox => exact .ok (built_box _ styles alike insides)

theorem backend_keeps (host : Host) : backend.Keeps host Built := by
  refine ⟨.record (.cons ⟨rfl,same_text _⟩ .nil) (by decide),fun _ => rfl,?_⟩
  intro a b element element' inside inside' panel panel' pair insides panels
  exact assemble_agree pair insides panels

end Trifold.Terminal
