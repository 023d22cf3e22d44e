import Trifold.Proofs.Chart.Drawn
import Trifold.Proofs.Element.Caption
import Trifold.Proofs.Style.Registry
import Trifold.Proofs.Table.Drawn

namespace Trifold
open Value
open Ask (Answers Ends)

variable {host : Host} {value : Value} {id : Option String} {style : Option Value} {visible : Bool}

namespace Label
open Element

theorem around_ends (before after : String) (part : Option String) : Ends host (around before after (ofText? part)) := by
  cases part <;> exact Ends.pure _

theorem menuItem_ends {it : MenuItem} (sound : ofValue? value = some ⟨id,style,visible,.menuItem it⟩) :
    Ends host (menuItem value) := by
  have disabled : value.get "disabled" = bool it.disabled := get_of_sound sound rfl
  have icon : value.get "icon" = ofText? it.icon := get_of_sound sound rfl
  have shortcut : value.get "shortcut" = ofText? it.shortcut := get_of_sound sound rfl
  have label : value.get "label" = text it.label := get_of_sound sound rfl
  unfold menuItem
  rw [fetch_there (there_of_sound sound),disabled,icon,shortcut,label]
  refine (around_ends _ _ it.icon).bind fun _ => ?_
  exact (around_ends _ _ it.shortcut).bind fun _ => Ends.pure _

theorem tab_ends {it : Tab} (sound : ofValue? value = some ⟨id,style,visible,.tab it⟩) : Ends host (tab value) := by
  have disabled : value.get "disabled" = bool it.disabled := get_of_sound sound rfl
  have icon : value.get "icon" = ofText? it.icon := get_of_sound sound rfl
  have label : value.get "label" = text it.label := get_of_sound sound rfl
  unfold tab
  rw [fetch_there (there_of_sound sound),disabled,icon,label]
  exact (around_ends _ _ it.icon).bind fun _ => Ends.pure _

theorem treeNode_ends {it : TreeNode} (sound : ofValue? value = some ⟨id,style,visible,.treeNode it⟩) :
    Ends host (treeNode value) := by
  have expanded : value.get "expanded" = bool it.expanded := get_of_sound sound rfl
  have icon : value.get "icon" = ofText? it.icon := get_of_sound sound rfl
  have iconExpanded : value.get "iconExpanded" = ofText? it.iconExpanded := get_of_sound sound rfl
  have label : value.get "label" = text it.label := get_of_sound sound rfl
  unfold treeNode
  rw [fetch_there (there_of_sound sound),expanded,icon,iconExpanded,label]
  simp only [pure_bind]
  split
  · exact (around_ends _ _ it.iconExpanded).bind fun _ => Ends.pure _
  · exact (around_ends _ _ it.icon).bind fun _ => Ends.pure _

end Label

namespace Body

-- What is measured is a finite number, and what fills a table is plain. What is nested does not matter.
def Measured : Body → Prop
  | gauge it => Number.isFinite it.value = true ∧ Number.isFinite it.min = true ∧ Number.isFinite it.max = true
  | sparkline it => ∀ x ∈ it.data, Number.isFinite x = true
  | barChart it => ∀ datum ∈ it.data, Number.isFinite (Chart.amount datum) = true
  | lineChart it => ∀ datum ∈ it.data, Number.isFinite (Chart.amount datum) = true
  | table it => (∀ row ∈ it.data, Json row) ∧ ∀ c ∈ it.columns, Table.Plain c
  | column it => it.formatter = none ∧ ∀ w ∈ it.width, Number.isFinite w = true
  | _ => True

-- No column of a table is declared too narrow for its frame.
def Broad : Body → Prop
  | table it => ∀ c ∈ it.columns, Table.Broad c
  | _ => True

-- No text of a table is too long for its frame.
def Short (host : Host) : Body → Prop
  | table it => ∀ c ∈ it.columns, Table.Short host it.data c
  | _ => True

end Body

namespace Element

-- An element that has captions, whatever its contents become.
structure Captioned (host : Host) (element : Element) : Prop where
  measured : element.body.Measured
  broad : element.body.Broad
  short : element.body.Short host

-- An element that can be written as markup, whatever its contents become.
structure Fit (element : Element) : Prop where
  measured : element.body.Measured
  styled : ∀ style ∈ element.style, Style.Written style

end Element

namespace Chart
open Element

theorem plotted_of_sound {datum : Value} (sound : datum? datum = some datum) (finite : Number.isFinite (amount datum) = true) :
    Plotted datum := by
  unfold datum? at sound
  split at sound
  case isTrue shaped =>
    simp only [Bool.and_eq_true,Option.isSome_iff_exists] at shaped
    obtain ⟨⟨plain,s,labelled⟩,x,valued⟩ := shaped
    obtain ⟨q,means⟩ := Number.means_finite finite
    rw [amount,valued] at means
    refine ⟨?_,⟨s,Table.eq_text labelled⟩,x,q,eq_number valued,means⟩
    cases datum <;> first | rfl | cases plain
  case isFalse => cases sound

theorem data_sound {element : Element} (sound : ofValue? value = some element) {data : List Value}
    (charted : (∃ it, element.body = .barChart it ∧ it.data = data) ∨ ∃ it, element.body = .lineChart it ∧ it.data = data) :
    ∀ datum ∈ data, datum? datum = some datum := by
  have read := body?_of sound
  rcases charted with ⟨it,body,rfl⟩ | ⟨it,body,rfl⟩
  all_goals
    rw [Element.kind,body] at read
    simp only [Body.kind,body?,Option.bind_eq_bind,Option.bind_eq_some_iff,Option.pure_def,Option.some.injEq,
      Body.barChart.injEq,Body.lineChart.injEq] at read
    obtain ⟨_,plotted,_,_,_,_,rfl⟩ := read
    exact (Table.listOf_kept datum?_kept plotted).2

end Chart

theorem Caption.assemble_ends {element : Element} (sound : Element.ofValue? value = some element)
    (measured : element.body.Measured) (broad : element.body.Broad) (short : element.body.Short host)
    (inside panel : List (List Caption)) : Ends host (Caption.assemble value element inside panel) := by
  have there := Element.there_of_sound sound
  have plotted := @Chart.data_sound value element sound
  obtain ⟨id,style,visible,body⟩ := element
  unfold Caption.assemble
  cases body with
  | gauge it =>
    obtain ⟨value,min,max⟩ := measured
    obtain ⟨a,value⟩ := Number.means_finite value
    obtain ⟨b,min⟩ := Number.means_finite min
    obtain ⟨c,max⟩ := Number.means_finite max
    exact Ends.map (Chart.gaugeText_ends there (Element.get_of_sound sound rfl) (Element.get_of_sound sound rfl)
      (Element.get_of_sound sound rfl) (Element.get_of_sound sound rfl) value min max)
  | sparkline it =>
    have data : value.get "data" = list (it.data.map number) := Element.get_of_sound sound rfl
    dsimp only
    rw [data]
    exact Ends.map (Chart.sparklineText_ends it.data)
  | barChart it =>
    refine Ends.map (Chart.barText_ends there (Element.get_of_sound sound rfl) fun datum listed => ?_)
    exact Chart.plotted_of_sound (plotted (.inl ⟨it,rfl,rfl⟩) datum listed) (measured datum listed)
  | lineChart it =>
    refine Ends.map (Chart.lineText_ends there (Element.get_of_sound sound rfl) fun datum listed => ?_)
    exact Chart.plotted_of_sound (plotted (.inr ⟨it,rfl,rfl⟩) datum listed) (measured datum listed)
  | table it =>
    have headed := Table.shown_plain measured.2 (Table.columns_sound sound rfl)
    have roomy := Table.shown_roomy measured.2 broad short
    exact Ends.map (Table.drawn_ends (Table.holds_of_sound sound rfl) (fun c there => (headed c there).1) roomy measured.1)
  | menuItem it => exact Ends.map (Label.menuItem_ends sound)
  | tab it => exact Ends.map (Label.tab_ends sound)
  | treeNode it => exact (Label.treeNode_ends sound).bind fun _ => Ends.pure _
  | _ => exact Ends.pure _

theorem Caption.broad_of_assembled {element : Element} (sound : Element.ofValue? value = some element)
    (measured : element.body.Measured) {inside panel : List (List Caption)} {made : List Caption}
    (assembled : Caption.assemble value element inside panel host = .ok made) : element.body.Broad := by
  obtain ⟨id,style,visible,body⟩ := element
  cases body with
  | table it =>
    have shown := Table.shown_plain measured.2 (Table.columns_sound sound rfl)
    obtain ⟨words,drawn,_⟩ := Ask.ok_of_bind assembled
    have broad := Table.broad_of_drawn (Table.holds_of_sound sound rfl) shown measured.1 ⟨words,drawn,trivial⟩
    intro c there
    have filled : it.columns.isEmpty = false := List.isEmpty_eq_false_iff.mpr (List.ne_nil_of_mem there)
    refine broad c ?_
    rw [Table.shownValues,filled]
    exact there
  | _ => trivial

end Trifold
