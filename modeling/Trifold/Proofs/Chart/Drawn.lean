import Trifold.Proofs.Chart.Grid
import Trifold.Proofs.Value.Json

namespace Trifold.Chart
open Value Number
open Ask (Ends)

variable {host : Host} {value datum : Value}

theorem gaugeText_ends (there : value.isMissing = false) {x min max : Float} {label : Option String} {a b c : ℚ}
    (amount : value.get "value" = number x) (low : value.get "min" = number min) (high : value.get "max" = number max)
    (labelled : value.get "label" = ofText? label) (valued : Means x a) (least : Means min b) (most : Means max c) :
    Ends host (gaugeText value) := by
  have gauges : Gauges value label x min max := ⟨there,labelled,amount,low,high⟩
  exact ⟨_,Ask.told (gaugeText_numbers gauges valued least most),trivial⟩

theorem sparklineText_ends (xs : List Float) : Ends host (sparklineText (list (xs.map number))) :=
  ⟨_,Ask.told (sparklineText_numbers xs),trivial⟩

-- What a chart is drawn from: a label and a number, each under its name.
structure Plotted (datum : Value) : Prop where
  there : datum.isMissing = false
  label : ∃ s, datum.get "label" = text s
  value : ∃ x q, datum.get "value" = number x ∧ Means x q

def amount (datum : Value) : Float := (datum.get "value").number?.getD 0

def point (datum : Value) : String × Float := ((datum.get "label").text?.getD "",amount datum)

theorem Plotted.plots (plotted : Plotted datum) : Plots datum (point datum) := by
  obtain ⟨there,⟨s,labelled⟩,x,q,held,_⟩ := plotted
  refine ⟨there,?_,?_⟩
  · rw [point,labelled]
    rfl
  · rw [point,amount,held]
    rfl

theorem charts_plotted {data : List Value} (there : value.isMissing = false) (held : value.get "data" = list data)
    (plotted : ∀ datum ∈ data, Plotted datum) : Charts value data (data.map point) := by
  refine ⟨there,held,List.forall₂_map_right_iff.mpr (List.forall₂_same.mpr fun datum listed => ?_)⟩
  exact (plotted datum listed).plots

theorem verticalRow_ends {data : List Value} (plotted : ∀ datum ∈ data, Plotted datum) (largest : Float) (level : Nat) :
    Ends host (verticalRow largest data level) := by
  refine Ends.map (Ends.mapM ?_)
  intro datum there
  unfold verticalCell
  rw [(plotted datum there).plots.fetch,pure_bind]
  split <;> exact Ends.pure _

theorem barLines_ends {data : List Value} (there : value.isMissing = false) (held : value.get "data" = list data)
    (plotted : ∀ datum ∈ data, Plotted datum) : Ends host (barLines value) := by
  have charts := charts_plotted there held plotted
  have counted : (list data).fetch "length" = (pure (ofNat data.length) : Ask Value) := rfl
  have listed : listItems "data.map" (list data) = pure data := rfl
  unfold barLines
  rw [fetch_there there,held]
  simp only [pure_bind,counted,listed,values_plotted charts.plotted,extent_numbers]
  split
  · exact Ends.pure _
  · split
    · refine Ends.mapM fun datum listed => ⟨_,Ask.told (horizontalBar_line (isNaN_largest _) ?_ (plotted datum listed).plots),trivial⟩
      exact (bar_cells (List.mem_map_of_mem (List.mem_map_of_mem listed))).1
    · refine Ends.map (Ends.mapM fun level _ => verticalRow_ends ?_ _ _)
      intro datum shown
      exact plotted datum (List.mem_of_mem_take shown)

theorem barText_ends {data : List Value} (there : value.isMissing = false) (held : value.get "data" = list data)
    (plotted : ∀ datum ∈ data, Plotted datum) : Ends host (barText value) := Ends.map (barLines_ends there held plotted)

theorem lineText_ends {data : List Value} (there : value.isMissing = false) (held : value.get "data" = list data)
    (plotted : ∀ datum ∈ data, Plotted datum) : Ends host (lineText value) :=
  ⟨_,Ask.told (lineText_numbers (charts_plotted there held plotted)),trivial⟩

end Trifold.Chart
