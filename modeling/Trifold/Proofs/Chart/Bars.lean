import Trifold.Attributes
import Trifold.Proofs.Ask
import Trifold.Proofs.Chart.Extent
import Trifold.Proofs.Number.Scale
import Trifold.Proofs.Value.Alike

namespace Trifold.Chart
open Value Number

variable {x y lo hi : Float} {xs : List Float} {a b c q : ℚ} {n k : ℕ}

theorem means_twenty : Means 20 (20 : ℕ) := means_ofNat (n := 20) (by norm_num)

def Filled (x : Float) : Prop := isNaN x = true ∨ Within x (20 : ℕ)

theorem filled_rest (filled : Filled x) : Filled (gaugeWidth - x) := by
  rcases filled with none | ⟨a,means,nonneg,le⟩
  · exact .inl (isNaN_sub _ none)
  · exact .inr (rest_within means_twenty ⟨a,means,nonneg,le⟩)

def Accepted (x : Float) : Prop := Attributes.finite? (number x) = some x

theorem Accepted.means (accepted : Accepted x) : ∃ q, Means x q := by
  refine means_finite ?_
  by_contra unbounded
  rw [Accepted,Attributes.finite?,number?,Option.filter_some,if_neg unbounded] at accepted
  cases accepted

def cells (count : Float) : ℕ := (Text.count? count).toOption.getD 0

theorem cells_means (means : Means x k) : cells x = k := by
  rw [cells,count?_whole means]
  rfl

theorem cells_nan (none : isNaN x = true) : cells x = 0 := by
  rw [cells,Text.count?,if_pos none]
  rfl

theorem Filled.count? (filled : Filled x) : ∃ k ≤ 20, Text.count? x = .ok k := by
  rcases filled with none | ⟨q,means,nonneg,le⟩
  · exact ⟨0,by norm_num,by rw [Text.count?,if_pos none]⟩
  · exact count?_means means (by linarith) le

theorem Filled.cells_le (filled : Filled x) : cells x ≤ 20 := by
  obtain ⟨k,few,counted⟩ := filled.count?
  rw [cells,counted]
  exact few

theorem Filled.repeated {s : String} (filled : Filled x) (short : Text.unitLength s = 1) (some : s ≠ "") :
    (repeated s x : Ask String) = pure (Text.repeated (cells x) s) := by
  obtain ⟨k,few,counted⟩ := filled.count?
  have room : k * Text.unitLength s ≤ Text.lengthLimit := by
    rw [short,mul_one]
    exact few.trans (by decide)
  rw [Chart.repeated,repeat?_exact counted some room,cells,counted]
  rfl

def kept (x min max : Float) : Float := smaller (larger x min) max

-- The bar of a gauge: all its cells, none of them filled at the lower end and all at the upper one. It has none where the way
-- up to the value is no finite number.
structure GaugeBar (x min max : Float) (full blank : ℕ) : Prop where
  whole : kept x min max - min < infinity → full + blank = 20
  empty : ¬ min < x → full = 0
  filled : kept x min max - min < infinity → min < max → ¬ x < max → full = 20
  beyond : ¬ kept x min max - min < infinity → full = 0 ∧ blank = 0

section

variable {min max : Float} (valued : Means x a) (least : Means min b) (most : Means max c)
include valued least most

theorem filled_stepped (near : kept x min max - min < infinity) : Stepped (filled x min max) 20 (a ≤ b) (b < c ∧ c ≤ a) := by
  have clamped := smaller_means (larger_means valued least) most
  have wide := sub_positive most least
  have placed : Placed (if 0 < max - min then (kept x min max - min) / (max - min) else 0) 1 (a ≤ b) (b < c ∧ c ≤ a) := by
    split
    · rename_i positive
      have wide := wide.mp positive
      obtain ⟨q,means,nonneg,le,low,high⟩ :=
        part_placed clamped least most (min_le_right _ _) (le_min (le_max_right a b) wide.le) wide near
      refine ⟨q,means,nonneg,le,fun under => low ?_,fun past => high ?_⟩
      · rw [max_eq_right under,min_eq_left wide.le]
      · rw [max_eq_left (wide.le.trans past.2),min_eq_right past.2]
    · rename_i narrow
      exact ⟨0,means_zero,le_rfl,by norm_num,fun _ => rfl,fun past => absurd (wide.mpr past.1) narrow⟩
  exact (placed.times means_twenty (by norm_num)).round (by norm_num)

theorem filled_none (far : ¬ kept x min max - min < infinity) : isNaN (filled x min max) = true := by
  have clamped := smaller_means (larger_means valued least) most
  have wide : b < c := by
    by_contra narrow
    have below : Min.min (Max.max a b) c - b ≤ 0 := by
      have := min_le_right (Max.max a b) c
      linarith
    refine far ((gives_sub clamped least).lt_infinity.mpr ?_)
    calc settled (Min.min (Max.max a b) c - b) ≤ settled 0 := settled_mono below
      _ = 0 := settled_means means_zero
      _ < 2 ^ (1024 : ℤ) := two_zpow_pos 1024
  rw [filled]
  simp only [if_pos ((sub_positive most least).mpr wide)]
  exact isNaN_round (isNaN_mul (part_none clamped least most (min_le_right _ _) far) _)

theorem filled_within : Filled (filled x min max) := by
  by_cases near : kept x min max - min < infinity
  · obtain ⟨k,few,means,_⟩ := filled_stepped valued least most near
    exact .inr ⟨k,means,Nat.cast_nonneg k,by exact_mod_cast few⟩
  · exact .inl (filled_none valued least most near)

theorem gaugeBar : GaugeBar x min max (cells (filled x min max)) (cells (gaugeWidth - filled x min max)) := by
  by_cases near : kept x min max - min < infinity
  · obtain ⟨k,few,means,low,high⟩ := filled_stepped valued least most near
    have rest : Means (gaugeWidth - filled x min max) (20 - k : ℕ) := means_sub means_twenty means few (by norm_num)
    rw [cells_means means,cells_means rest]
    refine ⟨fun _ => by omega,fun under => low ?_,fun _ wide past => high ⟨?_,?_⟩,fun far => absurd near far⟩
    · exact not_lt.mp (mt (lt_means least valued).mpr under)
    · exact (lt_means least most).mp wide
    · exact not_lt.mp (mt (lt_means valued most).mpr past)
  · have none := filled_none valued least most near
    rw [cells_nan none,cells_nan (isNaN_sub _ none)]
    exact ⟨fun near' => absurd near' near,fun _ => rfl,fun near' => absurd near' near,fun _ => ⟨rfl,rfl⟩⟩

end

def lead (label : Option String) : String := label.elim "" (· ++ ": ")

def bar (full blank : ℕ) : String := "[" ++ Text.repeated full "=" ++ Text.repeated blank " " ++ "]"

-- A gauge of a number within a range.
structure Gauges (gauge : Value) (label : Option String) (x min max : Float) : Prop where
  there : gauge.isMissing = false
  label : gauge.get "label" = ofText? label
  value : gauge.get "value" = number x
  min : gauge.get "min" = number min
  max : gauge.get "max" = number max

section

variable {gauge : Value} {label : Option String} {min max : Float} (gauges : Gauges gauge label x min max)
include gauges

theorem gaugeText_numbers (valued : Means x a) (least : Means min b) (most : Means max c) :
    (gaugeText gauge : Ask String) = pure (lead label ++ bar (cells (filled x min max)) (cells (gaugeWidth - filled x min max)) ++
      " " ++ written x ++ "/" ++ written max) := by
  have fill := filled_within valued least most
  have asked : (gaugeFill (number x) (number min) (number max) : Ask Float) = pure (filled x min max) := rfl
  rw [gaugeText,fetch_there gauges.there,gauges.value,gauges.min,gauges.max,gauges.label,pure_bind,asked,pure_bind,
    fill.repeated rfl (by decide),(filled_rest fill).repeated rfl (by decide)]
  cases label <;> rfl

theorem gaugeText_bar (host : Host) (valued : Accepted x) (least : Accepted min) (most : Accepted max) :
    ∃ full blank, GaugeBar x min max full blank ∧
      gaugeText gauge host = .ok (lead label ++ bar full blank ++ " " ++ written x ++ "/" ++ written max) := by
  obtain ⟨a,valued⟩ := valued.means
  obtain ⟨b,least⟩ := least.means
  obtain ⟨c,most⟩ := most.means
  exact ⟨_,_,gaugeBar valued least most,Ask.told (gaugeText_numbers gauges valued least most)⟩

end

-- A datum of a chart: the label and the number that stand under their names.
structure Plots (datum : Value) (point : String × Float) : Prop where
  there : datum.isMissing = false
  label : datum.get "label" = text point.1
  value : datum.get "value" = number point.2

theorem Plots.fetch {datum : Value} {point : String × Float} (plots : Plots datum point) :
    (datum.fetch "value" : Ask Value) = pure (number point.2) := by
  rw [fetch_there plots.there,plots.value]

-- A chart of these points.
structure Charts (chart : Value) (data : List Value) (points : List (String × Float)) : Prop where
  there : chart.isMissing = false
  held : chart.get "data" = list data
  plotted : List.Forall₂ Plots data points

theorem values_plotted {data : List Value} {points : List (String × Float)} (plotted : List.Forall₂ Plots data points) :
    (data.mapM (fetch "value") : Ask (List Value)) = pure ((points.map (·.2)).map number) := by
  rw [List.map_map]
  exact Ask.mapM_related plotted fun _ _ _ plots => plots.fetch

-- How long the bar of a number is, beside the largest one.
def barLength (largest x : Float) : Float := if 0 < largest then larger 0 (Number.round (x / largest * barWidth)) else 0

theorem bar_part (known : isNaN hi = false) (positive : 0 < hi) (most : ¬ hi < x) :
    isNaN (x / hi) = true ∨ AtMost (x / hi) 1 := by
  rcases amount_cases (view hi) with none | ⟨s,unbounded⟩ | ⟨c,whole⟩
  · rw [isNaN_iff.mpr none] at known
    cases known
  · rcases amount_cases (view x) with none | ⟨t,endless⟩ | ⟨a,means⟩
    · exact .inl (isNaN_div (isNaN_iff.mpr none) hi)
    · exact .inl (isNaN_div_endless unbounded endless)
    · exact .inr (.inr ⟨0,div_nothing unbounded means,zero_le_one⟩)
  · have above := (lt_means means_zero whole).mp positive
    rcases amount_cases (view x) with none | ⟨t,endless⟩ | ⟨a,means⟩
    · exact .inl (isNaN_div (isNaN_iff.mpr none) hi)
    · cases t with
      | negative => exact .inr (.inl (div_lowest endless whole above))
      | positive =>
        rw [lt_view,endless,(lt_infinity_amount whole .positive).1] at most
        exact absurd rfl most
    · exact .inr (div_atMost means whole above (not_lt.mp (mt (lt_means whole means).mpr most)))

theorem larger_filled (part : isNaN x = true ∨ AtMost x (20 : ℕ)) : Filled (larger 0 x) := by
  rcases part with none | most
  · refine .inl ?_
    rwa [larger,if_neg (by simp [isNaN_means means_zero]),if_pos none]
  · exact .inr (larger_zero most (by norm_num))

theorem barLength_filled (known : isNaN hi = false) (most : ¬ hi < x) : Filled (barLength hi x) := by
  rw [barLength]
  split
  · rename_i positive
    refine larger_filled ?_
    refine (bar_part known positive most).imp (fun none => isNaN_round (isNaN_mul none _)) fun part => ?_
    have bound : Means 20 (1 * (20 : ℕ)) := (one_mul ((20 : ℕ) : ℚ)).symm ▸ means_twenty
    have scaled := mul_atMost part means_twenty (by norm_num) bound
    rw [one_mul] at scaled
    exact round_atMost (by norm_num) scaled
  · exact .inr ⟨0,means_zero,le_rfl,by norm_num⟩

theorem barLength_full (valued : Means x a) (most : Means hi a) (positive : 0 < a) : Means (barLength hi x) (20 : ℕ) := by
  have whole : Placed (x / hi) 1 False True := by
    refine (gives_div valued most positive.ne').placed (by norm_num) (div_nonneg positive.le positive.le) ?_ nofun ?_
    · rw [div_self positive.ne',Nat.cast_one]
    · intro _
      rw [div_self positive.ne',Nat.cast_one]
  obtain ⟨k,_,means,_,last⟩ := (whole.times means_twenty (by norm_num)).round (by norm_num)
  obtain rfl := last trivial
  rw [barLength,if_pos ((lt_means means_zero most).mpr positive)]
  have cells := larger_means means_zero means
  rwa [max_eq_right (Nat.cast_nonneg 20)] at cells

-- The bar of a number among others, however large these are.
structure Bar (xs : List Float) (x : Float) (n : ℕ) : Prop where
  le : n ≤ 20
  full : Accepted x → 0 < x → (∀ y ∈ xs, ¬ x < y) → n = 20

theorem barLength_larger (known : isNaN hi = false) (x : Float) : barLength (larger 0 hi) x = barLength hi x := by
  rw [larger,if_neg (by simp [isNaN_means means_zero]),if_neg (by simp [known])]
  split
  · rfl
  · rename_i narrow
    rw [barLength,barLength,if_neg narrow,if_neg (not_below_itself 0)]

theorem bar_cells (there : x ∈ xs) : Filled (barLength (largest xs) x) ∧ Bar xs x (cells (barLength (largest xs) x)) := by
  have filled := barLength_filled (isNaN_largest xs) (not_largest_lt there)
  refine ⟨filled,filled.cells_le,fun accepted positive first => ?_⟩
  obtain ⟨a,means⟩ := accepted.means
  have above : ¬ x < largest xs := by
    rcases foremost_mem (fun x y => y < x) with start | listed
    · rw [largest,start]
      exact not_lt_infinite rfl
    · exact first _ listed
  have most := means_of_neither means (isNaN_largest xs) (not_largest_lt there) above
  exact cells_means (barLength_full means most ((lt_means means_zero means).mp positive))

def barLine (label : String) (n : ℕ) (x : Float) : String :=
  Text.padEnd barLabelWidth label ++ " [" ++ Text.repeated n "=" ++ "] " ++ written x

theorem horizontalBar_line {datum : Value} {point : String × Float} (known : isNaN hi = false)
    (filled : Filled (barLength hi point.2)) (plots : Plots datum point) : (horizontalBar (larger 0 hi) datum : Ask String) =
      pure (barLine point.1 (cells (barLength hi point.2)) point.2) := by
  have drawn : (horizontalBar (larger 0 hi) datum : Ask String) = (do
      return Text.padEnd barLabelWidth point.1 ++ " [" ++ (← repeated "=" (barLength (larger 0 hi) point.2)) ++ "] " ++
        written point.2) := by
    rw [horizontalBar,plots.fetch,pure_bind,plots.label,barLength]
    split <;> rfl
  rw [drawn,barLength_larger known,filled.repeated rfl (by decide)]
  rfl

theorem barLines_bars (host : Host) {chart : Value} {data : List Value} {points : List (String × Float)}
    (charts : Charts chart data points) (horizontal : chart.get "orientation" = text "horizontal") (some : data ≠ []) :
    ∃ lines, barLines chart host = .ok lines ∧ List.Forall₂ (fun point line =>
      ∃ n, Bar (points.map (·.2)) point.2 n ∧ line = barLine point.1 n point.2) points lines := by
  have counted : (list data).fetch "length" = (pure (ofNat data.length) : Ask Value) := rfl
  have listed : listItems "data.map" (list data) = pure data := rfl
  have filled : isSame (ofNat data.length) (number 0) = false := by
    change (Float.ofNat data.length == 0) = false
    rw [ofNat_beq_zero]
    simpa using some
  have turned : isSame (chart.get "orientation") (text "horizontal") = true := by
    rw [horizontal]
    rfl
  refine ⟨points.map fun point => barLine point.1 (cells (barLength (largest (points.map (·.2))) point.2)) point.2,Ask.told ?_,?_⟩
  · rw [barLines,fetch_there charts.there,charts.held,pure_bind,counted,pure_bind,filled]
    simp only [turned,listed,values_plotted charts.plotted,extent_numbers,pure_bind]
    refine Ask.mapM_related charts.plotted fun datum point there plots => ?_
    exact horizontalBar_line (isNaN_largest _) (bar_cells (List.mem_map_of_mem there)).1 plots
  · refine List.forall₂_map_right_iff.mpr (List.forall₂_same.mpr fun point there => ?_)
    exact ⟨_,(bar_cells (List.mem_map_of_mem there)).2,rfl⟩

end Trifold.Chart
