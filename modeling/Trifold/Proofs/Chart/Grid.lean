import Trifold.Proofs.Chart.Bars

namespace Trifold.Chart
open Value Number

variable {x y lo hi : Float} {xs : List Float} {a b c q : ℚ} {k : ℕ}

-- From every one of these numbers the way up to this one is a finite number.
def InReach (xs : List Float) (x : Float) : Prop := ∀ y ∈ xs, x - y < infinity

-- A finite number among others, with the smallest and the largest of them.
structure Among (xs : List Float) (x : Float) (a b c : ℚ) : Prop where
  there : x ∈ xs
  finite : ∀ y ∈ xs, ∃ q, Means y q
  valued : Means x a
  lowest : Means (least xs) b
  highest : Means (largest xs) c
  bounds : ∀ y ∈ xs, ∀ q, Means y q → b ≤ q ∧ q ≤ c

theorem among (accepted : ∀ x ∈ xs, Accepted x) (there : x ∈ xs) : ∃ a b c, Among xs x a b c := by
  have finite : ∀ x ∈ xs, ∃ q, Means x q := fun x there => (accepted x there).means
  obtain ⟨a,valued⟩ := finite x there
  obtain ⟨b,c,lowest,highest,bounds⟩ := bounded_by finite (List.ne_nil_of_mem there)
  exact ⟨a,b,c,there,finite,valued,lowest,highest,bounds⟩

namespace Among

variable (among : Among xs x a b c)
include among

theorem low : b ≤ a := (among.bounds x among.there a among.valued).1

theorem high : a ≤ c := (among.bounds x among.there a among.valued).2

theorem some : xs ≠ [] := List.ne_nil_of_mem among.there

theorem inReach_iff : InReach xs x ↔ x - least xs < infinity := by
  constructor
  · intro reach
    exact reach _ (least_mem among.finite among.some)
  · intro near y there
    obtain ⟨q,means⟩ := among.finite y there
    exact near_mono among.valued among.lowest means (among.bounds y there q means).1 near

theorem first (below : ∀ y ∈ xs, ¬ y < x) : a = b := by
  have apart := mt (lt_means among.lowest among.valued).mpr (below _ (least_mem among.finite among.some))
  exact le_antisymm (not_lt.mp apart) among.low

theorem last (above : ∀ y ∈ xs, ¬ x < y) : a = c := by
  have apart := mt (lt_means among.valued among.highest).mpr (above _ (largest_mem among.finite among.some))
  exact le_antisymm among.high (not_lt.mp apart)

theorem near_first (first : a = b) : x - least xs < infinity := by
  rw [(gives_sub among.valued among.lowest).lt_infinity,first,sub_self,settled_means means_zero]
  exact two_zpow_pos 1024

theorem wide (there : y ∈ xs) (less : y < x) : b < c := by
  obtain ⟨q,means⟩ := among.finite y there
  calc b ≤ q := (among.bounds y there q means).1
    _ < a := (lt_means means among.valued).mp less
    _ ≤ c := among.high

theorem range : 0 < largest xs - least xs ↔ b < c := sub_positive among.highest among.lowest

theorem placed {n : ℕ} (wide : b < c) (near : x - least xs < infinity) (few : n ≤ 2 ^ 53) :
    Placed ((x - least xs) / (largest xs - least xs) * Float.ofNat n) n (a = b) (a = c) :=
  (part_placed among.valued among.lowest among.highest among.high among.low wide near).times (means_ofNat few) few

theorem none (far : ¬ x - least xs < infinity) : b < c ∧ isNaN ((x - least xs) / (largest xs - least xs)) = true := by
  refine ⟨?_,part_none among.valued among.lowest among.highest among.high far⟩
  refine lt_of_le_of_ne (among.low.trans among.high) fun same => far (among.near_first ?_)
  exact le_antisymm (same ▸ among.high) among.low

end Among

-- The glyph of a point: one of the ramp, the lowest one for the smallest number and the highest one for the largest where the
-- numbers are not all equal. A number out of reach has none.
structure Glyph (xs : List Float) (x : Float) (glyph : String) : Prop where
  listed : InReach xs x → glyph ∈ ramp
  lowest : (∀ y ∈ xs, ¬ y < x) → ramp.head? = some glyph
  highest : InReach xs x → (∀ y ∈ xs, ¬ x < y) → (∃ y ∈ xs, y < x) → ramp.getLast? = some glyph
  beyond : ¬ InReach xs x → glyph = ""

def glyphOf (lo hi x : Float) : String :=
  if 0 < hi - lo then
    rampGlyph (smaller (truncate ((x - lo) / (hi - lo) * Float.ofNat ramp.length)) (Float.ofNat (ramp.length - 1)))
  else rampGlyph 0

theorem sparkGlyph_numbers (lo hi x : Float) :
    (sparkGlyph (number lo) (number (hi - lo)) (number x) : Ask String) = pure (glyphOf lo hi x) := by
  rw [sparkGlyph,isAbove_numbers,pure_bind,glyphOf]
  by_cases positive : 0 < hi - lo <;> simp only [positive] <;> rfl

theorem rampGlyph_means (means : Means x k) : rampGlyph x = (ramp[k]?).getD "" := by
  have whole : cut k = k := by rw [cut,if_pos (Nat.cast_nonneg k),Int.floor_natCast]
  rw [rampGlyph,truncated?_means means,whole]
  exact if_neg (not_lt.mpr (Int.natCast_nonneg k))

theorem rampGlyph_nan (none : isNaN x = true) : rampGlyph x = "" := by
  have whole : truncated? x = Option.none := by rw [truncated?,exact_view,isNaN_iff.mp none]
  rw [rampGlyph,whole]

theorem ramp_listed {n : ℕ} (inside : n < ramp.length) : (ramp[n]?).getD "" ∈ ramp := by
  rw [List.getElem?_eq_getElem inside,Option.getD_some]
  exact List.getElem_mem inside

theorem glyphOf_stepped {P Q : Prop} (positive : 0 < hi - lo)
    (stepped : Stepped (truncate ((x - lo) / (hi - lo) * Float.ofNat ramp.length)) ramp.length P Q) :
    ∃ k ≤ ramp.length, glyphOf lo hi x = (ramp[min k 7]?).getD "" ∧ (P → k = 0) ∧ (Q → k = ramp.length) := by
  obtain ⟨k,few,means,first,last⟩ := stepped
  have seven : Means (Float.ofNat (ramp.length - 1)) (7 : ℕ) := means_ofNat (by decide)
  have index := smaller_means means seven
  rw [← Nat.cast_min] at index
  refine ⟨k,few,?_,first,last⟩
  rw [glyphOf,if_pos positive,rampGlyph_means index]

theorem glyph (accepted : ∀ x ∈ xs, Accepted x) (there : x ∈ xs) : Glyph xs x (glyphOf (least xs) (largest xs) x) := by
  obtain ⟨a,b,c,among⟩ := among accepted there
  by_cases near : x - least xs < infinity
  · have reach := among.inReach_iff.mpr near
    by_cases wide : b < c
    · obtain ⟨k,few,drawn,first,last⟩ := glyphOf_stepped (among.range.mpr wide)
        ((among.placed (n := ramp.length) wide near (by decide)).truncate (by decide))
      rw [drawn]
      have inside : min k 7 < ramp.length := (min_le_right k 7).trans_lt (by decide)
      refine ⟨fun _ => ramp_listed inside,fun below => ?_,fun _ above _ => ?_,fun far => absurd reach far⟩
      · rw [first (among.first below)]
        rfl
      · rw [last (among.last above)]
        rfl
    · rw [glyphOf,if_neg (mt among.range.mp wide),rampGlyph_means means_zero]
      refine ⟨fun _ => ramp_listed (by decide),fun _ => rfl,fun _ _ less => ?_,fun far => absurd reach far⟩
      obtain ⟨y,there,less⟩ := less
      exact absurd (among.wide there less) wide
  · have far := mt among.inReach_iff.mp near
    obtain ⟨wide,none⟩ := among.none near
    have nothing : glyphOf (least xs) (largest xs) x = "" := by
      have index := isNaN_truncate (isNaN_mul none (Float.ofNat ramp.length))
      rw [glyphOf,if_pos (among.range.mpr wide),smaller,if_pos index,rampGlyph_nan index]
    rw [nothing]
    refine ⟨fun reach => absurd reach far,fun below => ?_,fun reach => absurd reach far,fun _ => rfl⟩
    exact absurd (among.near_first (among.first below)) near

theorem not_few {n : ℕ} (two : 2 ≤ n) : ¬ Float.ofNat n < 2 := by
  have least : 2 ≤ settled n := by
    rw [← settled_means means_two]
    exact settled_mono (by exact_mod_cast two)
  rcases gives_ofNat n with means | ⟨s,unbounded,large⟩
  · rw [lt_means means means_two]
    exact not_lt.mpr least
  · obtain rfl := beyond_positive (Nat.cast_nonneg n) large
    rw [lt_view,unbounded,(lt_infinity_amount means_two .positive).2]
    exact Bool.false_ne_true

theorem numbers_related (xs : List Float) : List.Forall₂ (fun value x => value = number x) (xs.map number) xs :=
  List.forall₂_map_left_iff.mpr (List.forall₂_same.mpr fun _ _ => rfl)

theorem sparklineText_numbers (xs : List Float) : (sparklineText (list (xs.map number)) : Ask String) =
    pure (if Float.ofNat xs.length < 2 then "" else String.join (xs.map (glyphOf (least xs) (largest xs)))) := by
  have counted : (list (xs.map number)).fetch "length" = (pure (ofNat (xs.map number).length) : Ask Value) := rfl
  have points : items (list (xs.map number)) = pure (xs.map number) := rfl
  have listed : listItems "data.map" (list (xs.map number)) = pure (xs.map number) := rfl
  have range (lo hi : Float) : difference (number hi) (number lo) = pure (number (hi - lo)) := rfl
  have drawn : ((xs.map number).mapM (sparkGlyph (number (least xs)) (number (largest xs - least xs))) : Ask (List String)) =
      pure (xs.map (glyphOf (least xs) (largest xs))) :=
    Ask.mapM_related (numbers_related xs) fun value x _ same => by rw [same,sparkGlyph_numbers]
  rw [sparklineText,counted,pure_bind,ofNat,isBelow_numbers,pure_bind,points,List.length_map]
  by_cases few : Float.ofNat xs.length < 2
  · simp only [few]
    rfl
  · simp only [few,pure_bind,extent_numbers,range,listed,drawn]
    rfl

theorem sparklineText_glyphs (host : Host) (accepted : ∀ x ∈ xs, Accepted x) (two : 2 ≤ xs.length) :
    ∃ glyphs, sparklineText (list (xs.map number)) host = .ok (String.join glyphs) ∧ List.Forall₂ (Glyph xs) xs glyphs := by
  have drawn := sparklineText_numbers xs
  rw [if_neg (not_few two)] at drawn
  refine ⟨_,Ask.told drawn,?_⟩
  exact List.forall₂_map_right_iff.mpr (List.forall₂_same.mpr fun x there => glyph accepted there)

def levelOf (lo hi x : Float) : Float :=
  if 0 < hi - lo then Number.round ((x - lo) / (hi - lo) * Float.ofNat (lineHeight - 1)) else 0

theorem lineLevel_numbers (lo hi x : Float) :
    (lineLevel (number lo) (number (hi - lo)) (number x) : Ask Float) = pure (levelOf lo hi x) := by
  rw [lineLevel,isAbove_numbers,pure_bind,levelOf]
  by_cases positive : 0 < hi - lo <;> simp only [positive] <;> rfl

theorem level_step (accepted : ∀ x ∈ xs, Accepted x) (there : x ∈ xs) (reach : InReach xs x) :
    ∃ k < lineHeight, Means (levelOf (least xs) (largest xs) x) (k : ℕ) := by
  obtain ⟨a,b,c,among⟩ := among accepted there
  by_cases wide : b < c
  · have placed := among.placed (n := lineHeight - 1) wide (among.inReach_iff.mp reach) (by decide)
    obtain ⟨k,few,means,_⟩ := placed.round (by decide)
    refine ⟨k,Nat.lt_of_le_sub_one (by decide) few,?_⟩
    rwa [levelOf,if_pos (among.range.mpr wide)]
  · refine ⟨0,by decide,?_⟩
    rw [levelOf,if_neg (mt among.range.mp wide),Nat.cast_zero]
    exact means_zero

theorem level_none (accepted : ∀ x ∈ xs, Accepted x) (there : x ∈ xs) (far : ¬ InReach xs x) :
    isNaN (levelOf (least xs) (largest xs) x) = true := by
  obtain ⟨a,b,c,among⟩ := among accepted there
  obtain ⟨wide,none⟩ := among.none (mt among.inReach_iff.mpr far)
  rw [levelOf,if_pos (among.range.mpr wide)]
  exact isNaN_round (isNaN_mul none _)

def levels (xs : List Float) : List Float := xs.map (levelOf (least xs) (largest xs))

def plotRows (mark : String) (levels : List Float) : List (List String) :=
  (fromTop lineHeight).map fun y => levels.map fun level => if level == Float.ofNat y then mark else " "

-- In how many rows a column is marked.
def marked (rows : List (List String)) (mark : String) (i : ℕ) : ℕ := rows.countP fun row => row[i]? == some mark

theorem marked_plotRows {mark : String} {levels : List Float} {level : Float} {i : ℕ} (plain : mark ≠ " ")
    (here : levels[i]? = some level) :
    marked (plotRows mark levels) mark i = (fromTop lineHeight).countP fun y => level == Float.ofNat y := by
  rw [marked,plotRows,List.countP_map]
  refine List.countP_congr fun y _ => ?_
  simp only [Function.comp_apply,List.getElem?_map,here,Option.map_some]
  cases level == Float.ofNat y <;> simp [plain.symm]

theorem beq_nan (none : isNaN x = true) (y : Float) : (x == y) = false := by
  rw [Bool.eq_false_iff]
  intro same
  exact (beq_unpacked.mp same).1 (isNaN_iff.mp none)

theorem once_from_top (inside : k < lineHeight) (means : Means x k) :
    ((fromTop lineHeight).countP fun y => x == Float.ofNat y) = 1 := by
  have there : k ∈ fromTop lineHeight := by simpa [fromTop] using inside
  have distinct : (fromTop lineHeight).Nodup := by decide
  rw [← List.count_eq_one_of_mem distinct there,List.count]
  refine List.countP_congr fun y listed => ?_
  have small : y < lineHeight := by simpa [fromTop] using listed
  have few : y ≤ 2 ^ 53 := small.le.trans (by decide)
  rw [beq_means means (means_ofNat few),Nat.cast_inj,beq_iff_eq]
  exact eq_comm

-- The plot of numbers: five rows with a cell for each of them, which is marked in exactly one row, or in none if the number is
-- out of reach.
structure Plot (xs : List Float) (mark : String) (rows : List (List String)) : Prop where
  five : rows.length = 5
  cells : ∀ row ∈ rows, row.length = xs.length ∧ ∀ cell ∈ row, cell = mark ∨ cell = " "
  once : ∀ i x, xs[i]? = some x → InReach xs x → marked rows mark i = 1
  beyond : ∀ i x, xs[i]? = some x → ¬ InReach xs x → marked rows mark i = 0

theorem plot {mark : String} (plain : mark ≠ " ") (accepted : ∀ x ∈ xs, Accepted x) :
    Plot xs mark (plotRows mark (levels xs)) := by
  have here {i : ℕ} {x : Float} (listed : xs[i]? = some x) : (levels xs)[i]? = some (levelOf (least xs) (largest xs) x) := by
    rw [levels,List.getElem?_map,listed,Option.map_some]
  refine ⟨rfl,fun row there => ?_,fun i x listed reach => ?_,fun i x listed far => ?_⟩
  · obtain ⟨y,_,rfl⟩ := List.mem_map.mp there
    refine ⟨by simp [levels],fun cell there => ?_⟩
    obtain ⟨level,_,rfl⟩ := List.mem_map.mp there
    split
    · exact .inl rfl
    · exact .inr rfl
  · obtain ⟨k,inside,means⟩ := level_step accepted (List.mem_of_getElem? listed) reach
    rw [marked_plotRows plain (here listed),once_from_top inside means]
  · have none := level_none accepted (List.mem_of_getElem? listed) far
    rw [marked_plotRows plain (here listed),List.countP_eq_zero]
    intro y _
    rw [beq_nan none]
    exact Bool.false_ne_true

def axisText (label : String) : String := Text.padEnd 4 (String.ofList (Text.takeUnits 3 label.toList))

def markOf (chart : Value) : String := if (chart.get "showDots").isTrue then "o" else "*"

def plotText (rows : List (List String)) (labels : List String) : String :=
  "\n".intercalate (rows.map String.join) ++ "\n" ++ String.join (labels.map axisText)

theorem lineText_numbers {chart : Value} {data : List Value} {points : List (String × Float)}
    (charts : Charts chart data points) : (lineText chart : Ask String) = pure (if Float.ofNat data.length < 2 then noData
      else plotText (plotRows (markOf chart) (levels (points.map (·.2)))) (points.map (·.1))) := by
  have counted : (list data).fetch "length" = (pure (ofNat data.length) : Ask Value) := rfl
  have listed : listItems "data.map" (list data) = pure data := rfl
  have range (lo hi : Float) : difference (number hi) (number lo) = pure (number (hi - lo)) := rfl
  have leveled (xs : List Float) : ((xs.map number).mapM (lineLevel (number (least xs)) (number (largest xs - least xs))) :
      Ask (List Float)) = pure (levels xs) :=
    Ask.mapM_related (numbers_related xs) fun value x _ same => by rw [same,lineLevel_numbers]
  have labels : (data.mapM axisLabel : Ask (List String)) = pure ((points.map (·.1)).map axisText) := by
    rw [List.map_map]
    refine Ask.mapM_related charts.plotted fun datum point _ plots => ?_
    rw [axisLabel,fetch_there plots.there,plots.label]
    rfl
  rw [lineText,fetch_there charts.there,charts.held,pure_bind,counted,pure_bind,ofNat,isBelow_numbers,pure_bind]
  by_cases few : Float.ofNat data.length < 2
  · simp only [few]
    rfl
  · simp only [few,pure_bind,listed,values_plotted charts.plotted,extent_numbers,range,leveled,labels]
    rw [plotText,plotRows,List.map_map]
    rfl

theorem lineText_plot (host : Host) {chart : Value} {data : List Value} {points : List (String × Float)}
    (charts : Charts chart data points) (accepted : ∀ point ∈ points, Accepted point.2) (two : 2 ≤ data.length) :
    ∃ rows, Plot (points.map (·.2)) (markOf chart) rows ∧ lineText chart host = .ok (plotText rows (points.map (·.1))) := by
  have drawn := lineText_numbers charts
  rw [if_neg (not_few two)] at drawn
  have plain : markOf chart ≠ " " := by
    rw [markOf]
    split <;> decide
  exact ⟨_,plot plain (List.forall_mem_map.mpr accepted),Ask.told drawn⟩

-- Charts fill their grid as far as the way up to a value is a finite number, and not beyond.
theorem charts_filled (host : Host) :
    (∀ gauge label x min max, Gauges gauge label x min max → Accepted x → Accepted min → Accepted max →
      ∃ full blank, GaugeBar x min max full blank ∧
        gaugeText gauge host = .ok (lead label ++ bar full blank ++ " " ++ written x ++ "/" ++ written max)) ∧
    (∀ xs : List Float, (∀ x ∈ xs, Accepted x) → 2 ≤ xs.length →
      ∃ glyphs, sparklineText (list (xs.map number)) host = .ok (String.join glyphs) ∧ List.Forall₂ (Glyph xs) xs glyphs) ∧
    (∀ chart data points, Charts chart data points → (∀ point ∈ points, Accepted point.2) → 2 ≤ data.length →
      ∃ rows, Plot (points.map (·.2)) (markOf chart) rows ∧ lineText chart host = .ok (plotText rows (points.map (·.1)))) ∧
    (∀ chart data points, Charts chart data points → chart.get "orientation" = text "horizontal" → data ≠ [] →
      ∃ lines, barLines chart host = .ok lines ∧ List.Forall₂ (fun point line =>
        ∃ n, Bar (points.map (·.2)) point.2 n ∧ line = barLine point.1 n point.2) points lines) :=
  ⟨fun _ _ _ _ _ gauges => gaugeText_bar gauges host,fun _ => sparklineText_glyphs host,fun _ _ _ => lineText_plot host,
    fun _ _ _ => barLines_bars host⟩

theorem accepted_of_finite (finite : isFinite x = true) : Accepted x := by
  rw [Accepted,Attributes.finite?,number?,Option.filter_some,if_pos finite]

def dial : Value := object [("label",text "CPU"),("value",number 25),("min",number 0),("max",number 100)]

def sales : List (String × Float) := [("Jan",3),("Feb",1)]

def salesData : List Value := [object [("label",text "Jan"),("value",number 3)],object [("label",text "Feb"),("value",number 1)]]

def salesChart : Value := object [("data",list salesData),("orientation",text "horizontal")]

theorem salesChart_charts : Charts salesChart salesData sales :=
  ⟨rfl,rfl,.cons ⟨rfl,rfl,rfl⟩ (.cons ⟨rfl,rfl,rfl⟩ .nil)⟩

theorem charts_filled_sales :
    (∃ full blank, GaugeBar 25 0 100 full blank ∧
      gaugeText dial .silent = .ok (lead (some "CPU") ++ bar full blank ++ " " ++ written 25 ++ "/" ++ written 100)) ∧
    (∃ glyphs, sparklineText (list [number 3,number 1]) .silent = .ok (String.join glyphs) ∧ List.Forall₂ (Glyph [3,1]) [3,1] glyphs) ∧
    (∃ rows, Plot [3,1] "*" rows ∧ lineText salesChart .silent = .ok (plotText rows ["Jan","Feb"])) ∧
    ∃ lines, barLines salesChart .silent = .ok lines ∧
      List.Forall₂ (fun point line => ∃ n, Bar [3,1] point.2 n ∧ line = barLine point.1 n point.2) sales lines := by
  have accepted : ∀ x ∈ [3,1], Accepted x :=
    List.forall_mem_cons.mpr ⟨accepted_of_finite (by decide +kernel),
      List.forall_mem_singleton.mpr (accepted_of_finite (by decide +kernel))⟩
  obtain ⟨gauge,sparkline,line,bars⟩ := charts_filled .silent
  refine ⟨?_,sparkline [3,1] accepted (by decide),?_,bars _ _ _ salesChart_charts rfl (by decide)⟩
  · exact gauge dial (some "CPU") 25 0 100 ⟨rfl,rfl,rfl,rfl,rfl⟩ (accepted_of_finite (by decide +kernel))
      (accepted_of_finite (by decide +kernel)) (accepted_of_finite (by decide +kernel))
  · exact line _ _ _ salesChart_charts (List.forall_mem_map.mp accepted) (by decide)

-- Of two numbers that lie further apart than the largest number the first has a glyph, and the other one has none.
theorem sparklineText_apart (host : Host) (low : Accepted lo) (high : Accepted hi) (less : lo < hi) (far : ¬ hi - lo < infinity) :
    sparklineText (list [number lo,number hi]) host = .ok "_" := by
  have accepted : ∀ x ∈ [lo,hi], Accepted x := List.forall_mem_cons.mpr ⟨low,List.forall_mem_singleton.mpr high⟩
  obtain ⟨glyphs,drawn,each⟩ := sparklineText_glyphs host accepted le_rfl
  cases each with
  | cons first rest => cases rest with
    | cons second none =>
      cases none
      have lowest : ∀ y ∈ [lo,hi], ¬ y < lo := List.forall_mem_cons.mpr
        ⟨not_below_itself lo,List.forall_mem_singleton.mpr fun more => not_below_itself lo (chained less more)⟩
      have beyond : ¬ InReach [lo,hi] hi := fun reach => far (reach lo List.mem_cons_self)
      refine drawn.trans ?_
      rw [second.beyond beyond,← Option.some.inj (first.lowest lowest)]
      rfl

theorem sparkline_short : (∀ x ∈ [-1.7e308,1.7e308], Accepted x) ∧ ¬ ∃ glyphs,
    sparklineText (list ([-1.7e308,1.7e308].map number)) .silent = .ok (String.join glyphs) ∧ glyphs.length = 2 ∧
      ∀ glyph ∈ glyphs, glyph ∈ ramp := by
  have low : Accepted (-1.7e308) := accepted_of_finite (by decide +kernel)
  have high : Accepted 1.7e308 := accepted_of_finite (by decide +kernel)
  refine ⟨List.forall_mem_cons.mpr ⟨low,List.forall_mem_singleton.mpr high⟩,?_⟩
  rintro ⟨glyphs,drawn,two,listed⟩
  obtain ⟨first,second,rfl⟩ := List.length_eq_two.mp two
  have apart : ∀ first ∈ ramp, ∀ second ∈ ramp, "_" ≠ String.join [first,second] := by decide
  have short : sparklineText (list [number (-1.7e308),number 1.7e308]) .silent = .ok "_" :=
    sparklineText_apart .silent low high (by decide +kernel) (by decide +kernel)
  exact apart first (listed _ (by simp)) second (listed _ (by simp)) (Except.ok.inj (short.symm.trans drawn))

end Trifold.Chart
