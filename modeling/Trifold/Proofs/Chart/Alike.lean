import Trifold.Chart.Basic
import Trifold.Proofs.Value.Numeric

namespace Trifold.Chart
open Value Agree
open List (Forall₂)

variable {level : Value → Value → Prop} {host : Host}

theorem filled_same {value value' min min' max max' : Float} (values : Number.same value value' = true)
    (mins : Number.same min min' = true) (maxs : Number.same max max' = true) :
    filled value min max = filled value' min' max' := by
  have clamped := Number.same_smaller (Number.same_larger values mins) maxs
  have range := Number.same_sub maxs mins
  have above := Number.lt_same (Number.same_refl 0) range
  refine Number.round_same (Number.same_mul ?_ (Number.same_refl gaugeWidth))
  by_cases positive : 0 < max - min
  · rw [if_pos positive,if_pos (above.mp positive),Number.eq_of_positive range positive]
    exact Number.same_div _ (Number.same_sub clamped mins)
  · rw [if_neg positive,if_neg (positive ∘ above.mpr)]
    exact Number.same_refl 0

theorem gaugeFill_alike {value value' min min' max max' : Value} (values : Alike level value value')
    (mins : Alike level min min') (maxs : Alike level max max') : gaugeFill value min max = gaugeFill value' min' max' := by
  funext host
  refine (Outcome.bind (toNumber_alike values) ?_).eq
  intro x x' first
  refine Outcome.bind (toNumber_alike mins) ?_
  intro y y' second
  refine Outcome.bind (toNumber_alike maxs) ?_
  intro z z' third
  exact .ok (filled_same first second third)

theorem gaugeText_alike {a b : Value} (alike : Alike level a b) (there : a.isMissing = false) :
    gaugeText a = gaugeText b := by
  have there' := alike.isMissing.symm.trans there
  have value := alike.get "value"
  have max := alike.get "max"
  unfold gaugeText
  rw [fetch_there there,fetch_there there']
  simp only [pure_bind,gaugeFill_alike value (alike.get "min") max,(alike.get "label").isAbsent,
    (alike.get "label").shown,value.shown,max.shown]

structure Extent.Matched (level : Value → Value → Prop) (left right : Extent) : Prop where
  min : Alike level left.min right.min
  max : Alike level left.max right.max

theorem extent_alike {values values' : List Value} (items : Forall₂ (Alike level) values values') :
    Outcome (Extent.Matched level) (extent values host) (extent values' host) := by
  refine Outcome.foldlM (S := Extent.Matched level) items ⟨.flat rfl,.flat rfl⟩ ?_
  intro held held' value value' extents values
  rw [isBelow_alike values extents.min,isAbove_alike values extents.max]
  refine Outcome.bind_same fun below _ => Outcome.bind_same fun above _ => .ok ⟨?_,?_⟩
  · cases below
    · exact extents.min
    · exact values
  · cases above
    · exact extents.max
    · exact values

theorem onScale_alike {least least' range range' value value' : Value} (leasts : Alike level least least')
    (divisor : toAmount range = toAmount range') (values : Alike level value value') (steps : Nat) :
    Outcome (fun x y => Number.same x y = true) (onScale least range value (ofNat steps) host)
      (onScale least' range' value' (ofNat steps) host) := by
  refine Outcome.bind (difference_alike values leasts) ?_
  intro above above' offset
  refine Outcome.bind (quotient_alike offset divisor) ?_
  intro part part' parts
  refine Outcome.bind (product_alike parts (.flat rfl)) ?_
  intro place place' places
  exact toNumber_alike places

section

variable {least least' range range' value value' : Value} (leasts : Alike level least least')
  (ranges : Alike level range range') (values : Alike level value value')

include ranges in
-- Only a range above zero is divided by.
theorem positive_alike : isAbove range (number 0) = isAbove range' (number 0) ∧
    (isAbove range' (number 0) host = .ok true → toAmount range = toAmount range') := by
  have equal := isAbove_alike ranges (b := number 0) (.flat rfl)
  exact ⟨equal,fun above => toAmount_positive ranges (equal ▸ above)⟩

include leasts ranges values

theorem sparkGlyph_alike :
    Outcome (· = ·) (sparkGlyph least range value host) (sparkGlyph least' range' value' host) := by
  obtain ⟨asked,divisor⟩ := @positive_alike _ host _ _ ranges
  unfold sparkGlyph
  rw [asked]
  refine Outcome.bind_same ?_
  intro above told
  cases above with
  | false => exact .ok rfl
  | true =>
    refine Outcome.bind (onScale_alike leasts (divisor told) values _) ?_
    intro place place' places
    rw [Number.truncate_same places]
    exact .ok rfl

theorem lineLevel_alike :
    Outcome (· = ·) (lineLevel least range value host) (lineLevel least' range' value' host) := by
  obtain ⟨asked,divisor⟩ := @positive_alike _ host _ _ ranges
  unfold lineLevel
  rw [asked]
  refine Outcome.bind_same ?_
  intro above told
  cases above with
  | false => exact .ok rfl
  | true =>
    refine Outcome.bind (onScale_alike leasts (divisor told) values _) ?_
    intro place place' places
    exact .ok (Number.round_same places)

end

theorem sparklineText_alike {data data' : Value} (alike : Alike level data data') :
    sparklineText data = sparklineText data' := by
  funext host
  refine (Outcome.bind (alike.fetch "length" host) ?_).eq
  intro counted counted' counts
  rw [isBelow_alike counts (.flat rfl)]
  refine Outcome.bind_same ?_
  intro few _
  cases few with
  | true => exact .ok rfl
  | false =>
    refine Outcome.bind (alike.itemsOf "value" host) ?_
    intro values values' points
    refine Outcome.bind (extent_alike points) ?_
    intro held held' extents
    refine Outcome.bind (difference_alike extents.max extents.min) ?_
    intro range range' ranges
    refine Outcome.bind (alike.listItems "data.map" host) ?_
    intro values values' points
    refine Outcome.bind (Outcome.mapM_same points fun _ _ => sparkGlyph_alike extents.min ranges) ?_
    intro glyphs _ same
    subst same
    exact .ok rfl

section

variable {largest largest' : Float} (larger : Number.same largest largest' = true)
include larger

theorem positive_same : (0 < largest ↔ 0 < largest') ∧ (0 < largest → largest = largest') :=
  ⟨Number.lt_same (Number.same_refl 0) larger,Number.eq_of_positive larger⟩

theorem horizontalBar_alike {datum datum' : Value} (alike : Alike level datum datum') :
    Outcome (· = ·) (horizontalBar largest datum host) (horizontalBar largest' datum' host) := by
  refine Outcome.bind (alike.fetch "value" host) ?_
  intro value value' values
  rw [(alike.get "label").textOf,values.shown]
  by_cases positive : 0 < largest
  · rw [if_pos positive,if_pos ((positive_same larger).1.mp positive),← (positive_same larger).2 positive]
    refine Outcome.bind (quotient_alike values rfl) ?_
    intro part part' parts
    refine Outcome.bind (product_alike parts (.flat rfl)) ?_
    intro part part' parts
    refine Outcome.bind (toNumber_alike parts) ?_
    intro x y same
    rw [Number.round_same same]
    exact Outcome.of_eq rfl
  · rw [if_neg positive,if_neg (positive ∘ (positive_same larger).1.mpr)]
    exact Outcome.of_eq rfl

theorem verticalCell_alike {threshold threshold' : Float} (thresholds : Number.same threshold threshold' = true)
    {datum datum' : Value} (alike : Alike level datum datum') :
    Outcome (· = ·) (verticalCell largest threshold datum host) (verticalCell largest' threshold' datum' host) := by
  refine Outcome.bind (alike.fetch "value" host) ?_
  intro value value' values
  simp only [(positive_same larger).1,isAtLeast_alike values (.number thresholds)]
  exact Outcome.of_eq rfl

theorem verticalRow_alike {shown shown' : List Value} (items : Forall₂ (Alike level) shown shown') (row : Nat) :
    Outcome (· = ·) (verticalRow largest shown row host) (verticalRow largest' shown' row host) := by
  have threshold := Number.same_div (Float.ofNat verticalLevels) (Number.same_mul (Number.same_refl (Float.ofNat row)) larger)
  refine Outcome.bind (Outcome.mapM_same items fun _ _ => verticalCell_alike larger threshold) ?_
  intro cells _ same
  subst same
  exact .ok rfl

end

theorem barLines_alike {a b : Value} (alike : Alike level a b) :
    Outcome (· = ·) (barLines a host) (barLines b host) := by
  refine Outcome.bind (alike.fetch "data" host) ?_
  intro data data' sources
  refine Outcome.bind (sources.fetch "length" host) ?_
  intro counted counted' counts
  rw [counts.isSame_number,(alike.get "orientation").isSame_text]
  split
  · exact .ok rfl
  · refine Outcome.bind (sources.listItems "data.map" host) ?_
    intro data data' points
    refine Outcome.bind (Outcome.mapM points fun _ _ point => point.fetch "value" host) ?_
    intro values values' numbers
    refine Outcome.bind (extent_alike numbers) ?_
    intro held held' extents
    refine Outcome.bind (toNumber_alike extents.max) ?_
    intro most most' mosts
    have larger := Number.same_larger (Number.same_refl 0) mosts
    split
    · exact Outcome.mapM_same points fun _ _ => horizontalBar_alike larger
    · have shown := List.forall₂_take maxVerticalBars points
      refine Outcome.bind (Outcome.mapM_same (R := (· = ·)) (List.forall₂_refl _) ?_) ?_
      · intro row _ same
        subst same
        exact verticalRow_alike larger shown _
      · intro rows _ same
        subst same
        rw [Agree.map_eq shown fun _ _ _ => rfl]
        exact .ok rfl

theorem barText_alike {a b : Value} (alike : Alike level a b) : barText a = barText b := by
  funext host
  refine (Outcome.bind (barLines_alike alike) ?_).eq
  intro lines _ same
  subst same
  exact .ok rfl

theorem axisLabel_alike {datum datum' : Value} (alike : Alike level datum datum') :
    Outcome (· = ·) (axisLabel datum host) (axisLabel datum' host) := by
  refine Outcome.bind (alike.fetch "label" host) ?_
  intro label label' labels
  rw [labels.textOf]
  exact Outcome.of_eq rfl

theorem lineText_alike {a b : Value} (alike : Alike level a b) : lineText a = lineText b := by
  funext host
  refine (Outcome.bind (alike.fetch "data" host) ?_).eq
  intro data data' sources
  refine Outcome.bind (sources.fetch "length" host) ?_
  intro counted counted' counts
  rw [isBelow_alike counts (.flat rfl),(alike.get "showDots").isTrue]
  refine Outcome.bind_same ?_
  intro few _
  cases few with
  | true => exact .ok rfl
  | false =>
    refine Outcome.bind (sources.listItems "data.map" host) ?_
    intro data data' points
    refine Outcome.bind (Outcome.mapM points fun _ _ point => point.fetch "value" host) ?_
    intro values values' numbers
    refine Outcome.bind (extent_alike numbers) ?_
    intro held held' extents
    refine Outcome.bind (difference_alike extents.max extents.min) ?_
    intro range range' ranges
    refine Outcome.bind (Outcome.mapM_same numbers fun _ _ => lineLevel_alike extents.min ranges) ?_
    intro levels _ same
    subst same
    refine Outcome.bind (Outcome.mapM_same points fun _ _ => axisLabel_alike) ?_
    intro labels _ same
    subst same
    exact .ok rfl

end Trifold.Chart
