import Trifold.Chart.Basic
import Trifold.Proofs.Number.Beyond

namespace Trifold.Chart
open Value Number

variable {x lo hi : Float} {xs : List Float} {a b : ℚ}

theorem below?_numbers (x y : Float) : (Amount.below? (.number x) (.number y) == some true) = decide (x < y) := by
  rw [Amount.below?]
  split
  · rename_i none
    have apart : ¬ x < y := fun less => by simp [isNaN_of_lt less] at none
    simp [apart]
  · simp

theorem isBelow_numbers (x y : Float) : (isBelow (number x) (number y) : Ask Bool) = pure (decide (x < y)) := by
  rw [← below?_numbers]
  rfl

theorem isAbove_numbers (x y : Float) : (isAbove (number x) (number y) : Ask Bool) = pure (decide (y < x)) := by
  rw [← below?_numbers]
  rfl

section

variable (before : Float → Float → Prop) [DecidableRel before]

-- The first by an order, of the numbers and of what was held before.
def foremost (start : Float) (xs : List Float) : Float := xs.foldl (fun held x => if before x held then x else held) start

variable {start : Float}

theorem foremost_append (xs : List Float) (x : Float) : foremost before start (xs ++ [x]) =
    if before x (foremost before start xs) then x else foremost before start xs := by
  rw [foremost,List.foldl_append]
  rfl

theorem foremost_mem : foremost before start xs = start ∨ foremost before start xs ∈ xs := by
  induction xs using List.reverseRecOn with
  | nil => exact .inl rfl
  | append_singleton xs x ih =>
    rw [foremost_append]
    split
    · exact .inr (by simp)
    · exact ih.imp_right fun there => List.mem_append_left [x] there

theorem foremost_holds {P : Float → Prop} (begun : P start) (holds : ∀ x y, before x y → P x) :
    P (foremost before start xs) := by
  induction xs using List.reverseRecOn with
  | nil => exact begun
  | append_singleton xs x ih =>
    rw [foremost_append]
    split
    · exact holds _ _ ‹_›
    · exact ih

-- Only what comes before the number that is held takes its place, so what did not come before it does not come before the
-- next one either.
theorem not_before_foremost (irrefl : ∀ x, ¬ before x x) (trans : ∀ x y z, before x y → before y z → before x z)
    (there : x ∈ xs) : ¬ before x (foremost before start xs) := by
  induction xs using List.reverseRecOn with
  | nil => cases there
  | append_singleton xs y ih =>
    rw [foremost_append]
    split
    · rename_i first
      rcases List.mem_append.mp there with there | there
      · exact fun first' => ih there (trans _ _ _ first' first)
      · cases List.mem_singleton.mp there
        exact irrefl x
    · rename_i later
      rcases List.mem_append.mp there with there | there
      · exact ih there
      · cases List.mem_singleton.mp there
        exact later

end

def least (xs : List Float) : Float := foremost (· < ·) infinity xs

def largest (xs : List Float) : Float := foremost (fun x y => y < x) (-infinity) xs

theorem extent_numbers (xs : List Float) :
    extent (xs.map number) = pure ⟨number (least xs),number (largest xs)⟩ := by
  have onward (lo hi : Float) : (xs.map number).foldlM (fun held value => do
      return { min := if ← isBelow value held.min then value else held.min,
               max := if ← isAbove value held.max then value else held.max }) ⟨number lo,number hi⟩ =
      (pure ⟨number (foremost (· < ·) lo xs),number (foremost (fun x y => y < x) hi xs)⟩ : Ask Extent) := by
    induction xs generalizing lo hi with
    | nil => rfl
    | cons x rest ih =>
      rw [List.map_cons,List.foldlM_cons,isBelow_numbers,isAbove_numbers]
      simp only [pure_bind,decide_eq_true_eq,← apply_ite number]
      exact ih _ _
  exact onward infinity (-infinity)

theorem not_lt_least (there : x ∈ xs) : ¬ x < least xs :=
  not_before_foremost (· < ·) not_below_itself (fun _ _ _ => chained) there

theorem not_largest_lt (there : x ∈ xs) : ¬ largest xs < x :=
  not_before_foremost (fun x y => y < x) not_below_itself (fun _ _ _ less less' => chained less' less) there

theorem isNaN_largest (xs : List Float) : isNaN (largest xs) = false :=
  foremost_holds _ (P := fun x => isNaN x = false) rfl fun _ _ less => (isNaN_of_lt less).2

section

variable (finite : ∀ x ∈ xs, ∃ q, Means x q) (some : xs ≠ [])
include finite some

theorem least_mem : least xs ∈ xs := by
  refine (foremost_mem _).resolve_left fun start => ?_
  obtain ⟨x,there⟩ := List.exists_mem_of_ne_nil xs some
  obtain ⟨a,means⟩ := finite x there
  refine not_lt_least there ?_
  rw [least,start,lt_view,view_infinity,(lt_infinity_amount means .positive).1]
  rfl

theorem largest_mem : largest xs ∈ xs := by
  refine (foremost_mem _).resolve_left fun start => ?_
  obtain ⟨x,there⟩ := List.exists_mem_of_ne_nil xs some
  obtain ⟨a,means⟩ := finite x there
  have unbounded : view (-infinity) = .infinity .negative := rfl
  refine not_largest_lt there ?_
  rw [largest,start,lt_view,unbounded,(lt_infinity_amount means .negative).2]
  rfl

theorem bounded_by : ∃ b c, Means (least xs) b ∧ Means (largest xs) c ∧ ∀ x ∈ xs, ∀ a, Means x a → b ≤ a ∧ a ≤ c := by
  obtain ⟨b,lowest⟩ := finite _ (least_mem finite some)
  obtain ⟨c,highest⟩ := finite _ (largest_mem finite some)
  refine ⟨b,c,lowest,highest,fun x there a means => ⟨?_,?_⟩⟩
  · exact not_lt.mp (mt (lt_means means lowest).mpr (not_lt_least there))
  · exact not_lt.mp (mt (lt_means highest means).mpr (not_largest_lt there))

end

end Trifold.Chart
