import Trifold.Proofs.Number.Beyond

namespace Trifold.Number
open Float.Model UnpackedFloat

variable {x y z lo hi : Float} {a b c q : ℚ} {n : ℕ} {first last : Prop}

def Placed (y : Float) (n : ℕ) (first last : Prop) : Prop :=
  ∃ q, Means y q ∧ 0 ≤ q ∧ q ≤ n ∧ (first → q = 0) ∧ (last → q = n)

-- The same on a whole step.
def Stepped (y : Float) (n : ℕ) (first last : Prop) : Prop :=
  ∃ k ≤ n, Means y (k : ℕ) ∧ (first → k = 0) ∧ (last → k = n)

theorem Gives.placed (gives : Gives y q) (few : n ≤ 2 ^ 53) (nonneg : 0 ≤ q) (le : q ≤ n) (low : first → q = 0)
    (high : last → q = n) : Placed y n first last := by
  obtain ⟨r,means,above,below⟩ := gives.bounded (means_ofNat few) nonneg le
  obtain rfl := gives.amount means
  refine ⟨_,means,above,below,fun here => ?_,fun here => ?_⟩
  · rw [low here,settled_means means_zero]
  · rw [high here,settled_count few]

theorem Placed.times (placed : Placed y 1 first last) (steps : Means z n) (few : n ≤ 2 ^ 53) :
    Placed (y * z) n first last := by
  obtain ⟨q,means,nonneg,le,low,high⟩ := placed
  rw [Nat.cast_one] at le high
  have size : (0 : ℚ) ≤ n := Nat.cast_nonneg n
  refine (gives_mul means steps).placed few (mul_nonneg nonneg size) (mul_le_of_le_one_left size le) ?_ ?_
  · intro here
    rw [low here,zero_mul]
  · intro here
    rw [high here,one_mul]

section

variable (placed : Placed y n first last) (few : n ≤ 2 ^ 53)
include placed few

theorem Placed.round : Stepped (round y) n first last := by
  obtain ⟨q,means,nonneg,le,low,high⟩ := placed
  have half : ⌊(1 / 2 : ℚ)⌋ = 0 := by norm_num
  obtain ⟨k,whole⟩ := Int.eq_ofNat_of_zero_le (Int.floor_nonneg.mpr (by linarith : 0 ≤ q + 1 / 2))
  have most : ⌊q + 1 / 2⌋ < (n : ℤ) + 1 := Int.floor_lt.mpr (by push_cast; linarith)
  refine ⟨k,by omega,?_,fun here => ?_,fun here => ?_⟩
  · rw [Number.round,rounded?_means means,whole]
    exact means_ofInt (by omega)
  · rw [low here,zero_add,half] at whole
    omega
  · rw [high here,Int.floor_natCast_add,half] at whole
    omega

theorem Placed.truncate : Stepped (truncate y) n first last := by
  obtain ⟨q,means,nonneg,le,low,high⟩ := placed
  obtain ⟨k,whole⟩ := Int.eq_ofNat_of_zero_le (Int.floor_nonneg.mpr nonneg)
  have most : ⌊q⌋ < (n : ℤ) + 1 := Int.floor_lt.mpr (by push_cast; linarith)
  refine ⟨k,by omega,?_,fun here => ?_,fun here => ?_⟩
  · rw [Number.truncate,truncated?_means means,cut,if_pos nonneg,whole]
    exact means_ofInt (by omega)
  · rw [low here,Int.floor_zero] at whole
    omega
  · rw [high here,Int.floor_natCast] at whole
    omega

end

theorem isNaN_truncate (none : isNaN x = true) : isNaN (truncate x) = true := by
  have whole : truncated? x = Option.none := by rw [truncated?,exact_view,isNaN_iff.mp none]
  simpa [truncate,whole] using none

-- A part of a range: the way up to a number over the way up to the largest.
section

variable (valued : Means x a) (least : Means lo b) (most : Means hi c) (high : a ≤ c)
include valued least most high

theorem part_placed (low : b ≤ a) (wide : b < c) (near : x - lo < infinity) :
    Placed ((x - lo) / (hi - lo)) 1 (a = b) (a = c) := by
  have part := gives_sub valued least
  have whole := gives_sub most least
  have nonneg := settled_nonneg (sub_nonneg.mpr low)
  have below : settled (a - b) ≤ settled (c - b) := settled_mono (sub_le_sub_right high b)
  have small := part.lt_infinity.mp near
  have short := part.means (by rwa [abs_of_nonneg nonneg])
  by_cases room : settled (c - b) < 2 ^ (1024 : ℤ)
  · have long := whole.means (by rwa [abs_of_nonneg (nonneg.trans below)])
    have above : 0 < settled (c - b) := (lt_means means_zero long).mp ((sub_positive most least).mpr wide)
    refine (gives_div short long above.ne').placed (by norm_num) (div_nonneg nonneg above.le) ?_ ?_ ?_
    · rw [Nat.cast_one]
      exact (div_le_one above).mpr below
    · rintro rfl
      rw [sub_self,settled_means means_zero,zero_div]
    · rintro rfl
      rw [div_self above.ne',Nat.cast_one]
  · have unbounded := whole.unbounded (not_lt.mp room)
    refine ⟨0,div_nothing unbounded short,le_rfl,by norm_num,fun _ => rfl,?_⟩
    rintro rfl
    exact absurd small room

theorem part_none (far : ¬ x - lo < infinity) : isNaN ((x - lo) / (hi - lo)) = true := by
  have part := gives_sub valued least
  have large := not_lt.mp (mt part.lt_infinity.mpr far)
  have larger : settled (a - b) ≤ settled (c - b) := settled_mono (sub_le_sub_right high b)
  exact isNaN_div_endless ((gives_sub most least).unbounded (large.trans larger)) (part.unbounded large)

end

-- The way up from the least number is the longest, so it is the one that tells.
theorem near_mono {x lo y : Float} (valued : Means x a) (least : Means lo b) (other : Means y c) (low : b ≤ c)
    (near : x - lo < infinity) : x - y < infinity := by
  rw [(gives_sub valued other).lt_infinity]
  exact (settled_mono (sub_le_sub_left low a)).trans_lt ((gives_sub valued least).lt_infinity.mp near)

end Trifold.Number
