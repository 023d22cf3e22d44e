import Trifold.Proofs.Number.Bounds

namespace Trifold.Number
open Float.Model UnpackedFloat

def sign (x : Float) : Ordering := if x < 0 then .lt else if 0 < x then .gt else .eq

variable {x y : Float} {a b q : ℚ}

theorem lt_zero_iff : x < 0 ↔ (view x).compare (view 0) = some .lt := by
  rw [lt_view,UnpackedFloat.lt,beq_iff_eq]

theorem zero_lt_iff : 0 < x ↔ (view x).compare (view 0) = some .gt := by
  rw [lt_view,UnpackedFloat.lt,beq_iff_eq,compare_swap]
  cases (view x).compare (view 0) with
  | none => simp
  | some order => cases order <;> simp

theorem beq_zero_iff : (x == 0) = true ↔ (view x).compare (view 0) = some .eq := by
  change (view x).beq (view 0) = true ↔ _
  rw [UnpackedFloat.beq,beq_iff_eq]

theorem sign_compare (x : Float) : sign x = ((view x).compare (view 0)).getD .eq := by
  unfold sign
  simp only [lt_zero_iff,zero_lt_iff]
  cases (view x).compare (view 0) with
  | none => rfl
  | some order => cases order <;> rfl

theorem sign_eq_lt : sign x = .lt ↔ x < 0 := by
  rw [sign_compare,lt_zero_iff]
  cases (view x).compare (view 0) <;> simp

theorem sign_of_beq (zero : (x == 0) = true) : sign x = .eq := by
  rw [sign_compare,beq_zero_iff.mp zero]
  rfl

theorem sign_zero : sign 0 = .eq := by decide +kernel

theorem sign_one : sign 1 = .gt := by decide +kernel

theorem sign_minus_one : sign (-1) = .lt := by decide +kernel

theorem view_neg (x : Float) : view (-x) = (view x).neg := by
  change view (ofView (view x).neg) = (view x).neg
  cases same : view x with
  | notANumber => rfl
  | infinity s => exact view_infinite (-s)
  | zero s => cases s <;> rfl
  | finite s m e some =>
    obtain ⟨canonical,most⟩ := view_finite same
    cases canonical with
    | finite _ _ digits least full =>
      have turned := view_ofView (.finite (-s) some digits least full)
      rwa [if_pos most] at turned

theorem sign_neg (x : Float) : sign (-x) = (sign x).swap := by
  have zero : view 0 = .zero .positive := rfl
  rw [sign_compare,sign_compare,view_neg,zero]
  cases view x with
  | notANumber => rfl
  | infinity s => cases s <;> rfl
  | zero s => rfl
  | finite s m e some => cases s <;> rfl

theorem compare_known (known : isNaN x = false) : (view x).compare (view 0) = some (sign x) := by
  have zero : view 0 = .zero .positive := rfl
  rw [sign_compare,zero]
  cases same : view x with
  | notANumber =>
    rw [isNaN_iff.mpr same] at known
    cases known
  | infinity s | finite s => cases s <;> rfl
  | zero s => rfl

theorem le_zero_iff (known : isNaN x = false) : x ≤ 0 ↔ sign x ≠ .gt := by
  rw [le_view,UnpackedFloat.le,compare_known known]
  cases sign x <;> simp

theorem beq_zero_of_sign (known : isNaN x = false) (none : sign x = .eq) : (x == 0) = true := by
  rw [beq_zero_iff,compare_known known,none]

theorem sign_eq_gt : sign x = .gt ↔ 0 < x := by
  rw [sign_compare,zero_lt_iff]
  cases (view x).compare (view 0) <;> simp

-- Every number is a whole number of the least one above zero, so a difference that is not zero does not become zero.
theorem means_least (means : Means x a) : ∃ k : ℤ, a = k * 2 ^ (-1074 : ℤ) := by
  rcases means_cases means with ⟨s,_,rfl⟩ | ⟨s,m,e,there,same,rfl⟩
  · exact ⟨0,by simp⟩
  · cases (view_finite same).1 with
    | finite _ _ _ least =>
      obtain ⟨n,rfl⟩ : ∃ n : ℕ, e = n + -1074 := ⟨(e + 1074).toNat,by omega⟩
      refine ⟨s.apply (m * 2 ^ n : ℕ),?_⟩
      rw [apply_toward,← toward_mul_pos,zpow_add₀ (by norm_num),zpow_natCast]
      rw [Nat.cast_mul,Nat.cast_pow,Nat.cast_ofNat,mul_assoc]

theorem settled_least {k : ℤ} (positive : 0 < k) : 0 < settled (k * 2 ^ (-1074 : ℤ)) := by
  have least : settled (2 ^ (-1074 : ℤ)) = 2 ^ (-1074 : ℤ) := by
    rw [settled,if_pos (two_zpow_pos _).le]
    simpa using rounded_eq (m := 1) (e := -1074) (by norm_num) (by norm_num)
  have one : (1 : ℚ) ≤ k := by exact_mod_cast positive
  calc (0 : ℚ) < 2 ^ (-1074 : ℤ) := two_zpow_pos _
    _ = settled (2 ^ (-1074 : ℤ)) := least.symm
    _ ≤ settled (k * 2 ^ (-1074 : ℤ)) := settled_mono (le_mul_of_one_le_left (two_zpow_pos _).le one)

theorem Gives.isNaN (gives : Gives x q) : isNaN x = false := by
  rcases gives with means | ⟨s,unbounded,_⟩
  · exact isNaN_means means
  · rw [Bool.eq_false_iff]
    intro none
    rw [isNaN_iff.mp none] at unbounded
    cases unbounded

theorem Gives.positive (gives : Gives x q) (above : 0 < settled q) : sign x = .gt := by
  rw [sign_eq_gt]
  rcases gives with means | ⟨s,unbounded,large⟩
  · exact (lt_means means_zero means).mpr above
  · cases s with
    | positive =>
      rw [lt_view,unbounded]
      rfl
    | negative =>
      have below := large.trans (neg_nonpos.mpr above.le)
      exact absurd below (not_le.mpr (two_zpow_pos 1024))

theorem Gives.zero (gives : Gives x 0) : sign x = .eq := by
  have none : settled 0 = 0 := settled_means means_zero
  have means := gives.means (by rw [none,abs_zero]; exact two_zpow_pos 1024)
  rw [none] at means
  have below : ¬ x < 0 := by rw [lt_means means means_zero]; exact lt_irrefl 0
  have above : ¬ 0 < x := by rw [lt_means means_zero means]; exact lt_irrefl 0
  rw [sign,if_neg below,if_neg above]

-- The sign of a difference tells which number is larger.
theorem sign_sub (left : Means x a) (right : Means y b) : sign (x - y) = compare a b := by
  have gives := gives_sub left right
  obtain ⟨k,rfl⟩ := means_least left
  obtain ⟨l,rfl⟩ := means_least right
  rw [← sub_mul,← Int.cast_sub] at gives
  rcases lt_trichotomy k l with less | rfl | more
  · have turned := gives_neg gives
    rw [← neg_mul,← Int.cast_neg] at turned
    have told := turned.positive (settled_least (by omega))
    rw [sign_neg,Ordering.swap_eq_gt] at told
    rw [told,eq_comm,compare_lt_iff_lt]
    exact mul_lt_mul_of_pos_right (by exact_mod_cast less) (two_zpow_pos _)
  · rw [sub_self,Int.cast_zero,zero_mul] at gives
    rw [gives.zero,eq_comm,compare_eq_iff_eq]
  · rw [gives.positive (settled_least (by omega)),eq_comm,compare_gt_iff_gt]
    exact mul_lt_mul_of_pos_right (by exact_mod_cast more) (two_zpow_pos _)

-- Of the numbers that count only that of nothing is zero.
theorem ofNat_beq_zero (n : Nat) : (Float.ofNat n == 0) = (n == 0) := by
  cases n with
  | zero => decide +kernel
  | succ n =>
    refine Bool.eq_false_of_not_eq_true ?_
    rw [beq_zero_iff,zero_lt_iff.mp (ofNat_positive n.succ_ne_zero)]
    exact nofun

end Trifold.Number
