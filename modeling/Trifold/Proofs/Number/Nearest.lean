import Mathlib

namespace Trifold.Number

def nearest (q : ℚ) : ℤ :=
  if q - ⌊q⌋ < 1 / 2 then ⌊q⌋ else if 1 / 2 < q - ⌊q⌋ then ⌊q⌋ + 1 else ⌊q⌋ + ⌊q⌋ % 2

theorem nearest_intCast (n : ℤ) : nearest n = n := by simp [nearest]

theorem nearest_bounds (q : ℚ) : ⌊q⌋ ≤ nearest q ∧ nearest q ≤ ⌊q⌋ + 1 := by
  unfold nearest
  split
  · omega
  · split <;> omega

theorem nearest_mono {p q : ℚ} (le : p ≤ q) : nearest p ≤ nearest q := by
  rcases (Int.floor_mono le).lt_or_eq with apart | same
  · have := (nearest_bounds p).2
    have := (nearest_bounds q).1
    omega
  · unfold nearest
    rw [same]
    -- Above one integer only the fractions count, and these are in order.
    split_ifs <;> first | omega | (exfalso; linarith)

theorem nearest_nonneg {q : ℚ} (nonneg : 0 ≤ q) : 0 ≤ nearest q := by
  have := nearest_mono nonneg
  rwa [show nearest 0 = 0 from nearest_intCast 0] at this

-- The exponent of the last digit.
def grid (q : ℚ) : ℤ := max (Int.log 2 q - 52) (-1074)

def rounded (q : ℚ) : ℚ := nearest (q / 2 ^ grid q) * 2 ^ grid q

theorem two_zpow_pos (e : ℤ) : (0 : ℚ) < 2 ^ e := zpow_pos (by norm_num) e

theorem lt_grid (q : ℚ) : q < 2 ^ (grid q + 53) := by
  have above := Int.lt_zpow_succ_log_self (b := 2) (by norm_num) q
  refine above.trans_le (zpow_le_zpow_right₀ (by norm_num) ?_)
  unfold grid
  omega

theorem grid_le {q : ℚ} (positive : 0 < q) (large : -1074 < grid q) : 2 ^ (grid q + 52) ≤ q := by
  have below := Int.zpow_log_le_self (b := 2) (by norm_num) positive
  have exponent : grid q + 52 = Int.log 2 q := by
    unfold grid at large ⊢
    omega
  rw [exponent]
  exact below

theorem grid_mono {p q : ℚ} (positive : 0 < p) (le : p ≤ q) : grid p ≤ grid q := by
  have := Int.log_mono_right (b := 2) positive le
  unfold grid
  omega

theorem rounded_zero : rounded 0 = 0 := by simp [rounded,nearest]

theorem rounded_nonneg {q : ℚ} (nonneg : 0 ≤ q) : 0 ≤ rounded q := by
  have whole : (0 : ℚ) ≤ nearest (q / 2 ^ grid q) := by
    exact_mod_cast nearest_nonneg (div_nonneg nonneg (two_zpow_pos _).le)
  exact mul_nonneg whole (two_zpow_pos _).le

theorem nearest_le_of_le {q : ℚ} {n : ℤ} (le : q ≤ n) : nearest q ≤ n := by
  have := nearest_mono le
  rwa [nearest_intCast] at this

theorem le_nearest_of_le {q : ℚ} {n : ℤ} (le : n ≤ q) : n ≤ nearest q := by
  have := nearest_mono le
  rwa [nearest_intCast] at this

theorem rounded_le_grid (q : ℚ) : rounded q ≤ 2 ^ (grid q + 53) := by
  have below : nearest (q / 2 ^ grid q) ≤ 2 ^ 53 := by
    refine nearest_le_of_le ?_
    have scaled : ((2 ^ 53 : ℤ) : ℚ) * 2 ^ grid q = 2 ^ (grid q + 53) := by
      rw [add_comm,zpow_add₀ (by norm_num)]
      norm_num
    rw [div_le_iff₀ (two_zpow_pos _),scaled]
    exact (lt_grid q).le
  rw [rounded,add_comm,zpow_add₀ (by norm_num)]
  refine mul_le_mul_of_nonneg_right ?_ (two_zpow_pos _).le
  exact_mod_cast below

theorem grid_le_rounded {q : ℚ} (positive : 0 < q) (large : -1074 < grid q) : 2 ^ (grid q + 52) ≤ rounded q := by
  have above : 2 ^ 52 ≤ nearest (q / 2 ^ grid q) := by
    refine le_nearest_of_le ?_
    have scaled : ((2 ^ 52 : ℤ) : ℚ) * 2 ^ grid q = 2 ^ (grid q + 52) := by
      rw [add_comm,zpow_add₀ (by norm_num)]
      norm_num
    rw [le_div_iff₀ (two_zpow_pos _),scaled]
    exact grid_le positive large
  rw [rounded,add_comm,zpow_add₀ (by norm_num)]
  refine mul_le_mul_of_nonneg_right ?_ (two_zpow_pos _).le
  exact_mod_cast above

theorem rounded_mono {p q : ℚ} (nonneg : 0 ≤ p) (le : p ≤ q) : rounded p ≤ rounded q := by
  rcases nonneg.eq_or_lt with rfl | positive
  · rw [rounded_zero]
    exact rounded_nonneg le
  · rcases (grid_mono positive le).lt_or_eq with finer | same
    · have large : -1074 < grid q := lt_of_le_of_lt (le_max_right _ _) finer
      calc rounded p ≤ 2 ^ (grid p + 53) := rounded_le_grid p
        _ ≤ 2 ^ (grid q + 52) := zpow_le_zpow_right₀ (by norm_num) (by omega)
        _ ≤ rounded q := grid_le_rounded (positive.trans_le le) large
    · rw [rounded,rounded,same]
      refine mul_le_mul_of_nonneg_right ?_ (two_zpow_pos _).le
      exact_mod_cast nearest_mono (div_le_div_of_nonneg_right le (two_zpow_pos _).le)

theorem rounded_eq {m : ℕ} {e : ℤ} (digits : m < 2 ^ 53) (least : -1074 ≤ e) : rounded (m * 2 ^ e) = m * 2 ^ e := by
  rcases Nat.eq_zero_or_pos m with rfl | some
  · rw [Nat.cast_zero,zero_mul,rounded_zero]
  · have positive : (0 : ℚ) < m * 2 ^ e := mul_pos (by exact_mod_cast some) (two_zpow_pos e)
    have short : (m : ℚ) * 2 ^ e < 2 ^ (53 + e) := by
      rw [zpow_add₀ (by norm_num)]
      exact mul_lt_mul_of_pos_right (by exact_mod_cast digits) (two_zpow_pos e)
    have within : grid (m * 2 ^ e) ≤ e := by
      have := (Int.lt_zpow_iff_log_lt (b := 2) (by norm_num) positive).mp (by exact_mod_cast short)
      unfold grid
      omega
    obtain ⟨k,exponent⟩ := Int.eq_ofNat_of_zero_le (sub_nonneg.mpr within)
    have whole : (m : ℚ) * 2 ^ e / 2 ^ grid (m * 2 ^ e) = ((m * 2 ^ k : ℤ) : ℚ) := by
      rw [mul_div_assoc,← zpow_sub₀ (by norm_num),exponent]
      push_cast
      rw [zpow_natCast]
    rw [rounded,whole,nearest_intCast,← whole,div_mul_cancel₀ _ (two_zpow_pos _).ne']

end Trifold.Number
