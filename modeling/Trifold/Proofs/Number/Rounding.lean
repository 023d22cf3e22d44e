import Trifold.Proofs.Number.Nearest
import Trifold.Proofs.Number.Zero

namespace Trifold.Number
open Float.Model UnpackedFloat

-- A mantissa with its round bit and its sticky bit, and the number between it and the next.
inductive Stands : ExtendedMantissa → ℚ → Prop
  | exact {m : ℕ} {r : ℚ} (equal : r = m) : Stands ⟨m,false,false⟩ r
  | below {m : ℕ} {r : ℚ} (above : m < r) (below : r < m + 1 / 2) : Stands ⟨m,false,true⟩ r
  | half {m : ℕ} {r : ℚ} (equal : r = m + 1 / 2) : Stands ⟨m,true,false⟩ r
  | above {m : ℕ} {r : ℚ} (above : m + 1 / 2 < r) (below : r < m + 1) : Stands ⟨m,true,true⟩ r

namespace Stands

variable {em : ExtendedMantissa} {r : ℚ}

theorem bounds (stands : Stands em r) : em.mantissa ≤ r ∧ r < em.mantissa + 1 := by
  cases stands with
  | exact equal => constructor <;> linarith
  | below above below => constructor <;> linarith
  | half equal => constructor <;> linarith
  | above above below => constructor <;> linarith

theorem floor (stands : Stands em r) : ⌊r⌋ = em.mantissa := by
  obtain ⟨low,high⟩ := stands.bounds
  exact Int.floor_eq_iff.mpr ⟨by exact_mod_cast low,by exact_mod_cast high⟩

-- The bit cut off becomes the round bit, and what was remembered before is at most sticky.
theorem shiftRightOne (stands : Stands em r) : Stands em.shiftRightOne (r / 2) := by
  obtain ⟨m,round,sticky⟩ := em
  rcases Nat.even_or_odd' m with ⟨k,rfl | rfl⟩
  · have half : 2 * k / 2 = k := by omega
    have last : (2 * k % 2 != 0) = false := by simp
    simp only [ExtendedMantissa.shiftRightOne,half,last]
    cases stands with
    | exact equal =>
      push_cast at equal
      exact .exact (by linarith)
    | below above below =>
      push_cast at above below
      exact .below (by linarith) (by linarith)
    | half equal =>
      push_cast at equal
      exact .below (by linarith) (by linarith)
    | above above below =>
      push_cast at above below
      exact .below (by linarith) (by linarith)
  · have half : (2 * k + 1) / 2 = k := by omega
    have last : ((2 * k + 1) % 2 != 0) = true := by simp
    simp only [ExtendedMantissa.shiftRightOne,half,last]
    cases stands with
    | exact equal =>
      push_cast at equal
      exact .half (by linarith)
    | below above below =>
      push_cast at above below
      exact .above (by linarith) (by linarith)
    | half equal =>
      push_cast at equal
      exact .above (by linarith) (by linarith)
    | above above below =>
      push_cast at above below
      exact .above (by linarith) (by linarith)

theorem shiftRight (stands : Stands em r) (k : ℕ) : Stands (em >>> k) (r / 2 ^ k) := by
  induction k with
  | zero => exact (div_one r).symm ▸ stands
  | succ k ih =>
    have step := ih.shiftRightOne
    rw [div_div,← pow_succ] at step
    exact step

-- Rounding a half goes to the even neighbour, and everything else to the nearer one.
theorem rounded (stands : Stands em r) : (em.roundedMantissa : ℤ) = nearest r := by
  have floor := stands.floor
  unfold nearest
  rw [floor]
  cases stands with
  | exact equal =>
    rw [if_pos (by push_cast; linarith)]
    rfl
  | below above below =>
    rw [if_pos (by push_cast; linarith)]
    rfl
  | @half m _ equal =>
    rw [if_neg (by push_cast; linarith),if_neg (by push_cast; linarith)]
    change ((m + m % 2 : ℕ) : ℤ) = m + m % 2
    push_cast
    rfl
  | @above m _ above below =>
    rw [if_neg (by push_cast; linarith),if_pos (by push_cast; linarith)]
    change ((m + 1 : ℕ) : ℤ) = m + 1
    push_cast
    rfl

end Stands

theorem stands_exact (m : ℕ) : Stands (.ofMantissaAndAccuracy m .exact) m := .exact rfl

-- What a quotient of whole numbers leaves over says on which side of the half it lies.
theorem stands_fraction {n d : ℕ} (some : 0 < d) :
    Stands (.ofMantissaAndAccuracy (n / d) (accuracyOfFraction (n % d) d)) (n / d : ℚ) := by
  have divided : (n : ℚ) = d * (n / d : ℕ) + (n % d : ℕ) := by exact_mod_cast (Nat.div_add_mod n d).symm
  have rest : ((n % d : ℕ) : ℚ) < d := by exact_mod_cast Nat.mod_lt n some
  have positive : (0 : ℚ) < d := by exact_mod_cast some
  have quotient : (n / d : ℚ) = (n / d : ℕ) + (n % d : ℕ) / d := by
    rw [div_eq_iff positive.ne',add_mul,div_mul_cancel₀ _ positive.ne',mul_comm]
    exact divided
  rw [quotient]
  generalize n / d = m, n % d = left at rest
  have whole : (left : ℚ) / d < 1 := (div_lt_one positive).mpr rest
  unfold accuracyOfFraction
  split
  · rename_i none
    exact .exact (by rw [none]; simp)
  · rename_i some
    have above : (0 : ℚ) < left / d := div_pos (by exact_mod_cast Nat.pos_of_ne_zero some) positive
    rcases lt_trichotomy (2 * left) d with less | equal | more
    · rw [Nat.compare_eq_lt.mpr less]
      have : (left : ℚ) / d < 1 / 2 := by
        rw [div_lt_div_iff₀ positive (by norm_num)]
        exact_mod_cast (by omega : left * 2 < 1 * d)
      exact .below (by linarith) (by linarith)
    · rw [Nat.compare_eq_eq.mpr equal]
      have : (left : ℚ) / d = 1 / 2 := by
        rw [div_eq_div_iff positive.ne' (by norm_num)]
        exact_mod_cast (by omega : left * 2 = 1 * d)
      exact .half (by linarith)
    · rw [Nat.compare_eq_gt.mpr more]
      have : 1 / 2 < (left : ℚ) / d := by
        rw [div_lt_div_iff₀ (by norm_num) positive]
        exact_mod_cast (by omega : 1 * d < left * 2)
      exact .above (by linarith) (by linarith)

-- Shifting to the grid and rounding there.
section

variable {s : Sign} {m : ℕ} {e : ℤ} {accuracy : Accuracy} {q : ℚ}

theorem target_eq (positive : 0 < q) (low : m * 2 ^ e ≤ q) (high : q < (m + 1) * 2 ^ e)
    (wide : e ≤ Format.binary64.targetExponent (totalExponent m e)) :
    Format.binary64.targetExponent (totalExponent m e) = grid q := by
  have target : Format.binary64.targetExponent (totalExponent m e) = max ((m.log2 : ℤ) + e - 52) (-1074) := by
    simp only [Format.targetExponent,totalExponent,Format.mantissaBits,Format.minExponent]
    omega
  rw [target] at wide ⊢
  unfold grid
  rcases Nat.eq_zero_or_pos m with rfl | some
  · have small : q < 2 ^ e := by simpa using high
    have log := (Int.lt_zpow_iff_log_lt (b := 2) (by norm_num) positive).mp (by exact_mod_cast small)
    simp only [Nat.log2_zero] at wide ⊢
    omega
  · have least : ((2 ^ m.log2 : ℕ) : ℚ) ≤ m := by exact_mod_cast Nat.log2_self_le (Nat.ne_of_gt some)
    have most : ((m + 1 : ℕ) : ℚ) ≤ (2 ^ (m.log2 + 1) : ℕ) := by exact_mod_cast Nat.lt_log2_self
    have above : (2 : ℚ) ^ ((m.log2 : ℤ) + e) ≤ q := by
      rw [zpow_add₀ (by norm_num)]
      refine le_trans (mul_le_mul_of_nonneg_right ?_ (two_zpow_pos e).le) low
      exact_mod_cast least
    have below : q < (2 : ℚ) ^ ((m.log2 : ℤ) + e + 1) := by
      have split : (2 : ℚ) ^ ((m.log2 : ℤ) + e + 1) = (2 ^ (m.log2 + 1) : ℕ) * 2 ^ e := by
        rw [add_right_comm,zpow_add₀ (by norm_num)]
        push_cast
        norm_cast
      rw [split]
      refine lt_of_lt_of_le high (mul_le_mul_of_nonneg_right ?_ (two_zpow_pos e).le)
      exact_mod_cast most
    have log := (Int.lt_zpow_iff_log_lt (b := 2) (by norm_num) positive).mp (by exact_mod_cast below)
    have log' := (Int.zpow_le_iff_le_log (b := 2) (by norm_num) positive).mp (by exact_mod_cast above)
    omega

end

-- What is rounded has at most 53 digits, or just one more.
theorem shift_fits {m : ℕ} {e : ℤ} (digits : m < 2 ^ 53) (least : -1074 ≤ e) :
    shiftToTargetExponent Format.binary64 m e .exact = (⟨m,false,false⟩,e) := by
  have short : m.log2 ≤ 52 := by
    rcases Nat.eq_zero_or_pos m with rfl | some
    · simp
    · have := (Nat.log2_lt (Nat.ne_of_gt some)).mpr digits
      omega
  have target : (Format.binary64.targetExponent (totalExponent m e) - e).toNat = 0 := by
    simp only [Format.targetExponent,totalExponent,Format.mantissaBits,Format.minExponent]
    omega
  simp only [shiftToTargetExponent,shiftToExponent,target]
  exact Prod.ext rfl (Int.add_zero e)

theorem shift_carry {e : ℤ} (least : -1074 ≤ e) :
    shiftToTargetExponent Format.binary64 (2 ^ 53) e .exact = (⟨2 ^ 52,false,false⟩,e + 1) := by
  have target : (Format.binary64.targetExponent (totalExponent (2 ^ 53) e) - e).toNat = 1 := by
    simp only [Format.targetExponent,totalExponent,Format.mantissaBits,Format.minExponent,Nat.log2_two_pow]
    omega
  simp only [shiftToTargetExponent,shiftToExponent,target]
  rfl

-- As a number of this format is unpacked: at most 53 digits, and all of them unless the last one counts the least.
inductive Canonical : UnpackedFloat → Prop
  | zero (s : Sign) : Canonical (.zero s)
  | infinity (s : Sign) : Canonical (.infinity s)
  | notANumber : Canonical .notANumber
  | finite (s : Sign) {m : ℕ} {e : ℤ} (some : 0 < m) (digits : m < 2 ^ 53) (least : -1074 ≤ e)
      (full : 2 ^ 52 ≤ m ∨ e = -1074) : Canonical (.finite s m e some)

def toward : Sign → ℚ → ℚ
  | .positive, q => q
  | .negative, q => -q

-- The rational number that it is, where it is one.
def amount? : UnpackedFloat → Option ℚ
  | .zero _ => some 0
  | .finite s m e _ => some (toward s (m * 2 ^ e))
  | _ => none

-- Rounding on both sides of zero.
def settled (q : ℚ) : ℚ := if 0 ≤ q then rounded q else -rounded (-q)

theorem settled_toward {q : ℚ} (positive : 0 < q) (s : Sign) : settled (toward s q) = toward s (rounded q) := by
  cases s with
  | positive => exact if_pos positive.le
  | negative =>
    have below : ¬ 0 ≤ -q := by linarith
    change (if 0 ≤ -q then rounded (-q) else -rounded (- -q)) = -rounded q
    rw [if_neg below,neg_neg]

structure Rounds (u : UnpackedFloat) (q : ℚ) : Prop where
  canonical : Canonical u
  amount : amount? u = some (settled q)

theorem rounds_zero (s : Sign) : Rounds (.zero s) 0 := by
  refine ⟨.zero s,?_⟩
  rw [settled,if_pos le_rfl,rounded_zero]
  rfl

section

variable {em : ExtendedMantissa} {m : ℕ} {e : ℤ} {accuracy : Accuracy} {q : ℚ}

theorem shift_stands (positive : 0 < q) (stands : Stands (.ofMantissaAndAccuracy m accuracy) (q / 2 ^ e))
    (wide : e ≤ Format.binary64.targetExponent (totalExponent m e)) :
    ∃ em, shiftToTargetExponent Format.binary64 m e accuracy = (em,grid q) ∧ Stands em (q / 2 ^ grid q) := by
  have mantissa : (ExtendedMantissa.ofMantissaAndAccuracy m accuracy).mantissa = m := by
    cases accuracy with
    | exact => rfl
    | inexact order => cases order <;> rfl
  have target : Format.binary64.targetExponent (totalExponent m e) = grid q := by
    obtain ⟨low,high⟩ := stands.bounds
    rw [mantissa,le_div_iff₀ (two_zpow_pos e)] at low
    rw [mantissa,div_lt_iff₀ (two_zpow_pos e)] at high
    exact target_eq positive low high wide
  have scaled : q / 2 ^ e / 2 ^ (grid q - e).toNat = q / 2 ^ grid q := by
    rw [div_div,← zpow_natCast,← zpow_add₀ (by norm_num)]
    congr 2
    omega
  refine ⟨ExtendedMantissa.ofMantissaAndAccuracy m accuracy >>> (grid q - e).toNat,?_,scaled ▸ stands.shiftRight _⟩
  simp only [shiftToTargetExponent,shiftToExponent,target]
  refine Prod.ext rfl ?_
  show e + ((grid q - e).toNat : ℤ) = grid q
  omega

namespace Stands

variable (stands : Stands em (q / 2 ^ grid q))
include stands

theorem fits : em.roundedMantissa ≤ 2 ^ 53 := by
  have below : q / 2 ^ grid q ≤ ((2 ^ 53 : ℤ) : ℚ) := by
    rw [div_le_iff₀ (two_zpow_pos _)]
    have high := (lt_grid q).le
    rw [add_comm,zpow_add₀ (by norm_num)] at high
    exact_mod_cast high
  have nearest := nearest_le_of_le below
  rw [← stands.rounded] at nearest
  exact_mod_cast nearest

theorem full (positive : 0 < q) : 2 ^ 52 ≤ em.roundedMantissa ∨ grid q = -1074 := by
  have least : -1074 ≤ grid q := le_max_right _ _
  rcases least.eq_or_lt with lowest | large
  · exact .inr lowest.symm
  · have above : ((2 ^ 52 : ℤ) : ℚ) ≤ q / 2 ^ grid q := by
      rw [le_div_iff₀ (two_zpow_pos _)]
      have low := grid_le positive large
      rw [add_comm,zpow_add₀ (by norm_num)] at low
      exact_mod_cast low
    have nearest := le_nearest_of_le above
    rw [← stands.rounded] at nearest
    exact .inl (by exact_mod_cast nearest)

theorem amount : Number.rounded q = em.roundedMantissa * 2 ^ grid q := by
  rw [Number.rounded,← stands.rounded]
  norm_cast

end Stands

theorem roundWithAccuracy_rounds (positive : 0 < q) (stands : Stands (.ofMantissaAndAccuracy m accuracy) (q / 2 ^ e))
    (wide : e ≤ Format.binary64.targetExponent (totalExponent m e)) (s : Sign) :
    Rounds (roundWithAccuracy Format.binary64 s m e accuracy) (toward s q) := by
  obtain ⟨em,shifted,cut⟩ := shift_stands positive stands wide
  have least : -1074 ≤ grid q := le_max_right _ _
  have fits := cut.fits
  have full := cut.full positive
  have amount := cut.amount
  unfold roundWithAccuracy
  rw [shifted]
  dsimp only
  generalize em.roundedMantissa = r at fits full amount
  rcases fits.lt_or_eq with short | rfl
  · rw [shift_fits short least]
    dsimp only
    split
    · rename_i none
      refine ⟨.zero s,?_⟩
      rw [settled_toward positive,amount,none]
      cases s <;> simp [amount?,toward]
    · rename_i some
      refine ⟨.finite s _ short least full,?_⟩
      rw [settled_toward positive,amount]
      rfl
  · rw [shift_carry least]
    dsimp only
    rw [dif_neg (by decide)]
    refine ⟨.finite s _ (by decide) (by omega) (.inl le_rfl),?_⟩
    rw [settled_toward positive,amount,amount?,zpow_add₀ (by norm_num)]
    congr 2
    push_cast
    ring

theorem log2_shiftLeft {n k : ℕ} (some : n ≠ 0) : (n <<< k).log2 = n.log2 + k := by
  obtain ⟨low,high⟩ := (Nat.log2_eq_iff some).mp rfl
  have there : n * 2 ^ k ≠ 0 := Nat.mul_ne_zero some (Nat.ne_of_gt (Nat.two_pow_pos k))
  rw [Nat.shiftLeft_eq,Nat.log2_eq_iff there,Nat.pow_add,Nat.add_right_comm,Nat.pow_add]
  exact ⟨Nat.mul_le_mul_right _ low,Nat.mul_lt_mul_of_pos_right high (Nat.two_pow_pos k)⟩

theorem round_rounds (some : 0 < m) (e : ℤ) (s : Sign) :
    Rounds (UnpackedFloat.round Format.binary64 s m e) (toward s (m * 2 ^ e)) := by
  have positive : (0 : ℚ) < m * 2 ^ e := mul_pos (by exact_mod_cast some) (two_zpow_pos e)
  unfold UnpackedFloat.round decreaseExponent
  dsimp only
  generalize target : Format.binary64.targetExponent (totalExponent m e) = t
  generalize amount : (e - t).toNat = k
  have width := log2_shiftLeft (Nat.ne_of_gt some) (k := k)
  have scaled : (m : ℚ) * 2 ^ e / 2 ^ (e - k) = (m <<< k : ℕ) := by
    rw [Nat.shiftLeft_eq,mul_div_assoc,← zpow_sub₀ (by norm_num)]
    push_cast
    rw [← zpow_natCast]
    congr 2
    omega
  refine roundWithAccuracy_rounds positive (scaled ▸ stands_exact _) ?_ s
  have moved : Format.binary64.targetExponent (totalExponent (m <<< k) (e - k)) = t := by
    rw [← target]
    simp only [totalExponent,width]
    congr 1
    push_cast
    ring
  rw [moved]
  omega

end

theorem normalize_rounds (m : ℤ) (e : ℤ) (zero : Sign) : Rounds (UnpackedFloat.normalize Format.binary64 m e zero) (m * 2 ^ e) := by
  unfold UnpackedFloat.normalize
  rcases lt_trichotomy m 0 with less | rfl | more
  · rw [Int.compare_eq_lt.mpr less]
    have rounds := round_rounds (m := (-m).toNat) (by omega) e .negative
    have back : (((-m).toNat : ℕ) : ℚ) = -m := by exact_mod_cast Int.toNat_of_nonneg (by omega : 0 ≤ -m)
    rw [back,toward,neg_mul,neg_neg] at rounds
    exact rounds
  · rw [Int.compare_eq_eq.mpr rfl,Int.cast_zero,zero_mul]
    exact rounds_zero zero
  · rw [Int.compare_eq_gt.mpr more]
    have rounds := round_rounds (m := m.toNat) (by omega) e .positive
    have back : ((m.toNat : ℕ) : ℚ) = m := by exact_mod_cast Int.toNat_of_nonneg more.le
    rw [back] at rounds
    exact rounds

theorem toward_mul (s t : Sign) (q r : ℚ) : toward s q * toward t r = toward (s * t) (q * r) := by
  cases s <;> cases t
  · exact neg_mul_neg q r
  · exact neg_mul q r
  · exact mul_neg q r
  · rfl

theorem toward_div (s t : Sign) (q r : ℚ) : toward s q / toward t r = toward (s / t) (q / r) := by
  cases s <;> cases t
  · exact neg_div_neg_eq q r
  · exact neg_div r q
  · exact div_neg q
  · rfl

theorem apply_toward (s : Sign) (m : ℕ) : ((s.apply m : ℤ) : ℚ) = toward s m := by
  cases s
  · exact Int.cast_neg _
  · rfl

-- A number of this format is its own rounding.
theorem settled_amount {u : UnpackedFloat} {a : ℚ} (canonical : Canonical u) (amount : amount? u = some a) : settled a = a := by
  cases canonical with
  | infinity | notANumber => cases amount
  | zero =>
    cases amount
    rw [settled,if_pos le_rfl,rounded_zero]
  | @finite s m e some digits least full =>
    cases amount
    have positive : (0 : ℚ) < m * 2 ^ e := mul_pos (by exact_mod_cast some) (two_zpow_pos e)
    rw [settled_toward positive,rounded_eq digits least]

section

variable {u v : UnpackedFloat} {a b : ℚ} (left : Canonical u) (right : Canonical v) (first : amount? u = some a)
  (second : amount? v = some b)
include left right first second

theorem mul_rounds : Rounds (UnpackedFloat.mul Format.binary64 u v) (a * b) := by
  cases left with
  | infinity | notANumber => cases first
  | zero s =>
    cases first
    rw [zero_mul]
    cases right with
    | infinity | notANumber => cases second
    | zero | finite => exact rounds_zero _
  | @finite s m e some digits least full =>
    cases first
    cases right with
    | infinity | notANumber => cases second
    | zero =>
      cases second
      rw [mul_zero]
      exact rounds_zero _
    | @finite t n f some' digits' least' full' =>
      cases second
      have there : 0 < m * n := Nat.mul_pos some some'
      have positive : (0 : ℚ) < (m * n : ℕ) * 2 ^ (e + f) := mul_pos (by exact_mod_cast there) (two_zpow_pos _)
      have product : toward s (m * 2 ^ e) * toward t (n * 2 ^ f) = toward (s * t) ((m * n : ℕ) * 2 ^ (e + f)) := by
        rw [toward_mul,zpow_add₀ (by norm_num)]
        congr 1
        push_cast
        ring
      have wide : e + f ≤ Format.binary64.targetExponent (totalExponent (m * n) (e + f)) := by
        simp only [Format.targetExponent,totalExponent,Format.mantissaBits,Format.minExponent]
        have low := (Nat.le_log2 (Nat.ne_of_gt there) (k := 52)).mpr
        rcases full with full | lowest
        · have := low (le_trans full (Nat.le_mul_of_pos_right m some'))
          omega
        · rcases full' with full' | lowest'
          · have := low (le_trans full' (Nat.le_mul_of_pos_left n some))
            omega
          · omega
      rw [product]
      refine roundWithAccuracy_rounds positive ?_ wide (s * t)
      rw [mul_div_cancel_right₀ _ (two_zpow_pos _).ne']
      exact stands_exact _

theorem div_rounds (some : b ≠ 0) : Rounds (UnpackedFloat.div Format.binary64 u v) (a / b) := by
  cases left with
  | infinity | notANumber => cases first
  | zero s =>
    cases first
    rw [zero_div]
    cases right with
    | infinity | notANumber => cases second
    | zero =>
      cases second
      exact absurd rfl some
    | finite => exact rounds_zero _
  | @finite s m e there digits least full =>
    cases first
    cases right with
    | infinity | notANumber => cases second
    | zero =>
      cases second
      exact absurd rfl some
    | @finite t n f there' digits' least' full' =>
      cases second
      have above : (0 : ℚ) < m * 2 ^ e := mul_pos (by exact_mod_cast there) (two_zpow_pos e)
      have above' : (0 : ℚ) < n * 2 ^ f := mul_pos (by exact_mod_cast there') (two_zpow_pos f)
      rw [toward_div]
      unfold UnpackedFloat.div divCore
      dsimp only
      have target : Format.binary64.targetExponent (totalExponent m e - totalExponent n f) =
          max ((m.log2 : ℤ) + e - (n.log2 + f) - 53) (-1074) := by
        simp only [Format.targetExponent,totalExponent,Format.mantissaBits,Format.minExponent]
        omega
      rw [target]
      generalize last : min (e - f) (max ((m.log2 : ℤ) + e - (n.log2 + f) - 53) (-1074)) = g
      generalize amount : (e - f - g).toNat = k
      have scaled : (m : ℚ) * 2 ^ e / (n * 2 ^ f) / 2 ^ g = (m <<< k : ℕ) / n := by
        have moved : (2 : ℚ) ^ e / 2 ^ f / 2 ^ g = 2 ^ k := by
          rw [← zpow_sub₀ (by norm_num),← zpow_sub₀ (by norm_num),← zpow_natCast]
          congr 1
          omega
        rw [Nat.shiftLeft_eq]
        push_cast
        rw [← moved]
        field_simp
      refine roundWithAccuracy_rounds (div_pos above above') (scaled ▸ stands_fraction there') ?_ (s / t)
      -- What is left of the dividend has two digits more than the result needs, unless the last one counts the least.
      simp only [Format.targetExponent,totalExponent,Format.mantissaBits,Format.minExponent]
      by_cases lowest : g ≤ -1074
      · omega
      · have long : 2 ^ (53 + n.log2) ≤ m <<< k := by
          have least := Nat.log2_self_le (Nat.ne_of_gt there)
          rw [Nat.shiftLeft_eq]
          calc 2 ^ (53 + n.log2) ≤ 2 ^ (m.log2 + k) := Nat.pow_le_pow_right (by norm_num) (by omega)
            _ = 2 ^ m.log2 * 2 ^ k := Nat.pow_add 2 _ _
            _ ≤ m * 2 ^ k := Nat.mul_le_mul_right _ least
        have short : n < 2 ^ (n.log2 + 1) := Nat.lt_log2_self
        have whole : 2 ^ 52 ≤ m <<< k / n := by
          rw [Nat.le_div_iff_mul_le there']
          calc 2 ^ 52 * n ≤ 2 ^ 52 * 2 ^ (n.log2 + 1) := Nat.mul_le_mul_left _ short.le
            _ = 2 ^ (53 + n.log2) := by rw [← Nat.pow_add]; congr 1; omega
            _ ≤ m <<< k := long
        have := (Nat.le_log2 (k := 52) (n := m <<< k / n) (by omega)).mpr whole
        omega

theorem add_rounds : Rounds (UnpackedFloat.add Format.binary64 u v) (a + b) := by
  cases left with
  | infinity | notANumber => cases first
  | zero s =>
    cases first
    rw [zero_add]
    cases right with
    | infinity | notANumber => cases second
    | zero t =>
      cases second
      unfold UnpackedFloat.add
      dsimp only
      split <;> exact rounds_zero _
    | finite t some digits least full =>
      have canonical := Canonical.finite t some digits least full
      exact ⟨canonical,(settled_amount canonical second).symm ▸ second⟩
  | @finite s m e some digits least full =>
    have canonical := Canonical.finite s some digits least full
    cases right with
    | infinity | notANumber => cases second
    | zero =>
      cases second
      rw [add_zero]
      exact ⟨canonical,(settled_amount canonical first).symm ▸ first⟩
    | @finite t n f some' digits' least' full' =>
      cases first
      cases second
      have moved (s : Sign) (m : ℕ) {e least : ℤ} (le : least ≤ e) :
          toward s (m * 2 ^ e) = (s.apply (m <<< (e - least).toNat : ℕ) : ℤ) * 2 ^ least := by
        have whole : (m : ℚ) * 2 ^ e = (m <<< (e - least).toNat : ℕ) * 2 ^ least := by
          rw [Nat.shiftLeft_eq]
          push_cast
          rw [mul_assoc,← zpow_natCast,← zpow_add₀ (by norm_num)]
          congr 2
          omega
        rw [apply_toward,whole]
        cases s
        · exact (neg_mul _ _).symm
        · rfl
      have total := normalize_rounds
        (s.apply (m <<< (e - min e f).toNat : ℕ) + t.apply (n <<< (f - min e f).toNat : ℕ)) (min e f) .positive
      rw [Int.cast_add,add_mul,← moved s m (min_le_left e f),← moved t n (min_le_right e f)] at total
      exact total

theorem sub_rounds : Rounds (UnpackedFloat.sub Format.binary64 u v) (a - b) := by
  have negated : Canonical v.neg ∧ amount? v.neg = some (-b) := by
    cases right with
    | infinity | notANumber => cases second
    | zero t =>
      cases second
      exact ⟨.zero _,congrArg Option.some neg_zero.symm⟩
    | @finite t n f some digits least full =>
      cases second
      refine ⟨.finite _ some digits least full,?_⟩
      cases t
      · exact congrArg Option.some (neg_neg _).symm
      · rfl
  have flipped (t : Sign) (n : ℤ) : (-t).apply n = -t.apply n := by
    cases t
    · exact (neg_neg n).symm
    · rfl
  have turned : UnpackedFloat.sub Format.binary64 u v = UnpackedFloat.add Format.binary64 u v.neg := by
    cases u with
    | finite s m e => cases v with
      | finite t n f =>
        change UnpackedFloat.normalize _ _ _ _ = UnpackedFloat.normalize _ (_ + (-t).apply _) _ _
        rw [flipped,← sub_eq_add_neg]
      | _ => rfl
    | _ => cases v <;> rfl
  rw [turned,sub_eq_add_neg]
  exact add_rounds left negated.1 first negated.2

end

end Trifold.Number
