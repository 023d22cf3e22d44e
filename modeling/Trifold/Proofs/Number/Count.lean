import Trifold.Proofs.Number.Bounds
import Trifold.Text.Repeat

namespace Trifold.Number
open Float.Model UnpackedFloat

variable {x y z : Float} {a b q : ℚ}

theorem not_lt_infinite (unbounded : view x = .infinity .negative) : ¬ y < x := by
  rw [lt_view,unbounded,UnpackedFloat.lt,beq_iff_eq]
  cases view y with
  | infinity s => cases s <;> simp [UnpackedFloat.compare]
  | notANumber => simp [UnpackedFloat.compare]
  | zero | finite => simp [UnpackedFloat.compare]

theorem isNaN_infinite {s : Sign} (unbounded : view x = .infinity s) : isNaN x = false := by
  rw [Bool.eq_false_iff]
  intro none
  rw [isNaN_iff,unbounded] at none
  cases none

theorem larger_zero (most : AtMost x b) (nonneg : 0 ≤ b) : Within (larger 0 x) b := by
  have zero : Within 0 b := ⟨0,means_zero,le_rfl,nonneg⟩
  unfold larger
  rw [if_neg (by simp [isNaN_means means_zero])]
  rcases most with unbounded | ⟨a,means,le⟩
  · rw [if_neg (by simp [isNaN_infinite unbounded]),if_neg (not_lt_infinite unbounded)]
    exact zero
  · rw [if_neg (by simp [isNaN_means means])]
    split
    · rename_i positive
      exact ⟨a,means,((lt_means means_zero means).mp positive).le,le⟩
    · exact zero

theorem view_positive (means : Means y b) (positive : 0 < b) : ∃ m e there, view y = .finite .positive m e there := by
  rcases means_cases means with ⟨s,_,zero⟩ | ⟨s,m,e,there,same,amount⟩
  · exact absurd zero positive.ne'
  · cases s with
    | negative =>
      have above : (0 : ℚ) < m * 2 ^ e := mul_pos (by exact_mod_cast there) (two_zpow_pos e)
      rw [amount,toward] at positive
      linarith
    | positive => exact ⟨m,e,there,same⟩

-- A product with a number above zero stays as large, and so does a quotient.
theorem mul_atMost (most : AtMost x a) (factor : Means y b) (positive : 0 < b) (bound : Means z (a * b)) :
    AtMost (x * y) (a * b) := by
  rcases most with unbounded | ⟨c,means,le⟩
  · refine .inl ?_
    obtain ⟨m,e,there,same⟩ := view_positive factor positive
    change view (ofView (.mul _ (view x) (view y))) = _
    rw [unbounded,same]
    exact view_infinite .negative
  · exact (gives_mul means factor).atMost bound (mul_le_mul_of_nonneg_right le positive.le)

theorem div_lowest (unbounded : view x = .infinity .negative) (means : Means y b) (positive : 0 < b) :
    view (x / y) = .infinity .negative := by
  obtain ⟨m,e,there,same⟩ := view_positive means positive
  change view (ofView (.div _ (view x) (view y))) = _
  rw [unbounded,same]
  exact view_infinite .negative

theorem round_atMost {n : ℕ} (small : n ≤ 2 ^ 53) (most : AtMost x n) : AtMost (round x) n := by
  rcases most with unbounded | ⟨a,means,le⟩
  · have none : rounded? x = none := by rw [rounded?,exact_view,unbounded]
    exact .inl (by simpa [round,none] using unbounded)
  · have near : ⌊a + 1 / 2⌋ ≤ (n : ℤ) := by
      have half : a + 1 / 2 < (n : ℤ) + 1 := by
        push_cast
        linarith
      exact Int.lt_add_one_iff.mp (Int.floor_lt.mpr (by exact_mod_cast half))
    rw [round,rounded?_means means]
    exact (gives_ofInt _).atMost (means_ofNat small) (by exact_mod_cast near)

theorem div_atMost (left : Means x a) (right : Means y b) (positive : 0 < b) (le : a ≤ b) : AtMost (x / y) 1 := by
  have one : Means (Float.ofNat 1) (1 : ℕ) := means_ofNat (by norm_num)
  have part : a / b ≤ 1 := (div_le_one positive).mpr le
  rw [Nat.cast_one] at one
  exact (gives_div left right positive.ne').atMost one part

-- Padding: what a text leaves of a width, half of it, and the rest.
theorem sub_atMost (left : Means x a) (n : ℕ) : AtMost (x - Float.ofNat n) a := by
  rcases gives_ofNat n with means | ⟨s,unbounded,large⟩
  · have nonneg := settled_nonneg (q := n) (Nat.cast_nonneg n)
    exact (gives_sub left means).atMost left (by linarith)
  · obtain rfl := beyond_positive (Nat.cast_nonneg n) large
    refine .inl ?_
    change view (ofView (.sub _ (view x) (view (Float.ofNat n)))) = _
    rw [unbounded]
    rcases means_cases left with ⟨s,same,zero⟩ | ⟨s,m,e,there,same,amount⟩
    · rw [same]
      exact view_infinite .negative
    · rw [same]
      exact view_infinite .negative

theorem floor_within (within : Within x b) : Within (floor x) b := by
  obtain ⟨a,means,nonneg,le⟩ := within
  have least : (0 : ℚ) ≤ ⌊a⌋ := by exact_mod_cast Int.floor_nonneg.mpr nonneg
  rw [floor,floor?_means means]
  exact ((gives_ofInt _).bounded means least (Int.floor_le a)).mono le

theorem means_two : Means 2 2 := by
  have seen : view 2 = .finite .positive (2 ^ 52) (-51) (by decide) := rfl
  rw [Means,seen,amount?,toward]
  norm_num

theorem half_within (within : Within x b) : ∃ a, Means x a ∧ a ≤ b ∧ Within (floor (x / 2)) a := by
  obtain ⟨a,means,nonneg,le⟩ := within
  have half := gives_div means means_two (by norm_num)
  exact ⟨a,means,le,floor_within (half.bounded means (by positivity) (by linarith))⟩

theorem rest_within (left : Means x a) (right : Within y a) : Within (x - y) a := by
  obtain ⟨b,means,nonneg,le⟩ := right
  exact (gives_sub left means).bounded left (by linarith) (by linarith)

theorem count?_means {n : ℕ} (means : Means x q) (above : -1 < q) (le : q ≤ n) : ∃ k ≤ n, Text.count? x = .ok k := by
  have least : 0 ≤ cut q := by
    unfold cut
    split
    · exact Int.floor_nonneg.mpr ‹_›
    · have zero : ⌊-q⌋ ≤ 0 := Int.lt_add_one_iff.mp (Int.floor_lt.mpr (by push_cast; linarith))
      omega
  have most : cut q ≤ n := by
    unfold cut
    split
    · exact_mod_cast (Int.floor_le q).trans le
    · have zero : 0 ≤ ⌊-q⌋ := Int.floor_nonneg.mpr (by linarith)
      omega
  refine ⟨(cut q).toNat,by omega,?_⟩
  rw [Text.count?,if_neg (by simp [isNaN_means means]),truncated?_means means]
  exact if_neg (by omega)

theorem repeat?_counted {s : String} {n k : ℕ} (counted : Text.count? x = .ok k) (le : k ≤ n)
    (room : n * Text.unitLength s ≤ Text.lengthLimit) : ∃ r, Text.repeat? s x = .ok r := by
  have short := (Nat.mul_le_mul_right (Text.unitLength s) le).trans room
  rw [Text.repeat?,counted]
  change ∃ r, (if s.isEmpty then pure "" else if Text.lengthLimit < k * Text.unitLength s then throw Misuse.tooLong
    else pure (Text.repeated k s) : Except Misuse String) = .ok r
  rw [if_neg (not_lt.mpr short)]
  split <;> exact ⟨_,rfl⟩

theorem repeat?_exact {s : String} {k : ℕ} (counted : Text.count? x = .ok k) (some : s ≠ "")
    (room : k * Text.unitLength s ≤ Text.lengthLimit) : Text.repeat? s x = .ok (Text.repeated k s) := by
  have filled : ¬ s.isEmpty = true := by simpa using some
  rw [Text.repeat?,counted]
  change (if s.isEmpty then pure "" else if Text.lengthLimit < k * Text.unitLength s then throw Misuse.tooLong
    else pure (Text.repeated k s) : Except Misuse String) = _
  rw [if_neg filled,if_neg (not_lt.mpr room)]
  rfl

theorem repeat?_within {s : String} {n : ℕ} (within : Within x n) (room : n * Text.unitLength s ≤ Text.lengthLimit) :
    ∃ r, Text.repeat? s x = .ok r := by
  obtain ⟨q,means,nonneg,le⟩ := within
  obtain ⟨k,small,counted⟩ := count?_means means (by linarith) le
  exact repeat?_counted counted small room

theorem larger_cases (x y : Float) : larger x y = x ∨ larger x y = y := by
  unfold larger
  split_ifs <;> simp

theorem larger_means (left : Means x a) (right : Means y b) : Means (larger x y) (max a b) := by
  rw [larger,if_neg (by simp [isNaN_means left]),if_neg (by simp [isNaN_means right])]
  split
  · rename_i less
    rwa [max_eq_right ((lt_means left right).mp less).le]
  · rename_i less
    rwa [max_eq_left (le_of_not_gt (mt (lt_means left right).mpr less))]

theorem smaller_means (left : Means x a) (right : Means y b) : Means (smaller x y) (min a b) := by
  rw [smaller,if_neg (by simp [isNaN_means left]),if_neg (by simp [isNaN_means right])]
  split
  · rename_i less
    rwa [min_eq_right ((lt_means right left).mp less).le]
  · rename_i less
    rwa [min_eq_left (le_of_not_gt (mt (lt_means right left).mpr less))]

theorem view_nan : view (ofView .notANumber) = .notANumber := rfl

-- Without a bound, a whole has no parts but zero, and none of what is without a bound itself.
section

variable {s t : Sign} (unbounded : view y = .infinity s)
include unbounded

theorem div_nothing (means : Means x q) : Means (x / y) 0 := by
  have quotient : view (x / y) = view (ofView (.div Format.binary64 (view x) (view y))) := rfl
  have nothing (t : Sign) : amount? (view (ofView (.zero t))) = some 0 := by cases t <;> rfl
  rw [Means,quotient,unbounded]
  rcases means_cases means with ⟨t,same,_⟩ | ⟨t,m,e,there,same,_⟩
  · rw [same]
    exact nothing _
  · rw [same]
    exact nothing _

theorem isNaN_div_endless (endless : view x = .infinity t) : isNaN (x / y) = true := by
  have quotient : view (x / y) = view (ofView (.div Format.binary64 (view x) (view y))) := rfl
  rw [isNaN_iff,quotient,unbounded,endless]
  exact view_nan

end

theorem isNaN_mul (none : isNaN x = true) (y : Float) : isNaN (x * y) = true := by
  have product : view (x * y) = view (ofView (.mul Format.binary64 (view x) (view y))) := rfl
  rw [isNaN_iff] at none ⊢
  rw [product,none]
  cases view y <;> exact view_nan

theorem isNaN_div (none : isNaN x = true) (y : Float) : isNaN (x / y) = true := by
  have quotient : view (x / y) = view (ofView (.div Format.binary64 (view x) (view y))) := rfl
  rw [isNaN_iff] at none ⊢
  rw [quotient,none]
  cases view y <;> exact view_nan

theorem isNaN_sub (x : Float) (none : isNaN y = true) : isNaN (x - y) = true := by
  have rest : view (x - y) = view (ofView (.sub Format.binary64 (view x) (view y))) := rfl
  rw [isNaN_iff] at none ⊢
  rw [rest,none]
  cases view x <;> exact view_nan

theorem isNaN_round (none : isNaN x = true) : isNaN (round x) = true := by
  have whole : rounded? x = Option.none := by rw [rounded?,exact_view,isNaN_iff.mp none]
  simpa [round,whole] using none

theorem lt_endless (means : Means y b) (unbounded : view x = .infinity .positive) : y < x := by
  rw [lt_view,unbounded]
  rcases means_cases means with ⟨s,same,_⟩ | ⟨s,m,e,there,same,_⟩ <;>
    rw [same] <;> cases s <;> rfl

-- The smaller of a count and a number above `a`. It is no larger than a bound of either.
theorem smaller_count {n m : ℕ} (above : a < 0) (means : Means y b) (low : a < b) (bounded : m ≤ 2 ^ 53)
    (high : b ≤ m ∨ n ≤ m) : ∃ q, Means (smaller (Float.ofNat n) y) q ∧ a < q ∧ q ≤ m := by
  unfold smaller
  rcases gives_ofNat n with counted | ⟨s,unbounded,large⟩
  · have nonneg := settled_nonneg (q := n) (Nat.cast_nonneg n)
    have few (le : n ≤ m) : settled n ≤ m := by
      rw [settled_count (le.trans bounded)]
      exact_mod_cast le
    rw [if_neg (by simp [isNaN_means counted]),if_neg (by simp [isNaN_means means])]
    split
    · rename_i less
      have less := (lt_means means counted).mp less
      exact ⟨b,means,low,high.elim id fun le => less.le.trans (few le)⟩
    · rename_i less
      have less := le_of_not_gt (mt (lt_means means counted).mpr less)
      exact ⟨_,counted,by linarith,high.elim less.trans few⟩
  · obtain rfl := beyond_positive (Nat.cast_nonneg n) large
    rw [if_neg (by simp [isNaN_infinite unbounded]),if_neg (by simp [isNaN_means means]),
      if_pos (lt_endless means unbounded)]
    refine ⟨b,means,low,high.elim id fun le => ?_⟩
    -- So large a count has no bound.
    have counted := means_ofNat (le.trans bounded)
    rw [Means,unbounded] at counted
    cases counted

-- A number between minus three and minus two has its last digit at `2 ^ -51`, so two more than it is a number too.
theorem settled_add_two (means : Means x q) (above : -3 < q) : -1 < settled (q + 2) := by
  rcases le_or_gt (-2) q with nonneg | below
  · have := settled_nonneg (q := q + 2) (by linarith)
    linarith
  · obtain ⟨s,m,e,there,same,amount⟩ := (means_cases means).resolve_left fun ⟨_,_,nothing⟩ => by linarith
    have canonical := canonical_view x
    rw [same] at canonical
    have positive : (0 : ℚ) < m * 2 ^ e := mul_pos (by exact_mod_cast there) (two_zpow_pos e)
    cases s with
    | positive =>
      rw [amount,toward] at below
      linarith
    | negative =>
      rw [amount,toward] at above below
      cases canonical with
      | finite _ _ digits least full =>
        have short : (m : ℚ) < 2 ^ (53 : ℤ) := by exact_mod_cast digits
        have low : -52 < e := by
          by_contra small
          have : (2 : ℚ) ^ (53 : ℤ) * 2 ^ e ≤ 2 ^ (1 : ℤ) := by
            rw [← zpow_add₀ (by norm_num)]
            exact zpow_le_zpow_right₀ (by norm_num) (by omega)
          have := mul_lt_mul_of_pos_right short (two_zpow_pos e)
          norm_num at *
          linarith
        have long : (2 : ℚ) ^ (52 : ℤ) ≤ m := by exact_mod_cast full.resolve_right (by omega)
        have high : e < -50 := by
          by_contra large
          have : (2 : ℚ) ^ (2 : ℤ) ≤ 2 ^ (52 : ℤ) * 2 ^ e := by
            rw [← zpow_add₀ (by norm_num)]
            exact zpow_le_zpow_right₀ (by norm_num) (by omega)
          have := mul_le_mul_of_nonneg_right long (two_zpow_pos e).le
          norm_num at *
          linarith
        obtain rfl : e = -51 := by omega
        have whole : 2 ^ 52 ≤ m := by exact_mod_cast long
        have rest : ((m - 2 ^ 52 : ℕ) : ℚ) * 2 ^ (-51 : ℤ) = m * 2 ^ (-51 : ℤ) - 2 := by
          rw [Nat.cast_sub whole]
          norm_num
          ring
        have exact := rounded_eq (m := m - 2 ^ 52) (e := -51) (by omega) (by norm_num)
        rw [rest] at exact
        rw [amount,toward,settled,if_neg (by linarith),show -(-((m : ℚ) * 2 ^ (-51 : ℤ)) + 2) = m * 2 ^ (-51 : ℤ) - 2 by ring,
          exact]
        linarith

theorem repeat?_frame {s : String} {n : ℕ} (means : Means x q) (above : -3 < q) (le : q ≤ n) (bounded : n + 2 ≤ 2 ^ 53)
    (room : (n + 2) * Text.unitLength s ≤ Text.lengthLimit) : ∃ r, Text.repeat? s (x + 2) = .ok r := by
  have low := settled_add_two means above
  have high : settled (q + 2) ≤ (n + 2 : ℕ) := by
    rw [← settled_count bounded]
    refine settled_mono ?_
    push_cast
    linarith
  have small : |settled (q + 2)| < 2 ^ (1024 : ℤ) := by
    refine lt_of_le_of_lt (abs_le.mpr ⟨?_,high⟩) ((le_abs_self _).trans_lt (count_bounded bounded))
    have : (0 : ℚ) ≤ n := Nat.cast_nonneg n
    push_cast
    linarith
  obtain ⟨k,few,counted⟩ := count?_means ((gives_add means means_two).means small) low high
  exact repeat?_counted counted few room

theorem count?_refused (most : AtMost x (-1)) : Text.count? x = .error (.badCount x) := by
  rcases most with unbounded | ⟨a,means,le⟩
  · have none : truncated? x = none := by rw [truncated?,exact_view,unbounded]
    rw [Text.count?,if_neg (by simp [isNaN_infinite unbounded]),none]
  · have below : cut a < 0 := by
      have least : (1 : ℤ) ≤ ⌊-a⌋ := Int.le_floor.mpr (by push_cast; linarith)
      rw [cut,if_neg (by linarith)]
      omega
    rw [Text.count?,if_neg (by simp [isNaN_means means]),truncated?_means means]
    exact if_pos below

theorem means_minus_one : Means (-1) (-1) := by
  have seen : view (-1) = .finite .negative (2 ^ 52) (-52) (by decide) := rfl
  rw [Means,seen,amount?,toward]
  norm_num

theorem repeat?_frameless (s : String) (means : Means x q) (below : q ≤ -3) :
    Text.repeat? s (x + 2) = .error (.badCount (x + 2)) := by
  have sum := (gives_add means means_two).atMost means_minus_one (by linarith)
  rw [Text.repeat?,count?_refused sum]
  rfl

-- No count is below zero, so what is there is the smaller of the two.
theorem smaller_negative (n : ℕ) (means : Means y b) (negative : b < 0) : smaller (Float.ofNat n) y = y := by
  have above : isNaN (Float.ofNat n) = false ∧ y < Float.ofNat n := by
    rcases gives_ofNat n with counted | ⟨s,unbounded,large⟩
    · have nonneg := settled_nonneg (q := n) (Nat.cast_nonneg n)
      exact ⟨isNaN_means counted,(lt_means means counted).mpr (by linarith)⟩
    · obtain rfl := beyond_positive (Nat.cast_nonneg n) large
      exact ⟨isNaN_infinite unbounded,lt_endless means unbounded⟩
  rw [smaller,if_neg (by simp [above.1]),if_neg (by simp [isNaN_means means]),if_pos above.2]

-- Counts that are small enough are measured against each other as the whole numbers they are.
section

variable {m n : ℕ}

theorem larger_ofNat (small : m ≤ 2 ^ 53) (small' : n ≤ 2 ^ 53) :
    larger (Float.ofNat m) (Float.ofNat n) = Float.ofNat (max m n) := by
  have left := means_ofNat small
  have right := means_ofNat small'
  have order := lt_means left right
  rw [larger,if_neg (by simp [isNaN_means left]),if_neg (by simp [isNaN_means right])]
  split
  · rename_i less
    have less : m < n := by exact_mod_cast order.mp less
    rw [max_eq_right less.le]
  · rename_i less
    have most : n ≤ m := by exact_mod_cast le_of_not_gt (mt order.mpr less)
    rw [max_eq_left most]

-- A count that stays below a number is the smaller of the two.
theorem smaller_ofNat (means : Means y b) (small : m ≤ 2 ^ 53) (most : m ≤ b) : smaller (Float.ofNat m) y = Float.ofNat m := by
  have left := means_ofNat small
  rw [smaller,if_neg (by simp [isNaN_means left]),if_neg (by simp [isNaN_means means])]
  exact if_neg (mt (lt_means means left).mp (not_lt.mpr most))

theorem means_sub (left : Means x m) (right : Means y n) (le : n ≤ m) (small : m ≤ 2 ^ 53) : Means (x - y) (m - n : ℕ) := by
  have fewer : m - n ≤ 2 ^ 53 := (Nat.sub_le m n).trans small
  have gives := gives_sub left right
  rw [← Nat.cast_sub le] at gives
  have exact := settled_count fewer
  exact exact ▸ gives.means (exact.symm ▸ count_bounded fewer)

theorem means_add (left : Means x m) (right : Means y n) (small : m + n ≤ 2 ^ 53) : Means (x + y) (m + n : ℕ) := by
  have gives := gives_add left right
  rw [← Nat.cast_add] at gives
  have exact := settled_count small
  exact exact ▸ gives.means (exact.symm ▸ count_bounded small)

theorem means_ofInt (small : n ≤ 2 ^ 53) : Means (ofInt n) n := by
  have exact := settled_count small
  have gives := gives_ofInt n
  rw [Int.cast_natCast] at gives
  exact exact ▸ gives.means (exact.symm ▸ count_bounded small)

theorem means_half (means : Means x n) (small : n ≤ 2 ^ 53) : ∃ k ≤ n, Means (floor (x / 2)) (k : ℕ) := by
  have half := gives_div means means_two (by norm_num)
  obtain ⟨q,part,nonneg,le⟩ := half.bounded means (by positivity) (half_le_self (Nat.cast_nonneg n))
  obtain ⟨k,whole⟩ := Int.eq_ofNat_of_zero_le (Int.floor_nonneg.mpr nonneg)
  have most : k ≤ n := by exact_mod_cast whole ▸ (Int.floor_le q).trans le
  refine ⟨k,most,?_⟩
  rw [floor,floor?_means part,whole]
  exact means_ofInt (most.trans small)

theorem count?_whole (means : Means x n) : Text.count? x = .ok n := by
  have whole : cut n = n := by
    rw [cut,if_pos (Nat.cast_nonneg n),Int.floor_natCast]
  rw [Text.count?,if_neg (by simp [isNaN_means means]),truncated?_means means,whole]
  exact if_neg (not_lt.mpr (Int.natCast_nonneg n))

theorem repeat?_whole {s told : String} (means : Means x n) (some : s ≠ "") (ended : Text.repeat? s x = .ok told) :
    told = Text.repeated n s := by
  have filled : s.isEmpty = false := by simpa using some
  rw [Text.repeat?,count?_whole means] at ended
  change (if s.isEmpty then pure "" else if Text.lengthLimit < n * Text.unitLength s then throw Misuse.tooLong
    else pure (Text.repeated n s) : Except Misuse String) = .ok told at ended
  rw [filled,if_neg (by decide)] at ended
  split at ended
  · cases ended
  · exact (Except.ok.inj ended).symm

end

end Trifold.Number
