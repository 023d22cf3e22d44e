import Trifold.Proofs.Number.Amount

namespace Trifold.Number
open Float.Model UnpackedFloat

variable {x y z : Float} {a b c q : ℚ}

theorem settled_mono {p q : ℚ} (le : p ≤ q) : settled p ≤ settled q := by
  unfold settled
  split_ifs with first second second
  · exact rounded_mono first le
  · exact absurd (first.trans le) second
  · have := rounded_nonneg second
    have := rounded_nonneg (neg_nonneg.mpr (le_of_not_ge first))
    linarith
  · have := rounded_mono (neg_nonneg.mpr (le_of_not_ge second)) (neg_le_neg le)
    linarith

theorem settled_means (means : Means x q) : settled q = q := settled_amount (canonical_view x) means

theorem settled_whole {n : ℤ} (small : n.natAbs ≤ 2 ^ 53) : settled n = n := by
  have whole {m : ℕ} (small : m ≤ 2 ^ 53) : rounded m = m := by
    rcases small.lt_or_eq with less | rfl
    · simpa using rounded_eq less (e := 0) (by norm_num)
    · have power := rounded_eq (m := 2 ^ 52) (e := 1) (by norm_num) (by norm_num)
      norm_num at power ⊢
      exact power
  have same := whole small
  unfold settled
  split
  · rename_i nonneg
    have above : 0 ≤ n := by exact_mod_cast nonneg
    rwa [Nat.cast_natAbs,abs_of_nonneg above] at same
  · rename_i negative
    have below : n ≤ 0 := by exact_mod_cast (not_le.mp negative).le
    rw [Nat.cast_natAbs,abs_of_nonpos below,Int.cast_neg] at same
    rw [same,neg_neg]

-- Of two numbers above zero the one with the larger exponent is larger, and with one exponent the mantissas decide.
theorem finite_lt {m n : ℕ} {e f : ℤ} (digits : m < 2 ^ 53) (least : -1074 ≤ e) (full : 2 ^ 52 ≤ n ∨ f = -1074)
    (less : e < f) : (m : ℚ) * 2 ^ e < n * 2 ^ f := by
  have long : (2 : ℚ) ^ (52 : ℤ) ≤ n := by exact_mod_cast full.resolve_right (by omega)
  have short : (m : ℚ) < 2 ^ (53 : ℤ) := by exact_mod_cast digits
  calc (m : ℚ) * 2 ^ e < 2 ^ (53 : ℤ) * 2 ^ e := mul_lt_mul_of_pos_right short (two_zpow_pos e)
    _ = 2 ^ (53 + e) := (zpow_add₀ (by norm_num) 53 e).symm
    _ ≤ 2 ^ (52 + f) := zpow_le_zpow_right₀ (by norm_num) (by omega)
    _ = 2 ^ (52 : ℤ) * 2 ^ f := zpow_add₀ (by norm_num) 52 f
    _ ≤ n * 2 ^ f := mul_le_mul_of_nonneg_right long (two_zpow_pos f).le

theorem compare_finite {m n : ℕ} {e f : ℤ} (digits : m < 2 ^ 53) (digits' : n < 2 ^ 53) (least : -1074 ≤ e)
    (least' : -1074 ≤ f) (full : 2 ^ 52 ≤ m ∨ e = -1074) (full' : 2 ^ 52 ≤ n ∨ f = -1074) :
    (compare e f).then (compare m n) = .lt ↔ (m : ℚ) * 2 ^ e < n * 2 ^ f := by
  rcases lt_trichotomy e f with less | rfl | more
  · rw [Int.compare_eq_lt.mpr less]
    exact ⟨fun _ => finite_lt digits least full' less,fun _ => rfl⟩
  · rw [Int.compare_eq_eq.mpr rfl,mul_lt_mul_iff_left₀ (two_zpow_pos e),Nat.cast_lt]
    exact Nat.compare_eq_lt
  · rw [Int.compare_eq_gt.mpr more]
    have above := finite_lt digits' least' full more
    exact ⟨fun wrong => (by cases wrong),fun wrong => absurd wrong above.not_gt⟩

theorem lt_amount {u v : UnpackedFloat} (left : Canonical u) (right : Canonical v) (first : amount? u = some a)
    (second : amount? v = some b) : u.lt v = true ↔ a < b := by
  rw [UnpackedFloat.lt,beq_iff_eq]
  cases left with
  | infinity | notANumber => cases first
  | zero s =>
    cases first
    cases right with
    | infinity | notANumber => cases second
    | zero t =>
      cases second
      simp [UnpackedFloat.compare]
    | @finite t n f some =>
      cases second
      have positive : (0 : ℚ) < n * 2 ^ f := mul_pos (by exact_mod_cast some) (two_zpow_pos f)
      cases t
      · simp only [UnpackedFloat.compare,toward,neg_pos,positive.not_gt]
        simp
      · simp only [UnpackedFloat.compare,toward,positive]
  | @finite s m e some digits least full =>
    cases first
    have positive : (0 : ℚ) < m * 2 ^ e := mul_pos (by exact_mod_cast some) (two_zpow_pos e)
    cases right with
    | infinity | notANumber => cases second
    | zero t =>
      cases second
      cases s
      · simp only [UnpackedFloat.compare,toward,neg_neg_iff_pos,positive]
      · simp only [UnpackedFloat.compare,toward,positive.not_gt]
        simp
    | @finite t n f some' digits' least' full' =>
      cases second
      have positive' : (0 : ℚ) < n * 2 ^ f := mul_pos (by exact_mod_cast some') (two_zpow_pos f)
      cases s <;> cases t
      · simp only [UnpackedFloat.compare,toward,neg_lt_neg_iff,Option.some.injEq]
        rw [Ordering.swap_then,Int.compare_swap,Nat.compare_swap]
        exact compare_finite digits' digits least' least full' full
      · simp only [UnpackedFloat.compare,toward]
        exact ⟨fun _ => by linarith,fun _ => trivial⟩
      · simp only [UnpackedFloat.compare,toward]
        exact ⟨fun wrong => (by cases wrong),fun wrong => by linarith⟩
      · simp only [UnpackedFloat.compare,toward,Option.some.injEq]
        exact compare_finite digits digits' least least' full full'

theorem lt_means (left : Means x a) (right : Means y b) : x < y ↔ a < b :=
  lt_view.trans (lt_amount (canonical_view x) (canonical_view y) left right)

theorem isNaN_means (means : Means x q) : isNaN x = false := by
  rw [Bool.eq_false_iff]
  intro none
  rw [Means,isNaN_iff.mp none] at means
  cases means

theorem means_finite (finite : isFinite x = true) : ∃ q, Means x q := by
  rw [isFinite,exact_view] at finite
  unfold Means
  cases same : view x with
  | zero | finite => exact ⟨_,rfl⟩
  | infinity | notANumber =>
    rw [same] at finite
    cases finite

theorem twoTo_cast (n : ℕ) : ((twoTo n : ℕ) : ℚ) = 2 ^ n := Nat.cast_pow 2 n

theorem mul_twoTo (m e : ℕ) : (m : ℚ) * 2 ^ Int.ofNat e = (m * twoTo e : ℕ) := by
  rw [Nat.cast_mul,twoTo_cast]
  rfl

theorem div_twoTo (m e : ℕ) : (m : ℚ) * 2 ^ Int.negSucc e = m / (twoTo (e + 1) : ℕ) := by
  rw [zpow_negSucc,← div_eq_mul_inv,twoTo_cast]

theorem signed_toward (s : Sign) (n : ℕ) : ((signed (s == .negative) n : ℤ) : ℚ) = toward s n := by
  cases s
  · exact Int.cast_neg _
  · rfl

theorem toward_mul_pos (s : Sign) (q r : ℚ) : toward s (q * r) = toward s q * r := by
  cases s
  · exact (neg_mul q r).symm
  · rfl

theorem toward_div_pos (s : Sign) (q r : ℚ) : toward s (q / r) = toward s q / r := by
  cases s
  · exact (neg_div r q).symm
  · rfl

-- The digits behind the point are cut off towards zero.
def cut (q : ℚ) : ℤ := if 0 ≤ q then ⌊q⌋ else -⌊-q⌋

theorem cut_toward {q : ℚ} (positive : 0 < q) (s : Sign) : cut (toward s q) = signed (s == .negative) ⌊q⌋₊ := by
  have floor : (⌊q⌋₊ : ℤ) = ⌊q⌋ := Int.natCast_floor_eq_floor positive.le
  unfold cut
  cases s
  · have below : ¬ 0 ≤ toward .negative q := by simpa [toward] using positive
    rw [if_neg below,toward,neg_neg,← floor]
    rfl
  · have above : 0 ≤ toward .positive q := positive.le
    rw [if_pos above,toward,← floor]
    rfl

theorem fdiv_twoTo (n : ℤ) (e : ℕ) : n.fdiv (twoTo e : ℕ) = ⌊(n : ℚ) / (twoTo e : ℕ)⌋ := by
  rw [Int.fdiv_eq_ediv_of_nonneg _ (Int.natCast_nonneg _),Rat.floor_intCast_div_natCast]

theorem means_cases (means : Means x q) :
    (∃ s, view x = .zero s ∧ q = 0) ∨ ∃ s m e there, view x = .finite s m e there ∧ q = toward s (m * 2 ^ e) := by
  unfold Means at means
  cases same : view x with
  | infinity | notANumber =>
    rw [same] at means
    cases means
  | zero s =>
    rw [same] at means
    exact .inl ⟨s,rfl,(Option.some.inj means).symm⟩
  | finite s m e there =>
    rw [same] at means
    exact .inr ⟨s,m,e,there,rfl,(Option.some.inj means).symm⟩

theorem truncated?_means (means : Means x q) : truncated? x = some (cut q) := by
  rw [truncated?,exact_view]
  rcases means_cases means with ⟨s,same,rfl⟩ | ⟨s,m,e,there,same,rfl⟩
  · simp [same,cut]
  · rw [same,cut_toward (mul_pos (by exact_mod_cast there) (two_zpow_pos e))]
    cases e with
    | ofNat e => rw [mul_twoTo,Nat.floor_natCast]
    | negSucc e => rw [div_twoTo,Nat.floor_div_eq_div]

theorem floor?_means (means : Means x q) : floor? x = some ⌊q⌋ := by
  rw [floor?,exact_view]
  rcases means_cases means with ⟨s,same,rfl⟩ | ⟨s,m,e,there,same,rfl⟩
  · simp [same]
  · rw [same]
    cases e with
    | ofNat e => rw [mul_twoTo,← signed_toward,Int.floor_intCast]
    | negSucc e => rw [div_twoTo,toward_div_pos,← signed_toward,← fdiv_twoTo]

theorem rounded?_means (means : Means x q) : rounded? x = some ⌊q + 1 / 2⌋ := by
  rw [rounded?,exact_view]
  rcases means_cases means with ⟨s,same,rfl⟩ | ⟨s,m,e,there,same,rfl⟩
  · norm_num [same]
  · rw [same]
    cases e with
    | ofNat e =>
      rw [mul_twoTo,← signed_toward,Int.floor_intCast_add]
      norm_num
    | negSucc e =>
      have doubled : (twoTo (e + 2) : ℚ) = twoTo (e + 1) * 2 := by rw [twoTo_cast,twoTo_cast,pow_succ]
      have positive : (0 : ℚ) < twoTo (e + 1) := by
        rw [twoTo_cast]
        exact pow_pos (by norm_num) _
      rw [div_twoTo,toward_div_pos,← signed_toward]
      dsimp only
      rw [fdiv_twoTo,doubled]
      congr 2
      push_cast
      field_simp

-- Only what is large is beyond every bound.
theorem Gives.means (gives : Gives x q) (small : |settled q| < 2 ^ (1024 : ℤ)) : Means x (settled q) := by
  rcases gives with means | ⟨s,unbounded,large⟩
  · exact means
  · have below : toward s (settled q) ≤ |settled q| := by
      cases s
      · exact neg_le_abs _
      · exact le_abs_self _
    exact absurd (large.trans below) (not_le.mpr small)

theorem settled_count {n : ℕ} (small : n ≤ 2 ^ 53) : settled n = n := settled_whole (n := n) (by simpa using small)

theorem count_bounded {n : ℕ} (small : n ≤ 2 ^ 53) : |(n : ℚ)| < 2 ^ (1024 : ℤ) := by
  rw [abs_of_nonneg (Nat.cast_nonneg n)]
  calc (n : ℚ) ≤ 2 ^ (53 : ℤ) := by exact_mod_cast small
    _ < 2 ^ (1024 : ℤ) := zpow_lt_zpow_right₀ (by norm_num) (by norm_num)

-- A whole number from zero on is the number that counts so far, rounded where it has too many digits.
theorem gives_ofNat (n : ℕ) : Gives (Float.ofNat n) n := by
  change Gives (Float.ofScientific n false 0) n
  unfold Float.ofScientific
  split
  · rename_i small
    have whole : n.toUInt64.toNat = n := Nat.mod_eq_of_lt (Nat.lt_trans small.1 (by decide))
    have converted : Gives n.toUInt64.toFloat n := by
      have rounds := normalize_rounds n.toUInt64.toNat 0 .positive
      rw [whole,zpow_zero,mul_one] at rounds
      refine gives_ofView (u := UnpackedFloat.ofNat Format.binary64 n.toUInt64.toNat) ?_
      rw [whole]
      exact rounds
    have one : Means (Float.ofBits 0x3FF0000000000000) 1 := by
      have seen : view (Float.ofBits 0x3FF0000000000000) = .finite .positive (2 ^ 52) (-52) (by decide) := rfl
      rw [Means,seen,amount?,toward]
      norm_num
    have exact := settled_count small.1.le
    have means := converted.means (exact.symm ▸ count_bounded small.1.le)
    have product := gives_mul means one
    rw [exact,mul_one] at product
    exact product
  · rename_i large
    have some : n ≠ 0 := by
      rintro rfl
      exact large (by decide)
    have positive : (0 : ℚ) < n := by exact_mod_cast Nat.pos_of_ne_zero some
    have least : ¬ (0 : ℤ) < -((2 ^ Format.binary64.exponentBits : ℤ) + n.log2) := by
      have bits : (2 ^ Format.binary64.exponentBits : ℤ) = 2048 := rfl
      omega
    refine gives_ofView (u := UnpackedFloat.ofScientific Format.binary64 n 0) ?_
    rw [UnpackedFloat.ofScientific,dif_neg some,if_neg (by decide),if_neg least,if_pos le_rfl]
    simp only [UnpackedFloat.mul]
    refine roundWithAccuracy_rounds positive ?_ ?_ .positive
    · have scaled : (n : ℚ) / 2 ^ (-(Format.binary64.mantissaBits : ℤ) + 0) =
          (n <<< Format.binary64.mantissaBits * 10 ^ Int.toNat 0 : ℕ) := by
        rw [Nat.shiftLeft_eq]
        push_cast
        simp [zpow_neg]
      rw [scaled]
      exact stands_exact _
    · have ten : 10 ^ Int.toNat 0 = 1 := rfl
      have bits : Format.binary64.mantissaBits = 53 := rfl
      have width := log2_shiftLeft some (k := 53)
      simp only [Format.targetExponent,totalExponent,bits,ten,Nat.mul_one,width,Format.minExponent]
      omega

theorem means_ofNat {n : ℕ} (small : n ≤ 2 ^ 53) : Means (Float.ofNat n) n := by
  have exact := settled_count small
  have means := (gives_ofNat n).means (exact.symm ▸ count_bounded small)
  rwa [exact] at means

theorem means_zero : Means 0 0 := rfl

theorem settled_nonneg {q : ℚ} (nonneg : 0 ≤ q) : 0 ≤ settled q := by
  rw [settled,if_pos nonneg]
  exact rounded_nonneg nonneg

theorem settled_neg (q : ℚ) : settled (-q) = -settled q := by
  rcases lt_trichotomy q 0 with less | rfl | more
  · rw [settled,if_pos (by linarith),settled,if_neg (by linarith),neg_neg]
  · rw [neg_zero,settled_means means_zero,neg_zero]
  · rw [settled,if_neg (by linarith),settled,if_pos more.le,neg_neg]

theorem view_infinite (s : Sign) : view (ofView (.infinity s)) = .infinity s := by cases s <;> rfl

theorem beyond_positive {s : Sign} (nonneg : 0 ≤ q) (large : 2 ^ (1024 : ℤ) ≤ toward s (settled q)) : s = .positive := by
  cases s with
  | positive => rfl
  | negative =>
    have below := large.trans (neg_nonpos.mpr (settled_nonneg nonneg))
    exact absurd below (not_le.mpr (two_zpow_pos 1024))

theorem gives_neg (gives : Gives x q) : Gives (-x) (-q) := by
  change Gives (ofView (view x).neg) (-q)
  rcases gives with means | ⟨s,unbounded,large⟩
  · refine gives_ofView ?_
    rcases means_cases means with ⟨s,same,zero⟩ | ⟨s,m,e,there,same,amount⟩
    · refine ⟨same ▸ .zero _,?_⟩
      rw [same,settled_neg,zero,neg_zero]
      rfl
    · have canonical := canonical_view x
      rw [same] at canonical
      cases canonical with
      | finite _ _ digits least full =>
        refine ⟨same ▸ .finite _ there digits least full,?_⟩
        rw [same,settled_neg,amount]
        cases s
        · exact congrArg some (neg_neg _).symm
        · rfl
  · refine .beyond (-s) ?_ ?_
    · rw [unbounded]
      exact view_infinite (-s)
    · rw [settled_neg]
      cases s
      · exact large
      · exact large.trans (neg_neg _).ge

theorem gives_ofInt (n : ℤ) : Gives (ofInt n) n := by
  unfold ofInt
  split
  · rename_i below
    have turned : ((n.natAbs : ℕ) : ℚ) = -n := by
      rw [Nat.cast_natAbs,abs_of_neg below,Int.cast_neg]
    have gives := gives_neg (gives_ofNat n.natAbs)
    rwa [turned,neg_neg] at gives
  · rename_i above
    have same : ((n.natAbs : ℕ) : ℚ) = n := by
      rw [Nat.cast_natAbs,abs_of_nonneg (not_lt.mp above)]
    have gives := gives_ofNat n.natAbs
    rwa [same] at gives

theorem ofNat_positive {n : ℕ} (some : n ≠ 0) : 0 < Float.ofNat n := by
  have least : (1 : ℚ) ≤ n := by exact_mod_cast Nat.one_le_iff_ne_zero.mpr some
  rcases gives_ofNat n with means | ⟨s,unbounded,large⟩
  · have one := settled_mono least
    rw [show (1 : ℚ) = (1 : ℤ) from rfl,settled_whole (by norm_num)] at one
    rw [lt_means means_zero means]
    exact lt_of_lt_of_le (by norm_num) one
  · obtain rfl := beyond_positive (Nat.cast_nonneg n) large
    rw [lt_view,unbounded]
    rfl

-- At most so large: without a bound below zero, or a rational number up to that one.
def AtMost (x : Float) (b : ℚ) : Prop := view x = .infinity .negative ∨ ∃ a, Means x a ∧ a ≤ b

-- From zero up to a bound.
def Within (x : Float) (b : ℚ) : Prop := ∃ a, Means x a ∧ 0 ≤ a ∧ a ≤ b

theorem Within.mono (within : Within x b) (le : b ≤ c) : Within x c := by
  obtain ⟨a,means,nonneg,most⟩ := within
  exact ⟨a,means,nonneg,most.trans le⟩

theorem compare_swap (u v : UnpackedFloat) : v.compare u = (u.compare v).map Ordering.swap := by
  cases u with
  | notANumber => cases v <;> rfl
  | infinity s => cases s <;> cases v with
    | infinity t => cases t <;> rfl
    | _ => rfl
  | zero s => cases v with
    | infinity t => cases t <;> rfl
    | finite t => cases t <;> rfl
    | _ => rfl
  | finite s m e some => cases v with
    | infinity t => cases s <;> cases t <;> rfl
    | notANumber => cases s <;> rfl
    | zero t => cases s <;> rfl
    | finite t n f some' =>
      cases s <;> cases t <;> simp [UnpackedFloat.compare,Ordering.swap_then,Int.compare_swap,Nat.compare_swap]

theorem le_view : x ≤ y ↔ (view x).le (view y) = true := decide_eq_true_iff

theorem not_lt_of_le (le : x ≤ y) : ¬ y < x := by
  intro lt
  rw [le_view,UnpackedFloat.le] at le
  rw [lt_view,UnpackedFloat.lt,beq_iff_eq,compare_swap] at lt
  cases told : (view x).compare (view y) with
  | none => simp [told] at le
  | some order => cases order <;> simp_all

theorem atMost_of_le (le : x ≤ y) (bound : Means y b) : AtMost x b := by
  have finite {a : ℚ} (means : Means x a) : AtMost x b :=
    .inr ⟨a,means,not_lt.mp fun above => not_lt_of_le le ((lt_means bound means).mpr above)⟩
  have least := le_view.mp le
  cases same : view x with
  | infinity s =>
    cases s with
    | negative => exact .inl same
    | positive =>
      rw [same,UnpackedFloat.le] at least
      rcases means_cases bound with ⟨t,there,_⟩ | ⟨t,m,e,_,there,_⟩
      · rw [there] at least
        cases least
      · rw [there] at least
        cases least
  | notANumber =>
    rw [same] at least
    cases least
  | zero s => exact finite (congrArg amount? same)
  | finite s m e some => exact finite (congrArg amount? same)

theorem Gives.atMost (gives : Gives x q) (bound : Means y b) (le : q ≤ b) : AtMost x b := by
  have below := settled_mono le
  rw [settled_means bound] at below
  rcases gives with means | ⟨s,unbounded,large⟩
  · exact .inr ⟨_,means,below⟩
  · cases s with
    | negative => exact .inl unbounded
    | positive => exact absurd ((large.trans below).trans (le_abs_self b)) (not_le.mpr (means_bounded bound))

theorem Gives.bounded (gives : Gives x q) (bound : Means y b) (nonneg : 0 ≤ q) (le : q ≤ b) : Within x b := by
  have above := settled_nonneg nonneg
  have below := settled_mono le
  rw [settled_means bound] at below
  refine ⟨_,gives.means ?_,above,below⟩
  rw [abs_of_nonneg above]
  exact (below.trans (le_abs_self b)).trans_lt (means_bounded bound)

end Trifold.Number
