import Trifold.Proofs.Number.Rounding

namespace Trifold.Number
open Float.Model UnpackedFloat

def Means (x : Float) (q : ℚ) : Prop := amount? (view x) = some q

variable {x y : Float} {a b q : ℚ}

theorem toNat_exponent_pos {b : BitVec 11} (some : b ≠ 0#11) : 0 < b.toNat :=
  Nat.pos_of_ne_zero fun none => some (BitVec.eq_of_toNat_eq none)

theorem toNat_exponent_lt {b : BitVec 11} (open_ : b ≠ -1#11) : b.toNat < 2047 := by
  have small : b.toNat < 2048 := b.isLt
  have apart : b.toNat ≠ 2047 := fun full => open_ (BitVec.eq_of_toNat_eq full)
  omega

-- What is unpacked has an exponent that the format has room for.
theorem view_finite {s : Sign} {m : ℕ} {e : ℤ} {some : 0 < m} (same : view x = .finite s m e some) :
    Canonical (.finite s m e some) ∧ e ≤ 971 := by
  change UnpackedFloat.unpack Format.binary64 x.toModel.toBits.toBitVec = _ at same
  have read := unpack_class x.toModel.toBits.toBitVec
  have short : (@unpackMantissa Format.binary64 x.toModel.toBits.toBitVec).toNat < 2 ^ 52 := BitVec.isLt _
  rw [same] at read
  cases read with
  | subnormal => exact ⟨.finite _ some (by omega) le_rfl (.inr rfl),by norm_num⟩
  | normal low high =>
    have least := toNat_exponent_pos low
    have most := toNat_exponent_lt high
    exact ⟨.finite _ some (by omega) (by omega) (.inl (by omega)),by omega⟩

theorem canonical_view (x : Float) : Canonical (view x) := by
  cases same : view x with
  | zero s => exact .zero s
  | infinity s => exact .infinity s
  | notANumber => exact .notANumber
  | finite => exact (view_finite same).1

theorem toward_abs {q : ℚ} (nonneg : 0 ≤ q) (s : Sign) : |toward s q| = q := by
  cases s
  · exact (abs_neg q).trans (abs_of_nonneg nonneg)
  · exact abs_of_nonneg nonneg

theorem means_bounded (means : Means x q) : |q| < 2 ^ (1024 : ℤ) := by
  unfold Means at means
  cases same : view x with
  | infinity | notANumber =>
    rw [same] at means
    cases means
  | zero =>
    rw [same] at means
    cases means
    rw [abs_zero]
    exact two_zpow_pos 1024
  | @finite s m e some =>
    obtain ⟨canonical,range⟩ := view_finite same
    rw [same] at means
    cases means
    cases canonical with
    | finite _ _ digits =>
      rw [toward_abs (mul_nonneg (Nat.cast_nonneg m) (two_zpow_pos e).le)]
      have short : (m : ℚ) < 2 ^ (53 : ℤ) := by exact_mod_cast digits
      calc (m : ℚ) * 2 ^ e < 2 ^ (53 : ℤ) * 2 ^ e := mul_lt_mul_of_pos_right short (two_zpow_pos e)
        _ = 2 ^ (53 + e) := (zpow_add₀ (by norm_num) 53 e).symm
        _ ≤ 2 ^ (1024 : ℤ) := zpow_le_zpow_right₀ (by norm_num) (by omega)

theorem unpackSign_packComponents {sign : Sign} {exponent : BitVec 11} {mantissa : BitVec 52} :
    unpackSign (packComponents Format.binary64 sign exponent mantissa) = sign.toBitVec := by
  ext i inside
  have only : i = 0 := by omega
  subst only
  have last : (sign.toBitVec ++ exponent ++ mantissa).getLsbD 63 = sign.toBitVec[0] := by
    simp only [BitVec.getLsbD_append]
    simp
  simp [unpackSign,packComponents]
  exact last

theorem ofBitVec_toBitVec (s : Sign) : Sign.ofBitVec s.toBitVec = s := by cases s <;> rfl

-- What is packed is read back, and has no bound where its exponent has no room.
theorem view_ofView {s : Sign} {m : ℕ} {e : ℤ} {some : 0 < m} (canonical : Canonical (.finite s m e some)) :
    view (ofView (.finite s m e some)) = if e ≤ 971 then .finite s m e some else .infinity s := by
  change UnpackedFloat.unpack Format.binary64 (UnpackedFloat.pack Format.binary64 (.finite s m e some)) = _
  cases canonical with
  | finite _ _ digits least full =>
    have biased : e + Format.binary64.exponentBias + Format.binary64.mantissaBitsWithoutImplicit = e + 1075 := by
      rw [add_assoc]
      rfl
    by_cases large : 2 ^ 11 ≤ (e + 1075).toNat + 1
    · rw [if_neg (by omega)]
      simp only [UnpackedFloat.pack,biased,if_pos large]
      cases s <;> rfl
    · rw [if_pos (by omega)]
      simp only [UnpackedFloat.pack,biased,if_neg large]
      rcases lt_or_ge m (2 ^ 52) with few | many
      · have short : ¬ m.log2 + 1 = Format.binary64.mantissaBits := by
          have := (Nat.log2_lt (Nat.ne_of_gt some)).mpr few
          simp only [Format.mantissaBits]
          omega
        have mantissa : (BitVec.ofNat 52 m).toNat = m := Nat.mod_eq_of_lt few
        obtain rfl := full.resolve_left (by omega)
        rw [if_neg short]
        generalize made : packComponents Format.binary64 s 0#_ (BitVec.ofNat _ m) = b
        have exponent' : unpackExponent b = 0#11 := made ▸ unpackExponent_packComponents
        have mantissa' : unpackMantissa b = BitVec.ofNat 52 m := made ▸ unpackMantissa_packComponents
        have sign : unpackSign b = s.toBitVec := made ▸ unpackSign_packComponents
        have read := unpack_class b
        generalize UnpackedFloat.unpack Format.binary64 b = u at read
        cases read with
        | infinity full | notANumber full => exact absurd (exponent'.symm.trans full) (by decide)
        | normal low => exact absurd exponent' low
        | zero _ none =>
          have none := congrArg BitVec.toNat (mantissa'.symm.trans none)
          rw [mantissa] at none
          exact absurd none (Nat.ne_of_gt some)
        | subnormal =>
          simp only [sign,mantissa',mantissa,ofBitVec_toBitVec]
      · have full : m.log2 + 1 = Format.binary64.mantissaBits := by
          have low := (Nat.le_log2 (Nat.ne_of_gt some)).mpr many
          have high := (Nat.log2_lt (Nat.ne_of_gt some)).mpr digits
          simp only [Format.mantissaBits]
          omega
        have exponent : (BitVec.ofNat 11 (e + 1075).toNat).toNat = (e + 1075).toNat := Nat.mod_eq_of_lt (by omega)
        have mantissa : 2 ^ 52 + (BitVec.ofNat 52 m).toNat = m := by
          rw [BitVec.toNat_ofNat]
          omega
        have apart (other : BitVec 11) (far : (e + 1075).toNat ≠ other.toNat) :
            BitVec.ofNat 11 (e + 1075).toNat ≠ other := fun same => far (exponent.symm.trans (congrArg BitVec.toNat same))
        rw [if_pos full]
        generalize made : packComponents Format.binary64 s (BitVec.ofNat _ (e + 1075).toNat) (BitVec.ofNat _ m) = b
        have exponent' : unpackExponent b = BitVec.ofNat 11 (e + 1075).toNat := made ▸ unpackExponent_packComponents
        have mantissa' : unpackMantissa b = BitVec.ofNat 52 m := made ▸ unpackMantissa_packComponents
        have sign : unpackSign b = s.toBitVec := made ▸ unpackSign_packComponents
        have read := unpack_class b
        generalize UnpackedFloat.unpack Format.binary64 b = u at read
        cases read with
        | infinity full | notANumber full => exact absurd (exponent'.symm.trans full) (apart _ (by simp; omega))
        | zero none | subnormal none => exact absurd (exponent'.symm.trans none) (apart _ (by simp; omega))
        | normal =>
          have back : ((e + 1075).toNat : ℤ) - 1075 = e := by omega
          simp only [sign,mantissa',mantissa,exponent',exponent,back,ofBitVec_toBitVec]

-- A number that comes of a rational one: that, rounded, or without a bound where that is out of range.
inductive Gives (x : Float) (q : ℚ) : Prop
  | within (means : Means x (settled q))
  | beyond (s : Sign) (unbounded : view x = .infinity s) (large : 2 ^ (1024 : ℤ) ≤ toward s (settled q))

theorem gives_ofView {u : UnpackedFloat} (rounds : Rounds u q) : Gives (ofView u) q := by
  obtain ⟨canonical,amount⟩ := rounds
  cases canonical with
  | infinity | notANumber => cases amount
  | zero s =>
    refine .within (Eq.trans ?_ amount)
    cases s <;> rfl
  | @finite s m e some digits least full =>
    have read := view_ofView (.finite s some digits least full)
    by_cases range : e ≤ 971
    · rw [if_pos range] at read
      exact .within ((congrArg amount? read).trans amount)
    · rw [if_neg range] at read
      refine .beyond s read ?_
      have turned : toward s (settled q) = m * 2 ^ e := by
        rw [← Option.some.inj amount]
        cases s
        · exact neg_neg _
        · rfl
      have long : (2 : ℚ) ^ (52 : ℤ) ≤ m := by exact_mod_cast full.resolve_right (by omega)
      rw [turned]
      calc (2 : ℚ) ^ (1024 : ℤ) ≤ 2 ^ (52 + e) := zpow_le_zpow_right₀ (by norm_num) (by omega)
        _ = 2 ^ (52 : ℤ) * 2 ^ e := zpow_add₀ (by norm_num) 52 e
        _ ≤ m * 2 ^ e := mul_le_mul_of_nonneg_right long (two_zpow_pos e).le

section

variable (left : Means x a) (right : Means y b)
include left right

theorem gives_add : Gives (x + y) (a + b) := gives_ofView (add_rounds (canonical_view x) (canonical_view y) left right)

theorem gives_sub : Gives (x - y) (a - b) := gives_ofView (sub_rounds (canonical_view x) (canonical_view y) left right)

theorem gives_mul : Gives (x * y) (a * b) := gives_ofView (mul_rounds (canonical_view x) (canonical_view y) left right)

theorem gives_div (some : b ≠ 0) : Gives (x / y) (a / b) :=
  gives_ofView (div_rounds (canonical_view x) (canonical_view y) left right some)

end

end Trifold.Number
