import Mathlib
import Trifold.Value.Same

namespace Trifold.Number
open Float.Model UnpackedFloat

def view (x : Float) : UnpackedFloat := x.toModel.unpack

-- One view, or two zeros.
def Like (u v : UnpackedFloat) : Prop := u = v ∨ ∃ s t, u = .zero s ∧ v = .zero t

theorem Like.refl (u : UnpackedFloat) : Like u u := .inl rfl

theorem Like.symm {u v : UnpackedFloat} (like : Like u v) : Like v u := by
  rcases like with rfl | ⟨s,t,left,right⟩
  · exact .refl _
  · exact .inr ⟨t,s,right,left⟩

theorem Like.trans {u v w : UnpackedFloat} (first : Like u v) (second : Like v w) : Like u w := by
  rcases first with rfl | ⟨s,t,left,right⟩
  · exact second
  · rcases second with rfl | ⟨s',t',left',right'⟩
    · exact .inr ⟨s,t,left,right⟩
    · exact .inr ⟨s,t',left,right'⟩

theorem compare_sign {s t : Sign} : compare s t = .eq ↔ s = t := by
  cases s <;> cases t <;> simp [compare]

theorem beq_unpacked {u v : UnpackedFloat} : u.beq v = true ↔ u ≠ .notANumber ∧ Like u v := by
  unfold UnpackedFloat.beq Like
  rw [beq_iff_eq]
  cases u with
  | notANumber => simp [UnpackedFloat.compare]
  | zero s => cases v with
    | finite t m e pos => cases t <;> simp [UnpackedFloat.compare]
    | infinity t => cases t <;> simp [UnpackedFloat.compare]
    | _ => simp [UnpackedFloat.compare]
  | infinity s => cases v with
    | infinity t => simp [UnpackedFloat.compare,compare_sign]
    | _ => cases s <;> simp [UnpackedFloat.compare]
  | finite s m e pos => cases v with
    | finite t n f pos' =>
      cases s <;> cases t <;> simp [UnpackedFloat.compare,Ordering.swap_eq_eq,and_comm]
    | infinity t => cases t <;> simp [UnpackedFloat.compare]
    | _ => cases s <;> simp [UnpackedFloat.compare]

theorem exact_view (x : Float) : exact x = match view x with
    | .notANumber => .nan
    | .infinity sign => .infinite (sign == .negative)
    | .zero sign => .zero (sign == .negative)
    | .finite sign mantissa exponent _ => .finite (sign == .negative) mantissa exponent := rfl

theorem isNaN_iff {x : Float} : isNaN x = true ↔ view x = .notANumber := by
  rw [isNaN,exact_view]
  cases view x <;> simp

theorem same_iff {x y : Float} : same x y = true ↔ Like (view x) (view y) := by
  have compared : (x == y) = (view x).beq (view y) := rfl
  rw [same,Bool.or_eq_true,Bool.and_eq_true,compared,beq_unpacked,isNaN_iff,isNaN_iff]
  constructor
  · rintro (⟨_,like⟩ | ⟨left,right⟩)
    · exact like
    · rw [left,right]
      exact .refl _
  · intro like
    by_cases none : view x = .notANumber
    · refine .inr ⟨none,?_⟩
      rcases like with equal | ⟨s,t,left,_⟩
      · exact equal ▸ none
      · rw [left] at none
        cases none
    · exact .inl ⟨none,like⟩

theorem same_refl (x : Float) : same x x = true := same_iff.mpr (.refl _)

theorem same_symm {x y : Float} (equal : same x y = true) : same y x = true :=
  same_iff.mpr (same_iff.mp equal).symm

theorem same_trans {x y z : Float} (first : same x y = true) (second : same y z = true) : same x z = true :=
  same_iff.mpr ((same_iff.mp first).trans (same_iff.mp second))

end Trifold.Number
