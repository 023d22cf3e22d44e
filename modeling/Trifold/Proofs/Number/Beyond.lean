import Trifold.Proofs.Number.Count
import Trifold.Proofs.Number.Sign

namespace Trifold.Number
open Float.Model UnpackedFloat

variable {x y z : Float} {a b q : ℚ}

theorem view_infinity : view infinity = .infinity .positive := rfl

-- Where a number lies between the two ends.
def place? : UnpackedFloat → Option (WithBot (WithTop ℚ))
  | .infinity .negative => some ⊥
  | .infinity .positive => some ⊤
  | .notANumber => none
  | .zero _ => some ((0 : ℚ) : WithTop ℚ)
  | .finite s m e _ => some ((toward s (m * 2 ^ e) : ℚ) : WithTop ℚ)

theorem place?_amount {u : UnpackedFloat} (amount : amount? u = some a) : place? u = some ((a : ℚ) : WithTop ℚ) := by
  cases u with
  | zero | finite =>
    cases amount
    rfl
  | infinity | notANumber => cases amount

theorem amount_cases (u : UnpackedFloat) : u = .notANumber ∨ (∃ s, u = .infinity s) ∨ ∃ a, amount? u = some a := by
  cases u with
  | notANumber => exact .inl rfl
  | infinity s => exact .inr (.inl ⟨s,rfl⟩)
  | zero | finite => exact .inr (.inr ⟨_,rfl⟩)

theorem lt_infinity_amount {u : UnpackedFloat} (amount : amount? u = some a) (s : Sign) :
    u.lt (.infinity s) = (s == .positive) ∧ UnpackedFloat.lt (.infinity s) u = (s == .negative) := by
  cases u with
  | zero | finite => cases s <;> exact ⟨rfl,rfl⟩
  | infinity | notANumber => cases amount

theorem lt_place {u v : UnpackedFloat} (left : Canonical u) (right : Canonical v) :
    u.lt v = true ↔ ∃ p ∈ place? u, ∃ q ∈ place? v, p < q := by
  rcases amount_cases u with rfl | ⟨s,rfl⟩ | ⟨a,first⟩
  · simp [place?,UnpackedFloat.lt,UnpackedFloat.compare]
  · rcases amount_cases v with rfl | ⟨t,rfl⟩ | ⟨b,second⟩
    · cases s <;> simp [place?,UnpackedFloat.lt,UnpackedFloat.compare]
    · have ordered : compare Sign.negative Sign.positive = .lt := rfl
      cases s <;> cases t <;> simp [place?,UnpackedFloat.lt,UnpackedFloat.compare,ordered]
    · rw [(lt_infinity_amount second s).2,place?_amount second]
      cases s <;> simp [place?]
  · rcases amount_cases v with rfl | ⟨t,rfl⟩ | ⟨b,second⟩
    · cases u <;> simp [place?,UnpackedFloat.lt,UnpackedFloat.compare]
    · have below : (a : WithTop ℚ) < (⊤ : WithTop ℚ) := WithTop.coe_lt_top a
      rw [(lt_infinity_amount first t).1,place?_amount first]
      cases t
      · simp [place?]
      · simpa [place?] using WithBot.coe_lt_coe.mpr below
    · rw [lt_amount left right first second,place?_amount first,place?_amount second]
      simp

theorem lt_iff_place : x < y ↔ ∃ p ∈ place? (view x), ∃ q ∈ place? (view y), p < q :=
  lt_view.trans (lt_place (canonical_view x) (canonical_view y))

theorem chained (first : x < y) (second : y < z) : x < z := by
  obtain ⟨p,here,q,there,less⟩ := lt_iff_place.mp first
  obtain ⟨q',there',r,beyond,less'⟩ := lt_iff_place.mp second
  obtain rfl := Option.mem_unique there there'
  exact lt_iff_place.mpr ⟨p,here,r,beyond,less.trans less'⟩

theorem not_below_itself (x : Float) : ¬ x < x := by
  intro less
  obtain ⟨p,here,q,there,less⟩ := lt_iff_place.mp less
  obtain rfl := Option.mem_unique here there
  exact lt_irrefl p less

-- What is neither below a finite number nor above it is that number.
theorem means_of_neither (means : Means x a) (known : isNaN y = false) (below : ¬ y < x) (above : ¬ x < y) : Means y a := by
  rcases amount_cases (view y) with none | ⟨s,unbounded⟩ | ⟨c,other⟩
  · rw [isNaN_iff.mpr none] at known
    cases known
  · rw [lt_view,unbounded,(lt_infinity_amount means s).2] at below
    rw [lt_view,unbounded,(lt_infinity_amount means s).1] at above
    cases s with
    | positive => exact absurd rfl above
    | negative => exact absurd rfl below
  · have same := le_antisymm (not_lt.mp (mt (lt_means other means).mpr below)) (not_lt.mp (mt (lt_means means other).mpr above))
    exact same ▸ other

theorem isNaN_of_lt (less : x < y) : isNaN x = false ∧ isNaN y = false := by
  obtain ⟨p,here,q,there,_⟩ := lt_iff_place.mp less
  constructor
  · rw [Bool.eq_false_iff]
    intro none
    rw [isNaN_iff.mp none] at here
    cases here
  · rw [Bool.eq_false_iff]
    intro none
    rw [isNaN_iff.mp none] at there
    cases there

theorem Gives.lt_infinity (gives : Gives x q) : x < infinity ↔ settled q < 2 ^ (1024 : ℤ) := by
  rw [lt_view,view_infinity]
  rcases gives with means | ⟨s,unbounded,large⟩
  · rw [(lt_infinity_amount means .positive).1]
    exact ⟨fun _ => (le_abs_self _).trans_lt (means_bounded means),fun _ => rfl⟩
  · rw [unbounded]
    cases s with
    | positive => exact ⟨nofun,fun small => absurd small large.not_gt⟩
    | negative =>
      have below : settled q < 0 := neg_pos.mp ((two_zpow_pos 1024).trans_le large)
      exact ⟨fun _ => below.trans (two_zpow_pos 1024),fun _ => rfl⟩

theorem Gives.unbounded (gives : Gives x q) (large : 2 ^ (1024 : ℤ) ≤ settled q) : view x = .infinity .positive := by
  rcases gives with means | ⟨s,unbounded,below⟩
  · exact absurd ((le_abs_self _).trans_lt (means_bounded means)) (not_lt.mpr large)
  · cases s with
    | positive => exact unbounded
    | negative =>
      have above := (two_zpow_pos 1024).trans_le large
      exact absurd ((two_zpow_pos 1024).trans_le below) (not_lt.mpr (neg_nonpos.mpr above.le))

theorem Gives.amount (gives : Gives x q) (means : Means x a) : a = settled q := by
  rcases gives with same | ⟨s,unbounded,_⟩
  · exact Option.some.inj (means.symm.trans same)
  · rw [Means,unbounded] at means
    cases means

theorem sub_positive (left : Means x a) (right : Means y b) : 0 < x - y ↔ b < a := by
  rw [← sign_eq_gt,sign_sub left right,compare_gt_iff_gt]

theorem compare_means (left : Means x a) (right : Means y b) : (view x).compare (view y) = some (compare a b) := by
  have below : (view x).compare (view y) = some .lt ↔ a < b := by
    rw [← lt_means left right,lt_view,UnpackedFloat.lt,beq_iff_eq]
  have above : (view x).compare (view y) = some .gt ↔ b < a := by
    rw [← lt_means right left,lt_view,UnpackedFloat.lt,beq_iff_eq,compare_swap]
    cases (view x).compare (view y) with
    | none => simp
    | some order => cases order <;> simp
  have known : ∃ order, (view x).compare (view y) = some order := by
    rcases means_cases left with ⟨s,first,_⟩ | ⟨s,m,e,_,first,_⟩ <;>
      rcases means_cases right with ⟨t,second,_⟩ | ⟨t,n,f,_,second,_⟩ <;>
        rw [first,second] <;> cases s <;> cases t <;> exact ⟨_,rfl⟩
  rcases lt_trichotomy a b with less | rfl | more
  · rw [below.mpr less,compare_lt_iff_lt.mpr less]
  · obtain ⟨order,known⟩ := known
    rw [known,Option.some.injEq] at below above
    rw [known,compare_eq_iff_eq.mpr rfl]
    cases order <;> simp_all
  · rw [above.mpr more,compare_gt_iff_gt.mpr more]

theorem beq_means (left : Means x a) (right : Means y b) : (x == y) = true ↔ a = b := by
  change (view x).beq (view y) = true ↔ _
  rw [UnpackedFloat.beq,beq_iff_eq,compare_means left right,Option.some.injEq,compare_eq_iff_eq]

end Trifold.Number
