import Trifold.Payload.Limits
import Trifold.Proofs.Number.Bounds

namespace Trifold.Payload

variable {n : ℕ} {x : Float} {q : ℚ}

theorem exceededBy_none (n : ℕ) : Bound.exceededBy none n = false := rfl

theorem exceededBy_some {limit : ℤ} : Bound.exceededBy (some limit) n = true ↔ limit < n := decide_eq_true_iff

def Exceeds (n : ℕ) (limit : Float) : Prop :=
  Number.view limit = .infinity .negative ∨ ∃ q, Number.Means limit q ∧ q < n

theorem ofNumber_means (means : Number.Means x q) : Bound.ofNumber x = some ⌊q⌋ := by
  rw [← Number.floor?_means means]
  unfold Bound.ofNumber
  rcases Number.means_cases means with ⟨s,there,_⟩ | ⟨s,k,e,_,there,_⟩
  · rw [Number.exact_view,there]
  · rw [Number.exact_view,there]

theorem exceeds_means (means : Number.Means x q) : Exceeds n x ↔ q < n := by
  constructor
  · rintro (unbounded | ⟨q',means',less⟩)
    · rw [Number.Means,unbounded] at means
      cases means
    · cases means.symm.trans means'
      exact less
  · exact fun less => .inr ⟨q,means,less⟩

-- A bound is exceeded as its number is, since a count that is above a fraction is above its floor.
theorem exceededBy_iff : (Bound.ofNumber x).exceededBy n = true ↔ Exceeds n x := by
  have finite {q : ℚ} (means : Number.Means x q) : (Bound.ofNumber x).exceededBy n = true ↔ Exceeds n x := by
    rw [ofNumber_means means,exceededBy_some,Int.floor_lt,Int.cast_natCast,exceeds_means means]
  have unlimited (unread : Bound.ofNumber x = none) (above : Number.view x ≠ .infinity .negative)
      (none : Number.amount? (Number.view x) = none) : (Bound.ofNumber x).exceededBy n = true ↔ Exceeds n x := by
    rw [unread,exceededBy_none]
    refine ⟨fun broken => absurd broken Bool.false_ne_true,?_⟩
    rintro (unbounded | ⟨q,means,_⟩)
    · exact absurd unbounded above
    · rw [Number.Means,none] at means
      cases means
  cases seen : Number.view x with
  | zero s => exact finite (congrArg Number.amount? seen)
  | finite s m e some => exact finite (congrArg Number.amount? seen)
  | notANumber =>
    have unread : Bound.ofNumber x = none := by rw [Bound.ofNumber,Number.exact_view,seen]
    exact unlimited unread (by simp [seen]) (by rw [seen]; rfl)
  | infinity s =>
    cases s with
    | positive =>
      have unread : Bound.ofNumber x = none := by rw [Bound.ofNumber,Number.exact_view,seen]; rfl
      exact unlimited unread (by simp [seen]) (by rw [seen]; rfl)
    | negative =>
      have least : Bound.ofNumber x = some (-1) := by rw [Bound.ofNumber,Number.exact_view,seen]; rfl
      rw [least,exceededBy_some]
      exact ⟨fun _ => .inl seen,fun _ => by omega⟩

end Trifold.Payload
