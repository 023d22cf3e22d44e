import Trifold.Proofs.Value.Alike

namespace Trifold
open Agree

namespace Value

-- Plain values that stand for values that read alike.
inductive Close : Value → Value → Prop
  | itself (scalar : Value) : Close scalar scalar
  | number {x y : Float} (equal : Number.same x y = true) : Close (number x) (number y)

namespace Amount

inductive Related (S : Float → Float → Prop) : Amount → Amount → Prop
  | number {x y : Float} (equal : S x y) : Related S (.number x) (.number y)
  | bigint (n : Int) : Related S (.bigint n) (.bigint n)

theorem related_same (amount : Amount) : Related (fun x y => Number.same x y = true) amount amount := by
  cases amount with
  | number x => exact .number (Number.same_refl x)
  | bigint n => exact .bigint n

theorem related_eq (amount : Amount) : Related (· = ·) amount amount := by
  cases amount with
  | number x => exact .number rfl
  | bigint n => exact .bigint n

theorem bigintBelow_same {x y : Float} (equal : Number.same x y = true) (n : Int) : bigintBelow n x = bigintBelow n y := by
  rcases Number.equal_or_zeros equal with rfl | ⟨s,t,left,right⟩
  · rfl
  · simp only [bigintBelow,Number.floor?,Number.isInteger,left,right]

theorem bigintAbove_same {x y : Float} (equal : Number.same x y = true) (n : Int) : bigintAbove n x = bigintAbove n y := by
  rcases Number.equal_or_zeros equal with rfl | ⟨s,t,left,right⟩
  · rfl
  · simp only [bigintAbove,Number.floor?,left,right]

theorem below?_related {a a' b b' : Amount} (left : Related (fun x y => Number.same x y = true) a a')
    (right : Related (fun x y => Number.same x y = true) b b') : below? a b = below? a' b' := by
  cases left with
  | number equal => cases right with
    | number equal' =>
      simp only [below?,Number.isNaN_same equal,Number.isNaN_same equal',Number.lt_same equal equal']
    | bigint n => exact bigintAbove_same equal n
  | bigint n => cases right with
    | number equal' => exact bigintBelow_same equal' n
    | bigint m => rfl

end Amount

variable {level : Value → Value → Prop} {a a' b b' : Value} {host : Host}

theorem scalarAmount_close (close : Close a b) :
    Outcome (Amount.Related fun x y => Number.same x y = true) (scalarAmount a host) (scalarAmount b host) := by
  cases close with
  | itself => exact (Outcome.of_eq rfl).mono fun _ _ same => same ▸ Amount.related_same _
  | number equal => exact .ok (.number equal)

theorem amounts_close (left : Close a a') (right : Close b b') :
    (do return Amount.below? (← scalarAmount a) (← scalarAmount b) : Ask (Option Bool)) =
      do return Amount.below? (← scalarAmount a') (← scalarAmount b') := by
  funext host
  refine (Outcome.bind (scalarAmount_close left) ?_).eq
  intro m m' first
  refine Outcome.bind (scalarAmount_close right) ?_
  intro n n' second
  exact .ok (Amount.below?_related first second)

theorem scalarBelow?_close (left : Close a a') (right : Close b b') : scalarBelow? a b = scalarBelow? a' b' := by
  have first (x : Float) (t : Value) : scalarBelow? (number x) t =
      do return Amount.below? (← scalarAmount (number x)) (← scalarAmount t) := by cases t <;> rfl
  have second (s : Value) (y : Float) : scalarBelow? s (number y) =
      do return Amount.below? (← scalarAmount s) (← scalarAmount (number y)) := by cases s <;> rfl
  cases left with
  | number equal => rw [first,first,amounts_close (.number equal) right]
  | itself => cases right with
    | number equal => rw [second,second,amounts_close (.itself a) (.number equal)]
    | itself => rfl

theorem toNumber_scalar (value : Value) : toNumber value = (toScalar .number value >>= scalarNumber) := by
  cases value <;> rfl

section

variable (alike : Alike level a b)
include alike

theorem toScalar_alike (purpose : Purpose) : Outcome Close (toScalar purpose a host) (toScalar purpose b host) := by
  rcases alike.toScalar purpose with ⟨x,y,rfl,rfl,equal⟩ | equal
  · exact .ok (.number equal)
  · exact (Outcome.of_eq (congrFun equal host)).mono fun _ _ same => same ▸ .itself _

theorem toNumber_alike : Outcome (fun x y => Number.same x y = true) (toNumber a host) (toNumber b host) := by
  rw [toNumber_scalar,toNumber_scalar]
  refine Outcome.bind (toScalar_alike alike .number) ?_
  intro s t close
  cases close with
  | itself => exact (Outcome.of_eq rfl).mono fun _ _ same => same ▸ Number.same_refl _
  | number equal => exact .ok equal

theorem toAmount_alike :
    Outcome (Amount.Related fun x y => Number.same x y = true) (toAmount a host) (toAmount b host) :=
  Outcome.bind (toScalar_alike alike .number) fun _ _ => scalarAmount_close

end

section

variable (left : Alike level a a') (right : Alike level b b')
include left right

theorem below?_alike : below? a b = below? a' b' := by
  funext host
  refine (Outcome.bind (toScalar_alike left .number) ?_).eq
  intro s s' first
  refine Outcome.bind (toScalar_alike right .number) ?_
  intro t t' second
  exact Outcome.of_eq (congrFun (scalarBelow?_close first second) host)

theorem isBelow_alike : isBelow a b = isBelow a' b' := by rw [isBelow,isBelow,below?_alike left right]

theorem isAtLeast_alike : isAtLeast a b = isAtLeast a' b' := by rw [isAtLeast,isAtLeast,below?_alike left right]

theorem isAbove_alike : isAbove a b = isAbove a' b' := by
  funext host
  refine (Outcome.bind (toScalar_alike left .number) ?_).eq
  intro s s' first
  refine Outcome.bind (toScalar_alike right .number) ?_
  intro t t' second
  rw [scalarBelow?_close second first]
  exact Outcome.of_eq rfl

end

theorem both_alike {S : Float → Float → Prop} {f : Float → Float → Float} {g : Int → Int → Ask Int}
    (numbers : ∀ x x' y y', Number.same x x' = true → S y y' → Number.same (f x y) (f x' y') = true)
    {m m' n n' : Amount} (first : Amount.Related (fun x y => Number.same x y = true) m m') (second : Amount.Related S n n') :
    Outcome (Alike level) (Amount.both f g m n host) (Amount.both f g m' n' host) := by
  cases first with
  | number equal => cases second with
    | number equal' => exact .ok (.number (numbers _ _ _ _ equal equal'))
    | bigint n => exact .error _
  | bigint m => cases second with
    | number equal' => exact .error _
    | bigint n => exact Outcome.bind (Outcome.of_eq rfl) fun _ _ same => .ok (same ▸ .flat rfl)

theorem difference_alike (left : Alike level a a') (right : Alike level b b') :
    Outcome (Alike level) (difference a b host) (difference a' b' host) := by
  refine Outcome.bind (toAmount_alike left) ?_
  intro m m' first
  refine Outcome.bind (toAmount_alike right) ?_
  intro n n' second
  refine both_alike ?_ first second
  intro x x' y y' equal equal'
  exact Number.same_sub equal equal'

theorem product_alike (left : Alike level a a') (right : Alike level b b') :
    Outcome (Alike level) (product a b host) (product a' b' host) := by
  refine Outcome.bind (toAmount_alike left) ?_
  intro m m' first
  refine Outcome.bind (toAmount_alike right) ?_
  intro n n' second
  refine both_alike ?_ first second
  intro x x' y y' equal equal'
  exact Number.same_mul equal equal'

-- A divisor above zero is one amount on both sides.
theorem toAmount_positive (alike : Alike level a b) (above : isAbove a (number 0) host = .ok true) :
    toAmount a = toAmount b := by
  rcases alike.toScalar .number with ⟨x,y,rfl,rfl,equal⟩ | equal
  · have compared : isAbove (number x) (number 0) host = .ok (Amount.below? (.number 0) (.number x) == some true) := rfl
    rw [compared,Except.ok.injEq,beq_iff_eq,Amount.below?] at above
    split at above
    · cases above
    · rw [Number.eq_of_positive equal (of_decide_eq_true (Option.some.inj above))]
  · rw [toAmount,toAmount,equal]

theorem quotient_alike (left : Alike level a a') (divisor : toAmount b = toAmount b') :
    Outcome (Alike level) (quotient a b host) (quotient a' b' host) := by
  refine Outcome.bind (toAmount_alike left) ?_
  intro m m' first
  rw [divisor]
  refine Outcome.bind (Outcome.of_eq rfl) ?_
  intro n n' same
  subst same
  refine both_alike ?_ first (Amount.related_eq n)
  intro x x' y y' equal same
  subst same
  exact Number.same_div y equal

end Value

end Trifold
