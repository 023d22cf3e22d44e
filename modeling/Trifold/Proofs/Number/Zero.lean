import Trifold.Number.Written
import Trifold.Proofs.Number.Same
import Trifold.Text.Repeat

namespace Trifold.Number
open Float.Model UnpackedFloat

theorem eq_of_parts {b c : BitVec Format.binary64.numBits} (sign : unpackSign b = unpackSign c)
    (exponent : unpackExponent b = unpackExponent c) (mantissa : unpackMantissa b = unpackMantissa c) : b = c := by
  ext i inside
  by_cases low : i < 52
  · have bit := congrArg (·.getLsbD i) mantissa
    simp [unpackMantissa,low] at bit
    grind
  · by_cases middle : i < 63
    · have bit := congrArg (·.getLsbD (i - 52)) exponent
      simp [unpackExponent] at bit
      grind
    · have bit := congrArg (·.getLsbD 0) sign
      simp [unpackSign] at bit
      grind

theorem ofBitVec_injective {s t : BitVec 1} (equal : Sign.ofBitVec s = Sign.ofBitVec t) : s = t := by
  have binary : ∀ s : BitVec 1, s = 0#1 ∨ s = 1#1 := by decide
  rcases binary s with rfl | rfl <;> rcases binary t with rfl | rfl <;> first | rfl | cases equal

-- The five classes of patterns.
inductive Class (b : BitVec Format.binary64.numBits) : UnpackedFloat → Prop
  | infinity (exponent : unpackExponent b = -1#_) (mantissa : unpackMantissa b = 0#_) :
      Class b (.infinity (.ofBitVec (unpackSign b)))
  | notANumber (exponent : unpackExponent b = -1#_) (mantissa : unpackMantissa b ≠ 0#_) : Class b .notANumber
  | zero (exponent : unpackExponent b = 0#_) (mantissa : unpackMantissa b = 0#_) :
      Class b (.zero (.ofBitVec (unpackSign b)))
  | subnormal (exponent : unpackExponent b = 0#_) (there : 0 < (unpackMantissa b).toNat) :
      Class b (.finite (.ofBitVec (unpackSign b)) (unpackMantissa b).toNat (-1074) there)
  | normal (low : unpackExponent b ≠ 0#_) (high : unpackExponent b ≠ -1#_) (there : 0 < 2 ^ 52 + (unpackMantissa b).toNat) :
      Class b (.finite (.ofBitVec (unpackSign b)) (2 ^ 52 + (unpackMantissa b).toNat)
        ((unpackExponent b).toNat - 1075) there)

theorem unpack_class (b : BitVec Format.binary64.numBits) : Class b (UnpackedFloat.unpack Format.binary64 b) := by
  unfold UnpackedFloat.unpack
  dsimp only
  split
  case isTrue full =>
    split
    case isTrue none => exact .infinity full none
    case isFalse some => exact .notANumber full some
  case isFalse high =>
    split
    case isTrue low =>
      split
      case isTrue none => exact .zero low none
      case isFalse some =>
        simp only [low]
        exact .subnormal low _
    case isFalse low =>
      have shifted : (1#1 ++ unpackMantissa b).toNat = 2 ^ 52 + (unpackMantissa b).toNat := by
        rw [BitVec.toNat_append]
        exact (Nat.two_pow_add_eq_or_of_lt (unpackMantissa b).isLt 1).symm
      simp only [shifted]
      exact .normal low high _

-- A number is known by its view: the parts can be told from what is unpacked, and only one pattern is no number.
theorem unpack_injective {b c : BitVec Format.binary64.numBits} (left : Format.binary64.Valid b)
    (right : Format.binary64.Valid c)
    (equal : UnpackedFloat.unpack Format.binary64 b = UnpackedFloat.unpack Format.binary64 c) : b = c := by
  have small (d : BitVec Format.binary64.numBits) : (unpackMantissa d).toNat < 2 ^ 52 := (unpackMantissa d).isLt
  have first := unpack_class b
  have second := unpack_class c
  generalize UnpackedFloat.unpack Format.binary64 b = u at equal first
  generalize UnpackedFloat.unpack Format.binary64 c = v at equal second
  cases first with
  | infinity exponent mantissa => cases second with
    | infinity exponent' mantissa' =>
      injection equal with sign
      exact eq_of_parts (ofBitVec_injective sign) (exponent.trans exponent'.symm) (mantissa.trans mantissa'.symm)
    | _ => cases equal
  | notANumber exponent mantissa => cases second with
    | notANumber exponent' mantissa' =>
      exact (left.eq_packedNaN exponent mantissa).trans (right.eq_packedNaN exponent' mantissa').symm
    | _ => cases equal
  | zero exponent mantissa => cases second with
    | zero exponent' mantissa' =>
      injection equal with sign
      exact eq_of_parts (ofBitVec_injective sign) (exponent.trans exponent'.symm) (mantissa.trans mantissa'.symm)
    | _ => cases equal
  | subnormal exponent there => cases second with
    | subnormal exponent' there' =>
      injection equal with sign mantissa
      exact eq_of_parts (ofBitVec_injective sign) (exponent.trans exponent'.symm) (BitVec.eq_of_toNat_eq mantissa)
    | normal _ _ there' =>
      injection equal with _ mantissa
      have := small b
      omega
    | _ => cases equal
  | normal _ _ there => cases second with
    | subnormal exponent' there' =>
      injection equal with _ mantissa
      have := small c
      omega
    | normal _ _ there' =>
      injection equal with sign mantissa exponent
      exact eq_of_parts (ofBitVec_injective sign) (BitVec.eq_of_toNat_eq (by omega)) (BitVec.eq_of_toNat_eq (by omega))
    | _ => cases equal

theorem view_injective {x y : Float} (equal : view x = view y) : x = y := by
  obtain ⟨⟨left,valid⟩⟩ := x
  obtain ⟨⟨right,valid'⟩⟩ := y
  cases UInt64.toBitVec_inj.mp (unpack_injective valid valid' equal)
  rfl

def isZero (x : Float) : Prop := ∃ sign, view x = .zero sign

theorem eq_or_zeros {x y : Float} : same x y = true ↔ x = y ∨ isZero x ∧ isZero y := by
  rw [same_iff]
  constructor
  · rintro (equal | ⟨s,t,left,right⟩)
    · exact .inl (view_injective equal)
    · exact .inr ⟨⟨s,left⟩,⟨t,right⟩⟩
  · rintro (rfl | ⟨⟨s,left⟩,⟨t,right⟩⟩)
    · exact .refl _
    · exact .inr ⟨s,t,left,right⟩

def ofView (u : UnpackedFloat) : Float := ⟨.pack u⟩

theorem same_ofView {u v : UnpackedFloat} (like : Like u v) : same (ofView u) (ofView v) = true := by
  have kept (sign : Sign) : view (ofView (.zero sign)) = .zero sign := by cases sign <;> rfl
  rcases like with rfl | ⟨s,t,rfl,rfl⟩
  · exact same_refl _
  · exact eq_or_zeros.mpr (.inr ⟨⟨s,kept s⟩,⟨t,kept t⟩⟩)

-- An operation for which the sign of a zero makes at most the sign of a zero.
theorem Like.both {op : UnpackedFloat → UnpackedFloat → UnpackedFloat} {u u' v v' : UnpackedFloat}
    (first : ∀ s t v, Like (op (.zero s) v) (op (.zero t) v)) (second : ∀ s t u, Like (op u (.zero s)) (op u (.zero t)))
    (left : Like u u') (right : Like v v') : Like (op u v) (op u' v') := by
  have step : Like (op u v) (op u' v) := by
    rcases left with rfl | ⟨s,t,rfl,rfl⟩
    · exact .refl _
    · exact first s t v
  rcases right with rfl | ⟨s,t,rfl,rfl⟩
  · exact step
  · exact step.trans (second s t u')

theorem same_sub {x y x' y' : Float} (left : same x x' = true) (right : same y y' = true) :
    same (x - y) (x' - y') = true := by
  show same (ofView (.sub _ (view x) (view y))) (ofView (.sub _ (view x') (view y'))) = true
  refine same_ofView (Like.both ?_ ?_ (same_iff.mp left) (same_iff.mp right)) <;>
    rintro s t (_ | _ | u | _) <;> try exact .refl _
  · cases s <;> cases t <;> cases u <;> exact .inr ⟨_,_,rfl,rfl⟩
  · cases s <;> cases t <;> cases u <;> exact .inr ⟨_,_,rfl,rfl⟩

theorem same_add {x y x' y' : Float} (left : same x x' = true) (right : same y y' = true) :
    same (x + y) (x' + y') = true := by
  show same (ofView (.add _ (view x) (view y))) (ofView (.add _ (view x') (view y'))) = true
  refine same_ofView (Like.both ?_ ?_ (same_iff.mp left) (same_iff.mp right)) <;>
    rintro s t (_ | _ | u | _) <;> try exact .refl _
  · cases s <;> cases t <;> cases u <;> exact .inr ⟨_,_,rfl,rfl⟩
  · cases s <;> cases t <;> cases u <;> exact .inr ⟨_,_,rfl,rfl⟩

theorem same_mul {x y x' y' : Float} (left : same x x' = true) (right : same y y' = true) :
    same (x * y) (x' * y') = true := by
  show same (ofView (.mul _ (view x) (view y))) (ofView (.mul _ (view x') (view y'))) = true
  refine same_ofView (Like.both ?_ ?_ (same_iff.mp left) (same_iff.mp right)) <;>
    rintro s t (_ | _ | u | _) <;> first | exact .refl _ | exact .inr ⟨_,_,rfl,rfl⟩

-- Only what is divided may be a zero of either sign.
theorem same_div {x y : Float} (z : Float) (equal : same x y = true) : same (x / z) (y / z) = true := by
  show same (ofView (.div _ (view x) (view z))) (ofView (.div _ (view y) (view z))) = true
  refine same_ofView ?_
  rcases same_iff.mp equal with one | ⟨s,t,one,two⟩
  · rw [one]
    exact .refl _
  · rw [one,two]
    cases view z <;> first | exact .refl _ | exact .inr ⟨_,_,rfl,rfl⟩

theorem same_neg {x y : Float} (equal : same x y = true) : same (-x) (-y) = true := by
  show same (ofView (view x).neg) (ofView (view y).neg) = true
  refine same_ofView ?_
  rcases same_iff.mp equal with one | ⟨s,t,one,two⟩
  · rw [one]
    exact .refl _
  · rw [one,two]
    exact .inr ⟨_,_,rfl,rfl⟩

theorem compare_like {u u' v v' : UnpackedFloat} (left : Like u u') (right : Like v v') : u.compare v = u'.compare v' := by
  rcases left with rfl | ⟨s,t,rfl,rfl⟩ <;> rcases right with rfl | ⟨s',t',rfl,rfl⟩
  · rfl
  · rcases u with (_ | _) | _ | _ | (_ | _) <;> rfl
  · rcases v with (_ | _) | _ | _ | (_ | _) <;> rfl
  · rfl

theorem lt_view {x y : Float} : x < y ↔ (view x).lt (view y) = true := decide_eq_true_iff

theorem lt_same {x y x' y' : Float} (left : same x x' = true) (right : same y y' = true) : x < y ↔ x' < y' := by
  rw [lt_view,lt_view,UnpackedFloat.lt,UnpackedFloat.lt,compare_like (same_iff.mp left) (same_iff.mp right)]

theorem beq_same {x y x' y' : Float} (left : same x x' = true) (right : same y y' = true) : (x == y) = (x' == y') := by
  show (view x).beq (view y) = (view x').beq (view y')
  rw [UnpackedFloat.beq,UnpackedFloat.beq,compare_like (same_iff.mp left) (same_iff.mp right)]

theorem not_lt_zero {x y : Float} (left : isZero x) (right : isZero y) : ¬ x < y := by
  obtain ⟨⟨s,left⟩,⟨t,right⟩⟩ := And.intro left right
  rw [lt_view,left,right]
  simp [UnpackedFloat.lt,UnpackedFloat.compare]

section

variable {x y : Float} (equal : same x y = true)
include equal

theorem equal_or_zeros : x = y ∨ ∃ s t, exact x = .zero s ∧ exact y = .zero t := by
  refine (eq_or_zeros.mp equal).imp_right ?_
  rintro ⟨⟨s,left⟩,⟨t,right⟩⟩
  rw [exact_view,exact_view,left,right]
  exact ⟨_,_,rfl,rfl⟩

theorem isNaN_same : isNaN x = isNaN y := by
  rcases equal_or_zeros equal with rfl | ⟨s,t,left,right⟩
  · rfl
  · rw [isNaN,isNaN,left,right]

theorem truncate_same : truncate x = truncate y := by
  rcases equal_or_zeros equal with rfl | ⟨s,t,left,right⟩
  · rfl
  · simp only [truncate,truncated?,left,right,Option.elim]

theorem round_same : round x = round y := by
  rcases equal_or_zeros equal with rfl | ⟨s,t,left,right⟩
  · rfl
  · simp only [round,rounded?,left,right,Option.elim]

theorem floor_same : floor x = floor y := by
  rcases equal_or_zeros equal with rfl | ⟨s,t,left,right⟩
  · rfl
  · simp only [floor,floor?,left,right,Option.elim]

theorem written_same : written x = written y := by
  rcases equal_or_zeros equal with rfl | ⟨s,t,left,right⟩
  · rfl
  · rw [written,written,left,right]

theorem repeat?_same (s : String) : Text.repeat? s x = Text.repeat? s y := by
  rcases equal_or_zeros equal with rfl | ⟨s,t,left,right⟩
  · rfl
  · have none {x : Float} {s : Bool} (zero : exact x = .zero s) : Text.count? x = .ok 0 := by
      simp [Text.count?,isNaN,truncated?,zero]
    rw [Text.repeat?,Text.repeat?,none left,none right]

end

theorem same_larger {x y x' y' : Float} (left : same x x' = true) (right : same y y' = true) :
    same (larger x y) (larger x' y') = true := by
  unfold larger
  simp only [isNaN_same left,isNaN_same right,lt_same left right]
  split
  · exact left
  · split
    · exact right
    · split
      · exact right
      · exact left

theorem same_smaller {x y x' y' : Float} (left : same x x' = true) (right : same y y' = true) :
    same (smaller x y) (smaller x' y') = true := by
  unfold smaller
  simp only [isNaN_same left,isNaN_same right,lt_same right left]
  split
  · exact left
  · split
    · exact right
    · split
      · exact right
      · exact left

-- A number above zero is no zero, so it is one number.
theorem eq_of_positive {x y : Float} (equal : same x y = true) (positive : 0 < x) : x = y := by
  rcases eq_or_zeros.mp equal with same | ⟨zero,_⟩
  · exact same
  · exact absurd positive (not_lt_zero ⟨.positive,rfl⟩ zero)

end Trifold.Number
