import Trifold.Proofs.Table.Ordered
import Trifold.Proofs.Value.Json

namespace Trifold.Table
open Value
open Ask (Answers)

variable {a b c value : Value} {values : List Value} {x y : Float} {host : Host}

def said (host : Host) (value : Value) : String := (orderText value host).toOption.join.getD ""

theorem orderText_said (json : Json value) : orderText value host = .ok (some (said host value)) := by
  have written : Answers host (fun written => written.isSome = true) (orderText value) := by
    unfold orderText
    cases json with
    | list each => exact (Json.list each).json?
    | record each => exact (Json.record each).json?
    | _ => exact .pure rfl
  obtain ⟨_ | s,told,written⟩ := written
  · cases written
  · rw [said,told]
    rfl

theorem compare_truths (p q : Bool) : compare (.bool p) (.bool q) host =
    compare (text (said host (.bool p))) (text (said host (.bool q))) host := by
  have texts (p : Bool) : said host (.bool p) = if p then "true" else "false" := rfl
  rw [texts,texts]
  refine congrArg Except.ok (?_ : (_ : Float) = if Text.before _ _ then -1 else if Text.before _ _ then 1 else 0)
  revert p q
  decide +kernel

-- Where one of the two is no number, they compare as their texts do. The texts of the two truths are in their order.
theorem compare_said (first : Json a) (second : Json b) (mixed : a.number? = none ∨ b.number? = none) :
    compare a b host = compare (text (said host a)) (text (said host b)) host := by
  rw [compare.eq_def a b]
  split
  · rcases mixed with none | none <;> cases none
  · exact compare_truths _ _
  · rw [Ask.bind_ok (orderText_said first),Ask.bind_ok (orderText_said second)]
    rfl

theorem order_said (first : Json a) (second : Json b) (mixed : a.number? = none ∨ b.number? = none) :
    order host a b = order host (text (said host a)) (text (said host b)) := by
  rw [order,compare_said first second mixed]
  rfl

theorem compare_numbers {p q : ℚ} (left : Number.Means x p) (right : Number.Means y q) :
    compare (number x) (number y) host = .ok (x - y) := by
  change Except.ok _ = _
  rw [Number.isNaN_means left,Number.isNaN_means right]
  rfl

theorem order_numbers {p q : ℚ} (left : Number.Means x p) (right : Number.Means y q) :
    order host (number x) (number y) = Ord.compare p q := by
  rw [order,compare_numbers left right]
  exact Number.sign_sub left right

theorem number_cases (json : Json value) :
    (∃ x q, value = number x ∧ Number.Means x q) ∨ value.number? = none := by
  cases json with
  | number finite =>
    obtain ⟨q,means⟩ := Number.means_finite finite
    exact .inl ⟨_,q,rfl,means⟩
  | _ => exact .inr rfl

theorem isNaN_textDifference (left right : Option String) : Number.isNaN (textDifference left right) = false := by
  unfold textDifference
  repeat' split
  all_goals decide +kernel

theorem compare_known (first : Json a) (second : Json b) :
    ∃ x, compare a b host = .ok x ∧ Number.isNaN x = false ∧ Number.sign x = order host a b := by
  have known : Answers host (fun x => Number.isNaN x = false) (compare a b) := by
    have texts (mixed : a.number? = none ∨ b.number? = none) :
        Answers host (fun x => Number.isNaN x = false) (compare a b) :=
      ⟨_,compare_said first second mixed,isNaN_textDifference _ _⟩
    rcases number_cases first with ⟨x,p,rfl,left⟩ | none
    · rcases number_cases second with ⟨y,q,rfl,right⟩ | none
      · exact ⟨_,compare_numbers left right,(Number.gives_sub left right).isNaN⟩
      · exact texts (.inr none)
    · exact texts (.inl none)
  obtain ⟨x,told,known⟩ := known
  exact ⟨x,told,known,by rw [order,told]; rfl⟩

theorem texts_orders (texts : List String) : Orders (order host) (texts.map text) := by
  refine (consistent_texts ?_).toOrders
  intro value there
  obtain ⟨s,_,rfl⟩ := List.mem_map.mp there
  exact ⟨s,rfl⟩

theorem order_swap (first : Json a) (second : Json b) : order host b a = (order host a b).swap := by
  have texts (mixed : a.number? = none ∨ b.number? = none) : order host b a = (order host a b).swap := by
    rw [order_said first second mixed,order_said second first mixed.symm]
    exact (texts_orders [said host a, said host b]).antisymmetric _ (by simp) _ (by simp)
  rcases number_cases first with ⟨x,p,rfl,left⟩ | none
  · rcases number_cases second with ⟨y,q,rfl,right⟩ | none
    · rw [order_numbers left right,order_numbers right left,Std.OrientedOrd.eq_swap]
    · exact texts (.inr none)
  · exact texts (.inl none)

theorem order_self (json : Json a) : order host a a = .eq := by
  have turned : order host a a = (order host a a).swap := order_swap json json
  cases same : order host a a <;> rw [same] at turned <;> cases turned

-- Two numbers that are in the same order by amount and by text.
def Aligned (host : Host) (x y : Float) : Prop :=
  order host (number x) (number y) = order host (text (Number.written x)) (text (Number.written y))

-- Values that are all numbers, or among which any two numbers are in the same order both ways.
def Uniform (host : Host) (values : List Value) : Prop :=
  (∀ value ∈ values, value.number?.isSome) ∨ ∀ x y, number x ∈ values → number y ∈ values → Aligned host x y

theorem uniform_orders (json : ∀ value ∈ values, Json value) (uniform : Uniform host values) :
    Orders (order host) values := by
  refine ⟨fun a first b second => order_swap (json a first) (json b second),?_⟩
  rcases uniform with numbers | aligned
  · have amount {value : Value} (listed : value ∈ values) : ∃ x q, value = number x ∧ Number.Means x q := by
      refine (number_cases (json value listed)).resolve_right fun none => ?_
      have some := numbers value listed
      rw [none] at some
      cases some
    intro a first b second c third most most'
    obtain ⟨x,p,rfl,means⟩ := amount first
    obtain ⟨y,q,rfl,means'⟩ := amount second
    obtain ⟨z,r,rfl,means''⟩ := amount third
    rw [order_numbers means means',compare_le_iff_le] at most
    rw [order_numbers means' means'',compare_le_iff_le] at most'
    rw [order_numbers means means'',compare_le_iff_le]
    exact most.trans most'
  · have texts {a b : Value} (first : a ∈ values) (second : b ∈ values) :
        order host a b = order host (text (said host a)) (text (said host b)) := by
      rcases number_cases (json a first) with ⟨x,_,rfl,_⟩ | none
      · rcases number_cases (json b second) with ⟨y,_,rfl,_⟩ | none
        · exact aligned x y first second
        · exact order_said (json _ first) (json b second) (.inr none)
      · exact order_said (json a first) (json b second) (.inl none)
    intro a first b second c third most most'
    rw [texts first second] at most
    rw [texts second third] at most'
    rw [texts first third]
    exact (texts_orders [said host a, said host b, said host c]).transitive _ (by simp) _ (by simp) _ (by simp) most most'

theorem uniform_pair (left : Json (number x)) (right : Json (number y)) (aligned : Aligned host x y) (s : String) :
    Uniform host [number x, number y, text s] := by
  have self {z : Float} (json : Json (number z)) : Aligned host z z := (order_self json).trans (order_self (.text _)).symm
  have turned : Aligned host y x := by
    rw [Aligned,order_swap left right,aligned,← order_swap (.text _) (.text _)]
  refine .inr ?_
  intro z w first second
  simp only [List.mem_cons,number.injEq,reduceCtorEq,List.not_mem_nil,or_false] at first second
  rcases first with rfl | rfl <;> rcases second with rfl | rfl
  · exact self left
  · exact aligned
  · exact turned
  · exact self right

-- Two numbers are aligned where the text of the first may stand beside them: it ties with that number, so the other one is on
-- the same side of both.
theorem aligned_of_orders (left : Json (number x)) (right : Json (number y))
    (orders : Orders (order host) [number x, number y, text (Number.written x)]) : Aligned host x y := by
  have tied : order host (number x) (text (Number.written x)) = .eq :=
    (order_said left (.text _) (.inr rfl)).trans (order_self (.text _))
  have aside : order host (text (Number.written x)) (number y) =
      order host (text (Number.written x)) (text (Number.written y)) := order_said (.text _) right (.inl rfl)
  rw [Aligned,← aside]
  by_cases most : order host (text (Number.written x)) (number y) = .gt
  · have most' : order host (number y) (text (Number.written x)) = .lt := by
      rw [order_swap (.text _) right,most]
      rfl
    have tied' : order host (text (Number.written x)) (number x) = .eq := by
      rw [order_swap left (.text _),tied]
      rfl
    have whole := orders.chained (a := number y) (b := text (Number.written x)) (c := number x) (by simp) (by simp) (by simp)
      (by simp [most']) (by simp [tied'])
    rw [most,order_swap right left,whole,most']
    rfl
  · have whole := orders.chained (a := number x) (b := text (Number.written x)) (c := number y) (by simp) (by simp) (by simp)
      (by simp [tied]) most
    rw [whole,tied]
    rfl

-- The first does not come after the second.
def NotAfter (host : Host) (a b : Value) : Prop := Answers host (fun x => x ≤ 0) (compare a b)

theorem notAfter_iff (first : Json a) (second : Json b) : NotAfter host a b ↔ order host a b ≠ .gt := by
  obtain ⟨x,told,known,same⟩ := @compare_known _ _ host first second
  rw [← same,← Number.le_zero_iff known]
  constructor
  · rintro ⟨x',told',most⟩
    cases told.symm.trans told'
    exact most
  · exact fun most => ⟨x,told,most⟩

-- Values that are written as JSON compare as a sort wants it: each ties with itself, any two compare the other way round when
-- they are swapped, and three are in order unless two of them are numbers that are not aligned and the third is none. A column
-- in which numbers are aligned has one order, and two numbers that are not have no order together with every text.
theorem compare_consistent (json : ∀ value ∈ values, Json value) (host : Host) :
    (∀ a ∈ values, Answers host (fun x => (x == 0) = true) (compare a a)) ∧
    (∀ a ∈ values, ∀ b ∈ values, ∃ x y, compare a b host = .ok x ∧ compare b a host = .ok y ∧
      (x < 0 ∧ 0 < y ∨ (x == 0) = true ∧ (y == 0) = true ∨ 0 < x ∧ y < 0)) ∧
    (∀ a ∈ values, ∀ b ∈ values, ∀ c ∈ values, Uniform host [a, b, c] →
      NotAfter host a b → NotAfter host b c → NotAfter host a c) ∧
    (Uniform host values → Consistent host values) ∧
    ∀ x y, number x ∈ values → number y ∈ values →
      (Aligned host x y ↔ ∀ s, Orders (order host) [number x, number y, text s]) := by
  refine ⟨?_,?_,?_,?_,?_⟩
  · intro a first
    obtain ⟨x,told,known,same⟩ := compare_known (json a first) (json a first)
    exact ⟨x,told,Number.beq_zero_of_sign known (same.trans (order_self (json a first)))⟩
  · intro a first b second
    obtain ⟨x,told,known,same⟩ := compare_known (json a first) (json b second)
    obtain ⟨y,told',known',same'⟩ := compare_known (json b second) (json a first)
    rw [order_swap (json a first) (json b second),← same] at same'
    refine ⟨x,y,told,told',?_⟩
    cases side : Number.sign x with
    | lt =>
      rw [side] at same'
      exact .inl ⟨Number.sign_eq_lt.mp side,Number.sign_eq_gt.mp same'⟩
    | eq =>
      rw [side] at same'
      exact .inr (.inl ⟨Number.beq_zero_of_sign known side,Number.beq_zero_of_sign known' same'⟩)
    | gt =>
      rw [side] at same'
      exact .inr (.inr ⟨Number.sign_eq_gt.mp side,Number.sign_eq_lt.mp same'⟩)
  · intro a first b second c third uniform most most'
    have first := json a first
    have second := json b second
    have third := json c third
    rw [notAfter_iff first second] at most
    rw [notAfter_iff second third] at most'
    rw [notAfter_iff first third]
    have orders := uniform_orders (by simp [first,second,third]) uniform
    exact orders.transitive a (by simp) b (by simp) c (by simp) most most'
  · intro uniform
    refine ⟨uniform_orders json uniform,?_⟩
    intro a first b second
    obtain ⟨x,told,_⟩ := compare_known (json a first) (json b second)
    exact ⟨x,told,trivial⟩
  · intro x y first second
    have left := json _ first
    have right := json _ second
    constructor
    · intro aligned s
      exact uniform_orders (by simp [left,right,Json.text s]) (uniform_pair left right aligned s)
    · exact fun orders => aligned_of_orders left right (orders _)

def mixed : List Value :=
  [number 2, text "b", bool true, list [number 10, null], object [("a",number 9)], number 1]

theorem compare_consistent_mixed : (∀ value ∈ mixed, Json value) ∧ Uniform .silent mixed ∧ Consistent .silent mixed := by
  have finite : Number.isFinite 1 ∧ Number.isFinite 2 ∧ Number.isFinite 9 ∧ Number.isFinite 10 := by decide +kernel
  have json : ∀ value ∈ mixed, Json value := by
    simp only [mixed,List.forall_mem_cons]
    refine ⟨.number finite.2.1,.text _,.bool _,.list ?_,.record ?_,.number finite.1,List.forall_mem_nil _⟩
    · exact List.forall_mem_cons.mpr ⟨.number finite.2.2.2,List.forall_mem_singleton.mpr .null⟩
    · exact List.forall_mem_singleton.mpr (.number finite.2.2.1)
  have uniform : Uniform .silent mixed := by
    have aligned : ∀ x ∈ [(2 : Float), 1], ∀ y ∈ [(2 : Float), 1], Aligned .silent x y := by
      unfold Aligned
      decide +kernel
    have listed {x : Float} (there : number x ∈ mixed) : x ∈ [(2 : Float), 1] := by simpa [mixed,object] using there
    exact .inr fun x y first second => aligned x (listed first) y (listed second)
  obtain ⟨-,-,-,consistent,-⟩ := compare_consistent json .silent
  exact ⟨json,uniform,consistent uniform⟩

-- Ten goes before a text by its own text, that text before nine, and yet ten is more than nine.
theorem order_circular : Json (number 10) ∧ Json (text "5") ∧ Json (number 9) ∧
    NotAfter .silent (number 10) (text "5") ∧ NotAfter .silent (text "5") (number 9) ∧
    ¬ NotAfter .silent (number 10) (number 9) := by
  have ten : Json (number 10) := .number (by decide +kernel)
  have nine : Json (number 9) := .number (by decide +kernel)
  refine ⟨ten,.text _,nine,?_,?_,?_⟩
  · rw [notAfter_iff ten (.text _)]
    decide +kernel
  · rw [notAfter_iff (.text _) nine]
    decide +kernel
  · rw [notAfter_iff ten nine]
    decide +kernel

end Trifold.Table
