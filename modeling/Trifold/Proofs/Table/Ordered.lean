import Trifold.Proofs.Ask
import Trifold.Proofs.Number.Sign
import Trifold.Proofs.Table.Layout
import Trifold.Proofs.Table.Runs
import Trifold.Proofs.Table.Sorted
import Trifold.Proofs.Text.Sorted
import Trifold.Table.Order

namespace Trifold.Table
open Value

-- How two values compare, by the sign of what the comparison gives.
def order (host : Host) (a b : Value) : Ordering := Number.sign ((compare a b host).toOption.getD 0)

def held (key : String) (rows : List Value) : List Value := rows.map (Attributes.read key)

def present (key : String) (rows : List Value) : List Value := (held key rows).filter fun value => !value.isMissing

theorem mem_present {key : String} {rows : List Value} {value : Value} (listed : value ∈ held key rows)
    (some : value.isMissing = false) : value ∈ present key rows := List.mem_filter.mpr ⟨listed,by rw [some]; rfl⟩

-- A comparison that puts some values in an order, in which different ones may tie. Each ties with itself, since its sign is
-- turned round when the two are swapped.
structure Orders (cmp : Value → Value → Ordering) (values : List Value) : Prop where
  antisymmetric : ∀ a ∈ values, ∀ b ∈ values, cmp b a = (cmp a b).swap
  transitive : ∀ a ∈ values, ∀ b ∈ values, ∀ c ∈ values, cmp a b ≠ .gt → cmp b c ≠ .gt → cmp a c ≠ .gt

-- Every two of the values are compared, and that orders them.
structure Consistent (host : Host) (values : List Value) : Prop extends Orders (order host) values where
  answered : ∀ a ∈ values, ∀ b ∈ values, Ask.Ends host (compare a b)

variable {cmp : Value → Value → Ordering} {values : List Value} {host : Host} {ascending : Bool}

namespace Orders

variable (orders : Orders cmp values) {a b c : Value}
include orders

theorem chained (first : a ∈ values) (second : b ∈ values) (third : c ∈ values) (most : cmp a b ≠ .gt)
    (most' : cmp b c ≠ .gt) : cmp a c = (cmp a b).then (cmp b c) := by
  have whole := orders.transitive a first b second c third most most'
  have turned := orders.antisymmetric a first c third
  have left := orders.antisymmetric a first b second
  have right := orders.antisymmetric b second c third
  have back := orders.transitive c third b second a first
  have early := orders.transitive b second c third a first
  have late := orders.transitive c third a first b second
  cases here : cmp a b <;> cases there : cmp b c <;> cases outer : cmp a c <;> simp_all

end Orders

theorem order_text (s t : String) : order host (text s) (text t) =
    if Text.before s t then .lt else if Text.before t s then .gt else .eq := by
  change Number.sign (if Text.before s t then -1 else if Text.before t s then 1 else 0) = _
  split
  · exact Number.sign_minus_one
  · split
    · exact Number.sign_one
    · exact Number.sign_zero

theorem order_text_ne_gt {s t : String} : order host (text s) (text t) ≠ .gt ↔ ¬ Text.unitsOf t < Text.unitsOf s := by
  rw [order_text]
  unfold Text.before
  by_cases below : Text.unitsOf s < Text.unitsOf t
  · have above := List.lt_asymm below
    simp [below,above]
  · simp [below]

theorem consistent_texts (texts : ∀ value ∈ values, ∃ s, value = text s) : Consistent host values := by
  refine ⟨⟨?_,?_⟩,?_⟩
  · intro a first b second
    obtain ⟨s,rfl⟩ := texts a first
    obtain ⟨t,rfl⟩ := texts b second
    rw [order_text,order_text]
    unfold Text.before
    by_cases below : Text.unitsOf s < Text.unitsOf t
    · have above := List.lt_asymm below
      simp [below,above]
    · by_cases above : Text.unitsOf t < Text.unitsOf s <;> simp [below,above]
  · intro a first b second c third
    obtain ⟨s,rfl⟩ := texts a first
    obtain ⟨t,rfl⟩ := texts b second
    obtain ⟨u,rfl⟩ := texts c third
    rw [order_text_ne_gt,order_text_ne_gt,order_text_ne_gt]
    exact Text.notBefore_trans
  · intro a first b second
    obtain ⟨s,rfl⟩ := texts a first
    obtain ⟨t,rfl⟩ := texts b second
    exact ⟨_,rfl,trivial⟩

-- The order of two values in a column, with those that are missing first where it rises and last where it falls.
def rank (host : Host) (ascending : Bool) (a b : Value) : Ordering :=
  Number.sign ((placed ascending a b host).toOption.getD 0)

theorem rank_eq (host : Host) (ascending : Bool) (a b : Value) : rank host ascending a b =
    match a.isMissing, b.isMissing with
    | true, true => .eq
    | true, false => if ascending then .lt else .gt
    | false, true => if ascending then .gt else .lt
    | false, false => if ascending then order host a b else (order host a b).swap := by
  unfold rank placed
  cases a.isMissing <;> cases b.isMissing <;> dsimp only
  · cases told : compare a b host with
    | error fault =>
      rw [Ask.bind_error told,order,told]
      change Number.sign 0 = if ascending then Number.sign 0 else (Number.sign 0).swap
      rw [Number.sign_zero]
      cases ascending <;> rfl
    | ok x =>
      rw [Ask.bind_ok told,order,told]
      cases ascending
      · exact Number.sign_neg x
      · rfl
  · cases ascending
    · exact Number.sign_minus_one
    · exact Number.sign_one
  · cases ascending
    · exact Number.sign_one
    · exact Number.sign_minus_one
  · exact Number.sign_zero

theorem rank_orders {key : String} {rows : List Value} (orders : Orders (order host) (present key rows)) (ascending : Bool) :
    Orders (rank host ascending) (held key rows) := by
  refine ⟨?_,?_⟩
  · intro a first b second
    rw [rank_eq,rank_eq]
    cases left : a.isMissing <;> cases right : b.isMissing
    · have turned := orders.antisymmetric a (mem_present first left) b (mem_present second right)
      cases ascending
      · exact congrArg Ordering.swap turned
      · exact turned
    · cases ascending <;> rfl
    · cases ascending <;> rfl
    · rfl
  · intro a first b second c third
    rw [rank_eq,rank_eq,rank_eq]
    cases left : a.isMissing <;> cases middle : b.isMissing <;> cases right : c.isMissing
    · have first := mem_present first left
      have second := mem_present second middle
      have third := mem_present third right
      cases ascending
      · simp only [← orders.antisymmetric _ first _ second,← orders.antisymmetric _ second _ third,
          ← orders.antisymmetric _ first _ third,Bool.false_eq_true,if_false]
        exact fun most most' => orders.transitive c third b second a first most' most
      · exact orders.transitive a first b second c third
    all_goals cases ascending <;> simp

def entries (key : String) (rows : List Value) : List Keyed :=
  rows.zipIdx.map fun (row,place) => ⟨row,place,Attributes.read key row⟩

theorem keyed_text (key : String) (rows : List Value) : keyed rows (text key) host = .ok (entries key rows) := by
  unfold keyed entries
  simp only [readBy_text,pure_bind]
  rw [List.mapM_pure]
  rfl

-- Of two rows one comes before the other by the rank of their values, or by their places where these tie.
def Before (host : Host) (ascending : Bool) (all : List Keyed) (k l : Keyed) : Prop :=
  (k ∈ all ∧ l ∈ all) ∧
    (rank host ascending k.value l.value = .lt ∨ rank host ascending k.value l.value = .eq ∧ k.place < l.place)

section

variable {key : String} {rows : List Value}

theorem value_held {k : Keyed} (there : k ∈ entries key rows) :
    (k.row,k.place) ∈ rows.zipIdx ∧ k.value = Attributes.read key k.row ∧ k.value ∈ held key rows := by
  obtain ⟨⟨row,place⟩,listed,rfl⟩ := List.mem_map.mp there
  exact ⟨listed,rfl,List.mem_map_of_mem (List.fst_mem_of_mem_zipIdx listed)⟩

theorem before_trans (orders : Orders (rank host ascending) (held key rows)) :
    IsTrans Keyed (Before host ascending (entries key rows)) := by
  refine ⟨?_⟩
  rintro k l m ⟨⟨first,second⟩,early⟩ ⟨⟨_,third⟩,late⟩
  refine ⟨⟨first,third⟩,?_⟩
  have whole := orders.chained (value_held first).2.2 (value_held second).2.2 (value_held third).2.2
  rcases early with less | ⟨ties,early⟩ <;> rcases late with less' | ⟨ties',late⟩
  · exact .inl (by rw [whole (by simp [less]) (by simp [less']),less]; rfl)
  · exact .inl (by rw [whole (by simp [less]) (by simp [ties']),less]; rfl)
  · exact .inl (by rw [whole (by simp [ties]) (by simp [less']),ties]; exact less')
  · exact .inr ⟨by rw [whole (by simp [ties]) (by simp [ties']),ties]; exact ties',early.trans late⟩

-- The answers to the questions that are asked. One that is not answered decides nothing.
def less (host : Host) (ascending : Bool) (k l : Keyed) : Id Bool := (goesBefore ascending k l host).toOption.getD false

theorem less_rank (host : Host) (ascending : Bool) (k l : Keyed) :
    (less host ascending k l = true → rank host ascending k.value l.value = .lt ∨
      rank host ascending k.value l.value = .eq ∧ k.place < l.place) ∧
    (less host ascending k l = false → rank host ascending k.value l.value ≠ .lt) := by
  unfold less goesBefore rank
  cases told : placed ascending k.value l.value host with
  | error fault =>
    rw [Ask.bind_error told]
    refine ⟨nofun,fun _ => ?_⟩
    change Number.sign 0 ≠ .lt
    rw [Number.sign_zero]
    exact nofun
  | ok x =>
    rw [Ask.bind_ok told]
    change ((if x == 0 then decide (k.place < l.place) else decide (x < 0)) = true → Number.sign x = .lt ∨
        Number.sign x = .eq ∧ k.place < l.place) ∧
      ((if x == 0 then decide (k.place < l.place) else decide (x < 0)) = false → Number.sign x ≠ .lt)
    split
    · rename_i zero
      rw [Number.sign_of_beq zero]
      exact ⟨fun early => .inr ⟨rfl,of_decide_eq_true early⟩,fun _ => nofun⟩
    · exact ⟨fun below => .inl (Number.sign_eq_lt.mpr (of_decide_eq_true below)),
        fun above below => of_decide_eq_false above (Number.sign_eq_lt.mp below)⟩

theorem entries_places (key : String) (rows : List Value) : (entries key rows).Pairwise fun k l => k.place < l.place := by
  have counted : rows.zipIdx.Pairwise fun entry later => entry.2 < later.2 := by
    rw [← List.pairwise_map,List.zipIdx_map_snd]
    exact List.pairwise_lt_range'
  exact List.pairwise_map.mpr counted

theorem entries_decided (orders : Orders (rank host ascending) (held key rows)) :
    Runs.Decided (less host ascending) (Before host ascending (entries key rows)) (entries key rows) := by
  refine (entries_places key rows).imp_of_mem ?_
  intro k l first second early
  obtain ⟨won,lost⟩ := less_rank host ascending l k
  have turned := orders.antisymmetric _ (value_held first).2.2 _ (value_held second).2.2
  constructor
  · intro answer
    rcases won answer with below | ⟨_,late⟩
    · exact ⟨⟨second,first⟩,.inl below⟩
    · omega
  · intro answer
    refine ⟨⟨first,second⟩,?_⟩
    have most := lost answer
    rw [turned] at most
    cases same : rank host ascending k.value l.value with
    | lt => exact .inl rfl
    | eq => exact .inr ⟨rfl,early⟩
    | gt =>
      rw [same] at most
      exact absurd rfl most

theorem entries_before (upward : rows.Pairwise fun a b =>
      rank host ascending (Attributes.read key a) (Attributes.read key b) ≠ .gt) :
    (entries key rows).Pairwise (Before host ascending (entries key rows)) := by
  rw [← List.zipIdx_map_fst 0 rows] at upward
  have values : (entries key rows).Pairwise fun k l => rank host ascending k.value l.value ≠ .gt :=
    List.pairwise_map.mpr (List.pairwise_map.mp upward)
  refine ((entries_places key rows).and values).imp_of_mem ?_
  rintro k l first second ⟨early,most⟩
  refine ⟨⟨first,second⟩,?_⟩
  cases same : rank host ascending k.value l.value with
  | lt => exact .inl rfl
  | eq => exact .inr ⟨rfl,early⟩
  | gt => exact absurd same most

theorem before_asymm (orders : Orders (rank host ascending) (held key rows)) {k l : Keyed}
    (one : Before host ascending (entries key rows) k l) (other : Before host ascending (entries key rows) l k) : False := by
  obtain ⟨⟨first,second⟩,early⟩ := one
  have turned := orders.antisymmetric _ (value_held first).2.2 _ (value_held second).2.2
  obtain ⟨-,late⟩ := other
  rw [turned] at late
  rcases early with below | ⟨ties,early⟩
  · rw [below] at late
    rcases late with above | ⟨above,_⟩ <;> cases above
  · rw [ties] at late
    rcases late with above | ⟨_,late⟩
    · cases above
    · omega

theorem goesBefore_answered (answered : ∀ a ∈ present key rows, ∀ b ∈ present key rows, Ask.Ends host (compare a b))
    {k l : Keyed} (first : k ∈ entries key rows) (second : l ∈ entries key rows) :
    Ask.Answers host (· = less host ascending k l) (goesBefore ascending k l) := by
  have ends : Ask.Ends host (placed ascending k.value l.value) := by
    unfold placed
    cases left : k.value.isMissing <;> cases right : l.value.isMissing <;> dsimp only
    · have one := mem_present (value_held first).2.2 left
      have other := mem_present (value_held second).2.2 right
      exact (answered _ one _ other).map
    all_goals exact .pure _
  obtain ⟨won,told,_⟩ : Ask.Ends host (goesBefore ascending k l) := ends.map
  exact ⟨won,told,by rw [less,told]; rfl⟩

theorem sort_answered (answered : ∀ a ∈ present key rows, ∀ b ∈ present key rows, Ask.Ends host (compare a b))
    (direction : Value) : sort rows (text key) direction host =
      .ok ((Runs.sort (less host (isAscending direction)) (entries key rows)).run.map (·.row)) := by
  have itself : List.Forall₂ (fun k l => k = l ∧ k ∈ entries key rows) (entries key rows) (entries key rows) := by
    rw [List.forall₂_same]
    exact fun k there => ⟨rfl,there⟩
  have asked (k l k' l' : Keyed) (first : k = k' ∧ k ∈ entries key rows) (second : l = l' ∧ l ∈ entries key rows) :
      (Agree.answers host).rel (· = ·) (goesBefore (isAscending direction) k l) (less host (isAscending direction) k' l') := by
    obtain ⟨rfl,there⟩ := first
    obtain ⟨rfl,there'⟩ := second
    exact goesBefore_answered answered there there'
  obtain ⟨sorted,told,same⟩ := Runs.sort_agree (Agree.answers host) asked itself
  have equal : sorted = (Runs.sort (less host (isAscending direction)) (entries key rows)).run := by
    rw [← List.forall₂_eq_eq_eq]
    exact same.imp fun _ _ here => here.1
  unfold sort
  rw [Ask.bind_ok (keyed_text key rows),Ask.bind_ok told,equal]
  rfl

theorem sort_ordered (consistent : Consistent host (present key rows)) (direction : Value) : ∃ order : List Keyed,
    order.Perm (entries key rows) ∧ order.Pairwise (Before host (isAscending direction) (entries key rows)) ∧
      sort rows (text key) direction host = .ok (order.map (·.row)) := by
  have orders := rank_orders consistent.toOrders (isAscending direction)
  obtain ⟨same,sorts⟩ := @Runs.sort_sorts _ (less host (isAscending direction)) _ (before_trans orders) (entries key rows)
  exact ⟨_,same,sorts (entries_decided orders),sort_answered consistent.answered direction⟩

theorem sort_settled (consistent : Consistent host (present key rows)) {direction : Value}
    (upward : rows.Pairwise fun a b =>
      rank host (isAscending direction) (Attributes.read key a) (Attributes.read key b) ≠ .gt) :
    sort rows (text key) direction host = .ok rows := by
  have orders := rank_orders consistent.toOrders (isAscending direction)
  obtain ⟨order,same,sorted,told⟩ := sort_ordered consistent direction
  have settled : order = entries key rows :=
    same.eq_of_pairwise (fun _ _ _ _ one other => (before_asymm orders one other).elim) sorted (entries_before upward)
  have given : (entries key rows).map (·.row) = rows := by
    rw [entries,List.map_map]
    exact List.zipIdx_map_fst 0 rows
  rw [told,settled,given]

theorem Consistent.perm {rows' : List Value} (consistent : Consistent host (present key rows)) (same : rows'.Perm rows) :
    Consistent host (present key rows') := by
  have there {a : Value} : a ∈ present key rows' → a ∈ present key rows := ((same.map _).filter _).mem_iff.mp
  constructor
  · exact ⟨fun a first b second => consistent.antisymmetric a (there first) b (there second),
      fun a first b second c third => consistent.transitive a (there first) b (there second) c (there third)⟩
  · exact fun a first b second => consistent.answered a (there first) b (there second)

end

theorem sort_keeps {rows sorted : List Value} {key direction : Value} (ended : sort rows key direction host = .ok sorted) :
    sorted.Perm rows := by
  obtain ⟨all,listed,ended⟩ := Ask.ok_of_bind ended
  obtain ⟨order,told,ended⟩ := Ask.ok_of_bind ended
  cases ended
  have asked (k l k' l' : Keyed) (first : k = k') (second : l = l') :
      (Agree.told host).rel (· = ·) (goesBefore (isAscending direction) k l) (less host (isAscending direction) k' l') := by
    subst first second
    intro won told
    rw [less,told]
    rfl
  have same := Runs.sort_agree (Agree.told host) asked (List.forall₂_refl all) order told
  rw [List.forall₂_eq_eq_eq] at same
  subst same
  have given : rows = all.map (·.row) := by
    rw [← List.zipIdx_map_fst 0 rows]
    refine Agree.map_eq (Ask.mapM_ok.mp listed) ?_
    rintro ⟨row,place⟩ k asked
    obtain ⟨value,_,asked⟩ := Ask.ok_of_bind asked
    cases asked
    rfl
  rw [given]
  exact (Runs.sort_perm _ all).map _

def Tie (host : Host) (a b : Value) : Prop :=
  a.isMissing ∧ b.isMissing ∨ a.isMissing = false ∧ b.isMissing = false ∧ order host a b = .eq

theorem rank_tie {a b : Value} : rank host ascending a b = .eq ↔ Tie host a b := by
  rw [rank_eq,Tie]
  cases a.isMissing <;> cases b.isMissing <;> cases ascending <;> simp

-- A row with its place in the input, and one that comes after it.
structure Precedes (host : Host) (key : String) (ascending : Bool) (a b : Value × Nat) : Prop where
  missing : if ascending then (Attributes.read key b.1).isMissing → (Attributes.read key a.1).isMissing
    else (Attributes.read key a.1).isMissing → (Attributes.read key b.1).isMissing
  ordered : (Attributes.read key a.1).isMissing = false → (Attributes.read key b.1).isMissing = false →
    order host (Attributes.read key a.1) (Attributes.read key b.1) ≠ if ascending then .gt else .lt
  stable : Tie host (Attributes.read key a.1) (Attributes.read key b.1) → a.2 < b.2

theorem precedes_of_before {key : String} {rows : List Value} {k l : Keyed}
    (before : Before host ascending (entries key rows) k l) :
    Precedes host key ascending (k.row,k.place) (l.row,l.place) := by
  obtain ⟨⟨first,second⟩,early⟩ := before
  rw [(value_held first).2.1,(value_held second).2.1] at early
  refine ⟨?_,?_,?_⟩ <;> dsimp only
  · rw [rank_eq] at early
    cases left : (Attributes.read key k.row).isMissing <;> cases right : (Attributes.read key l.row).isMissing <;>
      cases ascending <;> simp_all
  · intro left right same
    rw [rank_eq,left,right,same] at early
    cases ascending <;> rcases early with below | ⟨ties,_⟩ <;> contradiction
  · intro tie
    rcases early with below | ⟨_,early⟩
    · rw [rank_tie.mpr tie] at below
      cases below
    · exact early

theorem sortRows_list (rows : List Value) (key direction : Value) : sortRows (list rows) key direction =
    if rows.isEmpty || key.isMissing then pure (list rows)
    else do return list (← sort rows key (direction.given (text "asc"))) := by
  have counted : fetch "length" (list rows) = pure (ofNat rows.length) := rfl
  have none : isSame (ofNat rows.length) (number 0) = rows.isEmpty := by
    refine (Number.ofNat_beq_zero rows.length).trans ?_
    cases rows <;> rfl
  unfold sortRows
  simp only [counted,pure_bind,none]
  rfl

theorem sortRows_text {rows sorted : List Value} {name : String} {direction : Value}
    (told : sort rows (text name) (direction.given (text "asc")) host = .ok sorted) :
    sortRows (list rows) (text name) direction host = .ok (list sorted) := by
  rw [sortRows_list]
  cases rows with
  | nil =>
    obtain rfl := (sort_keeps told).eq_nil
    rfl
  | cons row rest => exact Ask.bind_ok told

-- A stable sort. No row is lost. Where the values that are there are in an order, the rows come out with the missing ones
-- together, in that order or its reverse, ties as they came; and sorting again by the same changes nothing.
theorem sortRows_stable (rows : List Value) (key direction : Value) (host : Host) :
    (∀ sorted, sortRows (list rows) key direction host = .ok sorted → ∃ all, sorted = list all ∧ all.Perm rows) ∧
    (key.isMissing → sortRows (list rows) key direction host = .ok (list rows)) ∧
    ∀ name, key = text name →
      ((∀ a ∈ present name rows, ∀ b ∈ present name rows, Ask.Ends host (compare a b)) →
        Ask.Ends host (sortRows (list rows) key direction)) ∧
      (Consistent host (present name rows) → ∃ order : List (Value × Nat), order.Perm rows.zipIdx ∧
        order.Pairwise (Precedes host name (isAscending (direction.given (text "asc")))) ∧
        sortRows (list rows) key direction host = .ok (list (order.map (·.1))) ∧
        sortRows (list (order.map (·.1))) key direction host = .ok (list (order.map (·.1)))) := by
  refine ⟨?_,?_,?_⟩
  · intro sorted ended
    rw [sortRows_list] at ended
    split at ended
    · cases ended
      exact ⟨rows,rfl,.refl rows⟩
    · obtain ⟨all,told,ended⟩ := Ask.ok_of_bind ended
      cases ended
      exact ⟨all,rfl,sort_keeps told⟩
  · intro missing
    rw [sortRows_list,missing,Bool.or_true,if_pos rfl]
    rfl
  · rintro name rfl
    refine ⟨?_,?_⟩
    · exact fun answered => ⟨_,sortRows_text (sort_answered answered _),trivial⟩
    · intro consistent
      obtain ⟨order,same,sorted,told⟩ := sort_ordered consistent (direction.given (text "asc"))
      have listed : (entries name rows).map (fun k => (k.row,k.place)) = rows.zipIdx := by
        rw [entries,List.map_map]
        exact List.map_id _
      have kept : (order.map (·.row)).Perm rows := sort_keeps told
      have upward : (order.map (·.row)).Pairwise fun a b => rank host (isAscending (direction.given (text "asc")))
          (Attributes.read name a) (Attributes.read name b) ≠ .gt := by
        refine List.pairwise_map.mpr (sorted.imp ?_)
        rintro k l ⟨⟨first,second⟩,early⟩
        rw [(value_held first).2.1,(value_held second).2.1] at early
        rcases early with below | ⟨ties,_⟩ <;> simp_all
      refine ⟨order.map fun k => (k.row,k.place),listed ▸ same.map _,?_,?_⟩
      · exact List.pairwise_map.mpr (sorted.imp precedes_of_before)
      · rw [List.map_map]
        exact ⟨sortRows_text told,sortRows_text (sort_settled (consistent.perm kept) upward)⟩

def named : List Value :=
  [object [("name",text "b"), ("tag",text "first")], object [("name",null)], list [list [text "name", text "a"]],
    list [list [text "tag", text "none"]], list [list [text "name", text "b"], list [text "tag", text "second"]]]

theorem sortRows_stable_named : present "name" named = [text "b", text "a", text "b"] ∧
    ∃ order : List (Value × Nat), order.Perm named.zipIdx ∧ order.Pairwise (Precedes .silent "name" false) ∧
      sortRows (list named) (text "name") (text "desc") .silent = .ok (list (order.map (·.1))) ∧
      sortRows (list (order.map (·.1))) (text "name") (text "desc") .silent = .ok (list (order.map (·.1))) := by
  have texts : ∀ value ∈ present "name" named, ∃ s, value = text s := by
    change ∀ value ∈ [text "b", text "a", text "b"], _
    simp
  obtain ⟨-,-,byName⟩ := sortRows_stable named (text "name") (text "desc") .silent
  exact ⟨rfl,(byName "name" rfl).2 (consistent_texts texts)⟩

end Trifold.Table
