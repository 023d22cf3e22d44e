import Mathlib.Data.List.Pairwise
import Mathlib.Order.Defs.Unbundled
import Trifold.Table.Runs

namespace Trifold.Runs

variable {α : Type}

section

variable (wins : α → Id Bool) (items : List α) (n : Nat)

def WonBefore : Prop := ∀ last ∈ (items.take n).getLast?, wins last = true

def LostFrom : Prop := ∀ first ∈ (items.drop n).head?, wins first = false

-- A place between an item that wins and one that does not.
structure Cut : Prop where
  won : WonBefore wins items n
  lost : LostFrom wins items n

end

section

variable {wins : α → Id Bool} {items : List α} {item : α} {place : Nat}

theorem wonBefore_succ (there : items[place]? = some item) (won : wins item = true) : WonBefore wins items (place + 1) := by
  unfold WonBefore
  rw [List.getLast?_take,if_neg (Nat.succ_ne_zero place),Nat.add_sub_cancel,there]
  rintro last ⟨⟩
  exact won

theorem lostFrom_place (there : items[place]? = some item) (lost : wins item = false) : LostFrom wins items place := by
  unfold LostFrom
  rw [List.head?_drop,there]
  rintro first ⟨⟩
  exact lost

theorem wonBefore_zero (wins : α → Id Bool) (items : List α) : WonBefore wins items 0 :=
  fun last there => absurd there (Option.not_mem_none last)

theorem lostFrom_length (wins : α → Id Bool) (items : List α) : LostFrom wins items items.length := by
  unfold LostFrom
  rw [List.drop_length]
  exact fun first there => absurd there (Option.not_mem_none first)

theorem narrow_cut (side : End) {low high : Nat} (ordered : low ≤ high) (inside : high ≤ items.length)
    (won : WonBefore wins items low) (lost : LostFrom wins items high) : Cut wins items (narrow side wins items low high) := by
  induction low,high using narrow.induct side items with
  | case1 low high range place nothing =>
    have bounds := middle_bounds side low high range
    have outside : items.length ≤ place := List.getElem?_eq_none_iff.mp nothing
    omega
  | case2 low high range place item found above below =>
    have bounds := middle_bounds side low high range
    simp only [place] at found above below
    rw [narrow.eq_def,dif_pos range]
    simp only [bind,found]
    split
    · rename_i wins'
      exact above bounds.2 inside (wonBefore_succ found wins') lost
    · rename_i loses
      exact below bounds.1 (by omega) won (lostFrom_place found ((Bool.not_eq_true _).mp loses))
  | case3 low high empty =>
    obtain rfl : low = high := by omega
    rw [narrow.eq_def,dif_neg empty]
    exact ⟨won,lost⟩

theorem stride_cut {last next : Nat} (ordered : last < next) (inside : last < items.length)
    (won : WonBefore wins items (last + 1)) : let found := stride wins items last next
    found.1 < found.2 ∧ found.2 ≤ items.length ∧ WonBefore wins items (found.1 + 1) ∧ LostFrom wins items found.2 := by
  induction last,next using stride.induct items with
  | case1 last next inside' ih =>
    have there : items[next]? = some items[next] := List.getElem?_eq_getElem inside'
    rw [stride.eq_def,dif_pos inside']
    simp only [bind,pure]
    by_cases wins' : wins items[next] = true
    · rw [if_pos wins']
      exact ih (by omega) inside' (wonBefore_succ there wins')
    · rw [if_neg wins']
      exact ⟨ordered,Nat.le_of_lt inside',won,lostFrom_place there ((Bool.not_eq_true _).mp wins')⟩
  | case2 last next outside =>
    rw [stride.eq_def,dif_neg outside]
    exact ⟨inside,Nat.le_refl _,won,lostFrom_length wins items⟩

theorem lead_cut (side : End) (wins : α → Id Bool) (items : List α) : Cut wins items (lead side wins items) := by
  cases items with
  | nil => exact ⟨wonBefore_zero wins [],lostFrom_length wins []⟩
  | cons first rest =>
    have there : (first :: rest)[0]? = some first := rfl
    rw [lead]
    simp only [bind,pure]
    cases verdict : wins first with
    | false => exact ⟨wonBefore_zero wins _,lostFrom_place there verdict⟩
    | true =>
      have won := wonBefore_succ there verdict
      have some : 0 < (first :: rest).length := rest.length.succ_pos
      obtain ⟨ordered,inside,won,lost⟩ := stride_cut Nat.zero_lt_one some won
      exact narrow_cut side ordered inside won lost

end

-- The order that the questions are about. A question is decided when its answer tells which of the two comes before the
-- other; nothing is asked of items that are not compared.
variable {goes : α → α → Id Bool} {before : α → α → Prop} [IsTrans α before]

def Decides (goes : α → α → Id Bool) (before : α → α → Prop) (p k : α) : Prop :=
  (goes p k = true → before p k) ∧ (goes p k = false → before k p)

theorem before_of_last {taken : List α} {item : α} (sorted : taken.Pairwise before)
    (won : ∀ last ∈ taken.getLast?, before last item) : ∀ other ∈ taken, before other item := by
  induction taken with
  | nil => exact List.forall_mem_nil _
  | cons first rest ih =>
    obtain ⟨here,later⟩ := List.pairwise_cons.mp sorted
    cases rest with
    | nil => exact List.forall_mem_singleton.mpr (won first rfl)
    | cons second rest =>
      have others := ih later won
      refine List.forall_mem_cons.mpr ⟨?_,others⟩
      exact IsTrans.trans _ _ _ (here second List.mem_cons_self) (others second List.mem_cons_self)

theorem before_of_first {rest : List α} {item : α} (sorted : rest.Pairwise before)
    (lost : ∀ first ∈ rest.head?, before item first) : ∀ other ∈ rest, before item other := by
  cases rest with
  | nil => exact List.forall_mem_nil _
  | cons first rest =>
    have here := lost first rfl
    refine List.forall_mem_cons.mpr ⟨here,?_⟩
    intro other there
    exact IsTrans.trans _ _ _ here ((List.pairwise_cons.mp sorted).1 other there)

theorem before_of_ends {taken rest : List α} (sorted : taken.Pairwise before) (sorted' : rest.Pairwise before)
    (ends : ∀ last ∈ taken.getLast?, ∀ first ∈ rest.head?, before last first) : ∀ a ∈ taken, ∀ b ∈ rest, before a b := by
  intro a there b there'
  refine before_of_last sorted ?_ a there
  intro last ended
  exact before_of_first sorted' (ends last ended) b there'

-- Two runs that can be merged: each is in order, and whatever is asked between them is decided. The last item of the run
-- kept aside comes after all that waits in place.
structure Ready (goes : α → α → Id Bool) (before : α → α → Prop) (kept place : List α) : Prop where
  sorted : kept.Pairwise before
  waiting : place.Pairwise before
  decides : ∀ p ∈ place, ∀ k ∈ kept, Decides goes before p k
  ends : ∀ last ∈ kept.getLast?, ∀ p ∈ place, before p last

-- What a merge of two runs has to give.
def Merges (goes : α → α → Id Bool) (before : α → α → Prop) (kept place merged : List α) : Prop :=
  merged.Perm (kept ++ place) ∧ (Ready goes before kept place → merged.Pairwise before)

namespace Merges

variable {taken kept place merged : List α}

omit [IsTrans α before] in
theorem nil_kept (place : List α) : Merges goes before [] place place := ⟨.refl _,Ready.waiting⟩

omit [IsTrans α before] in
theorem nil_place (kept : List α) : Merges goes before kept [] kept := by
  refine ⟨?_,Ready.sorted⟩
  rw [List.append_nil]

omit [IsTrans α before] in
theorem single (last : α) (place : List α) : Merges goes before [last] place (place ++ [last]) := by
  refine ⟨List.perm_append_comm,?_⟩
  intro ready
  refine List.pairwise_append.mpr ⟨ready.waiting,List.pairwise_singleton _ _,?_⟩
  intro p there k last'
  obtain rfl := List.mem_singleton.mp last'
  exact ready.ends k rfl p there

-- Items of the run kept aside go first where the last of them does not lose against the first in place.
theorem keep (won : ∀ last ∈ taken.getLast?, ∀ p ∈ place.head?, goes p last = false)
    (merges : Merges goes before kept place merged) : Merges goes before (taken ++ kept) place (taken ++ merged) := by
  obtain ⟨same,sorts⟩ := merges
  refine ⟨?_,?_⟩
  · rw [List.append_assoc]
    exact same.append_left taken
  · rintro ⟨sorted,waiting,decides,ends⟩
    obtain ⟨front,rest,ahead⟩ := List.pairwise_append.mp sorted
    have first : ∀ t ∈ taken, ∀ p ∈ place, before t p := by
      refine before_of_ends front waiting ?_
      intro last ended p started
      have listed := List.mem_append_left kept (List.mem_of_getLast? ended)
      exact (decides p (List.mem_of_head? started) last listed).2 (won last ended p started)
    have ready : Ready goes before kept place := by
      refine ⟨rest,waiting,fun p there k listed => decides p there k (List.mem_append_right taken listed),?_⟩
      intro last ended
      refine ends last ?_
      rw [List.getLast?_append,ended]
      rfl
    refine List.pairwise_append.mpr ⟨front,sorts ready,?_⟩
    intro t there m listed
    rcases List.mem_append.mp (same.mem_iff.mp listed) with kept | place
    · exact ahead t there m kept
    · exact first t there m place

-- Items in place go first where the last of them wins against the first of the run kept aside.
theorem put (won : ∀ last ∈ taken.getLast?, ∀ k ∈ kept.head?, goes last k = true)
    (merges : Merges goes before kept place merged) : Merges goes before kept (taken ++ place) (taken ++ merged) := by
  obtain ⟨same,sorts⟩ := merges
  refine ⟨?_,?_⟩
  · calc (taken ++ merged).Perm (taken ++ (kept ++ place)) := same.append_left taken
      _ = (taken ++ kept) ++ place := (List.append_assoc ..).symm
      List.Perm _ ((kept ++ taken) ++ place) := List.perm_append_comm.append_right place
      _ = kept ++ (taken ++ place) := List.append_assoc ..
  · rintro ⟨sorted,waiting,decides,ends⟩
    obtain ⟨front,rest,ahead⟩ := List.pairwise_append.mp waiting
    have first : ∀ t ∈ taken, ∀ k ∈ kept, before t k := by
      refine before_of_ends front sorted ?_
      intro last ended k started
      have listed := List.mem_append_left place (List.mem_of_getLast? ended)
      exact (decides last listed k (List.mem_of_head? started)).1 (won last ended k started)
    have ready : Ready goes before kept place :=
      ⟨sorted,rest,fun p there => decides p (List.mem_append_right taken there),
        fun last ended p there => ends last ended p (List.mem_append_right taken there)⟩
    refine List.pairwise_append.mpr ⟨front,sorts ready,?_⟩
    intro t there m listed
    rcases List.mem_append.mp (same.mem_iff.mp listed) with kept | place
    · exact first t there m kept
    · exact ahead t there m place

theorem keep_one {k : α} {ks : List α} (won : ∀ p ∈ place.head?, goes p k = false)
    (merges : Merges goes before ks place merged) : Merges goes before (k :: ks) place (k :: merged) := by
  have single : ∀ last ∈ [k].getLast?, ∀ p ∈ place.head?, goes p last = false := by
    rintro _ ⟨⟩
    exact won
  exact keep single merges

theorem put_one {p : α} {ps : List α} (won : ∀ k ∈ kept.head?, goes p k = true) (merges : Merges goes before kept ps merged) :
    Merges goes before kept (p :: ps) (p :: merged) := by
  have single : ∀ last ∈ [p].getLast?, ∀ k ∈ kept.head?, goes last k = true := by
    rintro _ ⟨⟩
    exact won
  exact put single merges

-- A gallop: what wins against the first item of the other run goes first, and then that item.
theorem gallop_put {k : α} {ks : List α} {wins : Nat} (cut : Cut (fun p => goes p k) place wins)
    (merges : Merges goes before ks (place.drop wins) merged) :
    Merges goes before (k :: ks) place (place.take wins ++ k :: merged) := by
  have front : ∀ last ∈ (place.take wins).getLast?, ∀ first ∈ (k :: ks).head?, goes last first = true := by
    rintro last ended _ ⟨⟩
    exact cut.won last ended
  have whole := put front (keep_one cut.lost merges)
  rwa [List.take_append_drop] at whole

theorem gallop_keep {p : α} {ps : List α} {wins : Nat} (cut : Cut (fun k => !(goes p k)) kept wins)
    (merges : Merges goes before (kept.drop wins) ps merged) :
    Merges goes before kept (p :: ps) (kept.take wins ++ p :: merged) := by
  have front : ∀ last ∈ (kept.take wins).getLast?, ∀ first ∈ (p :: ps).head?, goes first last = false := by
    rintro last ended _ ⟨⟩
    exact (Bool.not_eq_true' _).mp (cut.won last ended)
  have next : ∀ k ∈ (kept.drop wins).head?, goes p k = true :=
    fun k started => (Bool.not_eq_false' _).mp (cut.lost k started)
  have whole := keep front (put_one next merges)
  rwa [List.take_append_drop] at whole

omit [IsTrans α before] in
theorem few {rest : List α} (short : rest.length ≤ 1) (place : List α) : Merges goes before rest place (place ++ rest) := by
  cases rest with
  | nil =>
    rw [List.append_nil]
    exact nil_kept place
  | cons last rest =>
    obtain rfl : rest = [] := List.eq_nil_of_length_eq_zero (by simpa using short)
    exact single last place

end Merges

-- A merge goes on with what is left of both runs, item by item or in gallops, in either of which it may go over to the other.
theorem merging_merges :
    (∀ side needed keptWins placeWins kept place,
      Merges goes before kept place (itemwise side goes needed keptWins placeWins kept place).1) ∧
    (∀ side needed kept place, Merges goes before kept place (gallop side goes needed kept place).1) ∧
    (∀ side second needed earlier kept place,
      Merges goes before kept place (gallopPlace side goes second needed earlier kept place).1) ∧
    (∀ side second needed earlier kept place,
      Merges goes before kept place (gallopKept side goes second needed earlier kept place).1) := by
  apply itemwise.mutual_induct
  case case1 =>
    intro side needed keptWins placeWins k ks p ps slower faster slower' faster'
    rw [itemwise.eq_def]
    simp only [bind,pure]
    cases verdict : goes p k with
    | true =>
      have won : ∀ first ∈ (k :: ks).head?, goes p first = true := by
        rintro _ ⟨⟩
        exact verdict
      rw [if_pos rfl]
      split
      · rename_i none
        obtain rfl := List.isEmpty_iff.mp none
        exact .put_one won (.nil_place _)
      · split
        · exact .put_one won slower
        · exact .put_one won faster
    | false =>
      have won : ∀ first ∈ (p :: ps).head?, goes first k = false := by
        rintro _ ⟨⟩
        exact verdict
      rw [if_neg Bool.false_ne_true]
      split
      · rename_i one
        exact .keep_one won (.few (Nat.le_of_eq one) _)
      · split
        · exact .keep_one won slower'
        · exact .keep_one won faster'
  case case2 =>
    intro side needed keptWins placeWins kept place empty
    rw [itemwise.eq_def]
    cases kept with
    | nil => exact .nil_kept place
    | cons k ks => cases place with
      | nil =>
        change Merges goes before (k :: ks) [] (k :: ks ++ [])
        rw [List.append_nil]
        exact .nil_place _
      | cons p ps => exact (empty _ _ _ _ rfl rfl).elim
  case case3 =>
    intro needed kept place ih
    rw [gallop.eq_def]
    exact ih
  case case4 =>
    intro needed kept place ih
    rw [gallop.eq_def]
    exact ih
  case case5 =>
    intro side second needed earlier place
    rw [gallopPlace.eq_def]
    exact .nil_kept place
  case case6 =>
    intro side second needed earlier place k ks other again slow
    have cut := lead_cut side (fun p => goes p k) place
    rw [gallopPlace.eq_def]
    simp only [bind,pure]
    generalize lead side (fun p => goes p k) place = wins at cut ⊢
    split
    · rename_i all
      obtain ⟨-,none⟩ := Bool.and_eq_true_iff.mp all
      have none := List.isEmpty_iff.mp none
      have whole := List.take_append_drop wins place
      rw [none,List.append_nil] at whole
      have rest : Merges goes before ks (place.drop wins) ks := by
        rw [none]
        exact .nil_place ks
      have merges := Merges.gallop_put cut rest
      rwa [whole] at merges
    · split
      · rename_i one
        have merges : Merges goes before (k :: ks) place (place.take wins ++ k :: (place.drop wins ++ ks)) :=
          .gallop_put cut (.few (Nat.le_of_eq one) _)
        rwa [← List.cons_append,← List.append_assoc] at merges
      · split
        · exact .gallop_put cut (other wins)
        · split
          · exact .gallop_put cut (again wins)
          · exact .gallop_put cut (slow wins)
  case case7 =>
    intro side second needed earlier kept
    rw [gallopKept.eq_def]
    exact .nil_place kept
  case case8 =>
    intro side second needed earlier kept p ps other again slow
    have cut := lead_cut side (fun k => !(goes p k)) kept
    rw [gallopKept.eq_def]
    simp only [bind,pure]
    generalize lead (m := Id) side (fun k => !(goes p k)) kept = wins at cut ⊢
    split
    · rename_i short
      obtain ⟨-,few⟩ := Bool.and_eq_true_iff.mp short
      have merges : Merges goes before kept (p :: ps) (kept.take wins ++ p :: (ps ++ kept.drop wins)) :=
        .gallop_keep cut (.few (of_decide_eq_true few) ps)
      rwa [← List.cons_append,← List.append_assoc] at merges
    · split
      · rename_i none
        obtain rfl := List.isEmpty_iff.mp none
        exact .gallop_keep cut (.nil_place _)
      · split
        · exact .gallop_keep cut (other wins)
        · split
          · exact .gallop_keep cut (again wins)
          · exact .gallop_keep cut (slow wins)

theorem mergeFrom_merges (side : End) (needed : Nat) {kept place : List α}
    (known : ∀ p ∈ place.head?, ∀ k ∈ kept.head?, goes p k = true) :
    Merges goes before kept place (mergeFrom side goes needed kept place).1 := by
  cases place with
  | nil => exact .nil_place kept
  | cons p ps =>
    have won := known p rfl
    simp only [mergeFrom,bind,pure]
    split
    · rename_i short
      rcases (Bool.or_eq_true ..).mp short with none | one
      · obtain rfl := List.isEmpty_iff.mp none
        exact .put_one won (.nil_place kept)
      · exact .few (Nat.le_of_eq (of_decide_eq_true one)) (p :: ps)
    · exact .put_one won (merging_merges.1 side needed 0 0 kept ps)

-- What comes of two neighbouring runs.
def Joins (less : α → α → Id Bool) (before : α → α → Prop) (left right joined : List α) : Prop :=
  joined.Perm (left ++ right) ∧ (left.Pairwise before → right.Pairwise before →
    (∀ r ∈ right, ∀ l ∈ left, Decides less before r l) → joined.Pairwise before)

variable {less : α → α → Id Bool} {settled moving coming after joined : List α}

omit [IsTrans α before] in
theorem Joins.nil_right (left : List α) : Joins less before left [] left := by
  refine ⟨?_,fun sorted _ _ => sorted⟩
  rw [List.append_nil]

section

variable (needed : Nat) (starts : ∀ first ∈ coming.head?, ∀ k ∈ moving.head?, less first k = true)
  (ends : ∀ it ∈ coming.getLast?, ∀ last ∈ moving.getLast?, less it last = true)
include starts ends

-- The middle of two runs, where the first that comes goes before all that move, and the last that moves after all that come.
theorem front_joins : Joins less before moving coming (mergeFrom .front less needed moving coming).1 := by
  obtain ⟨same,sorts⟩ := @mergeFrom_merges _ less before _ .front needed moving coming starts
  refine ⟨same,?_⟩
  intro left right decides
  refine sorts ⟨left,right,decides,?_⟩
  intro last ended
  refine before_of_last right ?_
  intro it ended'
  exact (decides it (List.mem_of_getLast? ended') last (List.mem_of_getLast? ended)).1 (ends it ended' last ended)

theorem back_joins : Joins less before moving coming
    (mergeFrom .back (fun p k => less k p) needed coming.reverse moving.reverse).1.reverse := by
  have turned : IsTrans α fun a b => before b a := ⟨fun _ _ _ first second => IsTrans.trans _ _ _ second first⟩
  have known : ∀ p ∈ moving.reverse.head?, ∀ k ∈ coming.reverse.head?, less k p = true := by
    rw [List.head?_reverse,List.head?_reverse]
    exact fun last ended it ended' => ends it ended' last ended
  obtain ⟨same,sorts⟩ := @mergeFrom_merges _ (fun p k => less k p) _ turned .back needed _ _ known
  refine ⟨?_,?_⟩
  · calc
      List.Perm _ _ := List.reverse_perm _
      List.Perm _ (coming.reverse ++ moving.reverse) := same
      _ = (moving ++ coming).reverse := List.reverse_append.symm
      List.Perm _ (moving ++ coming) := List.reverse_perm _
  · intro left right decides
    rw [List.pairwise_reverse]
    refine sorts ⟨List.pairwise_reverse.mpr right,List.pairwise_reverse.mpr left,?_,?_⟩
    · intro p there k there'
      exact decides k (List.mem_reverse.mp there') p (List.mem_reverse.mp there)
    · rw [List.getLast?_reverse]
      intro first started p there
      refine before_of_first left ?_ p (List.mem_reverse.mp there)
      intro k started'
      exact (decides first (List.mem_of_head? started) k (List.mem_of_head? started')).1 (starts first started k started')

end

theorem Joins.framed (middle : Joins less before moving coming joined)
    (front : ∀ last ∈ settled.getLast?, ∀ first ∈ (coming ++ after).head?, less first last = false)
    (back : ∀ first ∈ after.head?, ∀ last ∈ moving.getLast?, less first last = false) :
    Joins less before (settled ++ moving) (coming ++ after) (settled ++ joined ++ after) := by
  obtain ⟨same,sorts⟩ := middle
  refine ⟨?_,?_⟩
  · calc (settled ++ joined ++ after).Perm (settled ++ (moving ++ coming) ++ after) :=
          (same.append_left settled).append_right after
      _ = settled ++ moving ++ (coming ++ after) := by simp only [List.append_assoc]
  · intro left right decides
    obtain ⟨early,move,ahead⟩ := List.pairwise_append.mp left
    obtain ⟨come,late,behind⟩ := List.pairwise_append.mp right
    have first : ∀ s ∈ settled, ∀ r ∈ coming ++ after, before s r := by
      refine before_of_ends early right ?_
      intro last ended it started
      have listed := List.mem_append_left moving (List.mem_of_getLast? ended)
      exact (decides it (List.mem_of_head? started) last listed).2 (front last ended it started)
    have last : ∀ m ∈ moving, ∀ a ∈ after, before m a := by
      refine before_of_ends move late ?_
      intro last ended it started
      exact (decides it (List.mem_append_right coming (List.mem_of_head? started)) last
        (List.mem_append_right settled (List.mem_of_getLast? ended))).2 (back it started last ended)
    have between := sorts move come fun r there l there' =>
      decides r (List.mem_append_left after there) l (List.mem_append_right settled there')
    rw [List.append_assoc]
    refine List.pairwise_append.mpr ⟨early,List.pairwise_append.mpr ⟨between,late,?_⟩,?_⟩
    · intro j there a there'
      rcases List.mem_append.mp (same.mem_iff.mp there) with moved | came
      · exact last j moved a there'
      · exact behind j came a there'
    · intro s there r there'
      rcases List.mem_append.mp there' with middle | after
      · rcases List.mem_append.mp (same.mem_iff.mp middle) with moved | came
        · exact ahead s there r moved
        · exact first s there r (List.mem_append_left _ came)
      · exact first s there r (List.mem_append_right _ after)

theorem cut_reverse {wins : α → Id Bool} {items : List α} {n : Nat} (cut : Cut wins items.reverse n) :
    (∀ last ∈ (items.take (items.length - n)).getLast?, wins last = false) ∧
      ∀ first ∈ (items.drop (items.length - n)).head?, wins first = true := by
  obtain ⟨won,lost⟩ := cut
  rw [WonBefore,List.take_reverse,List.getLast?_reverse] at won
  rw [LostFrom,List.drop_reverse,List.head?_reverse] at lost
  exact ⟨lost,won⟩

theorem merge_joins (needed : Nat) (left right : List α) : Joins less before left right (merge less needed left right).1 := by
  cases right with
  | nil => exact .nil_right left
  | cons first rest =>
    have cut := lead_cut .front (fun item => !(less first item)) left
    unfold merge
    simp only [bind,pure]
    obtain ⟨settled,same⟩ : ∃ n : Nat, lead (m := Id) .front (fun item => !(less first item)) left = n := ⟨_,rfl⟩
    rw [same] at cut ⊢
    have front : ∀ last ∈ (left.take settled).getLast?, ∀ it ∈ (first :: rest).head?, less it last = false := by
      rintro last ended _ ⟨⟩
      exact (Bool.not_eq_true' _).mp (cut.won last ended)
    have behind : ∀ it ∈ (first :: rest).head?, ∀ k ∈ (left.drop settled).head?, less it k = true := by
      rintro _ ⟨⟩ k started
      exact (Bool.not_eq_false' _).mp (cut.lost k started)
    generalize first :: rest = right at front behind ⊢
    have whole := List.take_append_drop settled left
    cases moved : (left.drop settled).getLast? with
    | none =>
      have none := List.getLast?_eq_none_iff.mp moved
      have empty : Joins less before [] [] [] := .nil_right []
      have joins := empty.framed front fun first _ last there => absurd there (Option.not_mem_none last)
      rw [none,List.append_nil] at whole
      rw [List.nil_append,whole,List.append_nil] at joins
      exact joins
    | some last =>
      have cut' := cut_reverse (lead_cut .back (fun item => !(less item last)) right.reverse)
      dsimp only
      obtain ⟨above,same⟩ : ∃ n : Nat, lead (m := Id) .back (fun item => !(less item last)) right.reverse = n := ⟨_,rfl⟩
      rw [same] at cut' ⊢
      generalize right.length - above = count at cut' ⊢
      obtain ⟨ends,starts⟩ := cut'
      have whole' := List.take_append_drop count right
      rw [← whole'] at front
      have back : ∀ it ∈ (right.drop count).head?, ∀ m ∈ (left.drop settled).getLast?, less it m = false := by
        rw [moved]
        rintro it started _ ⟨⟩
        exact (Bool.not_eq_true' _).mp (starts it started)
      have joins (joined : List α) (middle : Joins less before (left.drop settled) (right.take count) joined) :
          Joins less before left right (left.take settled ++ joined ++ right.drop count) := by
        have framed := middle.framed front back
        rwa [whole,whole'] at framed
      have first' : ∀ it ∈ (right.take count).head?, ∀ k ∈ (left.drop settled).head?, less it k = true := by
        rw [List.head?_take]
        split
        · exact fun it there => absurd there (Option.not_mem_none it)
        · exact behind
      have last' : ∀ it ∈ (right.take count).getLast?, ∀ m ∈ (left.drop settled).getLast?, less it m = true := by
        rw [moved]
        rintro it ended _ ⟨⟩
        exact (Bool.not_eq_false' _).mp (ends it ended)
      split
      · rename_i none
        have none := List.isEmpty_iff.mp none
        rw [none,List.nil_append] at whole'
        have alone : Joins less before (left.drop settled) (right.take count) (left.drop settled) := by
          rw [none]
          exact .nil_right _
        have joined := joins _ alone
        rwa [whole,whole'] at joined
      · split
        · exact joins _ (front_joins needed first' last')
        · exact joins _ (back_joins needed first' last')

end Trifold.Runs
