import Trifold.Proofs.Agree
import Trifold.Table.Runs

namespace Trifold.Runs
open Agree
open List (Forall₂)

variable {α β : Type} {R : α → β → Prop} {m n : Type → Type} [Monad m] [Monad n] (L : Lifting m n)
include L

section

variable {wins : α → m Bool} {wins' : β → n Bool} {items : List α} {items' : List β}
  (asked : ∀ a b, R a b → L.rel (· = ·) (wins a) (wins' b)) (related : Forall₂ R items items')
include asked related

theorem stride_agree (last next : Nat) :
    L.rel (· = ·) (stride wins items last next) (stride wins' items' last next) := by
  induction last,next using stride.induct items with
  | case1 last next inside ih =>
    have inside' : next < items'.length := related.length_eq ▸ inside
    rw [stride.eq_def wins,stride.eq_def wins',dif_pos inside,dif_pos inside']
    refine L.bind (asked _ _ (related.get inside inside')) ?_
    intro won _ same
    subst same
    cases won
    · exact L.pure rfl
    · exact ih
  | case2 last next outside =>
    have outside' : ¬ next < items'.length := related.length_eq ▸ outside
    rw [stride.eq_def wins,stride.eq_def wins',dif_neg outside,dif_neg outside',related.length_eq]
    exact L.pure rfl

theorem narrow_agree (side : End) (low high : Nat) :
    L.rel (· = ·) (narrow side wins items low high) (narrow side wins' items' low high) := by
  induction low,high using narrow.induct side items with
  | case1 low high range place nothing =>
    have met := Agree.getElem? related place
    rw [nothing] at met
    rw [narrow.eq_def side wins,narrow.eq_def side wins',dif_pos range,dif_pos range]
    cases found : items'[place]? with
    | none =>
      simp only [place] at nothing found
      simp only [nothing,found]
      exact L.pure rfl
    | some item => rw [found] at met; cases met
  | case2 low high range place item found above below =>
    have met := Agree.getElem? related place
    rw [found] at met
    rw [narrow.eq_def side wins,narrow.eq_def side wins',dif_pos range,dif_pos range]
    cases found' : items'[place]? with
    | none => rw [found'] at met; cases met
    | some item' =>
      rw [found'] at met
      cases met with
      | some here =>
        simp only [place] at found found'
        simp only [found,found']
        refine L.bind (asked _ _ here) ?_
        intro won _ same
        subst same
        cases won
        · exact below
        · exact above
  | case3 low high empty =>
    rw [narrow.eq_def side wins,narrow.eq_def side wins',dif_neg empty,dif_neg empty]
    exact L.pure rfl

theorem lead_agree (side : End) : L.rel (· = ·) (lead side wins items) (lead side wins' items') := by
  cases related with
  | nil => exact L.pure rfl
  | cons here rest =>
    refine L.bind (asked _ _ here) ?_
    intro won _ same
    subst same
    cases won
    · exact L.pure rfl
    · refine L.bind (stride_agree L asked (.cons here rest) 0 1) ?_
      rintro ⟨last,next⟩ _ same
      subst same
      exact narrow_agree L asked (.cons here rest) side (last + 1) next

end

-- Merged runs, and how many wins the next merge has to see.
def Merged (R : α → β → Prop) (left : List α × Nat) (right : List β × Nat) : Prop :=
  Forall₂ R left.1 right.1 ∧ left.2 = right.2

-- A merge goes on with what is left of both runs and puts what is settled in front.
theorem merged_front {f : List α → List α} {f' : List β → List β} {x : m (List α × Nat)} {y : n (List β × Nat)}
    (front : ∀ rest rest', Forall₂ R rest rest' → Forall₂ R (f rest) (f' rest'))
    (agree : L.rel (Merged R) (x) (y)) :
    L.rel (Merged R) (do let (rest,needed) ← x; return (f rest,needed))
      (do let (rest,needed) ← y; return (f' rest,needed)) := by
  refine L.bind agree ?_
  rintro ⟨rest,needed⟩ ⟨rest',needed'⟩ ⟨merged,same⟩
  exact L.pure ⟨front _ _ merged,same⟩

variable {goes : α → α → m Bool} {goes' : β → β → n Bool}
  (asked : ∀ a b a' b', R a a' → R b b' → L.rel (· = ·) (goes a b) (goes' a' b'))
include asked

theorem asked_not {a b : α} {a' b' : β} (first : R a a') (second : R b b') :
    L.rel (· = ·) ((do return !(← goes a b))) ((do return !(← goes' a' b'))) := by
  refine L.bind (asked _ _ _ _ first second) ?_
  intro won _ same
  subst same
  exact L.pure rfl

theorem merging_agree :
    (∀ side needed keptWins placeWins kept place, ∀ kept' place', Forall₂ R kept kept' → Forall₂ R place place' →
      L.rel (Merged R) (itemwise side goes needed keptWins placeWins kept place)
        (itemwise side goes' needed keptWins placeWins kept' place')) ∧
    (∀ side needed kept place, ∀ kept' place', Forall₂ R kept kept' → Forall₂ R place place' →
      L.rel (Merged R) (gallop side goes needed kept place) (gallop side goes' needed kept' place')) ∧
    (∀ side second needed earlier kept place, ∀ kept' place', Forall₂ R kept kept' → Forall₂ R place place' →
      L.rel (Merged R) (gallopPlace side goes second needed earlier kept place)
        (gallopPlace side goes' second needed earlier kept' place')) ∧
    (∀ side second needed earlier kept place, ∀ kept' place', Forall₂ R kept kept' → Forall₂ R place place' →
      L.rel (Merged R) (gallopKept side goes second needed earlier kept place)
        (gallopKept side goes' second needed earlier kept' place')) := by
  apply itemwise.mutual_induct
  case case1 =>
    intro side needed keptWins placeWins k ks p ps slower faster slower' faster' kept' place' kept place
    cases kept with
    | cons first rest => cases place with
      | cons here later =>
        rw [itemwise.eq_def side goes,itemwise.eq_def side goes']
        refine L.bind (asked _ _ _ _ here first) ?_
        intro won _ same
        subst same
        simp only [Agree.isEmpty_eq later,rest.length_eq]
        split
        · split
          · exact L.pure ⟨.cons here (.cons first rest),rfl⟩
          · split
            · exact merged_front L (fun _ _ => .cons here) (slower _ _ (.cons first rest) later)
            · exact merged_front L (fun _ _ => .cons here) (faster _ _ (.cons first rest) later)
        · split
          · exact L.pure ⟨.cons first (.cons here (List.rel_append later rest)),rfl⟩
          · split
            · exact merged_front L (fun _ _ => .cons first) (slower' _ _ rest (.cons here later))
            · exact merged_front L (fun _ _ => .cons first) (faster' _ _ rest (.cons here later))
  case case2 =>
    intro side needed keptWins placeWins kept place empty kept' place' left right
    rw [itemwise.eq_def side goes,itemwise.eq_def side goes']
    cases left with
    | nil => exact L.pure ⟨right,rfl⟩
    | cons first rest => cases right with
      | nil => exact L.pure ⟨List.rel_append (.cons first rest) .nil,rfl⟩
      | cons here later => exact (empty _ _ _ _ rfl rfl).elim
  case case3 =>
    intro needed kept place ih kept' place' left right
    rw [gallop.eq_def _ goes,gallop.eq_def _ goes']
    exact ih _ _ left right
  case case4 =>
    intro needed kept place ih kept' place' left right
    rw [gallop.eq_def _ goes,gallop.eq_def _ goes']
    exact ih _ _ left right
  case case5 =>
    intro side second needed earlier place kept' place' left right
    rw [gallopPlace.eq_def _ goes,gallopPlace.eq_def _ goes']
    cases left
    exact L.pure ⟨right,rfl⟩
  case case6 =>
    intro side second needed earlier place k ks other again slow kept' place' left right
    rw [gallopPlace.eq_def _ goes,gallopPlace.eq_def _ goes']
    cases left with
    | cons first rest =>
      refine L.bind (lead_agree L (fun _ _ here => asked _ _ _ _ here first) right side) ?_
      intro wins _ same
      subst same
      have taken := List.forall₂_take wins right
      have left := List.forall₂_drop wins right
      simp only [Agree.isEmpty_eq left,rest.length_eq]
      split
      · exact L.pure ⟨List.rel_append right (.cons first rest),rfl⟩
      · split
        · exact L.pure ⟨List.rel_append (List.rel_append taken (.cons first left)) rest,rfl⟩
        · have front (rest : List α) (rest' : List β) (merged : Forall₂ R rest rest') :=
            List.rel_append taken (.cons first merged)
          split
          · exact merged_front L front (other _ _ _ rest left)
          · split
            · exact merged_front L front (again _ _ _ rest left)
            · exact merged_front L front (slow _ _ _ rest left)
  case case7 =>
    intro side second needed earlier kept kept' place' left right
    rw [gallopKept.eq_def _ goes,gallopKept.eq_def _ goes']
    cases right
    exact L.pure ⟨left,rfl⟩
  case case8 =>
    intro side second needed earlier kept p ps other again slow kept' place' left right
    rw [gallopKept.eq_def _ goes,gallopKept.eq_def _ goes']
    cases right with
    | cons here later =>
      refine L.bind (lead_agree L (fun _ _ first => asked_not L asked here first) left side) ?_
      intro wins _ same
      subst same
      have taken := List.forall₂_take wins left
      have rest := List.forall₂_drop wins left
      simp only [Agree.isEmpty_eq later,rest.length_eq]
      split
      · exact L.pure ⟨List.rel_append (List.rel_append taken (.cons here later)) rest,rfl⟩
      · split
        · exact L.pure ⟨List.rel_append taken (.cons here rest),rfl⟩
        · have front (rest : List α) (rest' : List β) (merged : Forall₂ R rest rest') :=
            List.rel_append taken (.cons here merged)
          split
          · exact merged_front L front (other _ _ _ rest later)
          · split
            · exact merged_front L front (again _ _ _ rest later)
            · exact merged_front L front (slow _ _ _ rest later)

theorem mergeFrom_agree (side : End) (needed : Nat) {kept place : List α} {kept' place' : List β}
    (left : Forall₂ R kept kept') (right : Forall₂ R place place') :
    L.rel (Merged R) (mergeFrom side goes needed kept place) (mergeFrom side goes' needed kept' place') := by
  cases right with
  | nil => exact L.pure ⟨left,rfl⟩
  | cons here later =>
    unfold mergeFrom
    simp only [Agree.isEmpty_eq later,left.length_eq]
    split
    · exact L.pure ⟨List.rel_append (.cons here later) left,rfl⟩
    · exact merged_front L (fun _ _ => .cons here) ((merging_agree L asked).1 _ _ _ _ _ _ _ _ left later)

theorem merge_agree (needed : Nat) {left right : List α} {left' right' : List β} (first : Forall₂ R left left')
    (second : Forall₂ R right right') :
    L.rel (Merged R) (merge goes needed left right) (merge goes' needed left' right') := by
  cases second with
  | nil => exact L.pure ⟨first,rfl⟩
  | cons here later =>
    have right := List.Forall₂.cons here later
    unfold merge
    refine L.bind (lead_agree L (fun _ _ item => asked_not L asked here item) first .front) ?_
    intro settled _ same
    subst same
    have moving := List.forall₂_drop settled first
    have last := Agree.getLast? moving
    dsimp only
    generalize (left.drop settled).getLast? = ending, (left'.drop settled).getLast? = ending' at last ⊢
    cases last with
    | none => exact L.pure ⟨List.rel_append first right,rfl⟩
    | some ends =>
      refine L.bind (lead_agree L (fun _ _ item => asked_not L asked item ends) (List.rel_reverse right) .back) ?_
      intro above _ same
      subst same
      simp only [right.length_eq]
      generalize List.length _ - above = count
      have coming := List.forall₂_take count right
      have after := List.forall₂_drop count right
      have front (rest : List _) (rest' : List _) (merged : Forall₂ R rest rest') :=
        List.rel_append (List.rel_append (List.forall₂_take settled first) merged) after
      simp only [Agree.isEmpty_eq coming,moving.length_eq,coming.length_eq]
      split
      · exact L.pure ⟨List.rel_append first right,rfl⟩
      · split
        · exact merged_front L front (mergeFrom_agree L asked .front needed moving coming)
        · have swapped (a b : α) (a' b' : β) (one : R a a') (two : R b b') :
              L.rel (· = ·) (goes b a) (goes' b' a') := asked _ _ _ _ two one
          refine L.bind
            (mergeFrom_agree L swapped .back needed (List.rel_reverse coming) (List.rel_reverse moving)) ?_
          rintro merged merged' ⟨both,same⟩
          have turned : Merged R (merged.1.reverse,merged.2) (merged'.1.reverse,merged'.2) :=
            ⟨List.rel_reverse both,same⟩
          refine L.bind (L.pure turned) ?_
          rintro ⟨merged,wins⟩ ⟨merged',wins'⟩ ⟨both,same⟩
          exact L.pure ⟨front _ _ both,same⟩

abbrev PendingRuns (R : α → β → Prop) : Pending α → Pending β → Prop := Forall₂ (Forall₂ R)

omit [Monad m] [Monad n] L asked in
theorem isBalanced_eq {pending : Pending α} {pending' : Pending β} (runs : PendingRuns R pending pending') :
    isBalanced pending = isBalanced pending' := by
  rcases runs with _ | ⟨first,_ | ⟨second,_ | ⟨third,_⟩⟩⟩ <;> try rfl
  rw [isBalanced,isBalanced,first.length_eq,second.length_eq,third.length_eq]

theorem collapse_agree (needed : Nat) (pending : Pending α) : ∀ pending' : Pending β, PendingRuns R pending pending' →
    L.rel (fun left right => PendingRuns R left.1 right.1 ∧ left.2 = right.2)
      (collapse goes needed pending) (collapse goes' needed pending') := by
  induction needed,pending using collapse.induct with
  | case1 needed last before earlier rest shorter uneven ih =>
    rintro _ (_ | ⟨first,_ | ⟨second,_ | ⟨third,others⟩⟩⟩)
    have balance := isBalanced_eq (.cons first (.cons second (.cons third others)))
    have balance' := isBalanced_eq (.cons second (.cons third others))
    rw [collapse.eq_def goes,collapse.eq_def goes']
    simp only [← balance,← balance',uneven,if_true]
    rw [if_pos shorter,if_pos (third.length_eq ▸ first.length_eq ▸ shorter)]
    refine L.bind (merge_agree L asked needed third second) ?_
    rintro ⟨merged,wins⟩ ⟨merged',_⟩ ⟨both,rfl⟩
    exact ih merged wins _ (.cons first (.cons both others))
  | case2 needed last before earlier rest longer uneven ih =>
    rintro _ (_ | ⟨first,_ | ⟨second,_ | ⟨third,others⟩⟩⟩)
    have balance := isBalanced_eq (.cons first (.cons second (.cons third others)))
    have balance' := isBalanced_eq (.cons second (.cons third others))
    rw [collapse.eq_def goes,collapse.eq_def goes']
    simp only [← balance,← balance',uneven,if_true]
    rw [if_neg longer,if_neg (third.length_eq ▸ first.length_eq ▸ longer)]
    refine L.bind (merge_agree L asked needed second first) ?_
    rintro ⟨merged,wins⟩ ⟨merged',_⟩ ⟨both,rfl⟩
    exact ih merged wins _ (.cons both (.cons third others))
  | case3 needed last before uneven =>
    rintro _ (_ | ⟨first,_ | ⟨second,_ | _⟩⟩)
    have balance := isBalanced_eq (.cons first (.cons second .nil))
    have balance' := isBalanced_eq (.cons second .nil)
    rw [collapse.eq_def goes,collapse.eq_def goes']
    simp only [← balance,← balance',uneven,if_true]
    exact L.pure ⟨.cons first (.cons second .nil),rfl⟩
  | case4 needed last before rest fits even ih =>
    rintro _ (_ | ⟨first,_ | ⟨second,others⟩⟩)
    have balance := isBalanced_eq (.cons first (.cons second others))
    have balance' := isBalanced_eq (.cons second others)
    rw [collapse.eq_def goes,collapse.eq_def goes']
    simp only [← balance,← balance',even,Bool.false_eq_true,if_false]
    rw [if_pos fits,if_pos (second.length_eq ▸ first.length_eq ▸ fits)]
    refine L.bind (merge_agree L asked needed second first) ?_
    rintro ⟨merged,wins⟩ ⟨merged',_⟩ ⟨both,rfl⟩
    exact ih merged wins _ (.cons both others)
  | case5 needed last before rest large even =>
    rintro _ (_ | ⟨first,_ | ⟨second,others⟩⟩)
    have balance := isBalanced_eq (.cons first (.cons second others))
    have balance' := isBalanced_eq (.cons second others)
    rw [collapse.eq_def goes,collapse.eq_def goes']
    simp only [← balance,← balance',even,Bool.false_eq_true,if_false]
    rw [if_neg large,if_neg (second.length_eq ▸ first.length_eq ▸ large)]
    exact L.pure ⟨.cons first (.cons second others),rfl⟩
  | case6 needed pending few =>
    rintro _ (_ | ⟨first,_ | ⟨second,others⟩⟩)
    · rw [collapse.eq_def goes,collapse.eq_def goes']
      exact L.pure ⟨.nil,rfl⟩
    · rw [collapse.eq_def goes,collapse.eq_def goes']
      exact L.pure ⟨.cons first .nil,rfl⟩
    · exact (few _ _ _ rfl).elim

theorem finish_agree (needed : Nat) (pending : Pending α) : ∀ pending' : Pending β, PendingRuns R pending pending' →
    L.rel (Forall₂ R) (finish goes needed pending) (finish goes' needed pending') := by
  induction needed,pending using finish.induct with
  | case1 needed =>
    rintro _ (_ | _)
    rw [finish.eq_def goes,finish.eq_def goes']
    exact L.pure .nil
  | case2 needed run =>
    rintro _ (_ | ⟨first,_ | _⟩)
    rw [finish.eq_def goes,finish.eq_def goes']
    exact L.pure first
  | case3 needed last before earlier rest shorter ih =>
    rintro _ (_ | ⟨first,_ | ⟨second,_ | ⟨third,others⟩⟩⟩)
    rw [finish.eq_def goes,finish.eq_def goes']
    dsimp only
    rw [if_pos shorter,if_pos (third.length_eq ▸ first.length_eq ▸ shorter)]
    refine L.bind (merge_agree L asked needed third second) ?_
    rintro ⟨merged,wins⟩ ⟨merged',_⟩ ⟨both,rfl⟩
    exact ih merged wins _ (.cons first (.cons both others))
  | case4 needed last before earlier rest longer ih =>
    rintro _ (_ | ⟨first,_ | ⟨second,_ | ⟨third,others⟩⟩⟩)
    rw [finish.eq_def goes,finish.eq_def goes']
    dsimp only
    rw [if_neg longer,if_neg (third.length_eq ▸ first.length_eq ▸ longer)]
    refine L.bind (merge_agree L asked needed second first) ?_
    rintro ⟨merged,wins⟩ ⟨merged',_⟩ ⟨both,rfl⟩
    exact ih merged wins _ (.cons both (.cons third others))
  | case5 needed last before ih =>
    rintro _ (_ | ⟨first,_ | ⟨second,_ | _⟩⟩)
    rw [finish.eq_def goes,finish.eq_def goes']
    refine L.bind (merge_agree L asked needed second first) ?_
    rintro ⟨merged,wins⟩ ⟨merged',_⟩ ⟨both,rfl⟩
    exact ih merged wins _ (.cons both .nil)

theorem goingOn_agree (falling : Bool) {last : α} {last' : β} {items : List α} {items' : List β} (start : R last last')
    (related : Forall₂ R items items') :
    L.rel (· = ·) (goingOn goes falling last items) (goingOn goes' falling last' items') := by
  induction related generalizing last last' with
  | nil => exact L.pure rfl
  | cons here rest ih =>
    refine L.bind (asked _ _ _ _ here start) ?_
    intro won _ same
    subst same
    split
    · refine L.bind (ih here) ?_
      intro more _ same
      subst same
      exact L.pure rfl
    · exact L.pure rfl

theorem insert_agree {sorted : List α} {sorted' : List β} {item : α} {item' : β} (related : Forall₂ R sorted sorted')
    (here : R item item') : L.rel (Forall₂ R) (insert goes sorted item) (insert goes' sorted' item') := by
  unfold insert
  rw [related.length_eq]
  refine L.bind (narrow_agree L (fun _ _ other => asked_not L asked here other) related .front 0 _) ?_
  intro place _ same
  subst same
  exact L.pure (List.rel_append (List.forall₂_take place related) (.cons here (List.forall₂_drop place related)))

omit [Monad m] [Monad n] L asked in
theorem reversed_agree (falling : Bool) {items : List α} {items' : List β} (related : Forall₂ R items items') :
    Forall₂ R (if falling then items.reverse else items) (if falling then items'.reverse else items') := by
  split
  · exact List.rel_reverse related
  · exact related

theorem startingRun_agree (least : Nat) {items : List α} {items' : List β} (related : Forall₂ R items items') :
    L.rel (Merged R) (startingRun goes least items) (startingRun goes' least items') := by
  rcases related with _ | ⟨first,_ | ⟨second,rest⟩⟩
  · exact L.pure ⟨.nil,rfl⟩
  · exact L.pure ⟨.cons first .nil,rfl⟩
  · have items := List.Forall₂.cons first (.cons second rest)
    refine L.bind (asked _ _ _ _ second first) ?_
    intro falling _ same
    subst same
    refine L.bind (goingOn_agree L asked falling second rest) ?_
    intro more _ same
    subst same
    have run := List.forall₂_take (more + 2) items
    simp only [items.length_eq]
    refine L.bind (L.foldlM (List.forall₂_take _ (List.forall₂_drop _ items)) (reversed_agree falling run)
      fun _ _ _ _ sorted here => insert_agree L asked sorted here) ?_
    intro sorted sorted' both
    exact L.pure ⟨both,rfl⟩

theorem sortFrom_agree (least needed : Nat) (pending : Pending α) (items : List α) :
    ∀ (pending' : Pending β) (items' : List β), PendingRuns R pending pending' → Forall₂ R items items' →
      L.rel (Forall₂ R) (sortFrom goes least needed pending items)
        (sortFrom goes' least needed pending' items') := by
  induction needed,pending,items using sortFrom.induct with
  | case1 needed pending =>
    rintro pending' _ runs (_ | _)
    rw [sortFrom.eq_def goes,sortFrom.eq_def goes']
    exact finish_agree L asked needed pending pending' runs
  | case2 needed pending first rest ih =>
    rintro pending' _ runs (_ | ⟨here,later⟩)
    rw [sortFrom.eq_def goes,sortFrom.eq_def goes']
    refine L.bind (startingRun_agree L asked least (.cons here later)) ?_
    rintro ⟨run,length⟩ ⟨run',_⟩ ⟨both,rfl⟩
    refine L.bind (collapse_agree L asked needed (run :: pending) _ (.cons both runs)) ?_
    rintro ⟨left,wins⟩ ⟨right,_⟩ ⟨waiting,rfl⟩
    exact ih length left wins right _ waiting (List.forall₂_drop _ later)

theorem sort_agree {items : List α} {items' : List β} (related : Forall₂ R items items') :
    L.rel (Forall₂ R) (sort goes items) (sort goes' items') := by
  unfold sort
  rw [related.length_eq]
  exact sortFrom_agree L asked _ _ [] items [] items' .nil related

-- Sorting comes to an end where every question about its items is answered, and gives back only what it was given.
omit L asked in
theorem sort_answers {host : Host} {P : α → Prop} {goes : α → α → Ask Bool}
    (answered : ∀ a b, P a → P b → Ask.Answers host (fun _ => True) (goes a b)) {items : List α}
    (all : ∀ item ∈ items, P item) : Ask.Answers host (fun sorted => ∀ item ∈ sorted, P item) (sort goes items) := by
  have itself : Forall₂ (fun a b => a = b ∧ P a) items items := by
    rw [List.forall₂_same]
    exact fun item there => ⟨rfl,all item there⟩
  have asked (a b a' b' : α) (first : a = a' ∧ P a) (second : b = b' ∧ P b) :
      (Agree.answers host).rel (· = ·) (goes a b) (((goes a' b' host).toOption.getD false : Bool) : Id Bool) := by
    obtain ⟨rfl,there⟩ := first
    obtain ⟨rfl,there'⟩ := second
    obtain ⟨won,told,_⟩ := answered a b there there'
    exact ⟨won,told,by rw [told]; rfl⟩
  refine (sort_agree (Agree.answers host) asked itself).mono ?_
  intro sorted related
  exact Agree.forall_left related fun _ _ here => here.2

end Trifold.Runs
