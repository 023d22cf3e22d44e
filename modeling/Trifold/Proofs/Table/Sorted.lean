import Trifold.Proofs.Table.Merged

namespace Trifold.Runs

variable {α : Type} {less : α → α → Id Bool} {before : α → α → Prop}

-- Runs that wait: each is in order, and whatever is asked between one and those that came earlier is decided.
inductive Waiting (less : α → α → Id Bool) (before : α → α → Prop) : Pending α → Prop
  | nil : Waiting less before []
  | cons {run : List α} {rest : Pending α} (sorted : run.Pairwise before)
      (after : ∀ r ∈ run, ∀ l ∈ rest.flatten, Decides less before r l) (others : Waiting less before rest) :
      Waiting less before (run :: rest)

-- The same items wait, and still as they should.
def Keeps (less : α → α → Id Bool) (before : α → α → Prop) (pending pending' : Pending α) : Prop :=
  pending'.flatten.Perm pending.flatten ∧ (Waiting less before pending → Waiting less before pending')

namespace Keeps

variable {pending pending' pending'' rest rest' : Pending α} {earlier later joined : List α}

theorem refl (pending : Pending α) : Keeps less before pending pending := ⟨.refl _,id⟩

theorem trans (first : Keeps less before pending pending') (second : Keeps less before pending' pending'') :
    Keeps less before pending pending'' := ⟨second.1.trans first.1,second.2 ∘ first.2⟩

theorem joins (joined' : Joins less before earlier later joined) :
    Keeps less before (later :: earlier :: rest) (joined :: rest) := by
  obtain ⟨same,sorts⟩ := joined'
  refine ⟨?_,?_⟩
  · simp only [List.flatten_cons,← List.append_assoc]
    exact (same.trans List.perm_append_comm).append_right rest.flatten
  · intro waiting
    cases waiting with
    | cons right after others => cases others with
      | cons left after' others =>
        simp only [List.flatten_cons,List.forall_mem_append] at after
        refine .cons (sorts left right fun r there => (after r there).1) ?_ others
        intro m there l listed
        rcases List.mem_append.mp (same.mem_iff.mp there) with early | late
        · exact after' m early l listed
        · exact (after m late).2 l listed

theorem behind (run : List α) (keeps : Keeps less before rest rest') : Keeps less before (run :: rest) (run :: rest') := by
  obtain ⟨same,waits⟩ := keeps
  refine ⟨?_,?_⟩
  · exact same.append_left run
  · intro waiting
    cases waiting with
    | cons sorted after others =>
      exact .cons sorted (fun r there l listed => after r there l (same.mem_iff.mp listed)) (waits others)

end Keeps

section

variable [IsTrans α before]

theorem collapse_keeps (needed : Nat) (pending : Pending α) :
    Keeps less before pending (collapse less needed pending).1 := by
  induction needed,pending using collapse.induct with
  | case1 needed last middle earlier rest shorter uneven ih =>
    rw [collapse.eq_def]
    simp only [uneven,if_true,bind]
    rw [if_pos shorter]
    exact (Keeps.behind last (.joins (merge_joins needed earlier middle))).trans (ih _ _)
  | case2 needed last middle earlier rest longer uneven ih =>
    rw [collapse.eq_def]
    simp only [uneven,if_true,bind]
    rw [if_neg longer]
    exact (Keeps.joins (merge_joins needed middle last)).trans (ih _ _)
  | case3 needed last middle uneven =>
    rw [collapse.eq_def]
    simp only [uneven,if_true]
    exact .refl _
  | case4 needed last middle rest fits even ih =>
    rw [collapse.eq_def]
    simp only [even,Bool.false_eq_true,if_false,bind]
    rw [if_pos fits]
    exact (Keeps.joins (merge_joins needed middle last)).trans (ih _ _)
  | case5 needed last middle rest large even =>
    rw [collapse.eq_def]
    simp only [even,Bool.false_eq_true,if_false]
    rw [if_neg large]
    exact .refl _
  | case6 needed pending few =>
    rcases pending with _ | ⟨first,_ | ⟨second,others⟩⟩
    · rw [collapse.eq_def]
      exact .refl _
    · rw [collapse.eq_def]
      exact .refl _
    · exact (few _ _ _ rfl).elim

theorem finish_sorts (needed : Nat) (pending : Pending α) :
    let sorted := (finish less needed pending).run
    sorted.Perm pending.flatten ∧ (Waiting less before pending → sorted.Pairwise before) := by
  have onwards {pending pending' : Pending α} {sorted : List α} (keeps : Keeps less before pending pending')
      (sorts : sorted.Perm pending'.flatten ∧ (Waiting less before pending' → sorted.Pairwise before)) :
      sorted.Perm pending.flatten ∧ (Waiting less before pending → sorted.Pairwise before) :=
    ⟨sorts.1.trans keeps.1,sorts.2 ∘ keeps.2⟩
  induction needed,pending using finish.induct with
  | case1 needed =>
    rw [finish.eq_def]
    exact ⟨.refl _,fun _ => .nil⟩
  | case2 needed run =>
    rw [finish.eq_def]
    refine ⟨?_,?_⟩
    · rw [List.flatten_cons,List.flatten_nil,List.append_nil]
      exact .refl _
    · intro waiting
      cases waiting with
      | cons sorted => exact sorted
  | case3 needed last middle earlier rest shorter ih =>
    rw [finish.eq_def]
    simp only [bind]
    rw [if_pos shorter]
    exact onwards (Keeps.behind last (.joins (merge_joins needed earlier middle))) (ih _ _)
  | case4 needed last middle earlier rest longer ih =>
    rw [finish.eq_def]
    simp only [bind]
    rw [if_neg longer]
    exact onwards (Keeps.joins (merge_joins needed middle last)) (ih _ _)
  | case5 needed last middle ih =>
    rw [finish.eq_def]
    simp only [bind]
    exact onwards (Keeps.joins (merge_joins needed middle last)) (ih _ _)

-- Whether a later item of the list goes before an earlier one is decided.
def Decided (less : α → α → Id Bool) (before : α → α → Prop) (items : List α) : Prop :=
  items.Pairwise fun a b => Decides less before b a

omit [IsTrans α before] in
theorem follows {a b : α} {falling : Bool} (decides : Decides less before b a) (told : less b a = falling) :
    if falling then before b a else before a b := by
  cases falling with
  | false => exact decides.2 told
  | true => exact decides.1 told

omit [IsTrans α before] in
theorem goingOn_chain (falling : Bool) {last : α} {items : List α} (decided : Decided less before (last :: items)) :
    (last :: items.take (goingOn less falling last items)).IsChain fun a b => if falling then before b a else before a b := by
  induction items generalizing last with
  | nil => exact .singleton last
  | cons item rest ih =>
    obtain ⟨here,later⟩ := List.pairwise_cons.mp decided
    obtain ⟨answer,told⟩ : ∃ answer : Bool, less item last = answer := ⟨_,rfl⟩
    simp only [goingOn,bind,pure,told]
    by_cases same : answer = falling
    · rw [if_pos (beq_iff_eq.mpr same)]
      subst same
      exact .cons_cons (follows (here item List.mem_cons_self) told) (ih later)
    · rw [if_neg (mt beq_iff_eq.mp same)]
      exact .singleton last

theorem insert_sorts (sorted : List α) (item : α) : let inserted := (insert less sorted item).run
    inserted.Perm (sorted ++ [item]) ∧
      (sorted.Pairwise before → (∀ s ∈ sorted, Decides less before item s) → inserted.Pairwise before) := by
  obtain ⟨place,found⟩ : ∃ n : Nat,
      narrow (m := Id) .front (fun other => !(less item other)) sorted 0 sorted.length = n := ⟨_,rfl⟩
  have cut : Cut (fun other => !(less item other)) sorted place :=
    found ▸ narrow_cut .front (Nat.zero_le _) (Nat.le_refl _) (wonBefore_zero _ sorted) (lostFrom_length _ sorted)
  unfold insert
  simp only [bind,pure]
  rw [found]
  have whole := List.take_append_drop place sorted
  refine ⟨?_,?_⟩
  · calc (sorted.take place ++ item :: sorted.drop place).Perm (sorted.take place ++ (sorted.drop place ++ [item])) :=
          (List.perm_append_singleton item _).symm.append_left _
      _ = sorted ++ [item] := by rw [← List.append_assoc,whole]
  · intro ordered decides
    rw [← whole] at ordered decides
    obtain ⟨early,late,between⟩ := List.pairwise_append.mp ordered
    have first : ∀ s ∈ sorted.take place, before s item := by
      refine before_of_last early ?_
      intro last ended
      have listed := List.mem_append_left (sorted.drop place) (List.mem_of_getLast? ended)
      exact (decides last listed).2 ((Bool.not_eq_true' _).mp (cut.won last ended))
    have second : ∀ s ∈ sorted.drop place, before item s := by
      refine before_of_first late ?_
      intro s started
      have listed := List.mem_append_right (sorted.take place) (List.mem_of_head? started)
      exact (decides s listed).1 ((Bool.not_eq_false' _).mp (cut.lost s started))
    refine List.pairwise_append.mpr ⟨early,List.pairwise_cons.mpr ⟨second,late⟩,?_⟩
    intro s there
    exact List.forall_mem_cons.mpr ⟨first s there,between s there⟩

-- What comes of later items that are sorted in with those in order.
def Sorts (less : α → α → Id Bool) (before : α → α → Prop) (earlier items sorted : List α) : Prop :=
  sorted.Perm (earlier ++ items) ∧ (earlier.Pairwise before → Decided less before items →
    (∀ r ∈ items, ∀ l ∈ earlier, Decides less before r l) → sorted.Pairwise before)

theorem insertAll_sorts (earlier items : List α) :
    Sorts less before earlier items (items.foldlM (insert less) earlier : Id (List α)).run := by
  induction items generalizing earlier with
  | nil =>
    refine ⟨?_,fun sorted _ _ => sorted⟩
    rw [List.append_nil]
    exact .refl _
  | cons item rest ih =>
    obtain ⟨same,sorts⟩ := @insert_sorts _ less before _ earlier item
    obtain ⟨same',sorts'⟩ := ih (insert less earlier item).run
    rw [List.foldlM_cons]
    refine ⟨?_,?_⟩
    · calc List.Perm _ ((insert less earlier item).run ++ rest) := same'
        List.Perm _ (earlier ++ [item] ++ rest) := same.append_right rest
        _ = earlier ++ item :: rest := by rw [List.append_assoc,List.singleton_append]
    · intro ordered decided decides
      obtain ⟨here,later⟩ := List.forall_mem_cons.mp decides
      obtain ⟨ahead,decided⟩ := List.pairwise_cons.mp decided
      refine sorts' (sorts ordered here) decided ?_
      intro r there l listed
      rcases List.mem_append.mp (same.mem_iff.mp listed) with early | own
      · exact later r there l early
      · obtain rfl := List.mem_singleton.mp own
        exact ahead r there

-- A run that goes one way, turned round where it falls and filled up with what follows.
theorem filled_sorts (falling : Bool) (run extra : List α) :
    let filled := (extra.foldlM (insert less) (if falling then run.reverse else run) : Id (List α)).run
    filled.Perm (run ++ extra) ∧ (run.IsChain (fun a b => if falling then before b a else before a b) →
      Decided less before (run ++ extra) → filled.Pairwise before) := by
  have turned : (if falling then run.reverse else run).Perm run := by
    split
    · exact List.reverse_perm run
    · exact .refl run
  obtain ⟨same,sorts⟩ := @insertAll_sorts _ less before _ (if falling then run.reverse else run) extra
  refine ⟨same.trans (turned.append_right extra),?_⟩
  intro chain decided
  obtain ⟨-,after,between⟩ := List.pairwise_append.mp decided
  refine sorts ?_ after fun r there l listed => between l (turned.mem_iff.mp listed) r there
  cases falling with
  | false => exact List.isChain_iff_pairwise.mp chain
  | true =>
    have back : IsTrans α fun a b => before b a := ⟨fun _ _ _ first second => IsTrans.trans _ _ _ second first⟩
    exact List.pairwise_reverse.mpr (List.isChain_iff_pairwise.mp chain)

theorem startingRun_sorts (least : Nat) {items : List α} (some : items ≠ []) : let started := startingRun less least items
    started.1.Perm (items.take started.2) ∧ 1 ≤ started.2 ∧ (Decided less before items → started.1.Pairwise before) := by
  rcases items with _ | ⟨first,_ | ⟨second,rest⟩⟩
  · exact absurd rfl some
  · exact ⟨.refl _,Nat.le_refl _,fun _ => List.pairwise_singleton _ _⟩
  · obtain ⟨falling,told⟩ : ∃ answer : Bool, less second first = answer := ⟨_,rfl⟩
    obtain ⟨more,counted⟩ : ∃ n : Nat, goingOn less falling second rest = n := ⟨_,rfl⟩
    unfold startingRun
    simp only [bind,pure,told,counted]
    generalize reached : max (more + 2) (min least (first :: second :: rest).length) = length
    have enough : more + 2 ≤ length := reached ▸ Nat.le_max_left _ _
    have taken : (first :: second :: rest).take (more + 2) ++
        ((first :: second :: rest).drop (more + 2)).take (length - (more + 2)) = (first :: second :: rest).take length := by
      rw [← List.take_add,Nat.add_sub_cancel' enough]
    obtain ⟨same,sorts⟩ := @filled_sorts _ less before _ falling ((first :: second :: rest).take (more + 2))
      (((first :: second :: rest).drop (more + 2)).take (length - (more + 2)))
    rw [taken] at same sorts
    refine ⟨same,by omega,?_⟩
    intro decided
    refine sorts ?_ (decided.sublist (List.take_sublist _ _))
    obtain ⟨here,later⟩ := List.pairwise_cons.mp decided
    have chain := goingOn_chain falling later
    rw [counted] at chain
    exact .cons_cons (follows (here second List.mem_cons_self) told) chain

theorem sortFrom_sorts (least needed : Nat) (pending : Pending α) (items : List α) :
    let sorted := (sortFrom less least needed pending items).run
    sorted.Perm (pending.flatten ++ items) ∧ (Waiting less before pending → Decided less before items →
      (∀ r ∈ items, ∀ l ∈ pending.flatten, Decides less before r l) → sorted.Pairwise before) := by
  induction needed,pending,items using sortFrom.induct with
  | case1 needed pending =>
    obtain ⟨same,sorts⟩ := @finish_sorts _ less before _ needed pending
    rw [sortFrom.eq_def,List.append_nil]
    exact ⟨same,fun waiting _ _ => sorts waiting⟩
  | case2 needed pending first rest ih =>
    obtain ⟨taken,some,ordered⟩ := @startingRun_sorts _ less before _ least _ (List.cons_ne_nil first rest)
    rw [sortFrom.eq_def]
    simp only [bind]
    generalize startingRun less least (first :: rest) = started at taken some ordered ⊢
    obtain ⟨run,length⟩ := started
    dsimp only at taken some ordered ⊢
    obtain ⟨kept,waits⟩ := @collapse_keeps _ less before _ needed (run :: pending)
    obtain ⟨same,sorts⟩ := ih length (collapse less needed (run :: pending)).1 (collapse less needed (run :: pending)).2
    have left : rest.drop (length - 1) = (first :: rest).drop length := by
      obtain ⟨n,rfl⟩ : ∃ n, length = n + 1 := ⟨length - 1,by omega⟩
      rfl
    have whole := List.take_append_drop length (first :: rest)
    rw [left] at same sorts ⊢
    refine ⟨?_,?_⟩
    · calc List.Perm _ ((collapse less needed (run :: pending)).1.flatten ++ (first :: rest).drop length) := same
        List.Perm _ ((run ++ pending.flatten) ++ (first :: rest).drop length) := kept.append_right _
        List.Perm _ ((pending.flatten ++ (first :: rest).take length) ++ (first :: rest).drop length) :=
          (List.perm_append_comm.trans (taken.append_left _)).append_right _
        _ = pending.flatten ++ (first :: rest) := by rw [List.append_assoc,whole]
    · intro waiting decided decides
      have listed : ∀ r ∈ run, r ∈ first :: rest := fun r there => List.mem_of_mem_take (taken.mem_iff.mp there)
      have waiting' : Waiting less before (run :: pending) :=
        .cons (ordered decided) (fun r there => decides r (listed r there)) waiting
      have split := decided
      rw [← whole] at split
      obtain ⟨-,later,between⟩ := List.pairwise_append.mp split
      refine sorts (waits waiting') later ?_
      intro r there l there'
      rcases List.mem_append.mp (kept.mem_iff.mp there') with own | early
      · exact between l (taken.mem_iff.mp own) r there
      · exact decides r (List.mem_of_mem_drop there) l early

-- Sorting keeps every item, and puts them in order where every question is decided by it.
theorem sort_sorts (items : List α) : let sorted := (sort less items).run
    sorted.Perm items ∧ (Decided less before items → sorted.Pairwise before) := by
  obtain ⟨same,sorts⟩ := @sortFrom_sorts _ less before _ (leastRun items.length) gallopWins [] items
  exact ⟨same,fun decided => sorts .nil decided nofun⟩

end

theorem sort_perm (less : α → α → Id Bool) (items : List α) : (sort less items).run.Perm items := by
  have _ : IsTrans α fun _ _ => True := ⟨fun _ _ _ _ _ => trivial⟩
  exact (@sort_sorts α less (fun _ _ => True) _ items).1

end Trifold.Runs
