import Mathlib.Logic.Relation
import Trifold.Proofs.Value.Spread

namespace Trifold.Value

variable {a b c owner : Value} {fields others before after : Fields Value} {key : String}

def withFields (fields : Fields Value) : Value → Value
  | record bare _ => record bare fields
  | heir base locked _ => heir base locked fields
  | value => value

-- One such change: names in another order, one more name that holds nothing, or a change in what is held.
inductive Rearranges : Value → Value → Prop
  | reordered (owner : Value) {fields others : Fields Value} (same : fields.Perm others) :
      Rearranges (owner.withFields fields) (owner.withFields others)
  | filled (owner : Value) (before after : Fields Value) {key : String} (fresh : key ∉ Fields.keys (before ++ after)) :
      Rearranges (owner.withFields (before ++ after)) (owner.withFields (before ++ (key,absent) :: after))
  | field (owner : Value) (before after : Fields Value) (key : String) {a b : Value} (inner : Rearranges a b) :
      Rearranges (owner.withFields (before ++ (key,a) :: after)) (owner.withFields (before ++ (key,b) :: after))
  | item (before after : List Value) {a b : Value} (inner : Rearranges a b) :
      Rearranges (list (before ++ a :: after)) (list (before ++ b :: after))

theorem distinct_withFields (same : Distinct (object fields) ↔ Distinct (object others)) :
    Distinct (owner.withFields fields) ↔ Distinct (owner.withFields others) := by
  cases owner with
  | record bare _ => exact same
  | heir base locked _ => exact and_congr_right' same
  | _ => exact Iff.rfl

theorem Rearranges.distinct (step : Rearranges a b) : Distinct a ↔ Distinct b := by
  induction step with
  | reordered owner same =>
    refine distinct_withFields ?_
    rw [distinct_object,distinct_object,Fields.keys,Fields.keys,(same.map _).nodup_iff]
    simp only [same.mem_iff]
  | @filled owner before after key fresh =>
    refine distinct_withFields ?_
    have once : (Fields.keys (before ++ (key,absent) :: after)).Nodup ↔ (Fields.keys (before ++ after)).Nodup := by
      have joined : Fields.keys before ++ Fields.keys after = Fields.keys (before ++ after) := List.map_append.symm
      rw [Fields.keys_append_cons,List.nodup_middle,List.nodup_cons,joined]
      exact and_iff_right fresh
    simp only [distinct_object,once,List.forall_mem_append,List.forall_mem_cons,Distinct,true_and]
  | field owner before after key inner ih =>
    refine distinct_withFields ?_
    simp only [distinct_object,Fields.keys_append_cons,List.forall_mem_append,List.forall_mem_cons,ih]
  | item before after inner ih =>
    simp only [Distinct,distinctItems_iff,List.forall_mem_append,List.forall_mem_cons,ih]

theorem same_withFields (left : Distinct (owner.withFields fields)) (right : Distinct (owner.withFields others))
    (alike : Distinct (object fields) → Distinct (object others) → same (object fields) (object others) = true) :
    same (owner.withFields fields) (owner.withFields others) = true := by
  cases owner with
  | record bare _ =>
    exact same_record.mpr ⟨rfl,(same_record.mp (alike left right)).2⟩
  | heir base locked _ =>
    exact same_iff.mpr (.heir locked locked (same_refl left.1) (same_record.mp (alike left.2 right.2)).2)
  | _ => exact same_refl left

theorem present?_same (equal : same a b = true) : Option.Rel (fun x y => same x y = true) (present? a) (present? b) := by
  have whole := same_iff.mp equal
  cases whole <;> first | exact .none | exact .some equal

theorem held_append (key name : String) (value : Value) (before after : Fields Value) :
    held key (before ++ (name,value) :: after) =
      ((Fields.get? key before).or (if name = key then some value else Fields.get? key after)).bind present? := by
  rw [held,Fields.get?_append,Fields.get?_cons]

theorem held_same (distinct : Distinct (object fields)) (key : String) :
    Option.Rel (fun x y => same x y = true) (held key fields) (held key fields) :=
  (same_object distinct distinct).mp (same_refl distinct) key

theorem Rearranges.same (step : Rearranges a b) (left : Distinct a) : same a b = true := by
  have right := step.distinct.mp left
  induction step with
  | reordered owner order =>
    refine same_withFields left right fun distinct distinct' => same_of_held distinct distinct' ?_
    intro key
    rw [held,held,Fields.get?_perm order (distinct_object.mp distinct).1]
  | @filled owner before after name fresh =>
    refine same_withFields left right fun distinct distinct' => same_of_held distinct distinct' ?_
    intro key
    rw [held_append,held,Fields.get?_append]
    by_cases here : name = key
    · subst here
      have none : Fields.get? name (before ++ after) = none := Fields.get?_eq_none.mpr fresh
      rw [Fields.get?_append,Option.or_eq_none_iff] at none
      rw [if_pos rfl,none.1,none.2]
      rfl
    · rw [if_neg here]
  | @field owner before after name a b inner ih =>
    refine same_withFields left right fun distinct distinct' => (same_object distinct distinct').mpr ?_
    intro key
    have changed : Value.same a b = true := ih ((distinct_object.mp distinct).2 (name,a) (by simp))
      ((distinct_object.mp distinct').2 (name,b) (by simp))
    have kept := held_same distinct key
    rw [held_append] at kept
    rw [held_append,held_append]
    cases found : Fields.get? key before with
    | some value =>
      rw [found] at kept
      exact kept
    | none =>
      by_cases here : name = key
      · rw [if_pos here,if_pos here]
        exact present?_same changed
      · rw [found,if_neg here] at kept
        rw [if_neg here,if_neg here]
        exact kept
  | @item before after a b inner ih =>
    obtain ⟨early,here,late⟩ : (∀ x ∈ before, Distinct x) ∧ Distinct a ∧ ∀ x ∈ after, Distinct x := by
      simpa [Distinct,distinctItems_iff,or_imp,forall_and] using left
    have kept {items : List Value} (distinct : ∀ x ∈ items, Distinct x) :
        List.Forall₂ (fun x y => Value.same x y = true) items items :=
      List.forall₂_same.mpr fun x there => same_refl (distinct x there)
    exact same_list.mpr (List.rel_append (kept early) (.cons (ih here (inner.distinct.mp here)) (kept late)))

theorem rearranged_same (changed : Relation.EqvGen Rearranges a b) :
    (Distinct a ↔ Distinct b) ∧ (Distinct a → same a b = true) := by
  induction changed with
  | rel a b step => exact ⟨step.distinct,step.same⟩
  | refl a => exact ⟨Iff.rfl,same_refl⟩
  | symm a b _ ih => exact ⟨ih.1.symm,fun distinct => same_symm (ih.1.mpr distinct) distinct (ih.2 (ih.1.mpr distinct))⟩
  | trans a b c _ _ ih ih' => exact ⟨ih.1.trans ih'.1,fun distinct => same_trans (ih.2 distinct) (ih'.2 (ih.1.mp distinct))⟩

theorem same_own (plain : a.isPlain = true) (equal : same a b = true) : same (object (own a)) (object (own b)) = true := by
  rw [same_iff] at equal
  cases equal with
  | record bare fieldwise => exact same_record.mpr ⟨rfl,fieldwise⟩
  | ancestor => exact same_record.mpr ⟨rfl,rfl,nofun⟩
  | ancestorRecord empty => exact same_record.mpr ⟨rfl,empty.symm,nofun⟩
  | recordAncestor empty =>
    refine same_record.mpr ⟨rfl,empty,?_⟩
    intro entry listed there
    rw [length_defined_eq_zero.mp empty entry listed] at there
    cases there
  | _ => cases plain

-- Equality as the rest relies on it. Each value equals itself, either side may come first, and equality passes on; what is
-- rearranged at any depth equals the same things as before; and equal fields written over equal ones make equal records.
theorem same_lawful :
    Equivalence (fun a b : { value : Value // Distinct value } => same a b = true) ∧
    (∀ a b, Distinct a → Relation.EqvGen Rearranges a b → ∀ c, same a c = same b c ∧ same c a = same c b) ∧
    ∀ a a' b b', Distinct a → Distinct a' → Distinct b → Distinct b' → a.isPlain = true → b.isPlain = true →
      same a a' = true → same b b' = true → (∀ key, hasOwn key b = hasOwn key b') →
        same (object (spread (own a) (own b))) (object (spread (own a') (own b'))) = true := by
  refine ⟨⟨?_,?_,?_⟩,?_,?_⟩
  · exact fun a => same_refl a.2
  · exact fun {a b} equal => same_symm a.2 b.2 equal
  · exact fun first second => same_trans first second
  · intro a b distinct changed c
    obtain ⟨kept,equal⟩ := rearranged_same changed
    have forth := equal distinct
    have back := same_symm distinct (kept.mp distinct) forth
    refine ⟨?_,?_⟩ <;> rw [Bool.eq_iff_iff]
    · exact ⟨same_trans back,same_trans forth⟩
    · exact ⟨fun equal => same_trans equal forth,fun equal => same_trans equal back⟩
  · intro a a' b b' left left' top top' plain plain' equal equal' names
    exact same_spread_both (distinct_object_own left) (distinct_object_own left') (distinct_object_own top)
      (distinct_object_own top') names (same_own plain equal) (same_own plain' equal')

-- A record in another order, with a name that holds nothing in the record it holds, and one that takes a field away.
def lamp : Value := object [("on",bool true), ("shade",object [("hue",text "red"), ("size",number Number.nan)])]

def lampAgain : Value :=
  object [("shade",object [("size",number Number.nan), ("note",absent), ("hue",text "red")]), ("on",bool true)]

def unlit : Value := object [("on",absent), ("note",null)]

theorem same_lawful_lamp : Distinct lamp ∧ Distinct lampAgain ∧ Distinct unlit ∧
    Relation.EqvGen Rearranges lamp lampAgain ∧ same lamp lampAgain = true ∧
    same (object (spread (own lamp) (own unlit))) (object (spread (own lampAgain) (own unlit))) = true := by
  have distinct : Distinct lamp := by simp [lamp,object,Distinct,DistinctFields,Fields.keys]
  have distinct' : Distinct lampAgain := by simp [lampAgain,object,Distinct,DistinctFields,Fields.keys]
  have top : Distinct unlit := by simp [unlit,object,Distinct,DistinctFields,Fields.keys]
  have filled := @Rearranges.filled (object []) [("size",number Number.nan)] [("hue",text "red")] "note" (by decide)
  have turned := Rearranges.reordered (object []) (List.Perm.swap ("size",number Number.nan) ("hue",text "red") [])
  have swapped := Rearranges.reordered (object [])
    (List.Perm.swap ("shade",object [("hue",text "red"), ("size",number Number.nan)]) ("on",bool true) [])
  have changed : Relation.EqvGen Rearranges lamp lampAgain :=
    .trans _ _ _ (.rel _ _ swapped)
      (.trans _ _ _ (.rel _ _ (.field (object []) [] [("on",bool true)] "shade" turned))
        (.rel _ _ (.field (object []) [] [("on",bool true)] "shade" filled)))
  obtain ⟨lawful,unseen,spreads⟩ := same_lawful
  have equal : same lamp lampAgain = true := (unseen lamp lampAgain distinct changed lampAgain).1.trans (lawful.refl ⟨_,distinct'⟩)
  exact ⟨distinct,distinct',top,changed,equal,
    spreads _ _ _ _ distinct distinct' top top rfl rfl equal (lawful.refl ⟨_,top⟩) fun _ => rfl⟩

end Trifold.Value
