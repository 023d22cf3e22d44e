import Trifold.Proofs.Value.Same

namespace Trifold.Value

theorem distinct_object {fields : Fields Value} :
    Distinct (object fields) ↔ (Fields.keys fields).Nodup ∧ ∀ entry ∈ fields, Distinct entry.2 :=
  and_congr_right' distinctFields_iff

theorem distinct_object_own {value : Value} (distinct : Distinct value) : Distinct (object (own value)) :=
  distinct_object.mpr (distinct_own distinct)

theorem distinct_spread {base overlay : Fields Value} (under : Distinct (object base))
    (top : Distinct (object overlay)) : Distinct (object (spread base overlay)) := by
  obtain ⟨once,each⟩ := distinct_object.mp under
  obtain ⟨_,each'⟩ := distinct_object.mp top
  refine distinct_object.mpr ⟨Fields.nodup_putAll once overlay,?_⟩
  intro entry listed
  exact (Fields.mem_putAll listed).elim (each entry) (each' entry)

theorem distinct_put {fields : Fields Value} {value : Value} (key : String) (distinct : Distinct (object fields))
    (distinct' : Distinct value) : Distinct (object (Fields.put key value fields)) := by
  have single : Distinct (object [(key,value)]) :=
    distinct_object.mpr ⟨List.nodup_singleton key,List.forall_mem_singleton.mpr distinct'⟩
  exact distinct_spread distinct single

theorem distinct_remove {fields : Fields Value} (key : String) (distinct : Distinct (object fields)) :
    Distinct (object (Fields.remove key fields)) := by
  obtain ⟨once,each⟩ := distinct_object.mp distinct
  exact distinct_object.mpr ⟨Fields.nodup_remove once,fun entry there => each entry (List.mem_filter.mp there).1⟩

theorem held_spread (key : String) {overlay : Fields Value} (once : (Fields.keys overlay).Nodup)
    (base : Fields Value) :
    held key (spread base overlay) = ((Fields.get? key overlay).or (Fields.get? key base)).bind present? := by
  rw [held,spread,Fields.get?_putAll key once]

theorem distinct_of_held {key : String} {value : Value} {fields : Fields Value} (distinct : Distinct (object fields))
    (there : held key fields = some value) : Distinct value :=
  (distinct_object.mp distinct).2 (key,value) (mem_of_held there)

theorem same_object {fields others : Fields Value} (distinct : Distinct (object fields))
    (distinct' : Distinct (object others)) :
    same (object fields) (object others) = true ↔
      ∀ key, Option.Rel (fun x y => same x y = true) (held key fields) (held key others) := by
  rw [object,object,same_record,← sameFields_iff (distinct_object.mp distinct).1 (distinct_object.mp distinct').1]
  simp

theorem same_of_held {fields others : Fields Value} (distinct : Distinct (object fields))
    (distinct' : Distinct (object others)) (alike : ∀ key, held key fields = held key others) :
    same (object fields) (object others) = true := by
  refine (same_object distinct distinct').mpr ?_
  intro key
  rw [← alike key]
  cases there : held key fields with
  | none => exact .none
  | some value => exact .some (same_refl (distinct_of_held distinct there))

-- What is written over equal fields may itself be equal only, where it lists the same names. A name it lists with nothing
-- under it takes away what was there.
theorem same_spread_both {base other overlay overlay' : Fields Value} (left : Distinct (object base))
    (right : Distinct (object other)) (top : Distinct (object overlay)) (top' : Distinct (object overlay'))
    (names : ∀ key, Fields.has key overlay = Fields.has key overlay') (equal : same (object base) (object other) = true)
    (equal' : same (object overlay) (object overlay') = true) :
    same (object (spread base overlay)) (object (spread other overlay')) = true := by
  refine (same_object (distinct_spread left top) (distinct_spread right top')).mpr ?_
  intro key
  rw [held_spread key (distinct_object.mp top).1,held_spread key (distinct_object.mp top').1]
  have above := (same_object top top').mp equal' key
  have listed := names key
  rw [held,held] at above
  rw [Fields.has,Fields.has] at listed
  cases found : Fields.get? key overlay with
  | none =>
    cases found' : Fields.get? key overlay' with
    | none => exact (same_object left right).mp equal key
    | some value => simp [found,found'] at listed
  | some value =>
    cases found' : Fields.get? key overlay' with
    | none => simp [found,found'] at listed
    | some value' =>
      rw [found,found'] at above
      exact above

theorem same_spread {base other overlay : Fields Value} (left : Distinct (object base))
    (right : Distinct (object other)) (top : Distinct (object overlay))
    (equal : same (object base) (object other) = true) :
    same (object (spread base overlay)) (object (spread other overlay)) = true :=
  same_spread_both left right top top (fun _ => rfl) equal (same_refl top)

theorem same_spread_again {base overlay : Fields Value} (under : Distinct (object base))
    (top : Distinct (object overlay)) :
    same (object (spread (spread base overlay) overlay)) (object (spread base overlay)) = true := by
  have once := (distinct_object.mp top).1
  have merged := distinct_spread under top
  refine same_of_held (distinct_spread merged top) merged ?_
  intro key
  rw [held_spread key once,held_spread key once,spread,Fields.get?_putAll key once]
  cases Fields.get? key overlay <;> rfl

theorem same_spread_empty {overlay : Fields Value} (top : Distinct (object overlay)) :
    same (object overlay) (object (spread [] overlay)) = true := by
  have empty : Distinct (object []) := distinct_object.mpr ⟨List.nodup_nil,fun entry listed => nomatch listed⟩
  refine same_of_held top (distinct_spread empty top) ?_
  intro key
  rw [held_spread key (distinct_object.mp top).1,Fields.get?_nil,Option.or_none]
  rfl

theorem same_spread_own {overlay : Fields Value} (top : Distinct (object overlay)) :
    same (object (spread overlay overlay)) (object overlay) = true := by
  refine same_of_held (distinct_spread top top) top ?_
  intro key
  rw [held_spread key (distinct_object.mp top).1,Option.or_self]
  rfl

end Trifold.Value
