import Mathlib.Data.List.Nodup
import Trifold.Proofs.Fields
import Trifold.Value.Basic

namespace Trifold.Value

mutual
def Distinct : Value → Prop
  | list items => DistinctItems items
  | record _ fields => (Fields.keys fields).Nodup ∧ DistinctFields fields
  | heir base _ fields => Distinct base ∧ (Fields.keys fields).Nodup ∧ DistinctFields fields
  | _ => True
def DistinctItems : List Value → Prop
  | [] => True
  | item :: rest => Distinct item ∧ DistinctItems rest
def DistinctFields : List (String × Value) → Prop
  | [] => True
  | (_,value) :: rest => Distinct value ∧ DistinctFields rest
end

theorem distinctItems_iff {items : List Value} : DistinctItems items ↔ ∀ item ∈ items, Distinct item := by
  induction items with
  | nil => simp [DistinctItems]
  | cons item rest ih => rw [DistinctItems,List.forall_mem_cons,ih]

theorem distinctFields_iff {fields : Fields Value} : DistinctFields fields ↔ ∀ entry ∈ fields, Distinct entry.2 := by
  induction fields with
  | nil => simp [DistinctFields]
  | cons entry rest ih => rw [DistinctFields,List.forall_mem_cons,ih]

-- What holds values of its own.
def isHolder : Value → Bool
  | list _ | record .. | heir .. => true
  | _ => false

-- What holds of everything a value holds, and so of the value, holds of every value.
@[elab_as_elim]
theorem members {P : Value → Prop} (plain : ∀ value : Value, value.isHolder = false → P value)
    (list : ∀ items, (∀ item ∈ items, P item) → P (.list items))
    (record : ∀ bare fields, (∀ entry ∈ fields, P entry.2) → P (.record bare fields))
    (heir : ∀ base locked fields, P base → (∀ entry ∈ fields, P entry.2) → P (.heir base locked fields)) :
    (value : Value) → P value
  | .list items => list items fun item there => by
      have := List.sizeOf_lt_of_mem there
      exact members plain list record heir item
  | .record bare fields => record bare fields fun entry there => by
      have := List.sizeOf_lt_of_mem there
      have : sizeOf entry.2 < sizeOf entry := by cases entry; simp +arith
      exact members plain list record heir entry.2
  | .heir base locked fields =>
      heir base locked fields (members plain list record heir base) fun entry there => by
        have := List.sizeOf_lt_of_mem there
        have : sizeOf entry.2 < sizeOf entry := by cases entry; simp +arith
        exact members plain list record heir entry.2
  | .absent | .null | .bool _ | .number _ | .text _ | .bigint _ | .symbol .. | .function _ | .ancestor | .pattern ..
  | .date | .foreign => plain _ rfl
termination_by value => sizeOf value
decreasing_by all_goals simp only [Value.list.sizeOf_spec,Value.record.sizeOf_spec,Value.heir.sizeOf_spec]; omega

theorem toString_injective : Function.Injective (toString : Nat → String) := by
  intro m n written
  have digits : m.repr.toList = n.repr.toList := congrArg String.toList written
  rw [Nat.toList_repr,Nat.toList_repr] at digits
  rw [← Nat.ofDigitChars_ten_toDigits (n := m),digits,Nat.ofDigitChars_ten_toDigits]

theorem keys_positioned {α : Type} (f : α → Value) (items : List α) :
    Fields.keys (items.zipIdx.map fun (item,position) => (toString position,f item)) =
      (List.range' 0 items.length).map toString := by
  rw [← List.zipIdx_map_snd,List.map_map,Fields.keys,List.map_map]
  rfl

theorem nodup_positioned {α : Type} (f : α → Value) (items : List α) :
    (Fields.keys (items.zipIdx.map fun (item,position) => (toString position,f item))).Nodup := by
  rw [keys_positioned]
  exact (List.nodup_range' 1).map toString_injective

theorem distinct_own {value : Value} (distinct : Distinct value) :
    (Fields.keys (own value)).Nodup ∧ ∀ entry ∈ own value, Distinct entry.2 := by
  cases value with
  | record bare fields => exact ⟨distinct.1,distinctFields_iff.mp distinct.2⟩
  | heir base locked fields => exact ⟨distinct.2.1,distinctFields_iff.mp distinct.2.2⟩
  | list items =>
    refine ⟨nodup_positioned id items,?_⟩
    intro entry listed
    obtain ⟨⟨item,position⟩,there,rfl⟩ := List.mem_map.mp listed
    have held : item ∈ items := by
      rw [← List.zipIdx_map_fst 0 items]
      exact List.mem_map_of_mem there
    exact distinctItems_iff.mp distinct item held
  | text s =>
    refine ⟨nodup_positioned text (Text.unitTexts s),?_⟩
    intro entry listed
    obtain ⟨unit,_,rfl⟩ := List.mem_map.mp listed
    trivial
  | _ => exact ⟨List.nodup_nil,fun entry listed => nomatch listed⟩

end Trifold.Value
